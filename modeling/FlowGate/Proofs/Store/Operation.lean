import FlowGate.Store

/-!
# Operations on a store

`Operation` is what can be asked of a store, and `run` is the store after some operations on a fresh
one, where an operation that cannot be carried out is followed by the next. Each operation that
checks something has the identifiers and times of its results with it, so that what it finds does
not depend on the store: `Operation.flowResult?`, `domainResult?` and `systemResult?` read it off
the operation. The lemmas on the checks say what each of them leaves behind, as a pair of its answer
and the store.
-/

namespace FlowGate.Store

inductive Operation where
  | checkFlow (marks : Marks) (f : Flow)
  | checkDomain (marks : Marks) (id : String) (domains : Table Domain)
  | checkSystem (marks : Marks) (domains : Table Domain)
  | checkAll (marks : Scope → Marks) (f : Option Flow) (id : Option String)
    (domains : Table Domain)
  | reset
  | flowResult (key : String)
  | domainResult (id : String)
  | systemResult
  | nodeIssues (key node : String)
  | gate (flowId domainId : String)

inductive Answer where
  | done
  | result (v : Option Verdict)
  | issues (found : List Notice)
  | gate (g : Gate)

/-- A step that only looks at the store. -/
def Action.ask {α : Type} (f : Store → α) : Action α := fun s => (.ok (f s), s)

namespace Operation

def perform : Operation → Action Answer
  | checkFlow marks f => do return .result (some (← Store.checkFlow marks f))
  | checkDomain marks id domains => do return .result (← Store.checkDomain marks id domains)
  | checkSystem marks domains => do return .result (some (← Store.checkSystem marks domains))
  | checkAll marks f id domains => do
    Store.checkAll marks f id domains
    return .done
  | reset => do
    .update fun _ => Store.empty
    return .done
  | flowResult key => .ask fun s => .result (s.flows.get? key)
  | domainResult id => .ask fun s => .result (s.domains.get? id)
  | systemResult => .ask fun s => .result s.system
  | nodeIssues key node => .ask fun s => .issues (s.nodeIssues key node)
  | gate flowId domainId => .ask fun s => .gate (s.gate flowId domainId)

def isReset : Operation → Bool
  | reset => true
  | _ => false

def isRead : Operation → Bool
  | flowResult _ | domainResult _ | systemResult | nodeIssues _ _ | gate _ _ => true
  | _ => false

/-- The result that an operation finds for the flows with a key. -/
def flowResult? (key : String) : Operation → Option Verdict
  | checkFlow marks f => if f.key = key then f.check.toOption.map (·.made marks) else none
  | checkAll marks (some f) _ _ =>
    if f.key = key then f.check.toOption.map (·.made (marks .flow)) else none
  | _ => none

/-- The result of checking a domain, if it is registered and can be checked. -/
def checked? (id : String) (domains : Table Domain) : Option Result :=
  (domains.get? id).bind fun d => (d.check id).toOption

theorem checked?_none {id : String} {domains : Table Domain} (h : domains.get? id = none) :
    checked? id domains = none := by
  rw [checked?, h]
  rfl

theorem checked?_some {id : String} {domains : Table Domain} {d : Domain}
    (h : domains.get? id = some d) : checked? id domains = (d.check id).toOption := by
  rw [checked?, h]
  rfl

/-- Whether no fault stops the check of a flow, if there is one. -/
def flowPasses (f : Option Flow) : Bool := f.all fun f => f.check.isOk

/-- Whether no fault stops the check of a domain, if one is named and registered. -/
def domainPasses (id : Option String) (domains : Table Domain) : Bool :=
  id.all fun id => id = "" || (domains.get? id).all fun d => (d.check id).isOk

def domainResult? (id : String) : Operation → Option Verdict
  | checkDomain marks id' domains =>
    if id' = id then (checked? id domains).map (·.made marks) else none
  | checkAll marks f (some id') domains =>
    if flowPasses f ∧ id' ≠ "" ∧ id' = id then (checked? id domains).map (·.made (marks .domain))
    else none
  | _ => none

theorem domainResult?_eq_none {marks : Marks} {id : String} {domains : Table Domain}
    (h : checked? id domains = none) (id' : String) :
    (checkDomain marks id domains).domainResult? id' = none := by
  rw [domainResult?]
  split
  · next hid =>
    subst hid
    rw [h]
    rfl
  · rfl

def systemResult? : Operation → Option Verdict
  | checkSystem marks domains => some ((Events.check domains).made marks)
  | checkAll marks f id domains =>
    if flowPasses f ∧ domainPasses id domains then
      some ((Events.check domains).made (marks .system))
    else none
  | _ => none

/-- What is left of an operation that cannot be carried out: the check of a flow that came before
another check. -/
def rest : Operation → List Operation
  | checkAll marks (some f) _ _ => if f.check.isOk then [checkFlow (marks .flow) f] else []
  | _ => []

theorem rest_of_check {marks : Scope → Marks} {f : Flow} {r : Result} (h : f.check = .ok r)
    (id : Option String) (domains : Table Domain) :
    (checkAll marks (some f) id domains).rest = [checkFlow (marks .flow) f] := by
  rw [rest, h]
  rfl

theorem rest_of_check_error {marks : Scope → Marks} {f : Flow} {e : CheckFault}
    (h : f.check = .error e) (id : Option String) (domains : Table Domain) :
    (checkAll marks (some f) id domains).rest = [] := by
  rw [rest, h]
  rfl

end Operation

namespace Action

variable {α β : Type} {x : Action α} {f : α → Action β} {g : α → β} {a : α} {e : CheckFault}
  {s s' : Store}

theorem bind_ok (h : x s = (.ok a, s')) : (x >>= f) s = f a s' := by
  show Action.bind x f s = _
  unfold Action.bind
  rw [h]

theorem bind_error (h : x s = (.error e, s')) : (x >>= f) s = (.error e, s') := by
  show Action.bind x f s = _
  unfold Action.bind
  rw [h]

theorem store_bind_pure : ((x >>= fun a => pure (g a)) s).2 = (x s).2 := by
  cases hx : x s with
  | mk r s' =>
    cases r with
    | ok a => rw [bind_ok hx]; rfl
    | error e => rw [bind_error hx]

theorem bind_pure_eq_error : ((x >>= fun a => pure (g a)) s).1 = .error e ↔ (x s).1 = .error e := by
  cases hx : x s with
  | mk r s' =>
    cases r with
    | ok a =>
      rw [bind_ok hx]
      exact ⟨nofun, nofun⟩
    | error e' =>
      rw [bind_error hx]
      simp only [Except.error.injEq]

/-! What steps give whose parts do not look at the store. -/

instance : LawfulMonad Action := .mk' _
  (fun x => funext fun s => by
    show Action.bind x _ s = x s
    unfold Action.bind
    cases hx : x s with
    | mk r s' => cases r <;> rfl)
  (fun _ _ => rfl)
  (fun x f g => funext fun s => by
    show Action.bind (Action.bind x f) g s = Action.bind x (fun a => Action.bind (f a) g) s
    unfold Action.bind
    cases hx : x s with
    | mk r s' => cases r <;> rfl)

theorem fst_bind {g : α → Except CheckFault β} (h : ∀ a s, (f a s).1 = g a) :
    ((x >>= f) s).1 = (x s).1.bind g := by
  cases hx : x s with
  | mk r s' =>
    cases r with
    | ok a =>
      rw [bind_ok hx]
      exact h a s'
    | error e =>
      rw [bind_error hx]
      rfl

theorem fst_mapM {f : α → Action β} {g : α → Except CheckFault β} {xs : List α}
    (h : ∀ a ∈ xs, ∀ s, (f a s).1 = g a) (s : Store) : (xs.mapM f s).1 = xs.mapM g := by
  induction xs generalizing s with
  | nil => rfl
  | cons a xs ih =>
    obtain ⟨ha, hxs⟩ := List.forall_mem_cons.1 h
    rw [List.mapM_cons, List.mapM_cons, ← ha s]
    refine fst_bind fun b s' => ?_
    rw [← ih hxs s']
    exact fst_bind fun bs s'' => rfl

end Action

def after (s : Store) (ops : List Operation) : Store := ops.foldl (fun s op => (op.perform s).2) s

/-- The store after some operations on a fresh one. -/
def run (ops : List Operation) : Store := empty.after ops

/-- The last thing that some operations find since the last reset. -/
def lastSinceReset {α : Type} (found : Operation → Option α) (ops : List Operation) : Option α :=
  (ops.reverse.takeWhile fun op => !op.isReset).findSome? found

theorem run_append (ops ops' : List Operation) : run (ops ++ ops') = (run ops).after ops' :=
  List.foldl_append

theorem run_concat (ops : List Operation) (op : Operation) :
    run (ops ++ [op]) = (op.perform (run ops)).2 := run_append ops [op]

theorem lastSinceReset_concat {α : Type} (found : Operation → Option α) (ops : List Operation)
    (op : Operation) : lastSinceReset found (ops ++ [op]) =
      if op.isReset then none else (found op).or (lastSinceReset found ops) := by
  unfold lastSinceReset
  rw [List.reverse_append, List.reverse_singleton, List.singleton_append, List.takeWhile_cons]
  cases h : op.isReset with
  | true => rfl
  | false =>
    simp only [Bool.not_false, if_true, Bool.false_eq_true, if_false, List.findSome?_cons]
    cases found op <;> rfl

/-! ## What the checks do to a store -/

variable {s : Store} {marks : Marks} {f : Flow} {id : String} {domains : Table Domain}

theorem checkFlow_ok {r : Result} (h : f.check = .ok r) : checkFlow marks f s =
    (.ok (r.made marks), { s with flows := s.flows.put f.key (r.made marks) }) := by
  show Action.bind (Action.lift f.check) _ s = _
  rw [h]
  rfl

theorem checkFlow_error {e : CheckFault} (h : f.check = .error e) :
    checkFlow marks f s = (.error e, s) := by
  show Action.bind (Action.lift f.check) _ s = _
  rw [h]
  rfl

theorem checkDomain_none (h : domains.get? id = none) :
    checkDomain marks id domains s = (.ok none, s) := by
  unfold checkDomain
  rw [h]
  rfl

theorem checkDomain_ok {d : Domain} {r : Result} (h : domains.get? id = some d)
    (hr : d.check id = .ok r) : checkDomain marks id domains s =
      (.ok (some (r.made marks)), { s with domains := s.domains.put id (r.made marks) }) := by
  unfold checkDomain
  rw [h]
  show Action.bind (Action.lift (d.check id)) _ s = _
  rw [hr]
  rfl

theorem checkDomain_error {d : Domain} {e : CheckFault} (h : domains.get? id = some d)
    (he : d.check id = .error e) : checkDomain marks id domains s = (.error e, s) := by
  unfold checkDomain
  rw [h]
  show Action.bind (Action.lift (d.check id)) _ s = _
  rw [he]
  rfl

theorem fst_checkFlow (marks : Marks) (f : Flow) (s : Store) :
    (checkFlow marks f s).1 = f.check.map (·.made marks) := by
  cases h : f.check with
  | ok r =>
    rw [checkFlow_ok h]
    rfl
  | error e =>
    rw [checkFlow_error h]
    rfl

theorem fst_checkDomain {d : Domain} (marks : Marks) (h : domains.get? id = some d) (s : Store) :
    (checkDomain marks id domains s).1 = (d.check id).map fun r => some (r.made marks) := by
  cases hr : d.check id with
  | ok r =>
    rw [checkDomain_ok h hr]
    rfl
  | error e =>
    rw [checkDomain_error h hr]
    rfl

theorem perform_checkFlow : (Operation.checkFlow marks f).perform s =
    match checkFlow marks f s with
    | (.ok v, s) => (.ok (.result (some v)), s)
    | (.error e, s) => (.error e, s) := by
  show (checkFlow marks f >>= _) s = _
  match h : checkFlow marks f s with
  | (.ok v, s) => exact Action.bind_ok h
  | (.error e, s) => exact Action.bind_error h

theorem perform_checkDomain : (Operation.checkDomain marks id domains).perform s =
    match checkDomain marks id domains s with
    | (.ok v, s) => (.ok (.result v), s)
    | (.error e, s) => (.error e, s) := by
  show (checkDomain marks id domains >>= _) s = _
  match h : checkDomain marks id domains s with
  | (.ok v, s) => exact Action.bind_ok h
  | (.error e, s) => exact Action.bind_error h

section

variable {marks : Scope → Marks}

theorem checkAll_flow_error {e : CheckFault} (h : f.check = .error e) (id? : Option String) :
    checkAll marks (some f) id? domains s = (.error e, s) :=
  Action.bind_error (Action.bind_error (checkFlow_error h))

theorem checkAll_flow_ok {r : Result} (h : f.check = .ok r) (id? : Option String) :
    checkAll marks (some f) id? domains s = checkAll marks none id? domains
      { s with flows := s.flows.put f.key (r.made (marks .flow)) } :=
  Action.bind_ok (Action.bind_ok (checkFlow_ok h))

theorem checkAll_system : checkAll marks none none domains s =
    (.ok (), { s with system := some ((Events.check domains).made (marks .system)) }) := rfl

theorem checkAll_empty_name :
    checkAll marks none (some "") domains s = checkAll marks none none domains s := rfl

theorem checkAll_domain_error {e : CheckFault} (hid : id ≠ "")
    (h : checkDomain (marks .domain) id domains s = (.error e, s)) :
    checkAll marks none (some id) domains s = (.error e, s) := by
  unfold checkAll
  dsimp only
  rw [Option.getD_some, if_pos hid]
  exact Action.bind_error (Action.bind_error h)

theorem checkAll_domain_ok {v : Option Verdict} {s' : Store} (hid : id ≠ "")
    (h : checkDomain (marks .domain) id domains s = (.ok v, s')) :
    checkAll marks none (some id) domains s = checkAll marks none none domains s' := by
  unfold checkAll
  dsimp only
  rw [Option.getD_some, if_pos hid]
  exact Action.bind_ok (Action.bind_ok h)

/-- A check of everything writes all three results. -/
theorem checkAll_of_check {d : Domain} {r rd : Result} (hf : f.check = .ok r) (hid : id ≠ "")
    (hd : domains.get? id = some d) (hr : d.check id = .ok rd) :
    checkAll marks (some f) (some id) domains s = (.ok (),
      { flows := s.flows.put f.key (r.made (marks .flow))
        domains := s.domains.put id (rd.made (marks .domain))
        system := some ((Events.check domains).made (marks .system)) }) := by
  rw [checkAll_flow_ok hf, checkAll_domain_ok hid (checkDomain_ok hd hr), checkAll_system]

/-- A check of everything that stops at its domain has written the result of the flow. -/
theorem checkAll_of_check_error {d : Domain} {r : Result} {e : CheckFault} (hf : f.check = .ok r)
    (hid : id ≠ "") (hd : domains.get? id = some d) (he : d.check id = .error e) :
    checkAll marks (some f) (some id) domains s =
      (.error e, { s with flows := s.flows.put f.key (r.made (marks .flow)) }) := by
  rw [checkAll_flow_ok hf, checkAll_domain_error hid (checkDomain_error hd he)]

end

end FlowGate.Store
