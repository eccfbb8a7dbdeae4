import FlowGate.Proofs.Domain.Counting
import FlowGate.Proofs.Store.Operation
import Mathlib.Data.List.Induction

/-!
# What a store knows of its history

`Finds` is what one operation does to the lookups: what it finds is put over what was known. Carried
through a run, this says that a store holds the last results since the last reset and nothing else
(`answers_run`). An operation that cannot be carried out has found nothing, with one exception: a
check of everything that its domain stops has checked the flow before, and keeps what it found.
-/

namespace FlowGate.Store

variable {s : Store} {marks : Marks} {f : Flow} {id : String} {domains : Table Domain}

/-! ## What an operation does to the lookups -/

/-- What an operation finds is put over what the store knows. -/
structure Finds (op : Operation) (s s' : Store) : Prop where
  flows : ∀ key, s'.flows.get? key = (op.flowResult? key).or (s.flows.get? key)
  domains : ∀ id, s'.domains.get? id = (op.domainResult? id).or (s.domains.get? id)
  system : s'.system = op.systemResult?.or s.system

theorem Finds.trans {op₁ op₂ op : Operation} {s₁ s₂ : Store} (h₁ : Finds op₁ s s₁)
    (h₂ : Finds op₂ s₁ s₂)
    (hflow : ∀ key, op.flowResult? key = (op₂.flowResult? key).or (op₁.flowResult? key))
    (hdomain : ∀ id, op.domainResult? id = (op₂.domainResult? id).or (op₁.domainResult? id))
    (hsystem : op.systemResult? = op₂.systemResult?.or op₁.systemResult?) : Finds op s s₂ where
  flows key := by rw [h₂.flows, h₁.flows, hflow, Option.or_assoc]
  domains id := by rw [h₂.domains, h₁.domains, hdomain, Option.or_assoc]
  system := by rw [h₂.system, h₁.system, hsystem, Option.or_assoc]

theorem finds_self {op : Operation} (hflow : ∀ key, op.flowResult? key = none)
    (hdomain : ∀ id, op.domainResult? id = none) (hsystem : op.systemResult? = none) :
    Finds op s s :=
  ⟨fun key => by rw [hflow, Option.none_or], fun id => by rw [hdomain, Option.none_or],
    by rw [hsystem, Option.none_or]⟩

theorem finds_checkFlow : Finds (.checkFlow marks f) s (checkFlow marks f s).2 := by
  cases h : f.check with
  | ok r =>
    rw [checkFlow_ok h]
    refine ⟨fun key => ?_, fun _ => rfl, rfl⟩
    show (s.flows.put f.key (r.made marks)).get? key =
      (if f.key = key then f.check.toOption.map _ else none).or _
    rw [Table.get?_put, h]
    by_cases hkey : key = f.key
    · rw [if_pos hkey, if_pos hkey.symm]
      rfl
    · rw [if_neg hkey, if_neg fun e => hkey e.symm, Option.none_or]
  | error e =>
    rw [checkFlow_error h]
    refine finds_self (fun key => ?_) (fun _ => rfl) rfl
    show (if f.key = key then f.check.toOption.map _ else none) = none
    rw [h]
    split <;> rfl

theorem finds_checkDomain :
    Finds (.checkDomain marks id domains) s (checkDomain marks id domains s).2 := by
  cases h : domains.get? id with
  | none =>
    rw [checkDomain_none h]
    have hchecked := Operation.checked?_none h
    exact finds_self (fun _ => rfl) (Operation.domainResult?_eq_none hchecked) rfl
  | some d =>
    have hchecked := Operation.checked?_some h
    cases hr : d.check id with
    | error e =>
      rw [hr] at hchecked
      rw [checkDomain_error h hr]
      exact finds_self (fun _ => rfl) (Operation.domainResult?_eq_none hchecked) rfl
    | ok r =>
      rw [hr] at hchecked
      rw [checkDomain_ok h hr]
      refine ⟨fun _ => rfl, fun id' => ?_, rfl⟩
      show (s.domains.put id (r.made marks)).get? id' =
        (if id = id' then (Operation.checked? id' domains).map _ else none).or _
      rw [Table.get?_put]
      by_cases hid : id' = id
      · subst hid
        rw [if_pos rfl, if_pos rfl, hchecked]
        rfl
      · rw [if_neg hid, if_neg fun e => hid e.symm, Option.none_or]

section

variable {marks : Scope → Marks}

theorem finds_checkAll_system :
    Finds (.checkAll marks none none domains) s (checkAll marks none none domains s).2 :=
  ⟨fun _ => rfl, fun _ => rfl, rfl⟩

theorem finds_checkAll_domain (hid : id ≠ "") :
    Finds (.checkAll marks none (some id) domains) s
      (checkAll marks none (some id) domains s).2 := by
  have hdomain : ∀ id', (Operation.checkAll marks none (some id) domains).domainResult? id' =
      (Operation.checkDomain (marks .domain) id domains).domainResult? id' := by
    intro id'
    simp [Operation.domainResult?, Operation.flowPasses, hid]
  have hsystem : (Operation.checkAll marks none (some id) domains).systemResult? =
      if (domains.get? id).all fun d => (d.check id).isOk then
        some ((Events.check domains).made (marks .system))
      else none := by
    simp [Operation.systemResult?, Operation.flowPasses, Operation.domainPasses, hid]
  have hok {v : Option Verdict} {s' : Store}
      (h : checkDomain (marks .domain) id domains s = (.ok v, s'))
      (hpass : (domains.get? id).all (fun d => (d.check id).isOk) = true) :
      Finds (.checkAll marks none (some id) domains) s
        (checkAll marks none (some id) domains s).2 := by
    have hfinds : Finds (.checkDomain (marks .domain) id domains) s
        (checkDomain (marks .domain) id domains s).2 := finds_checkDomain
    rw [h] at hfinds
    rw [checkAll_domain_ok hid h]
    refine hfinds.trans finds_checkAll_system (fun _ => rfl) hdomain ?_
    rw [hsystem, if_pos hpass]
    rfl
  cases h : domains.get? id with
  | none => exact hok (checkDomain_none h) (by rw [h]; rfl)
  | some d =>
    cases hr : d.check id with
    | ok r => exact hok (checkDomain_ok h hr) (by rw [h, Option.all_some, hr]; rfl)
    | error e =>
      have hchecked := Operation.checked?_some h
      rw [hr] at hchecked
      rw [checkAll_domain_error hid (checkDomain_error h hr)]
      refine finds_self (fun _ => rfl) (fun id' => ?_) ?_
      · rw [hdomain, Operation.domainResult?_eq_none hchecked]
      · rw [hsystem, h, Option.all_some, hr]
        rfl

theorem finds_checkAll (f? : Option Flow) (id? : Option String) :
    Finds (.checkAll marks f? id? domains) s (checkAll marks f? id? domains s).2 := by
  have hnone (s : Store) :
      Finds (.checkAll marks none id? domains) s (checkAll marks none id? domains s).2 := by
    cases id? with
    | none => exact finds_checkAll_system
    | some id =>
      by_cases hid : id = ""
      · subst hid
        rw [checkAll_empty_name]
        exact ⟨fun _ => rfl, fun _ => rfl, rfl⟩
      · exact finds_checkAll_domain hid
  cases f? with
  | none => exact hnone s
  | some f =>
    cases h : f.check with
    | ok r =>
      have hflow : Finds (.checkFlow (marks .flow) f) s (checkFlow (marks .flow) f s).2 :=
        finds_checkFlow
      rw [checkFlow_ok h] at hflow
      rw [checkAll_flow_ok h]
      have hpass : Operation.flowPasses (some f) = Operation.flowPasses none := by
        rw [Operation.flowPasses, Option.all_some, h]
        rfl
      refine hflow.trans (hnone _) (fun _ => rfl) (fun id => ?_) ?_
      · show _ = (Option.or _ none)
        rw [Option.or_none]
        cases id? with
        | none => rfl
        | some id' => simp only [Operation.domainResult?, hpass]
      · show _ = (Option.or _ none)
        rw [Option.or_none]
        simp only [Operation.systemResult?, hpass]
    | error e =>
      have hpass : Operation.flowPasses (some f) = false := by
        rw [Operation.flowPasses, Option.all_some, h]
        rfl
      rw [checkAll_flow_error h]
      refine finds_self (fun key => ?_) (fun id => ?_) ?_
      · rw [Operation.flowResult?, h]
        split <;> rfl
      · cases id? with
        | none => rfl
        | some id' => simp [Operation.domainResult?, hpass]
      · simp [Operation.systemResult?, hpass]

end

theorem finds_perform {op : Operation} (h : op.isReset = false) : Finds op s (op.perform s).2 := by
  cases op with
  | checkFlow marks f =>
    show Finds _ s ((checkFlow marks f >>= _) s).2
    rw [Action.store_bind_pure]
    exact finds_checkFlow
  | checkDomain marks id domains =>
    show Finds _ s ((checkDomain marks id domains >>= _) s).2
    rw [Action.store_bind_pure]
    exact finds_checkDomain
  | checkSystem marks domains => exact ⟨fun _ => rfl, fun _ => rfl, rfl⟩
  | checkAll marks f? id? domains =>
    show Finds _ s ((checkAll marks f? id? domains >>= _) s).2
    rw [Action.store_bind_pure]
    exact finds_checkAll f? id?
  | reset => cases h
  | flowResult key => exact finds_self (fun _ => rfl) (fun _ => rfl) rfl
  | domainResult id => exact finds_self (fun _ => rfl) (fun _ => rfl) rfl
  | systemResult => exact finds_self (fun _ => rfl) (fun _ => rfl) rfl
  | nodeIssues key node => exact finds_self (fun _ => rfl) (fun _ => rfl) rfl
  | gate flowId domainId => exact finds_self (fun _ => rfl) (fun _ => rfl) rfl

/-! ## What leaves a store as it was -/

theorem Operation.perform_read {op : Operation} (h : op.isRead = true) : (op.perform s).2 = s := by
  cases op <;> first | rfl | cases h

theorem checkDomain_eq_self_of_error {e : CheckFault}
    (h : (checkDomain marks id domains s).1 = .error e) :
    (checkDomain marks id domains s).2 = s := by
  cases hget : domains.get? id with
  | none => rw [checkDomain_none hget]
  | some d =>
    cases hr : d.check id with
    | ok r =>
      rw [checkDomain_ok hget hr] at h
      cases h
    | error e' => rw [checkDomain_error hget hr]

/-- A check of everything without a flow that stops has found nothing. -/
theorem checkAll_none_eq_self_of_error {marks : Scope → Marks} {id? : Option String}
    {e : CheckFault} (h : (checkAll marks none id? domains s).1 = .error e) :
    (checkAll marks none id? domains s).2 = s := by
  cases id? with
  | none => cases h
  | some id =>
    by_cases hid : id = ""
    · subst hid
      cases h
    · cases hr : checkDomain (marks .domain) id domains s with
      | mk r s' =>
        cases r with
        | ok v =>
          rw [checkAll_domain_ok hid hr] at h
          cases h
        | error e' =>
          have hs : (checkDomain (marks .domain) id domains s).2 = s :=
            checkDomain_eq_self_of_error (congrArg Prod.fst hr)
          rw [hr] at hs
          rw [checkAll_domain_error hid (hr.trans (congrArg _ hs))]

/-- An operation that cannot be carried out leaves the store as its rest alone would have. -/
theorem perform_of_error {op : Operation} {e : CheckFault} (h : (op.perform s).1 = .error e) :
    (op.perform s).2 = s.after op.rest := by
  cases op with
  | checkFlow marks f =>
    cases hr : f.check with
    | ok r =>
      have h := Action.bind_pure_eq_error.1 h
      rw [checkFlow_ok hr] at h
      cases h
    | error e' =>
      show ((checkFlow marks f >>= _) s).2 = s
      rw [Action.store_bind_pure, checkFlow_error hr]
  | checkDomain marks id domains =>
    show ((checkDomain marks id domains >>= _) s).2 = s
    rw [Action.store_bind_pure]
    exact checkDomain_eq_self_of_error (Action.bind_pure_eq_error.1 h)
  | checkSystem marks domains => cases h
  | checkAll marks f? id? domains =>
    have h := Action.bind_pure_eq_error.1 h
    show ((checkAll marks f? id? domains >>= _) s).2 = _
    rw [Action.store_bind_pure]
    cases f? with
    | none => exact checkAll_none_eq_self_of_error h
    | some f =>
      cases hr : f.check with
      | ok r =>
        -- the domain has stopped the check, after the flow has been written
        rw [checkAll_flow_ok hr] at h ⊢
        rw [checkAll_none_eq_self_of_error h, Operation.rest_of_check hr]
        show _ = ((checkFlow (marks .flow) f >>= _) s).2
        rw [Action.store_bind_pure, checkFlow_ok hr]
      | error e' =>
        rw [checkAll_flow_error hr, Operation.rest_of_check_error hr]
        rfl
  | reset => cases h
  | flowResult key => rfl
  | domainResult id => rfl
  | systemResult => rfl
  | nodeIssues key node => rfl
  | gate flowId domainId => rfl

/-! ## Runs -/

/-- The lookups after a run are the last results since the last reset. -/
theorem lookups_run (ops : List Operation) :
    (∀ key, (run ops).flows.get? key = lastSinceReset (Operation.flowResult? key) ops) ∧
      (∀ id, (run ops).domains.get? id = lastSinceReset (Operation.domainResult? id) ops) ∧
        (run ops).system = lastSinceReset Operation.systemResult? ops := by
  induction ops using List.reverseRecOn with
  | nil => exact ⟨fun _ => rfl, fun _ => rfl, rfl⟩
  | append_singleton ops op ih =>
    obtain ⟨hflows, hdomains, hsystem⟩ := ih
    rw [run_concat]
    simp only [lastSinceReset_concat, ← hflows, ← hdomains, ← hsystem]
    cases h : op.isReset with
    | true =>
      cases op <;> first | exact ⟨fun _ => rfl, fun _ => rfl, rfl⟩ | cases h
    | false =>
      have hfinds := finds_perform (s := run ops) h
      exact ⟨hfinds.flows, hfinds.domains, hfinds.system⟩

/-- What a store answers after any run. A lookup gives the last result for its key since the last
reset, and a gate looks at just three of these results. What only reads and a check of a domain that
is not registered leave no trace in the run. What cannot be carried out leaves none either, unless
it is a check of everything in which the flow was checked before the domain stopped it: then the
run goes on as if only the flow had been checked. -/
theorem answers_run (ops : List Operation) :
    (∀ key, ((Operation.flowResult key).perform (run ops)).1 =
        .ok (.result (lastSinceReset (Operation.flowResult? key) ops))) ∧
      (∀ id, ((Operation.domainResult id).perform (run ops)).1 =
        .ok (.result (lastSinceReset (Operation.domainResult? id) ops))) ∧
      (Operation.systemResult.perform (run ops)).1 =
        .ok (.result (lastSinceReset Operation.systemResult? ops)) ∧
      (∀ flowId domainId, ∃ g, ((Operation.gate flowId domainId).perform (run ops)).1 =
          .ok (.gate g) ∧
        g = ⟨lastSinceReset (Operation.flowResult? (domainId ++ "/" ++ flowId)) ops,
          lastSinceReset (Operation.domainResult? domainId) ops,
          lastSinceReset Operation.systemResult? ops⟩ ∧
        (g.canImplement = true ↔ ∀ v ∈ g.results, v.errorCount = 0) ∧
        (g.hasWarnings = true ↔ ∃ v ∈ g.results, 0 < v.warningCount)) ∧
      (∀ op : Operation, (op.isRead = true ∨
          ∃ marks id domains, op = .checkDomain marks id domains ∧ domains.get? id = none) →
        run (ops ++ [op]) = run ops) ∧
      ∀ (op : Operation) (e : CheckFault), (op.perform (run ops)).1 = .error e →
        run (ops ++ [op]) = run (ops ++ op.rest) := by
  obtain ⟨hflows, hdomains, hsystem⟩ := lookups_run ops
  refine ⟨fun key => ?_, fun id => ?_, ?_, fun flowId domainId => ?_, fun op hop => ?_,
    fun op e he => ?_⟩
  · rw [← hflows]
    rfl
  · rw [← hdomains]
    rfl
  · rw [← hsystem]
    rfl
  · rw [← hflows, ← hdomains, ← hsystem]
    exact ⟨_, rfl, rfl, Gate.canImplement_iff _, Gate.hasWarnings_iff _⟩
  · rw [run_concat]
    obtain hread | ⟨marks, id, domains, rfl, hnone⟩ := hop
    · exact Operation.perform_read hread
    · show ((checkDomain marks id domains >>= _) (run ops)).2 = run ops
      rw [Action.store_bind_pure, checkDomain_none hnone]
  · rw [run_concat, run_append, perform_of_error he]

/-- A flow with nothing but a name. -/
def bareFlow (id : String) (kind : FlowKind) : Flow where
  id
  name := .str id
  domain := .str "shop"
  kind
  trigger := none
  nodes := []
  description := .null
  created := .null
  modified := .null

/-- A domain that lists a flow twice under a number that has no text. -/
def unnamedShop (flow : String) : Table Domain :=
  .ofList [("shop", Domain.listing (.int (10 ^ Number.digitLimit)) [flow, flow])]

theorem exists_check_unnamedShop :
    ∃ d e, (unnamedShop "cart").get? "shop" = some d ∧ d.check "shop" = .error e := by
  have hids : ¬ (["cart", "cart"] : List String).Nodup := by decide
  cases h : (Domain.listing (.int (10 ^ Number.digitLimit)) ["cart", "cart"]).check "shop" with
  | error e => exact ⟨_, e, rfl, h⟩
  | ok r =>
    obtain htext | hnodup := Domain.check_eq_ok_iff.1 ⟨r, h⟩
    · exact absurd ((Value.isTooLong_eq_false_iff _).1 htext) Value.not_hasText_pow
    · exact absurd hnodup hids

/-- A check of everything that its domain stops leaves a new result of the flow in the place of the
one there was, and none of the domain and the system. -/
theorem answers_run_unnamedShop : ∃ before after e,
    let ops := [Operation.checkFlow (.numbered "08:00") (bareFlow "cart" .agent)]
    let op := Operation.checkAll (fun _ => .numbered "09:00") (some (bareFlow "cart" .traditional))
      (some "shop") (unnamedShop "cart")
    (op.perform (run ops)).1 = .error e ∧
    ((Operation.flowResult "shop/cart").perform (run ops)).1 = .ok (.result before) ∧
    ((Operation.flowResult "shop/cart").perform (run (ops ++ [op]))).1 = .ok (.result after) ∧
    after.map Verdict.errorCount = some 2 ∧ before.map Verdict.errorCount = some 3 ∧
    ((Operation.domainResult "shop").perform (run (ops ++ [op]))).1 = .ok (.result none) ∧
    (Operation.systemResult.perform (run (ops ++ [op]))).1 = .ok (.result none) := by
  obtain ⟨d, e, hd, he⟩ := exists_check_unnamedShop
  let ops := [Operation.checkFlow (.numbered "08:00") (bareFlow "cart" .agent)]
  let op := Operation.checkAll (fun _ => .numbered "09:00") (some (bareFlow "cart" .traditional))
    (some "shop") (unnamedShop "cart")
  have hstop : (op.perform (run ops)).1 = .error e :=
    Action.bind_pure_eq_error.2 (congrArg Prod.fst (checkAll_of_check_error rfl (by decide) hd he))
  obtain ⟨hbefore, -, -, -, -, hrest⟩ := answers_run ops
  obtain ⟨hafter, hdomain, hsystem, -⟩ := answers_run (ops ++ op.rest)
  have hrun : run (ops ++ [op]) = run (ops ++ op.rest) := hrest op e hstop
  rw [← hrun] at hafter hdomain hsystem
  exact ⟨_, _, e, hstop, hbefore "shop/cart", hafter "shop/cart", by decide, by decide,
    hdomain "shop", hsystem⟩

end FlowGate.Store
