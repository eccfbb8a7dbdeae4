import FlowGate.Proofs.Service.Request
import FlowGate.Proofs.Store.History

/-!
# The service refines the store

A request is carried out as the operation that it asks for (`handle_of_asks`), and one that asks for
nothing, or for what cannot be carried out, leaves the store as it was (`store_handle_of_skipped`).
Carried through a run, this says that the service does to the store what `Follows` allows
(`follows_iff`). A result stays in its `Slot` until it is replaced there or the store is reset, so
that the gate and the issues of nodes show what the check was answered with.

Replies are written at last. Nothing is known here of the values that can be written: a reply that
cannot be is sent as a failure, and the operation stays done.
-/

namespace FlowGate.Service

open Store (Operation Answer Finds)

variable {writable : Value → Bool} {marks : Marks} {s s' : Store} {r : Request}
  {rs : List Request} {op : Operation} {a : Answer}

/-! ## One request -/

namespace Reply

theorem status_sent_ok (v : Value) :
    ((ok v).sent writable).status = if writable v then 200 else 500 := by
  show (if writable v then ok v else failed).status = _
  split <;> rfl

theorem sent_ok_of_status {v : Value} (h : ((ok v).sent writable).status = 200) :
    (ok v).sent writable = ok v := by
  rw [status_sent_ok] at h
  split at h
  · next hwritable => exact if_pos hwritable
  · cases h

theorem status_sent {reply : Reply} (h : reply.status = 422 ∨ reply.status = 500) :
    (reply.sent writable).status = 422 ∨ (reply.sent writable).status = 500 := by
  unfold sent
  split
  · split
    · exact h
    · exact .inr rfl
  · exact h

end Reply

theorem Refusal.status_reply (refusal : Refusal) :
    refusal.reply.status = 422 ∨ refusal.reply.status = 500 := by
  cases refusal with
  | misfits parts => exact .inl rfl
  | document fault =>
    unfold reply
    dsimp only
    split
    · exact .inl rfl
    · exact .inr rfl

/-- The reply to an operation that ends with an answer or with a fault. -/
def replyTo (op : Operation) : Except CheckFault Answer → Reply
  | .ok (.result (some v)) => .ok v.report
  | .ok (.gate g) => .ok g.report
  | .ok (.issues found) =>
    match op with
    | .nodeIssues key node => .ok (nodeReport key node found)
    | _ => .failed
  | .ok .done => .ok (.map [(.str "status", .str "reset")])
  | .ok (.result none) | .error _ => .failed

theorem run_of_operation? {c : Command} (h : c.operation? marks = some op) :
    c.run marks s = (replyTo op (op.perform s).1, (op.perform s).2) := by
  cases c with
  | health => cases h
  | gate flowId domainId =>
    cases h
    rfl
  | nodeIssues domainId flowId nodeId =>
    cases h
    rfl
  | reset =>
    cases h
    rfl
  | checkSystem domains =>
    cases h
    rfl
  | checkFlow f =>
    cases h
    rw [Store.perform_checkFlow]
    unfold Command.run
    dsimp only
    match Store.checkFlow marks f s with
    | (.ok v, t) => rfl
    | (.error e, t) => rfl
  | checkDomain id domains =>
    cases h
    rw [Store.perform_checkDomain]
    unfold Command.run
    dsimp only
    match Store.checkDomain marks id domains s with
    | (.ok (some v), t) => rfl
    | (.ok none, t) => rfl
    | (.error e, t) => rfl

theorem handle_of_asks (h : r.Asks op) : handle writable s r =
    ((replyTo op (op.perform s).1).sent writable, (op.perform s).2) := by
  obtain ⟨c, hc, hop⟩ := Request.asks_iff.1 h
  unfold handle
  rw [hc]
  dsimp only
  rw [run_of_operation? hop]

/-- Whether a request asks for nothing that can be carried out. -/
def Skipped (s : Store) (r : Request) : Prop := ∀ op a, r.Asks op → (op.perform s).1 ≠ .ok a

/-- No request asks for a check of everything, the only operation that may change the store before
it fails. -/
theorem rest_of_asks (h : r.Asks op) : op.rest = [] := by
  cases h <;> rfl

theorem store_handle_of_skipped (h : Skipped s r) : (handle writable s r).2 = s := by
  unfold handle
  cases hc : r.command with
  | error refusal => rfl
  | ok c =>
    cases hop : c.operation? r.marks with
    | none => cases c <;> first | rfl | cases hop
    | some op =>
      have hasks : r.Asks op := Request.asks_iff.2 ⟨c, hc, hop⟩
      show (c.run r.marks s).2 = s
      rw [run_of_operation? hop]
      cases hdone : (op.perform s).1 with
      | ok a => exact absurd hdone (h op a hasks)
      | error e =>
        show (op.perform s).2 = s
        rw [Store.perform_of_error hdone, rest_of_asks hasks]
        rfl

/-- A request that is skipped is refused or fails, unless it does not ask for the store at all. -/
theorem status_handle_of_skipped (hroute : r.route ≠ .health) (h : Skipped s r) :
    (handle writable s r).1.status = 422 ∨ (handle writable s r).1.status = 500 := by
  cases hc : r.command with
  | error refusal =>
    unfold handle
    rw [hc]
    exact Reply.status_sent refusal.status_reply
  | ok c =>
    obtain ⟨op, hop⟩ := Request.exists_operation? hroute hc
    have hasks : r.Asks op := Request.asks_iff.2 ⟨c, hc, hop⟩
    rw [handle_of_asks hasks]
    cases hdone : (op.perform s).1 with
    | ok a => exact absurd hdone (h op a hasks)
    | error e => exact Reply.status_sent (.inr rfl)

/-- The domain that a request asks to check is the one that its body holds for it, whatever else the
body says of its identifier. -/
theorem get?_of_asks_checkDomain {id : String} {domains : Table Domain}
    (h : r.Asks (.checkDomain marks id domains)) : ∃ es own d docs, r.body = some (.map es) ∧
      Entries.get? es "domain" = some own ∧ Domain.read own = .ok d ∧
        Holds es "all_domains" docs ∧ domains.get? id = some d ∧
          ∀ other, other ≠ id → domains.get? other = (Table.ofList docs).get? other := by
  cases h with
  | @checkDomain _ es own d docs _ body owned domain others =>
    refine ⟨es, own, d, docs, body, owned, domain, others, ?_, fun other hother => ?_⟩
    · rw [Table.get?_put, if_pos rfl]
    · rw [Table.get?_put, if_neg hother]

/-! ## Runs -/

/-- The store after some requests, each of which either has its operation carried out or is
skipped. -/
inductive Follows : Store → List Request → Store → Prop where
  | nil (s : Store) : Follows s [] s
  | apply {s s' : Store} {r : Request} {rs : List Request} {op : Operation} {a : Answer}
    (asks : r.Asks op) (done : (op.perform s).1 = .ok a) (rest : Follows (op.perform s).2 rs s') :
    Follows s (r :: rs) s'
  | skip {s s' : Store} {r : Request} {rs : List Request} (skipped : Skipped s r)
    (rest : Follows s rs s') : Follows s (r :: rs) s'

theorem store_handleAll_cons : (handleAll writable s (r :: rs)).2 =
    (handleAll writable (handle writable s r).2 rs).2 := rfl

theorem follows_iff : Follows s rs s' ↔ s' = (handleAll writable s rs).2 := by
  constructor
  · intro h
    induction h with
    | nil s => rfl
    | apply asks _ _ ih => rw [ih, store_handleAll_cons, handle_of_asks asks]
    | skip skipped _ ih => rw [ih, store_handleAll_cons, store_handle_of_skipped skipped]
  · rintro rfl
    induction rs generalizing s with
    | nil => exact .nil s
    | cons r rs ih =>
      rw [store_handleAll_cons]
      by_cases h : Skipped s r
      · rw [store_handle_of_skipped h]
        exact .skip h ih
      · obtain ⟨op, h⟩ := not_forall.1 h
        obtain ⟨a, h⟩ := not_forall.1 h
        obtain ⟨hasks, hdone⟩ := Classical.not_imp.1 h
        rw [handle_of_asks hasks]
        exact .apply hasks (not_not.1 hdone) ih

/-! ## Results that stay -/

/-- Where the store keeps a result. -/
inductive Slot where
  | flow (key : String)
  | domain (id : String)
  | system
  deriving DecidableEq, Repr

namespace Slot

variable {slot : Slot} {v : Verdict}

def get? (s : Store) : Slot → Option Verdict
  | flow key => s.flows.get? key
  | domain id => s.domains.get? id
  | system => s.system

def found? (op : Operation) : Slot → Option Verdict
  | flow key => op.flowResult? key
  | domain id => op.domainResult? id
  | system => op.systemResult?

/-- Where the result of a check is kept. -/
def ofCheck? : Operation → Option Slot
  | .checkFlow _ f => some (flow f.key)
  | .checkDomain _ id _ => some (domain id)
  | .checkSystem _ _ => some system
  | _ => none

/-- The results that a gate looks at, and the fields of its report that they stand in. -/
def atGate (flowId domainId : String) : List (String × Slot) :=
  [("flowValidation", flow (Store.flowKey domainId flowId)), ("domainValidation", domain domainId),
    ("systemValidation", system)]

theorem get?_of_finds (h : Finds op s s') : slot.get? s' = (slot.found? op).or (slot.get? s) := by
  cases slot with
  | flow key => exact h.flows key
  | domain id => exact h.domains id
  | system => exact h.system

theorem found?_of_asks (h : r.Asks op) (hslot : ofCheck? op = some slot)
    (hdone : (op.perform s).1 = .ok a) :
    ∃ v, a = .result (some v) ∧ slot.found? op = some v := by
  cases op with
  | checkFlow marks f =>
    cases hslot
    rw [Store.perform_checkFlow] at hdone
    show ∃ v, _ ∧ (if f.key = f.key then f.check.toOption.map _ else none) = some v
    cases hf : f.check with
    | ok result =>
      rw [Store.checkFlow_ok hf] at hdone
      cases hdone
      exact ⟨result.made marks, rfl, if_pos rfl⟩
    | error e =>
      rw [Store.checkFlow_error hf] at hdone
      cases hdone
  | checkDomain marks id domains =>
    cases hslot
    obtain ⟨_, _, d, _, -, -, -, -, hd, -⟩ := get?_of_asks_checkDomain h
    rw [Store.perform_checkDomain] at hdone
    show ∃ v, _ ∧ (if id = id then (Operation.checked? id domains).map _ else none) = some v
    rw [if_pos rfl, Operation.checked?_some hd]
    cases hr : d.check id with
    | ok result =>
      rw [Store.checkDomain_ok hd hr] at hdone
      cases hdone
      exact ⟨result.made marks, rfl, rfl⟩
    | error e =>
      rw [Store.checkDomain_error hd hr] at hdone
      cases hdone
  | checkSystem marks domains =>
    cases hslot
    cases hdone
    exact ⟨_, rfl, rfl⟩
  | _ => cases hslot

theorem isReset_of_ofCheck? (h : ofCheck? op = some slot) : op.isReset = false := by
  cases op <;> first | rfl | cases h

end Slot

variable {slot : Slot} {v : Verdict}

theorem exists_handle_of_asks (writable : Value → Bool) (h : r.Asks op)
    (hdone : (op.perform s).1 = .ok a) :
    ∃ value, handle writable s r = ((Reply.ok value).sent writable, (op.perform s).2) := by
  rw [handle_of_asks h, hdone]
  cases hslot : Slot.ofCheck? op with
  | some slot =>
    obtain ⟨v, rfl, -⟩ := Slot.found?_of_asks h hslot hdone
    exact ⟨v.report, rfl⟩
  | none =>
    cases h with
    | checkFlow | checkDomain | checkSystem => cases hslot
    | gate | nodeIssues | reset =>
      cases hdone
      exact ⟨_, rfl⟩

/-- Only what is skipped is refused. -/
theorem skipped_of_status (h : (handle writable s r).1.status = 422) : Skipped s r := by
  intro op a hasks hdone
  obtain ⟨value, hreply⟩ := exists_handle_of_asks writable hasks hdone
  rw [hreply, Reply.status_sent_ok] at h
  split at h <;> cases h

/-- Whether a request leaves what is kept in a slot: it asks neither for a reset nor for a check
that finds a result for the slot. -/
def Request.Spares (r : Request) (slot : Slot) : Prop :=
  ∀ op, r.Asks op → op.isReset = false ∧ slot.found? op = none

theorem get?_handle_of_spares (h : r.Spares slot) :
    slot.get? (handle writable s r).2 = slot.get? s := by
  by_cases hasks : ∃ op, r.Asks op
  · obtain ⟨op, hasks⟩ := hasks
    obtain ⟨hreset, hnone⟩ := h op hasks
    rw [handle_of_asks hasks, Slot.get?_of_finds (Store.finds_perform hreset), hnone,
      Option.none_or]
  · rw [store_handle_of_skipped fun op _ hop => absurd ⟨op, hop⟩ hasks]

theorem get?_handleAll_of_spares (h : ∀ r ∈ rs, r.Spares slot) :
    slot.get? (handleAll writable s rs).2 = slot.get? s := by
  induction rs generalizing s with
  | nil => rfl
  | cons r rs ih =>
    rw [List.forall_mem_cons] at h
    rw [store_handleAll_cons, ih h.2, get?_handle_of_spares h.1]

/-- Whether the service shows a result for a slot, with its identifiers and its time: each gate that
looks at the slot has the result in its report, and the issues of each node are those of the result
that point at it. -/
structure Shows (writable : Value → Bool) (s : Store) (slot : Slot) (v : Verdict) : Prop where
  gate : ∀ r flowId domainId field, Request.Asks r (.gate flowId domainId) →
    (field, slot) ∈ Slot.atGate flowId domainId →
      ∃ report, (handle writable s r).1 = (Reply.ok report).sent writable ∧
        report.get? field = some v.report
  nodeIssues : ∀ r key node, Request.Asks r (.nodeIssues key node) → slot = .flow key →
    (handle writable s r).1 =
      (Reply.ok (nodeReport key node (v.notices.filter (·.node == some node)))).sent writable

theorem Slot.get?_report_gate {flowId domainId field : String}
    (h : (field, slot) ∈ atGate flowId domainId) : (s.gate flowId domainId).report.get? field =
      some (((slot.get? s).map Verdict.report).getD .null) := by
  simp only [atGate, List.mem_cons, List.not_mem_nil, or_false, Prod.mk.injEq] at h
  obtain ⟨rfl, rfl⟩ | ⟨rfl, rfl⟩ | ⟨rfl, rfl⟩ := h <;> rfl

theorem shows_of_get? (h : slot.get? s = some v) : Shows writable s slot v where
  gate r flowId domainId field hasks hfield := by
    rw [handle_of_asks hasks]
    refine ⟨(s.gate flowId domainId).report, rfl, ?_⟩
    rw [Slot.get?_report_gate hfield, h]
    rfl
  nodeIssues r key node hasks hslot := by
    subst hslot
    change s.flows.get? _ = _ at h
    rw [handle_of_asks hasks]
    show (Reply.ok (nodeReport key node (s.nodeIssues key node))).sent writable = _
    rw [Store.nodeIssues, h]

/-- The result of a check is the reply, and the service shows it until another result takes its
place. -/
theorem shows_of_check (h : r.Asks op) (hslot : Slot.ofCheck? op = some slot)
    (hdone : (op.perform s).1 = .ok a) :
    ∃ v, a = .result (some v) ∧
      (handle writable s r).1 = (Reply.ok v.report).sent writable ∧
      ∀ later, (∀ r' ∈ later, Request.Spares r' slot) →
        Shows writable (handleAll writable (handle writable s r).2 later).2 slot v := by
  obtain ⟨v, rfl, hfound⟩ := Slot.found?_of_asks h hslot hdone
  refine ⟨v, rfl, ?_, fun later hlater => shows_of_get? ?_⟩
  · rw [handle_of_asks h, hdone]
    rfl
  · have hreset := Slot.isReset_of_ofCheck? hslot
    rw [get?_handleAll_of_spares hlater, handle_of_asks h,
      Slot.get?_of_finds (Store.finds_perform hreset), hfound, Option.some_or]

def parcelDocument : Value :=
  .map [(.str "flow", .map [(.str "id", .str "parcel"), (.str "domain", .str "shop")]),
    (.str "trigger", .map [(.str "id", .str "start")]),
    (.str "nodes", .list [.map [(.str "id", .str "pack"), (.str "type", .str "process")]]),
    (.str "metadata", .map [])]

def checkParcel : Request := ⟨.flow, [], some parcelDocument, .numbered "08:00"⟩

def brokenShop : Request where
  route := .domain "shop"
  query := []
  body := some (.map [(.str "domain", .map []),
    (.str "all_domains", .map [(.str "bank", .map [(.str "flows", .list [.null])])])])
  marks := .numbered "09:00"

def packIssues : Request := ⟨.nodeIssues "shop" "parcel" "pack", [], none, .numbered "10:00"⟩

def parcelGate : Request :=
  ⟨.gate, [("flow_id", "parcel"), ("domain_id", "shop")], none, .numbered "11:00"⟩

theorem exists_asks_checkParcel : ∃ f v, checkParcel.Asks (.checkFlow (.numbered "08:00") f) ∧
    f.key = "shop/parcel" ∧
    ((Operation.checkFlow (.numbered "08:00") f).perform Store.empty).1 = .ok (.result (some v)) ∧
    (v.notices.filter (·.node == some "pack")).map (·.id) = ["08:00-1", "08:00-3"] :=
  ⟨_, _, .checkFlow rfl rfl rfl, rfl, rfl, by decide +kernel⟩

end FlowGate.Service
