import FlowGate.Proofs.Flow.Reading
import FlowGate.Proofs.Flow.Verdict

/-!
# The trigger of a flow

A flow starts at the node that its document has in the place of the trigger. Whether that node is a
trigger is up to the kind that the document gives it, and so it is with the other nodes. A check
asks for a node in the place and for an event of each node that is a trigger; it does not hold the
two against each other. `Flow.started_iff_of_check` says what follows: a flow without errors starts
at its only trigger exactly if its document names one trigger.
-/

namespace FlowGate

open List (Forall₂)

/-! ## The kinds that a document names -/

theorem Node.kind_of_read {defaultKind v : Value} {n : Node}
    (h : Node.read defaultKind v = .ok n) :
    (v.get? "type").getD defaultKind = .str n.kind.name := by
  obtain ⟨es, rfl, hfrom⟩ := read_eq_ok.1 h
  exact hfrom.kind

theorem Node.kind_eq_trigger_iff {v : Value} {n : Node} (h : Node.read .null v = .ok n) :
    n.kind = .trigger ↔ v.get? "type" = some (.str "trigger") := by
  have hkind := Node.kind_of_read h
  cases htype : v.get? "type" with
  | none =>
    rw [htype] at hkind
    cases hkind
  | some kind =>
    rw [htype] at hkind
    obtain rfl : kind = .str n.kind.name := hkind
    rw [Option.some.injEq]
    exact NodeKind.str_name_inj.symm

theorem Node.kind_eq_trigger_iff_of_default {v : Value} {n : Node}
    (h : Node.read (.str NodeKind.trigger.name) v = .ok n) :
    n.kind = .trigger ↔ ∀ kind, v.get? "type" = some kind → kind = .str "trigger" := by
  have hkind := Node.kind_of_read h
  cases htype : v.get? "type" with
  | none =>
    rw [htype] at hkind
    exact iff_of_true (NodeKind.str_name_inj.1 hkind).symm nofun
  | some kind =>
    rw [htype] at hkind
    obtain rfl : kind = .str n.kind.name := hkind
    simp only [Option.some.injEq, forall_eq']
    exact NodeKind.str_name_inj.symm

def Node.event? (n : Node) : Option Value :=
  match n.kind, n.spec with
  | .trigger, s => some s.triggerEvent
  | _, _ => none

theorem Node.exists_event? {n : Node} (h : n.kind = .trigger) : ∃ event, n.event? = some event := by
  obtain ⟨id, kind, spec, label, position, connections, parent⟩ := n
  obtain rfl : kind = .trigger := h
  exact ⟨spec.triggerEvent, rfl⟩

/-- The rule for triggers asks for an event. -/
theorem Node.isBlank_event_of_check {n : Node} {event : Value} (hevent : n.event? = some event)
    (h : Faultless n.check) : event.isBlank = false := by
  obtain ⟨id, kind, spec, label, position, connections, parent⟩ := n
  cases kind <;> cases hevent
  cases hblank : spec.triggerEvent.isBlank with
  | false => rfl
  | true =>
    simp [Node.check, Spec.remarks, Spec.required, Remark.onlyIf, hblank, Remark.issue,
      Remark.error] at h

theorem Value.eq_of_items {v : Value} {fault : Value → Fault} {items : List Value}
    (h : v.items fault = .ok items) : v = .list items ∨ (∀ l, v ≠ .list l) ∧ items = [] := by
  unfold Value.items orElse at h
  cases v with
  | list l =>
    cases l with
    | nil =>
      cases h
      exact .inl rfl
    | cons x l =>
      cases h
      exact .inl rfl
  | scalar s =>
    refine .inr ⟨nofun, ?_⟩
    cases hgiven : Value.isGiven (.scalar s) <;> rw [hgiven] at h <;> cases h
    rfl
  | map es =>
    refine .inr ⟨nofun, ?_⟩
    cases hgiven : Value.isGiven (.map es) <;> rw [hgiven] at h <;> cases h
    rfl

namespace Flow

variable {v : Value} {f : Flow} {r : Result} {t : Node}

/-! ## The document of a flow -/

/-- Whether a document names one trigger: what stands in its place is given no other kind, and no
other node is given that kind. -/
structure NamesOneTrigger (v : Value) : Prop where
  trigger : ∀ t kind, v.get? "trigger" = some t → t.get? "type" = some kind → kind = .str "trigger"
  others : ∀ items, v.get? "nodes" = some (.list items) → ∀ n ∈ items,
    n.get? "type" ≠ some (.str "trigger")

theorem nodes_of_read (h : Flow.read v = .ok f) :
    readTrigger ((v.get? "trigger").getD .null) = .ok f.trigger ∧
      ∃ items, (((v.get? "nodes").getD .null).items (.badNodeList "nodes")) = .ok items ∧
        Forall₂ (fun item n => Node.read .null item = .ok n) items f.nodes := by
  obtain ⟨es, header, times, rfl, hfrom⟩ := read_eq_ok.1 h
  obtain ⟨items, hitems, hnodes⟩ := hfrom.nodes
  exact ⟨hfrom.trigger, items, hitems, mapM_eq_ok.1 hnodes⟩

theorem kind_trigger_iff (h : Flow.read v = .ok f) (ht : f.trigger = some t) :
    t.kind = .trigger ↔
      ∀ d kind, v.get? "trigger" = some d → d.get? "type" = some kind → kind = .str "trigger" := by
  obtain ⟨htrigger, -⟩ := nodes_of_read h
  cases hget : v.get? "trigger" with
  | none =>
    rw [hget, ht] at htrigger
    cases htrigger
  | some d =>
    rw [hget, ht] at htrigger
    unfold readTrigger at htrigger
    split at htrigger
    · obtain ⟨n, hn, heq⟩ := map_eq_ok.1 htrigger
      obtain rfl := Option.some.inj heq
      rw [Node.kind_eq_trigger_iff_of_default hn]
      constructor
      · rintro hkind _ kind ⟨⟩
        exact hkind kind
      · intro hkind kind
        exact hkind d kind rfl
    · cases htrigger

theorem forall_nodes_iff (h : Flow.read v = .ok f) :
    (∀ n ∈ f.nodes, n.kind ≠ .trigger) ↔
      ∀ items, v.get? "nodes" = some (.list items) → ∀ n ∈ items,
        n.get? "type" ≠ some (.str "trigger") := by
  obtain ⟨-, items, hitems, hread⟩ := nodes_of_read h
  have hnodes : (∀ n ∈ f.nodes, n.kind ≠ .trigger) ↔
      ∀ n ∈ items, n.get? "type" ≠ some (.str "trigger") :=
    (forall_iff_of_forall₂ hread fun _ _ hn => (Node.kind_eq_trigger_iff hn).not.symm).symm
  rw [hnodes]
  obtain hlist | ⟨hnone, rfl⟩ := Value.eq_of_items hitems
  · cases hget : v.get? "nodes" with
    | none =>
      rw [hget] at hlist
      cases hlist
    | some w =>
      rw [hget] at hlist
      obtain rfl : w = .list items := hlist
      simp
  · refine iff_of_true nofun fun items hget => absurd ?_ (hnone items)
    rw [hget]
    rfl

/-! ## Triggers of a flow without errors -/

/-- Whether a flow starts at its only trigger, which has an event. -/
def Started (f : Flow) : Prop :=
  ∃ t event, f.trigger = some t ∧ f.allNodes.filter (·.kind = .trigger) = [t] ∧
    t.event? = some event ∧ event.isBlank = false

theorem faultless_core_of_check (h : f.check = .ok r) (hr : r.errorCount = 0) :
    Faultless (RuleFamily.core.check f.allNodes) := by
  obtain ⟨issues, hfound, rfl⟩ := exists_findings_of_check h
  rw [Result.errorCount_eq_zero_iff, faultless_map_stamped, eq_of_findings hfound] at hr
  simp only [faultless_append] at hr
  exact hr.1.1.1.2

theorem exists_event_of_check (h : f.check = .ok r) (hr : r.errorCount = 0) {n : Node}
    (hn : n ∈ f.allNodes) (hkind : n.kind = .trigger) :
    ∃ event, n.event? = some event ∧ event.isBlank = false := by
  obtain ⟨event, hevent⟩ := Node.exists_event? hkind
  have hcore := (faultless_check .core f.allNodes).1 (faultless_core_of_check h hr)
  exact ⟨event, hevent, Node.isBlank_event_of_check hevent (hcore n hn (by rw [hkind]; rfl))⟩

/-- The only trigger of a flow is the node at which it starts if that is a trigger and no other node
is one. -/
theorem filter_trigger_eq_iff (ht : f.trigger = some t) :
    f.allNodes.filter (·.kind = .trigger) = [t] ↔
      t.kind = .trigger ∧ ∀ n ∈ f.nodes, n.kind ≠ .trigger := by
  have hall : f.allNodes = t :: f.nodes := by rw [allNodes, ht]; rfl
  rw [hall, List.filter_cons]
  split
  · next hkind =>
    have hkind : t.kind = .trigger := by simpa using hkind
    simp [hkind, List.filter_eq_nil_iff]
  · next hkind =>
    have hkind : t.kind ≠ .trigger := by simpa using hkind
    refine iff_of_false (fun hfilter => hkind ?_) fun h => hkind h.1
    have hmem : t ∈ f.nodes.filter (·.kind = .trigger) := by rw [hfilter]; exact List.mem_cons_self
    simpa using (List.mem_filter.1 hmem).2

/-- What a check without errors says of the triggers of a flow that was read. There is a node at
which the flow starts, and each trigger, wherever it stands, can be reached from there and has an
event that is not blank. The flow starts at its only trigger exactly if its document gives no other
kind to what stands in the place of the trigger, and the kind of a trigger to no other node. -/
theorem started_iff_of_check (hread : Flow.read v = .ok f) (h : f.check = .ok r)
    (hr : r.errorCount = 0) :
    f.trigger ≠ none ∧
    (∀ n ∈ f.allNodes, n.kind = .trigger →
      f.Reachable n.id ∧ ∃ event, n.event? = some event ∧ event.isBlank = false) ∧
    (f.Started ↔ NamesOneTrigger v) := by
  obtain ⟨htrigger, -, horphan, -⟩ := faultless_graph_of_check h hr
  have htrigger := (faultless_checkTrigger f).1 htrigger
  obtain ⟨t, ht⟩ := Option.ne_none_iff_exists'.1 htrigger
  refine ⟨htrigger, fun n hn hkind => ⟨?_, exists_event_of_check h hr hn hkind⟩, ?_⟩
  · rw [allNodes, ht] at hn
    obtain rfl | hn := List.mem_cons.1 hn
    · exact ⟨n, ht, .refl⟩
    · exact (faultless_checkOrphans f).1 horphan n hn
  · constructor
    · rintro ⟨t', event, ht', honly, -⟩
      obtain rfl := Option.some.inj (ht.symm.trans ht')
      obtain ⟨hkind, hothers⟩ := (filter_trigger_eq_iff ht).1 honly
      exact ⟨(kind_trigger_iff hread ht).1 hkind, (forall_nodes_iff hread).1 hothers⟩
    · rintro ⟨hkind, hothers⟩
      have hkind := (kind_trigger_iff hread ht).2 hkind
      obtain ⟨event, hevent, hblank⟩ := exists_event_of_check h hr (trigger_mem ht) hkind
      exact ⟨t, event, ht,
        (filter_trigger_eq_iff ht).2 ⟨hkind, (forall_nodes_iff hread).2 hothers⟩, hevent, hblank⟩

/-- A flow that starts at a process and leads on to a trigger. -/
def reversed : Value :=
  .map [(.str "flow", .map [(.str "id", .str "parcel"), (.str "domain", .str "shop")]),
    (.str "trigger", .map [(.str "id", .str "pack"), (.str "type", .str "process"),
      (.str "spec", .map [(.str "action", .str "carry")]),
      (.str "connections", .list [.map [(.str "targetNodeId", .str "end")]])]),
    (.str "nodes", .list [.map [(.str "id", .str "end"), (.str "type", .str "terminal")]])]

/-- A check finds no error in a flow without any trigger. -/
theorem not_started_reversed : ∃ f r, Flow.read reversed = .ok f ∧ f.check = .ok r ∧
    r.errorCount = 0 ∧ (∀ n ∈ f.allNodes, n.kind ≠ .trigger) ∧ ¬ f.Started := by
  obtain ⟨-, -, hstarted⟩ := started_iff_of_check (v := reversed) rfl rfl rfl
  refine ⟨_, _, rfl, rfl, rfl, by decide, hstarted.not.2 fun hnames => ?_⟩
  exact absurd (hnames.trigger _ _ rfl rfl) (by decide)

end Flow

end FlowGate
