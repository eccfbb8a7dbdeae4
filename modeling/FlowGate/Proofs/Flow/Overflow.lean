import FlowGate.Project.Registry
import FlowGate.Proofs.Flow.RoundTrip
import FlowGate.Proofs.Record.Overflow
import FlowGate.Service.Reply

/-!
# Flows that hold a number past the range of doubles

A malformed flow is refused as such, with one exception: an integer past the range of doubles, where
the spec of a node holds a number, ends the reading with a fault of its own. Parts are read in
order, so such a number counts only if nothing before it is malformed.
-/

namespace FlowGate

variable {e : Fault}

theorem not_fails_items {v : Value} {fault : Value → Fault}
    (h : ∀ w, (fault w).isMalformed = true) : ¬ Fails (Stray e) (v.items fault) := by
  unfold Value.items
  split <;> simp [h]

theorem not_fails_entries {v : Value} {fault : Value → Fault}
    (h : ∀ w, (fault w).isMalformed = true) : ¬ Fails (Stray e) (v.entries fault) := by
  unfold Value.entries
  split <;> simp [h]

theorem not_fails_readPosition (id v : Value) : ¬ Fails (Stray e) (Position.read id v) := by
  unfold Position.read
  rw [fails_bind]
  rintro (h | ⟨es, -, h⟩)
  · exact not_fails_entries (fun _ => rfl) h
  · exact not_fails_ok _ h

theorem Connection.not_fails_read (v : Value) : ¬ Fails (Stray e) (Connection.read v) := by
  fun_cases Connection.read v with
  | case1 es target hgiven =>
    rw [fails_map]
    exact not_fails_readText target
  | case2 => simp [Fault.isMalformed]
  | case3 => simp [Fault.isMalformed]

def Node.Overflows (defaultKind v : Value) : Prop :=
  ∃ es kind, v = .map es ∧ (Entries.field es "id").isGiven = true ∧
    NodeKind.ofValue? ((Entries.get? es "type").getD defaultKind) = some kind ∧
    (∃ p, Position.read (Entries.field es "id") (Entries.field es "position") = .ok p) ∧
    (∃ s, readText (Entries.field es "id") = .ok s) ∧
    ∃ spec, Entries.field es "spec" = .map spec ∧ Spec.Overflows spec kind

/-- What stands behind the spec of a node can only be malformed. -/
theorem Node.fails_read (defaultKind v : Value) :
    Fails (Stray e) (Node.read defaultKind v) ↔ e = .tooLarge ∧ Node.Overflows defaultKind v := by
  cases v with
  | scalar s => simp [read, Overflows, Fault.isMalformed]
  | list items => simp [read, Overflows, Fault.isMalformed]
  | map es =>
    have hitems : ∀ w : Value, ¬ Fails (Stray e) (w.items (.badNodeList "connections")) :=
      fun w => not_fails_items fun _ => rfl
    have hconnections : ∀ items : List Value, ¬ Fails (Stray e) (items.mapM Connection.read) := by
      intro items h
      obtain ⟨w, -, hw⟩ := (fails_mapM.1 h).exists_stops
      exact Connection.not_fails_read w hw
    unfold read Overflows
    dsimp only
    cases hid : (Entries.field es "id").isGiven with
    | false =>
      show Fails (Stray e) (.error (.nodeWithoutId (.map es)) : Except Fault Node) ↔ _
      simp [hid, Fault.isMalformed]
    | true =>
      cases hkind : NodeKind.ofValue? ((Entries.get? es "type").getD defaultKind) with
      | none =>
        show Fails (Stray e) (.error (.unknownKind _ _) : Except Fault Node) ↔ _
        simp [hkind, Fault.isMalformed]
      | some kind =>
        simp only [Bool.not_true, Bool.false_eq_true, if_false, pure, Except.pure, fails_bind,
          not_fails_readPosition, not_fails_readText, hitems, hconnections, Spec.fails_read,
          not_fails_ok, false_or, and_false, exists_false, or_false]
        constructor
        · rintro ⟨p, hp, s, hs, he, spec, hspec, hover⟩
          exact ⟨he, es, kind, rfl, hid, hkind, ⟨p, hp⟩, ⟨s, hs⟩, spec, hspec, hover⟩
        · rintro ⟨he, _, _, ⟨rfl⟩, -, hkind', ⟨p, hp⟩, ⟨s, hs⟩, spec, hspec, hover⟩
          obtain rfl := Option.some.inj (hkind.symm.trans hkind')
          exact ⟨p, hp, s, hs, he, spec, hspec, hover⟩

namespace Flow

/-- Whether reading a flow comes to a number past the range of doubles. -/
inductive Overflows : Value → Prop
  /-- The trigger is read first. -/
  | trigger {es header : Entries} (header_eq : header? (.map es) = some header)
      (given : (Entries.field es "trigger").isGiven = true)
      (number : Node.Overflows (.str NodeKind.trigger.name) (Entries.field es "trigger")) :
      Overflows (.map es)
  /-- Of the nodes, those before the one with the number are read as well. -/
  | node {es header : Entries} {items : List Value} (header_eq : header? (.map es) = some header)
      (trigger : ∃ t, readTrigger (Entries.field es "trigger") = .ok t)
      (metadata : ∃ times, (Entries.field es "metadata").entries
        (fun _ => .badMetadata (Entries.field header "id")) = .ok times)
      (id : ∃ s, readText (Entries.field header "id") = .ok s)
      (nodes : (Entries.field es "nodes").items (.badNodeList "nodes") = .ok items)
      (number : ComesTo (fun v => ∃ n, Node.read .null v = .ok n) (Node.Overflows .null) items) :
      Overflows (.map es)

theorem fails_readTrigger (v : Value) : Fails (Stray e) (readTrigger v) ↔
    e = .tooLarge ∧ v.isGiven = true ∧ Node.Overflows (.str NodeKind.trigger.name) v := by
  unfold readTrigger
  split
  · next h => rw [fails_map, Node.fails_read, and_iff_right h]
  · next h => simp [h]

theorem fails_readNodes (items : List Value) : Fails (Stray e) (items.mapM (Node.read .null)) ↔
    e = .tooLarge ∧
      ComesTo (fun v => ∃ n, Node.read .null v = .ok n) (Node.Overflows .null) items := by
  simp only [fails_mapM, Node.fails_read, comesTo_and_left]

theorem not_overflows_of_header {v : Value} (h : header? v = none) : ¬ Overflows v := by
  intro hover
  cases hover with
  | trigger hheader => rw [h] at hheader; cases hheader
  | node hheader => rw [h] at hheader; cases hheader

/-- All faults but those of numbers say that something is malformed. -/
theorem fails_read (v : Value) : Fails (Stray e) (Flow.read v) ↔ e = .tooLarge ∧ Overflows v := by
  cases v with
  | scalar s =>
    have hnot : ¬ Overflows (.scalar s) := not_overflows_of_header rfl
    simp [read, hnot, Fault.isMalformed]
  | list items =>
    have hnot : ¬ Overflows (.list items) := not_overflows_of_header rfl
    simp [read, hnot, Fault.isMalformed]
  | map es =>
    have htimes : ∀ v id : Value, ¬ Fails (Stray e) (v.entries fun _ => .badMetadata id) :=
      fun v id => not_fails_entries fun _ => rfl
    have hitems : ∀ v : Value, ¬ Fails (Stray e) (v.items (.badNodeList "nodes")) :=
      fun v => not_fails_items fun _ => rfl
    unfold read
    dsimp only
    cases hheader : header? (.map es) with
    | none =>
      show Fails (Stray e) (.error .headerMissing : Except Fault Flow) ↔ _
      simp [not_overflows_of_header hheader, Fault.isMalformed]
    | some header =>
      simp only [pure, Except.pure, fails_bind, fails_readTrigger, htimes, not_fails_readText,
        hitems, fails_readNodes, not_fails_ok, false_or, and_false, exists_false, or_false]
      constructor
      · rintro (⟨he, hgiven, hover⟩ | ⟨t, ht, times, htimes, s, hs, items, hitems, he, hover⟩)
        · exact ⟨he, .trigger hheader hgiven hover⟩
        · exact ⟨he, .node hheader ⟨t, ht⟩ ⟨times, htimes⟩ ⟨s, hs⟩ hitems hover⟩
      · rintro ⟨he, hover⟩
        cases hover with
        | trigger hheader' hgiven hover => exact .inl ⟨he, hgiven, hover⟩
        | node hheader' htrigger htimes hid hitems hover =>
          obtain rfl := Option.some.inj (hheader.symm.trans hheader')
          obtain ⟨t, ht⟩ := htrigger
          obtain ⟨times, htimes⟩ := htimes
          obtain ⟨s, hs⟩ := hid
          exact .inr ⟨t, ht, times, htimes, s, hs, _, hitems, he, hover⟩

theorem reply_document_eq_failed_iff (fault : Fault) :
    (Service.Refusal.document fault).reply = .failed ↔ fault.isMalformed = false := by
  unfold Service.Refusal.reply
  dsimp only
  split
  · next h => simp [h, Service.Reply.refused, Service.Reply.failed]
  · next h => simp [h]

theorem read_eq_tooLarge_iff {v : Value} : Flow.read v = .error .tooLarge ↔ Overflows v := by
  have hfails := fails_read (e := .tooLarge) v
  rw [and_iff_right rfl] at hfails
  rw [← hfails]
  constructor
  · intro h
    exact ⟨.tooLarge, h, rfl, rfl⟩
  · rintro ⟨fault, h, rfl, -⟩
    exact h

theorem isMalformed_eq_false_iff {v : Value} {fault : Fault} (h : Flow.read v = .error fault) :
    fault.isMalformed = false ↔ Overflows v := by
  constructor
  · intro hnot
    have hfails : Fails (Stray fault) (Flow.read v) := ⟨fault, h, rfl, hnot⟩
    exact ((fails_read v).1 hfails).2
  · intro hover
    rw [read_eq_tooLarge_iff.2 hover] at h
    cases h
    rfl

/-- Whatever value is taken for a flow, it is read or refused as malformed, unless it holds an
integer past the range of doubles where a number is read. Such a value is refused with another
fault, which neither the service nor the loader expects. -/
theorem read_or_malformed_iff (v : Value) :
    ((∃ f, Flow.read v = .ok f) ∨ (∃ fault, Flow.read v = .error fault ∧ fault.isMalformed = true) ↔
      ¬ Overflows v) ∧
    (Flow.read v = .error .tooLarge ↔ Overflows v) ∧
    ∀ fault, Flow.read v = .error fault →
      ((Service.Refusal.document fault).reply = .failed ↔ Overflows v) ∧
      ∀ path, (LoadFault.badFlow path (.content fault)).isExpected = false ↔ Overflows v := by
  refine ⟨?_, read_eq_tooLarge_iff, fun fault h => ⟨?_, fun path => isMalformed_eq_false_iff h⟩⟩
  · rw [← read_eq_tooLarge_iff]
    cases h : Flow.read v with
    | ok f => simp
    | error fault =>
      have hiff := isMalformed_eq_false_iff h
      rw [← read_eq_tooLarge_iff, h] at hiff
      simp [← hiff]
  · rw [← isMalformed_eq_false_iff h, reply_document_eq_failed_iff]

/-- A flow whose model is to be called at a temperature of two to the power of 1024. -/
def overheated : Value :=
  .map [(.str "flow", .map [(.str "id", .str "ask")]),
    (.str "nodes", .list [.map [(.str "id", .str "call"), (.str "type", .str "llm_call"),
      (.str "spec", .map [(.str "temperature", .int (2 ^ 1024))])]])]

/-- The temperature is refused, though not as malformed. -/
theorem refused_overheated : Flow.read overheated = .error .tooLarge := by
  have hsize : (Value.int (2 ^ 1024)).IsOutsized := by
    have htwo : Int.natAbs 2 = 2 := rfl
    refine ⟨2 ^ 1024, rfl, ?_⟩
    rw [Int.natAbs_pow, htwo]
    generalize 2 ^ 970 = m
    apply Nat.sub_le
  have hnode : Node.Overflows .null (.map [(.str "id", .str "call"), (.str "type", .str "llm_call"),
      (.str "spec", .map [(.str "temperature", .int (2 ^ 1024))])]) :=
    ⟨_, .llmCall, rfl, rfl, rfl, ⟨_, rfl⟩, ⟨_, rfl⟩, _, rfl, hsize⟩
  exact (read_or_malformed_iff overheated).2.1.2
    (.node rfl ⟨none, rfl⟩ ⟨[], rfl⟩ ⟨"ask", rfl⟩ rfl (.inl hnode))

end Flow

end FlowGate
