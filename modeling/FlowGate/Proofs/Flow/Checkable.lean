import FlowGate.Flow.Reading
import FlowGate.Proofs.Flow.Verdict
import FlowGate.Proofs.Outcome
import FlowGate.Proofs.Value.Text

/-!
# Which flows can be checked

A flow that was read may still hold any value where a text is meant. Most places bear that; a check
stops at a handle of a decision that cannot be compared, and at a value without a text where a rule
or the name of the result needs one. `Flow.check_eq_error_iff` says at which of them it stops, and
`Flow.checked_iff_checkable` that nothing else keeps a flow from being checked.
-/

namespace FlowGate.Flow

variable {f : Flow} {fault : CheckFault}

/-- What a flow has to be like for its check to be carried out. -/
structure Checkable (f : Flow) : Prop where
  /-- Lists, mappings and sets cannot be compared with the answers of a decision. -/
  handles : ∀ n ∈ f.allNodes, n.kind = .decision →
    ∀ c ∈ n.connections, c.sourceHandle.isKey = true
  /-- The rules for agent nodes read nothing in a traditional flow. -/
  wordings : ∀ n ∈ f.allNodes, (n.kind ∈ [.agentLoop, .guardrail, .humanGate] → f.kind = .agent) →
    ∀ v ∈ n.spec.wordings n.kind, v.HasText
  domain : f.domain.HasText

def answers (f : Flow) : List Connection := f.decisions.flatMap (·.connections)

/-- The first answer whose handle cannot be compared. -/
def strayAnswer? (f : Flow) : Option Connection := f.answers.find? (!·.sourceHandle.isKey)

/-! ## Handles -/

theorem strayAnswer?_eq_none_iff : f.strayAnswer? = none ↔
    ∀ n ∈ f.allNodes, n.kind = .decision → ∀ c ∈ n.connections, c.sourceHandle.isKey = true := by
  unfold strayAnswer? answers decisions
  rw [List.find?_eq_none]
  simp only [List.mem_flatMap, List.mem_filter, decide_eq_true_eq, Bool.not_eq_true',
    Bool.not_eq_false]
  constructor
  · intro h n hn hkind c hc
    exact h c ⟨n, ⟨hn, hkind⟩, hc⟩
  · rintro h c ⟨n, ⟨hn, hkind⟩, hc⟩
    exact h n hn hkind c hc

theorem findSome?_handleFault? (f : Flow) :
    f.decisions.findSome? Node.handleFault? =
      f.strayAnswer?.map fun c => .handle c.sourceHandle := by
  unfold strayAnswer? answers
  rw [List.find?_flatMap, List.map_findSome?]
  rfl

/-! ## Texts -/

theorem readsTooLong_eq_false_iff (n : Node) :
    n.readsTooLong = false ↔ ∀ v ∈ n.spec.wordings n.kind, v.HasText := by
  simp only [Node.readsTooLong, List.any_eq_false, Bool.not_eq_true, Value.isTooLong_eq_false_iff]

theorem mem_ruledNodes {n : Node} : n ∈ f.ruledNodes ↔
    n ∈ f.allNodes ∧ (n.kind ∈ [.agentLoop, .guardrail, .humanGate] → f.kind = .agent) := by
  rw [ruledNodes, List.mem_filter, ← family_eq_agent_iff]
  simp [or_iff_not_imp_right]

theorem any_readsTooLong_eq_false_iff (f : Flow) : f.ruledNodes.any Node.readsTooLong = false ↔
    ∀ n ∈ f.allNodes, (n.kind ∈ [.agentLoop, .guardrail, .humanGate] → f.kind = .agent) →
      ∀ v ∈ n.spec.wordings n.kind, v.HasText := by
  simp only [List.any_eq_false, Bool.not_eq_true, mem_ruledNodes, readsTooLong_eq_false_iff,
    and_imp]

theorem checkable_iff (f : Flow) : f.Checkable ↔ f.strayAnswer? = none ∧
    f.ruledNodes.any Node.readsTooLong = false ∧ f.domain.isTooLong = false := by
  rw [strayAnswer?_eq_none_iff, any_readsTooLong_eq_false_iff, Value.isTooLong_eq_false_iff]
  exact ⟨fun h => ⟨h.handles, h.wordings, h.domain⟩, fun ⟨hh, hw, hd⟩ => ⟨hh, hw, hd⟩⟩

/-! ## Where a check stops -/

theorem check_of_strayAnswer {c : Connection} (h : f.strayAnswer? = some c) :
    f.check = .error (.handle c.sourceHandle) := by
  unfold check findings checkDecisions
  rw [findSome?_handleFault?, h]
  rfl

theorem check_of_readsTooLong (h : f.strayAnswer? = none)
    (hlong : f.ruledNodes.any Node.readsTooLong = true) : f.check = .error .tooLong := by
  unfold check findings checkDecisions
  rw [findSome?_handleFault?, h]
  dsimp only [Option.map_none]
  rw [ok_bind, if_pos hlong]
  rfl

theorem exists_findings (h : f.strayAnswer? = none)
    (hlong : f.ruledNodes.any Node.readsTooLong = false) : ∃ issues, f.findings = .ok issues := by
  unfold findings checkDecisions
  rw [findSome?_handleFault?, h]
  dsimp only [Option.map_none]
  rw [ok_bind, hlong]
  exact ⟨_, rfl⟩

/-- What a check does: it stops at a handle, else at a text, else it has a result. -/
theorem check_cases (f : Flow) :
    (∃ c, f.strayAnswer? = some c ∧ f.check = .error (.handle c.sourceHandle)) ∨
      (f.strayAnswer? = none ∧ ¬ f.Checkable ∧ f.check = .error .tooLong) ∨
        f.Checkable ∧ ∃ r, f.check = .ok r := by
  rw [checkable_iff]
  cases hstray : f.strayAnswer? with
  | some c => exact .inl ⟨c, rfl, check_of_strayAnswer hstray⟩
  | none =>
    right
    cases hlong : f.ruledNodes.any Node.readsTooLong with
    | true => exact .inl ⟨rfl, by simp, check_of_readsTooLong hstray hlong⟩
    | false =>
      obtain ⟨issues, hissues⟩ := exists_findings hstray hlong
      unfold check
      rw [hissues, ok_bind]
      cases f.domain.isTooLong with
      | true => exact .inl ⟨rfl, by simp, rfl⟩
      | false => exact .inr ⟨⟨rfl, rfl, rfl⟩, _, rfl⟩

theorem check_eq_ok_iff (f : Flow) : (∃ r, f.check = .ok r) ↔ f.Checkable := by
  constructor
  · rintro ⟨r, hr⟩
    obtain ⟨c, -, hc⟩ | ⟨-, -, hlong⟩ | ⟨h, -⟩ := f.check_cases
    · rw [hr] at hc
      cases hc
    · rw [hr] at hlong
      cases hlong
    · exact h
  · intro h
    obtain ⟨c, hstray, -⟩ | ⟨-, hnot, -⟩ | ⟨-, hr⟩ := f.check_cases
    · rw [((checkable_iff f).1 h).1] at hstray
      cases hstray
    · exact absurd h hnot
    · exact hr

/-- A flow, however it was read, can be checked exactly if its decisions have handles that can be
compared and its texts are texts. If not, the check stops at the first handle that cannot be
compared; a value without a text stops it only if there is no such handle. -/
theorem checked_iff_checkable (f : Flow) :
    ((∃ r, f.check = .ok r) ↔ f.Checkable) ∧
      ∀ fault, f.check = .error fault ↔
        (∃ c, f.strayAnswer? = some c ∧ fault = .handle c.sourceHandle) ∨
          f.strayAnswer? = none ∧ ¬ f.Checkable ∧ fault = .tooLong := by
  refine ⟨f.check_eq_ok_iff, fun fault => ?_⟩
  obtain ⟨c, hstray, hcheck⟩ | ⟨hstray, hnot, hcheck⟩ | ⟨h, r, hcheck⟩ := f.check_cases
  · rw [hcheck, hstray]
    simp [eq_comm]
  · rw [hcheck, hstray]
    simp [hnot, eq_comm]
  · rw [hcheck, ((checkable_iff f).1 h).1]
    simp [h]

/-- A flow whose only node is a decision that leads on for a list of answers. -/
def undecided : Value :=
  .map [(.str "flow", .map [(.str "id", .str "parcel")]),
    (.str "nodes", .list [.map [(.str "id", .str "ask"), (.str "type", .str "decision"),
      (.str "connections", .list [.map [(.str "targetNodeId", .str "end"),
        (.str "sourceHandle", .list [.str "maybe"])]])]])]

/-- A flow that is read as it stands and then stops its check. -/
theorem stopped_undecided : ∃ f, Flow.read undecided = .ok f ∧ ¬ f.Checkable ∧
    f.check = .error (.handle (.list [.str "maybe"])) := by
  refine ⟨_, rfl, ?_, rfl⟩
  rw [← (checked_iff_checkable _).1]
  rintro ⟨r, hr⟩
  cases hr

end FlowGate.Flow
