import FlowGate.Check.Flow
import FlowGate.Proofs.Flow.RoundTrip

/-!
# The diagnosis of a stored flow

A check looks at the identifiers, kinds, specs, labels and connections of nodes, and at the
identifier, the kind and the domain of a flow. What storing a flow drops, descriptions and groups
that do not count as given, is not among them: each part of a check comes to the same on
`Flow.settled` as on the flow, and so a flow that was stored and read again has the diagnosis that
it had before.
-/

namespace FlowGate

theorem RuleFamily.check_settled (family : RuleFamily) (nodes : List Node) :
    family.check (nodes.map Node.settled) = family.check nodes := by
  unfold RuleFamily.check
  rw [List.filter_map, List.flatMap_map]
  rfl

namespace Flow

variable (f : Flow)

theorem allNodes_settled : f.settled.allNodes = f.allNodes.map Node.settled := by
  unfold allNodes
  rw [List.map_append]
  cases h : f.trigger <;> simp [settled, h]

/-! ## The graph -/

theorem graph_settled : f.settled.graph = f.graph := by
  unfold graph Graph.ofNodes
  rw [allNodes_settled, List.map_map]
  rfl

theorem reachable_settled : f.settled.reachable = f.reachable := by
  unfold reachable
  rw [graph_settled]
  cases h : f.trigger <;> simp [settled, h, Node.settled]

theorem hasCycle_settled : f.settled.hasCycle = f.hasCycle := by
  unfold hasCycle
  rw [graph_settled]
  cases h : f.trigger <;> simp [settled, h, Node.settled]

theorem checkTrigger_settled : f.settled.checkTrigger = f.checkTrigger := by
  unfold checkTrigger
  cases h : f.trigger <;> simp [settled, h]

theorem checkEnds_settled : f.settled.checkEnds = f.checkEnds := by
  unfold checkEnds
  rw [allNodes_settled, reachable_settled, List.any_map]
  dsimp only
  rw [List.filter_map, List.map_map]
  rfl

theorem checkOrphans_settled : f.settled.checkOrphans = f.checkOrphans := by
  unfold checkOrphans
  rw [reachable_settled]
  show List.map _ ((f.nodes.map Node.settled).filter _) = _
  rw [List.filter_map, List.map_map]
  rfl

theorem checkCycles_settled : f.settled.checkCycles = f.checkCycles := by
  unfold checkCycles
  rw [hasCycle_settled]
  rfl

theorem decisions_settled : f.settled.decisions = f.decisions.map Node.settled := by
  unfold decisions
  rw [allNodes_settled, List.filter_map]
  rfl

theorem checkDecisions_settled : f.settled.checkDecisions = f.checkDecisions := by
  unfold checkDecisions
  rw [decisions_settled, List.findSome?_map, List.flatMap_map]
  rfl

theorem checkTerminals_settled : f.settled.checkTerminals = f.checkTerminals := by
  unfold checkTerminals
  rw [allNodes_settled, List.filter_map, List.map_map]
  rfl

/-! ## The rules -/

theorem checkLoopCount_settled : f.settled.checkLoopCount = f.checkLoopCount := by
  have hcount : (f.settled.allNodes.filter (·.kind = .agentLoop)).length =
      (f.allNodes.filter (·.kind = .agentLoop)).length := by
    rw [allNodes_settled, List.filter_map, List.length_map]
    rfl
  unfold checkLoopCount
  rw [hcount]

theorem checkAgent_settled : f.settled.checkAgent = f.checkAgent := by
  unfold checkAgent
  rw [checkLoopCount_settled, allNodes_settled, RuleFamily.check_settled]
  rfl

theorem ruledNodes_settled : f.settled.ruledNodes = f.ruledNodes.map Node.settled := by
  unfold ruledNodes
  rw [allNodes_settled, List.filter_map]
  rfl

theorem any_readsTooLong_settled :
    f.settled.ruledNodes.any Node.readsTooLong = f.ruledNodes.any Node.readsTooLong := by
  rw [ruledNodes_settled, List.any_map]
  rfl

/-! ## The whole check -/

theorem findings_settled : f.settled.findings = f.findings := by
  unfold findings
  rw [checkDecisions_settled, any_readsTooLong_settled, checkTrigger_settled, checkEnds_settled,
    checkOrphans_settled, checkCycles_settled, checkTerminals_settled, checkAgent_settled,
    allNodes_settled]
  simp only [RuleFamily.check_settled]

/-- What storing drops is not looked at by a check. -/
theorem check_settled : f.settled.check = f.check := by
  unfold check
  rw [findings_settled]
  rfl

/-- A flow that was read can be stored and read again, and the flow that comes of it is checked with
the same outcome: the same issues in the same order under the same target, or the same fault. -/
theorem check_read_write (v : Value) (f : Flow) (h : Flow.read v = .ok f) :
    ∃ g, Flow.read f.write = .ok g ∧ g.check = f.check :=
  ⟨f.settled, read_write (named_of_read h), f.check_settled⟩

/-- An agent flow with an empty description, whose only node is a decision in a group without a
name. -/
def grouped : Value :=
  .map [(.str "flow", .map [(.str "id", .str "parcel"), (.str "type", .str "agent"),
      (.str "description", .str "")]),
    (.str "nodes", .list [.map [(.str "id", .str "ask"), (.str "type", .str "decision"),
      (.str "parentId", .str ""),
      (.str "connections", .list [.map [(.str "targetNodeId", .str "ask"),
        (.str "sourceHandle", .str "true")]])]])]

/-- The stored flow is another one, and it has all the issues. -/
theorem check_read_write_grouped : ∃ f g res, Flow.read grouped = .ok f ∧
    Flow.read f.write = .ok g ∧ g ≠ f ∧ f.check = .ok res ∧ g.check = .ok res ∧
      res.issues.length = 6 := by
  obtain ⟨g, hread, hcheck⟩ := check_read_write grouped _ rfl
  refine ⟨_, g, _, rfl, hread, ?_, rfl, hcheck, by decide⟩
  rintro rfl
  revert hread
  decide

end Flow

end FlowGate
