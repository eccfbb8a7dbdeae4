import FlowGate.Proofs.Flow.Trail
import FlowGate.Proofs.Outcome
import FlowGate.Proofs.Store.Operation

/-!
# The node that a finding is about

Most findings of a check are about one node, and the store hands them out node by node. For a flow
whose nodes have distinct identifiers, `Flow.nodeFindings` lists what is found about a node, in
terms of walks and connections and of the rule for its kind, and `Flow.wholeFindings` what is found
about the flow as a whole. `Flow.attributed_of_check` says that the store has these lists and
nothing else: they share out the issues of a flow, and none belongs to two of them.
-/

namespace FlowGate

open Relation (TransGen)

/-! ## Findings -/

def Issue.foundIf (i : Issue) (p : Prop) [Decidable p] : List Issue := if p then [i] else []

namespace Node

def deadEnd (n : Node) : Issue :=
  graphIssue .error (n.described ++ " is a dead end with no outgoing connections")
    "Connect this node to a downstream node or terminal" (some n)

def orphan (n : Node) : Issue :=
  graphIssue .error (n.described ++ " is unreachable from the trigger")
    "Connect this node to the flow graph or remove it" (some n)

def missingBranch (n : Node) (answer handle : String) : Issue :=
  graphIssue .error
    ("Decision \"" ++ n.label ++ "\" is missing a \"" ++ answer ++ "\" (" ++ handle
      ++ ") branch connection")
    ("Connect the \"" ++ answer ++ "\" handle to a downstream node") (some n)

def leadsOn (n : Node) : Issue :=
  graphIssue .warning
    ("Terminal \"" ++ n.label ++ "\" has outgoing connections - terminals should be endpoints")
    "Remove outgoing connections from this terminal node" (some n)

end Node

namespace Flow

instance (f : Flow) : DecidablePred f.Reachable := fun v =>
  decidable_of_iff (v ∈ f.reachable) (f.mem_reachable v)

instance (f : Flow) : Decidable (∃ v, f.Reachable v ∧ TransGen f.Edge v v) :=
  decidable_of_iff (f.hasCycle = true) f.hasCycle_iff

/-- What is found about the place of a node in the graph. -/
def structuralFindings (f : Flow) (n : Node) : List Issue :=
  n.deadEnd.foundIf ((∃ m ∈ f.allNodes, m.kind = .terminal) ∧ f.Reachable n.id ∧
      n.kind ∉ [.terminal, .loop, .parallel] ∧ n.connections = []) ++
    n.orphan.foundIf (n ∈ f.nodes ∧ ¬ f.Reachable n.id) ++
    (n.missingBranch "Yes" "true").foundIf
      (n.kind = .decision ∧ ¬ ∃ c ∈ n.connections, c.sourceHandle = .str "true") ++
    (n.missingBranch "No" "false").foundIf
      (n.kind = .decision ∧ ¬ ∃ c ∈ n.connections, c.sourceHandle = .str "false") ++
    n.leadsOn.foundIf (n.kind = .terminal ∧ n.connections ≠ [])

/-- What the rule for the kind of a node finds. Agent nodes have rules in agent flows only. -/
def ruleFindings (f : Flow) (n : Node) : List Issue :=
  if n.kind ∈ [.agentLoop, .guardrail, .humanGate] ∧ f.kind = .traditional then [] else n.check

def nodeFindings (f : Flow) (n : Node) : List Issue := f.structuralFindings n ++ f.ruleFindings n

def triggerMissing : Issue :=
  graphIssue .error "Flow must have a trigger node" "Add a trigger node to start the flow" none

def terminalMissing : Issue :=
  graphIssue .error "Flow has no terminal nodes - all paths must end at a terminal"
    "Add a terminal node and connect your flow to it" none

def loopMissing : Issue :=
  loopIssue .error "Agent flow must have exactly one agent_loop node"
    (some "Add an agent_loop node from the toolbar")

def loopsRepeated (count : Nat) : Issue :=
  loopIssue .warning
    ("Agent flow has " ++ toString count ++ " agent_loop nodes - typically only one is expected")
    none

def loopCount (f : Flow) : Nat := (f.allNodes.filter (·.kind = .agentLoop)).length

def wholeFindings (f : Flow) : List Issue :=
  triggerMissing.foundIf (f.trigger = none) ++
    terminalMissing.foundIf (¬ ∃ m ∈ f.allNodes, m.kind = .terminal) ++
    cycleFound.foundIf (f.kind = .traditional ∧ ∃ v, f.Reachable v ∧ TransGen f.Edge v v) ++
    loopMissing.foundIf (f.kind = .agent ∧ f.loopCount = 0) ++
    (loopsRepeated f.loopCount).foundIf (f.kind = .agent ∧ 2 ≤ f.loopCount)

end Flow

/-! ## Issues by the node that they point at -/

def Owned (n : Node) (issues : List Issue) : Prop := ∀ i ∈ issues, i.node = some n.id

section

variable {F : Node → List Issue} {g : Node → Issue} {n : Node}

theorem owned_graphIssue (n : Node) (severity : Severity) (message suggestion : String) :
    Owned n [graphIssue severity message suggestion (some n)] := by
  intro i hi
  obtain rfl := List.mem_singleton.1 hi
  rfl

theorem owned_check (n : Node) : Owned n n.check := by
  intro i hi
  obtain ⟨remark, -, rfl⟩ := List.mem_map.1 hi
  rfl

theorem owned_checkBranches (n : Node) : Owned n n.checkBranches := by
  intro i hi
  simp only [Node.checkBranches, List.mem_append] at hi
  obtain hi | hi := hi <;>
    · split at hi
      · cases hi
      · exact owned_graphIssue n _ _ _ i hi

theorem filter_flatMap_of_owned (hF : ∀ m, Owned m (F m)) {ns : List Node} (hns : ns.Nodup)
    (hid : ∀ m ∈ ns, m.id = n.id → m = n) :
    (ns.flatMap F).filter (·.node == some n.id) = if n ∈ ns then F n else [] := by
  induction ns with
  | nil => rfl
  | cons m ns ih =>
    obtain ⟨hm, hns⟩ := List.nodup_cons.1 hns
    obtain ⟨hmid, hid⟩ := List.forall_mem_cons.1 hid
    rw [List.flatMap_cons, List.filter_append, ih hns hid]
    by_cases heq : m = n
    · subst heq
      rw [if_neg hm, if_pos List.mem_cons_self, List.append_nil, List.filter_eq_self]
      exact fun i hi => beq_iff_eq.2 (hF m i hi)
    · have hnone : (F m).filter (·.node == some n.id) = [] := by
        refine List.filter_eq_nil_iff.2 fun i hi hnode => heq (hmid ?_)
        exact Option.some.inj ((hF m i hi).symm.trans (beq_iff_eq.1 hnode))
      have hmem : n ∈ m :: ns ↔ n ∈ ns := by
        rw [List.mem_cons, or_iff_right (Ne.symm heq)]
      rw [hnone, List.nil_append]
      exact if_congr hmem.symm rfl rfl

/-- Whether issues point at some nodes, if at any. -/
def PointsInto (nodes : List Node) (issues : List Issue) : Prop :=
  ∀ i ∈ issues, ∀ id, i.node = some id → ∃ n ∈ nodes, n.id = id

variable {nodes ns : List Node}

theorem pointsInto_nil : PointsInto nodes [] := List.forall_mem_nil _

theorem pointsInto_append {is js : List Issue} :
    PointsInto nodes (is ++ js) ↔ PointsInto nodes is ∧ PointsInto nodes js :=
  List.forall_mem_append

theorem pointsInto_singleton {i : Issue} (h : i.node = none) : PointsInto nodes [i] := by
  intro j hj id hid
  rw [List.mem_singleton.1 hj, h] at hid
  cases hid

theorem pointsInto_flatMap (hF : ∀ m, Owned m (F m)) (hns : ns.Sublist nodes) :
    PointsInto nodes (ns.flatMap F) := by
  intro i hi id hid
  obtain ⟨m, hm, hi⟩ := List.mem_flatMap.1 hi
  exact ⟨m, hns.subset hm, Option.some.inj ((hF m i hi).symm.trans hid)⟩

theorem pointsInto_map (hg : ∀ m, Owned m [g m]) (hns : ns.Sublist nodes) :
    PointsInto nodes (ns.map g) := by
  rw [List.map_eq_flatMap]
  exact pointsInto_flatMap hg hns

end

namespace Flow

variable {f : Flow} {n : Node}

/-! ## The findings about a node -/

section

variable (hids : (f.allNodes.map (·.id)).Nodup) (hn : n ∈ f.allNodes)

include hids hn

theorem filter_flatMap_of_sublist {F : Node → List Issue} (hF : ∀ m, Owned m (F m)) {ns : List Node}
    (hns : ns.Sublist f.allNodes) :
    (ns.flatMap F).filter (·.node == some n.id) = if n ∈ ns then F n else [] :=
  filter_flatMap_of_owned hF ((List.Nodup.of_map _ hids).sublist hns) fun _ hm hid =>
    List.inj_on_of_nodup_map hids (hns.subset hm) hn hid

theorem filter_map_of_sublist {g : Node → Issue} (hg : ∀ m, Owned m [g m]) {ns : List Node}
    (hns : ns.Sublist f.allNodes) :
    (ns.map g).filter (·.node == some n.id) = (g n).foundIf (n ∈ ns) := by
  rw [List.map_eq_flatMap]
  exact filter_flatMap_of_sublist hids hn hg hns

theorem filter_checkEnds : f.checkEnds.filter (·.node == some n.id) =
    n.deadEnd.foundIf ((∃ m ∈ f.allNodes, m.kind = .terminal) ∧ f.Reachable n.id ∧
      n.kind ∉ [.terminal, .loop, .parallel] ∧ n.connections = []) := by
  have hany : f.allNodes.any (·.kind = .terminal) = true ↔
      ∃ m ∈ f.allNodes, m.kind = .terminal := by simp
  unfold checkEnds
  split
  · next hends =>
    refine (filter_map_of_sublist hids hn (fun m => owned_graphIssue m _ _ _)
      List.filter_sublist).trans ?_
    refine if_congr ?_ rfl rfl
    simp only [List.mem_filter, hn, true_and, Bool.and_eq_true, isDeadEnd_iff,
      List.contains_iff_mem, mem_reachable, hany.1 hends]
    tauto
  · next hends =>
    rw [Issue.foundIf, if_neg fun h => hends (hany.2 h.1)]
    rfl

theorem filter_checkOrphans : f.checkOrphans.filter (·.node == some n.id) =
    n.orphan.foundIf (n ∈ f.nodes ∧ ¬ f.Reachable n.id) := by
  have hsub : f.nodes.Sublist f.allNodes := List.sublist_append_right _ _
  refine (filter_map_of_sublist hids hn (fun m => owned_graphIssue m _ _ _)
    (List.filter_sublist.trans hsub)).trans ?_
  refine if_congr ?_ rfl rfl
  simp only [List.mem_filter, Bool.not_eq_true', ← Bool.not_eq_true, List.contains_iff_mem,
    mem_reachable]

theorem filter_branches : (f.decisions.flatMap Node.checkBranches).filter (·.node == some n.id) =
    (n.missingBranch "Yes" "true").foundIf
        (n.kind = .decision ∧ ¬ ∃ c ∈ n.connections, c.sourceHandle = .str "true") ++
      (n.missingBranch "No" "false").foundIf
        (n.kind = .decision ∧ ¬ ∃ c ∈ n.connections, c.sourceHandle = .str "false") := by
  refine (filter_flatMap_of_sublist hids hn owned_checkBranches List.filter_sublist).trans ?_
  simp only [List.mem_filter, hn, true_and, decide_eq_true_eq, ← leavesBy_iff]
  unfold Node.checkBranches Issue.foundIf
  by_cases hkind : n.kind = .decision
  · simp only [hkind, true_and]
    rw [if_pos trivial]
    cases n.leavesBy "true" <;> cases n.leavesBy "false" <;> rfl
  · simp only [hkind, false_and, if_false, List.append_nil]

theorem filter_checkTerminals : f.checkTerminals.filter (·.node == some n.id) =
    n.leadsOn.foundIf (n.kind = .terminal ∧ n.connections ≠ []) := by
  refine (filter_map_of_sublist hids hn (fun m => owned_graphIssue m _ _ _)
    List.filter_sublist).trans ?_
  refine if_congr ?_ rfl rfl
  simp [hn]

theorem filter_check (family : RuleFamily) :
    (family.check f.allNodes).filter (·.node == some n.id) =
      if n.kind.family = family then n.check else [] := by
  refine (filter_flatMap_of_sublist hids hn owned_check List.filter_sublist).trans ?_
  refine if_congr ?_ rfl rfl
  simp [hn]

theorem filter_checkAgent : f.checkAgent.filter (·.node == some n.id) =
    if f.kind = .agent ∧ n.kind.family = .agent then n.check else [] := by
  have hcount : f.checkLoopCount.filter (·.node == some n.id) = [] := by
    unfold checkLoopCount
    split <;> rfl
  unfold checkAgent
  split
  · next hkind => simp [hcount, filter_check hids hn, hkind]
  · next hkind => simp [hkind]

/-- The rules of the four families come to the one rule for the kind of the node. -/
theorem filter_rules :
    (RuleFamily.core.check f.allNodes).filter (·.node == some n.id) ++
      f.checkAgent.filter (·.node == some n.id) ++
      (RuleFamily.orchestration.check f.allNodes).filter (·.node == some n.id) ++
      (RuleFamily.extended.check f.allNodes).filter (·.node == some n.id) = f.ruleFindings n := by
  simp only [filter_check hids hn, filter_checkAgent hids hn]
  unfold ruleFindings
  simp only [← family_eq_agent_iff]
  cases n.kind.family with
  | agent => cases f.kind <;> simp
  | _ => simp

theorem filter_findings {issues : List Issue} (hfound : f.findings = .ok issues) :
    issues.filter (·.node == some n.id) = f.nodeFindings n := by
  have htrigger : f.checkTrigger.filter (·.node == some n.id) = [] := by
    unfold checkTrigger
    split <;> rfl
  have hcycles : f.checkCycles.filter (·.node == some n.id) = [] := by
    unfold checkCycles
    split <;> rfl
  rw [eq_of_findings hfound, nodeFindings, structuralFindings, ← filter_rules hids hn]
  simp only [List.filter_append, htrigger, filter_checkEnds hids hn, filter_checkOrphans hids hn,
    hcycles, filter_branches hids hn, filter_checkTerminals hids hn, List.nil_append,
    List.append_assoc]

end

/-! ## The findings about the flow as a whole -/

theorem filter_none_of_node {issues : List Issue} (h : ∀ i ∈ issues, i.node ≠ none) :
    issues.filter (·.node == none) = [] :=
  List.filter_eq_nil_iff.2 fun i hi hnode => h i hi (beq_iff_eq.1 hnode)

theorem filter_none_checkTrigger (f : Flow) : f.checkTrigger.filter (·.node == none) =
    triggerMissing.foundIf (f.trigger = none) := by
  unfold checkTrigger Issue.foundIf
  cases f.trigger <;> rfl

theorem filter_none_checkEnds (f : Flow) : f.checkEnds.filter (·.node == none) =
    terminalMissing.foundIf (¬ ∃ m ∈ f.allNodes, m.kind = .terminal) := by
  have hany : f.allNodes.any (·.kind = .terminal) = true ↔
      ∃ m ∈ f.allNodes, m.kind = .terminal := by simp
  unfold checkEnds
  split
  · next hends =>
    rw [Issue.foundIf, if_neg (not_not_intro (hany.1 hends))]
    exact filter_none_of_node fun i hi => node_of_mem_map hi
  · next hends =>
    rw [Issue.foundIf, if_pos (mt hany.2 hends)]
    rfl

theorem filter_none_checkCycles (f : Flow) : f.checkCycles.filter (·.node == none) =
    cycleFound.foundIf (f.kind = .traditional ∧ ∃ v, f.Reachable v ∧ TransGen f.Edge v v) := by
  have hcond : (f.kind = .traditional && f.hasCycle) = true ↔
      f.kind = .traditional ∧ ∃ v, f.Reachable v ∧ TransGen f.Edge v v := by
    rw [← hasCycle_iff, Bool.and_eq_true, decide_eq_true_eq]
  unfold checkCycles Issue.foundIf
  rw [apply_ite (List.filter _)]
  exact if_congr hcond rfl rfl

theorem checkLoopCount_eq (f : Flow) : f.checkLoopCount =
    loopMissing.foundIf (f.loopCount = 0) ++
      (loopsRepeated f.loopCount).foundIf (2 ≤ f.loopCount) := by
  unfold checkLoopCount loopCount Issue.foundIf
  generalize (f.allNodes.filter (·.kind = .agentLoop)).length = count
  split
  · rfl
  · rfl
  · next hzero hone =>
    rw [if_neg hzero, if_pos ((Nat.two_le_iff count).2 ⟨hzero, hone⟩)]
    rfl

theorem filter_none_checkAgent (f : Flow) : f.checkAgent.filter (·.node == none) =
    loopMissing.foundIf (f.kind = .agent ∧ f.loopCount = 0) ++
      (loopsRepeated f.loopCount).foundIf (f.kind = .agent ∧ 2 ≤ f.loopCount) := by
  have hrules : (RuleFamily.agent.check f.allNodes).filter (·.node == none) = [] :=
    filter_none_of_node fun _ => node_of_mem_check
  have hcount : f.checkLoopCount.filter (·.node == none) = f.checkLoopCount := by
    rw [checkLoopCount_eq, Issue.foundIf, Issue.foundIf]
    split <;> split <;> rfl
  unfold checkAgent
  by_cases hkind : f.kind = .agent
  · rw [if_pos hkind, List.filter_append, hrules, hcount, List.append_nil, checkLoopCount_eq]
    simp only [hkind, true_and]
  · rw [if_neg hkind]
    simp only [Issue.foundIf, hkind, false_and, if_false, List.append_nil, List.filter_nil]

theorem filter_none_findings {issues : List Issue} (hfound : f.findings = .ok issues) :
    issues.filter (·.node == none) = f.wholeFindings := by
  have horphans : f.checkOrphans.filter (·.node == none) = [] :=
    filter_none_of_node fun _ => node_of_mem_map
  have hterminals : f.checkTerminals.filter (·.node == none) = [] :=
    filter_none_of_node fun _ => node_of_mem_map
  have hbranches : (f.decisions.flatMap Node.checkBranches).filter (·.node == none) = [] := by
    refine filter_none_of_node fun i hi => ?_
    obtain ⟨n, -, hi⟩ := List.mem_flatMap.1 hi
    exact node_of_mem_checkBranches hi
  have hrules : ∀ family : RuleFamily, (family.check f.allNodes).filter (·.node == none) = [] :=
    fun _ => filter_none_of_node fun _ => node_of_mem_check
  rw [eq_of_findings hfound, wholeFindings]
  simp only [List.filter_append, filter_none_checkTrigger, filter_none_checkEnds, horphans,
    filter_none_checkCycles, hbranches, hterminals, hrules, filter_none_checkAgent,
    List.nil_append, List.append_nil, List.append_assoc]

/-- The findings of a check point at no other nodes than those of the flow. -/
theorem pointsInto_findings {issues : List Issue} (hfound : f.findings = .ok issues) :
    PointsInto f.allNodes issues := by
  have hnodes : f.nodes.Sublist f.allNodes := List.sublist_append_right _ _
  have hrules : ∀ family : RuleFamily, PointsInto f.allNodes (family.check f.allNodes) :=
    fun _ => pointsInto_flatMap owned_check List.filter_sublist
  rw [eq_of_findings hfound]
  simp only [pointsInto_append, and_assoc]
  refine ⟨?_, ?_, ?_, ?_, ?_, ?_, hrules _, ?_, hrules _, hrules _⟩
  · unfold checkTrigger
    split
    · exact pointsInto_singleton rfl
    · exact pointsInto_nil
  · unfold checkEnds
    split
    · exact pointsInto_map (fun m => owned_graphIssue m _ _ _) List.filter_sublist
    · exact pointsInto_singleton rfl
  · exact pointsInto_map (fun m => owned_graphIssue m _ _ _)
      (List.filter_sublist.trans hnodes)
  · unfold checkCycles
    split
    · exact pointsInto_singleton rfl
    · exact pointsInto_nil
  · exact pointsInto_flatMap owned_checkBranches List.filter_sublist
  · exact pointsInto_map (fun m => owned_graphIssue m _ _ _) List.filter_sublist
  · unfold checkAgent
    split
    · refine pointsInto_append.2 ⟨?_, hrules _⟩
      unfold checkLoopCount
      split
      · exact pointsInto_singleton rfl
      · exact pointsInto_nil
      · exact pointsInto_singleton rfl
    · exact pointsInto_nil

end Flow

/-! ## All findings -/

/-- Issues that point at nodes with some distinct identifiers or at none, shared out among them. -/
theorem perm_filter_node {ids : List String} (hids : ids.Nodup) {notices : List Notice}
    (h : ∀ i ∈ notices, ∀ id, i.node = some id → id ∈ ids) :
    notices.Perm (notices.filter (·.node == none) ++
      ids.flatMap fun id => notices.filter (·.node == some id)) := by
  induction ids generalizing notices with
  | nil =>
    rw [List.flatMap_nil, List.append_nil, List.filter_eq_self.2]
    intro i hi
    exact beq_iff_eq.2 (Option.eq_none_iff_forall_not_mem.2 fun id hid =>
      List.not_mem_nil (h i hi id hid))
  | cons id ids ih =>
    obtain ⟨hid, hids⟩ := List.nodup_cons.1 hids
    have helsewhere : ∀ i ∈ notices.filter (!·.node == some id), ∀ id', i.node = some id' →
        id' ∈ ids := by
      intro i hi id' hid'
      obtain ⟨hi, hne⟩ := List.mem_filter.1 hi
      refine (List.mem_cons.1 (h i hi id' hid')).resolve_left ?_
      rintro rfl
      simp [hid'] at hne
    have hrest := ih hids helsewhere
    have hsame : ∀ o : Option String, o ≠ some id →
        (notices.filter (!·.node == some id)).filter (·.node == o) =
          notices.filter (·.node == o) := by
      intro o ho
      rw [List.filter_filter]
      refine List.filter_congr fun i _ => ?_
      by_cases hi : i.node = o
      · simp [hi, ho]
      · simp [hi]
    have hflat : (ids.flatMap fun id' =>
        (notices.filter (!·.node == some id)).filter (·.node == some id')) =
          ids.flatMap fun id' => notices.filter (·.node == some id') :=
      List.flatMap_congr fun id' hid' => hsame _ fun heq => hid (Option.some.inj heq ▸ hid')
    rw [hsame none nofun, hflat] at hrest
    have hsplit := List.filter_append_perm (·.node == some id) notices
    rw [List.flatMap_cons]
    exact hsplit.symm.trans ((hrest.append_left _).trans (List.perm_append_comm_assoc _ _ _))

namespace Flow

open Store (checkFlow)

variable {marks : Marks} {f : Flow} {v : Verdict} {s s' : Store}

theorem nodeIssues_of_get? {key : String} (h : s.flows.get? key = some v) (id : String) :
    s.nodeIssues key id = v.notices.filter (·.node == some id) := by
  unfold Store.nodeIssues
  rw [h]

theorem map_nodeIssues_of_get? {key : String} (h : s.flows.get? key = some v) (id : String) :
    (s.nodeIssues key id).map (·.toIssue) = v.result.issues.filter (·.node == some id) := by
  rw [nodeIssues_of_get? h, Verdict.result, List.filter_map]
  rfl

/-- What a stored check says of each node and of the flow as a whole, where nodes have distinct
identifiers: what is found about them and nothing else, and all issues are among this. -/
theorem attributed_of_check (hids : (f.allNodes.map (·.id)).Nodup)
    (h : checkFlow marks f s = (.ok v, s')) :
    s'.flows.get? f.key = some v ∧
    (∀ i ∈ v.result.issues, ∀ id, i.node = some id → ∃ n ∈ f.allNodes, n.id = id) ∧
    (∀ n ∈ f.allNodes, (s'.nodeIssues f.key n.id).map (·.toIssue) =
      (f.nodeFindings n).map (·.stamped (some f.id) f.domain)) ∧
    v.result.issues.filter (·.node == none) =
      f.wholeFindings.map (·.stamped (some f.id) f.domain) ∧
    v.notices.Perm (v.notices.filter (·.node == none) ++
      f.allNodes.flatMap fun n => s'.nodeIssues f.key n.id) := by
  have hmade : f.check.map (·.made marks) = .ok v := by rw [← Store.fst_checkFlow marks f s, h]
  obtain ⟨r, hcheck, rfl⟩ := map_eq_ok.1 hmade
  have hget : s'.flows.get? f.key = some (r.made marks) := by
    rw [Store.checkFlow_ok hcheck] at h
    cases h
    exact (Table.get?_put _ _ _ _).trans (if_pos rfl)
  rw [Result.result_made]
  obtain ⟨issues, hfound, hr⟩ := exists_findings_of_check hcheck
  have hissues : r.issues = issues.map (·.stamped (some f.id) f.domain) := by rw [hr]
  have hfilter : ∀ o : Option String, r.issues.filter (·.node == o) =
      (issues.filter (·.node == o)).map (·.stamped (some f.id) f.domain) := by
    intro o
    rw [hissues, List.filter_map]
    rfl
  have hpoints : ∀ i ∈ r.issues, ∀ id, i.node = some id → ∃ n ∈ f.allNodes, n.id = id := by
    rw [hissues, List.forall_mem_map]
    exact pointsInto_findings hfound
  refine ⟨hget, hpoints, fun n hn => ?_, ?_, ?_⟩
  · rw [map_nodeIssues_of_get? hget, Result.result_made, hfilter, filter_findings hids hn hfound]
  · rw [hfilter, filter_none_findings hfound]
  · have hnotices : ∀ n ∈ (r.made marks).notices, ∀ id, n.node = some id →
        id ∈ f.allNodes.map (·.id) := by
      intro n hn id hid
      refine List.mem_map.2 (hpoints n.toIssue ?_ id hid)
      rw [← r.result_made marks]
      exact List.mem_map_of_mem hn
    have hperm := perm_filter_node hids hnotices
    rw [List.flatMap_map] at hperm
    simpa only [nodeIssues_of_get? hget] using hperm

/-- A flow in which much is wrong: a decision of which one answer is missing and that another way
comes back to, a way that gets stuck, an end that leads on and cannot be reached, and an agent node
that no rule is for. -/
def halfway : Flow :=
  { parcel with
    nodes :=
      [{ parcelNode "pack" [] with
          kind := .decision
          spec := Record.absent _
          connections := [⟨"left", .str "true", .null⟩, ⟨"round", .null, .null⟩] },
        parcelNode "left" [], parcelNode "round" ["pack"],
        { parcelNode "end" ["left"] with kind := .terminal, spec := Record.absent _ },
        { parcelNode "guard" ["left"] with kind := .guardrail, spec := Record.absent _ }] }

/-- Of the seven issues one is about the flow as a whole, and six are handed out node by node. -/
theorem attributed_halfway : (halfway.allNodes.map (·.id)).Nodup ∧
    ∃ v s, checkFlow (.numbered "08:00") halfway .empty = (.ok v, s) ∧ v.notices.length = 7 ∧
      v.result.issues.filter (·.node == none) = [halfway.circularIssue] ∧
      halfway.allNodes.map (fun n => (s.nodeIssues halfway.key n.id).map (·.id)) =
        [[], ["08:00-4", "08:00-6"], ["08:00-0"], [], ["08:00-1", "08:00-5"], ["08:00-2"]] ∧
      ∀ n ∈ halfway.allNodes, (s.nodeIssues halfway.key n.id).map (·.toIssue) =
        (halfway.nodeFindings n).map (·.stamped (some halfway.id) halfway.domain) := by
  have hids : (halfway.allNodes.map (·.id)).Nodup := by decide
  have hchecked : ∃ r, halfway.check = .ok r ∧ r.issues.length = 7 := ⟨_, rfl, by decide +kernel⟩
  obtain ⟨r, hcheck, hlength⟩ := hchecked
  have hstored : checkFlow (.numbered "08:00") halfway .empty = _ := Store.checkFlow_ok hcheck
  obtain ⟨hget, -, hnodes, hwhole, -⟩ := attributed_of_check hids hstored
  have hcycle : halfway.wholeFindings = [cycleFound] := by decide +kernel
  have hnumbers : halfway.allNodes.map (fun n => ((checkFlow (.numbered "08:00") halfway
      .empty).2.nodeIssues halfway.key n.id).map (·.id)) =
        [[], ["08:00-4", "08:00-6"], ["08:00-0"], [], ["08:00-1", "08:00-5"], ["08:00-2"]] := by
    decide +kernel
  rw [hstored] at hnumbers
  refine ⟨hids, _, _, hstored, ?_, hwhole.trans ?_, hnumbers, hnodes⟩
  · simpa [Result.made] using hlength
  · rw [hcycle]
    rfl

end Flow

end FlowGate
