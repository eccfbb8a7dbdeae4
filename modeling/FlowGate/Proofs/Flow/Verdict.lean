import FlowGate.Proofs.Finding
import FlowGate.Proofs.Flow.Walk

/-!
# The verdict on a flow

`Flow.Sound` says what a flow has to be like in terms of its nodes, connections and walks, and
`Flow.isValid_iff_sound` that a check finds no error exactly in sound flows. Each check of
`Flow.findings` is settled on its own: the lemmas `faultless_check…` say when it finds no error.
-/

namespace FlowGate

open Relation (TransGen)

namespace Flow

/-- What a flow has to be like. -/
structure Sound (f : Flow) : Prop where
  trigger : f.trigger ≠ none
  terminal : ∃ n ∈ f.allNodes, n.kind = .terminal
  /-- A walk gets stuck only where it may end. -/
  no_dead_end : ∀ n ∈ f.allNodes, f.Reachable n.id →
    n.kind ∉ [.terminal, .loop, .parallel] → n.connections ≠ []
  no_orphan : ∀ n ∈ f.nodes, f.Reachable n.id
  /-- Only agent flows may go round in circles. -/
  no_cycle : f.kind = .agent ∨ ∀ v, f.Reachable v → ¬ TransGen f.Edge v v
  branches : ∀ n ∈ f.allNodes, n.kind = .decision →
    (∃ c ∈ n.connections, c.sourceHandle = .str "true") ∧
      ∃ c ∈ n.connections, c.sourceHandle = .str "false"
  /-- The rules find no error; those for agent nodes count in agent flows only. -/
  rules : ∀ n ∈ f.allNodes, (n.kind ∈ [.agentLoop, .guardrail, .humanGate] → f.kind = .agent) →
    ∀ i ∈ n.check, i.severity ≠ .error
  agent_loop : f.kind = .agent → ∃ n ∈ f.allNodes, n.kind = .agentLoop

/-! ## Checks of the graph -/

theorem faultless_checkTrigger (f : Flow) : Faultless f.checkTrigger ↔ f.trigger ≠ none := by
  unfold checkTrigger
  cases f.trigger <;> simp [graphIssue]

theorem isDeadEnd_iff (n : Node) :
    n.isDeadEnd = true ↔ n.kind ∉ [.terminal, .loop, .parallel] ∧ n.connections = [] := by
  unfold Node.isDeadEnd NodeKind.mayEnd
  cases n.kind <;> simp

theorem faultless_checkEnds (f : Flow) :
    Faultless f.checkEnds ↔ (∃ n ∈ f.allNodes, n.kind = .terminal) ∧
      ∀ n ∈ f.allNodes, f.Reachable n.id →
        n.kind ∉ [.terminal, .loop, .parallel] → n.connections ≠ [] := by
  have hany : f.allNodes.any (·.kind = .terminal) = true ↔
      ∃ n ∈ f.allNodes, n.kind = .terminal := by simp
  unfold checkEnds
  rw [← hany]
  split
  · next h =>
    rw [faultless_map_of_error fun _ => rfl, List.filter_eq_nil_iff]
    simp only [h, true_and, Bool.and_eq_true, isDeadEnd_iff, List.contains_iff_mem, mem_reachable]
    exact ⟨fun H n hn hr hk hc => H n hn ⟨⟨hk, hc⟩, hr⟩,
      fun H n hn ⟨⟨hk, hc⟩, hr⟩ => H n hn hr hk hc⟩
  · next h => simp [h, graphIssue]

theorem faultless_checkOrphans (f : Flow) :
    Faultless f.checkOrphans ↔ ∀ n ∈ f.nodes, f.Reachable n.id := by
  unfold checkOrphans
  rw [faultless_map_of_error fun _ => rfl, List.filter_eq_nil_iff]
  simp [← mem_reachable]

theorem faultless_checkCycles (f : Flow) :
    Faultless f.checkCycles ↔ f.kind = .agent ∨ ∀ v, f.Reachable v → ¬ TransGen f.Edge v v := by
  have hcycle : (∀ v, f.Reachable v → ¬ TransGen f.Edge v v) ↔ ¬ f.hasCycle = true := by
    rw [hasCycle_iff]
    exact ⟨fun h ⟨v, hv, hc⟩ => h v hv hc, fun h v hv hc => h ⟨v, hv, hc⟩⟩
  unfold checkCycles
  rw [hcycle]
  cases f.kind <;> cases f.hasCycle <;> simp [graphIssue]

theorem leavesBy_iff (n : Node) (handle : String) :
    n.leavesBy handle = true ↔ ∃ c ∈ n.connections, c.sourceHandle = .str handle := by
  simp [Node.leavesBy]

theorem faultless_checkBranches (n : Node) :
    Faultless n.checkBranches ↔ n.leavesBy "true" = true ∧ n.leavesBy "false" = true := by
  simp only [Node.checkBranches, faultless_append]
  cases n.leavesBy "true" <;> cases n.leavesBy "false" <;> simp [graphIssue]

theorem faultless_checkTerminals (f : Flow) : Faultless f.checkTerminals :=
  faultless_map_of_warning fun _ => rfl

/-! ## Rules for the nodes -/

theorem family_eq_agent_iff (k : NodeKind) :
    k.family = .agent ↔ k ∈ [.agentLoop, .guardrail, .humanGate] := by
  cases k <;> simp [NodeKind.family]

theorem faultless_check (family : RuleFamily) (nodes : List Node) :
    Faultless (family.check nodes) ↔ ∀ n ∈ nodes, n.kind.family = family → Faultless n.check := by
  simp [RuleFamily.check]

theorem faultless_checkLoopCount (f : Flow) :
    Faultless f.checkLoopCount ↔ ∃ n ∈ f.allNodes, n.kind = .agentLoop := by
  have hsome : (∃ n ∈ f.allNodes, n.kind = .agentLoop) ↔
      (f.allNodes.filter (·.kind = .agentLoop)).length ≠ 0 := by simp
  unfold checkLoopCount
  rw [hsome]
  split <;> simp_all [loopIssue]

theorem faultless_checkAgent (f : Flow) :
    Faultless f.checkAgent ↔ (f.kind = .agent → ∃ n ∈ f.allNodes, n.kind = .agentLoop) ∧
      (f.kind = .agent → ∀ n ∈ f.allNodes, n.kind.family = .agent → Faultless n.check) := by
  unfold checkAgent
  split
  · next h => simp [h, faultless_checkLoopCount, faultless_check]
  · next h => simp [h]

/-! ## All checks -/

theorem eq_of_findings {f : Flow} {issues : List Issue} (h : f.findings = .ok issues) :
    issues = f.checkTrigger ++ f.checkEnds ++ f.checkOrphans ++ f.checkCycles
      ++ f.decisions.flatMap Node.checkBranches ++ f.checkTerminals
      ++ RuleFamily.core.check f.allNodes ++ f.checkAgent
      ++ RuleFamily.orchestration.check f.allNodes ++ RuleFamily.extended.check f.allNodes := by
  unfold findings checkDecisions at h
  split at h
  · cases h
  · split at h
    · cases h
    · cases h; rfl

theorem exists_findings_of_check {f : Flow} {r : Result} (h : f.check = .ok r) :
    ∃ issues, f.findings = .ok issues ∧
      r = ⟨.flow, f.key, issues.map (·.stamped (some f.id) f.domain)⟩ := by
  unfold check at h
  cases hf : f.findings with
  | error e => rw [hf] at h; cases h
  | ok issues =>
    rw [hf] at h
    refine ⟨issues, rfl, ?_⟩
    cases hlong : f.domain.isTooLong with
    | false => simpa [hlong, bind, Except.bind, pure, Except.pure] using h.symm
    | true => simp [hlong, bind, Except.bind] at h

theorem faultless_rules_iff (f : Flow) :
    (∀ n ∈ f.allNodes, (n.kind ∈ [.agentLoop, .guardrail, .humanGate] → f.kind = .agent) →
        Faultless n.check) ↔
      Faultless (RuleFamily.core.check f.allNodes) ∧
        (f.kind = .agent → ∀ n ∈ f.allNodes, n.kind.family = .agent → Faultless n.check) ∧
          Faultless (RuleFamily.orchestration.check f.allNodes) ∧
            Faultless (RuleFamily.extended.check f.allNodes) := by
  simp only [faultless_check, ← family_eq_agent_iff]
  constructor
  · intro h
    exact ⟨fun n hn hk => h n hn (by simp [hk]), fun ha n hn _ => h n hn fun _ => ha,
      fun n hn hk => h n hn (by simp [hk]), fun n hn hk => h n hn (by simp [hk])⟩
  · rintro ⟨hcore, hagent, horch, hext⟩ n hn ha
    cases hk : n.kind.family with
    | core => exact hcore n hn hk
    | agent => exact hagent (ha hk) n hn hk
    | orchestration => exact horch n hn hk
    | extended => exact hext n hn hk

theorem faultless_branches_iff (f : Flow) :
    Faultless (f.decisions.flatMap Node.checkBranches) ↔
      ∀ n ∈ f.allNodes, n.kind = .decision →
        (∃ c ∈ n.connections, c.sourceHandle = .str "true") ∧
          ∃ c ∈ n.connections, c.sourceHandle = .str "false" := by
  simp [decisions, faultless_checkBranches, leavesBy_iff]

theorem faultless_graph_of_check {f : Flow} {r : Result} (h : f.check = .ok r)
    (hr : r.errorCount = 0) : Faultless f.checkTrigger ∧ Faultless f.checkEnds ∧
      Faultless f.checkOrphans ∧ Faultless f.checkCycles := by
  obtain ⟨issues, hfound, rfl⟩ := exists_findings_of_check h
  rw [Result.errorCount_eq_zero_iff, faultless_map_stamped, eq_of_findings hfound] at hr
  simp only [faultless_append, and_assoc] at hr
  obtain ⟨htrigger, hends, horphans, hcycles, -⟩ := hr
  exact ⟨htrigger, hends, horphans, hcycles⟩

/-- A check that is carried out finds no error exactly in sound flows. -/
theorem isValid_iff_sound (f : Flow) (r : Result) (h : f.check = .ok r) :
    r.isValid = true ↔ f.Sound := by
  obtain ⟨issues, hfound, rfl⟩ := exists_findings_of_check h
  rw [Result.isValid_iff, faultless_map_stamped, eq_of_findings hfound]
  simp only [faultless_append, faultless_checkTrigger, faultless_checkEnds, faultless_checkOrphans,
    faultless_checkCycles, faultless_branches_iff, faultless_checkTerminals, faultless_checkAgent,
    true_and, and_assoc]
  constructor
  · rintro ⟨htrigger, hterminal, hends, horphan, hcycle, hbranch, hcore, hloop, hagent, horch, hext⟩
    exact ⟨htrigger, hterminal, hends, horphan, hcycle, hbranch,
      (faultless_rules_iff f).2 ⟨hcore, hagent, horch, hext⟩, hloop⟩
  · intro hs
    obtain ⟨hcore, hagent, horch, hext⟩ := (faultless_rules_iff f).1 hs.rules
    exact ⟨hs.trigger, hs.terminal, hs.no_dead_end, hs.no_orphan, hs.no_cycle, hs.branches, hcore,
      hs.agent_loop, hagent, horch, hext⟩

/-- A node of a parcel's way that leads on to other nodes. -/
def parcelNode (id : String) (targets : List String) : Node where
  id
  kind := .process
  spec := { row := (.str "carry", .null, .null, ()), extra := [] }
  label := id
  position := .origin
  connections := targets.map fun t => ⟨t, .null, .null⟩
  parent := .null

/-- A flow in which two nodes share an identifier. The first of them leads back to itself, but only
the connections of the last one count. Its end leads on to a node that does not exist. -/
def parcel : Flow where
  id := "parcel"
  name := .str "Parcel"
  domain := .str "shop"
  kind := .traditional
  trigger := some
    { id := "start"
      kind := .trigger
      spec := { row := (.str "order.placed", .null, .null, ()), extra := [] }
      label := "Start"
      position := .origin
      connections := [⟨"pack", .null, .null⟩]
      parent := .null }
  nodes :=
    [parcelNode "pack" ["pack"], parcelNode "pack" ["end"],
      { parcelNode "end" ["nowhere"] with kind := .terminal, spec := Record.absent _ }]
  description := .null
  created := .null
  modified := .null

/-- The verdict on a flow with a repeated identifier, a loop that does not count and a target that
is no node. -/
theorem sound_parcel : ∃ r, parcel.check = .ok r ∧ r.isValid = true ∧ parcel.Sound :=
  ⟨_, rfl, rfl, (isValid_iff_sound parcel _ rfl).1 rfl⟩

end Flow

end FlowGate
