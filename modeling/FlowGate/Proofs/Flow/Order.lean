import FlowGate.Proofs.Flow.Checkable
import Mathlib.Data.List.Perm.Basic

/-!
# The order of nodes and connections

A flow is stored as a list of nodes, each with a list of connections, but the order of neither list
means anything. `Flow.check_reordered` says so of checks: a flow whose nodes have distinct
identifiers has the same issues, up to their order, as the flow with its nodes and the connections
of each node in another order.

A check looks at a node by functions that are `Steady`, which do not depend on the order of its
connections, and what such functions make of the nodes of a `Shuffled` list is the same up to its
order. The searches through the graph take other ways in the two flows. They come to the same since
the flows have the same edges, from which it follows what can be reached and what lies on a cycle.
-/

namespace FlowGate

open List (Forall₂)

variable {α : Type} {nodes nodes' : List Node}

/-- A node and the same node with its connections in another order. -/
inductive Node.Reordered (n : Node) : Node → Prop
  | intro {cs : List Connection} : n.connections.Perm cs →
      n.Reordered { n with connections := cs }

/-- Nodes and the same nodes in another order, each with its connections in another order. -/
def Shuffled (nodes nodes' : List Node) : Prop :=
  ∃ ns, nodes.Perm ns ∧ Forall₂ Node.Reordered ns nodes'

/-- A function of nodes for which the order of their connections does not matter. -/
def Node.Steady (F : Node → α) : Prop := ∀ n m : Node, n.Reordered m → F n = F m

/-! ## Functions that do not see the order -/

namespace Node

theorem steady_of_with {F : Node → α} (h : ∀ n cs, F { n with connections := cs } = F n) :
    Steady F := by
  rintro n _ ⟨-⟩
  exact (h n _).symm

theorem Steady.and {p q : Node → Bool} (hp : Steady p) (hq : Steady q) :
    Steady fun n => p n && q n :=
  fun n m h => congrArg₂ Bool.and (hp n m h) (hq n m h)

theorem steady_isDeadEnd : Steady isDeadEnd := by
  rintro n _ ⟨hperm⟩
  simp only [isDeadEnd, hperm.isEmpty_eq]

theorem steady_leads : Steady fun n : Node => !n.connections.isEmpty := by
  rintro n _ ⟨hperm⟩
  simp only [hperm.isEmpty_eq]

theorem steady_checkBranches : Steady checkBranches := by
  have hleaves : ∀ handle, Steady (leavesBy · handle) := by
    rintro handle n _ ⟨hperm⟩
    simp only [leavesBy, hperm.any_eq]
  intro n m h
  have htrue := hleaves "true" n m h
  have hfalse := hleaves "false" n m h
  obtain ⟨-⟩ := h
  simp only [checkBranches, htrue, hfalse]
  rfl

theorem steady_keys : Steady fun n : Node =>
    n.kind = .decision → ∀ c ∈ n.connections, c.sourceHandle.isKey = true := by
  rintro n _ ⟨hperm⟩
  simp only [hperm.mem_iff]

end Node

/-! ## What is made of shuffled nodes -/

namespace Shuffled

open Node (Steady)

theorem filter (h : Shuffled nodes nodes') {p : Node → Bool} (hp : Steady p) :
    Shuffled (nodes.filter p) (nodes'.filter p) := by
  obtain ⟨ns, hperm, hns⟩ := h
  refine ⟨ns.filter p, hperm.filter p, List.rel_filter (fun n m hnm => ?_) hns⟩
  exact Bool.eq_iff_iff.1 (hp n m hnm)

theorem map (h : Shuffled nodes nodes') {F : Node → α} (hF : Steady F) :
    (nodes.map F).Perm (nodes'.map F) := by
  obtain ⟨ns, hperm, hns⟩ := h
  have heq : Forall₂ (· = ·) (ns.map F) (nodes'.map F) := List.rel_map hF hns
  rw [List.forall₂_eq_eq_eq] at heq
  exact heq ▸ hperm.map F

theorem flatMap (h : Shuffled nodes nodes') {F : Node → List α} (hF : Steady F) :
    (nodes.flatMap F).Perm (nodes'.flatMap F) := by
  rw [List.flatMap_def, List.flatMap_def]
  exact (h.map hF).flatten

theorem length_eq (h : Shuffled nodes nodes') : nodes.length = nodes'.length := by
  simpa using (h.map (F := fun _ => ()) fun _ _ _ => rfl).length_eq

theorem forall_iff (h : Shuffled nodes nodes') {P : Node → Prop} (hP : Steady P) :
    (∀ n ∈ nodes, P n) ↔ ∀ n ∈ nodes', P n := by
  have hall : ∀ ns : List Node, (∀ n ∈ ns, P n) ↔ ∀ p ∈ ns.map P, p :=
    fun _ => (List.forall_mem_map (f := P) (P := id)).symm
  rw [hall, hall]
  simp only [(h.map hP).mem_iff]

theorem exists_iff (h : Shuffled nodes nodes') {P : Node → Prop} (hP : Steady P) :
    (∃ n ∈ nodes, P n) ↔ ∃ n ∈ nodes', P n := by
  have hnot : Steady fun n => ¬ P n := fun n m hnm => congrArg Not (hP n m hnm)
  simpa using not_congr (h.forall_iff hnot)

theorem any_eq (h : Shuffled nodes nodes') {p : Node → Bool} (hp : Steady p) :
    nodes.any p = nodes'.any p := by
  have hp' : Steady fun n => p n = true := fun n m hnm => congrArg (· = true) (hp n m hnm)
  rw [Bool.eq_iff_iff, List.any_eq_true, List.any_eq_true, h.exists_iff hp']

end Shuffled

/-! ## Flows in another order -/

namespace Flow

open Node (Steady)
open Relation (ReflTransGen)

variable {f g : Flow}

/-- A flow and the same flow with its nodes in another order, and with the connections of each node
in another order. -/
inductive Reordered (f : Flow) : Flow → Prop
  | intro {trigger : Option Node} {nodes : List Node} :
      Option.Rel Node.Reordered f.trigger trigger → Shuffled f.nodes nodes →
        f.Reordered { f with trigger, nodes }

theorem Reordered.shuffled_nodes (h : f.Reordered g) : Shuffled f.nodes g.nodes := by
  obtain ⟨-, hnodes⟩ := h
  exact hnodes

theorem Reordered.shuffled (h : f.Reordered g) : Shuffled f.allNodes g.allNodes := by
  obtain ⟨htrigger, ns, hperm, hns⟩ := h
  refine ⟨f.trigger.toList ++ ns, hperm.append_left _, ?_⟩
  unfold allNodes
  generalize f.trigger = t at htrigger ⊢
  cases htrigger with
  | none => exact hns
  | some ht => exact .cons ht hns

theorem Reordered.trigger_id (h : f.Reordered g) :
    f.trigger.map (·.id) = g.trigger.map (·.id) := by
  obtain ⟨htrigger, -⟩ := h
  generalize f.trigger = t at htrigger ⊢
  cases htrigger with
  | none => rfl
  | some ht =>
    obtain ⟨-⟩ := ht
    rfl

theorem Reordered.isNone_trigger (h : f.Reordered g) : f.trigger.isNone = g.trigger.isNone := by
  simpa using congrArg Option.isNone h.trigger_id

/-! ## The graph -/

theorem edge_iff_of_nodup (hids : (f.allNodes.map (·.id)).Nodup) {u v : String} :
    f.Edge u v ↔ ∃ n ∈ f.allNodes, n.id = u ∧ ∃ c ∈ n.connections, c.target = v := by
  rw [edge_iff_counts]
  exact ⟨fun ⟨n, hn, h⟩ => ⟨n, hn.mem, h⟩, fun ⟨n, hn, h⟩ => ⟨n, counts_of_nodup hids hn, h⟩⟩

theorem Reordered.nodup_ids (h : f.Reordered g) (hids : (f.allNodes.map (·.id)).Nodup) :
    (g.allNodes.map (·.id)).Nodup :=
  (h.shuffled.map (Node.steady_of_with fun _ _ => rfl)).nodup_iff.1 hids

theorem Reordered.edge_eq (h : f.Reordered g) (hids : (f.allNodes.map (·.id)).Nodup) :
    f.Edge = g.Edge := by
  funext u v
  rw [edge_iff_of_nodup hids, edge_iff_of_nodup (h.nodup_ids hids)]
  refine propext (h.shuffled.exists_iff ?_)
  rintro n _ ⟨hperm⟩
  simp only [hperm.mem_iff]

theorem Reordered.reachable_iff (h : f.Reordered g) (hids : (f.allNodes.map (·.id)).Nodup)
    (v : String) : f.Reachable v ↔ g.Reachable v := by
  have hstart : ∀ f : Flow, f.Reachable v ↔
      ∃ id, f.trigger.map (·.id) = some id ∧ ReflTransGen f.Edge id v := by
    intro f
    unfold Reachable
    cases f.trigger <;> simp
  rw [hstart, hstart, h.trigger_id, h.edge_eq hids]

theorem Reordered.contains_reachable (h : f.Reordered g)
    (hids : (f.allNodes.map (·.id)).Nodup) (v : String) :
    f.reachable.contains v = g.reachable.contains v := by
  rw [Bool.eq_iff_iff, List.contains_iff_mem, List.contains_iff_mem, mem_reachable, mem_reachable,
    h.reachable_iff hids]

theorem Reordered.hasCycle_eq (h : f.Reordered g) (hids : (f.allNodes.map (·.id)).Nodup) :
    f.hasCycle = g.hasCycle := by
  rw [Bool.eq_iff_iff, hasCycle_iff, hasCycle_iff, h.edge_eq hids]
  simp only [h.reachable_iff hids]

/-! ## The checks -/

section

variable (h : f.Reordered g)

include h

theorem Reordered.kind_eq : f.kind = g.kind := by
  obtain ⟨-⟩ := h
  rfl

theorem Reordered.checkTrigger_eq : f.checkTrigger = g.checkTrigger := by
  unfold checkTrigger
  rw [h.isNone_trigger]

theorem Reordered.checkEnds_perm (hids : (f.allNodes.map (·.id)).Nodup) :
    f.checkEnds.Perm g.checkEnds := by
  unfold checkEnds
  dsimp only
  simp only [h.contains_reachable hids]
  rw [h.shuffled.any_eq (Node.steady_of_with fun _ _ => rfl)]
  split
  · have hreach : Steady fun n : Node => g.reachable.contains n.id :=
      Node.steady_of_with fun _ _ => rfl
    exact (h.shuffled.filter (Node.steady_isDeadEnd.and hreach)).map
      (Node.steady_of_with fun _ _ => rfl)
  · exact .refl _

theorem Reordered.checkOrphans_perm (hids : (f.allNodes.map (·.id)).Nodup) :
    f.checkOrphans.Perm g.checkOrphans := by
  unfold checkOrphans
  dsimp only
  simp only [h.contains_reachable hids]
  exact (h.shuffled_nodes.filter (Node.steady_of_with fun _ _ => rfl)).map
    (Node.steady_of_with fun _ _ => rfl)

theorem Reordered.checkCycles_eq (hids : (f.allNodes.map (·.id)).Nodup) :
    f.checkCycles = g.checkCycles := by
  unfold checkCycles
  rw [h.hasCycle_eq hids, h.kind_eq]

theorem Reordered.branches_perm :
    (f.decisions.flatMap Node.checkBranches).Perm (g.decisions.flatMap Node.checkBranches) :=
  (h.shuffled.filter (Node.steady_of_with fun _ _ => rfl)).flatMap Node.steady_checkBranches

theorem Reordered.checkTerminals_perm : f.checkTerminals.Perm g.checkTerminals := by
  have hkind : Steady fun n : Node => decide (n.kind = .terminal) :=
    Node.steady_of_with fun _ _ => rfl
  exact (h.shuffled.filter (hkind.and Node.steady_leads)).map (Node.steady_of_with fun _ _ => rfl)

theorem Reordered.check_perm (family : RuleFamily) :
    (family.check f.allNodes).Perm (family.check g.allNodes) :=
  (h.shuffled.filter (Node.steady_of_with fun _ _ => rfl)).flatMap
    (Node.steady_of_with fun _ _ => rfl)

theorem Reordered.checkAgent_perm : f.checkAgent.Perm g.checkAgent := by
  have hcount : f.checkLoopCount = g.checkLoopCount := by
    unfold checkLoopCount
    rw [(h.shuffled.filter (Node.steady_of_with fun _ _ => rfl)).length_eq]
  unfold checkAgent
  rw [hcount, h.kind_eq]
  split
  · exact (h.check_perm .agent).append_left _
  · exact .refl _

/-- The findings of both flows are put together from the same parts. -/
theorem Reordered.findings_perm (hids : (f.allNodes.map (·.id)).Nodup) {issues issues' : List Issue}
    (hf : f.findings = .ok issues) (hg : g.findings = .ok issues') : issues.Perm issues' := by
  rw [eq_of_findings hf, eq_of_findings hg, h.checkTrigger_eq, h.checkCycles_eq hids]
  refine List.Perm.append ?_ (h.check_perm .extended)
  refine List.Perm.append ?_ (h.check_perm .orchestration)
  refine List.Perm.append ?_ h.checkAgent_perm
  refine List.Perm.append ?_ (h.check_perm .core)
  refine List.Perm.append ?_ h.checkTerminals_perm
  refine List.Perm.append ?_ h.branches_perm
  refine List.Perm.append_right _ ?_
  exact ((h.checkEnds_perm hids).append_left _).append (h.checkOrphans_perm hids)

theorem Reordered.checkable_iff : f.Checkable ↔ g.Checkable := by
  have hhandles := h.shuffled.forall_iff Node.steady_keys
  have hwordings := h.shuffled.forall_iff (P := fun n =>
    (n.kind ∈ [.agentLoop, .guardrail, .humanGate] → f.kind = .agent) →
      ∀ v ∈ n.spec.wordings n.kind, v.HasText) (Node.steady_of_with fun _ _ => rfl)
  have hdomain : f.domain = g.domain := by
    obtain ⟨-⟩ := h
    rfl
  constructor
  · intro hf
    exact ⟨hhandles.1 hf.handles, h.kind_eq ▸ hwordings.1 hf.wordings, hdomain ▸ hf.domain⟩
  · intro hg
    exact ⟨hhandles.2 hg.handles, hwordings.2 (h.kind_eq ▸ hg.wordings), hdomain ▸ hg.domain⟩

end

/-- Where all handles of decisions can be compared, a check stops at nothing but a value without a
text. -/
theorem check_eq_error_iff_of_keys (hkeys : ∀ n ∈ f.allNodes, n.kind = .decision →
    ∀ c ∈ n.connections, c.sourceHandle.isKey = true) (fault : CheckFault) :
    f.check = .error fault ↔ ¬ f.Checkable ∧ fault = .tooLong := by
  obtain ⟨c, hstray, -⟩ | ⟨-, hnot, hcheck⟩ | ⟨h, r, hcheck⟩ := f.check_cases
  · rw [strayAnswer?_eq_none_iff.2 hkeys] at hstray
    cases hstray
  · rw [hcheck]
    simp [hnot, eq_comm]
  · rw [hcheck]
    simp [h]

/-- The order of nodes and connections does not matter to a check of a flow whose nodes have
distinct identifiers: in another order the flow can be checked if it could before, and has the same
issues up to their order. Where all handles of decisions can be compared, as texts can, a check that
is not carried out stops at the same fault, too. -/
theorem check_reordered (h : f.Reordered g) (hids : (f.allNodes.map (·.id)).Nodup) :
    ((∃ r, f.check = .ok r) ↔ ∃ s, g.check = .ok s) ∧
    (∀ r s, f.check = .ok r → g.check = .ok s →
      r.scope = s.scope ∧ r.target = s.target ∧ r.issues.Perm s.issues ∧
        r.errorCount = s.errorCount ∧ r.warningCount = s.warningCount ∧
          r.infoCount = s.infoCount ∧ r.isValid = s.isValid) ∧
    ((∀ n ∈ f.allNodes, n.kind = .decision → ∀ c ∈ n.connections, c.sourceHandle.isKey = true) →
      ∀ fault, f.check = .error fault ↔ g.check = .error fault) := by
  refine ⟨?_, fun r s hr hs => ?_, fun hkeys fault => ?_⟩
  · rw [check_eq_ok_iff, check_eq_ok_iff, h.checkable_iff]
  · obtain ⟨issues, hf, rfl⟩ := exists_findings_of_check hr
    obtain ⟨issues', hg, rfl⟩ := exists_findings_of_check hs
    have hperm := h.findings_perm hids hf hg
    obtain ⟨htrigger, hnodes⟩ := h
    have hstamped := hperm.map (·.stamped (some f.id) f.domain)
    exact ⟨rfl, rfl, hstamped, Result.counts_of_perm hstamped⟩
  · have hkeys' := (h.shuffled.forall_iff Node.steady_keys).1 hkeys
    rw [check_eq_error_iff_of_keys hkeys, check_eq_error_iff_of_keys hkeys', h.checkable_iff]

/-- A way that a decision leads to. -/
def byway (id : String) : Node := { parcelNode id [] with label := "Byway " ++ id }

/-- A decision between two ways that lead nowhere. -/
def crossroads : Flow :=
  { parcel with
    nodes :=
      [{ parcelNode "pack" [] with
          kind := .decision
          spec := Record.absent _
          connections := [⟨"left", .str "true", .null⟩, ⟨"right", .str "false", .null⟩] },
        byway "left", byway "right",
        { parcelNode "end" [] with kind := .terminal, spec := Record.absent _ }] }

/-- The same decision after its ways. -/
def turnedCrossroads : Flow :=
  { parcel with
    nodes :=
      [{ parcelNode "end" [] with kind := .terminal, spec := Record.absent _ },
        byway "right", byway "left",
        { parcelNode "pack" [] with
          kind := .decision
          spec := Record.absent _
          connections := [⟨"right", .str "false", .null⟩, ⟨"left", .str "true", .null⟩] }] }

theorem reordered_crossroads : crossroads.Reordered turnedCrossroads :=
  .intro (.some (.intro (.refl _))) ⟨crossroads.nodes.reverse, (List.reverse_perm _).symm,
    .cons (.intro (.refl _)) <| .cons (.intro (.refl _)) <| .cons (.intro (.refl _)) <|
      .cons (.intro (.swap _ _ _)) .nil⟩

/-- The dead ends and what else is wrong come in another order, and all of it is there. -/
theorem check_turnedCrossroads : (crossroads.allNodes.map (·.id)).Nodup ∧
    ∃ r s, crossroads.check = .ok r ∧ turnedCrossroads.check = .ok s ∧ r.errorCount = 4 ∧
      r.issues ≠ s.issues ∧ r.issues.Perm s.issues := by
  have hids : (crossroads.allNodes.map (·.id)).Nodup := by decide
  obtain ⟨-, hsame, -⟩ := check_reordered reordered_crossroads hids
  obtain ⟨-, -, hperm, -⟩ := hsame _ _ rfl rfl
  exact ⟨hids, _, _, rfl, rfl, by decide, by decide, hperm⟩

end Flow

end FlowGate
