import FlowGate.CommandLine.Report
import FlowGate.Proofs.Domain.Duplicates
import FlowGate.Proofs.Flow.Checkable
import Mathlib.Data.List.Nodup

/-!
# What a report of a project holds

`Registry.report_eq_ok` says which reports a project can have: one result for each flow that the
registry lists under the domains that are looked at, one for each of these domains, and the result
for the events. It has one exactly if all of them can be checked. `Registry.report_of_get?` is the
case of one domain that is registered.
-/

namespace FlowGate

open List (Forall₂)

theorem forall₂_append_left {α β : Type} {R : α → β → Prop} {xs xs' : List α} {ys : List β} :
    Forall₂ R (xs ++ xs') ys ↔ ∃ zs zs', Forall₂ R xs zs ∧ Forall₂ R xs' zs' ∧ ys = zs ++ zs' := by
  induction xs generalizing ys with
  | nil => simp
  | cons x xs ih =>
    simp only [List.cons_append, List.forall₂_cons_left_iff, ih]
    constructor
    · rintro ⟨y, ys', hxy, ⟨zs, zs', hzs, hzs', rfl⟩, rfl⟩
      exact ⟨y :: zs, zs', ⟨y, zs, hxy, hzs, rfl⟩, hzs', rfl⟩
    · rintro ⟨_, zs', ⟨y, zs, hxy, hzs, rfl⟩, hzs', rfl⟩
      exact ⟨y, zs ++ zs', hxy, ⟨zs, zs', hzs, hzs', rfl⟩, rfl⟩

theorem exists_forall₂ {α β : Type} {R : α → β → Prop} {xs : List α} :
    (∃ ys, Forall₂ R xs ys) ↔ ∀ x ∈ xs, ∃ y, R x y := by
  induction xs with
  | nil => simp
  | cons x xs ih =>
    rw [List.forall_mem_cons, ← ih]
    constructor
    · rintro ⟨_, h⟩
      obtain ⟨y, ys, hy, hys, -⟩ := List.forall₂_cons_left_iff.1 h
      exact ⟨⟨y, hy⟩, ys, hys⟩
    · rintro ⟨⟨y, hy⟩, ys, hys⟩
      exact ⟨y :: ys, .cons hy hys⟩

@[simp] theorem Flow.result_checkLogged (f : Flow) : f.checkLogged.result = f.check := by
  unfold checkLogged
  rw [Logged.result_bind, Logged.result_lift]
  cases f.check <;> rfl

@[simp] theorem Domain.result_checkLogged (id : String) (d : Domain) :
    (d.checkLogged id).result = d.check id := by
  unfold checkLogged
  rw [Logged.result_bind, Logged.result_lift]
  cases d.check id <;> rfl

@[simp] theorem Events.result_checkLogged (domains : Table Domain) :
    (Events.checkLogged domains).result = .ok (Events.check domains) := rfl

namespace Registry

variable {r : Registry}

theorem reportDomain_eq_ok {id : String} {d : Domain} {flows : List Result} {result : Result} :
    (r.reportDomain id d).result = .ok (flows, result) ↔
      Forall₂ (fun f res => f.check = .ok res) (r.flowsOf id) flows ∧ d.check id = .ok result := by
  unfold reportDomain
  simp only [Logged.result_bind_eq_ok, Logged.result_mapM_eq_ok, Flow.result_checkLogged,
    Domain.result_checkLogged, Logged.result_pure, Except.ok.injEq, Prod.mk.injEq]
  constructor
  · rintro ⟨flows', hflows, result', hresult, rfl, rfl⟩
    exact ⟨hflows, hresult⟩
  · rintro ⟨hflows, hresult⟩
    exact ⟨flows, hflows, result, hresult, rfl, rfl⟩

theorem reportDomains_eq_ok {es : List (String × Domain)} {flows domains : List Result} :
    (∃ parts, (es.mapM fun e => r.reportDomain e.1 e.2).result = .ok parts ∧
        parts.flatMap Prod.fst = flows ∧ parts.map Prod.snd = domains) ↔
      Forall₂ (fun f res => f.check = .ok res) (es.flatMap fun e => r.flowsOf e.1) flows ∧
        Forall₂ (fun e res => e.2.check e.1 = .ok res) es domains := by
  simp only [Logged.result_mapM_eq_ok]
  induction es generalizing flows domains with
  | nil => simp [eq_comm]
  | cons e es ih =>
    simp only [List.flatMap_cons, List.forall₂_cons_left_iff, forall₂_append_left]
    constructor
    · rintro ⟨_, ⟨part, parts, hpart, hparts, rfl⟩, rfl, rfl⟩
      obtain ⟨hflows, hdomain⟩ := reportDomain_eq_ok.1 hpart
      obtain ⟨hrest, hdomains⟩ := ih.1 ⟨parts, hparts, rfl, rfl⟩
      exact ⟨⟨part.1, _, hflows, hrest, rfl⟩, part.2, _, hdomain, hdomains, rfl⟩
    · rintro ⟨⟨fs, rest, hflows, hrest, rfl⟩, d, ds, hdomain, hdomains, rfl⟩
      obtain ⟨parts, hparts, rfl, rfl⟩ := ih.2 ⟨hrest, hdomains⟩
      have hpart := reportDomain_eq_ok.2 ⟨hflows, hdomain⟩
      exact ⟨(fs, d) :: parts, ⟨(fs, d), parts, hpart, hparts, rfl⟩, rfl, rfl⟩

theorem report_eq_ok {only : Option String} {rep : Report} :
    (r.report only).result = .ok rep ↔
      Forall₂ (fun f res => f.check = .ok res) ((r.chosen only).flatMap fun e => r.flowsOf e.1)
          rep.flows ∧
        Forall₂ (fun e res => e.2.check e.1 = .ok res) (r.chosen only) rep.domains ∧
          rep.events = Events.check r.domains := by
  unfold report
  simp only [Logged.result_bind_eq_ok, Events.result_checkLogged, Logged.result_pure,
    Except.ok.injEq]
  rw [← and_assoc, ← reportDomains_eq_ok]
  obtain ⟨flows, domains, events⟩ := rep
  constructor
  · rintro ⟨parts, hparts, _, rfl, h⟩
    cases h
    exact ⟨⟨parts, hparts, rfl, rfl⟩, rfl⟩
  · rintro ⟨⟨parts, hparts, rfl, rfl⟩, rfl⟩
    exact ⟨parts, hparts, _, rfl, rfl⟩

/-- Whether all that a report looks at can be checked. -/
def Reportable (r : Registry) (only : Option String) : Prop :=
  ∀ e ∈ r.chosen only, (∀ f ∈ r.flowsOf e.1, f.Checkable) ∧
    (e.2.name.HasText ∨ (e.2.flows.map (·.id)).Nodup)

theorem exists_report_iff {only : Option String} :
    (∃ rep, (r.report only).result = .ok rep) ↔ r.Reportable only := by
  have hflows : (∃ flows, Forall₂ (fun f res => f.check = .ok res)
      ((r.chosen only).flatMap fun e => r.flowsOf e.1) flows) ↔
        ∀ e ∈ r.chosen only, ∀ f ∈ r.flowsOf e.1, f.Checkable := by
    rw [exists_forall₂]
    simp only [Flow.check_eq_ok_iff, List.mem_flatMap, forall_exists_index, and_imp]
    exact ⟨fun h e he f hf => h f e he hf, fun h f e he hf => h e he f hf⟩
  have hdomains : (∃ domains, Forall₂ (fun e res => e.2.check e.1 = .ok res) (r.chosen only)
      domains) ↔ ∀ e ∈ r.chosen only, e.2.name.HasText ∨ (e.2.flows.map (·.id)).Nodup := by
    rw [exists_forall₂]
    simp only [Domain.check_eq_ok_iff, Value.isTooLong_eq_false_iff]
  constructor
  · rintro ⟨rep, hrep⟩
    obtain ⟨hall, hall', -⟩ := report_eq_ok.1 hrep
    intro e he
    exact ⟨hflows.1 ⟨_, hall⟩ e he, hdomains.1 ⟨_, hall'⟩ e he⟩
  · intro h
    obtain ⟨flows, hall⟩ := hflows.2 fun e he => (h e he).1
    obtain ⟨domains, hall'⟩ := hdomains.2 fun e he => (h e he).2
    exact ⟨⟨flows, domains, _⟩, report_eq_ok.2 ⟨hall, hall', rfl⟩⟩

@[simp] theorem chosen_none (r : Registry) : r.chosen none = r.domains.entries :=
  List.filter_eq_self.2 fun _ _ => rfl

/-- A report on all domains holds one result for each flow that is listed under a domain. -/
theorem forall₂_of_report {rep : Report} (h : (r.report none).result = .ok rep) :
    Forall₂ (fun f res => f.check = .ok res) (r.domains.keys.flatMap r.flowsOf) rep.flows := by
  obtain ⟨hflows, -⟩ := report_eq_ok.1 h
  rw [chosen_none] at hflows
  unfold Table.keys
  rwa [List.flatMap_map]

/-! ## Reports on one domain -/

section

variable {id : String} {d : Domain}

theorem chosen_of_get? (h : r.domains.get? id = some d) :
    r.chosen (some id) = [(id, d)] := by
  have hmem := (Table.get?_eq_some_iff _ _ _).1 h
  have hsame : ∀ e ∈ r.chosen (some id), e = (id, d) := by
    intro e he
    obtain ⟨he, heq⟩ := List.mem_filter.1 he
    have hid : id = e.1 := beq_iff_eq.1 heq
    have hget : r.domains.get? id = some e.2 := by
      rw [Table.get?_eq_some_iff, hid]
      exact he
    exact Prod.ext hid.symm (Option.some.inj (hget.symm.trans h))
  have hnodup : (r.chosen (some id)).Nodup := (List.Nodup.of_map Prod.fst r.domains.nodup).filter _
  have hchosen : (id, d) ∈ r.chosen (some id) := List.mem_filter.2 ⟨hmem, beq_self_eq_true id⟩
  refine List.perm_singleton.1 ((List.perm_ext_iff_of_nodup hnodup (List.nodup_singleton _)).2 ?_)
  intro e
  rw [List.mem_singleton]
  exact ⟨hsame e, fun he => he ▸ hchosen⟩

/-- A report on a domain holds the result of the domain and one for each of its flows. -/
theorem report_of_get? (h : r.domains.get? id = some d) {rep : Report} :
    (r.report (some id)).result = .ok rep ↔
      Forall₂ (fun f res => f.check = .ok res) (r.flowsOf id) rep.flows ∧
        (∃ res, d.check id = .ok res ∧ rep.domains = [res]) ∧
          rep.events = Events.check r.domains := by
  rw [report_eq_ok, chosen_of_get? h]
  simp [List.forall₂_cons_left_iff, eq_comm]

end

end Registry

end FlowGate
