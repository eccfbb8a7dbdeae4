import FlowGate.Proofs.Project.Loading
import FlowGate.Proofs.Project.Reporting
import FlowGate.Yaml.Reader
import Mathlib.Data.List.Nodup

/-!
# Which flows of a project are checked

The domains of a registry list the keys of flows, and a report checks what is listed. Each loaded
flow is listed at most once, under the domain that it belongs to. It is listed at all if the
manifest names that domain once: `Registry.flows_listed_iff` says exactly which flows a report
leaves out.
-/

namespace FlowGate

open List (Forall₂)

/-- Whether the manifest names a domain exactly once. -/
def ProjectSource.namesOnce (src : ProjectSource) : Value → Bool
  | .str d => src.domainIds.count d == 1
  | _ => false

theorem Table.filterMap_get? {α : Type} {t : Table α} {es : List (String × α)}
    (h : es ⊆ t.entries) : (es.map Prod.fst).filterMap t.get? = es.map Prod.snd := by
  rw [List.filterMap_map, List.filterMap_eq_map_iff_forall_eq_some]
  intro e he
  exact (t.get?_eq_some_iff e.1 e.2).2 (h he)

namespace Registry

variable {src : ProjectSource} {r : Registry} {ids : List String}

/-- A domain lists the flows that belong to it, unless it was named again. -/
theorem Consistent.mem_keysOf (h : Consistent ids r) {d k : String} :
    k ∈ r.keysOf d ↔ ids.count d = 1 ∧ ∃ f, (k, f) ∈ r.flows.entries ∧ f.domain = .str d := by
  rw [h.keysOf]
  split
  · next hcount =>
    simp only [ownKeys, List.mem_map, List.mem_filter, decide_eq_true_eq, hcount, true_and]
    constructor
    · rintro ⟨⟨_, f⟩, ⟨he, hf⟩, rfl⟩
      exact ⟨f, he, hf⟩
    · rintro ⟨f, he, hf⟩
      exact ⟨(k, f), ⟨he, hf⟩, rfl⟩
  · next hcount => simp [hcount]

theorem Consistent.nodup_keysOf (h : Consistent ids r) (d : String) : (r.keysOf d).Nodup := by
  rw [h.keysOf]
  split
  · exact (r.flows.nodup).sublist (List.filter_sublist.map Prod.fst)
  · exact List.nodup_nil

theorem Consistent.disjoint_keysOf (h : Consistent ids r) {d e : String} (hne : d ≠ e) :
    List.Disjoint (r.keysOf d) (r.keysOf e) := by
  intro k hd he
  obtain ⟨-, f, hf, hfd⟩ := h.mem_keysOf.1 hd
  obtain ⟨-, g, hg, hge⟩ := h.mem_keysOf.1 he
  rw [← Table.get?_eq_some_iff] at hf hg
  obtain rfl := Option.some.inj (hf.symm.trans hg)
  rw [hfd] at hge
  exact hne (by simpa using hge)

/-- The keys under the domains, one after the other, are those of the flows whose domain is named
once. -/
theorem Consistent.perm_keysOf (h : Consistent src.domainIds r) :
    (r.domains.keys.flatMap r.keysOf).Perm
      ((r.flows.entries.filter fun e => src.namesOnce e.2.domain).map Prod.fst) := by
  refine (List.perm_ext_iff_of_nodup ?_ ?_).2 ?_
  · rw [List.nodup_flatMap]
    exact ⟨fun d _ => h.nodup_keysOf d, r.domains.nodup.imp fun hne => h.disjoint_keysOf hne⟩
  · exact r.flows.nodup.sublist (List.filter_sublist.map Prod.fst)
  · intro k
    simp only [List.mem_flatMap, h.mem_keysOf, h.mem_domains, List.mem_map, List.mem_filter]
    constructor
    · rintro ⟨d, -, hcount, f, hf, hdomain⟩
      refine ⟨(k, f), ⟨hf, ?_⟩, rfl⟩
      rw [hdomain]
      exact beq_iff_eq.2 hcount
    · rintro ⟨⟨_, f⟩, ⟨hf, honce⟩, rfl⟩
      obtain ⟨d, hd, hdomain⟩ := h.owner _ hf
      rw [hdomain] at honce
      exact ⟨d, hd, beq_iff_eq.1 honce, f, hf, hdomain⟩

/-- The flows under the domains, one after the other, are those whose domain is named once. -/
theorem Consistent.perm_flowsOf (h : Consistent src.domainIds r) :
    (r.domains.keys.flatMap r.flowsOf).Perm
      (r.flows.values.filter fun f => src.namesOnce f.domain) := by
  have hkeys := h.perm_keysOf.filterMap r.flows.get?
  rw [List.filterMap_flatMap, Table.filterMap_get? (List.filter_subset_self _)] at hkeys
  unfold Table.values
  rwa [List.filter_map]

/-- A flow that is listed under a domain belongs to it. -/
theorem domain_of_mem_flowsOf (h : (load src).result = .ok r) {d : String} {f : Flow}
    (hf : f ∈ r.flowsOf d) : f.domain = .str d := by
  obtain ⟨k, hk, hget⟩ := List.mem_filterMap.1 hf
  obtain ⟨-, g, hg, hdomain⟩ := (loaded_of_load h).mem_keysOf.1 hk
  rw [← Table.get?_eq_some_iff, hget] at hg
  exact Option.some.inj hg ▸ hdomain

/-- The flows of a registry that are listed under its domains, and for which its reports hold one
result each, are those whose domain the manifest names exactly once; no flow is left out exactly if
this is true of all. -/
theorem flows_listed_iff (src : ProjectSource) (r : Registry) (h : (load src).result = .ok r) :
    (r.domains.keys.flatMap r.flowsOf).Perm
        (r.flows.values.filter fun f => src.namesOnce f.domain) ∧
      ((r.domains.keys.flatMap r.flowsOf).Perm r.flows.values ↔
        ∀ f ∈ r.flows.values, src.namesOnce f.domain = true) ∧
      ∀ rep, (r.report none).result = .ok rep →
        (∃ fs, fs.Perm (r.flows.values.filter fun f => src.namesOnce f.domain) ∧
          Forall₂ (fun f res => f.check = .ok res) fs rep.flows) ∧
        (rep.flows.length = r.flows.values.length ↔
          ∀ f ∈ r.flows.values, src.namesOnce f.domain = true) := by
  have hperm := (loaded_of_load h).perm_flowsOf
  refine ⟨hperm, ?_, fun rep hrep => ⟨⟨_, hperm, forall₂_of_report hrep⟩, ?_⟩⟩
  · rw [← List.length_filter_eq_length_iff]
    constructor
    · intro hall
      exact hperm.symm.length_eq.trans hall.length_eq
    · intro hlen
      rw [List.length_filter_eq_length_iff] at hlen
      rwa [List.filter_eq_self.2 hlen] at hperm
  · rw [← (forall₂_of_report hrep).length_eq, hperm.length_eq, List.length_filter_eq_length_iff]

/-- A project whose manifest names one domain twice, in two spellings. Its only flow has no
trigger. -/
def twiceNamed : ProjectSource := .ofTexts Yaml.read [
  (["ddd-project.json"],
    "\x7b\"domains\": [\x7b\"name\": \"Billing\"\x7d, \x7b\"name\": \"billing\"\x7d]\x7d"),
  (["specs", "domains", "billing", "domain.yaml"], "flows: [{id: pay}]"),
  (["specs", "domains", "billing", "flows", "pay.yaml"], "{flow: {id: pay}, metadata: {}}")]

/-- The flow of a domain that is named twice is loaded and has an error, but it is not listed under
its domain, and no report holds a result for it. -/
theorem unlisted_twiceNamed : ∃ r, (load twiceNamed).result = .ok r ∧
    (∃ f ∈ r.flows.values, ∃ res, f.check = .ok res ∧ res.isValid = false) ∧
    r.domains.keys.flatMap r.flowsOf = [] ∧
    ∀ rep, (r.report none).result = .ok rep → rep.flows = [] := by
  have hload : (load twiceNamed).result.toOption.map (fun r =>
      r.flows.values.map fun f => (f.domain, f.check.toOption.map Result.isValid)) =
        some [(.str "billing", some false)] := by decide +kernel
  have hids : twiceNamed.domainIds = ["billing", "billing"] := by decide +kernel
  cases h : (load twiceNamed).result with
  | error e =>
    rw [h] at hload
    cases hload
  | ok r =>
    rw [h] at hload
    obtain ⟨f, hvalues, hf⟩ := List.map_eq_singleton_iff.1 (Option.some.inj hload)
    obtain ⟨hdomain, hinvalid⟩ := Prod.mk.inj hf
    have hnone : (r.flows.values.filter fun f => twiceNamed.namesOnce f.domain) = [] := by
      rw [hvalues, List.filter_eq_nil_iff, List.forall_mem_singleton, hdomain,
        ProjectSource.namesOnce, hids]
      decide
    obtain ⟨hperm, -, hreport⟩ := flows_listed_iff twiceNamed r h
    rw [hnone] at hperm hreport
    refine ⟨r, rfl, ⟨f, hvalues ▸ List.mem_singleton_self f, ?_⟩, hperm.eq_nil, ?_⟩
    · cases hcheck : f.check with
      | error e =>
        rw [hcheck] at hinvalid
        cases hinvalid
      | ok res =>
        rw [hcheck] at hinvalid
        exact ⟨res, rfl, Option.some.inj hinvalid⟩
    · intro rep hrep
      obtain ⟨⟨fs, hfs, hall⟩, -⟩ := hreport rep hrep
      rw [hfs.eq_nil, List.forall₂_nil_left_iff] at hall
      exact hall

end Registry

end FlowGate
