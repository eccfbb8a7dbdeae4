import FlowGate.Proofs.CommandLine.Ending
import FlowGate.Proofs.Project.Loading

/-!
# Runs that look at one domain

A run that is asked for a domain looks at it alone, or at none: at a domain that is not known it
ends with the code two, unless the identifier is empty. An empty one is not looked up, and since no
domain has it, the run checks nothing but the events. `CommandLine.Invocation.filtered_of_asked`
sets out both.
-/

namespace FlowGate

open List (Forall₂)

/-! ## Identifiers -/

theorem Manifest.name_ne_empty {entry description : Value} {name : String}
    (h : named? entry = some (.str name, description)) : name ≠ "" := by
  unfold named? at h
  split at h
  · dsimp only at h
    split at h
    · next hgiven =>
      obtain ⟨hname, -⟩ := Prod.mk.inj (Option.some.inj h)
      rw [hname] at hgiven
      rintro rfl
      cases hgiven
    · cases h
  · cases h

theorem ProjectSource.empty_notMem_domainIds (src : ProjectSource) : "" ∉ src.domainIds := by
  intro h
  obtain ⟨entry, -, hentry⟩ := List.mem_filterMap.1 h
  split at hentry
  · next name description hname =>
    exact Domain.idOfName_ne_empty (Manifest.name_ne_empty hname) (Option.some.inj hentry)
  · cases hentry

namespace Registry

variable {r : Registry} {id : String}

theorem empty_notMem_keys {src : ProjectSource} (h : (load src).result = .ok r) :
    "" ∉ r.domains.keys := by
  rw [(loaded_of_load h).mem_domains]
  exact src.empty_notMem_domainIds

/-! ## Reports on no domain -/

theorem chosen_of_notMem (h : id ∉ r.domains.keys) : r.chosen (some id) = [] := by
  refine List.filter_eq_nil_iff.2 fun e he heq => h ?_
  have hid : id = e.1 := beq_iff_eq.1 heq
  exact hid ▸ List.mem_map_of_mem he

/-- The report that looks at no domain. -/
def eventsAlone (r : Registry) : Report := ⟨[], [], Events.check r.domains⟩

theorem report_of_notMem (h : id ∉ r.domains.keys) {rep : Report} :
    (r.report (some id)).result = .ok rep ↔ rep = r.eventsAlone := by
  obtain ⟨flows, domains, events⟩ := rep
  rw [report_eq_ok, chosen_of_notMem h]
  simp [eventsAlone]

end Registry

namespace CommandLine.Invocation

variable {inv : Invocation} {o : Options} {marks : Marks} {id : String}

theorem unknownDomain?_eq_none_iff {r : Registry} (h : o.domain = some id) :
    unknownDomain? o r = none ↔ id = "" ∨ id ∈ r.domains.keys := by
  rw [Option.eq_none_iff_forall_not_mem]
  simp only [Option.mem_def, unknownDomain?_eq_some_iff, h, Table.get?_eq_none_iff]
  constructor
  · intro hall
    by_contra hnot
    obtain ⟨hid, hkey⟩ := not_or.1 hnot
    exact hall id ⟨rfl, hid, hkey⟩
  · rintro hid id' ⟨⟨rfl⟩, hgiven, hkey⟩
    exact hid.elim hgiven hkey

/-- Whether a run is asked for a domain and the project, if it is loaded, does not have it. -/
theorem ending_of_unknown (hdomain : o.domain = some id) (hgiven : id ≠ "")
    (hunknown : ∀ r, (Registry.load (inv.source o)).result = .ok r → id ∉ r.domains.keys) :
    (inv.runProject o marks).ending = .code 2 ↔
      ¬ (o.verbose = false ∧ inv.BadLevel) ∧ ¬ (inv.source o).Obstacle := by
  obtain ⟨hbreaks, fault, hending⟩ | ⟨hbreaks, -, hending⟩ | ⟨-, hrefuses, -⟩ :=
    inv.runProject_cases o marks
  · rw [hending]
    refine iff_of_false nofun fun hnot => ?_
    cases hbreaks with
    | level quiet level => exact hnot.1 ⟨quiet, level⟩
    | loading obstacle => exact hnot.2 obstacle
    | checking load known stopped =>
      exact ((unknownDomain?_eq_none_iff hdomain).1 known).elim hgiven (hunknown _ load)
  · rw [hending]
    exact iff_of_true rfl ⟨fun h => hbreaks (.level h.1 h.2), fun h => hbreaks (.loading h)⟩
  · refine absurd ?_ hrefuses
    cases hload : (Registry.load (inv.source o)).result with
    | error fault => exact .project hload
    | ok r => exact .domain hload hdomain hgiven ((Table.get?_eq_none_iff _ _).2 (hunknown r hload))

/-- An empty identifier is not looked up, and nothing but the events is checked. -/
theorem ending_of_empty (hdomain : o.domain = some "") {r : Registry}
    (hload : (Registry.load (inv.source o)).result = .ok r)
    (hlevel : ¬ (o.verbose = false ∧ inv.BadLevel)) :
    (inv.runProject o marks).ending =
      .code (if r.eventsAlone.failed (inv.isStrict o) then 1 else 0) := by
  have hreport : (r.report (some "")).result = .ok r.eventsAlone :=
    (Registry.report_of_notMem (Registry.empty_notMem_keys hload)).2 rfl
  have hknown : unknownDomain? o r = none := (unknownDomain?_eq_none_iff hdomain).2 (.inl rfl)
  unfold runProject
  cases hrank : inv.shownRank o.verbose with
  | error fault => exact absurd (shownRank_eq_error_iff.1 ⟨fault, hrank⟩) hlevel
  | ok rank =>
    dsimp only
    rw [hload]
    show (inv.runLoaded o rank marks r).ending = _
    unfold runLoaded
    rw [hknown]
    dsimp only
    rw [result_checked, hdomain, hreport]

/-- A run with the code zero has reported on the domain that it was asked for. -/
theorem reported_of_pass (hdomain : o.domain = some id)
    (h : (inv.runProject o marks).ending = .code 0) :
    ∃ r rep, (Registry.load (inv.source o)).result = .ok r ∧
      (r.report (some id)).result = .ok rep ∧ rep.failed (inv.isStrict o) = false ∧
      reportLines o (inv.isStrict o) marks rep <:+ (inv.runProject o marks).lines ∧
      (id = "" ∨ id ∈ r.domains.keys) := by
  obtain ⟨log, lines, hlines, -, hexits⟩ := exits_of_code h
  generalize hn : 0 = n at hexits
  cases hexits with
  | refused => cases hn
  | unknown => cases hn
  | @reported r rep load known report =>
    have hpass : rep.failed (inv.isStrict o) = false := by
      cases hfailed : rep.failed (inv.isStrict o) with
      | false => rfl
      | true =>
        rw [hfailed] at hn
        cases hn
    rw [hdomain] at report
    exact ⟨r, rep, load, report, hpass, ⟨log, hlines.symm⟩,
      (unknownDomain?_eq_none_iff hdomain).1 known⟩

/-- What a run does that is asked for a domain. If it ends with the code zero, it has written a
report that does not fail: on the domain, which is registered, and on all its flows, or, if the
identifier is empty, on nothing but the events. If the domain is not registered, it ends with the
code two unless a fault ends it before, but for an empty identifier: no domain has it, and the run
ends as the events alone would have it. -/
theorem filtered_of_asked (inv : Invocation) (marks : Marks) (o : Options) (id : String)
    (hasked : Request.ofArguments inv.arguments = .ok (.check o)) (hdomain : o.domain = some id) :
    ((inv.run marks).ending = .code 0 →
      ∃ r rep, (Registry.load (inv.source o)).result = .ok r ∧
        (r.report (some id)).result = .ok rep ∧ rep.failed (inv.isStrict o) = false ∧
        reportLines o (inv.isStrict o) marks rep <:+ (inv.run marks).lines ∧
        (id ≠ "" → ∃ d res, r.domains.get? id = some d ∧ d.check id = .ok res ∧
          rep.domains = [res] ∧
          Forall₂ (fun f res => f.check = .ok res) (r.flowsOf id) rep.flows) ∧
        (id = "" → rep.domains = [] ∧ rep.flows = [])) ∧
    (id ≠ "" →
      (∀ r, (Registry.load (inv.source o)).result = .ok r → id ∉ r.domains.keys) →
      ((inv.run marks).ending = .code 2 ↔
        ¬ (o.verbose = false ∧ inv.BadLevel) ∧ ¬ (inv.source o).Obstacle)) ∧
    (id = "" → ∀ r, (Registry.load (inv.source o)).result = .ok r →
      id ∉ r.domains.keys ∧ (¬ (o.verbose = false ∧ inv.BadLevel) →
        (inv.run marks).ending = .code
          (if r.eventsAlone.failed (inv.isStrict o) then 1 else 0))) := by
  have hrun : inv.run marks = inv.runProject o marks := by
    unfold run
    rw [hasked]
  rw [hrun]
  refine ⟨fun h => ?_, fun hgiven hunknown => ending_of_unknown hdomain hgiven hunknown, ?_⟩
  · obtain ⟨r, rep, hload, hrep, hpass, hlines, hid⟩ := reported_of_pass hdomain h
    refine ⟨r, rep, hload, hrep, hpass, hlines, fun hgiven => ?_, ?_⟩
    · obtain ⟨d, hd⟩ := Option.ne_none_iff_exists'.1 fun hnone =>
        (Table.get?_eq_none_iff _ _).1 hnone (hid.resolve_left hgiven)
      obtain ⟨hflows, ⟨res, hres, hdomains⟩, -⟩ := (Registry.report_of_get? hd).1 hrep
      exact ⟨d, res, hd, hres, hdomains, hflows⟩
    · rintro rfl
      rw [(Registry.report_of_notMem (Registry.empty_notMem_keys hload)).1 hrep]
      exact ⟨rfl, rfl⟩
  · rintro rfl r hload
    exact ⟨Registry.empty_notMem_keys hload, ending_of_empty hdomain hload⟩

/-- A project whose only flow has no trigger, checked for a domain that was left empty. -/
def leftEmpty : Invocation := .ofTexts Yaml.read [
  (["ddd-project.json"], "\x7b\"domains\": [\x7b\"name\": \"Billing\"\x7d]\x7d"),
  (["specs", "domains", "billing", "domain.yaml"], "flows: [{id: pay}]"),
  (["specs", "domains", "billing", "flows", "pay.yaml"], "{flow: {id: pay}, metadata: {}}")]
  ["--domain", ""]

/-- The same project, checked as a whole. -/
def unfiltered : Invocation := { leftEmpty with arguments := [] }

/-- The run passes without a result for any flow or domain; without the option it fails. -/
theorem passes_leftEmpty : ∃ r rep,
    (leftEmpty.run ⟨fun _ => "", ""⟩).ending = .code 0 ∧
      (Registry.load (leftEmpty.source .default)).result = .ok r ∧
      (r.report (some "")).result = .ok rep ∧ rep.domains = [] ∧ rep.flows = [] ∧
      "" ∉ r.domains.keys ∧
      (unfiltered.run ⟨fun _ => "", ""⟩).ending = .code 1 := by
  have hasked : Request.ofArguments leftEmpty.arguments =
      .ok (.check { Options.default with domain := some "" }) := by decide
  have hpass : (leftEmpty.run ⟨fun _ => "", ""⟩).ending = .code 0 := by decide +kernel
  have hfail : (unfiltered.run ⟨fun _ => "", ""⟩).ending = .code 1 := by decide +kernel
  obtain ⟨hreported, -, hempty⟩ := filtered_of_asked leftEmpty ⟨fun _ => "", ""⟩ _ "" hasked rfl
  obtain ⟨r, rep, hload, hrep, -, -, -, hnothing⟩ := hreported hpass
  obtain ⟨hdomains, hflows⟩ := hnothing rfl
  exact ⟨r, rep, hpass, hload, hrep, hdomains, hflows, (hempty rfl r hload).1, hfail⟩

end CommandLine.Invocation

end FlowGate
