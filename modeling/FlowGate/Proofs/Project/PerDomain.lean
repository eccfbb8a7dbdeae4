import FlowGate.Proofs.Project.Coverage
import FlowGate.Proofs.Project.Summary
import FlowGate.Proofs.Store.History
import Mathlib.Algebra.Order.Ring.Int

/-!
# Reports on one domain at a time

A report on all domains is put together from the reports on each of them: their results follow one
another as the domains do, and the result for the events is common to all. `result_report_none` says
this of the runs with their faults, so that the report on all domains is missing as soon as one of
the others is, and `reports_agree` of the results and of their numbers.

A run may keep what it finds in a store. `fst_reportInto` shows that nothing in its report comes
from the store, so that what is checked first has no bearing on the rest.
-/

namespace FlowGate

open List (Forall₂)

theorem total_flatMap {α β : Type} {measure : β → Nat} (f : α → List β) (xs : List α) :
    total measure (xs.flatMap f) = total (fun x => total measure (f x)) xs := by
  induction xs with
  | nil => rfl
  | cons x xs ih => rw [List.flatMap_cons, total_append, ih, total_cons]

namespace Report

/-- The report that some reports make up, with the result for the events. -/
def join (events : Result) (singles : List Report) : Report where
  flows := singles.flatMap (·.flows)
  domains := singles.flatMap (·.domains)
  events := events

/-- What flows and domains count adds up over the reports, and the events count once. -/
theorem total_results_join (measure : Result → Nat) (events : Result) (singles : List Report) :
    total measure (join events singles).results =
      total (fun one => total measure (one.flows ++ one.domains)) singles + measure events := by
  have hparts : total measure (singles.flatMap (·.flows)) +
      total measure (singles.flatMap (·.domains)) =
        total (fun one => total measure (one.flows ++ one.domains)) singles := by
    rw [total_flatMap, total_flatMap]
    induction singles with
    | nil => rfl
    | cons one singles ih =>
      simp only [total_cons, total_append] at ih ⊢
      omega
  show total measure (singles.flatMap (·.flows) ++ singles.flatMap (·.domains) ++ [events]) = _
  rw [total_append, total_append, hparts, total_cons, total_nil, Nat.add_zero]

end Report

namespace Registry

variable {r : Registry}

/-! ## Putting reports together -/

/-- The report that the results of some domains and of their flows make up. -/
def assemble (r : Registry) (parts : List (List Result × Result)) : Report where
  flows := parts.flatMap Prod.fst
  domains := parts.map Prod.snd
  events := Events.check r.domains

theorem result_report (r : Registry) (only : Option String) : (r.report only).result =
    ((r.chosen only).mapM fun e => (r.reportDomain e.1 e.2).result).map r.assemble := by
  unfold report
  rw [Logged.result_bind, Logged.result_mapM]
  cases (r.chosen only).mapM fun e => (r.reportDomain e.1 e.2).result <;> rfl

theorem result_report_some {id : String} {d : Domain} (h : r.domains.get? id = some d) :
    (r.report (some id)).result =
      (r.reportDomain id d).result.map fun part => r.assemble [part] := by
  rw [result_report, chosen_of_get? h, List.mapM_cons, List.mapM_nil]
  cases (r.reportDomain id d).result <;> rfl

theorem join_map_assemble (r : Registry) (parts : List (List Result × Result)) :
    Report.join (Events.check r.domains) (parts.map fun part => r.assemble [part]) =
      r.assemble parts := by
  have hflows : (parts.map fun part => r.assemble [part]).flatMap (·.flows) =
      parts.flatMap Prod.fst := by
    simp [List.flatMap_map, assemble]
  have hdomains : (parts.map fun part => r.assemble [part]).flatMap (·.domains) =
      parts.map Prod.snd := by
    rw [List.flatMap_map, List.map_eq_flatMap]
    rfl
  rw [Report.join, hflows, hdomains]
  rfl

/-- The report on all domains, or the fault at which it stops, from those on one domain each. -/
theorem result_report_none (r : Registry) : (r.report none).result =
    (r.domains.keys.mapM fun id => (r.report (some id)).result).map
      (.join (Events.check r.domains)) := by
  have hsingle : ∀ e ∈ r.domains.entries, (r.report (some e.1)).result =
      (r.reportDomain e.1 e.2).result.map fun part => r.assemble [part] :=
    fun e he => result_report_some ((Table.get?_eq_some_iff _ _ _).2 he)
  have hsingles : (r.domains.keys.mapM fun id => (r.report (some id)).result) =
      (r.domains.entries.mapM fun e => (r.reportDomain e.1 e.2).result).map
        (List.map fun part => r.assemble [part]) := by
    unfold Table.keys
    rw [List.mapM_map, ← mapM_map_right]
    exact mapM_congr hsingle
  rw [hsingles, result_report, chosen_none]
  cases r.domains.entries.mapM fun e => (r.reportDomain e.1 e.2).result with
  | error fault => rfl
  | ok parts => exact congrArg Except.ok (r.join_map_assemble parts).symm

theorem report_none_eq_ok {all : Report} : (r.report none).result = .ok all ↔
    ∃ singles, Forall₂ (fun id one => (r.report (some id)).result = .ok one) r.domains.keys
      singles ∧ Report.join (Events.check r.domains) singles = all := by
  rw [result_report_none, map_eq_ok]
  simp only [mapM_eq_ok]

/-! ## Runs through a store -/

/-- The results of a domain and of its flows, each kept in a store as it is found. -/
def reportDomainInto (draw : Scope → String → Marks) (r : Registry) (id : String) :
    Store.Action (List Result × Option Result) := do
  let flows ← (r.flowsOf id).mapM fun f => return (← Store.checkFlow (draw .flow f.key) f).result
  let own ← Store.checkDomain (draw .domain id) id r.domains
  return (flows, own.map Verdict.result)

/-- Checks a project and keeps each result in a store as it is found, with the marks that are drawn
for its scope and target. -/
def reportInto (draw : Scope → String → Marks) (r : Registry) (only : Option String) :
    Store.Action Report := do
  let parts ← (r.chosen only).mapM fun e => r.reportDomainInto draw e.1
  let events ← Store.checkSystem (draw .system "system") r.domains
  return {
    flows := parts.flatMap Prod.fst
    domains := parts.filterMap Prod.snd
    events := events.result }

theorem fst_result_checkFlow (marks : Marks) (f : Flow) (s : Store) :
    ((do return (← Store.checkFlow marks f).result : Store.Action Result) s).1 = f.check := by
  rw [Store.Action.fst_bind (g := fun v => .ok v.result) fun _ _ => rfl, Store.fst_checkFlow]
  cases f.check with
  | error fault => rfl
  | ok res => exact congrArg Except.ok (res.result_made marks)

theorem fst_reportDomainInto {draw : Scope → String → Marks} {id : String} {d : Domain}
    (h : r.domains.get? id = some d) (s : Store) : (r.reportDomainInto draw id s).1 =
      (r.reportDomain id d).result.map fun part => (part.1, some part.2) := by
  have hflows : ∀ s, ((r.flowsOf id).mapM
      (fun f : Flow => do return (← Store.checkFlow (draw .flow f.key) f).result) s).1 =
        (r.flowsOf id).mapM Flow.check :=
    Store.Action.fst_mapM fun f _ => fst_result_checkFlow _ f
  unfold reportDomainInto reportDomain
  -- the store is forgotten at the flows first, then at the domain
  rw [Store.Action.fst_bind (g := fun flows => (d.check id).map fun res => (flows, some res)),
    hflows, Logged.result_bind, Logged.result_mapM]
  · simp only [Flow.result_checkLogged, Logged.result_bind, Domain.result_checkLogged]
    cases (r.flowsOf id).mapM Flow.check with
    | error fault => rfl
    | ok flows => cases d.check id <;> rfl
  · intro flows s
    rw [Store.Action.fst_bind (g := fun own => .ok (flows, own.map Verdict.result))
      fun _ _ => rfl, Store.fst_checkDomain _ h]
    cases d.check id with
    | error fault => rfl
    | ok res =>
      show Except.ok (flows, some (res.made _).result) = _
      rw [Result.result_made]
      rfl

/-- A run through a store, whatever this holds, has the report of one without a store. -/
theorem fst_reportInto (draw : Scope → String → Marks) (r : Registry) (only : Option String)
    (s : Store) : (r.reportInto draw only s).1 = (r.report only).result := by
  have hdomains : ∀ e ∈ r.chosen only, ∀ s, (r.reportDomainInto draw e.1 s).1 =
      (r.reportDomain e.1 e.2).result.map fun part => (part.1, some part.2) := by
    intro e he
    have hget : r.domains.get? e.1 = some e.2 :=
      (Table.get?_eq_some_iff _ _ _).2 (List.mem_of_mem_filter he)
    exact fst_reportDomainInto hget
  unfold reportInto
  rw [Store.Action.fst_bind (g := fun parts => .ok ⟨parts.flatMap Prod.fst,
      parts.filterMap Prod.snd, Events.check r.domains⟩)
      fun parts s => congrArg (fun events => Except.ok (Report.mk _ _ events))
        (Result.result_made _ _),
    Store.Action.fst_mapM hdomains, mapM_map_right, result_report]
  cases (r.chosen only).mapM fun e => (r.reportDomain e.1 e.2).result with
  | error fault => rfl
  | ok parts =>
    show Except.ok _ = Except.ok (r.assemble parts)
    simp [assemble, List.flatMap_map, List.filterMap_map]

/-! ## The reports that there are -/

/-- Whether a report is the one on a domain: it holds the results of the flows that are listed under
the domain, in order, that of the domain, and that of the events. -/
structure IsReportOn (r : Registry) (id : String) (one : Report) : Prop where
  report : (r.report (some id)).result = .ok one
  flows : Forall₂ (fun f res => f.check = .ok res) (r.flowsOf id) one.flows
  domain : ∃ d res, r.domains.get? id = some d ∧ d.check id = .ok res ∧ one.domains = [res]
  events : one.events = Events.check r.domains

theorem isReportOn {id : String} {d : Domain} {one : Report} (h : r.domains.get? id = some d)
    (hone : (r.report (some id)).result = .ok one) : r.IsReportOn id one := by
  obtain ⟨hflows, ⟨res, hres, hdomains⟩, hevents⟩ := (report_of_get? h).1 hone
  exact ⟨hone, hflows, ⟨d, res, h, hres, hdomains⟩, hevents⟩

/-- If the flows can be checked, a report on a domain can be missing for one reason only. -/
theorem exists_report_some_iff (hflows : ∀ f ∈ r.flows.values, ∃ res, f.check = .ok res)
    {id : String} {d : Domain} (h : r.domains.get? id = some d) :
    (∃ one, (r.report (some id)).result = .ok one) ↔
      d.name.HasText ∨ (d.flows.map (·.id)).Nodup := by
  have hcheckable : ∀ f ∈ r.flowsOf id, f.Checkable := by
    intro f hf
    obtain ⟨k, -, hk⟩ := List.mem_filterMap.1 hf
    have hmem := List.mem_map_of_mem (f := Prod.snd) ((Table.get?_eq_some_iff _ _ _).1 hk)
    exact f.check_eq_ok_iff.1 (hflows f hmem)
  rw [exists_report_iff, Reportable, chosen_of_get? h, List.forall_mem_singleton]
  exact and_iff_right hcheckable

theorem exists_report_none_iff (r : Registry) : (∃ all, (r.report none).result = .ok all) ↔
    ∀ id ∈ r.domains.keys, ∃ one, (r.report (some id)).result = .ok one := by
  simp only [report_none_eq_ok]
  rw [← exists_forall₂]
  constructor
  · rintro ⟨_, singles, hsingles, -⟩
    exact ⟨singles, hsingles⟩
  · rintro ⟨singles, hsingles⟩
    exact ⟨_, singles, hsingles, rfl⟩

/-- Reports on one domain agree with the one on all domains. Where the flows can be checked, there
is one on a domain unless this lists a flow twice under a name without a text, and one on all if
there is one on each. That one holds their results block by block in the order of the domains, with
the same result for the events, and its errors and warnings are theirs, the events counted once. The
flows of a block belong to its domain if the project was loaded, and none of this depends on a store
that a run keeps its results in. -/
theorem reports_agree (r : Registry) (hflows : ∀ f ∈ r.flows.values, ∃ res, f.check = .ok res) :
    (∀ id d, r.domains.get? id = some d →
      ((∃ one, (r.report (some id)).result = .ok one) ↔
        d.name.HasText ∨ (d.flows.map (·.id)).Nodup)) ∧
    ((∃ all, (r.report none).result = .ok all) ↔
      ∀ id ∈ r.domains.keys, ∃ one, (r.report (some id)).result = .ok one) ∧
    (∀ all, (r.report none).result = .ok all → ∃ singles,
      Forall₂ r.IsReportOn r.domains.keys singles ∧
        all.flows = singles.flatMap (·.flows) ∧ all.domains = singles.flatMap (·.domains) ∧
        (∀ one ∈ singles, one.events = all.events) ∧
        all.totalErrors =
          total (fun one => total Result.errorCount (one.flows ++ one.domains)) singles +
            all.events.errorCount ∧
        all.totalWarnings =
          total (fun one => total Result.warningCount (one.flows ++ one.domains)) singles +
            all.events.warningCount) ∧
    (∀ src, (load src).result = .ok r → ∀ id, ∀ f ∈ r.flowsOf id, f.domain = .str id) ∧
    ∀ draw only s, (r.reportInto draw only s).1 = (r.report only).result := by
  refine ⟨fun id d => exists_report_some_iff hflows, r.exists_report_none_iff, ?_,
    fun src hload id f => domain_of_mem_flowsOf hload, fun draw => r.fst_reportInto draw⟩
  intro all hall
  obtain ⟨singles, hsingles, rfl⟩ := report_none_eq_ok.1 hall
  -- that a domain is registered is lost in the pairing, so it is paired along
  have hparts : Forall₂ r.IsReportOn r.domains.keys singles := by
    have hkeys := (List.forall₂_and_left _ _).2 ⟨fun id hid => hid, hsingles⟩
    refine hkeys.imp fun id one => ?_
    rintro ⟨hid, hone⟩
    obtain ⟨d, hd⟩ := Option.ne_none_iff_exists'.1 fun hnone =>
      (Table.get?_eq_none_iff _ _).1 hnone hid
    exact isReportOn hd hone
  refine ⟨singles, hparts, rfl, rfl, ?_, Report.total_results_join _ _ _,
    Report.total_results_join _ _ _⟩
  intro one hone
  obtain ⟨id, -, hid⟩ := exists_of_forall₂ hparts one hone
  exact hid.events

/-- A domain that lists its only flow twice and is named by a number that has no text. -/
def unnamedShop : Domain :=
  { Domain.empty (.int (10 ^ Number.digitLimit)) .null with
    flows := [⟨"cart", .str "cart", none, .null⟩, ⟨"cart", .str "cart", none, .null⟩] }

/-- A project of a sound domain and that one. -/
def unnamed : Registry where
  domains := .ofList [
    ("billing", { Domain.empty (.str "Billing") .null with
      flows := [⟨"pay", .str "pay", none, .null⟩] }),
    ("shop", unnamedShop)]
  flows := .ofList [
    ("billing/pay", { Store.bareFlow "pay" .traditional with domain := .str "billing" }),
    ("shop/cart", Store.bareFlow "cart" .traditional)]
  flowKeys := .ofList [("billing", ["billing/pay"]), ("shop", ["shop/cart"])]

theorem not_hasText_unnamedShop : ¬ unnamedShop.name.HasText := Value.not_hasText_pow

/-- All its flows can be checked, and there is a report on the sound domain, but none on all. -/
theorem unreported_unnamed :
    Domain.read (.map [(.str "name", .int (10 ^ Number.digitLimit)),
        (.str "flows", .list [.map [(.str "id", .str "cart")], .map [(.str "id", .str "cart")]])]) =
          .ok unnamedShop ∧
      (∀ f ∈ unnamed.flows.values, ∃ res, f.check = .ok res) ∧
      (∃ one, (unnamed.report (some "billing")).result = .ok one) ∧
      ∀ all, (unnamed.report none).result ≠ .ok all := by
  have hflows : ∀ f ∈ unnamed.flows.values, ∃ res, f.check = .ok res := by
    intro f hf
    rcases List.mem_cons.1 hf with rfl | hf
    · exact ⟨_, rfl⟩
    · obtain rfl := List.mem_singleton.1 hf
      exact ⟨_, rfl⟩
  obtain ⟨hsome, hnone, -⟩ := reports_agree unnamed hflows
  refine ⟨rfl, hflows, (hsome "billing" _ rfl).2 (.inr (by decide)), fun all hall => ?_⟩
  have hshop := (hsome "shop" unnamedShop rfl).1 (hnone.1 ⟨all, hall⟩ "shop" (by decide))
  rcases hshop with htext | hnodup
  · exact not_hasText_unnamedShop htext
  · exact absurd hnodup (by decide)

end Registry

end FlowGate
