import FlowGate.Proofs.Project.Reporting
import FlowGate.Yaml.Reader
import Mathlib.Data.List.Nodup

/-!
# What a written report shows

A report keeps its results in lists and is written as a mapping, in which a result stands under its
target. Of several results for one target the mapping holds the last one: `latest` are those that
are left, `replaced` the others. `Report.value_add_replaced` counts both against the summary.
-/

namespace FlowGate

open List (Forall₂)

/-! ## Members that come again -/

section

variable {α β : Type} {key : α → String} {xs : List α}

/-- The members of a list whose keys do not come again. -/
def latest (key : α → String) : List α → List α
  | [] => []
  | x :: xs => if key x ∈ xs.map key then latest key xs else x :: latest key xs

/-- The members of a list whose keys come again. -/
def replaced (key : α → String) : List α → List α
  | [] => []
  | x :: xs => if key x ∈ xs.map key then x :: replaced key xs else replaced key xs

theorem perm_latest_append_replaced (key : α → String) (xs : List α) :
    (latest key xs ++ replaced key xs).Perm xs := by
  induction xs with
  | nil => exact .nil
  | cons x xs ih =>
    unfold latest replaced
    split
    · exact List.perm_middle.trans (ih.cons x)
    · exact ih.cons x

theorem replaced_eq_nil_iff : replaced key xs = [] ↔ (xs.map key).Nodup := by
  induction xs with
  | nil => simp [replaced]
  | cons x xs ih =>
    rw [replaced, List.map_cons, List.nodup_cons, ← ih]
    split
    · next h => simp [h]
    · next h => simp [h]

theorem latest_eq_self (h : (xs.map key).Nodup) : latest key xs = xs := by
  induction xs with
  | nil => rfl
  | cons x xs ih =>
    obtain ⟨hx, hxs⟩ := List.nodup_cons.1 h
    rw [latest, if_neg hx, ih hxs]

theorem mem_latest {x : α} :
    x ∈ latest key xs ↔ ∃ before after, xs = before ++ x :: after ∧ key x ∉ after.map key := by
  induction xs with
  | nil => simp [latest]
  | cons y xs ih =>
    have hrest : (∃ before after, y :: xs = before ++ x :: after ∧ key x ∉ after.map key) ↔
        (x = y ∧ key x ∉ xs.map key) ∨ x ∈ latest key xs := by
      rw [ih]
      constructor
      · rintro ⟨before, after, hsplit, hx⟩
        cases before with
        | nil =>
          obtain ⟨rfl, rfl⟩ := List.cons.inj hsplit
          exact .inl ⟨rfl, hx⟩
        | cons z before =>
          obtain ⟨rfl, rfl⟩ := List.cons.inj hsplit
          exact .inr ⟨before, after, rfl, hx⟩
      · rintro (⟨rfl, hx⟩ | ⟨before, after, rfl, hx⟩)
        · exact ⟨[], xs, rfl, hx⟩
        · exact ⟨y :: before, after, rfl, hx⟩
    rw [hrest, latest]
    split
    · next hy =>
      refine (or_iff_right ?_).symm
      rintro ⟨rfl, hx⟩
      exact hx hy
    · next hy =>
      rw [List.mem_cons]
      refine or_congr_left (and_iff_left_of_imp ?_).symm
      rintro rfl
      exact hy

theorem latest_subset : latest key xs ⊆ xs := by
  intro x hx
  obtain ⟨before, after, rfl, -⟩ := mem_latest.1 hx
  simp

theorem nodup_latest : ((latest key xs).map key).Nodup := by
  induction xs with
  | nil => exact List.nodup_nil
  | cons x xs ih =>
    rw [latest]
    split
    · exact ih
    · next hx => exact List.nodup_cons.2 ⟨fun h => hx (List.map_subset key latest_subset h), ih⟩

theorem latest_map (key : β → String) (f : α → β) (xs : List α) :
    latest key (xs.map f) = (latest (key ∘ f) xs).map f := by
  induction xs with
  | nil => rfl
  | cons x xs ih =>
    rw [List.map_cons, latest, latest, List.map_map, ih]
    split
    · next h => rw [Function.comp_apply, if_pos h]
    · next h => rw [Function.comp_apply, if_neg h, List.map_cons]

end

/-! ## Tables and totals -/

section

variable {α : Type} {measure : α → Nat} {xs ys : List α}

theorem forall_bne_iff {es : List (String × α)} {k : String} :
    (∀ e ∈ es, (k != e.1) = true) ↔ k ∉ es.map Prod.fst := by
  rw [List.mem_map, not_exists]
  simp only [bne_iff_ne, not_and, ne_comm (a := k), ne_eq]

theorem Table.get?_ofList_eq_some_iff {es : List (String × α)} {k : String} {v : α} :
    (Table.ofList es).get? k = some v ↔ (k, v) ∈ latest Prod.fst es := by
  rw [Table.get?_ofList, List.lookup_eq_some_iff, mem_latest]
  simp only [forall_bne_iff]
  constructor
  · rintro ⟨before, after, hes, hne⟩
    refine ⟨after.reverse, before.reverse, ?_, by simpa using hne⟩
    rw [← List.reverse_reverse es, hes]
    simp
  · rintro ⟨before, after, rfl, hne⟩
    exact ⟨after.reverse, before.reverse, by simp, by simpa using hne⟩

theorem Table.perm_ofList (es : List (String × α)) :
    (Table.ofList es).entries.Perm (latest Prod.fst es) := by
  have hnodup := (Table.ofList es).nodup.of_map
  have hnodup' : (latest Prod.fst es).Nodup := nodup_latest.of_map
  refine (List.perm_ext_iff_of_nodup hnodup hnodup').2 fun ⟨k, v⟩ => ?_
  rw [← Table.get?_eq_some_iff, Table.get?_ofList_eq_some_iff]

theorem total_append : total measure (xs ++ ys) = total measure xs + total measure ys := by
  induction xs with
  | nil => simp
  | cons x xs ih => simp [ih, Nat.add_assoc]

theorem total_of_perm (h : xs.Perm ys) : total measure xs = total measure ys := by
  induction h with
  | nil => rfl
  | cons x _ ih => rw [total_cons, total_cons, ih]
  | swap x y xs => simp only [total_cons]; omega
  | trans _ _ ih ih' => rw [ih, ih']

theorem total_one (xs : List α) : total (fun _ => 1) xs = xs.length := by
  induction xs with
  | nil => rfl
  | cons x xs ih => rw [total_cons, ih, List.length_cons, Nat.add_comm]

theorem total_latest_add (key : α → String) (xs : List α) :
    total measure (latest key xs) + total measure (replaced key xs) = total measure xs := by
  rw [← total_append]
  exact total_of_perm (perm_latest_append_replaced key xs)

end

/-! ## Written reports -/

namespace Value

def part (v : Value) (key : String) : Value := (v.get? key).getD .null

/-- The entries of the mapping under a text key. -/
def members (v : Value) (key : String) : Entries :=
  match v.part key with
  | .map es => es
  | _ => []

/-- The number under a text key of a mapping, zero if there is none. -/
def number (v : Value) (key : String) : Nat :=
  match v.part key with
  | .int n => n.toNat
  | _ => 0

/-- The sum of the numbers under a key over all results in a written report. -/
def summed (v : Value) (key : String) : Nat :=
  total (fun e => e.2.number key) (v.members "flows")
    + total (fun e => e.2.number key) (v.members "domains")
    + (v.part "system").number key

end Value

theorem Marks.skip_skip (marks : Marks) (m n : Nat) :
    (marks.skip m).skip n = marks.skip (m + n) := by
  unfold skip
  simp only [Nat.add_assoc]

theorem Entries.get?_map_str (es : List (String × Value)) (k : String) :
    Entries.get? (es.map fun e => (.str e.1, e.2)) k = es.lookup k := by
  induction es with
  | nil => rfl
  | cons e es ih =>
    obtain ⟨l, v⟩ := e
    rw [List.map_cons, Entries.get?_cons, lookup_pair, ih]
    simp only [Scalar.str.injEq, eq_comm]

theorem Flow.target_of_check {f : Flow} {res : Result} (h : f.check = .ok res) :
    res.target = f.key := by
  obtain ⟨issues, -, rfl⟩ := exists_findings_of_check h
  rfl

theorem Domain.target_of_check {id : String} {d : Domain} {res : Result}
    (h : d.check id = .ok res) : res.target = id := by
  rw [eq_of_check h]

theorem map_eq_of_forall₂ {α β γ : Type} {R : α → β → Prop} {f : α → γ} {g : β → γ} {xs : List α}
    {ys : List β} (h : Forall₂ R xs ys) (hfg : ∀ x y, R x y → f x = g y) :
    xs.map f = ys.map g := by
  rw [← List.forall₂_eq_eq_eq, List.forall₂_map_left_iff, List.forall₂_map_right_iff]
  exact h.imp hfg

namespace Report

theorem values_append (marks : Marks) (rs ss : List Result) :
    values marks (rs ++ ss) = values marks rs ++ values (marks.skip (issueCount rs)) ss := by
  induction rs generalizing marks with
  | nil =>
    show values marks ss = values (marks.skip 0) ss
    simp [Marks.skip]
  | cons r rs ih =>
    rw [List.cons_append, values, values, ih, Marks.skip_skip]
    rfl

theorem map_fst_values (marks : Marks) (rs : List Result) :
    (values marks rs).map Prod.fst = rs.map Result.target := by
  induction rs generalizing marks with
  | nil => rfl
  | cons r rs ih => rw [values, List.map_cons, List.map_cons, ih]

theorem map_values {α : Type} {g : Value → α} {count : Result → α}
    (h : ∀ (r : Result) (marks : Marks), g (r.report marks) = count r) (marks : Marks)
    (rs : List Result) :
    (values marks rs).map (fun e => (e.1, g e.2)) = rs.map fun r => (r.target, count r) := by
  induction rs generalizing marks with
  | nil => rfl
  | cons r rs ih => rw [values, List.map_cons, List.map_cons, ih, h]

/-- A sum over written results is the one over the results that are not replaced. -/
theorem total_entriesOf {g : Value → Nat} {count : Result → Nat}
    (h : ∀ (r : Result) (marks : Marks), g (r.report marks) = count r) (marks : Marks)
    (rs : List Result) :
    total (fun e => g e.2) (entriesOf (values marks rs)) =
      total count (latest Result.target rs) := by
  have hvalues := latest_map Prod.fst (fun e : String × Value => (e.1, g e.2)) (values marks rs)
  have hresults := latest_map Prod.fst (fun r : Result => (r.target, count r)) rs
  rw [map_values h, hresults] at hvalues
  have htotal := congrArg (total Prod.snd) hvalues
  rw [total_map, total_map] at htotal
  unfold entriesOf
  rw [total_map, total_of_perm (Table.perm_ofList _)]
  exact htotal.symm

theorem length_entriesOf (marks : Marks) (rs : List Result) :
    (entriesOf (values marks rs)).length = (latest Result.target rs).length := by
  have htotal : total (fun _ => 1) (entriesOf (values marks rs)) =
      total (fun _ => 1) (latest Result.target rs) :=
    total_entriesOf (g := fun _ => 1) (fun _ _ => rfl) marks rs
  rwa [total_one, total_one] at htotal

/-- A result that is not replaced stands under its target. -/
theorem get?_entriesOf {before after : List Result} {res : Result} {marks : Marks}
    (h : res.target ∉ after.map Result.target) :
    Entries.get? (entriesOf (values marks (before ++ res :: after))) res.target =
      some (res.report (marks.skip (issueCount before))) := by
  unfold entriesOf
  rw [Entries.get?_map_str, values_append, values]
  refine Table.get?_ofList_eq_some_iff.2 (mem_latest.2 ⟨_, _, rfl, ?_⟩)
  rwa [map_fst_values]

/-- The sum of a number over a written report falls short by what was replaced. -/
theorem summed_add_replaced {rep : Report} {strict : Bool} {marks : Marks} {key : String}
    {count : Result → Nat}
    (hcount : ∀ (r : Result) (marks : Marks), (r.report marks).number key = count r)
    (hnodup : (rep.domains.map Result.target).Nodup) :
    (rep.value strict marks).summed key + total count (replaced Result.target rep.flows) =
      total count rep.results := by
  have hflows : total count (latest Result.target rep.flows) +
      total count (replaced Result.target rep.flows) = total count rep.flows :=
    total_latest_add Result.target rep.flows
  show total (fun e => e.2.number key) (entriesOf (values marks rep.flows))
    + total (fun e => e.2.number key) (entriesOf (values _ rep.domains))
    + (rep.events.report _).number key + _ = total count (rep.flows ++ rep.domains ++ [rep.events])
  rw [total_entriesOf (g := fun v => v.number key) hcount,
    total_entriesOf (g := fun v => v.number key) hcount, hcount, latest_eq_self hnodup,
    total_append, total_append, total_cons, total_nil]
  omega

/-- Of the results for one target the written report shows the last one. What the others would have
added to the numbers of flows, errors and warnings is what these fall short of the summary; the
domains are all there. No flow is missing exactly if no two of them have the same key. -/
theorem value_add_replaced (r : Registry) (only : Option String) (strict : Bool) (marks : Marks)
    (rep : Report) (h : (r.report only).result = .ok rep) :
    let out := rep.value strict marks
    let summary := out.part "summary"
    let lost := replaced Result.target rep.flows
    ((out.members "flows").length + lost.length = summary.number "flows" ∧
      (out.members "domains").length = summary.number "domains") ∧
    (out.summed "errorCount" + total Result.errorCount lost = summary.number "errors" ∧
      out.summed "warningCount" + total Result.warningCount lost = summary.number "warnings") ∧
    ((out.members "flows").length = summary.number "flows" ↔
      (((r.chosen only).flatMap fun e => r.flowsOf e.1).map Flow.key).Nodup) ∧
    ∀ before res after, rep.flows = before ++ res :: after →
      res.target ∉ after.map Result.target →
      Entries.get? (out.members "flows") res.target =
        some (res.report (marks.skip (issueCount before))) := by
  intro out summary lost
  obtain ⟨hflows, hdomains, -⟩ := Registry.report_eq_ok.1 h
  have htargets : (((r.chosen only).flatMap fun e => r.flowsOf e.1).map Flow.key) =
      rep.flows.map Result.target :=
    map_eq_of_forall₂ hflows fun f res hres => (Flow.target_of_check hres).symm
  have hids : (r.chosen only).map Prod.fst = rep.domains.map Result.target :=
    map_eq_of_forall₂ hdomains fun e res hres => (Domain.target_of_check hres).symm
  have hnodup : (rep.domains.map Result.target).Nodup :=
    hids ▸ r.domains.nodup.sublist (List.filter_sublist.map Prod.fst)
  have hlength : (out.members "flows").length + lost.length = summary.number "flows" := by
    show (entriesOf (values marks rep.flows)).length + lost.length = rep.flows.length
    rw [length_entriesOf, ← List.length_append]
    exact (perm_latest_append_replaced Result.target rep.flows).length_eq
  have herrors : out.summed "errorCount" + total Result.errorCount lost = rep.totalErrors :=
    summed_add_replaced (fun res _ => by rw [res.report_eq]; rfl) hnodup
  have hwarnings : out.summed "warningCount" + total Result.warningCount lost = rep.totalWarnings :=
    summed_add_replaced (fun res _ => by rw [res.report_eq]; rfl) hnodup
  refine ⟨⟨hlength, ?_⟩, ⟨herrors, hwarnings⟩, ?_, ?_⟩
  · show (entriesOf (values _ rep.domains)).length = rep.domains.length
    rw [length_entriesOf, latest_eq_self hnodup]
  · rw [htargets, ← replaced_eq_nil_iff, ← List.length_eq_zero_iff, ← hlength]
    exact Nat.left_eq_add
  · rintro before res after hsplit hlast
    show Entries.get? (entriesOf (values marks rep.flows)) res.target = _
    rw [hsplit]
    exact get?_entriesOf hlast

/-- A project of two flows whose files give the same identifier. Neither has a trigger. -/
def twinned : ProjectSource := .ofTexts Yaml.read [
  (["ddd-project.json"], "\x7b\"domains\": [\x7b\"name\": \"Billing\"\x7d]\x7d"),
  (["specs", "domains", "billing", "domain.yaml"], "flows: [{id: pay}, {id: refund}]"),
  (["specs", "domains", "billing", "flows", "pay.yaml"], "{flow: {id: pay}, metadata: {}}"),
  (["specs", "domains", "billing", "flows", "refund.yaml"], "{flow: {id: pay}, metadata: {}}")]

/-- Both flows have the same target, and two errors. -/
theorem exists_report_twinned : ∃ r rep a b, (Registry.load twinned).result = .ok r ∧
    (r.report none).result = .ok rep ∧ rep.flows = [a, b] ∧ a.target = b.target ∧
      a.errorCount = 2 := by
  have hload : (Registry.load twinned).result.toOption.map (fun r =>
      (r.report none).result.toOption.map fun rep =>
        rep.flows.map fun res => (res.target, res.errorCount)) =
          some (some [("billing/pay", 2), ("billing/pay", 2)]) := by decide +kernel
  cases hr : (Registry.load twinned).result with
  | error fault =>
    rw [hr] at hload
    cases hload
  | ok r =>
    rw [hr] at hload
    cases hrep : (r.report none).result with
    | error fault =>
      simp only [Except.toOption, Option.map_some, hrep] at hload
      cases hload
    | ok rep =>
      simp only [Except.toOption, Option.map_some, hrep, Option.some.injEq] at hload
      obtain ⟨a, rest, hflows, ha, hrest⟩ := List.map_eq_cons_iff.1 hload
      obtain ⟨b, rfl, hb⟩ := List.map_eq_singleton_iff.1 hrest
      obtain ⟨hatarget, haerrors⟩ := Prod.mk.inj ha
      obtain ⟨hbtarget, -⟩ := Prod.mk.inj hb
      exact ⟨r, rep, a, b, rfl, hrep, hflows, hatarget.trans hbtarget.symm, haerrors⟩

/-- Two flows are checked and one is shown, and the errors of the other are missing. -/
theorem short_twinned : ∃ r rep, (Registry.load twinned).result = .ok r ∧
    (r.report none).result = .ok rep ∧
    let out := rep.value false ⟨fun _ => "", ""⟩
    (out.part "summary").number "flows" = 2 ∧ (out.members "flows").length = 1 ∧
      out.summed "errorCount" < (out.part "summary").number "errors" := by
  obtain ⟨r, rep, a, b, hr, hrep, hflows, htarget, herrorCount⟩ := exists_report_twinned
  have hlost : replaced Result.target rep.flows = [a] := by simp [hflows, replaced, htarget]
  have htwo : ((rep.value false ⟨fun _ => "", ""⟩).part "summary").number "flows" = 2 := by
    show rep.flows.length = 2
    rw [hflows]
    rfl
  obtain ⟨⟨hlength, -⟩, ⟨herrors, -⟩, -⟩ :=
    value_add_replaced r none false ⟨fun _ => "", ""⟩ rep hrep
  rw [hlost] at hlength herrors
  rw [total_cons, total_nil, herrorCount] at herrors
  refine ⟨r, rep, hr, hrep, htwo, ?_, ?_⟩
  · rw [htwo] at hlength
    exact Nat.succ.inj hlength
  · exact Nat.lt_of_lt_of_eq (Nat.lt_add_of_pos_right Nat.two_pos) herrors

end Report

end FlowGate
