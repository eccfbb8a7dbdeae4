import FlowGate.Proofs.Domain.Duplicates
import FlowGate.Proofs.Store.Operation
import FlowGate.Proofs.Value.Text
import Mathlib.Data.Finset.Card

/-!
# How often a domain registers a flow again

The check of a domain goes through its flows once, with the identifiers that it has seen. It picks
an identifier at exactly the places that repeat an earlier one (`Domain.forall₂_repeats`), so that
the errors and the distinct identifiers add up to the flows. `Domain.counted_of_check` says so of
its result. The check is carried out unless it has such a place to report and the name of the domain
has no text.
-/

namespace FlowGate

open List (Forall₂)

namespace Domain

variable {d : Domain} {id : String}

/-- The places of a list whose item stands at an earlier place as well. -/
def repeats (xs : List String) : List Nat :=
  (List.range xs.length).filter fun i => ∃ j, j < i ∧ xs[j]? = xs[i]?

/-! ## One more item -/

theorem repeats_concat (xs : List String) (x : String) :
    repeats (xs ++ [x]) = repeats xs ++ if x ∈ xs then [xs.length] else [] := by
  have hold : ∀ i ∈ List.range xs.length,
      decide (∃ j, j < i ∧ (xs ++ [x])[j]? = (xs ++ [x])[i]?) =
        decide (∃ j, j < i ∧ xs[j]? = xs[i]?) := by
    intro i hi
    rw [List.mem_range] at hi
    refine decide_eq_decide.2 (exists_congr fun j => and_congr_right fun hj => ?_)
    rw [List.getElem?_append_left hi, List.getElem?_append_left (Nat.lt_trans hj hi)]
  have hlast : (∃ j, j < xs.length ∧ (xs ++ [x])[j]? = (xs ++ [x])[xs.length]?) ↔ x ∈ xs := by
    rw [List.getElem?_concat_length, List.mem_iff_getElem?]
    refine exists_congr fun j => ?_
    constructor
    · rintro ⟨hj, h⟩
      rwa [List.getElem?_append_left hj] at h
    · intro h
      obtain ⟨hj, -⟩ := List.getElem?_eq_some_iff.1 h
      exact ⟨hj, by rwa [List.getElem?_append_left hj]⟩
  unfold repeats
  rw [List.length_append, List.length_singleton, List.range_succ, List.filter_append,
    List.filter_congr hold, List.filter_singleton]
  simp only [hlast, Bool.cond_decide]

theorem repeated_concat (seen ids : List String) (x : String) :
    repeated seen (ids ++ [x]) =
      repeated seen ids ++ if x ∈ seen ∨ x ∈ ids then [x] else [] := by
  induction ids generalizing seen with
  | nil => simp [repeated]
  | cons id ids ih =>
    rw [List.cons_append, repeated, repeated]
    split
    · next hseen =>
      have hmem : id ∈ seen := List.contains_iff_mem.1 hseen
      have hx : (x ∈ seen ∨ x ∈ id :: ids) ↔ x ∈ seen ∨ x ∈ ids := by
        rw [List.mem_cons]
        refine ⟨fun h => h.elim .inl fun h => h.imp_left ?_, fun h => h.imp_right .inr⟩
        rintro rfl
        exact hmem
      rw [ih, List.cons_append]
      simp only [hx]
    · have hx : (x ∈ id :: seen ∨ x ∈ ids) ↔ x ∈ seen ∨ x ∈ id :: ids := by
        rw [List.mem_cons, List.mem_cons, or_comm (a := x = id), or_assoc]
      rw [ih]
      simp only [hx]

/-! ## Whole lists -/

/-- What is picked stands at the places that repeat something, in their order. -/
theorem forall₂_repeats (ids : List String) :
    Forall₂ (fun i id => ids[i]? = some id) (repeats ids) (repeated [] ids) := by
  induction ids using List.reverseRecOn with
  | nil => exact .nil
  | append_singleton ids x ih =>
    have hold : Forall₂ (fun i id => (ids ++ [x])[i]? = some id) (repeats ids)
        (repeated [] ids) := by
      refine ih.imp fun i id h => ?_
      obtain ⟨hi, -⟩ := List.getElem?_eq_some_iff.1 h
      rwa [List.getElem?_append_left hi]
    rw [repeats_concat, repeated_concat]
    refine List.rel_append hold ?_
    by_cases hx : x ∈ ids
    · rw [if_pos hx, if_pos (.inr hx)]
      exact .cons List.getElem?_concat_length .nil
    · rw [if_neg hx, if_neg (by simpa using hx)]
      exact .nil

theorem length_repeated_add_card (ids : List String) :
    (repeated [] ids).length + ids.toFinset.card = ids.length := by
  induction ids using List.reverseRecOn with
  | nil => rfl
  | append_singleton ids x ih =>
    have hset : (ids ++ [x]).toFinset = insert x ids.toFinset := by
      ext y
      simp
    rw [repeated_concat, hset, List.length_append, List.length_append, List.length_singleton]
    by_cases hx : x ∈ ids
    · rw [if_pos (.inr hx), Finset.insert_eq_of_mem (List.mem_toFinset.2 hx), List.length_singleton]
      omega
    · rw [if_neg (by simpa using hx),
        Finset.card_insert_of_notMem (fun h => hx (List.mem_toFinset.1 h)), List.length_nil]
      omega

/-! ## Results -/

theorem errorCount_eq_length {r : Result} (h : d.check id = .ok r) :
    r.errorCount = (repeated [] (d.flows.map (·.id))).length := by
  have hall : ∀ i ∈ d.findings.map (·.stamped none (.str id)), i.severity = .error := by
    simp [findings, duplicateIssue, Issue.stamped]
  rw [eq_of_check h, Result.errorCount, Result.errors, Result.ofSeverity,
    List.filter_eq_self.2 (by simpa using hall), List.length_map, findings, List.length_map]

/-- The errors and the distinct identifiers make up the flows. -/
theorem errorCount_add_card {r : Result} (h : d.check id = .ok r) :
    r.errorCount + (d.flows.map (·.id)).toFinset.card = d.flows.length := by
  rw [errorCount_eq_length h, length_repeated_add_card, List.length_map]

theorem exists_check_of_perm {flows : List FlowEntry} (hperm : flows.Perm d.flows) {r : Result}
    (h : d.check id = .ok r) :
    ∃ r', ({ d with flows := flows } : Domain).check id = .ok r' ∧
      r'.errorCount = r.errorCount := by
  have hids : (flows.map (·.id)).Perm (d.flows.map (·.id)) := hperm.map _
  obtain ⟨r', hr'⟩ : ∃ r', ({ d with flows := flows } : Domain).check id = .ok r' := by
    rw [check_eq_ok_iff, hids.nodup_iff]
    exact check_eq_ok_iff.1 ⟨r, h⟩
  have hcount := errorCount_add_card h
  have hcount' : r'.errorCount + (flows.map (·.id)).toFinset.card = flows.length :=
    errorCount_add_card hr'
  rw [List.toFinset_eq_of_perm _ _ hids, hperm.length_eq] at hcount'
  exact ⟨r', hr', by omega⟩

/-- The issues of a check stand for the places that repeat an identifier. -/
theorem forall₂_issues {r : Result} (h : d.check id = .ok r) :
    Forall₂ (fun i issue => ∃ entry, d.flows[i]? = some entry ∧
        issue = { d.duplicateIssue entry.id with domain := .str id })
      (repeats (d.flows.map (·.id))) r.issues := by
  rw [eq_of_check h]
  show Forall₂ _ _ (d.findings.map _)
  rw [findings, List.map_map, List.forall₂_map_right_iff]
  refine (forall₂_repeats _).imp fun i x hx => ?_
  rw [List.getElem?_map, Option.map_eq_some_iff] at hx
  obtain ⟨entry, hentry, rfl⟩ := hx
  exact ⟨entry, hentry, rfl⟩

/-- The check of a domain is carried out exactly if the name has a text or no identifier is
repeated. Its result then holds one error for each place that repeats an identifier, in their order,
and nothing else; the errors and the distinct identifiers make up the flows. What other domains
there are makes no difference, and the order of the flows none to the number of errors. -/
theorem counted_of_check (id : String) (d : Domain) :
    ((∃ r, d.check id = .ok r) ↔ d.name.HasText ∨ (d.flows.map (·.id)).Nodup) ∧
    (∀ r, d.check id = .ok r →
      Forall₂ (fun i issue => ∃ entry, d.flows[i]? = some entry ∧
          issue = { d.duplicateIssue entry.id with domain := .str id })
        (repeats (d.flows.map (·.id))) r.issues ∧
      r.errorCount + (d.flows.map (·.id)).toFinset.card = d.flows.length ∧
      (r.isValid = true ↔ (d.flows.map (·.id)).Nodup) ∧
      ∀ flows : List FlowEntry, flows.Perm d.flows →
        ∃ r', ({ d with flows := flows } : Domain).check id = .ok r' ∧
          r'.errorCount = r.errorCount) ∧
    ∀ (marks : Marks) (domains : Table Domain) (s : Store), domains.get? id = some d →
      (Store.checkDomain marks id domains s).1 =
        (d.check id).map fun r => some (r.made marks) := by
  refine ⟨?_, fun r hr => ?_, fun marks domains s hd => Store.fst_checkDomain marks hd s⟩
  · rw [check_eq_ok_iff, Value.isTooLong_eq_false_iff]
  · refine ⟨forall₂_issues hr, errorCount_add_card hr, ?_, fun flows hperm =>
      exists_check_of_perm hperm hr⟩
    rw [Result.isValid, beq_iff_eq, errorCount_check hr]

/-- A domain that lists some flows under a name. -/
def listing (name : Value) (ids : List String) : Domain :=
  { empty name .null with flows := ids.map fun id => ⟨id, .str id, none, .null⟩ }

/-- Each further place counts. With a number for a name that has no text the check is not carried
out, though there is one such place. -/
theorem counted_checkout :
    (∃ r, (listing (.str "Orders") ["checkout", "refund", "checkout", "checkout"]).check "orders" =
        .ok r ∧ repeats ["checkout", "refund", "checkout", "checkout"] = [2, 3] ∧
        r.errorCount = 2 ∧ r.isValid = false) ∧
      Domain.read (.map [(.str "name", .int (10 ^ Number.digitLimit)),
        (.str "flows", .list [.map [(.str "id", .str "cart")], .map [(.str "id", .str "cart")]])]) =
          .ok (listing (.int (10 ^ Number.digitLimit)) ["cart", "cart"]) ∧
      repeats ["cart", "cart"] = [1] ∧
      ∀ r, (listing (.int (10 ^ Number.digitLimit)) ["cart", "cart"]).check "shop" ≠ .ok r := by
  obtain ⟨hchecked, hresult, -⟩ := counted_of_check "orders"
    (listing (.str "Orders") ["checkout", "refund", "checkout", "checkout"])
  obtain ⟨r, hr⟩ := hchecked.2 (.inl (Value.hasText_str "Orders"))
  obtain ⟨-, hcount, hvalid, -⟩ := hresult r hr
  refine ⟨⟨r, hr, by decide, ?_, ?_⟩, rfl, by decide, fun r hr => ?_⟩
  · have hsum : r.errorCount + 2 = 4 := hcount
    omega
  · rw [← Bool.not_eq_true, hvalid]
    decide
  · obtain htext | hnodup := (counted_of_check "shop" _).1.1 ⟨r, hr⟩
    · exact Value.not_hasText_pow htext
    · exact absurd hnodup (by decide)

end Domain

end FlowGate
