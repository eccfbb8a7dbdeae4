import FlowGate.Check.Domain
import FlowGate.Proofs.Finding

/-!
# Flows that a domain registers twice

The check of a domain finds no error exactly if the identifiers of its flows are distinct
(`Domain.errorCount_check`). It is carried out unless it has an issue to word and the name of the
domain has no text (`Domain.check_eq_ok_iff`).
-/

namespace FlowGate.Domain

variable {d : Domain} {id : String}

theorem repeated_eq_nil_iff {seen ids : List String} :
    repeated seen ids = [] ↔ ids.Nodup ∧ ∀ id ∈ ids, id ∉ seen := by
  induction ids generalizing seen with
  | nil => simp [repeated]
  | cons id ids ih =>
    rw [repeated, List.nodup_cons, List.forall_mem_cons]
    split
    · next hseen =>
      have hmem : id ∈ seen := List.contains_iff_mem.1 hseen
      simp [hmem]
    · next hseen =>
      have hnew : id ∉ seen := fun hmem => hseen (List.contains_iff_mem.2 hmem)
      rw [ih]
      -- the identifier moves from the list to what was seen
      constructor
      · rintro ⟨hnodup, hall⟩
        refine ⟨⟨fun hmem => hall id hmem List.mem_cons_self, hnodup⟩, hnew, ?_⟩
        exact fun x hx hs => hall x hx (List.mem_cons_of_mem _ hs)
      · rintro ⟨⟨hid, hnodup⟩, -, hall⟩
        refine ⟨hnodup, fun x hx hs => ?_⟩
        obtain rfl | hs := List.mem_cons.1 hs
        · exact hid hx
        · exact hall x hx hs

theorem findings_eq_nil_iff (d : Domain) : d.findings = [] ↔ (d.flows.map (·.id)).Nodup := by
  rw [findings, List.map_eq_nil_iff, repeated_eq_nil_iff]
  simp

theorem faultless_findings (d : Domain) :
    Faultless d.findings ↔ (d.flows.map (·.id)).Nodup := by
  rw [← findings_eq_nil_iff, findings, faultless_map_of_error fun _ => rfl, List.map_eq_nil_iff]

theorem check_eq_ok_iff : (∃ r, d.check id = .ok r) ↔
    d.name.isTooLong = false ∨ (d.flows.map (·.id)).Nodup := by
  rw [← findings_eq_nil_iff, check]
  cases d.name.isTooLong <;> cases d.findings <;> simp

theorem eq_of_check {r : Result} (h : d.check id = .ok r) :
    r = ⟨.domain, id, d.findings.map (·.stamped none (.str id))⟩ := by
  unfold check at h
  split at h
  · cases h
  · exact (Except.ok.inj h).symm

theorem errorCount_check {r : Result} (h : d.check id = .ok r) :
    r.errorCount = 0 ↔ (d.flows.map (·.id)).Nodup := by
  rw [eq_of_check h, Result.errorCount_eq_zero_iff, faultless_map_stamped, faultless_findings]

end FlowGate.Domain
