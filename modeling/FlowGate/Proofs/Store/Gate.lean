import FlowGate.Proofs.Domain.Duplicates
import FlowGate.Proofs.Events.Index
import FlowGate.Proofs.Store.Key
import FlowGate.Proofs.Value.Text

/-!
# The gate after a check of everything

A check of everything writes the three results that the gate of its flow reads, so that nothing the
store knew before takes part in the decision. `Store.canImplement_checkAll` says when the gate is
open then: in terms of the flow, the identifiers that its domain registers, and the events of all
domains. A check that the domain stops has written the result of the flow only, and the gate goes by
what the store knew before of the rest.
-/

namespace FlowGate.Store

variable {marks : Scope → Marks} {s : Store} {f : Flow} {r : Result} {id : String} {d : Domain}
  {domains : Table Domain}

theorem checkAll_eq_ok_iff (hf : f.check = .ok r) (hid : id ≠ "") (hd : domains.get? id = some d) :
    (checkAll marks (some f) (some id) domains s).1 = .ok () ↔ ∃ rd, d.check id = .ok rd := by
  cases hr : d.check id with
  | ok rd =>
    rw [checkAll_of_check hf hid hd hr]
    exact ⟨fun _ => ⟨rd, rfl⟩, fun _ => rfl⟩
  | error e =>
    rw [checkAll_of_check_error hf hid hd hr]
    exact ⟨nofun, nofun⟩

theorem gate_checkAll {rd : Result} (hf : f.check = .ok r) (hid : id ≠ "")
    (hd : domains.get? id = some d) (hr : d.check id = .ok rd) (hdomain : f.domain = .str id) :
    (checkAll marks (some f) (some id) domains s).2.gate f.id id =
      ⟨some (r.made (marks .flow)), some (rd.made (marks .domain)),
        some ((Events.check domains).made (marks .system))⟩ := by
  rw [checkAll_of_check hf hid hd hr]
  simp only [gate, key_eq_flowKey hdomain, Table.get?_put, if_true]

/-- After a check of everything that its domain has stopped, the gate looks at the new result of the
flow and at what the store knew before. -/
theorem gate_checkAll_of_error {e : CheckFault} (hf : f.check = .ok r) (hid : id ≠ "")
    (hd : domains.get? id = some d) (he : d.check id = .error e) (hdomain : f.domain = .str id) :
    (checkAll marks (some f) (some id) domains s).2.gate f.id id =
      ⟨some (r.made (marks .flow)), s.domains.get? id, s.system⟩ := by
  rw [checkAll_of_check_error hf hid hd he]
  simp only [gate, key_eq_flowKey hdomain, Table.get?_put, if_true]

/-- After a check of everything the gate is open exactly if neither the flow nor its domain has an
error and every event that a domain consumes is published by one. -/
theorem canImplement_checkAll_iff {s' : Store} (hf : f.check = .ok r) (hid : id ≠ "")
    (hd : domains.get? id = some d) (hdomain : f.domain = .str id)
    (h : checkAll marks (some f) (some id) domains s = (.ok (), s')) :
    (s'.gate f.id id).canImplement = true ↔
      r.errorCount = 0 ∧ (d.flows.map (·.id)).Nodup ∧
        ∀ event, Events.Occurs Domain.consumes domains event →
          Events.Occurs Domain.publishes domains event := by
  obtain ⟨rd, hr⟩ := (checkAll_eq_ok_iff hf hid hd).1 (congrArg Prod.fst h)
  have hgate : (checkAll marks (some f) (some id) domains s).2.gate f.id id = _ :=
    gate_checkAll hf hid hd hr hdomain
  rw [h] at hgate
  rw [hgate, Gate.canImplement_iff, ← Domain.errorCount_check hr, ← Events.errorCount_check]
  simp [Gate.results]

/-- After a check of everything that was stopped the gate is open exactly if neither the flow nor
what the store knew before has an error. The domain has stopped it: it registers a flow twice. -/
theorem canImplement_checkAll_of_error {s' : Store} {e : CheckFault} (hf : f.check = .ok r)
    (hid : id ≠ "") (hd : domains.get? id = some d) (hdomain : f.domain = .str id)
    (h : checkAll marks (some f) (some id) domains s = (.error e, s')) :
    ¬ (d.flows.map (·.id)).Nodup ∧
      s'.gate f.id id = ⟨some (r.made (marks .flow)), s.domains.get? id, s.system⟩ ∧
      ((s'.gate f.id id).canImplement = true ↔ r.errorCount = 0 ∧
        (∀ v, s.domains.get? id = some v → v.errorCount = 0) ∧
          ∀ v, s.system = some v → v.errorCount = 0) := by
  cases hr : d.check id with
  | ok rd =>
    rw [checkAll_of_check hf hid hd hr] at h
    cases h
  | error e' =>
    have hgate : (checkAll marks (some f) (some id) domains s).2.gate f.id id = _ :=
      gate_checkAll_of_error hf hid hd hr hdomain
    rw [h] at hgate
    refine ⟨fun hnodup => ?_, hgate, ?_⟩
    · have hok : ∃ rd, d.check id = .ok rd := Domain.check_eq_ok_iff.2 (.inr hnodup)
      simp [hr] at hok
    · rw [hgate, Gate.canImplement_iff]
      simp [Gate.results, or_imp, forall_and]

/-- The gate of a flow after a check of everything on any store. The check is carried out unless it
has an issue to word of a domain whose name has no text. The gate is open then exactly if the flow
has no error, its domain registers no flow twice, and every event that a domain consumes is
published by one; neither what the store knew before nor the order of the domains plays a part. If
the check is stopped, the domain registers a flow twice; but the gate goes by the new result of the
flow and by the results of the domain and the system that were there before. -/
theorem canImplement_checkAll (hf : f.check = .ok r) (hid : id ≠ "")
    (hd : domains.get? id = some d) (hdomain : f.domain = .str id) :
    (∀ (marks : Scope → Marks) (s : Store),
      (checkAll marks (some f) (some id) domains s).1 = .ok () ↔
        d.name.HasText ∨ (d.flows.map (·.id)).Nodup) ∧
    (∀ (marks : Scope → Marks) (s s' : Store),
      checkAll marks (some f) (some id) domains s = (.ok (), s') →
      ((s'.gate f.id id).canImplement = true ↔
        r.errorCount = 0 ∧ (d.flows.map (·.id)).Nodup ∧
          ∀ event, Events.Occurs Domain.consumes domains event →
            Events.Occurs Domain.publishes domains event) ∧
      ∀ (marks' : Scope → Marks) (domains' : Table Domain) (t t' : Store),
        domains'.entries.Perm domains.entries →
        checkAll marks' (some f) (some id) domains' t = (.ok (), t') →
        (t'.gate f.id id).canImplement = (s'.gate f.id id).canImplement) ∧
    ∀ (marks : Scope → Marks) (s s' : Store) (e : CheckFault),
      checkAll marks (some f) (some id) domains s = (.error e, s') →
      ¬ (d.flows.map (·.id)).Nodup ∧
      s'.gate f.id id = ⟨some (r.made (marks .flow)), s.domains.get? id, s.system⟩ ∧
      ((s'.gate f.id id).canImplement = true ↔ r.errorCount = 0 ∧
        (∀ v, s.domains.get? id = some v → v.errorCount = 0) ∧
          ∀ v, s.system = some v → v.errorCount = 0) := by
  refine ⟨fun marks s => ?_, fun marks s s' h => ?_,
    fun marks s s' e => canImplement_checkAll_of_error hf hid hd hdomain⟩
  · rw [checkAll_eq_ok_iff hf hid hd, Domain.check_eq_ok_iff, Value.isTooLong_eq_false_iff]
  · have hopen := canImplement_checkAll_iff hf hid hd hdomain h
    refine ⟨hopen, ?_⟩
    intro marks' domains' t t' hperm h'
    have hd' : domains'.get? id = some d := (Table.get?_of_perm hperm id).trans hd
    rw [Bool.eq_iff_iff, hopen, canImplement_checkAll_iff hf hid hd' hdomain h']
    simp only [Events.occurs_of_perm hperm]

/-- A check of everything on a fresh store opens the gate of a flow, though its domain lists the
flow twice. -/
theorem canImplement_unnamedShop : ∃ (d : Domain) (e : CheckFault) (s : Store),
    (unnamedShop "parcel").get? "shop" = some d ∧ ¬ (d.flows.map (·.id)).Nodup ∧
    checkAll (fun _ => .numbered "08:00") (some Flow.parcel) (some "shop") (unnamedShop "parcel")
      empty = (.error e, s) ∧
    (s.gate "parcel" "shop").canImplement = true := by
  have hd : ∃ d, (unnamedShop "parcel").get? "shop" = some d ∧ ¬ d.name.HasText ∧
      ¬ (d.flows.map (·.id)).Nodup := ⟨_, rfl, Value.not_hasText_pow, by decide⟩
  obtain ⟨d, hd, hname, hids⟩ := hd
  obtain ⟨hdone, -, hstopped⟩ := canImplement_checkAll (f := Flow.parcel) rfl (by decide) hd rfl
  cases h : checkAll (fun _ => .numbered "08:00") (some Flow.parcel) (some "shop")
      (unnamedShop "parcel") empty with
  | mk r s =>
    cases r with
    | ok done =>
      have hcarried := (hdone (fun _ => .numbered "08:00") empty).1 (congrArg Prod.fst h)
      exact absurd hcarried (not_or.2 ⟨hname, hids⟩)
    | error e =>
      obtain ⟨hrepeated, -, hopen⟩ := hstopped _ _ _ _ h
      exact ⟨d, e, s, hd, hrepeated, rfl, hopen.2 ⟨by decide, nofun, nofun⟩⟩

end FlowGate.Store
