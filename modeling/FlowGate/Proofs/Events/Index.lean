import FlowGate.Check.Events
import FlowGate.Proofs.Finding
import Mathlib.Data.List.Basic

/-!
# Events that are published and consumed

The index of owners has an entry for exactly the events that occur in some domain
(`Events.mem_keys_owners`), whatever the order of the domains. So the check of the system finds no
error exactly if every event that is consumed is published (`Events.errorCount_check`).
-/

namespace FlowGate.Events

variable {wirings : Domain → List Wiring} {domains : Table Domain} {event : String}

/-- Whether an event is among the wirings of some domain. -/
def Occurs (wirings : Domain → List Wiring) (domains : Table Domain) (event : String) : Prop :=
  ∃ d ∈ domains.values, ∃ w ∈ wirings d, w.event = event

/-! ## The index of owners -/

theorem mem_keys_add {index : EventIndex} {domainId added : String} :
    event ∈ (index.add domainId added).keys ↔ event ∈ index.keys ∨ added = event := by
  rw [EventIndex.add, Table.keys_put]
  split
  · next hadded =>
    constructor
    · exact .inl
    · rintro (hmem | rfl)
      · exact hmem
      · exact hadded
  · rw [List.mem_append, List.mem_singleton, eq_comm]

theorem mem_keys_addAll {index : EventIndex} {domainId : String} {ws : List Wiring} :
    event ∈ (ws.foldl (fun index w => index.add domainId w.event) index).keys ↔
      event ∈ index.keys ∨ ∃ w ∈ ws, w.event = event := by
  induction ws generalizing index with
  | nil => simp
  | cons w ws ih => rw [List.foldl_cons, ih, mem_keys_add, or_assoc, List.exists_mem_cons_iff]

theorem mem_keys_owners : event ∈ (owners wirings domains).keys ↔ Occurs wirings domains event := by
  -- the domains that are still to come add to whatever index the earlier ones have made
  have hfold : ∀ (es : List (String × Domain)) (index : EventIndex),
      event ∈ (es.foldl (fun index e =>
        (wirings e.2).foldl (fun index w => index.add e.1 w.event) index) index).keys ↔
      event ∈ index.keys ∨ ∃ d ∈ es.map Prod.snd, ∃ w ∈ wirings d, w.event = event := by
    intro es
    induction es with
    | nil => simp
    | cons e es ih =>
      intro index
      rw [List.foldl_cons, ih, mem_keys_addAll, or_assoc, List.map_cons, List.exists_mem_cons_iff]
  refine (hfold domains.entries Table.empty).trans ?_
  rw [Table.keys_empty]
  exact or_iff_right List.not_mem_nil

theorem occurs_of_perm {domains' : Table Domain} (h : domains.entries.Perm domains'.entries) :
    Occurs wirings domains event ↔ Occurs wirings domains' event := by
  unfold Occurs Table.values
  simp only [(h.map Prod.snd).mem_iff]

/-! ## The check of the system -/

theorem faultless_checkConsumed (consumed published : EventIndex) :
    Faultless (checkConsumed consumed published) ↔
      ∀ event ∈ consumed.keys, event ∈ published.keys := by
  unfold checkConsumed
  rw [faultless_map_of_error fun _ => rfl, List.filter_eq_nil_iff, Table.keys, List.forall_mem_map]
  simp [Table.contains_iff]

theorem faultless_checkPublished (published consumed : EventIndex) :
    Faultless (checkPublished published consumed) := faultless_map_of_warning fun _ => rfl

theorem faultless_checkNaming (events : List String) : Faultless (checkNaming events) := by
  unfold checkNaming
  dsimp only
  split <;> simp [wiringIssue]

/-- The check finds no error exactly if every event that is consumed is published. -/
theorem errorCount_check (domains : Table Domain) : (check domains).errorCount = 0 ↔
    ∀ event, Occurs Domain.consumes domains event → Occurs Domain.publishes domains event := by
  rw [Result.errorCount_eq_zero_iff, check]
  simp only [faultless_append, faultless_checkConsumed, faultless_checkPublished,
    faultless_checkNaming, and_true, mem_keys_owners]

end FlowGate.Events
