import FlowGate.Proofs.Flow.Verdict
import FlowGate.Proofs.Store.History

/-!
# Which flows share a key

The key of a flow joins the identifiers of its domain and of itself by a slash. Identifiers may hold
slashes themselves, so that the key does not tell where the domain ends: `flowKey_eq_flowKey_iff`
says which names of flows have one key. A check of one flow changes what the gate of another sees
exactly if they do (`isolated_iff`).
-/

namespace FlowGate.Store

/-- The second name of a flow is the first one with a part, up to a slash, moved from the flow to
its domain. -/
def Shifted (domainId flowId domainId' flowId' : String) : Prop :=
  ∃ part, domainId' = domainId ++ "/" ++ part ∧ flowId = part ++ "/" ++ flowId'

/-- Two ways to cut one text at a slash: the same, or one of them at an earlier slash. -/
private theorem cut_at_slash {as bs cs ds : List Char} (h : as ++ '/' :: bs = cs ++ '/' :: ds) :
    (as = cs ∧ bs = ds) ∨ (∃ part, cs = as ++ '/' :: part ∧ bs = part ++ '/' :: ds) ∨
      ∃ part, as = cs ++ '/' :: part ∧ ds = part ++ '/' :: bs := by
  obtain ⟨middle, hcs, hbs⟩ | ⟨middle, has, hds⟩ := List.append_eq_append_iff.1 h
  · cases middle with
    | nil => exact .inl ⟨by simpa using hcs.symm, (List.cons.inj hbs).2⟩
    | cons c part =>
      obtain ⟨rfl, rfl⟩ := List.cons.inj hbs
      exact .inr (.inl ⟨part, hcs, rfl⟩)
  · cases middle with
    | nil => exact .inl ⟨by simpa using has, (List.cons.inj hds).2.symm⟩
    | cons c part =>
      obtain ⟨rfl, rfl⟩ := List.cons.inj hds
      exact .inr (.inr ⟨part, has, rfl⟩)

theorem toList_flowKey (domainId flowId : String) :
    (flowKey domainId flowId).toList = domainId.toList ++ '/' :: flowId.toList := by
  simp [flowKey]

theorem flowKey_eq_of_shifted {domainId flowId domainId' flowId' : String}
    (h : Shifted domainId flowId domainId' flowId') :
    flowKey domainId flowId = flowKey domainId' flowId' := by
  obtain ⟨part, rfl, rfl⟩ := h
  simp [flowKey, String.append_assoc]

theorem shifted_of_toList {domainId flowId domainId' flowId' : String} {part : List Char}
    (hdomain : domainId'.toList = domainId.toList ++ '/' :: part)
    (hflow : flowId.toList = part ++ '/' :: flowId'.toList) :
    Shifted domainId flowId domainId' flowId' := by
  refine ⟨String.ofList part, String.toList_inj.1 ?_, String.toList_inj.1 ?_⟩
  · simp [hdomain]
  · simp [hflow]

/-- Flows share a key if they have one name, or if one name is the other with a part moved. -/
theorem flowKey_eq_flowKey_iff {domainId flowId domainId' flowId' : String} :
    flowKey domainId flowId = flowKey domainId' flowId' ↔
      (domainId = domainId' ∧ flowId = flowId') ∨ Shifted domainId flowId domainId' flowId' ∨
        Shifted domainId' flowId' domainId flowId := by
  constructor
  · intro h
    rw [← String.toList_inj, toList_flowKey, toList_flowKey] at h
    obtain ⟨hdomain, hflow⟩ | ⟨part, hdomain, hflow⟩ | ⟨part, hdomain, hflow⟩ := cut_at_slash h
    · exact .inl ⟨String.toList_inj.1 hdomain, String.toList_inj.1 hflow⟩
    · exact .inr (.inl (shifted_of_toList hdomain hflow))
    · exact .inr (.inr (shifted_of_toList hdomain hflow))
  · rintro (⟨rfl, rfl⟩ | h | h)
    · rfl
    · exact flowKey_eq_of_shifted h
    · exact (flowKey_eq_of_shifted h).symm

/-! ## Flows with keys of their own -/

variable {marks : Marks} {f : Flow} {s : Store} {id domainId flowId key : String}

theorem key_eq_flowKey (h : f.domain = .str id) : f.key = flowKey id f.id := by
  rw [Flow.key, h]
  rfl

theorem get?_checkFlow_of_ne (h : key ≠ f.key) :
    (checkFlow marks f s).2.flows.get? key = s.flows.get? key := by
  have hnone : (Operation.checkFlow marks f).flowResult? key = none := if_neg (Ne.symm h)
  rw [finds_checkFlow.flows, hnone, Option.none_or]

theorem gate_checkFlow_of_ne (h : flowKey domainId flowId ≠ f.key) :
    (checkFlow marks f s).2.gate flowId domainId = s.gate flowId domainId := by
  have hfinds : Finds (.checkFlow marks f) s (checkFlow marks f s).2 := finds_checkFlow
  rw [gate, get?_checkFlow_of_ne h, hfinds.domains, hfinds.system]
  rfl

/-- A check of a flow changes nothing for a flow of another name, on any store, exactly if it cannot
be carried out or neither name is the other with a part moved. -/
theorem isolated_iff (marks : Marks) (hdomain : f.domain = .str id)
    (hne : (domainId, flowId) ≠ (id, f.id)) :
    (∀ s : Store, (checkFlow marks f s).2.gate flowId domainId = s.gate flowId domainId ∧
      (checkFlow marks f s).2.flows.get? (flowKey domainId flowId) =
        s.flows.get? (flowKey domainId flowId)) ↔
    (∃ e, f.check = .error e) ∨
      (¬ Shifted domainId flowId id f.id ∧ ¬ Shifted id f.id domainId flowId) := by
  have hkey : flowKey domainId flowId = f.key ↔
      Shifted domainId flowId id f.id ∨ Shifted id f.id domainId flowId := by
    rw [key_eq_flowKey hdomain, flowKey_eq_flowKey_iff]
    exact or_iff_right fun ⟨hd, hf⟩ => hne (Prod.ext hd hf)
  rw [← not_or, ← hkey]
  constructor
  · intro h
    cases hf : f.check with
    | error e => exact .inl ⟨e, rfl⟩
    | ok r =>
      right
      intro hshared
      -- on a fresh store the result of the flow turns up under the shared key
      have hnew := (h empty).2
      rw [checkFlow_ok hf, hshared, Table.get?_put, if_pos rfl] at hnew
      cases hnew
  · rintro (⟨e, he⟩ | hother) s
    · rw [checkFlow_error he]
      exact ⟨rfl, rfl⟩
    · exact ⟨gate_checkFlow_of_ne hother, get?_checkFlow_of_ne hother⟩

/-- A flow of a domain that has a slash in its identifier. -/
def inner : Flow := { Flow.parcel with id := "parcel", domain := .str "shop/eu" }

/-- A flow without nodes that has the slash in its own identifier. -/
def outer : Flow := { Flow.parcel with id := "eu/parcel", nodes := [] }

/-- A check of one flow opens the gate of another one that has errors. -/
theorem not_isolated_inner : ∃ (marks : Marks) (s : Store),
    (s.gate "eu/parcel" "shop").canImplement = false ∧
    ((checkFlow marks inner s).2.gate "eu/parcel" "shop").canImplement = true ∧
    ¬ ∀ s : Store, (checkFlow marks inner s).2.gate "eu/parcel" "shop" = s.gate "eu/parcel" "shop" ∧
      (checkFlow marks inner s).2.flows.get? (flowKey "shop" "eu/parcel") =
        s.flows.get? (flowKey "shop" "eu/parcel") := by
  have hcheck : ¬ ∃ e, inner.check = .error e := fun ⟨e, he⟩ => nomatch he
  let marks := Marks.numbered "08:00"
  refine ⟨marks, run [.checkFlow marks outer], by decide, by decide,
    (isolated_iff marks rfl (by decide)).not.2 ?_⟩
  rintro (he | ⟨hshifted, -⟩)
  · exact hcheck he
  · exact hshifted ⟨"eu", rfl, rfl⟩

end FlowGate.Store
