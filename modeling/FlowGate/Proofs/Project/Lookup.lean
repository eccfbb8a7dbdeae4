import FlowGate.Proofs.Project.Loading
import FlowGate.Proofs.Project.Summary
import FlowGate.Proofs.Store.Key

/-!
# What a lookup in a registry finds

A flow is stored under the identifier of its domain and the one that the domain lists. Loading gives
it the domain, but not the identifier: that stays the one in its file. `Registry.flow_of_lookup`
says when the flow that is found is the one that was asked for, and `Registry.entries_of_load`
carries any property of what is stored through a run of the loader.
-/

namespace FlowGate

/-- Whether a project lists a flow under a domain and an identifier, and its file holds it. -/
structure ProjectSource.Registers (src : ProjectSource) (d x : String) (f : Flow) : Prop where
  domain : d ∈ src.domainIds
  listed : ∃ entry ∈ src.listed d, entry.id = x
  stores : src.Stores d x f

theorem Store.flowKey_right_inj {d x y : String} : flowKey d x = flowKey d y ↔ x = y := by
  rw [← String.toList_inj, toList_flowKey, toList_flowKey, List.append_cancel_left_eq,
    List.cons_inj_right, String.toList_inj]

namespace Registry

variable {src : ProjectSource} {d : String} {r r' : Registry} {Q : String → Flow → Prop}

theorem entries_of_addFlow {entry : FlowEntry} (h : (addFlow src d r entry).result = .ok r')
    (hr : ∀ e ∈ r.flows.entries, Q e.1 e.2)
    (hnew : ∀ f, src.Stores d entry.id f → Q (key d entry.id) f) :
    ∀ e ∈ r'.flows.entries, Q e.1 e.2 := by
  obtain ⟨rfl, -⟩ | ⟨hnot, f, hf, rfl⟩ := addFlow_cases h
  · exact hr
  · have hk : key d entry.id ∉ r.flows.keys := fun hk => hnot (.inl hk)
    have hentries : (r.withFlow d (key d entry.id) f).flows.entries =
        r.flows.entries ++ [(key d entry.id, f)] := Table.entries_put f hk
    rw [hentries, List.forall_mem_append, List.forall_mem_singleton]
    exact ⟨hr, hnew f hf⟩

theorem entries_of_addDomain {name description : Value}
    (h : (addDomain src r d name description).result = .ok r')
    (hr : ∀ e ∈ r.flows.entries, Q e.1 e.2)
    (hnew : ∀ entry ∈ src.listed d, ∀ f, src.Stores d entry.id f → Q (key d entry.id) f) :
    ∀ e ∈ r'.flows.entries, Q e.1 e.2 := by
  obtain ⟨doc, -, hrun⟩ := addDomain_cases h
  refine Logged.foldlM_induction (P := fun _ r => ∀ e ∈ r.flows.entries, Q e.1 e.2) hrun hr ?_
  intro before entry r₁ r₂ hentry h₁ hadd
  exact entries_of_addFlow hadd h₁ (hnew entry hentry)

/-- What holds of every flow that a project registers holds of what is stored. -/
theorem entries_of_load (h : (load src).result = .ok r)
    (hnew : ∀ d x f, src.Registers d x f → Q (key d x) f) :
    ∀ e ∈ r.flows.entries, Q e.1 e.2 := by
  obtain ⟨entries, hentries, hrun⟩ := exists_entries_of_load h
  have hids : src.domainIds = Manifest.domainIds entries := by
    rw [ProjectSource.domainIds, hentries]
    rfl
  refine Logged.foldlM_induction (P := fun _ r => ∀ e ∈ r.flows.entries, Q e.1 e.2) hrun
    (List.forall_mem_nil _) ?_
  intro before v r₁ r₂ hv h₁ hadd
  obtain ⟨-, rfl⟩ | ⟨name, description, hnamed, hadd⟩ := addEntry_cases hadd
  · exact h₁
  · have hd : Domain.idOfName name ∈ src.domainIds := by
      rw [hids]
      exact List.mem_filterMap.2 ⟨v, hv, by rw [hnamed]⟩
    exact entries_of_addDomain hadd h₁ fun entry hentry f hf =>
      hnew _ _ f ⟨hd, ⟨entry, hentry, rfl⟩, hf⟩

/-- Every flow is stored under the key of a domain and an identifier that register it. -/
theorem registers_of_get? (h : (load src).result = .ok r) {k : String} {f : Flow}
    (hf : r.flows.get? k = some f) : ∃ d x, k = key d x ∧ src.Registers d x f :=
  entries_of_load (Q := fun k f => ∃ d x, k = key d x ∧ src.Registers d x f) h
    (fun d x _ hf => ⟨d, x, rfl, hf⟩) (k, f) ((Table.get?_eq_some_iff _ _ _).1 hf)

/-- What a lookup in a loaded registry finds was registered under the name that was asked for, or
under one that a slash makes the same key. It is the flow with that name exactly if it is of that
domain and its file gives the identifier under which it is listed. Such are the flows that are
stored under their own keys, and named by them in their results. -/
theorem flow_of_lookup (src : ProjectSource) (r : Registry) (h : (load src).result = .ok r) :
    (∀ d x f, r.flow? d x = some f → ∃ d' x', src.Registers d' x' f ∧
      (d' = d ∧ x' = x ∨ Store.Shifted d' x' d x ∨ Store.Shifted d x d' x') ∧
      (f.domain = .str d ∧ f.id = x ↔ d' = d ∧ f.id = x')) ∧
    ∀ k f, r.flows.get? k = some f → ∃ d' x', src.Registers d' x' f ∧ k = key d' x' ∧
      (f.key = k ↔ f.id = x') ∧
      ∀ res, f.check = .ok res → (res.target = k ↔ f.id = x') := by
  constructor
  · intro d x f hf
    obtain ⟨d', x', hkey, hreg⟩ := registers_of_get? h hf
    have hshared : Store.flowKey d' x' = Store.flowKey d x := hkey.symm
    have hx : d' = d → x' = x := by
      rintro rfl
      exact Store.flowKey_right_inj.1 hshared
    refine ⟨d', x', hreg, Store.flowKey_eq_flowKey_iff.1 hshared, ?_⟩
    rw [hreg.stores.domain_eq, Value.scalar.injEq, Scalar.str.injEq]
    exact and_congr_right fun hd => by rw [hx hd]
  · intro k f hf
    obtain ⟨d', x', rfl, hreg⟩ := registers_of_get? h hf
    have hkey : f.key = key d' x' ↔ f.id = x' := by
      rw [Store.key_eq_flowKey hreg.stores.domain_eq]
      exact Store.flowKey_right_inj
    refine ⟨d', x', hreg, rfl, hkey, fun res hres => ?_⟩
    rw [Flow.target_of_check hres, hkey]

/-- A lookup finds a flow of another identifier, which is not stored under its own key. -/
theorem mistaken_twinned : ∃ r f, (load Report.twinned).result = .ok r ∧
    r.flow? "billing" "refund" = some f ∧ f.domain = .str "billing" ∧ f.id = "pay" ∧
      f.key ≠ key "billing" "refund" := by
  have hfound : (load Report.twinned).result.toOption.bind (fun r =>
      (r.flow? "billing" "refund").map fun f => (f.domain, f.id)) =
        some (.str "billing", "pay") := by decide +kernel
  obtain ⟨r, hr, hfound⟩ := Option.bind_eq_some_iff.1 hfound
  obtain ⟨f, hf, hname⟩ := Option.map_eq_some_iff.1 hfound
  obtain ⟨hdomain, hid⟩ := Prod.mk.inj hname
  have hload := toOption_eq_some.1 hr
  obtain ⟨d, x, hreg, hkey, hown, -⟩ := (flow_of_lookup Report.twinned r hload).2 _ f hf
  refine ⟨r, f, hload, hf, hdomain, hid, ?_⟩
  -- the flow is registered under the name that was asked for
  obtain rfl : "billing" = d := by simpa [hdomain] using hreg.stores.domain_eq
  obtain rfl : "refund" = x := Store.flowKey_right_inj.1 hkey
  rw [Ne, hown, hid]
  decide

end Registry

end FlowGate
