import FlowGate.Project.Registry
import FlowGate.Proofs.Outcome

/-!
# What a loaded registry holds

`ProjectSource.domainIds` are the identifiers that the manifest names, with repetitions. While the
entries are loaded, `Registry.Loaded` holds of the identifiers that were taken so far: every flow
belongs to one of them, the keys of a domain are those of its flows as long as it was named once,
and all that its document lists is loaded or has no file. A domain that is named again loses its
keys, and since all its flows are settled it gets none of them back.
-/

namespace FlowGate

namespace Manifest

def domainIds (entries : List Value) : List String :=
  entries.filterMap fun entry =>
    match named? entry with
    | some (.str name, _) => some (Domain.idOfName name)
    | _ => none

end Manifest

@[simp] theorem Flow.result_readLogged (v : Value) : (Flow.readLogged v).result = Flow.read v := by
  unfold readLogged
  dsimp only
  cases unknownKind? v <;> rfl

namespace ProjectSource

/-- The identifiers of the domains that the manifest names, with repetitions. -/
def domainIds (src : ProjectSource) : List String :=
  Manifest.domainIds (src.loadManifest.toOption.getD [])

def listed (src : ProjectSource) (d : String) : List FlowEntry :=
  match src.files (src.domainPath d) with
  | .file bytes =>
    match readDocumentAs src.yaml Domain.read bytes with
    | .ok doc => doc.flows
    | .error _ => []
  | _ => []

variable {src : ProjectSource} {d x : String}

/-- Whether a domain has no document that can be read. -/
def LacksDocument (src : ProjectSource) (d : String) : Prop :=
  src.files (src.domainPath d) = .missing ∨ ∃ bytes fault,
    src.files (src.domainPath d) = .file bytes ∧
      readDocumentAs src.yaml Domain.read bytes = .error fault

theorem loadDomain_cases {name description : Value} {doc : Domain}
    (h : (src.loadDomain d name description).result = .ok doc) :
    (∃ bytes, src.files (src.domainPath d) = .file bytes ∧
        readDocumentAs src.yaml Domain.read bytes = .ok doc) ∨
      src.LacksDocument d ∧ doc = Domain.empty name description := by
  unfold loadDomain at h
  cases hfile : src.files (src.domainPath d) with
  | missing =>
    simp only [hfile, Logged.result_bind_eq_ok, Logged.result_pure] at h
    obtain ⟨-, -, h⟩ := h
    cases h
    exact .inr ⟨.inl hfile, rfl⟩
  | folder => simp only [hfile, Logged.result_fail] at h; cases h
  | nameTooLong => simp only [hfile, Logged.result_fail] at h; cases h
  | file bytes =>
    simp only [hfile] at h
    cases hread : readDocumentAs src.yaml Domain.read bytes with
    | ok doc' =>
      simp only [hread, Logged.result_pure] at h
      cases h
      exact .inl ⟨bytes, rfl, hread⟩
    | error fault =>
      simp only [hread] at h
      split at h
      · cases h
      · cases h
        exact .inr ⟨.inr ⟨bytes, fault, hfile, hread⟩, rfl⟩

/-- The name and the description that stand in for a missing document add no flows. -/
theorem flows_of_loadDomain {name description : Value} {doc : Domain}
    (h : (src.loadDomain d name description).result = .ok doc) : doc.flows = src.listed d := by
  unfold listed
  obtain ⟨bytes, hfile, hread⟩ | ⟨hmissing | ⟨bytes, fault, hfile, hread⟩, rfl⟩ :=
    loadDomain_cases h
  · simp only [hfile, hread]
  · simp only [hmissing]
    rfl
  · simp only [hfile, hread]
    rfl

/-- Whether a flow is what the file of a flow of a domain holds, put under that domain. -/
def Stores (src : ProjectSource) (d x : String) (f : Flow) : Prop :=
  ∃ bytes v g, src.files (src.flowPath d x) = .file bytes ∧ readDocument src.yaml bytes = .ok v ∧
    Flow.read v = .ok g ∧ f = { g with domain := .str d }

theorem Stores.domain_eq {f : Flow} (h : src.Stores d x f) : f.domain = .str d := by
  obtain ⟨-, -, g, -, -, -, rfl⟩ := h
  rfl

theorem Stores.not_missing {f : Flow} (h : src.Stores d x f) :
    src.files (src.flowPath d x) ≠ .missing := by
  obtain ⟨bytes, -, -, hfile, -⟩ := h
  rw [hfile]
  nofun

theorem loadFlow_cases {loaded : Option Flow} (h : (src.loadFlow d x).result = .ok loaded) :
    (loaded = none ∧ src.files (src.flowPath d x) = .missing) ∨
      ∃ f, loaded = some f ∧ src.Stores d x f := by
  unfold loadFlow at h
  cases hfile : src.files (src.flowPath d x) with
  | missing =>
    simp only [hfile, Logged.result_bind_eq_ok, Logged.result_pure] at h
    obtain ⟨-, -, h⟩ := h
    cases h
    exact .inl ⟨rfl, rfl⟩
  | folder => simp only [hfile, Logged.result_fail] at h; cases h
  | nameTooLong => simp only [hfile, Logged.result_fail] at h; cases h
  | file bytes =>
    simp only [hfile, Logged.result_bind_eq_ok, Logged.result_lift, Logged.result_mapError,
      Flow.result_readLogged, mapError_eq_ok, Logged.result_pure] at h
    obtain ⟨v, hv, g, hg, h⟩ := h
    cases h
    exact .inr ⟨_, rfl, bytes, v, g, hfile, hv, hg, rfl⟩

end ProjectSource

namespace Registry

variable {src : ProjectSource} {d : String} {entry : FlowEntry} {r r' : Registry}
  {ids : List String}

/-- Whether loading a listed flow changes nothing: its key is taken, or it has no file. -/
def Settled (src : ProjectSource) (r : Registry) (d : String) (entry : FlowEntry) : Prop :=
  key d entry.id ∈ r.flows.keys ∨ src.files (src.flowPath d entry.id) = .missing

/-- The keys of the flows that belong to a domain, in order. -/
def ownKeys (r : Registry) (d : String) : List String :=
  (r.flows.entries.filter (·.2.domain = .str d)).map Prod.fst

/-- The registry with a loaded flow under a key. -/
def withFlow (r : Registry) (d k : String) (f : Flow) : Registry where
  domains := r.domains
  flows := r.flows.put k f
  flowKeys := r.flowKeys.put d (r.keysOf d ++ [k])

/-- The registry with a document of a domain and without keys for it. -/
def withDomain (r : Registry) (d : String) (doc : Domain) : Registry where
  domains := r.domains.put d doc
  flows := r.flows
  flowKeys := r.flowKeys.put d []

theorem keysOf_withFlow (r : Registry) (d k e : String) (f : Flow) :
    (r.withFlow d k f).keysOf e = if e = d then r.keysOf d ++ [k] else r.keysOf e := by
  unfold keysOf withFlow
  rw [Table.get?_put]
  split <;> rfl

theorem keysOf_withDomain (r : Registry) (d e : String) (doc : Domain) :
    (r.withDomain d doc).keysOf e = if e = d then [] else r.keysOf e := by
  unfold keysOf withDomain
  rw [Table.get?_put]
  split <;> rfl

theorem ownKeys_withFlow {k : String} {f : Flow} (hk : k ∉ r.flows.keys) (hf : f.domain = .str d)
    (e : String) :
    (r.withFlow d k f).ownKeys e = if e = d then r.ownKeys d ++ [k] else r.ownKeys e := by
  unfold ownKeys withFlow
  rw [Table.entries_put f hk, List.filter_append, List.map_append]
  by_cases he : e = d
  · subst he
    simp [hf]
  · have hne : ¬ d = e := fun h => he h.symm
    simp [hf, hne, he]

/-! ## One step -/

theorem addFlow_cases (h : (addFlow src d r entry).result = .ok r') :
    (r' = r ∧ r.Settled src d entry) ∨
      ¬ r.Settled src d entry ∧
        ∃ f, src.Stores d entry.id f ∧ r' = r.withFlow d (key d entry.id) f := by
  unfold addFlow at h
  dsimp only at h
  split at h
  · next hk =>
    cases h
    exact .inl ⟨rfl, .inl ((Table.contains_iff _ _).1 hk)⟩
  · next hk =>
    rw [Table.contains_iff] at hk
    rw [Logged.result_bind_eq_ok] at h
    obtain ⟨loaded, hload, h⟩ := h
    obtain ⟨rfl, hfile⟩ | ⟨f, rfl, hf⟩ := ProjectSource.loadFlow_cases hload
    · cases h
      exact .inl ⟨rfl, .inr hfile⟩
    · cases h
      exact .inr ⟨not_or.2 ⟨hk, hf.not_missing⟩, f, hf, rfl⟩

theorem addDomain_cases {name description : Value}
    (h : (addDomain src r d name description).result = .ok r') :
    ∃ doc, (src.loadDomain d name description).result = .ok doc ∧
      ((src.listed d).foldlM (addFlow src d) (r.withDomain d doc)).result = .ok r' := by
  unfold addDomain at h
  rw [Logged.result_bind_eq_ok] at h
  obtain ⟨doc, hdoc, h⟩ := h
  rw [ProjectSource.flows_of_loadDomain hdoc] at h
  exact ⟨doc, hdoc, h⟩

theorem addEntry_cases {v : Value} (h : (addEntry src r v).result = .ok r') :
    (Manifest.named? v = none ∧ r' = r) ∨
      ∃ name description, Manifest.named? v = some (.str name, description) ∧
        (addDomain src r (Domain.idOfName name) (.str name) description).result = .ok r' := by
  unfold addEntry at h
  split at h
  · next hv =>
    cases h
    exact .inl ⟨hv, rfl⟩
  · next name description hv => exact .inr ⟨name, description, hv, h⟩
  · cases h

/-! ## The invariant -/

/-- How the tables of a registry agree after domains with some identifiers were put. -/
structure Consistent (ids : List String) (r : Registry) : Prop where
  mem_domains : ∀ d, d ∈ r.domains.keys ↔ d ∈ ids
  owner : ∀ e ∈ r.flows.entries, ∃ d ∈ ids, e.2.domain = .str d
  keysOf : ∀ d, r.keysOf d = if ids.count d = 1 then r.ownKeys d else []

/-- What holds of a registry after domains with some identifiers were loaded. -/
structure Loaded (src : ProjectSource) (ids : List String) (r : Registry) : Prop
    extends Consistent ids r where
  settled : ∀ d ∈ ids, ∀ entry ∈ src.listed d, r.Settled src d entry

theorem Settled.mono (h : r.Settled src d entry) (hkeys : r.flows.keys ⊆ r'.flows.keys) :
    r'.Settled src d entry := h.imp_left fun hk => hkeys hk

theorem keys_subset_withFlow (r : Registry) (d k : String) (f : Flow) :
    r.flows.keys ⊆ (r.withFlow d k f).flows.keys := by
  intro l hl
  show l ∈ (r.flows.put k f).keys
  rw [Table.keys_put]
  split
  · exact hl
  · exact List.mem_append_left _ hl

theorem settled_withFlow (r : Registry) (d : String) (entry : FlowEntry) (f : Flow) :
    (r.withFlow d (key d entry.id) f).Settled src d entry := by
  refine .inl ?_
  show _ ∈ (r.flows.put _ f).keys
  rw [Table.keys_put]
  split
  · next hk => exact hk
  · exact List.mem_append_right _ List.mem_cons_self

theorem Consistent.withFlow (h : Consistent ids r) (hd : ids.count d = 1) {k : String} {f : Flow}
    (hk : k ∉ r.flows.keys) (hf : f.domain = .str d) : Consistent ids (r.withFlow d k f) where
  mem_domains := h.mem_domains
  owner := by
    intro e he
    rw [show (r.withFlow d k f).flows = r.flows.put k f from rfl, Table.entries_put f hk,
      List.mem_append, List.mem_singleton] at he
    obtain he | rfl := he
    · exact h.owner e he
    · exact ⟨d, List.count_pos_iff.1 (by omega), hf⟩
  keysOf := by
    intro e
    rw [keysOf_withFlow, ownKeys_withFlow hk hf]
    by_cases he : e = d
    · subst he
      rw [if_pos rfl, if_pos hd, if_pos rfl, h.keysOf, if_pos hd]
    · rw [if_neg he, if_neg he, h.keysOf]

theorem Consistent.ownKeys_eq_nil (h : Consistent ids r) (hd : d ∉ ids) : r.ownKeys d = [] := by
  unfold ownKeys
  rw [List.map_eq_nil_iff, List.filter_eq_nil_iff]
  intro e he hdomain
  obtain ⟨d', hd', howner⟩ := h.owner e he
  have : d' = d := by simpa [howner] using hdomain
  exact hd (this ▸ hd')

theorem Consistent.withDomain (h : Consistent ids r) (d : String) (doc : Domain) :
    Consistent (ids ++ [d]) (r.withDomain d doc) where
  mem_domains := by
    intro e
    rw [show (r.withDomain d doc).domains = r.domains.put d doc from rfl, Table.keys_put,
      List.mem_append, List.mem_singleton]
    split
    · next hd =>
      rw [h.mem_domains] at hd ⊢
      exact ⟨.inl, fun he => he.elim id fun he => he ▸ hd⟩
    · rw [List.mem_append, List.mem_singleton, h.mem_domains]
  owner := by
    intro e he
    obtain ⟨d', hd', howner⟩ := h.owner e he
    exact ⟨d', List.mem_append_left _ hd', howner⟩
  keysOf := by
    intro e
    rw [keysOf_withDomain, List.count_append]
    by_cases he : e = d
    · subst he
      rw [if_pos rfl, List.count_singleton_self]
      split
      · next hcount =>
        have hnew : e ∉ ids := List.count_eq_zero.1 (by omega)
        exact (h.ownKeys_eq_nil hnew).symm
      · rfl
    · have hne : (d == e) = false := beq_eq_false_iff_ne.2 fun h => he h.symm
      rw [if_neg he, List.count_singleton, hne, h.keysOf]
      rfl

/-! ## Runs -/

theorem Consistent.addFlows {entries : List FlowEntry} (h : Consistent ids r)
    (hd : ids.count d = 1) (hrun : (entries.foldlM (addFlow src d) r).result = .ok r') :
    Consistent ids r' ∧ r.flows.keys ⊆ r'.flows.keys ∧ ∀ e ∈ entries, r'.Settled src d e := by
  refine Logged.foldlM_induction (P := fun before r' => Consistent ids r' ∧
    r.flows.keys ⊆ r'.flows.keys ∧ ∀ e ∈ before, r'.Settled src d e) hrun
    ⟨h, List.Subset.refl _, by simp⟩ ?_
  rintro before e r₁ r₂ - ⟨h₁, hsub, hbefore⟩ hadd
  obtain ⟨rfl, he⟩ | ⟨he, f, hf, rfl⟩ := addFlow_cases hadd
  · refine ⟨h₁, hsub, ?_⟩
    simpa [or_imp, forall_and] using ⟨hbefore, he⟩
  · have hk : key d e.id ∉ r₁.flows.keys := fun hk => he (.inl hk)
    have hmono := keys_subset_withFlow r₁ d (key d e.id) f
    refine ⟨h₁.withFlow hd hk hf.domain_eq, List.Subset.trans hsub hmono, ?_⟩
    intro e' he'
    rw [List.mem_append, List.mem_singleton] at he'
    obtain he' | rfl := he'
    · exact (hbefore e' he').mono hmono
    · exact settled_withFlow r₁ d e' f

theorem eq_of_addFlows {entries : List FlowEntry} (h : ∀ e ∈ entries, r.Settled src d e)
    (hrun : (entries.foldlM (addFlow src d) r).result = .ok r') : r' = r := by
  refine Logged.foldlM_induction (P := fun _ r' => r' = r) hrun rfl ?_
  rintro before e r₁ r₂ he rfl hadd
  obtain ⟨rfl, -⟩ | ⟨hnot, -⟩ := addFlow_cases hadd
  · rfl
  · exact absurd (h e he) hnot

theorem Loaded.addDomain (h : Loaded src ids r) {name description : Value}
    (hadd : (addDomain src r d name description).result = .ok r') :
    Loaded src (ids ++ [d]) r' := by
  obtain ⟨doc, -, hrun⟩ := addDomain_cases hadd
  have hput := h.toConsistent.withDomain d doc
  by_cases hd : d ∈ ids
  · -- The flows of a domain that is named again are settled already.
    have hsettled : ∀ e ∈ src.listed d, (r.withDomain d doc).Settled src d e := h.settled d hd
    obtain rfl := eq_of_addFlows hsettled hrun
    refine ⟨hput, fun e he => ?_⟩
    rw [List.mem_append, List.mem_singleton] at he
    obtain he | rfl := he
    · exact h.settled e he
    · exact h.settled e hd
  · have hcount : (ids ++ [d]).count d = 1 := by
      rw [List.count_append, List.count_eq_zero.2 hd, List.count_singleton_self]
    obtain ⟨hcons, hsub, hall⟩ := hput.addFlows hcount hrun
    refine ⟨hcons, fun e he entry hentry => ?_⟩
    rw [List.mem_append, List.mem_singleton] at he
    obtain he | rfl := he
    · exact (h.settled e he entry hentry).mono hsub
    · exact hall entry hentry

theorem loaded_empty (src : ProjectSource) : Loaded src [] empty where
  mem_domains := by simp [empty]
  owner := by simp [empty, Table.empty]
  keysOf := by simp [Registry.keysOf, empty]
  settled := by simp

theorem Loaded.addEntries {entries : List Value}
    (hrun : (entries.foldlM (addEntry src) empty).result = .ok r) :
    Loaded src (Manifest.domainIds entries) r := by
  refine Logged.foldlM_induction (P := fun before r => Loaded src (Manifest.domainIds before) r)
    hrun (loaded_empty src) ?_
  rintro before v r₁ r₂ - h₁ hadd
  unfold Manifest.domainIds at h₁ ⊢
  rw [List.filterMap_append]
  obtain ⟨hv, rfl⟩ | ⟨name, description, hv, hadd⟩ := addEntry_cases hadd
  · simpa [hv] using h₁
  · simpa [hv] using h₁.addDomain hadd

theorem exists_entries_of_load (h : (load src).result = .ok r) :
    ∃ entries, src.loadManifest = .ok entries ∧
      (entries.foldlM (addEntry src) empty).result = .ok r := by
  unfold load at h
  split at h
  · cases h
  · cases h
  · cases h
  · simp only [Logged.result_bind_eq_ok, Logged.result_lift, Logged.result_write,
      Logged.result_pure] at h
    obtain ⟨entries, hentries, r', hrun, -, -, h⟩ := h
    cases h
    exact ⟨entries, hentries, hrun⟩

/-- What holds of a loaded project. -/
theorem loaded_of_load (h : (load src).result = .ok r) : Loaded src src.domainIds r := by
  obtain ⟨entries, hentries, hrun⟩ := exists_entries_of_load h
  unfold ProjectSource.domainIds
  rw [hentries]
  exact Loaded.addEntries hrun

end Registry

end FlowGate
