import FlowGate.Proofs.Firsts
import FlowGate.Proofs.Project.Loading
import FlowGate.Yaml.Reader
import Mathlib.Data.Option.Basic

/-!
# The exact contents of a registry

What a registry holds is settled by the manifest, the documents of the domains and the files of the
flows. A domain that is named more than once has one document, for which the last naming counts if
there is none to be read. Of the flows that are listed under one key the first one with a file
counts. `Registry.contents_of_load` says so of a project that was loaded, with the order in which
domains and flows come; the invariants behind it, `DomainsOf` and `FlowsOf`, speak of the namings
and the listings that were taken so far.
-/

namespace FlowGate

open List (Forall₂)

/-- An entry of a manifest that names a domain. -/
structure Naming where
  id : String
  name : Value
  description : Value

/-- The domains that some entries of a manifest name. -/
def Manifest.namings (entries : List Value) : List Naming :=
  entries.filterMap fun entry =>
    match named? entry with
    | some (.str name, description) => some ⟨Domain.idOfName name, .str name, description⟩
    | _ => none

theorem Manifest.map_id_namings (entries : List Value) :
    (namings entries).map Naming.id = domainIds entries := by
  unfold namings domainIds
  rw [List.map_filterMap]
  refine List.filterMap_congr fun entry _ => ?_
  split <;> simp_all

namespace ProjectSource

def namings (src : ProjectSource) : List Naming :=
  Manifest.namings (src.loadManifest.toOption.getD [])

/-- The document of a domain that some entries name: what its file holds, or else an empty one with
the name and the description of the last entry. -/
inductive Documents (src : ProjectSource) (namings : List Naming) (d : String) : Domain → Prop
  | file {bytes : List UInt8} {doc : Domain} : src.files (src.domainPath d) = .file bytes →
      readDocumentAs src.yaml Domain.read bytes = .ok doc → Documents src namings d doc
  | empty {before after : List Naming} {name description : Value} : src.LacksDocument d →
      namings = before ++ ⟨d, name, description⟩ :: after → d ∉ after.map Naming.id →
      Documents src namings d (Domain.empty name description)

/-- The flows that some domains list, in order, each with its domain. -/
def listings (src : ProjectSource) (ids : List String) : List (String × String) :=
  ids.flatMap fun d => (src.listed d).map fun entry => (d, entry.id)

/-- The flows among some listed ones that have a file. -/
def present (src : ProjectSource) (listed : List (String × String)) : List (String × String) :=
  listed.filter fun p => src.files (src.flowPath p.1 p.2) ≠ .missing

/-- The first of some listed flows that has a file and belongs under a key. -/
def first? (src : ProjectSource) (listed : List (String × String)) (k : String) :
    Option (String × String) :=
  (src.present listed).find? fun p => Registry.key p.1 p.2 = k

/-- The keys of the listed flows that have a file, in order and each once. -/
def presentKeys (src : ProjectSource) (listed : List (String × String)) : List String :=
  firsts ((src.present listed).map fun p => Registry.key p.1 p.2)

variable {src : ProjectSource} {d : String}

theorem present_concat (listed : List (String × String)) (p : String × String) :
    src.present (listed ++ [p]) = if src.files (src.flowPath p.1 p.2) = .missing
      then src.present listed else src.present listed ++ [p] := by
  unfold present
  rw [List.filter_append, List.filter_singleton]
  split <;> simp_all

theorem documents_of_loadDomain {namings : List Naming} {name description : Value} {doc : Domain}
    (h : (src.loadDomain d name description).result = .ok doc) :
    src.Documents (namings ++ [⟨d, name, description⟩]) d doc := by
  obtain ⟨bytes, hfile, hread⟩ | ⟨hlacks, rfl⟩ := loadDomain_cases h
  · exact .file hfile hread
  · exact .empty hlacks rfl (by simp)

theorem Documents.concat {namings : List Naming} {doc : Domain} (h : src.Documents namings d doc)
    {n : Naming} (hn : n.id ≠ d) : src.Documents (namings ++ [n]) d doc := by
  cases h with
  | file hfile hread => exact .file hfile hread
  | @empty before after name description hlacks hnamings hafter =>
    have hconcat : namings ++ [n] = before ++ ⟨d, name, description⟩ :: (after ++ [n]) := by
      rw [hnamings, List.append_assoc, List.cons_append]
    have hlast : d ∉ (after ++ [n]).map Naming.id := by
      simpa [hn.symm] using hafter
    exact .empty hlacks hconcat hlast

end ProjectSource

namespace Registry

variable {src : ProjectSource} {d : String} {r r' : Registry} {namings : List Naming}
  {listed : List (String × String)}

/-! ## Flows -/

/-- Whether the flows of a registry are those of some listed ones: under each key the first with a
file, in the order of the keys. -/
structure FlowsOf (src : ProjectSource) (listed : List (String × String)) (r : Registry) :
    Prop where
  keys : r.flows.keys = src.presentKeys listed
  stored : ∀ k, Option.Rel (fun p f => src.Stores p.1 p.2 f) (src.first? listed k) (r.flows.get? k)

theorem FlowsOf.mem_keys_iff (h : FlowsOf src listed r) {k : String} :
    k ∈ r.flows.keys ↔ src.first? listed k ≠ none := by
  rw [← not_iff_not, not_not, ← Table.get?_eq_none_iff]
  have hstored := h.stored k
  generalize r.flows.get? k = f at hstored ⊢
  generalize src.first? listed k = p at hstored ⊢
  cases hstored <;> simp

theorem FlowsOf.concat (h : FlowsOf src listed r) {entry : FlowEntry}
    (hadd : (addFlow src d r entry).result = .ok r') :
    FlowsOf src (listed ++ [(d, entry.id)]) r' := by
  by_cases hfile : src.files (src.flowPath d entry.id) = .missing
  · have hpresent : src.present (listed ++ [(d, entry.id)]) = src.present listed := by
      rw [ProjectSource.present_concat, if_pos hfile]
    obtain ⟨rfl, -⟩ | ⟨hnot, -⟩ := addFlow_cases hadd
    · refine ⟨?_, fun k => ?_⟩
      · rw [ProjectSource.presentKeys, hpresent]
        exact h.keys
      · rw [ProjectSource.first?, hpresent]
        exact h.stored k
    · exact absurd (.inr hfile) hnot
  · have hpresent : src.present (listed ++ [(d, entry.id)]) =
        src.present listed ++ [(d, entry.id)] := by
      rw [ProjectSource.present_concat, if_neg hfile]
    have hkeys : src.presentKeys (listed ++ [(d, entry.id)]) =
        appendNew r.flows.keys (key d entry.id) := by
      rw [ProjectSource.presentKeys, hpresent, List.map_append, List.map_singleton, firsts_concat,
        h.keys]
      rfl
    have hfirst : ∀ k, src.first? (listed ++ [(d, entry.id)]) k =
        (src.first? listed k).or (if key d entry.id = k then some (d, entry.id) else none) := by
      intro k
      rw [ProjectSource.first?, hpresent, List.find?_append, List.find?_singleton]
      simp only [decide_eq_true_eq]
      rfl
    obtain ⟨rfl, hkey | hmissing⟩ | ⟨hnot, f, hf, rfl⟩ := addFlow_cases hadd
    · refine ⟨?_, fun k => ?_⟩
      · rw [hkeys, appendNew, if_pos hkey]
      · rw [hfirst]
        split
        · next hk =>
          obtain ⟨p, hp⟩ := Option.ne_none_iff_exists'.1 (h.mem_keys_iff.1 (hk ▸ hkey))
          rw [hp, Option.some_or, ← hp]
          exact h.stored k
        · rw [Option.or_none]
          exact h.stored k
    · exact absurd hmissing hfile
    · have hkey : key d entry.id ∉ r.flows.keys := fun hkey => hnot (.inl hkey)
      refine ⟨?_, fun k => ?_⟩
      · rw [hkeys, appendNew, if_neg hkey]
        exact (Table.keys_put _ _ _).trans (if_neg hkey)
      · rw [hfirst]
        show Option.Rel _ _ ((r.flows.put (key d entry.id) f).get? k)
        rw [Table.get?_put]
        by_cases hk : k = key d entry.id
        · rw [hk, not_not.1 (mt h.mem_keys_iff.2 hkey), if_pos rfl, if_pos rfl]
          exact .some hf
        · rw [if_neg hk, if_neg (Ne.symm hk), Option.or_none]
          exact h.stored k

theorem FlowsOf.addFlows {entries : List FlowEntry} (h : FlowsOf src listed r)
    (hrun : (entries.foldlM (addFlow src d) r).result = .ok r') :
    FlowsOf src (listed ++ entries.map fun entry => (d, entry.id)) r' := by
  refine Logged.foldlM_induction (P := fun before r' =>
    FlowsOf src (listed ++ before.map fun entry => (d, entry.id)) r') hrun ?_ ?_
  · rwa [List.map_nil, List.append_nil]
  · intro before entry r₁ r₂ _ h₁ hadd
    rw [List.map_append, ← List.append_assoc]
    exact h₁.concat hadd

theorem FlowsOf.forall₂_values (h : FlowsOf src listed r) :
    Forall₂ (fun k f => ∃ d x, src.first? listed k = some (d, x) ∧ src.Stores d x f)
      (src.presentKeys listed) r.flows.values := by
  rw [← h.keys]
  unfold Table.keys Table.values
  rw [List.forall₂_map_left_iff, List.forall₂_map_right_iff, List.forall₂_same]
  rintro ⟨k, f⟩ he
  have hstored := h.stored k
  rw [(Table.get?_eq_some_iff _ _ _).2 he] at hstored
  generalize hp : src.first? listed k = p at hstored
  cases hstored with
  | some hf => exact ⟨_, _, rfl, hf⟩

/-! ## Domains -/

/-- Whether the domains of a registry are those that some entries name, in order and each once, with
their documents. -/
structure DomainsOf (src : ProjectSource) (namings : List Naming) (r : Registry) : Prop where
  keys : r.domains.keys = firsts (namings.map Naming.id)
  documents : ∀ d doc, r.domains.get? d = some doc → src.Documents namings d doc

theorem domains_of_addFlows {entries : List FlowEntry}
    (hrun : (entries.foldlM (addFlow src d) r).result = .ok r') : r'.domains = r.domains := by
  refine Logged.foldlM_induction (P := fun _ r' => r'.domains = r.domains) hrun rfl ?_
  intro before entry r₁ r₂ _ h₁ hadd
  obtain ⟨rfl, -⟩ | ⟨-, f, -, rfl⟩ := addFlow_cases hadd
  · exact h₁
  · exact h₁

/-- One more naming of a domain. -/
theorem DomainsOf.withDomain (h : DomainsOf src namings r) {n : Naming} {doc : Domain}
    (hdoc : src.Documents (namings ++ [n]) n.id doc) :
    DomainsOf src (namings ++ [n]) (r.withDomain n.id doc) where
  keys := by
    rw [List.map_append, List.map_singleton, firsts_concat, ← h.keys]
    exact Table.keys_put _ _ _
  documents := by
    intro d doc' hget
    have hput : (r.domains.put n.id doc).get? d = some doc' := hget
    rw [Table.get?_put] at hput
    split at hput
    · next hd =>
      cases hput
      exact hd ▸ hdoc
    · next hd => exact (h.documents d doc' hput).concat (Ne.symm hd)

/-! ## Runs -/

/-- Whether a registry holds the domains that some entries name and the flows that these list. -/
structure Holds (src : ProjectSource) (namings : List Naming) (r : Registry) : Prop where
  domains : DomainsOf src namings r
  flows : FlowsOf src (src.listings (namings.map Naming.id)) r

theorem holds_empty (src : ProjectSource) : Holds src [] empty where
  domains := ⟨rfl, nofun⟩
  flows := ⟨rfl, fun _ => .none⟩

theorem Holds.addDomain (h : Holds src namings r) {n : Naming}
    (hadd : (addDomain src r n.id n.name n.description).result = .ok r') :
    Holds src (namings ++ [n]) r' := by
  obtain ⟨doc, hdoc, hrun⟩ := addDomain_cases hadd
  have hdomains := h.domains.withDomain (n := n) (ProjectSource.documents_of_loadDomain hdoc)
  have hflows : FlowsOf src (src.listings (namings.map Naming.id)) (r.withDomain n.id doc) :=
    ⟨h.flows.keys, h.flows.stored⟩
  refine ⟨?_, ?_⟩
  · have hsame := domains_of_addFlows hrun
    exact ⟨hsame ▸ hdomains.keys, hsame ▸ hdomains.documents⟩
  · have hall := hflows.addFlows hrun
    unfold ProjectSource.listings at hall ⊢
    rwa [List.map_append, List.flatMap_append, List.map_singleton, List.flatMap_singleton]

theorem Holds.addEntries {entries : List Value}
    (hrun : (entries.foldlM (addEntry src) empty).result = .ok r) :
    Holds src (Manifest.namings entries) r := by
  refine Logged.foldlM_induction (P := fun before r => Holds src (Manifest.namings before) r)
    hrun (holds_empty src) ?_
  rintro before v r₁ r₂ - h₁ hadd
  unfold Manifest.namings at h₁ ⊢
  rw [List.filterMap_append]
  obtain ⟨hv, rfl⟩ | ⟨name, description, hv, hadd⟩ := addEntry_cases hadd
  · simpa [hv] using h₁
  · have hnext := h₁.addDomain (n := ⟨Domain.idOfName name, .str name, description⟩) hadd
    simpa only [List.filterMap_cons, hv, List.filterMap_nil] using hnext

theorem holds_of_load (h : (load src).result = .ok r) : Holds src src.namings r := by
  obtain ⟨entries, hentries, hrun⟩ := exists_entries_of_load h
  unfold ProjectSource.namings
  rw [hentries]
  exact Holds.addEntries hrun

/-- A project in which two domains list a flow under one key, of which only the second has the file,
and in which a domain without a document is named twice. -/
def tangled : ProjectSource := .ofTexts Yaml.read [
  (["ddd-project.json"], "\x7b\"domains\": [\x7b\"name\": \"A\"\x7d, \x7b\"name\": \"Lost\"\x7d, "
    ++ "\x7b\"name\": \"A/B\"\x7d, \x7b\"name\": \"LOST\", \"description\": \"late\"\x7d]\x7d"),
  (["specs", "domains", "a", "domain.yaml"], "flows: [{id: b/c}, {id: x}]"),
  (["specs", "domains", "a", "b", "domain.yaml"], "flows: [{id: c}, {id: gone}]"),
  (["specs", "domains", "a", "flows", "x.yaml"], "flow: {id: x}"),
  (["specs", "domains", "a", "b", "flows", "c.yaml"], "flow: {id: c}")]

end Registry

end FlowGate
