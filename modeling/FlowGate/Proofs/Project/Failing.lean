import FlowGate.Proofs.Json.Acceptance
import FlowGate.Proofs.Project.Contents
import FlowGate.Proofs.Project.Obstacle
import FlowGate.Proofs.Text.Utf8

/-!
# When a project fails to load

In a project whose files can be opened and whose manifest names domains by texts
(`ProjectSource.Regular`) three things end the loading: there is no folder, there is no manifest in
UTF-8 and JSON, or the file of a listed flow holds none (`ProjectSource.HasBrokenFlow`). Which flows
are listed depends on the documents of the domains, and which files of flows are read depends on the
keys that were stored before; the documents themselves never end the loading.
-/

namespace FlowGate

/-- Whether nothing or a file stands at a path. -/
def FileEntry.IsPlain : FileEntry → Prop
  | .missing | .file _ => True
  | .folder | .nameTooLong => False

theorem FileEntry.IsPlain.missing_or_file {entry : FileEntry} (h : entry.IsPlain) :
    entry = .missing ∨ ∃ bytes, entry = .file bytes := by
  cases entry with
  | missing => exact .inl rfl
  | file bytes => exact .inr ⟨bytes, rfl⟩
  | folder => exact h.elim
  | nameTooLong => exact h.elim

/-! ## Manifests -/

namespace Manifest

theorem exists_read_iff {path : Path} {bytes : List UInt8} :
    (∃ v, read path bytes = .ok v) ↔
      ∃ s : String, bytes = s.toUTF8.data.toList ∧ Json.IsText .accepted s.toList := by
  have hread : (∃ v, read path bytes = .ok v) ↔ ∃ cs, Utf8.decode bytes = .ok cs ∧
      cs.head? ≠ some '\ufeff' ∧ ∃ v, Json.read cs = .ok v := by
    unfold read
    simp only [exists_bind_eq_ok, mapError_eq_ok]
    refine exists_congr fun cs => and_congr_right fun _ => ?_
    split
    · next hmark => exact iff_of_false (not_exists_ok _) fun h => h.1 hmark
    · next hmark => simp only [mapError_eq_ok, ne_eq, hmark, not_false_eq_true, true_and]
  rw [hread]
  constructor
  · rintro ⟨cs, hdecode, -, hjson⟩
    rw [← String.toList_ofList (l := cs)] at hdecode hjson
    exact ⟨_, Utf8.decode_eq_toList_iff.1 hdecode, Json.exists_read_iff.1 hjson⟩
  · rintro ⟨s, hbytes, htext⟩
    refine ⟨s.toList, Utf8.decode_eq_toList_iff.2 hbytes, ?_, Json.exists_read_iff.2 htext⟩
    -- A byte order mark is refused, but no JSON begins with one.
    intro hmark
    obtain ⟨cs, hs⟩ := List.head?_eq_some_iff.1 hmark
    rw [hs] at htext
    exact Json.not_isText_cons rfl rfl (by decide) (by decide) htext

/-- Whether the domains of a manifest are absent, null or a list in which every mapping has a name
that is absent, null or a text. -/
def IsRegular (v : Value) : Prop :=
  ∀ es, v = .map es → Entries.field es "domains" = .null ∨
    ∃ items, Entries.field es "domains" = .list items ∧ ∀ entry, .map entry ∈ items →
      Entries.field entry "name" = .null ∨ ∃ s, Entries.field entry "name" = .str s

theorem named?_map_eq_some {es : Entries} {name description : Value}
    (h : named? (.map es) = some (name, description)) :
    name = Entries.field es "name" ∧ name.isGiven = true := by
  unfold named? at h
  dsimp only at h
  split at h
  · next hgiven =>
    cases h
    exact ⟨rfl, hgiven⟩
  · cases h

theorem IsRegular.exists_entries {v : Value} (h : IsRegular v) : ∃ items, entries v = .ok items ∧
    ∀ entry ∈ items, ∀ name description, named? entry = some (name, description) →
      ∃ s, name = .str s := by
  cases v with
  | scalar s => exact ⟨[], rfl, nofun⟩
  | list items => exact ⟨[], rfl, nofun⟩
  | map es =>
    unfold entries
    dsimp only
    obtain hnull | ⟨items, hitems, hnames⟩ := h es rfl
    · rw [hnull]
      exact ⟨[], rfl, nofun⟩
    · rw [hitems]
      refine ⟨items, ?_, ?_⟩
      · cases items <;> rfl
      · rintro (s | xs | entry) hentry name description hnamed
        · cases hnamed
        · cases hnamed
        · obtain ⟨hname, hgiven⟩ := named?_map_eq_some hnamed
          obtain hnull | hs := hnames entry hentry
          · rw [hname, hnull] at hgiven
            cases hgiven
          · exact hname ▸ hs

end Manifest

namespace ProjectSource

/-- Whether the manifest of a project is UTF-8 and JSON of a dialect. -/
def HasManifest (src : ProjectSource) (dialect : Json.Dialect) : Prop :=
  ∃ s : String, src.files src.manifestPath = .file s.toUTF8.data.toList ∧
    Json.IsText dialect s.toList

/-- Whether some flow that the document of a domain lists, when none that is listed before it is
stored under its key, has a file that holds no flow. -/
def HasBrokenFlow (src : ProjectSource) : Prop :=
  ∃ before d x after bytes, src.listings src.domainIds = before ++ (d, x) :: after ∧
    (∀ p ∈ before, Registry.key p.1 p.2 = Registry.key d x → ∀ f, ¬ src.Stores p.1 p.2 f) ∧
    src.files (src.flowPath d x) = .file bytes ∧
    ∀ f, readDocumentAs src.yaml Flow.read bytes ≠ .ok f

/-- Whether the manifest names domains by texts, nothing but files stands where the documents of
domains and the flows belong, and the YAML reader owns up to all its faults with the documents. -/
structure Regular (src : ProjectSource) : Prop where
  names : ∀ bytes v, src.files src.manifestPath = .file bytes →
    Manifest.read src.manifestPath bytes = .ok v → Manifest.IsRegular v
  documents : ∀ d ∈ src.domainIds, (src.files (src.domainPath d)).IsPlain
  yaml : ∀ d ∈ src.domainIds, ∀ bytes, src.files (src.domainPath d) = .file bytes →
    ¬ src.yaml.Derails bytes
  flows : ∀ p ∈ src.listings src.domainIds, (src.files (src.flowPath p.1 p.2)).IsPlain

variable {src : ProjectSource} {d x : String}

theorem loadManifest_eq_ok {entries : List Value} : src.loadManifest = .ok entries ↔
    ∃ bytes v, src.files src.manifestPath = .file bytes ∧
      Manifest.read src.manifestPath bytes = .ok v ∧ Manifest.entries v = .ok entries := by
  unfold loadManifest
  dsimp only
  cases src.files src.manifestPath with
  | file bytes => simp [bind_eq_ok]
  | _ => exact iff_of_false nofun fun ⟨_, _, h, _⟩ => nomatch h

theorem hasManifest_iff : src.HasManifest .accepted ↔
    ∃ bytes v, src.files src.manifestPath = .file bytes ∧
      Manifest.read src.manifestPath bytes = .ok v := by
  simp only [exists_and_left, Manifest.exists_read_iff, HasManifest]
  constructor
  · rintro ⟨s, hfile, htext⟩
    exact ⟨_, hfile, s, rfl, htext⟩
  · rintro ⟨_, hfile, s, rfl, htext⟩
    exact ⟨s, hfile, htext⟩

theorem Regular.exists_entries (h : src.Regular) (hmanifest : src.HasManifest .accepted) :
    ∃ entries, src.loadManifest = .ok entries := by
  obtain ⟨bytes, v, hfile, hread⟩ := hasManifest_iff.1 hmanifest
  obtain ⟨items, hitems, -⟩ := (h.names bytes v hfile hread).exists_entries
  exact ⟨items, loadManifest_eq_ok.2 ⟨bytes, v, hfile, hread, hitems⟩⟩

theorem Regular.exists_text (h : src.Regular) {entries : List Value}
    (hload : src.loadManifest = .ok entries) {entry name description : Value}
    (hentry : entry ∈ entries) (hnamed : Manifest.named? entry = some (name, description)) :
    ∃ s, name = .str s := by
  obtain ⟨bytes, v, hfile, hread, hentries⟩ := loadManifest_eq_ok.1 hload
  obtain ⟨items, hitems, hnames⟩ := (h.names bytes v hfile hread).exists_entries
  cases hitems.symm.trans hentries
  exact hnames entry hentry name description hnamed

/-! ## Documents of domains -/

theorem loadDomain_of_file {bytes : List UInt8} (hfile : src.files (src.domainPath d) = .file bytes)
    (hyaml : ¬ src.yaml.Derails bytes) (name description : Value) :
    (∃ doc, readDocumentAs src.yaml Domain.read bytes = .ok doc ∧
        (src.loadDomain d name description).result = .ok doc) ∨
      ∃ fault, readDocumentAs src.yaml Domain.read bytes = .error fault ∧
        (src.loadDomain d name description).result = .ok (Domain.empty name description) := by
  unfold loadDomain
  dsimp only
  rw [hfile]
  dsimp only
  rw [← Domain.fails_readDocumentAs] at hyaml
  cases hread : readDocumentAs src.yaml Domain.read bytes with
  | ok doc => exact .inl ⟨doc, rfl, rfl⟩
  | error fault =>
    rw [hread, fails_error, Bool.not_eq_false] at hyaml
    dsimp only
    rw [hyaml]
    exact .inr ⟨fault, rfl, rfl⟩

theorem Regular.not_fails_loadDomain (h : src.Regular) (hd : d ∈ src.domainIds)
    {bad : LoadFault → Prop} (name description : Value) :
    ¬ Fails bad (src.loadDomain d name description).result := by
  obtain hmissing | ⟨bytes, hfile⟩ := (h.documents d hd).missing_or_file
  · unfold loadDomain
    dsimp only
    rw [hmissing]
    exact not_fails_ok (Domain.empty name description)
  · obtain ⟨doc, -, hload⟩ | ⟨fault, -, hload⟩ :=
      loadDomain_of_file hfile (h.yaml d hd bytes hfile) name description
    · rw [hload]
      exact not_fails_ok doc
    · rw [hload]
      exact not_fails_ok (Domain.empty name description)

/-! ## Files of flows -/

theorem mem_present {listed : List (String × String)} {p : String × String} :
    p ∈ src.present listed ↔ p ∈ listed ∧ src.files (src.flowPath p.1 p.2) ≠ .missing := by
  simp [present]

theorem exists_stores_iff {bytes : List UInt8}
    (hfile : src.files (src.flowPath d x) = .file bytes) :
    (∃ f, src.Stores d x f) ↔ ∃ f, readDocumentAs src.yaml Flow.read bytes = .ok f := by
  constructor
  · rintro ⟨-, bytes', v, g, hfile', hv, hg, rfl⟩
    cases hfile'.symm.trans hfile
    exact ⟨g, bind_eq_ok.2 ⟨v, hv, mapError_eq_ok.2 hg⟩⟩
  · rintro ⟨f, hread⟩
    obtain ⟨v, hv, hf⟩ := bind_eq_ok.1 hread
    exact ⟨_, bytes, v, f, hfile, hv, mapError_eq_ok.1 hf, rfl⟩

theorem loadFlow_of_stores {f : Flow} (h : src.Stores d x f) :
    (src.loadFlow d x).result = .ok (some f) := by
  obtain ⟨bytes, v, g, hfile, hv, hg, rfl⟩ := h
  unfold loadFlow
  dsimp only
  rw [hfile]
  simp only [Logged.result_bind_eq_ok, Logged.result_lift, Logged.result_mapError,
    Flow.result_readLogged, mapError_eq_ok, Logged.result_pure]
  exact ⟨v, hv, g, hg, rfl⟩

theorem broken_of_fails_loadFlow {bad : LoadFault → Prop}
    (hplain : (src.files (src.flowPath d x)).IsPlain)
    (h : Fails bad (src.loadFlow d x).result) :
    ∃ bytes, src.files (src.flowPath d x) = .file bytes ∧
      ∀ f, readDocumentAs src.yaml Flow.read bytes ≠ .ok f := by
  obtain hmissing | ⟨bytes, hfile⟩ := hplain.missing_or_file
  · unfold loadFlow at h
    dsimp only at h
    rw [hmissing] at h
    exact absurd h (not_fails_ok none)
  · refine ⟨bytes, hfile, fun f hread => ?_⟩
    obtain ⟨g, hg⟩ := (exists_stores_iff hfile).2 ⟨f, hread⟩
    rw [loadFlow_of_stores hg] at h
    exact not_fails_ok _ h

end ProjectSource

namespace Registry

variable {src : ProjectSource} {r : Registry} {d k : String} {listed : List (String × String)}

/-- Under a key that is free no flow was listed that has a file. -/
theorem FlowsOf.missing_of_fresh (h : FlowsOf src listed r) (hk : k ∉ r.flows.keys) :
    ∀ p ∈ listed, key p.1 p.2 = k → src.files (src.flowPath p.1 p.2) = .missing := by
  intro p hp hkey
  by_contra hfile
  have hnone : src.first? listed k = none := not_not.1 (mt h.mem_keys_iff.2 hk)
  have hpresent : p ∈ src.present listed := ProjectSource.mem_present.2 ⟨hp, hfile⟩
  exact List.find?_eq_none.1 hnone p hpresent (decide_eq_true hkey)

/-- Under the key of a listed flow with a file, this flow or one that is listed before it is
stored. -/
theorem FlowsOf.exists_stores {before after : List (String × String)} {x : String}
    (h : FlowsOf src (before ++ (d, x) :: after) r)
    (hfile : src.files (src.flowPath d x) ≠ .missing) :
    ∃ p ∈ before ++ [(d, x)], key p.1 p.2 = key d x ∧ ∃ f, src.Stores p.1 p.2 f := by
  have hpresent : (d, x) ∈ src.present (before ++ [(d, x)]) :=
    ProjectSource.mem_present.2 ⟨by simp, hfile⟩
  have hfound : (src.first? (before ++ [(d, x)]) (key d x)).isSome :=
    List.find?_isSome.2 ⟨_, hpresent, decide_eq_true rfl⟩
  obtain ⟨p, hp⟩ := Option.isSome_iff_exists.1 hfound
  unfold ProjectSource.first? at hp
  have hmem : p ∈ before ++ [(d, x)] :=
    (ProjectSource.mem_present.1 (List.mem_of_find?_eq_some hp)).1
  have hkey : key p.1 p.2 = key d x := by simpa using List.find?_some hp
  have hfirst : src.first? (before ++ (d, x) :: after) (key d x) = some p := by
    rw [List.append_cons, ProjectSource.first?, ProjectSource.present, List.filter_append,
      List.find?_append, Option.or_eq_some_iff]
    exact .inl hp
  have hstored := h.stored (key d x)
  rw [hfirst] at hstored
  generalize r.flows.get? (key d x) = f at hstored
  cases hstored with
  | some hf => exact ⟨p, hmem, hkey, _, hf⟩

/-! ## Runs -/

/-- In a regular project, a domain fails only at a listed flow whose file holds none. -/
theorem hasBrokenFlow_of_fails_addDomain (h : src.Regular) {bad : LoadFault → Prop}
    {before after : List String} (hids : src.domainIds = before ++ d :: after)
    (hflows : FlowsOf src (src.listings before) r) {name description : Value}
    (hstop : Fails bad (addDomain src r d name description).result) : src.HasBrokenFlow := by
  obtain hdoc | ⟨doc, first, entry, rest, r', -, hlisted, hrun, hfresh, hflow⟩ :=
    fails_addDomain.1 hstop
  · exact absurd hdoc (h.not_fails_loadDomain (by simp [hids]) name description)
  · -- The flows that the domain stores before it fails are those of the listings up to that place.
    have hput : FlowsOf src (src.listings before) (r.withDomain d doc) :=
      ⟨hflows.keys, hflows.stored⟩
    have hstored := hput.addFlows hrun
    have hlistings : src.listings src.domainIds =
        (src.listings before ++ first.map fun entry => (d, entry.id)) ++ (d, entry.id) ::
          ((rest.map fun entry => (d, entry.id)) ++ src.listings after) := by
      simp [ProjectSource.listings, hids, hlisted]
    have hplain := h.flows (d, entry.id) (by simp [hlistings])
    obtain ⟨bytes, hfile, hread⟩ := ProjectSource.broken_of_fails_loadFlow hplain hflow
    refine ⟨_, d, entry.id, _, bytes, hlistings, fun p hp hkey f hf => ?_, hfile, hread⟩
    exact hf.not_missing (hstored.missing_of_fresh hfresh p hp hkey)

theorem hasBrokenFlow_of_fails_addEntry (h : src.Regular) {bad : LoadFault → Prop}
    {before after : List Value} {v : Value}
    (hentries : src.loadManifest = .ok (before ++ v :: after))
    (hrun : (before.foldlM (addEntry src) empty).result = .ok r)
    (hstop : Fails bad (addEntry src r v).result) : src.HasBrokenFlow := by
  unfold addEntry at hstop
  split at hstop
  · exact absurd hstop (not_fails_ok r)
  · next name description hnamed =>
    have hids : src.domainIds = Manifest.domainIds before ++ Domain.idOfName name ::
        Manifest.domainIds after := by
      unfold ProjectSource.domainIds
      rw [hentries]
      simp [Manifest.domainIds, Except.toOption, hnamed]
    have hflows := (Holds.addEntries hrun).flows
    rw [Manifest.map_id_namings] at hflows
    exact hasBrokenFlow_of_fails_addDomain h hids hflows hstop
  · next name description htext hnamed =>
    obtain ⟨s, rfl⟩ := h.exists_text hentries (by simp) hnamed
    exact absurd rfl (htext s)

/-- A loaded project has a folder, a manifest and no flow whose file holds none. -/
theorem intact_of_load (h : (load src).result = .ok r) : src.files src.root = .folder ∧
    src.HasManifest .accepted ∧ ¬ src.HasBrokenFlow := by
  refine ⟨?_, ?_, ?_⟩
  · unfold load at h
    split at h
    · cases h
    · cases h
    · cases h
    · next hroot => exact hroot
  · obtain ⟨entries, hentries, -⟩ := exists_entries_of_load h
    obtain ⟨bytes, v, hfile, hread, -⟩ := ProjectSource.loadManifest_eq_ok.1 hentries
    exact ProjectSource.hasManifest_iff.2 ⟨bytes, v, hfile, hread⟩
  · rintro ⟨before, d, x, after, bytes, hlistings, hfree, hfile, hread⟩
    have hflows := (holds_of_load h).flows
    have hids : src.namings.map Naming.id = src.domainIds := Manifest.map_id_namings _
    rw [hids, hlistings] at hflows
    obtain ⟨p, hp, hkey, f, hf⟩ := hflows.exists_stores (by rw [hfile]; nofun)
    rw [List.mem_append, List.mem_singleton] at hp
    obtain hp | rfl := hp
    · exact hfree p hp hkey f hf
    · obtain ⟨g, hg⟩ := (ProjectSource.exists_stores_iff hfile).1 ⟨f, hf⟩
      exact hread g hg

/-! ## Loading -/

/-- A project with a document that is no YAML, a flow without a file and a flow whose file holds an
empty list. -/
def patchy : ProjectSource := .ofTexts Yaml.read [
  (["ddd-project.json"], "\x7b\"domains\": [\x7b\"name\": \"Lost\"\x7d, "
    ++ "\x7b\"name\": \"Shop\"\x7d, \x7b\"name\": null\x7d]\x7d"),
  (["specs", "domains", "lost", "domain.yaml"], "["),
  (["specs", "domains", "shop", "domain.yaml"], "flows: [{id: cart}, {id: pay}]"),
  (["specs", "domains", "shop", "flows", "pay.yaml"], "[]")]

theorem listings_patchy : patchy.domainIds = ["lost", "shop"] ∧
    patchy.listings patchy.domainIds = [("shop", "cart"), ("shop", "pay")] ∧
    patchy.files (patchy.domainPath "lost") = .file "[".toUTF8.toList ∧
    patchy.files (patchy.domainPath "shop") =
      .file "flows: [{id: cart}, {id: pay}]".toUTF8.toList ∧
    patchy.files (patchy.flowPath "shop" "cart") = .missing ∧
    patchy.files (patchy.flowPath "shop" "pay") = .file "[]".toUTF8.toList := by
  decide +kernel

theorem readings_patchy : patchy.yaml "[".toUTF8.toList = .error .arrangement ∧
    (patchy.yaml "flows: [{id: cart}, {id: pay}]".toUTF8.toList).toOption.isSome = true ∧
    readDocumentAs patchy.yaml Flow.read "[]".toUTF8.toList = .error (.content .headerMissing) := by
  decide +kernel

theorem not_derails_broken : ¬ patchy.yaml.Derails "[".toUTF8.toList := by
  rintro ⟨fault, hfault, hnot⟩
  cases readings_patchy.1.symm.trans hfault
  cases hnot

theorem regular_patchy : patchy.Regular where
  names := by
    have hfile : ∃ bytes, patchy.files patchy.manifestPath = .file bytes ∧
        Manifest.read patchy.manifestPath bytes = .ok (.map [(.str "domains", .list
          [.map [(.str "name", .str "Lost")], .map [(.str "name", .str "Shop")],
            .map [(.str "name", .null)]])]) := ⟨_, rfl, by decide +kernel⟩
    obtain ⟨bytes, hfile, hread⟩ := hfile
    intro bytes' v hfile' hread'
    cases hfile.symm.trans hfile'
    cases hread.symm.trans hread'
    rintro _ ⟨⟩
    refine .inr ⟨_, rfl, ?_⟩
    simp [Entries.field, Entries.get?]
  documents := by
    obtain ⟨hids, -, hlost, hshop, -⟩ := listings_patchy
    intro d hd
    rw [hids, List.mem_pair] at hd
    obtain rfl | rfl := hd
    · rw [hlost]
      trivial
    · rw [hshop]
      trivial
  yaml := by
    obtain ⟨hids, -, hlost, hshop, -⟩ := listings_patchy
    intro d hd bytes hfile
    rw [hids, List.mem_pair] at hd
    obtain rfl | rfl := hd
    · cases hlost.symm.trans hfile
      exact not_derails_broken
    · cases hshop.symm.trans hfile
      obtain ⟨-, hread, -⟩ := readings_patchy
      rintro ⟨fault, hfault, -⟩
      rw [hfault] at hread
      cases hread
  flows := by
    obtain ⟨-, hlistings, -, -, hcart, hpay⟩ := listings_patchy
    intro p hp
    rw [hlistings, List.mem_pair] at hp
    obtain rfl | rfl := hp
    · rw [hcart]
      trivial
    · rw [hpay]
      trivial

/-- A project of nothing but a manifest. -/
def bare (manifest : String) : ProjectSource :=
  .ofTexts Yaml.read [(["ddd-project.json"], manifest)]

theorem manifest_bare (m : String) :
    (bare m).files (bare m).manifestPath = .file m.toUTF8.data.toList := by
  have hpath : (bare m).manifestPath = ⟨"", ["ddd-project.json"]⟩ := by
    show Path.join ⟨"", []⟩ "ddd-project.json" = _
    decide
  rw [hpath]
  rfl

theorem hasManifest_bare {m : String} {dialect : Json.Dialect} :
    (bare m).HasManifest dialect ↔ Json.IsText dialect m.toList := by
  unfold ProjectSource.HasManifest
  rw [manifest_bare]
  constructor
  · rintro ⟨s, hs, htext⟩
    have hdecode := Utf8.decode_eq_toList_iff.2 (FileEntry.file.inj hs)
    rw [Utf8.decode_eq_toList_iff.2 rfl] at hdecode
    rw [Except.ok.inj hdecode]
    exact htext
  · intro htext
    exact ⟨m, rfl, htext⟩

/-! A manifest that is a single word or number names no domains. -/

section

variable {m : String} (h : ∀ v,
  Manifest.read (bare m).manifestPath m.toUTF8.data.toList = .ok v → v.isScalar = true)
include h

theorem domainIds_bare : (bare m).domainIds = [] := by
  unfold ProjectSource.domainIds
  cases hload : (bare m).loadManifest with
  | error fault => rfl
  | ok entries =>
    obtain ⟨bytes, v, hfile, hread, hentries⟩ := ProjectSource.loadManifest_eq_ok.1 hload
    cases (manifest_bare m).symm.trans hfile
    have hscalar := h v hread
    cases v with
    | scalar s =>
      cases hentries
      rfl
    | list items => cases hscalar
    | map es => cases hscalar

theorem regular_bare : (bare m).Regular where
  names := by
    rintro bytes v hfile hread es rfl
    cases (manifest_bare m).symm.trans hfile
    cases h _ hread
  documents := by
    rw [domainIds_bare h]
    nofun
  yaml := by
    rw [domainIds_bare h]
    nofun
  flows := by
    rw [domainIds_bare h]
    nofun

theorem not_hasBrokenFlow_bare : ¬ (bare m).HasBrokenFlow := by
  rintro ⟨before, d, x, after, bytes, hlistings, -⟩
  rw [domainIds_bare h] at hlistings
  exact absurd hlistings.symm (by simp [ProjectSource.listings])

end

/-- A one with as many zeros as an integer may have digits. -/
def oversized : String := String.ofList ('1' :: List.replicate Number.digitLimit '0')

theorem whole_oversized : Json.Whole oversized.toList := by
  unfold oversized
  rw [String.toList_ofList]
  refine ⟨⟨List.cons_ne_nil _ _, ?_⟩, nofun⟩
  rw [List.forall_mem_cons]
  refine ⟨rfl, fun c hc => ?_⟩
  rw [List.eq_of_mem_replicate hc]
  rfl

end Registry

end FlowGate
