import FlowGate.Proofs.Flow.Overflow
import FlowGate.Proofs.Project.Loading

/-!
# What keeps a project from being loaded

A project that cannot be loaded is reported, if the fault is one that projects are expected to have.
`ProjectSource.Obstacle` lists all that ends the loading with another fault: something other than a
file where one is read, a manifest whose domains have no entries or no textual names, a fault of the
YAML reader that it does not own up to, and a number past the range of doubles in a flow. Entries
and flows are loaded in order, so an obstacle counts only if loading comes to it.
-/

namespace FlowGate

/-! ## Files -/

/-- Whether something keeps a file from being read or has bytes that do. -/
def FileEntry.Blocks (bad : List UInt8 → Prop) : FileEntry → Prop
  | .missing => False
  | .folder | .nameTooLong => True
  | .file bytes => bad bytes

/-- Whether bytes are refused for a fault that YAML documents are not expected to have. -/
def YamlReader.Derails (yaml : YamlReader) (bytes : List UInt8) : Prop :=
  ∃ fault, yaml bytes = .error fault ∧ fault.isExpected = false

theorem fails_readDocument {yaml : YamlReader} {bad : FileFault → Prop} (bytes : List UInt8) :
    Fails bad (readDocument yaml bytes) ↔
      ∃ fault, yaml bytes = .error fault ∧ bad (.yaml fault) := by
  unfold readDocument
  rw [fails_bind, fails_mapError]
  exact or_iff_left fun ⟨v, _, h⟩ => not_fails_ok _ h

/-! ## Domains -/

variable {e : Fault}

theorem FlowEntry.not_fails_read (v : Value) : ¬ Fails (Stray e) (FlowEntry.read v) := by
  unfold read
  split
  · split
    · rw [fails_map]
      exact not_fails_readText _
    · simp [Fault.isMalformed]
  · simp [Fault.isMalformed]

theorem Wiring.not_fails_read (v : Value) : ¬ Fails (Stray e) (Wiring.read v) := by
  unfold read
  split
  · split
    · rw [fails_map]
      exact not_fails_readText _
    · simp [Fault.isMalformed]
  · simp [Fault.isMalformed]

theorem Domain.not_fails_readList {α : Type} {read : Value → Except Fault α}
    (h : ∀ v, ¬ Fails (Stray e) (read v)) (es : Entries) (key : String) :
    ¬ Fails (Stray e) (readList es key read) := by
  unfold readList
  rw [fails_bind]
  rintro (hitems | ⟨items, -, hitem⟩)
  · exact not_fails_items (fun _ => rfl) hitems
  · obtain ⟨v, -, hv⟩ := (fails_mapM.1 hitem).exists_stops
    exact h v hv

/-- Whatever is refused for a domain is malformed. -/
theorem Domain.isMalformed_of_read {v : Value} {fault : Fault} (h : Domain.read v = .error fault) :
    fault.isMalformed = true := by
  have hnot : ¬ Fails (Stray fault) (Domain.read v) := by
    unfold read
    split
    · simp [fails_bind, not_fails_readList FlowEntry.not_fails_read,
        not_fails_readList Wiring.not_fails_read, pure, Except.pure]
    · simp [Fault.isMalformed]
  rw [h] at hnot
  simpa using hnot

/-- Reading a domain comes to such a fault only in the YAML. -/
theorem Domain.fails_readDocumentAs {yaml : YamlReader} (bytes : List UInt8) :
    Fails (·.isExpected = false) (readDocumentAs yaml Domain.read bytes) ↔ yaml.Derails bytes := by
  unfold readDocumentAs
  rw [fails_bind, fails_readDocument]
  refine or_iff_left ?_
  rintro ⟨v, -, h⟩
  obtain ⟨fault, hfault, hnot⟩ := fails_mapError.1 h
  have hmalformed : fault.isMalformed = false := hnot
  rw [Domain.isMalformed_of_read hfault] at hmalformed
  cases hmalformed

/-! ## Manifests -/

namespace Manifest

/-- Whether the value for the domains of a manifest is given and has no entries. -/
def Unlisted (v : Value) : Prop :=
  ∃ es s, v = .map es ∧ Entries.field es "domains" = .scalar s ∧
    (Value.scalar s).isGiven = true ∧ ∀ text, s ≠ .str text

theorem not_fails_read (path : Path) (bytes : List UInt8) :
    ¬ Fails (·.isExpected = false) (read path bytes) := by
  unfold read
  rw [fails_bind, fails_mapError]
  rintro (⟨fault, -, h⟩ | ⟨cs, -, h⟩)
  · cases h
  · split at h
    · obtain ⟨fault, hfault, hnot⟩ := h
      cases hfault
      cases hnot
    · obtain ⟨fault, -, hnot⟩ := fails_mapError.1 h
      cases fault <;> cases hnot

theorem fails_entries (v : Value) : Fails (·.isExpected = false) (entries v) ↔ Unlisted v := by
  cases v with
  | scalar s => simp [entries, Unlisted]
  | list items => simp [entries, Unlisted]
  | map es =>
    unfold entries Value.orElse
    dsimp only
    constructor
    · intro h
      cases hgiven : (Entries.field es "domains").isGiven with
      | false =>
        rw [hgiven] at h
        exact absurd h (not_fails_ok [])
      | true =>
        rw [hgiven, if_pos rfl] at h
        cases hfield : Entries.field es "domains" with
        | list items =>
          rw [hfield] at h
          exact absurd h (not_fails_ok items)
        | map domains =>
          rw [hfield] at h
          exact absurd h (not_fails_ok _)
        | scalar s =>
          rw [hfield] at h hgiven
          refine ⟨es, s, rfl, hfield, hgiven, ?_⟩
          rintro text rfl
          exact not_fails_ok _ h
    · rintro ⟨es', s, hes, hs, hgiven, htext⟩
      cases hes
      rw [hs, if_pos hgiven]
      cases s with
      | str text => exact absurd rfl (htext text)
      | _ => exact (fails_error _).2 rfl

end Manifest

/-! ## Runs -/

namespace Registry

variable {bad : LoadFault → Prop} {src : ProjectSource} {d : String} {r : Registry}

theorem fails_addFlow {entry : FlowEntry} :
    Fails bad (addFlow src d r entry).result ↔
      key d entry.id ∉ r.flows.keys ∧ Fails bad (src.loadFlow d entry.id).result := by
  rw [← Table.contains_iff, Bool.not_eq_true]
  unfold addFlow
  dsimp only
  cases r.flows.contains (key d entry.id) with
  | true => exact iff_of_false (not_fails_ok r) (fun h => nomatch h.1)
  | false =>
    rw [if_neg Bool.false_ne_true, Logged.fails_result_bind, and_iff_right rfl]
    refine or_iff_left ?_
    rintro ⟨loaded, -, h⟩
    cases loaded with
    | none => exact not_fails_ok _ h
    | some f => exact not_fails_ok _ h

theorem fails_addDomain {name description : Value} :
    Fails bad (addDomain src r d name description).result ↔
      Fails bad (src.loadDomain d name description).result ∨ ∃ doc before entry after r',
        (src.loadDomain d name description).result = .ok doc ∧
          src.listed d = before ++ entry :: after ∧
          (before.foldlM (addFlow src d) (r.withDomain d doc)).result = .ok r' ∧
          key d entry.id ∉ r'.flows.keys ∧ Fails bad (src.loadFlow d entry.id).result := by
  unfold addDomain
  rw [Logged.fails_result_bind]
  refine or_congr_right ?_
  constructor
  · rintro ⟨doc, hdoc, h⟩
    obtain ⟨before, entry, after, r', hflows, hrun, hstop⟩ := Logged.fails_foldlM.1 h
    rw [ProjectSource.flows_of_loadDomain hdoc] at hflows
    exact ⟨doc, before, entry, after, r', hdoc, hflows, hrun, fails_addFlow.1 hstop⟩
  · rintro ⟨doc, before, entry, after, r', hdoc, hflows, hrun, hstop⟩
    rw [← ProjectSource.flows_of_loadDomain hdoc] at hflows
    exact ⟨doc, hdoc, Logged.fails_foldlM.2
      ⟨before, entry, after, r', hflows, hrun, fails_addFlow.2 hstop⟩⟩

/-- In its folder, a project fails at its manifest or at one of the entries of that. -/
theorem fails_load_of_folder (hroot : src.files src.root = .folder) :
    Fails bad (load src).result ↔ Fails bad src.loadManifest ∨ ∃ before v after r,
      src.loadManifest = .ok (before ++ v :: after) ∧
        (before.foldlM (addEntry src) empty).result = .ok r ∧
        Fails bad (addEntry src r v).result := by
  unfold load
  rw [hroot]
  simp only [Logged.fails_result_bind, Logged.result_lift, Logged.fails_foldlM,
    Logged.result_write, Logged.result_pure, not_fails_ok, and_false, exists_false, or_false]
  refine or_congr_right ?_
  constructor
  · rintro ⟨_, hentries, before, v, after, r, rfl, hrun, hstop⟩
    exact ⟨before, v, after, r, hentries, hrun, hstop⟩
  · rintro ⟨before, v, after, r, hentries, hrun, hstop⟩
    exact ⟨_, hentries, before, v, after, r, rfl, hrun, hstop⟩

end Registry

/-! ## Obstacles -/

namespace ProjectSource

variable (src : ProjectSource)

/-- Whether the manifest cannot be opened or does not list domains. -/
def ManifestBlocks : Prop :=
  (src.files src.manifestPath).Blocks fun bytes =>
    ∃ v, Manifest.read src.manifestPath bytes = .ok v ∧ Manifest.Unlisted v

/-- Whether the document of a domain ends the loading. -/
def DomainBlocks (d : String) : Prop := (src.files (src.domainPath d)).Blocks src.yaml.Derails

/-- Whether the file of a flow ends the loading with a fault that is not expected. -/
def FlowBlocks (d x : String) : Prop :=
  (src.files (src.flowPath d x)).Blocks fun bytes =>
    src.yaml.Derails bytes ∨ ∃ v, readDocument src.yaml bytes = .ok v ∧ Flow.Overflows v

/-- Whether an entry of the manifest, after some others, ends the loading with a fault that is not
expected. -/
inductive EntryBlocks (r : Registry) (v : Value) : Prop
  | name {name description : Value} (named : Manifest.named? v = some (name, description))
      (text : ∀ s, name ≠ .str s) : EntryBlocks r v
  | domain {name : String} {description : Value}
      (named : Manifest.named? v = some (.str name, description))
      (blocks : src.DomainBlocks (Domain.idOfName name)) : EntryBlocks r v
  | flow {name : String} {description : Value} {doc : Domain} {before after : List FlowEntry}
      {entry : FlowEntry} {r' : Registry}
      (named : Manifest.named? v = some (.str name, description))
      (document : (src.loadDomain (Domain.idOfName name) (.str name) description).result = .ok doc)
      (listed : src.listed (Domain.idOfName name) = before ++ entry :: after)
      (run : (before.foldlM (Registry.addFlow src (Domain.idOfName name))
        (r.withDomain (Domain.idOfName name) doc)).result = .ok r')
      (fresh : Registry.key (Domain.idOfName name) entry.id ∉ r'.flows.keys)
      (blocks : src.FlowBlocks (Domain.idOfName name) entry.id) : EntryBlocks r v

/-- What ends the loading of a project with a fault that is not expected. -/
inductive Obstacle : Prop
  | root (root : src.files src.root = .nameTooLong) : Obstacle
  | manifest (root : src.files src.root = .folder) (blocks : src.ManifestBlocks) : Obstacle
  | entry {before after : List Value} {v : Value} {r : Registry}
      (root : src.files src.root = .folder)
      (entries : src.loadManifest = .ok (before ++ v :: after))
      (run : (before.foldlM (Registry.addEntry src) .empty).result = .ok r)
      (blocks : src.EntryBlocks r v) : Obstacle

variable {src}

theorem fails_loadManifest :
    Fails (·.isExpected = false) src.loadManifest ↔ src.ManifestBlocks := by
  unfold loadManifest ManifestBlocks
  dsimp only
  cases src.files src.manifestPath with
  | missing => exact iff_of_false (fun h => nomatch (fails_error _).1 h) id
  | folder => exact iff_of_true ((fails_error _).2 rfl) trivial
  | nameTooLong => exact iff_of_true ((fails_error _).2 rfl) trivial
  | file bytes =>
    show Fails _ (Manifest.read src.manifestPath bytes >>= Manifest.entries) ↔ _
    rw [fails_bind, or_iff_right (Manifest.not_fails_read _ bytes)]
    simp only [Manifest.fails_entries, FileEntry.Blocks]

theorem fails_loadDomain {d : String} {name description : Value} :
    Fails (·.isExpected = false) (src.loadDomain d name description).result ↔
      src.DomainBlocks d := by
  unfold loadDomain DomainBlocks
  dsimp only
  cases src.files (src.domainPath d) with
  | missing => exact iff_of_false (not_fails_ok (Domain.empty name description)) id
  | folder => exact iff_of_true ((fails_error _).2 rfl) trivial
  | nameTooLong => exact iff_of_true ((fails_error _).2 rfl) trivial
  | file bytes =>
    dsimp only [FileEntry.Blocks]
    rw [← Domain.fails_readDocumentAs]
    cases readDocumentAs src.yaml Domain.read bytes with
    | ok doc => exact iff_of_false (not_fails_ok doc) (not_fails_ok doc)
    | error fault =>
      dsimp only
      cases hexpected : fault.isExpected with
      | false => exact iff_of_true ((fails_error _).2 rfl) ((fails_error _).2 hexpected)
      | true =>
        rw [fails_error, hexpected]
        exact iff_of_false (not_fails_ok (Domain.empty name description)) nofun

theorem fails_loadFlow {d x : String} :
    Fails (·.isExpected = false) (src.loadFlow d x).result ↔ src.FlowBlocks d x := by
  unfold loadFlow FlowBlocks
  dsimp only
  cases src.files (src.flowPath d x) with
  | missing => exact iff_of_false (not_fails_ok none) id
  | folder => exact iff_of_true ((fails_error _).2 rfl) trivial
  | nameTooLong => exact iff_of_true ((fails_error _).2 rfl) trivial
  | file bytes =>
    dsimp only [FileEntry.Blocks]
    rw [Logged.fails_result_bind, Logged.result_lift, fails_mapError, fails_readDocument]
    refine or_congr Iff.rfl (exists_congr fun v => ?_)
    rw [mapError_eq_ok]
    refine and_congr_right fun _ => ?_
    rw [Logged.fails_result_bind, or_iff_left fun ⟨f, _, h⟩ => not_fails_ok _ h,
      Logged.result_mapError, Flow.result_readLogged, fails_mapError]
    constructor
    · rintro ⟨fault, hfault, hnot⟩
      exact (Flow.isMalformed_eq_false_iff hfault).1 hnot
    · intro hover
      exact ⟨.tooLarge, Flow.read_eq_tooLarge_iff.2 hover, rfl⟩

theorem fails_addEntry {r : Registry} {v : Value} :
    Fails (·.isExpected = false) (Registry.addEntry src r v).result ↔ src.EntryBlocks r v := by
  unfold Registry.addEntry
  constructor
  · intro h
    split at h
    · exact absurd h (not_fails_ok r)
    · next name description named =>
      obtain hdomain | ⟨doc, before, entry, after, r', hdoc, hlisted, hrun, hfresh, hflow⟩ :=
        Registry.fails_addDomain.1 h
      · exact .domain named (fails_loadDomain.1 hdomain)
      · exact .flow named hdoc hlisted hrun hfresh (fails_loadFlow.1 hflow)
    · next name description htext named => exact .name named htext
  · intro h
    cases h with
    | @name name description named text =>
      rw [named]
      split
      · next h => cases h
      · next h =>
        cases h
        exact absurd rfl (text _)
      · exact (fails_error _).2 rfl
    | domain named blocks =>
      rw [named]
      exact Registry.fails_addDomain.2 (.inl (fails_loadDomain.2 blocks))
    | flow named document listed run fresh blocks =>
      rw [named]
      exact Registry.fails_addDomain.2
        (.inr ⟨_, _, _, _, _, document, listed, run, fresh, fails_loadFlow.2 blocks⟩)

theorem Obstacle.root_cases (h : src.Obstacle) :
    src.files src.root = .folder ∨ src.files src.root = .nameTooLong := by
  cases h with
  | root root => exact .inr root
  | manifest root => exact .inl root
  | entry root => exact .inl root

/-- A project is not loaded, for a fault that is not expected, exactly if there is an obstacle. -/
theorem fails_load : Fails (·.isExpected = false) (Registry.load src).result ↔ src.Obstacle := by
  cases hroot : src.files src.root with
  | folder =>
    rw [Registry.fails_load_of_folder hroot]
    simp only [fails_loadManifest, fails_addEntry]
    constructor
    · rintro (hmanifest | ⟨before, v, after, r, hentries, hrun, hblocks⟩)
      · exact .manifest hroot hmanifest
      · exact .entry hroot hentries hrun hblocks
    · intro h
      cases h with
      | root root => cases hroot.symm.trans root
      | manifest root blocks => exact .inl blocks
      | entry root entries run blocks => exact .inr ⟨_, _, _, _, entries, run, blocks⟩
  | nameTooLong =>
    unfold Registry.load
    rw [hroot]
    exact iff_of_true ((fails_error _).2 rfl) (.root hroot)
  | missing | file =>
    unfold Registry.load
    rw [hroot]
    refine iff_of_false (fun h => nomatch (fails_error _).1 h) fun h => ?_
    obtain h | h := h.root_cases <;> cases hroot.symm.trans h

end ProjectSource

end FlowGate
