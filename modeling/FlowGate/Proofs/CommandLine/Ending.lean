import FlowGate.CommandLine.Run
import FlowGate.Proofs.Project.Obstacle
import FlowGate.Proofs.Project.Reporting
import FlowGate.Yaml.Reader

/-!
# How a run of the command line ends

A run that checks a project ends with a code, unless it `Breaks`: at the name of the log level, at
an obstacle to loading, or at a flow or domain that cannot be checked. `Refuses` says when the code
is two. Each phase of a run is held against the part of these conditions that is about it. `Exits`
says what a run that ends with a code writes on its way there.
-/

namespace FlowGate.CommandLine

namespace Invocation

variable {inv : Invocation} {o : Options} {marks : Marks}

/-- Whether the log level is the name of something that is no level. -/
def BadLevel (inv : Invocation) : Prop :=
  ∃ name ∈ ["BASIC_FORMAT", "_STYLES"],
    Settings.logLevel inv.environment (.ok Settings.shipped) = .ok name

/-- What ends a run without a code. -/
inductive Breaks (inv : Invocation) (o : Options) : Prop
  | level (quiet : o.verbose = false) (level : inv.BadLevel) : Breaks inv o
  | loading (obstacle : (inv.source o).Obstacle) : Breaks inv o
  | checking {r : Registry} (load : (Registry.load (inv.source o)).result = .ok r)
      (known : unknownDomain? o r = none) (stopped : ¬ r.Reportable o.domain) : Breaks inv o

/-- What leaves a run nothing to check. -/
inductive Refuses (inv : Invocation) (o : Options) : Prop
  | project {fault : LoadFault} (load : (Registry.load (inv.source o)).result = .error fault) :
      Refuses inv o
  | domain {r : Registry} {id : String} (load : (Registry.load (inv.source o)).result = .ok r)
      (asked : o.domain = some id) (given : id ≠ "") (unknown : r.domains.get? id = none) :
      Refuses inv o

/-! ## The log level -/

theorem threshold_eq_error_iff {level : String} :
    (∃ fault, threshold level = .error fault) ↔ level ∈ ["BASIC_FORMAT", "_STYLES"] := by
  rw [List.mem_pair]
  unfold threshold
  split
  · next h => simp [h]
  · next h =>
    split
    · next h' => simp [h']
    · next h' => simp [h, h']

theorem shownRank_eq_error_iff {verbose : Bool} :
    (∃ fault, inv.shownRank verbose = .error fault) ↔ verbose = false ∧ inv.BadLevel := by
  unfold shownRank BadLevel
  cases verbose with
  | true => simp
  | false =>
    rw [if_neg Bool.false_ne_true, threshold_eq_error_iff, and_iff_right rfl]
    cases Settings.logLevel inv.environment (.ok Settings.shipped) with
    | ok name => simp [Except.toOption]
    | error fault => simp [Except.toOption]

theorem not_badLevel {rank : Nat} (hrank : inv.shownRank o.verbose = .ok rank)
    (quiet : o.verbose = false) : ¬ inv.BadLevel := by
  intro level
  obtain ⟨fault, hfault⟩ := shownRank_eq_error_iff.2 ⟨quiet, level⟩
  cases hrank.symm.trans hfault

/-! ## A loaded project -/

theorem unknownDomain?_eq_some_iff {r : Registry} {id : String} :
    unknownDomain? o r = some id ↔ o.domain = some id ∧ id ≠ "" ∧ r.domains.get? id = none := by
  simp [unknownDomain?, Option.filter_eq_some_iff]

theorem result_checked (o : Options) (r : Registry) :
    (checked o r).result = (r.report o.domain).result := by
  unfold checked
  rw [Logged.result_bind]
  cases (r.report o.domain).result <;> rfl

/-- A run over a loaded project ends at a domain that is not known, at a check, or with the code of
its report. -/
theorem runLoaded_cases (inv : Invocation) (o : Options) (rank : Nat) (marks : Marks)
    (r : Registry) :
    (∃ id, unknownDomain? o r = some id ∧ (inv.runLoaded o rank marks r).ending = .code 2) ∨
      (unknownDomain? o r = none ∧ ¬ r.Reportable o.domain ∧
        ∃ fault, (inv.runLoaded o rank marks r).ending = .fault fault) ∨
      unknownDomain? o r = none ∧ r.Reportable o.domain ∧
        ∃ n, n < 2 ∧ (inv.runLoaded o rank marks r).ending = .code n := by
  unfold runLoaded
  cases unknownDomain? o r with
  | some id => exact .inl ⟨id, rfl, rfl⟩
  | none =>
    right
    dsimp only
    rw [result_checked, ← Registry.exists_report_iff]
    cases (r.report o.domain).result with
    | error fault => exact .inl ⟨rfl, by simp, .check fault, rfl⟩
    | ok report =>
      refine .inr ⟨rfl, ⟨report, rfl⟩, _, ?_, rfl⟩
      split <;> omega

/-! ## Runs -/

theorem refuses_iff_of_load {r : Registry}
    (h : (Registry.load (inv.source o)).result = .ok r) :
    inv.Refuses o ↔ ∃ id, unknownDomain? o r = some id := by
  constructor
  · intro hrefuses
    cases hrefuses with
    | project load => cases h.symm.trans load
    | domain load asked given unknown =>
      cases h.symm.trans load
      exact ⟨_, unknownDomain?_eq_some_iff.2 ⟨asked, given, unknown⟩⟩
  · rintro ⟨id, hid⟩
    obtain ⟨asked, given, unknown⟩ := unknownDomain?_eq_some_iff.1 hid
    exact .domain h asked given unknown

theorem breaks_iff_of_load {r : Registry} {rank : Nat} (hrank : inv.shownRank o.verbose = .ok rank)
    (h : (Registry.load (inv.source o)).result = .ok r) :
    inv.Breaks o ↔ unknownDomain? o r = none ∧ ¬ r.Reportable o.domain := by
  constructor
  · intro hbreaks
    cases hbreaks with
    | level quiet level => exact absurd level (not_badLevel hrank quiet)
    | loading obstacle =>
      obtain ⟨fault, hfault, -⟩ := ProjectSource.fails_load.2 obstacle
      cases h.symm.trans hfault
    | checking load known stopped =>
      cases h.symm.trans load
      exact ⟨known, stopped⟩
  · rintro ⟨known, stopped⟩
    exact .checking h known stopped

theorem not_breaks_of_load {fault : LoadFault} {rank : Nat}
    (hrank : inv.shownRank o.verbose = .ok rank)
    (h : (Registry.load (inv.source o)).result = .error fault)
    (hexpected : fault.isExpected = true) : ¬ inv.Breaks o := by
  intro hbreaks
  cases hbreaks with
  | level quiet level => exact absurd level (not_badLevel hrank quiet)
  | loading obstacle =>
    obtain ⟨fault', hfault, hnot⟩ := ProjectSource.fails_load.2 obstacle
    cases h.symm.trans hfault
    cases hexpected.symm.trans hnot
  | checking load => cases h.symm.trans load

/-- What a run over a project comes to: a fault, the code two, or the code of a report. -/
theorem runProject_cases (inv : Invocation) (o : Options) (marks : Marks) :
    (inv.Breaks o ∧ ∃ fault, (inv.runProject o marks).ending = .fault fault) ∨
      (¬ inv.Breaks o ∧ inv.Refuses o ∧ (inv.runProject o marks).ending = .code 2) ∨
      ¬ inv.Breaks o ∧ ¬ inv.Refuses o ∧
        ∃ n, n < 2 ∧ (inv.runProject o marks).ending = .code n := by
  unfold runProject
  cases hrank : inv.shownRank o.verbose with
  | error fault =>
    obtain ⟨quiet, level⟩ := shownRank_eq_error_iff.1 ⟨fault, hrank⟩
    exact .inl ⟨.level quiet level, fault, rfl⟩
  | ok rank =>
    dsimp only
    cases hload : (Registry.load (inv.source o)).result with
    | error fault =>
      dsimp only
      cases hexpected : fault.isExpected with
      | false =>
        have obstacle := ProjectSource.fails_load.1 ⟨fault, hload, hexpected⟩
        exact .inl ⟨.loading obstacle, .load fault, rfl⟩
      | true =>
        have hbreaks := not_breaks_of_load hrank hload hexpected
        exact .inr (.inl ⟨hbreaks, .project hload, rfl⟩)
    | ok r =>
      rw [breaks_iff_of_load hrank hload, refuses_iff_of_load hload]
      obtain ⟨id, hid, hending⟩ | ⟨hnone, hstopped, hending⟩ | ⟨hnone, hall, n, hn, hending⟩ :=
        inv.runLoaded_cases o rank marks r
      · exact .inr (.inl ⟨by simp [hid], ⟨id, hid⟩, hending⟩)
      · exact .inl ⟨⟨hnone, hstopped⟩, hending⟩
      · exact .inr (.inr ⟨fun h => h.2 hall, by simp [hnone], n, hn, hending⟩)

/-- A run with arguments that are understood ends without a code exactly if it breaks. Otherwise its
code is zero, one or two, and two exactly if the project cannot be loaded or a domain is asked for
that is not known. -/
theorem run_ending_iff (inv : Invocation) (marks : Marks) (request : Request)
    (h : Request.ofArguments inv.arguments = .ok request) :
    ((∃ fault, (inv.run marks).ending = .fault fault) ↔
        ∃ o, request = .check o ∧ inv.Breaks o) ∧
      ∀ n, (inv.run marks).ending = .code n →
        n ∈ [0, 1, 2] ∧ (n = 2 ↔ ∃ o, request = .check o ∧ inv.Refuses o) := by
  unfold run
  rw [h]
  cases request with
  | help => simp
  | version => simp
  | check o =>
    simp only [Request.check.injEq, exists_eq_left']
    obtain ⟨hbreaks, fault, hending⟩ | ⟨hbreaks, hrefuses, hending⟩ |
      ⟨hbreaks, hrefuses, m, hm, hending⟩ := inv.runProject_cases o marks
    · rw [hending]
      exact ⟨iff_of_true ⟨fault, rfl⟩ hbreaks, nofun⟩
    · rw [hending]
      refine ⟨iff_of_false nofun hbreaks, ?_⟩
      rintro n ⟨rfl⟩
      exact ⟨by decide, iff_of_true rfl hrefuses⟩
    · rw [hending]
      refine ⟨iff_of_false nofun hbreaks, ?_⟩
      rintro n ⟨rfl⟩
      refine ⟨by simp only [List.mem_cons, List.not_mem_nil]; omega, ?_⟩
      exact iff_of_false (by omega) hrefuses

/-- A project whose manifest gives a number for its domains. -/
def miscounted : Invocation :=
  .ofTexts Yaml.read [(["ddd-project.json"], "\x7b\"domains\": 5\x7d")] []

theorem obstacle_miscounted : (miscounted.source .default).Obstacle := by
  have hroot : (miscounted.source .default).files (miscounted.source .default).root = .folder := by
    decide
  have hfile : (miscounted.source .default).files (miscounted.source .default).manifestPath =
      .file "\x7b\"domains\": 5\x7d".toUTF8.data.toList := rfl
  have hread : Manifest.read (miscounted.source .default).manifestPath
      "\x7b\"domains\": 5\x7d".toUTF8.data.toList = .ok (.map [(.str "domains", .int 5)]) := by
    decide +kernel
  have hunlisted : Manifest.Unlisted (.map [(.str "domains", .int 5)]) :=
    ⟨_, .int 5, rfl, rfl, rfl, nofun⟩
  -- The source must not be unfolded where its files are looked up.
  generalize miscounted.source .default = src at hroot hfile hread ⊢
  refine .manifest hroot ?_
  unfold ProjectSource.ManifestBlocks
  rw [hfile]
  exact ⟨_, hread, hunlisted⟩

/-- The run over such a project ends without a code. -/
theorem faulty_miscounted : Request.ofArguments miscounted.arguments = .ok (.check .default) ∧
    ∃ fault, (miscounted.run ⟨fun _ => "", ""⟩).ending = .fault fault := by
  have hasked : Request.ofArguments miscounted.arguments = .ok (.check .default) := by decide
  have hending := run_ending_iff miscounted ⟨fun _ => "", ""⟩ (.check .default) hasked
  exact ⟨hasked, hending.1.2 ⟨.default, rfl, .loading obstacle_miscounted⟩⟩

/-! ## Runs with a code -/

/-- How a run over a project comes to a code, and the lines that it writes after those of its log:
the project is refused, the domain that is asked for is not known, or there is a report. -/
inductive Exits (inv : Invocation) (o : Options) (marks : Marks) : List Line → Nat → Prop
  | refused {fault : LoadFault} (load : (Registry.load (inv.source o)).result = .error fault)
      (expected : fault.isExpected = true) :
      Exits inv o marks [refusal o marks.time fault] 2
  | unknown {r : Registry} {id : String} (load : (Registry.load (inv.source o)).result = .ok r)
      (missing : unknownDomain? o r = some id) :
      Exits inv o marks [.error ("ERROR: Unknown domain '" ++ id ++ "'")] 2
  | reported {r : Registry} {rep : Report} (load : (Registry.load (inv.source o)).result = .ok r)
      (known : unknownDomain? o r = none) (report : (r.report o.domain).result = .ok rep) :
      Exits inv o marks (reportLines o (inv.isStrict o) marks rep)
        (if rep.failed (inv.isStrict o) then 1 else 0)

theorem channel_of_mem_logLines {rank : Nat} {log : List LogEntry} {l : Line}
    (h : l ∈ logLines rank log) : l.channel = .errors := by
  obtain ⟨e, -, rfl⟩ := List.mem_map.1 h
  rfl

theorem exits_of_load {r : Registry} (hload : (Registry.load (inv.source o)).result = .ok r)
    {rank n : Nat} (h : (inv.runLoaded o rank marks r).ending = .code n) :
    ∃ log lines, (inv.runLoaded o rank marks r).lines = log ++ lines ∧
      (∀ l ∈ log, l.channel = .errors) ∧ inv.Exits o marks lines n := by
  unfold runLoaded at h ⊢
  cases hunknown : unknownDomain? o r with
  | some id =>
    rw [hunknown] at h
    cases h
    exact ⟨[], _, rfl, by simp, .unknown hload hunknown⟩
  | none =>
    rw [hunknown] at h
    dsimp only at h ⊢
    cases hrep : (checked o r).result with
    | error fault =>
      rw [hrep] at h
      cases h
    | ok rep =>
      rw [hrep] at h
      rw [result_checked] at hrep
      cases h
      exact ⟨_, _, rfl, fun l => channel_of_mem_logLines, .reported hload hunknown hrep⟩

/-- What a run with a code writes is its log, beside the output, and what belongs to the code. -/
theorem exits_of_code {n : Nat} (h : (inv.runProject o marks).ending = .code n) :
    ∃ log lines, (inv.runProject o marks).lines = log ++ lines ∧
      (∀ l ∈ log, l.channel = .errors) ∧ inv.Exits o marks lines n := by
  unfold runProject at h ⊢
  cases hrank : inv.shownRank o.verbose with
  | error fault =>
    rw [hrank] at h
    cases h
  | ok rank =>
    rw [hrank] at h
    dsimp only at h ⊢
    cases hload : (Registry.load (inv.source o)).result with
    | error fault =>
      rw [hload] at h
      dsimp only at h ⊢
      cases hexpected : fault.isExpected with
      | false =>
        rw [hexpected] at h
        cases h
      | true =>
        rw [hexpected] at h
        cases h
        exact ⟨_, _, rfl, fun l => channel_of_mem_logLines, .refused hload hexpected⟩
    | ok r =>
      rw [hload] at h
      obtain ⟨log, lines, hlines, hlog, hexits⟩ := exits_of_load hload h
      refine ⟨logLines rank (Registry.load (inv.source o)).log ++ log, lines, ?_, ?_, hexits⟩
      · show _ ++ (inv.runLoaded o rank marks r).lines = _
        rw [hlines, List.append_assoc]
      · intro l hl
        obtain hl | hl := List.mem_append.1 hl
        · exact channel_of_mem_logLines hl
        · exact hlog l hl

end Invocation

end FlowGate.CommandLine
