import FlowGate.Proofs.CommandLine.Ending
import FlowGate.Proofs.Json.RoundTrip
import FlowGate.Proofs.Project.Coverage
import FlowGate.Proofs.Project.Summary

/-!
# What a run writes for a reader of JSON

A report is plain: its issues name domains by texts, since every flow of a loaded project was given
the identifier of its domain. So the one document that a run writes can be read again, with the
status that belongs to the code of the run. `CommandLine.Invocation.status_of_code` says when there
is such a document.
-/

namespace FlowGate

open List (Sublist)

/-! ## Written reports are plain -/

/-- A mapping is plain if its keys are some of a row of distinct texts. -/
theorem Value.Plain.of_keys {es : Entries} (keys : List String)
    (h : Sublist (es.map Prod.fst) (keys.map Scalar.str)) (distinct : keys.Nodup)
    (parts : ∀ e ∈ es, e.2.Plain) : Plain (.map es) := by
  obtain ⟨own, hown, hkeys⟩ := List.sublist_map_iff.1 h
  have htexts : ∀ e ∈ es, (.str e.1.text, e.2) = e := by
    intro e he
    obtain ⟨k, -, hk⟩ := List.mem_map.1 (hkeys ▸ List.mem_map_of_mem he : e.1 ∈ own.map Scalar.str)
    rw [← hk]
    exact Prod.ext hk rfl
  have hform :
      (es.map fun e => (e.1.text, e.2)).map (fun e => ((.str e.1 : Scalar), e.2)) = es := by
    rw [List.map_map]
    exact (List.map_congr_left htexts).trans (List.map_id es)
  have hnames : (es.map fun e => (e.1.text, e.2)).map Prod.fst = own := by
    calc (es.map fun e => (e.1.text, e.2)).map Prod.fst
        = (es.map Prod.fst).map Scalar.text := by rw [List.map_map, List.map_map]; rfl
      _ = own := by
          rw [hkeys, List.map_map]
          exact List.map_id own
  rw [← hform]
  refine .map (hnames ▸ distinct.sublist hown) ?_
  intro e he
  obtain ⟨e', he', rfl⟩ := List.mem_map.1 he
  exact parts e' he'

/-- Whether the domain of an issue is a text or unknown. -/
def Issue.Placed (i : Issue) : Prop := i.domain = .null ∨ ∃ id, i.domain = .str id

theorem Issue.keys_known (key : String) (v : Value) :
    Sublist ((known key v).map Prod.fst) [Scalar.str key] := by
  unfold known
  split
  · exact List.nil_sublist _
  · exact .refl _

theorem Issue.plain_of_mem_known {key : String} {v : Value} (h : v.Plain) :
    ∀ e ∈ known key v, e.2.Plain := by
  unfold known
  split
  · simp
  · simpa using h

theorem Value.plain_getD_str (s : Option String) : ((s.map Value.str).getD .null).Plain := by
  cases s with
  | none => exact .null
  | some s => exact .str s

theorem Issue.plain_report {i : Issue} (h : i.Placed) (id : String) : (i.report id).Plain := by
  have hdomain : i.domain.Plain := by
    obtain hnull | ⟨d, hd⟩ := h
    · exact hnull ▸ .null
    · exact hd ▸ .str d
  have htexts : ∀ e ∈ ([(.str "id", .str id), (.str "scope", .str i.scope.name),
      (.str "severity", .str i.severity.name), (.str "category", .str i.category.name),
      (.str "message", .str i.message)] : Entries), e.2.Plain := by
    simp only [List.forall_mem_cons]
    exact ⟨.str _, .str _, .str _, .str _, .str _, nofun⟩
  refine .of_keys ["id", "scope", "severity", "category", "message", "suggestion", "nodeId",
    "flowId", "domainId"] ?_ (by decide) ?_
  · simp only [List.map_append]
    exact ((((Sublist.refl _).append (keys_known _ _)).append (keys_known _ _)).append
      (keys_known _ _)).append (keys_known _ _)
  · intro e he
    simp only [List.mem_append] at he
    obtain (((he | he) | he) | he) | he := he
    · exact htexts e he
    · exact plain_of_mem_known (Value.plain_getD_str _) e he
    · exact plain_of_mem_known (Value.plain_getD_str _) e he
    · exact plain_of_mem_known (Value.plain_getD_str _) e he
    · exact plain_of_mem_known hdomain e he

/-- Whether the issues of a result are placed. -/
def Result.Placed (r : Result) : Prop := ∀ i ∈ r.issues, i.Placed

theorem Result.plain_report {r : Result} (h : r.Placed) (marks : Marks) :
    (r.report marks).Plain := by
  have hissues : ∀ v ∈ r.issues.mapIdx fun i issue => issue.report (marks.issueId i), v.Plain := by
    intro v hv
    obtain ⟨i, hi, rfl⟩ := List.mem_mapIdx.1 hv
    exact Issue.plain_report (h _ (List.getElem_mem hi)) _
  rw [r.report_eq]
  refine .of_keys ["scope", "targetId", "issues", "errorCount", "warningCount", "infoCount",
    "isValid", "validatedAt"] (.refl _) (by decide) ?_
  simp only [List.forall_mem_cons]
  exact ⟨.str _, .str _, .list hissues, .int _, .int _, .int _, .bool _, .str _, nofun⟩

namespace Report

theorem plain_entriesOf {pairs : List (String × Value)} (h : ∀ e ∈ pairs, e.2.Plain) :
    (Value.map (entriesOf pairs)).Plain := by
  refine .map (Table.ofList pairs).nodup fun e he => h e ?_
  exact latest_subset ((Table.perm_ofList pairs).mem_iff.1 he)

theorem plain_values {rs : List Result} (h : ∀ r ∈ rs, r.Placed) (marks : Marks) :
    ∀ e ∈ values marks rs, e.2.Plain := by
  induction rs generalizing marks with
  | nil => nofun
  | cons r rs ih =>
    obtain ⟨hr, hrs⟩ := List.forall_mem_cons.1 h
    exact List.forall_mem_cons.2 ⟨Result.plain_report hr marks, ih hrs _⟩

theorem plain_summary (strict : Bool) (rep : Report) : (rep.summary strict).Plain := by
  refine .of_keys ["status", "strict", "flows", "domains", "errors", "warnings"] (.refl _)
    (by decide) ?_
  simp only [List.forall_mem_cons]
  exact ⟨.str _, .bool _, .int _, .int _, .int _, .int _, nofun⟩

theorem plain_value {rep : Report} (h : ∀ res ∈ rep.results, res.Placed) (strict : Bool)
    (marks : Marks) : (rep.value strict marks).Plain := by
  simp only [results, List.forall_mem_append, List.forall_mem_singleton] at h
  obtain ⟨⟨hflows, hdomains⟩, hevents⟩ := h
  refine .of_keys ["version", "timestamp", "summary", "flows", "domains", "system"] (.refl _)
    (by decide) ?_
  simp only [List.forall_mem_cons]
  exact ⟨.str _, .str _, plain_summary strict rep, plain_entriesOf (plain_values hflows _),
    plain_entriesOf (plain_values hdomains _), Result.plain_report hevents _, nofun⟩

end Report

theorem LoadFault.plain_value (time : String) (fault : LoadFault) :
    (fault.value time).Plain := by
  have hempty : (Value.map []).Plain := .of_keys [] (.refl _) .nil nofun
  have hsummary : (Value.map [(.str "status", .str "ERROR"),
      (.str "message", .str fault.message)]).Plain := by
    refine .of_keys ["status", "message"] (.refl _) (by decide) ?_
    simp only [List.forall_mem_cons]
    exact ⟨.str _, .str _, nofun⟩
  refine .of_keys ["version", "timestamp", "summary", "flows", "domains", "system"] (.refl _)
    (by decide) ?_
  simp only [List.forall_mem_cons]
  exact ⟨.str _, .str _, hsummary, hempty, hempty, .null, nofun⟩

/-! ## Reports of loaded projects are placed -/

theorem Flow.placed_of_check {f : Flow} {d : String} {res : Result} (hdomain : f.domain = .str d)
    (h : f.check = .ok res) : res.Placed := by
  obtain ⟨issues, -, rfl⟩ := exists_findings_of_check h
  intro i hi
  obtain ⟨i, -, rfl⟩ := List.mem_map.1 hi
  refine .inr ⟨d, ?_⟩
  rw [hdomain]
  rfl

theorem Domain.placed_of_check {id : String} {d : Domain} {res : Result}
    (h : d.check id = .ok res) : res.Placed := by
  rw [eq_of_check h]
  intro i hi
  obtain ⟨i, -, rfl⟩ := List.mem_map.1 hi
  exact .inr ⟨id, rfl⟩

theorem Events.placed_check (domains : Table Domain) : (Events.check domains).Placed := by
  intro i hi
  left
  unfold check at hi
  simp only [List.mem_append] at hi
  obtain (hi | hi) | hi := hi
  · obtain ⟨e, -, rfl⟩ := List.mem_map.1 hi
    rfl
  · obtain ⟨e, -, rfl⟩ := List.mem_map.1 hi
    rfl
  · unfold checkNaming at hi
    dsimp only at hi
    split at hi
    · obtain rfl := List.mem_singleton.1 hi
      rfl
    · cases hi

theorem Registry.placed_of_report {src : ProjectSource} {r : Registry}
    (hload : (Registry.load src).result = .ok r) {only : Option String} {rep : Report}
    (h : (r.report only).result = .ok rep) : ∀ res ∈ rep.results, res.Placed := by
  obtain ⟨hflows, hdomains, hevents⟩ := report_eq_ok.1 h
  simp only [Report.results, List.forall_mem_append, List.forall_mem_singleton]
  refine ⟨⟨?_, ?_⟩, hevents ▸ Events.placed_check _⟩
  · intro res hres
    obtain ⟨f, hf, hcheck⟩ := exists_of_forall₂ hflows res hres
    obtain ⟨e, -, hf⟩ := List.mem_flatMap.1 hf
    exact Flow.placed_of_check (domain_of_mem_flowsOf hload hf) hcheck
  · intro res hres
    obtain ⟨e, -, hcheck⟩ := exists_of_forall₂ hdomains res hres
    exact Domain.placed_of_check hcheck

namespace CommandLine

/-! ## The option -/

namespace Gathered

@[simp] theorem options_leave (g : Gathered) (s : String) : (g.leave s).options = g.options := rfl

@[simp] theorem json_take (g : Gathered) (s : String) :
    (g.take s).options.json = g.options.json := rfl

@[simp] theorem json_choose (g : Gathered) (id : String) :
    (g.choose id).options.json = g.options.json := rfl

@[simp] theorem json_chooseValue (g : Gathered) (value : String) :
    (g.chooseValue value).options.json = g.options.json := rfl

theorem json_switch (g : Gathered) (f : Flag) :
    (g.switch f).options.json = true ↔ g.options.json = true ∨ f = .json := by
  cases f <;> simp [switch]

theorem finish_eq_check {g : Gathered} {o : Options} (h : g.finish = .ok (.check o)) :
    g.options = o := by
  unfold finish at h
  split at h
  · cases h
    rfl
  · cases h

theorem shortHelpRequest_ne_check (cs : List Char) (o : Options) :
    shortHelpRequest cs ≠ .ok (.check o) := by
  unfold shortHelpRequest
  extract_lets value
  intro h
  split at h
  · split at h <;> cases h
  · cases h

/-- Whatever stands around it, the option is among those of the request. -/
theorem json_of_follow {g : Gathered} {ps : List Piece} {o : Options}
    (h : g.follow ps = .ok (.check o))
    (hjson : g.options.json = true ∨ .flag .json none ∈ ps) : o.json = true := by
  fun_induction follow g ps
  case case1 => simpa [finish_eq_check h] using hjson
  -- Words, separators, unknown options and domains leave the option as it is.
  case case2 ih | case3 ih | case5 ih | case6 ih | case7 ih | case8 ih | case10 ih | case11 ih =>
    exact ih h (by simpa using hjson)
  case case4 ih => exact ih h (by split <;> simpa using hjson)
  case case9 => exact absurd h (shortHelpRequest_ne_check _ o)
  case case12 | case13 | case14 | case15 => cases h
  case case16 ih =>
    refine ih h ?_
    rw [json_switch]
    obtain hjson | hmem := hjson
    · exact .inl (.inl hjson)
    · obtain heq | hmem := List.mem_cons.1 hmem
      · cases heq
        exact .inl (.inr rfl)
      · exact .inr hmem

end Gathered

theorem Piece.mem_of_ofArguments {arguments : List String} {ps : List Piece}
    (h : ofArguments arguments = .ok ps) {s : String} (hs : s ∈ arguments.takeWhile (· ≠ "--"))
    {p : Piece} (hp : ofArgument s = .ok p) : p ∈ ps := by
  induction arguments generalizing ps with
  | nil => cases hs
  | cons a rest ih =>
    rw [List.takeWhile_cons] at hs
    split at hs
    · next ha =>
      have hne : a ≠ "--" := by simpa using ha
      rw [ofArguments, if_neg hne, bind_eq_ok] at h
      obtain ⟨q, hq, h⟩ := h
      obtain ⟨qs, hqs, h⟩ := bind_eq_ok.1 h
      cases h
      obtain rfl | hs := List.mem_cons.1 hs
      · cases hp.symm.trans hq
        exact List.mem_cons_self
      · exact List.mem_cons_of_mem q (ih hqs hs)
    · cases hs

/-- An option for JSON that stands before a separator is obeyed. -/
theorem json_of_mem {arguments : List String} {o : Options}
    (h : Request.ofArguments arguments = .ok (.check o))
    (hmem : "--json" ∈ arguments.takeWhile (· ≠ "--")) : o.json = true := by
  obtain ⟨ps, hps, hfollow⟩ := bind_eq_ok.1 h
  have hpiece : Piece.ofArgument "--json" = .ok (.flag .json none) := by decide
  exact Gathered.json_of_follow hfollow (.inr (Piece.mem_of_ofArguments hps hmem hpiece))

/-! ## What is written -/

theorem written_append (c : Channel) (ls ms : List Line) :
    c.written (ls ++ ms) = c.written ls ++ c.written ms := by
  unfold Channel.written
  rw [List.filter_append, List.map_append]
  exact String.join_append

theorem written_of_errors {ls : List Line} (h : ∀ l ∈ ls, l.channel = .errors) :
    Channel.output.written ls = "" := by
  have hnone : ls.filter (·.channel = .output) = [] := by
    rw [List.filter_eq_nil_iff]
    intro l hl
    simp [h l hl]
  rw [Channel.written, hnone]
  rfl

theorem written_output (s : String) : Channel.output.written [.output s] = s ++ "\n" := by
  show String.join [s ++ "\n"] = _
  simp [String.join]

def statusOf : Nat → String
  | 0 => "PASS"
  | 1 => "FAIL"
  | _ => "ERROR"

namespace Invocation

/-- Whether a project is loaded without the domain that is asked for. -/
def Misses (inv : Invocation) (o : Options) : Prop :=
  ∃ r id, (Registry.load (inv.source o)).result = .ok r ∧
    o.domain = some id ∧ id ≠ "" ∧ id ∉ r.domains.keys

variable {inv : Invocation} {o : Options} {marks : Marks}

theorem misses_iff_of_load {r : Registry} (h : (Registry.load (inv.source o)).result = .ok r) :
    inv.Misses o ↔ ∃ id, unknownDomain? o r = some id := by
  simp only [unknownDomain?_eq_some_iff, Table.get?_eq_none_iff]
  constructor
  · rintro ⟨r', id, hr', hid⟩
    cases h.symm.trans hr'
    exact ⟨id, hid⟩
  · rintro ⟨id, hid⟩
    exact ⟨r, id, h, hid⟩

/-- What a run with a code writes for a reader of JSON: one document, or nothing at a domain that
is not known. -/
theorem written_of_exits (hjson : o.json = true) {lines : List Line} {n : Nat}
    (h : inv.Exits o marks lines n) :
    (inv.Misses o ∧ n = 2 ∧ Channel.output.written lines = "") ∨
      ¬ inv.Misses o ∧ ∃ v : Value, v.Plain ∧
        Channel.output.written lines = Json.write v ++ "\n" ∧
        (v.part "summary").part "status" = .str (statusOf n) := by
  cases h with
  | @refused fault load expected =>
    right
    have hmisses : ¬ inv.Misses o := by
      rintro ⟨r, id, hr, -⟩
      cases load.symm.trans hr
    refine ⟨hmisses, fault.value marks.time, fault.plain_value marks.time, ?_, rfl⟩
    rw [refusal, if_pos hjson, written_output]
  | unknown load missing =>
    exact .inl ⟨(misses_iff_of_load load).2 ⟨_, missing⟩, rfl, rfl⟩
  | @reported r rep load known report =>
    right
    have hmisses : ¬ inv.Misses o := by
      rw [misses_iff_of_load load, known]
      rintro ⟨id, hid⟩
      cases hid
    have hplain : (rep.value (inv.isStrict o) marks).Plain :=
      Report.plain_value (Registry.placed_of_report load report) _ _
    refine ⟨hmisses, _, hplain, ?_, ?_⟩
    · rw [reportLines, if_pos hjson, written_output]
    · show Value.str (if rep.failed (inv.isStrict o) then "FAIL" else "PASS") = _
      split <;> rfl

/-- A run that was asked for JSON and ends with a code has written one document with the status of
the code, and nothing else. It has written nothing at all if the domain that it was asked for is not
known. -/
theorem status_of_code (inv : Invocation) (marks : Marks) (o : Options) (n : Nat)
    (hasked : Request.ofArguments inv.arguments = .ok (.check o))
    (hcode : (inv.run marks).ending = .code n) :
    ("--json" ∈ inv.arguments.takeWhile (· ≠ "--") → o.json = true) ∧
    (o.json = true →
      let out := Channel.output.written (inv.run marks).lines
      (inv.Misses o → n = 2 ∧ out = "") ∧
      (¬ inv.Misses o → ∃ v : Value, out = Json.write v ++ "\n" ∧
        (v.HasText → Json.read out.toList = .ok v) ∧
        (v.part "summary").part "status" = .str (statusOf n))) := by
  refine ⟨json_of_mem hasked, fun hjson => ?_⟩
  have hrun : inv.run marks = inv.runProject o marks := by
    unfold run
    rw [hasked]
  rw [hrun] at hcode ⊢
  obtain ⟨log, lines, hlines, hlog, hexits⟩ := exits_of_code hcode
  have hout : Channel.output.written (inv.runProject o marks).lines =
      Channel.output.written lines := by
    rw [hlines, written_append, written_of_errors hlog, String.empty_append]
  rw [hout]
  obtain ⟨hmisses, hn, hwritten⟩ | ⟨hmisses, v, hplain, hwritten, hstatus⟩ :=
    written_of_exits hjson hexits
  · exact ⟨fun _ => ⟨hn, hwritten⟩, fun h => absurd hmisses h⟩
  · refine ⟨fun h => absurd h hmisses, fun _ => ⟨v, hwritten, fun htext => ?_, hstatus⟩⟩
    rw [hwritten]
    exact Json.read_write hplain htext

/-- A project of one domain, of which another one is asked for. -/
def misspelt : Invocation := .ofTexts Yaml.read
  [(["ddd-project.json"], "\x7b\"domains\": [\x7b\"name\": \"Billing\"\x7d]\x7d")]
  ["--json", "--domain", "biling"]

def misspeltOptions : Options := { Options.default with json := true, domain := some "biling" }

theorem misses_misspelt : misspelt.Misses misspeltOptions := by
  have hload : (Registry.load (misspelt.source misspeltOptions)).result.toOption.map
      (·.domains.keys) = some ["billing"] := by
    decide +kernel
  obtain ⟨r, hr, hkeys⟩ := Option.map_eq_some_iff.1 hload
  refine ⟨r, "biling", toOption_eq_some.1 hr, rfl, by decide, ?_⟩
  rw [hkeys]
  decide

/-- Nothing is written where a document with the status of an error belongs. -/
theorem silent_misspelt :
    let out := Channel.output.written (misspelt.run ⟨fun _ => "", ""⟩).lines
    "--json" ∈ misspelt.arguments ∧
      Request.ofArguments misspelt.arguments = .ok (.check misspeltOptions) ∧
      (misspelt.run ⟨fun _ => "", ""⟩).ending = .code 2 ∧ out = "" ∧
      Json.read out.toList = .error .malformed := by
  have hasked : Request.ofArguments misspelt.arguments = .ok (.check misspeltOptions) := by decide
  have hcode : (misspelt.run ⟨fun _ => "", ""⟩).ending = .code 2 := by decide +kernel
  obtain ⟨-, hout⟩ := ((status_of_code misspelt ⟨fun _ => "", ""⟩ _ 2 hasked hcode).2 rfl).1
    misses_misspelt
  refine ⟨by decide, hasked, hcode, hout, ?_⟩
  rw [hout]
  rfl

end Invocation

end CommandLine

end FlowGate
