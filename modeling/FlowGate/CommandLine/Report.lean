import FlowGate.CommandLine.Usage
import FlowGate.Json.Writer
import FlowGate.Project.Registry
import FlowGate.Store

/-!
# Reports of a project

`Registry.report` checks the flows and the documents of the domains of a project, of all or of one,
and always the events between all domains. A report fails if it holds an error, under strict rules
also if it holds a warning. `Report.value` writes it as one mapping, in which results are entries
under the names of their targets, `Report.lines` in words.
-/

namespace FlowGate

structure Report where
  flows : List Result
  domains : List Result
  events : Result
  deriving DecidableEq, Repr

/-! ## Checking -/

def Result.counts (r : Result) : String :=
  toString r.errorCount ++ " error(s), " ++ toString r.warningCount ++ " warning(s)"

def Flow.checkLogged (f : Flow) : Logged CheckFault Result := do
  let r ← .lift f.check
  .write .debug .flowCheck ("Validated flow " ++ r.target ++ ": " ++ r.counts)
  return r

def Domain.checkLogged (id : String) (d : Domain) : Logged CheckFault Result := do
  let r ← .lift (d.check id)
  .write .debug .domainCheck ("Validated domain " ++ id ++ ": " ++ r.counts)
  return r

def Events.checkLogged (domains : Table Domain) : Logged CheckFault Result := do
  let r := Events.check domains
  .write .debug .eventCheck
    ("Validated system (" ++ toString domains.size ++ " domains, "
      ++ toString (Events.events domains).length ++ " events): " ++ r.counts)
  return r

namespace Registry

def reportDomain (r : Registry) (id : String) (d : Domain) :
    Logged CheckFault (List Result × Result) := do
  let flows ← (r.flowsOf id).mapM Flow.checkLogged
  return (flows, ← d.checkLogged id)

/-- The domains that are looked at one by one: all of them, or those with a given identifier. -/
def chosen (r : Registry) (only : Option String) : List (String × Domain) :=
  r.domains.entries.filter fun e => only.all (· == e.1)

def report (r : Registry) (only : Option String) : Logged CheckFault Report := do
  let parts ← (r.chosen only).mapM fun e => r.reportDomain e.1 e.2
  let events ← Events.checkLogged r.domains
  return { flows := parts.flatMap Prod.fst, domains := parts.map Prod.snd, events }

end Registry

namespace Report

def results (r : Report) : List Result := r.flows ++ r.domains ++ [r.events]

def totalErrors (r : Report) : Nat := total Result.errorCount r.results

def totalWarnings (r : Report) : Nat := total Result.warningCount r.results

def failed (strict : Bool) (r : Report) : Bool :=
  0 < r.totalErrors || strict && 0 < r.totalWarnings

/-! ## As a value -/

def issueCount (rs : List Result) : Nat := total (·.issues.length) rs

/-- The mappings that report some results, whose issues take their identifiers one after the
other. -/
def values (marks : Marks) : List Result → List (String × Value)
  | [] => []
  | r :: rs => (r.target, r.report marks) :: values (marks.skip r.issues.length) rs

/-- The entries of some pairs, of which the last one of a name counts. -/
def entriesOf (pairs : List (String × Value)) : Entries :=
  (Table.ofList pairs).entries.map fun e => (.str e.1, e.2)

def summary (strict : Bool) (r : Report) : Value :=
  .map [(.str "status", .str (if r.failed strict then "FAIL" else "PASS")),
    (.str "strict", .bool strict), (.str "flows", .int r.flows.length),
    (.str "domains", .int r.domains.length), (.str "errors", .int r.totalErrors),
    (.str "warnings", .int r.totalWarnings)]

/-- The mapping that reports a run. -/
def value (strict : Bool) (marks : Marks) (r : Report) : Value :=
  let afterFlows := marks.skip (issueCount r.flows)
  let afterDomains := afterFlows.skip (issueCount r.domains)
  .map [(.str "version", .str programVersion), (.str "timestamp", .str marks.time),
    (.str "summary", r.summary strict),
    (.str "flows", .map (entriesOf (values marks r.flows))),
    (.str "domains", .map (entriesOf (values afterFlows r.domains))),
    (.str "system", r.events.report afterDomains)]

end Report

def LoadFault.value (time : String) (fault : LoadFault) : Value :=
  .map [(.str "version", .str programVersion), (.str "timestamp", .str time),
    (.str "summary", .map [(.str "status", .str "ERROR"), (.str "message", .str fault.message)]),
    (.str "flows", .map []), (.str "domains", .map []), (.str "system", .null)]

/-! ## In words -/

namespace CommandLine

inductive Channel where
  | output
  | errors
  deriving DecidableEq, Repr

structure Line where
  channel : Channel
  text : String
  deriving DecidableEq, Repr

def Line.output (text : String) : Line := ⟨.output, text⟩

def Line.error (text : String) : Line := ⟨.errors, text⟩

def Channel.written (c : Channel) (lines : List Line) : String :=
  String.join ((lines.filter (·.channel = c)).map fun l => l.text ++ "\n")

end CommandLine

open CommandLine (Line)

def Result.lines (verbose : Bool) (r : Result) : List Line :=
  if r.issues.isEmpty then
    if verbose then [.output ("  [PASS] " ++ r.scope.name ++ " " ++ r.target)] else []
  else
    [.error ("\n" ++ r.scope.name ++ " " ++ r.target ++ " (" ++ toString r.errorCount ++ " errors, "
        ++ toString r.warningCount ++ " warnings)"),
      .error (String.ofList (List.replicate 70 '='))]
      ++ r.issues.map fun i => .error i.text

namespace Report

def failure (strict : Bool) (r : Report) : List Line :=
  let reason :=
    if strict && r.totalErrors == 0 then toString r.totalWarnings ++ " warnings, strict mode"
    else toString r.totalErrors ++ " errors"
  [.error ("\nProject validation FAILED (" ++ reason ++ ").")]

def success (r : Report) : List Line :=
  [.output "Project validation PASSED.",
    .output ("  [PASS] " ++ toString r.flows.length ++ " flow(s) validated"),
    .output ("  [PASS] " ++ toString r.domains.length ++ " domain(s) validated")]
  ++ (if r.events.warningCount = 0 then
      [.output "  [PASS] Event wiring consistent across domains"]
    else [])
  ++ (if 0 < r.totalWarnings then
      [.error ("\nNote: " ++ toString r.totalWarnings ++ " warning(s) reported."),
        .error "      Use --strict flag to treat warnings as errors."]
    else [])

def lines (strict verbose : Bool) (r : Report) : List Line :=
  r.results.flatMap (Result.lines verbose)
    ++ if r.failed strict then r.failure strict else r.success

end Report

end FlowGate
