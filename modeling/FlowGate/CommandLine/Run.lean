import FlowGate.CommandLine.Report

/-!
# Runs of the command line

A run is a function of the files, the reader of YAML, the environment and the arguments. It ends
with a code: zero if the project passes, one if it fails, two if there is nothing to check. A fault
that nobody expects ends it without a code.
-/

namespace FlowGate.CommandLine

/-- What a run takes from outside. -/
structure Invocation where
  yaml : YamlReader
  files : Path → FileEntry
  environment : Environment
  arguments : List String

inductive RunFault where
  | unknownLevel (v : String)
  | badLevel (v : String)
  | load (fault : LoadFault)
  | check (fault : CheckFault)
  deriving DecidableEq, Repr

def RunFault.message : RunFault → String
  | unknownLevel v => "Unknown level: " ++ Text.quoted v
  | badLevel v => "Level not an integer or a valid string: " ++ v
  | load fault => fault.message
  | check fault => fault.message

inductive Ending where
  | code (n : Nat)
  | fault (f : RunFault)
  deriving DecidableEq, Repr

structure Outcome where
  lines : List Line
  ending : Ending
  deriving DecidableEq, Repr

def levelRanks : List (String × Nat) :=
  [("CRITICAL", 50), ("DEBUG", 10), ("ERROR", 40), ("FATAL", 50), ("INFO", 20), ("NOTSET", 0),
    ("WARN", 30), ("WARNING", 30)]

def lineFormat : String := "%(levelname)s:%(name)s:%(message)s"

/-- The styles in which log lines may be written, with their names and formats. -/
def lineStyles : String :=
  let style (mark name format : String) : String :=
    "'" ++ mark ++ "': (<class 'logging." ++ name ++ "'>, '" ++ format ++ "')"
  let braced := "\x7blevelname\x7d:\x7bname\x7d:\x7bmessage\x7d"
  let template := "$\x7blevelname\x7d:$\x7bname\x7d:$\x7bmessage\x7d"
  let styles := [style "%" "PercentStyle" lineFormat, style "\x7b" "StrFormatStyle" braced,
    style "$" "StringTemplateStyle" template]
  "\x7b" ++ ", ".intercalate styles ++ "\x7d"

/-- The lowest rank that is shown under a log level; that of warnings if the level is unknown. The
names of the line format and of its styles are no levels at all. -/
def threshold (level : String) : Except RunFault Nat :=
  if level = "BASIC_FORMAT" then .error (.unknownLevel lineFormat)
  else if level = "_STYLES" then .error (.badLevel lineStyles)
  else .ok ((levelRanks.lookup level).getD LogLevel.warning.rank)

def logLines (rank : Nat) (log : List LogEntry) : List Line :=
  (log.filter (rank ≤ ·.level.rank)).map fun e => .error e.line

namespace Invocation

/-- The invocation with some arguments in a folder that is made up of some texts. No settings stand
in the environment. -/
def ofTexts (yaml : YamlReader) (texts : List (List String × String)) (arguments : List String) :
    Invocation where
  yaml
  files := .ofTexts texts
  environment := ⟨none, none, none, none⟩
  arguments

def shownRank (inv : Invocation) (verbose : Bool) : Except RunFault Nat :=
  if verbose then .ok LogLevel.debug.rank
  else
    threshold <|
      (Settings.logLevel inv.environment (.ok Settings.shipped)).toOption.getD "WARNING"

def isStrict (inv : Invocation) (o : Options) : Bool :=
  o.strict || (Settings.isStrict inv.environment (.ok Settings.shipped)).toOption.getD false

def source (inv : Invocation) (o : Options) : ProjectSource :=
  .of inv.yaml inv.files (.ofEnvironment inv.environment) (.ofText o.project) ""

def refusal (o : Options) (time : String) (fault : LoadFault) : Line :=
  if o.json then .output (Json.write (fault.value time)) else .error ("ERROR: " ++ fault.message)

def reportLines (o : Options) (strict : Bool) (marks : Marks) (r : Report) : List Line :=
  if o.json then [.output (Json.write (r.value strict marks))] else r.lines strict o.verbose

/-- The identifier of a domain that is asked for and not registered; an empty one is not looked
up. -/
def unknownDomain? (o : Options) (r : Registry) : Option String :=
  o.domain.filter fun id => id ≠ "" && (r.domains.get? id).isNone

def checked (o : Options) (r : Registry) : Logged CheckFault Report := do
  let report ← r.report o.domain
  .write .debug .commandLine
    ("Validation finished: " ++ toString report.totalErrors ++ " error(s), "
      ++ toString report.totalWarnings ++ " warning(s)")
  return report

def runLoaded (inv : Invocation) (o : Options) (rank : Nat) (marks : Marks) (r : Registry) :
    Outcome :=
  match unknownDomain? o r with
  | some id => ⟨[.error ("ERROR: Unknown domain '" ++ id ++ "'")], .code 2⟩
  | none =>
    let run := checked o r
    let log := logLines rank run.log
    match run.result with
    | .error fault => ⟨log, .fault (.check fault)⟩
    | .ok report =>
      let strict := inv.isStrict o
      ⟨log ++ reportLines o strict marks report, .code (if report.failed strict then 1 else 0)⟩

def runProject (inv : Invocation) (o : Options) (marks : Marks) : Outcome :=
  match inv.shownRank o.verbose with
  | .error fault => ⟨[], .fault fault⟩
  | .ok rank =>
    let loading := Registry.load (inv.source o)
    let log := logLines rank loading.log
    match loading.result with
    | .error fault =>
      if fault.isExpected then ⟨log ++ [refusal o marks.time fault], .code 2⟩
      else ⟨log, .fault (.load fault)⟩
    | .ok r =>
      let rest := inv.runLoaded o rank marks r
      { rest with lines := log ++ rest.lines }

def run (inv : Invocation) (marks : Marks) : Outcome :=
  match Request.ofArguments inv.arguments with
  | .error fault => ⟨fault.lines.map .error, .code 2⟩
  | .ok .help => ⟨helpLines.map .output, .code 0⟩
  | .ok .version => ⟨[.output versionLine], .code 0⟩
  | .ok (.check o) => inv.runProject o marks

/-- The paths that a run looks at, given what stands at them. -/
def paths (inv : Invocation) : List Path :=
  match Request.ofArguments inv.arguments with
  | .ok (.check o) => (inv.source o).paths
  | _ => []

end Invocation

end FlowGate.CommandLine
