import FlowGate.CommandLine.Run
import FlowGate.Flow.Draft
import FlowGate.Yaml.Reader
import Std.Time.DateTime

/-!
# The program

Runs the command line over the files, the environment and the clock of the machine. Files are read
as the run asks for them: what is known so far says which paths it looks at.
-/

namespace FlowGate.Program

/-- What stands at a path. A folder can be opened but not read. -/
def look (path : Path) : IO FileEntry := do
  try
    return .file (← IO.FS.readBinFile path.toText).toList
  catch
    | .inappropriateType none .. => return .folder
    | .invalidArgument _ 36 _ => return .nameTooLong
    | _ => return .missing

def environment : IO Environment := do
  return {
    specsDir := ← IO.getEnv "DDDFLOW_SPECS_DIR"
    projectFile := ← IO.getEnv "DDDFLOW_PROJECT_FILE"
    strict := ← IO.getEnv "DDDFLOW_STRICT"
    logLevel := ← IO.getEnv "DDDFLOW_LOG_LEVEL" }

def currentTime : IO String := do
  let now := Std.Time.PlainDateTime.ofWallTime
    (.ofNanoseconds (← Std.Time.Timestamp.now).toNanosecondsSinceUnixEpoch)
  let moment : Moment := {
    date := ⟨now.date.year.toInt.toNat, now.date.month.val.toNat, now.date.day.val.toNat⟩
    hour := now.time.hour.val.toNat
    minute := now.time.minute.val.toNat
    second := now.time.second.val.toNat
    micro := now.time.nanosecond.val.toNat / 1000
    offset := none }
  return moment.toText "T" ++ "Z"

/-- Identifiers at random and the current time. -/
def currentMarks : IO Marks := do
  let seed := hash (← IO.getRandomBytes 8).toList
  let draw (n i : Nat) : Nat := (mixHash seed (hash (n, i))).toNat
  return { issueId := fun n => ShortId.ofDraws (draw n) 8, time := ← currentTime }

/-- The invocation with what stands at the paths that its run looks at. -/
partial def gather (env : Environment) (arguments : List String)
    (known : List (Path × FileEntry)) : IO CommandLine.Invocation := do
  let inv : CommandLine.Invocation :=
    { yaml := Yaml.read, files := fun p => (known.lookup p).getD .missing, environment := env,
      arguments }
  match inv.paths.filter fun p => (known.lookup p).isNone with
  | [] => return inv
  | unknown =>
    let found ← unknown.eraseDups.mapM fun p => return (p, ← look p)
    gather env arguments (known ++ found)

def write (line : CommandLine.Line) : IO Unit :=
  match line.channel with
  | .output => IO.println line.text
  | .errors => IO.eprintln line.text

end FlowGate.Program

open FlowGate.Program in
def main (arguments : List String) : IO UInt32 := do
  let inv ← gather (← environment) arguments []
  let outcome := inv.run (← currentMarks)
  outcome.lines.forM write
  match outcome.ending with
  | .code n => return n.toUInt32
  | .fault f =>
    IO.eprintln f.message
    return 1
