import FlowGate.Project.Document
import FlowGate.Record.Reading

/-!
# Settings

Each setting comes from the environment, else from the settings document, else from a default. The
document is looked at only where the environment does not decide.
-/

namespace FlowGate

/-- The variables of the environment that are settings. -/
structure Environment where
  specsDir : Option String
  projectFile : Option String
  strict : Option String
  logLevel : Option String

inductive SettingsFault where
  | file (fault : FileFault)
  | notMapping (v : Value)
  | tooLong
  deriving DecidableEq, Repr

def SettingsFault.message : SettingsFault → String
  | .file fault => fault.message
  | .notMapping v => "'" ++ v.className ++ "' object has no attribute 'get'"
  | .tooLong => Number.tooLong

namespace Settings

/-- The settings document that comes with the program. -/
def shipped : Value :=
  .map [(.str "version", .str "1.0"),
    (.str "project", .map [(.str "project_file", .str "ddd-project.json"),
      (.str "specs_dir", .str "specs")]),
    (.str "cli", .map [(.str "strict", .bool false), (.str "log_level", .str "WARNING")])]

/-- The settings document from its file; without a file the one that comes with the program. -/
def ofFile (yaml : YamlReader) (bytes : Option (List UInt8)) : Except FileFault Value :=
  match bytes with
  | some bytes => readDocument yaml bytes
  | none => .ok shipped

/-- A part of the settings document; what is not a mapping has no entries. -/
def part (document : Except FileFault Value) (name : String) : Except SettingsFault Entries := do
  match ← document.mapError .file with
  | .map es => match Entries.field es name with
    | .map part => return part
    | _ => return []
  | v => throw (.notMapping v)

/-- A variable that is set and not empty. -/
def given? (found? : Option String) : Option String := found?.filter (· ≠ "")

def projectFile (env : Environment) (document : Except FileFault Value) :
    Except SettingsFault Value :=
  match given? env.projectFile with
  | some s => .ok (.str s)
  | none => do
    let project ← part document "project"
    return (Entries.field project "project_file").orElse (.str "ddd-project.json")

def specsDir (env : Environment) (document : Except FileFault Value) : Except SettingsFault Value :=
  match given? env.specsDir with
  | some s => .ok (.str s)
  | none => do
    let project ← part document "project"
    return (Entries.field project "specs_dir").orElse (.str "specs")

/-- Whether warnings fail a run. A variable that is set decides, even if it is empty. -/
def isStrict (env : Environment) (document : Except FileFault Value) : Except SettingsFault Bool :=
  match env.strict with
  | some s => .ok (wordBoolean? s == some true)
  | none => do return (Entries.field (← part document "cli") "strict").isGiven

def writtenLogLevel (env : Environment) (document : Except FileFault Value) :
    Except SettingsFault String :=
  match given? env.logLevel with
  | some s => .ok s
  | none => do
    let v := (Entries.field (← part document "cli") "log_level").orElse (.str "WARNING")
    if v.isTooLong then throw .tooLong
    return v.text

/-- The name of the log level, in capitals. -/
def logLevel (env : Environment) (document : Except FileFault Value) :
    Except SettingsFault String :=
  (writtenLogLevel env document).map fun name => String.ofList (Text.upper name.toList)

end Settings

end FlowGate
