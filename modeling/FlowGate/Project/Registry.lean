import FlowGate.Domain
import FlowGate.Json.Reader
import FlowGate.Log
import FlowGate.Project.Files
import FlowGate.Settings
import FlowGate.Table

/-!
# The registry of a project

A project is a folder with a manifest, which names its domains. Each domain has a folder of its own
below the specifications, with a domain document and one file for each flow that it registers.

`Registry.load` goes through the entries of the manifest in order. A domain document that is missing
or cannot be read is replaced by an empty domain, and a flow file that is missing is skipped; a flow
file that cannot be read ends the loading. Of several files for one key the first is kept; of
several entries for one domain the last gives the document.
-/

namespace FlowGate

/-- The names by which a project is laid out. -/
structure Layout where
  manifest : String
  specs : String

/-- The layout under an environment and the settings that come with the program. -/
def Layout.ofEnvironment (env : Environment) : Layout :=
  let text (v : Except SettingsFault Value) (default : String) : String :=
    match v with
    | .ok v => v.text
    | .error _ => default
  { manifest := text (Settings.projectFile env (.ok Settings.shipped)) "ddd-project.json"
    specs := text (Settings.specsDir env (.ok Settings.shipped)) "specs" }

inductive LoadFault where
  | noFolder (path : Path)
  | noManifest (path : Path)
  | isFolder (path : Path)
  | nameTooLong (path : Path)
  | encoding (fault : Utf8.Fault)
  | badManifest (path : Path)
  | tooManyDigits (count : Nat)
  | notIterable (v : Value)
  | nameNotText (v : Value)
  | badDomain (cause : FileFault)
  | badFlow (path : Path) (cause : FileFault)
  deriving DecidableEq, Repr

namespace LoadFault

/-- Whether the fault is reported as one of the project; others are not expected. -/
def isExpected : LoadFault → Bool
  | isFolder _ | nameTooLong _ | notIterable _ | nameNotText _ | badDomain _ => false
  | badFlow _ cause => cause.isExpected
  | _ => true

def message : LoadFault → String
  | noFolder path => "Project directory not found: " ++ path.toText
  | noManifest path => "Project manifest not found: " ++ path.toText
  | isFolder path => "[Errno 21] Is a directory: " ++ Text.quoted path.toText
  | nameTooLong path => "[Errno 36] File name too long: " ++ Text.quoted path.toText
  | encoding fault => fault.message
  | badManifest path => "Invalid JSON in project manifest " ++ path.toText ++ ": <json error>"
  | tooManyDigits count => Number.tooManyDigits count
  | notIterable v => "'" ++ v.typeName ++ "' object is not iterable"
  | nameNotText v => "'" ++ v.typeName ++ "' object has no attribute 'lower'"
  | badDomain cause => cause.message
  | badFlow path cause =>
    if cause.isExpected then
      (if cause.isBroken then "Invalid YAML in flow " else "Malformed flow ") ++ path.toText ++ ": "
        ++ cause.message
    else cause.message

end LoadFault

structure Registry where
  domains : Table Domain
  flows : Table Flow
  /-- The keys of the flows that were loaded for each domain. -/
  flowKeys : Table (List String)

/-- Where a project is loaded from, and by which reader of YAML. -/
structure ProjectSource where
  yaml : YamlReader
  files : Path → FileEntry
  layout : Layout
  root : Path
  specs : Path

def warnLoading (message : String) : Logged LoadFault Unit := .write .warning .loader message

namespace Manifest

def read (path : Path) (bytes : List UInt8) : Except LoadFault Value := do
  let cs ← (Utf8.decode bytes).mapError .encoding
  if cs.head? = some '\ufeff' then throw (.badManifest path)
  (Json.read cs).mapError fun
    | .malformed => .badManifest path
    | .tooManyDigits count => .tooManyDigits count

/-- The entries for domains in a manifest. A text counts as the list of its characters, a mapping as
the list of its keys. -/
def entries : Value → Except LoadFault (List Value)
  | .map es =>
    match (Entries.field es "domains").orElse (.list []) with
    | .list items => .ok items
    | .map es => .ok (es.map fun e => .scalar e.1)
    | .str s => .ok (s.toList.map fun c => .str (String.singleton c))
    | v => .error (.notIterable v)
  | _ => .ok []

/-- The name and description of the domain of an entry, if it has a name. -/
def named? : Value → Option (Value × Value)
  | .map es =>
    let name := Entries.field es "name"
    if name.isGiven then some (name, Entries.field es "description") else none
  | _ => none

end Manifest

namespace ProjectSource

def domainFolder (src : ProjectSource) (domainId : String) : Path :=
  (src.specs.join "domains").join domainId

def domainPath (src : ProjectSource) (domainId : String) : Path :=
  (src.domainFolder domainId).join "domain.yaml"

def flowPath (src : ProjectSource) (domainId flowId : String) : Path :=
  ((src.domainFolder domainId).join "flows").join (flowId ++ ".yaml")

def manifestPath (src : ProjectSource) : Path := src.root.join src.layout.manifest

def loadManifest (src : ProjectSource) : Except LoadFault (List Value) := do
  let path := src.manifestPath
  match src.files path with
  | .missing => throw (.noManifest path)
  | .folder => throw (.isFolder path)
  | .nameTooLong => throw (.nameTooLong path)
  | .file bytes => Manifest.entries (← Manifest.read path bytes)

/-- The document of a domain, an empty domain if it cannot be read. -/
def loadDomain (src : ProjectSource) (domainId : String) (name description : Value) :
    Logged LoadFault Domain := do
  let path := src.domainPath domainId
  match src.files path with
  | .missing =>
    warnLoading ("domain.yaml missing for " ++ domainId ++ ", using an empty domain")
    return Domain.empty name description
  | .folder => .fail (.isFolder path)
  | .nameTooLong => .fail (.nameTooLong path)
  | .file bytes =>
    match readDocumentAs src.yaml Domain.read bytes with
    | .ok d => return d
    | .error fault =>
      if !fault.isExpected then .fail (.badDomain fault)
      warnLoading
        ("Could not parse " ++ path.toText ++ ", using an empty domain: " ++ fault.message)
      return Domain.empty name description

/-- A flow of a domain, nothing if its file is missing. -/
def loadFlow (src : ProjectSource) (domainId flowId : String) :
    Logged LoadFault (Option Flow) := do
  let path := src.flowPath domainId flowId
  match src.files path with
  | .missing =>
    warnLoading ("Flow file missing for " ++ domainId ++ "/" ++ flowId ++ ": " ++ path.toText)
    return none
  | .folder => .fail (.isFolder path)
  | .nameTooLong => .fail (.nameTooLong path)
  | .file bytes =>
    let v ← .lift ((readDocument src.yaml bytes).mapError (.badFlow path))
    let f ← (Flow.readLogged v).mapError fun fault => .badFlow path (.content fault)
    return some { f with domain := .str domainId }

/-- The paths that loading a domain looks at. -/
def domainPaths (src : ProjectSource) (domainId : String) : List Path :=
  let flows := match (src.loadDomain domainId .null .null).result with
    | .ok d => d.flows
    | .error _ => []
  src.domainPath domainId :: flows.map fun entry => src.flowPath domainId entry.id

/-- The paths that loading the project looks at, given what stands at them. -/
def paths (src : ProjectSource) : List Path :=
  let entries := src.loadManifest.toOption.getD []
  src.root :: src.manifestPath :: (entries.filterMap Manifest.named?).flatMap fun
    | (.str name, _) => src.domainPaths (Domain.idOfName name)
    | _ => []

end ProjectSource

namespace Registry

def empty : Registry := ⟨.empty, .empty, .empty⟩

def key (domainId flowId : String) : String := domainId ++ "/" ++ flowId

/-- The registry after a flow that a domain registers was loaded, unless its key is taken or its
file is missing. -/
def addFlow (src : ProjectSource) (domainId : String) (r : Registry) (entry : FlowEntry) :
    Logged LoadFault Registry := do
  let k := key domainId entry.id
  if r.flows.contains k then return r
  else
    match ← src.loadFlow domainId entry.id with
    | none => return r
    | some f =>
      let keys := (r.flowKeys.get? domainId).getD []
      return { r with flows := r.flows.put k f, flowKeys := r.flowKeys.put domainId (keys ++ [k]) }

def addDomain (src : ProjectSource) (r : Registry) (domainId : String) (name description : Value) :
    Logged LoadFault Registry := do
  let d ← src.loadDomain domainId name description
  let r := { r with
    domains := r.domains.put domainId d
    flowKeys := r.flowKeys.put domainId [] }
  d.flows.foldlM (addFlow src domainId) r

/-- The registry after an entry of the manifest was loaded; one without a name is skipped. -/
def addEntry (src : ProjectSource) (r : Registry) (entry : Value) : Logged LoadFault Registry := do
  match Manifest.named? entry with
  | none =>
    warnLoading ("Skipping domain entry without a name in " ++ src.layout.manifest)
    return r
  | some (.str name, description) =>
    addDomain src r (Domain.idOfName name) (.str name) description
  | some (name, _) => .fail (.nameNotText name)

def load (src : ProjectSource) : Logged LoadFault Registry := do
  match src.files src.root with
  | .missing | .file _ => .fail (.noFolder src.root)
  | .nameTooLong => .fail (.nameTooLong src.root)
  | .folder =>
    let entries ← .lift src.loadManifest
    let r ← entries.foldlM (addEntry src) empty
    .write .debug .loader
      ("Loaded project " ++ src.root.toText ++ ": " ++ toString r.domains.size ++ " domain(s), "
        ++ toString r.flows.size ++ " flow(s)")
    return r

def flow? (r : Registry) (domainId flowId : String) : Option Flow :=
  r.flows.get? (key domainId flowId)

def keysOf (r : Registry) (domainId : String) : List String :=
  (r.flowKeys.get? domainId).getD []

def flowsOf (r : Registry) (domainId : String) : List Flow :=
  (r.keysOf domainId).filterMap r.flows.get?

end Registry

/-- The source of the project in a folder; an empty name for the folder of the specifications stands
for the one of the layout. -/
def ProjectSource.of (yaml : YamlReader) (files : Path → FileEntry) (layout : Layout)
    (root : Path) (specsDir : String) : ProjectSource where
  yaml
  files
  layout
  root
  specs := root.join (if specsDir = "" then layout.specs else specsDir)

/-- The project with the usual layout in a folder that is made up of some texts. -/
def ProjectSource.ofTexts (yaml : YamlReader) (texts : List (List String × String)) :
    ProjectSource where
  yaml
  files := .ofTexts texts
  layout := ⟨"ddd-project.json", "specs"⟩
  root := ⟨"", []⟩
  specs := ⟨"", ["specs"]⟩

end FlowGate
