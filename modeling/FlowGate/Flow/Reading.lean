import FlowGate.Flow.Basic
import FlowGate.Log

/-!
# Reading flows

`Node.read` and `Flow.read` take a node and a flow from the mappings that store them. What does not
count as given (null, false, zero, anything empty) is treated like a missing key in the places where
a mapping or a list is expected. The parts are read in a fixed order, and the first fault is the one
reported. A flow of unknown kind is read as a traditional one; `Flow.readLogged` warns of it.
-/

namespace FlowGate

/-- The items of a list; what does not count as given is the empty list. -/
def Value.items (v : Value) (fault : Value → Fault) : Except Fault (List Value) :=
  match v.orElse (.list []) with
  | .list items => .ok items
  | w => .error (fault w)

/-- The entries of a mapping; what does not count as given is the empty mapping. -/
def Value.entries (v : Value) (fault : Value → Fault) : Except Fault Entries :=
  match v.orElse (.map []) with
  | .map es => .ok es
  | w => .error (fault w)

def Connection.read : Value → Except Fault Connection
  | .map es =>
    let target := Entries.field es "targetNodeId"
    if target.isGiven then
      (readText target).map fun target =>
        ⟨target, Entries.field es "sourceHandle", Entries.field es "targetHandle"⟩
    else .error (.connectionWithoutTarget (.map es))
  | v => .error (.connectionWithoutTarget v)

/-- The kind that a value names. -/
def NodeKind.ofValue? : Value → Option NodeKind
  | .str s => ofName? s
  | _ => none

def Position.read (id v : Value) : Except Fault Position := do
  let es ← v.entries (.badPosition id)
  return {
    x := (Entries.get? es "x").getD Position.origin.x
    y := (Entries.get? es "y").getD Position.origin.y }

/-- Reads a node, of a kind that is used where the node names none. -/
def Node.read (defaultKind : Value) : Value → Except Fault Node
  | .map es => do
    let id := Entries.field es "id"
    if !id.isGiven then throw (.nodeWithoutId (.map es))
    let kindValue := (Entries.get? es "type").getD defaultKind
    let some kind := NodeKind.ofValue? kindValue | throw (.unknownKind id kindValue)
    let position ← Position.read id (Entries.field es "position")
    let id ← readText id
    let spec ← Spec.read kind (Entries.field es "spec")
    let label ← readText ((Entries.field es "label").orElse (.str ""))
    let connections ←
      (← (Entries.field es "connections").items (.badNodeList "connections")).mapM Connection.read
    return {
      id
      kind
      spec
      label
      position
      connections
      parent := Entries.field es "parentId" }
  | v => .error (.notNode v)

def FlowKind.ofValue? : Value → Option FlowKind
  | .str s => ofName? s
  | _ => none

/-- The header of a flow, a mapping with an identifier. -/
def Flow.header? : Value → Option Entries
  | .map es =>
    match Entries.field es "flow" with
    | .map header => if (Entries.field header "id").isGiven then some header else none
    | _ => none
  | _ => none

/-- The kind that a header names; without one a flow is traditional. -/
def Flow.kindValue (header : Entries) : Value :=
  (Entries.get? header "type").getD (.str FlowKind.traditional.name)

def Flow.unknownKind? (v : Value) : Option (Value × Value) := do
  let header ← Flow.header? v
  let kind := Flow.kindValue header
  if (FlowKind.ofValue? kind).isSome then none
  else some (Entries.field header "id", kind)

def Flow.readTrigger (v : Value) : Except Fault (Option Node) :=
  if v.isGiven then (Node.read (.str NodeKind.trigger.name) v).map some else .ok none

def Flow.read : Value → Except Fault Flow
  | .map es => do
    let some header := Flow.header? (.map es) | throw .headerMissing
    let id := Entries.field header "id"
    let trigger ← Flow.readTrigger (Entries.field es "trigger")
    let times ← (Entries.field es "metadata").entries fun _ => .badMetadata id
    let idText ← readText id
    let nodes ← (← (Entries.field es "nodes").items (.badNodeList "nodes")).mapM (Node.read .null)
    return {
      id := idText
      name := (Entries.get? header "name").getD id
      domain := (Entries.get? header "domain").getD (.str "")
      kind := (FlowKind.ofValue? (Flow.kindValue header)).getD .traditional
      trigger
      nodes
      description := Entries.field header "description"
      created := (Entries.get? times "created").getD (.str "")
      modified := (Entries.get? times "modified").getD (.str "") }
  | v => .error (.notFlow v)

def Flow.warnKind (id kind : Value) : Logged Fault Unit :=
  .write .warning .flowDocument
    ("Flow '" ++ id.text ++ "' has unknown type " ++ kind.literal ++ ", treating as traditional")

/-- Reads a flow, with a warning if its kind is unknown. -/
def Flow.readLogged (v : Value) : Logged Fault Flow := do
  match Flow.unknownKind? v with
  | some (id, kind) => Flow.warnKind id kind
  | none => pure ()
  .lift (Flow.read v)

end FlowGate
