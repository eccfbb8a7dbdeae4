import FlowGate.Flow.Reading
import FlowGate.Table

/-!
# Domains

A domain groups flows and declares the events that it publishes to and consumes from other domains.
`Domain.read` takes a domain from the mapping that stores it; `Domain.idOfName` derives the
identifier under which it is stored from its display name.
-/

namespace FlowGate

structure FlowEntry where
  id : String
  name : Value
  kind : Option FlowKind
  description : Value
  deriving DecidableEq, Repr

structure Wiring where
  event : String
  schema : Value
  fromFlow : Value
  handledByFlow : Value
  description : Value
  deriving DecidableEq, Repr

/-- A domain; the layout belongs to the map of domains and is kept as it is. -/
structure Domain where
  name : Value
  description : Value
  flows : List FlowEntry
  publishes : List Wiring
  consumes : List Wiring
  layout : Value
  deriving DecidableEq, Repr

def Wiring.read : Value → Except Fault Wiring
  | .map es =>
    match Entries.get? es "event" with
    | some event => (readText event).map fun event =>
      { event
        schema := Entries.field es "schema"
        fromFlow := Entries.field es "from_flow"
        handledByFlow := Entries.field es "handled_by_flow"
        description := Entries.field es "description" }
    | none => .error (.wiringWithoutEvent (.map es))
  | v => .error (.wiringWithoutEvent v)

def FlowEntry.read : Value → Except Fault FlowEntry
  | .map es =>
    match Entries.get? es "id" with
    | some id => (readText id).map fun id =>
      { id
        name := (Entries.get? es "name").getD (.str id)
        kind := FlowKind.ofValue? (Entries.field es "type")
        description := Entries.field es "description" }
    | none => .error (.flowEntryWithoutId (.map es))
  | v => .error (.flowEntryWithoutId v)

namespace Domain

/-- The domain that stands in for one that cannot be read. -/
def empty (name description : Value) : Domain :=
  { name, description, flows := [], publishes := [], consumes := [], layout := .map [] }

def readList {α : Type} (es : Entries) (key : String) (read : Value → Except Fault α) :
    Except Fault (List α) := do
  (← (Entries.field es key).items (.badDomainList key)).mapM read

def read : Value → Except Fault Domain
  | .map es => do
    let flows ← readList es "flows" FlowEntry.read
    let publishes ← readList es "publishes_events" Wiring.read
    let consumes ← readList es "consumes_events" Wiring.read
    return {
      name := (Entries.get? es "name").getD (.str "")
      description := Entries.field es "description"
      flows
      publishes
      consumes
      layout := (Entries.field es "layout").orElse (.map []) }
  | v => .error (.notDomain v)

def readTable (es : Entries) : Except Fault (Table Domain) := do
  return .ofList (← es.mapM fun e => do return (e.1.text, ← read e.2))

/-- The identifier of the domain with a display name: small letters, a dash for each run of
blanks. -/
def idOfName (name : String) : String :=
  String.ofList (Text.joinBlanks '-' (Text.lower name.toList))

theorem idOfName_ne_empty {name : String} (h : name ≠ "") : idOfName name ≠ "" := by
  have hname : name.toList ≠ [] := fun e => h (String.toList_eq_nil_iff.1 e)
  rw [idOfName, Ne, String.ofList_eq_empty_iff]
  exact Text.joinBlanks_ne_nil (Text.lower_ne_nil hname)

end Domain

end FlowGate
