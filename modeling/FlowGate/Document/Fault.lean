import FlowGate.Value.Text

/-!
# Faults of documents

A fault is the cause for which a document is refused. All but `tooLarge` say that the document is
malformed; `tooLarge` is an integer that no double comes near to, `tooLong` one that has too many
digits to be turned into a text. `Fault.message` is the one place for the wording, and
`Fault.inField` names the record and key at which a malformed field stands. A fault about a value
that is too long is worded as if it were `tooLong`.
-/

namespace FlowGate

inductive Fault where
  | notInteger (v : Value)
  | notNumber (v : Value)
  | notBoolean (v : Value)
  | notList (v : Value)
  | partsInList
  | notEntries (record : String) (v : Value)
  | notRecord (record : String) (v : Value)
  | inField (record key : String) (cause : Fault)
  | tooLarge
  | tooLong
  | notNode (v : Value)
  | nodeWithoutId (v : Value)
  | unknownKind (id kind : Value)
  | badPosition (id v : Value)
  | badNodeList (key : String) (v : Value)
  | connectionWithoutTarget (v : Value)
  | notFlow (v : Value)
  | headerMissing
  | badMetadata (id : Value)
  | notDomain (v : Value)
  | badDomainList (key : String) (v : Value)
  | flowEntryWithoutId (v : Value)
  | wiringWithoutEvent (v : Value)
  deriving DecidableEq, Repr

namespace Fault

def isMalformed : Fault → Bool
  | .tooLarge => false
  | .inField _ _ cause => cause.isMalformed
  | _ => true

/-- The fault of a field of a record: a malformed field is located, another fault passes on. -/
def located (record key : String) (f : Fault) : Fault :=
  if f.isMalformed then .inField record key f else f

/-- The wording of a fault about some values. -/
def about (vs : List Value) (wording : String) : String :=
  if vs.any Value.isTooLong then Number.tooLong else wording

def message : Fault → String
  | .notInteger v => about [v] ("expected an integer, got " ++ v.literal)
  | .notNumber v => about [v] ("expected a number, got " ++ v.literal)
  | .notBoolean v => about [v] ("expected a boolean, got " ++ v.literal)
  | .notList v => "expected a list, got " ++ v.typeName
  | .partsInList => "expected a list of scalar values"
  | .notEntries record v => "Expected a list for " ++ record ++ " entries, got " ++ v.typeName
  | .notRecord record v => "Expected a mapping for " ++ record ++ ", got " ++ v.typeName
  | .inField record key cause => record ++ "." ++ key ++ ": " ++ cause.message
  | .tooLarge => "int too large to convert to float"
  | .tooLong => Number.tooLong
  | .notNode v => "Expected a mapping for a flow node, got " ++ v.typeName
  | .nodeWithoutId v => about [v] ("Flow node is missing an id: " ++ v.literal)
  | .unknownKind id kind =>
    about [id, kind] ("Node '" ++ id.text ++ "' has unknown type " ++ kind.literal)
  | .badPosition id v =>
    about [id] ("Node '" ++ id.text ++ "' position must be a mapping, got " ++ v.typeName)
  | .badNodeList key v => "'" ++ key ++ "' must be a list, got " ++ v.typeName
  | .connectionWithoutTarget v => about [v] ("Connection is missing targetNodeId: " ++ v.literal)
  | .notFlow v => "Expected a mapping for a flow document, got " ++ v.typeName
  | .headerMissing => "Flow document is missing its 'flow' header or flow id"
  | .badMetadata id => about [id] ("Flow '" ++ id.text ++ "' metadata must be a mapping")
  | .notDomain v => "Expected a mapping for a domain document, got " ++ v.typeName
  | .badDomainList key v => "Domain '" ++ key ++ "' must be a list, got " ++ v.typeName
  | .flowEntryWithoutId v => about [v] ("Domain flow entry is missing 'id': " ++ v.literal)
  | .wiringWithoutEvent v => about [v] ("Event wiring entry is missing 'event': " ++ v.literal)

@[simp] theorem isMalformed_located (record key : String) (f : Fault) :
    (located record key f).isMalformed = f.isMalformed := by
  unfold located
  cases h : f.isMalformed <;> simp [isMalformed, h]

end Fault

/-- The text of a value, which one that is too long does not have. -/
def readText (v : Value) : Except Fault String :=
  if v.isTooLong then .error .tooLong else .ok v.text

end FlowGate
