import FlowGate.Document.Fault
import FlowGate.Number.Reading
import FlowGate.Record.Basic
import FlowGate.Text.Case

/-!
# Reading records

Each kind of field accepts its own values and some others that mean the same: an integer may be
given as an integral double or as text, a boolean as one of eight words or as 0 or 1. A key with
null counts as not given. Fields are read in the order of the schema, so the first faulty field in
that order is the one reported.
-/

namespace FlowGate

/-- An integer, from an integer, an integral double or a text. -/
def readInteger : Value → Except Fault Int
  | .int n => .ok n
  | .float x => match x.toInt? with
    | some n => .ok n
    | none => .error (.notInteger (.float x))
  | .str s => match Number.readInt? s.toList with
    | some n => .ok n
    | none => .error (.notInteger (.str s))
  | v => .error (.notInteger v)

/-- A double, from a double, an integer or a text. -/
def readNumber : Value → Except Fault Double
  | .float x => .ok x
  | .int n => match Double.ofInt? n with
    | some x => .ok x
    | none => .error .tooLarge
  | .str s => match Number.readDouble? s.toList with
    | some x => .ok x
    | none => .error (.notNumber (.str s))
  | v => .error (.notNumber v)

def trueWords : List String := ["true", "yes", "on", "1"]

def falseWords : List String := ["false", "no", "off", "0"]

/-- The boolean that a word stands for, in any letter case and between blanks. -/
def wordBoolean? (s : String) : Option Bool :=
  let word := String.ofList (Text.lower (Text.trim s.toList))
  if trueWords.contains word then some true
  else if falseWords.contains word then some false
  else none

/-- A boolean, from a boolean, a word, or 0 or 1. -/
def readBoolean : Value → Except Fault Bool
  | .bool b => .ok b
  | .str s => match wordBoolean? s with
    | some b => .ok b
    | none => .error (.notBoolean (.str s))
  | .int 0 => .ok false
  | .int 1 => .ok true
  | v => .error (.notBoolean v)

def readTexts : Value → Except Fault (List String)
  | .list items =>
    if items.all Value.isScalar then items.mapM readText else .error .partsInList
  | v => .error (.notList v)

/-- How the parts of a record are read, and how they are named in messages. -/
structure PartReader {P : Type} (Item : P → Type) where
  name : P → String
  read : (p : P) → Value → Except Fault (Item p)

namespace FieldKind

variable {P : Type} {Item : P → Type}

/-- What a field holds after a value other than null was given for it. -/
def read (parts : PartReader Item) : (k : FieldKind P) → Value → Except Fault (k.Holds Item)
  | .any, v => .ok v
  | .integer, v => (readInteger v).map (some ·)
  | .number, v => (readNumber v).map (some ·)
  | .boolean, v => (readBoolean v).map (some ·)
  | .texts, v => readTexts v
  | .one p, v => (parts.read p v).map (some ·)
  | .many p, v => match v with
    | .list items => items.mapM (parts.read p)
    | v => .error (.notEntries (parts.name p) v)

/-- What a field holds after a value was given for it; null counts as not given. -/
def readGiven (parts : PartReader Item) (k : FieldKind P) (v : Value) :
    Except Fault (k.Holds Item) :=
  if v = .null then .ok k.absent else k.read parts v

end FieldKind

variable {P : Type} {Item : P → Type}

/-- The fields of a record with a name, from the entries of a mapping. -/
def Row.read (parts : PartReader Item) (record : String) (es : Entries) :
    (fs : List (Field P)) → Except Fault (Row Item fs)
  | [] => .ok ()
  | f :: fs => do
    let x ← (f.kind.readGiven parts (Entries.field es f.key)).mapError (.located record f.key)
    let row ← Row.read parts record es fs
    return (x, row)

/-- The record of a schema from the entries of a mapping. -/
def Record.ofEntries (parts : PartReader Item) (record : String) (fs : List (Field P))
    (es : Entries) : Except Fault (Record Item fs) :=
  (Row.read parts record es fs).map fun row =>
    { row
      extra := es.filter fun e => !hasKey fs e.1
      extra_fresh := fun e h => by simpa using (List.mem_filter.1 h).2 }

/-- A record from a mapping; null counts as the empty mapping. -/
def Record.read (parts : PartReader Item) (record : String) (fs : List (Field P)) :
    Value → Except Fault (Record Item fs)
  | .null => Record.ofEntries parts record fs []
  | .map es => Record.ofEntries parts record fs es
  | v => .error (.notRecord record v)

end FlowGate
