import FlowGate.Number.Reading
import FlowGate.Text.Blank
import FlowGate.Value.Basic

/-!
# Values in messages

`Value.literal` writes a value so that its type can be seen: texts are quoted, lists and mappings
bracketed. `Value.text` writes a text as it stands and everything else as its literal, dates and
moments in their plain form. A value that `isTooLong` holds an integer of so many digits that
nothing should write it.
-/

namespace FlowGate

def Scalar.typeName : Scalar → String
  | .null => "NoneType"
  | .bool _ => "bool"
  | .int _ => "int"
  | .float _ => "float"
  | .str _ => "str"
  | .date _ => "date"
  | .moment _ => "datetime"
  | .sealed .bytes .. => "bytes"
  | .sealed .set .. => "set"
  | .sealed .pair .. => "tuple"
  | .sealed .list .. => "list"
  | .sealed .map .. => "dict"

def Value.typeName : Value → String
  | .scalar s => s.typeName
  | .list _ => "list"
  | .map _ => "dict"

/-- The name of the type of a value with that of its family in front. -/
def Value.className : Value → String
  | .scalar (.date _) => "datetime.date"
  | .scalar (.moment _) => "datetime.datetime"
  | v => v.typeName

/-- The literal of an offset from universal time in minutes. -/
def Moment.offsetLiteral (minutes : Int) : String :=
  if minutes = 0 then "datetime.timezone.utc"
  else "datetime.timezone(" ++ durationLiteral minutes ++ ")"

def Date.literal (d : Date) : String :=
  "datetime.date(" ++ ", ".intercalate ([d.year, d.month, d.day].map toString) ++ ")"

/-- The literal of a moment; seconds and microseconds are left out where they are zero. -/
def Moment.literal (m : Moment) : String :=
  let fixed := [m.date.year, m.date.month, m.date.day, m.hour, m.minute]
  let fine :=
    if m.micro ≠ 0 then [m.second, m.micro] else if m.second ≠ 0 then [m.second] else []
  let zone := (m.offset.map fun minutes => "tzinfo=" ++ offsetLiteral minutes).toList
  "datetime.datetime(" ++ ", ".intercalate ((fixed ++ fine).map toString ++ zone) ++ ")"

def Scalar.literal : Scalar → String
  | .null => "None"
  | .bool true => "True"
  | .bool false => "False"
  | .int n => toString n
  | .float x => x.toText
  | .str s => Text.quoted s
  | .date d => d.literal
  | .moment m => m.literal
  | .sealed _ written _ => written

mutual

def Value.literal : Value → String
  | .scalar s => s.literal
  | .list items => "[" ++ ", ".intercalate (Value.literals items) ++ "]"
  | .map entries => "\x7b" ++ ", ".intercalate (Value.entryLiterals entries) ++ "\x7d"
termination_by structural v => v

def Value.literals : List Value → List String
  | [] => []
  | v :: vs => v.literal :: Value.literals vs
termination_by structural vs => vs

def Value.entryLiterals : List (Scalar × Value) → List String
  | [] => []
  | (k, v) :: es => (k.literal ++ ": " ++ v.literal) :: Value.entryLiterals es
termination_by structural es => es

end

def Scalar.text : Scalar → String
  | .str s => s
  | .date d => d.toText
  | .moment m => m.toText " "
  | s => s.literal

def Value.text : Value → String
  | .scalar s => s.text
  | v => v.literal

/-- Whether a value is null or a text of blanks only. -/
def Value.isBlank : Value → Bool
  | .null => true
  | v => v.text.toList.all Text.isBlank

def Scalar.ints : Scalar → List Int
  | .int n => [n]
  | .sealed _ _ ints => ints
  | _ => []

mutual

def Value.ints : Value → List Int
  | .scalar s => s.ints
  | .list items => Value.itemInts items
  | .map entries => Value.entryInts entries
termination_by structural v => v

def Value.itemInts : List Value → List Int
  | [] => []
  | v :: vs => v.ints ++ Value.itemInts vs
termination_by structural vs => vs

def Value.entryInts : List (Scalar × Value) → List Int
  | [] => []
  | (k, v) :: es => k.ints ++ v.ints ++ Value.entryInts es
termination_by structural es => es

end

/-- Whether a value holds an integer of too many digits. -/
def Value.isTooLong (v : Value) : Bool := v.ints.any Number.isTooLong

end FlowGate
