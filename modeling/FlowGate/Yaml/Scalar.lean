import FlowGate.Text.Bytes
import FlowGate.Text.Case
import FlowGate.Text.Split
import FlowGate.Value.Basic
import FlowGate.Yaml.Tag
import FlowGate.Yaml.Timestamp

/-!
# Values of scalars

What a text stands for under a tag. Underscores in numbers are dropped. An integer is binary or
hexadecimal behind its mark, octal behind a zero, and else decimal or in base sixty with colons; a
double may be in base sixty as well, of which every part is a double and every step is rounded.
-/

namespace FlowGate.Yaml

namespace Scalar

def readInt (base : Nat) (cs : List Char) : Except Fault Int :=
  (Number.readIntIn base cs).mapError fun
    | .malformed => .badInteger base (String.ofList cs)
    | .tooManyDigits count => .tooManyDigits count

def readDouble (cs : List Char) : Except Fault Double :=
  match Number.readDouble? cs with
  | some x => .ok x
  | none => .error (.badDouble (String.ofList cs))

/-- The characters of a number, of which there are some. -/
def withoutLines (s : String) : Except Fault (List Char) :=
  match s.toList.filter (· ≠ '_') with
  | [] => .error .emptyNumber
  | cs => .ok cs

def unsignedInt : List Char → Except Fault Int
  | [] => .error .emptyNumber
  | ['0'] => .ok 0
  | '0' :: 'b' :: digits => readInt 2 digits
  | '0' :: 'x' :: digits => readInt 16 digits
  | '0' :: digits => readInt 8 ('0' :: digits)
  | digits =>
    if digits.contains ':' then do
      let parts ← (Text.split ':' digits).mapM (readInt 10)
      return parts.foldl (fun n part => 60 * n + part) 0
    else readInt 10 digits

def int (s : String) : Except Fault Scalar := do
  let (negative, body) := Number.sign (← withoutLines s)
  let n ← unsignedInt body
  return .int (if negative then -n else n)

/-- The sum of parts in base sixty, the last one first, in front of a number of others. -/
def sixtyDouble (sum : Double) (place : Nat) : List Double → Except Fault Double
  | [] => .ok sum
  | part :: parts =>
    match Double.ofInt? (Nat.pow 60 place) with
    | some factor => sixtyDouble (sum.add (part.mul factor)) (place + 1) parts
    | none => .error .hugeFactor

def unsignedDouble (cs : List Char) : Except Fault Double :=
  if String.ofList cs = ".inf" then .ok (.infinite false)
  else if String.ofList cs = ".nan" then .ok .nan
  else if cs.contains ':' then do
    let parts ← (Text.split ':' cs).mapM readDouble
    sixtyDouble .zero 0 parts.reverse
  else readDouble cs

def float (s : String) : Except Fault Scalar := do
  let (negative, body) := Number.sign (Text.lower (← withoutLines s))
  let x ← unsignedDouble body
  return .float (if negative then x.neg else x)

def bool (s : String) : Except Fault Scalar :=
  let word := String.ofList (Text.lower s.toList)
  if ["yes", "true", "on"].contains word then .ok (.bool true)
  else if ["no", "false", "off"].contains word then .ok (.bool false)
  else .error (.noBoolean word)

/-- The date or moment of a text. A line break at the end does not count. -/
def timestamp (s : String) : Except Fault Scalar :=
  let cs := if s.toList.getLast? = some '\n' then s.toList.dropLast else s.toList
  match Timestamp.ofText? cs with
  | some (.date d) => (d.check.map .date).mapError .calendar
  | some (.moment m) => (m.check.map .moment).mapError .calendar
  | none => .error .noCalendar

def binary (s : String) : Except Fault Scalar :=
  if s.toList.all (·.toNat < 0x80) then
    match Text.bytes? s.toList with
    | some bytes => .ok (.sealed .bytes (Text.bytesLiteral bytes) [])
    | none => .error .construction
  else .error .construction

end Scalar

/-- What a text stands for under a tag of scalars. -/
def Tag.read : Tag → String → Except Fault Scalar
  | null, _ => .ok .null
  | bool, s => Scalar.bool s
  | int, s => Scalar.int s
  | float, s => Scalar.float s
  | binary, s => Scalar.binary s
  | timestamp, s => Scalar.timestamp s
  | str, s => .ok (.str s)
  | _, _ => .error .construction

end FlowGate.Yaml
