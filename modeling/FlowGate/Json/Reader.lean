import FlowGate.Number.Reading
import FlowGate.Text.Codes
import FlowGate.Value.Basic

/-!
# Reading JSON

`Json.read` reads one JSON text. A number without point and exponent is an integer of at most
`Number.digitLimit` digits; the words `NaN`, `Infinity` and `-Infinity` are numbers too. A repeated
key keeps its first place and its last value. Of two steps in a row one consumes a character, so
twice the length of the text bounds the number of steps.
-/

namespace FlowGate.Json

inductive ReadFault where
  | malformed
  | tooManyDigits (count : Nat)
  deriving DecidableEq, Repr

def isSpace (c : Char) : Bool := c = ' ' || c = '\t' || c = '\n' || c = '\r'

def skipSpace (cs : List Char) : List Char := cs.dropWhile isSpace

def hex4? : List Char → Option (Nat × List Char)
  | a :: b :: c :: d :: rest => do
    let a ← Text.hexValue? a
    let b ← Text.hexValue? b
    let c ← Text.hexValue? c
    let d ← Text.hexValue? d
    return (((a * 16 + b) * 16 + c) * 16 + d, rest)
  | _ => none

/-- The character of an escape with a code, where two escapes may make up one character. -/
def unicodeEscape? (cs : List Char) : Option (Char × List Char) := do
  let (high, rest) ← hex4? cs
  match rest with
  | '\\' :: 'u' :: more =>
    if Text.isHighSurrogate high then
      let (low, after) ← hex4? more
      if Text.isLowSurrogate low then return (Text.ofSurrogates high low, after)
    return (Text.ofCode high, rest)
  | _ => return (Text.ofCode high, rest)

def letterEscape? : Char → Option Char
  | '"' => some '"'
  | '\\' => some '\\'
  | '/' => some '/'
  | 'b' => some '\x08'
  | 'f' => some '\x0c'
  | 'n' => some '\n'
  | 'r' => some '\r'
  | 't' => some '\t'
  | _ => none

/-- The rest of a string after its opening quote. -/
def readString : Nat → List Char → List Char → Except ReadFault (String × List Char)
  | 0, _, _ => .error .malformed
  | fuel + 1, acc, cs =>
    match cs with
    | [] => .error .malformed
    | '"' :: rest => .ok (String.ofList acc.reverse, rest)
    | '\\' :: 'u' :: rest =>
      match unicodeEscape? rest with
      | some (c, rest) => readString fuel (c :: acc) rest
      | none => .error .malformed
    | '\\' :: e :: rest =>
      match letterEscape? e with
      | some c => readString fuel (c :: acc) rest
      | none => .error .malformed
    | c :: rest =>
      if c = '\\' || c.toNat < 0x20 then .error .malformed else readString fuel (c :: acc) rest

def digitsOf (cs : List Char) : List Nat :=
  (cs.takeWhile Char.isDigit).map fun c => c.toNat - '0'.toNat

def fractionOf : List Char → List Nat × List Char
  | '.' :: rest =>
    if (digitsOf rest).isEmpty then ([], '.' :: rest)
    else (digitsOf rest, rest.dropWhile Char.isDigit)
  | cs => ([], cs)

def exponentOf : List Char → Option Int × List Char
  | e :: rest =>
    if e = 'e' || e = 'E' then
      let (negative, body) := Number.sign rest
      if (digitsOf body).isEmpty then (none, e :: rest)
      else
        let n := Number.ofDigits (digitsOf body)
        (some (if negative then -(n : Int) else n), body.dropWhile Char.isDigit)
    else (none, e :: rest)
  | [] => (none, [])

def readNumber (negative : Bool) (cs : List Char) : Except ReadFault (Value × List Char) :=
  let whole := if cs.head? = some '0' then [0] else digitsOf cs
  if whole.isEmpty then .error .malformed
  else
    let (fraction, rest) := fractionOf (cs.drop whole.length)
    let (power, rest) := exponentOf rest
    if fraction.isEmpty && power.isNone then
      if Number.digitLimit < whole.length then .error (.tooManyDigits whole.length)
      else
        let n := Number.ofDigits whole
        .ok (.int (if negative then -(n : Int) else n), rest)
    else
      .ok (.float (Double.ofDecimal negative (Number.ofDigits (whole ++ fraction))
        (power.getD 0 - fraction.length)), rest)

/-- A word that stands for a value. -/
def words : List (List Char × Value) :=
  [("null".toList, .null), ("true".toList, .bool true), ("false".toList, .bool false),
    ("NaN".toList, .float .nan), ("Infinity".toList, .float (.infinite false)),
    ("-Infinity".toList, .float (.infinite true))]

def readWord? (cs : List Char) : Option (Value × List Char) :=
  (words.find? fun w => w.1.isPrefixOf cs).map fun w => (w.2, cs.drop w.1.length)

mutual

/-- One value, after skipped space. -/
def readValue : Nat → List Char → Except ReadFault (Value × List Char)
  | 0, _ => .error .malformed
  | fuel + 1, cs =>
    match cs with
    | '"' :: rest => do
      let (s, rest) ← readString fuel [] rest
      return (.str s, rest)
    | '[' :: rest =>
      match skipSpace rest with
      | ']' :: after => .ok (.list [], after)
      | rest => readItems fuel [] rest
    | '\x7b' :: rest =>
      match skipSpace rest with
      | '\x7d' :: after => .ok (.map [], after)
      | rest => readMembers fuel [] rest
    | cs =>
      match readWord? cs with
      | some found => .ok found
      | none =>
        match cs with
        | '-' :: rest => readNumber true rest
        | cs => readNumber false cs

/-- The items of a list up to its bracket, in reverse. -/
def readItems : Nat → List Value → List Char → Except ReadFault (Value × List Char)
  | 0, _, _ => .error .malformed
  | fuel + 1, acc, cs => do
    let (v, rest) ← readValue fuel cs
    match skipSpace rest with
    | ',' :: rest => readItems fuel (v :: acc) (skipSpace rest)
    | ']' :: rest => return (.list (v :: acc).reverse, rest)
    | _ => .error .malformed

/-- The members of a mapping up to its brace, in reverse. -/
def readMembers : Nat → List (Scalar × Value) → List Char → Except ReadFault (Value × List Char)
  | 0, _, _ => .error .malformed
  | fuel + 1, acc, cs =>
    match cs with
    | '"' :: rest => do
      let (key, rest) ← readString fuel [] rest
      match skipSpace rest with
      | ':' :: rest =>
        let (v, rest) ← readValue fuel (skipSpace rest)
        match skipSpace rest with
        | ',' :: rest => readMembers fuel ((.str key, v) :: acc) (skipSpace rest)
        | '\x7d' :: rest =>
          return (.map (Entries.ofList ((.str key, v) :: acc).reverse), rest)
        | _ => .error .malformed
      | _ => .error .malformed
    | _ => .error .malformed

end

def read (cs : List Char) : Except ReadFault Value := do
  let (v, rest) ← readValue (2 * cs.length + 2) (skipSpace cs)
  if (skipSpace rest).isEmpty then return v else .error .malformed

end FlowGate.Json
