import FlowGate.Text.Digit
import FlowGate.Text.Split
import FlowGate.Yaml.Tag
import FlowGate.Yaml.Timestamp

/-!
# Forms of plain scalars

A plain scalar stands for null, a boolean, a number, a date or a moment if it has the form of one,
and for its text otherwise. Integers may be binary, octal (after a zero), hexadecimal, decimal or in
base sixty with colons; a double needs a point. A line break at the end does not count.
-/

namespace FlowGate.Yaml.Form

/-- The words for null, apart from the empty text. -/
def isNull (s : String) : Bool := ["~", "null", "Null", "NULL"].contains s

def isBool (s : String) : Bool :=
  ["yes", "Yes", "YES", "no", "No", "NO", "true", "True", "TRUE", "false", "False", "FALSE", "on",
    "On", "ON", "off", "Off", "OFF"].contains s

/-- The text without a sign in front. -/
def unsigned (cs : List Char) : List Char := (Number.sign cs).2

/-- Whether a character is a digit of a base or the line between digits. -/
def isDigitOrLine (base : Nat) (c : Char) : Bool :=
  c = '_' || (Text.hexValue? c).any (· < base)

/-- Whether a text is digits of a base and lines between them, at least one of both. -/
def isRun (base : Nat) (cs : List Char) : Bool := !cs.isEmpty && cs.all (isDigitOrLine base)

def isNumber (cs : List Char) : Bool := (cs.head?.any Char.isDigit) && isRun 10 cs

def isSixtieth : List Char → Bool
  | [d] => d.isDigit
  | [t, d] => '0' ≤ t && t ≤ '5' && d.isDigit
  | _ => false

def isSixties (cs : List Char) : Bool :=
  match Text.split ':' cs with
  | first :: second :: rest => isNumber first && (second :: rest).all isSixtieth
  | _ => false

def isInt (cs : List Char) : Bool :=
  match unsigned cs with
  | ['0'] => true
  | '0' :: 'b' :: digits => isRun 2 digits
  | '0' :: 'x' :: digits => isRun 16 digits
  | '0' :: digits => isRun 8 digits
  | digits => isNumber digits || isSixties digits

/-- Whether a text is an exponent, which needs its sign, or empty. -/
def isExponent : List Char → Bool
  | [] => true
  | e :: s :: digits =>
    (e = 'e' || e = 'E') && (s = '+' || s = '-') && !digits.isEmpty && digits.all Char.isDigit
  | _ => false

/-- Whether a text is a fraction without its point, and perhaps an exponent. -/
def isFraction (cs : List Char) : Bool := isExponent (cs.dropWhile (isDigitOrLine 10))

def isFloat (cs : List Char) : Bool :=
  let body := unsigned cs
  match Text.cut '.' body with
  | ([], some rest) =>
    ["inf", "Inf", "INF"].contains (String.ofList rest)
      || cs.length = body.length
        && ((rest.head?.any Char.isDigit && isFraction rest)
          || ["nan", "NaN", "NAN"].contains (String.ofList rest))
  | (whole, some rest) =>
    (isNumber whole && isFraction rest) || (isSixties whole && rest.all (isDigitOrLine 10))
  | _ => false

end FlowGate.Yaml.Form

namespace FlowGate.Yaml

/-- What a plain scalar stands for. -/
def Tag.ofPlain (s : String) : Tag :=
  if s = "" then null
  else
    let cs := if s.toList.getLast? = some '\n' then s.toList.dropLast else s.toList
    let s := String.ofList cs
    if Form.isBool s then bool
    else if Form.isFloat cs then float
    else if Form.isInt cs then int
    else if s = "<<" then merge
    else if Form.isNull s then null
    else if Timestamp.isForm cs then timestamp
    else if s = "=" then default
    else if ["!", "&", "*"].contains s then other (beginning ++ "yaml")
    else str

end FlowGate.Yaml
