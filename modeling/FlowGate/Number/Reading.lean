import FlowGate.Number.Double
import FlowGate.Text.Blank
import FlowGate.Text.Digit

/-!
# Reading numbers

Numbers in text may use the decimal digits of any script, and one underscore between two digits.
`readIntIn` reads an integer in a base, which may stand as a mark in front of the digits, of at most
`digitLimit` digits unless the base is a power of two; `readDouble?` reads a decimal with an
optional point and exponent, or one of the words for the infinities and not-a-number. Blanks around
the number are skipped.
-/

namespace FlowGate.Number

/-- The greatest number of digits of an integer in text. -/
def digitLimit : Nat := 4300

private def limitText : String :=
  "Exceeds the limit (" ++ toString digitLimit ++ " digits) for integer string conversion"

private def limitAdvice : String :=
  "; use sys.set_int_max_str_digits() to increase the limit"

def tooManyDigits (count : Nat) : String :=
  limitText ++ ": value has " ++ toString count ++ " digits" ++ limitAdvice

def tooLong : String := limitText ++ limitAdvice

/-- Whether an integer would be written with more digits. -/
def isTooLong (n : Int) : Bool := digitLimit < (toString n.natAbs).length

/-- The digits of a run with underscores, or nothing if there is another character or an underscore
that does not stand between two digits. -/
def run? (digit? : Char → Option Nat) : List Char → Option (List Nat)
  | [] => none
  | [c] => (digit? c).map ([·])
  | c :: '_' :: rest => do
    let d ← digit? c
    return d :: (← run? digit? rest)
  | c :: d :: rest => do
    let n ← digit? c
    return n :: (← run? digit? (d :: rest))

def digitRun? : List Char → Option (List Nat) := run? Text.digitValue?

/-- The number that digits of a base write. -/
def ofDigitsIn (base : Nat) (ds : List Nat) : Nat :=
  ds.foldl (fun n d => base * n + d) 0

def ofDigits (ds : List Nat) : Nat := ofDigitsIn 10 ds

/-- The sign in front of a number, and the rest. -/
def sign : List Char → Bool × List Char
  | '-' :: rest => (true, rest)
  | '+' :: rest => (false, rest)
  | cs => (false, cs)

inductive IntFault where
  | malformed
  | tooManyDigits (count : Nat)
  deriving DecidableEq, Repr

def digitIn? (base : Nat) (c : Char) : Option Nat :=
  ((Text.digitValue? c).orElse fun _ => Text.hexValue? c).filter (· < base)

def baseMark? : Nat → Option Char
  | 2 => some 'b'
  | 8 => some 'o'
  | 16 => some 'x'
  | _ => none

/-- The text after a zero and the mark of a base, where they stand in front, and after an underscore
behind them. -/
def dropBaseMark (base : Nat) : List Char → List Char
  | '0' :: c :: rest =>
    if baseMark? base = some c.toLower then
      match rest with
      | '_' :: rest => rest
      | rest => rest
    else '0' :: c :: rest
  | cs => cs

/-- Reads an integer in a base. -/
def readIntIn (base : Nat) (s : List Char) : Except IntFault Int :=
  let (negative, body) := sign (Text.trim s)
  match run? (digitIn? base) (dropBaseMark base body) with
  | none => .error .malformed
  | some ds =>
    if (baseMark? base).isNone && digitLimit < ds.length then .error (.tooManyDigits ds.length)
    else
      let n := ofDigitsIn base ds
      .ok (if negative then -(n : Int) else n)

def readInt? (s : List Char) : Option Int := (readIntIn 10 s).toOption

def readWord? (negative : Bool) (word : List Char) : Option Double :=
  let word := word.map Char.toLower
  if word = ['i', 'n', 'f'] || word = ['i', 'n', 'f', 'i', 'n', 'i', 't', 'y'] then
    some (.infinite negative)
  else if word = ['n', 'a', 'n'] then some .nan
  else none

/-- The digits of a possibly empty run. -/
def optionalRun? (cs : List Char) : Option (List Nat) :=
  if cs.isEmpty then some [] else digitRun? cs

def readExponent? (cs : List Char) : Option Int := do
  let (negative, body) := sign cs
  let n := ofDigits (← digitRun? body)
  return if negative then -(n : Int) else n

private def isExponentMark (c : Char) : Bool := c = 'e' || c = 'E'

/-- Reads a decimal without its sign: digits, a point with more digits, an exponent; at least one
digit stands before the exponent. -/
def readDecimal? (negative : Bool) (cs : List Char) : Option Double := do
  let mantissa := cs.takeWhile (!isExponentMark ·)
  let power ← match cs.dropWhile (!isExponentMark ·) with
    | [] => some 0
    | _ :: rest => readExponent? rest
  let whole := mantissa.takeWhile (· ≠ '.')
  let fraction := (mantissa.dropWhile (· ≠ '.')).drop 1
  let before ← optionalRun? whole
  let after ← optionalRun? fraction
  guard (!(before.isEmpty && after.isEmpty))
  return Double.ofDecimal negative (ofDigits (before ++ after)) (power - after.length)

def readDouble? (s : List Char) : Option Double :=
  let (negative, body) := sign (Text.trim s)
  (readWord? negative body).orElse fun _ => readDecimal? negative body

end FlowGate.Number
