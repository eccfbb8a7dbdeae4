import FlowGate.Number.Reading
import FlowGate.Yaml.Fault

/-!
# Timestamps

A timestamp is a date, or a moment: a date, a time of day and perhaps an offset. A date without a
time of day counts as a timestamp of its own accord only if month and day have two digits.
-/

namespace FlowGate.Yaml

/-- What a timestamp writes, whether or not there is such a date or moment. -/
inductive Timestamp where
  | date (d : Date)
  | moment (m : Moment)
  deriving DecidableEq, Repr

namespace Timestamp

def ofDigits (cs : List Char) : Nat := Number.ofDigits (cs.map fun c => c.toNat - '0'.toNat)

/-- A number of `least` to `most` digits, and the rest. -/
def count? (least most : Nat) (cs : List Char) : Option (Nat × List Char) :=
  let ds := (cs.take most).takeWhile Char.isDigit
  if ds.length < least then none else some (ofDigits ds, cs.drop ds.length)

def after? (c : Char) : List Char → Option (List Char)
  | d :: rest => if c = d then some rest else none
  | [] => none

def isSpace (c : Char) : Bool := c = ' ' || c = '\t'

/-- The offset of a moment: none, `Z`, or hours and perhaps minutes. -/
def offset? (cs : List Char) : Option (Option Int) :=
  match cs.dropWhile isSpace with
  | [] => if cs.isEmpty then some none else none
  | ['Z'] => some (some 0)
  | c :: rest => do
    guard (c = '+' || c = '-')
    let (hours, rest) ← count? 1 2 rest
    let minutes : Nat ← match rest with
      | [] => some 0
      | rest => do
        let (minutes, rest) ← count? 2 2 (← after? ':' rest)
        guard rest.isEmpty
        some minutes
    let total : Int := 60 * hours + minutes
    return some (if c = '-' then -total else total)

/-- The time of day after a date: the mark or blanks in front, hour, minute, second, fraction and
offset. -/
def time? (date : Date) (cs : List Char) : Option Moment := do
  let cs ← match cs with
    | 'T' :: rest | 't' :: rest => some rest
    | c :: rest => if isSpace c then some (rest.dropWhile isSpace) else none
    | [] => none
  let (hour, cs) ← count? 1 2 cs
  let (minute, cs) ← count? 2 2 (← after? ':' cs)
  let (second, cs) ← count? 2 2 (← after? ':' cs)
  let (fraction, cs) := match cs with
    | '.' :: rest => (rest.takeWhile Char.isDigit, rest.dropWhile Char.isDigit)
    | cs => ([], cs)
  let kept := fraction.take 6
  let micro := ofDigits kept * Nat.pow 10 (6 - kept.length)
  return { date, hour, minute, second, micro, offset := ← offset? cs }

def ofText? (cs : List Char) : Option Timestamp := do
  let (year, rest) ← count? 4 4 cs
  let (month, rest) ← count? 1 2 (← after? '-' rest)
  let (day, rest) ← count? 1 2 (← after? '-' rest)
  let date : Date := ⟨year, month, day⟩
  if rest.isEmpty then return .date date else return .moment (← time? date rest)

/-- Whether a text counts as a timestamp of its own accord. -/
def isForm (cs : List Char) : Bool :=
  match ofText? cs with
  | some (.date _) => cs.length = 10
  | some (.moment _) => true
  | none => false

end Timestamp

end FlowGate.Yaml
