import FlowGate.Yaml.Plain

/-!
# Block scalars

A block is the text of the lines after its mark, which are kept (`|`) or folded (`>`). Indicators
behind the mark say how far the lines are indented and what becomes of the line breaks at the end;
without them the first line that is not empty sets the indentation, and one break is left.
-/

namespace FlowGate.Yaml

open Scan

namespace Block

/-- What becomes of the line breaks at the end of a block. -/
inductive Chomping where
  | strip
  | clip
  | keep
  deriving DecidableEq, Repr

/-- The chomping that an indicator asks for. -/
def chomping? (c : Char) : Option Chomping :=
  if c = '+' then some .keep else if c = '-' then some .strip else none

/-- Passes over the indicator of the indentation, if there is one. -/
def indentation? : Scan (Option Nat) := do
  let c ← head
  if !c.isDigit then return none
  if c = '0' then throw .token
  skip 1
  return some (c.toNat - '0'.toNat)

/-- Passes over the indicators, in either order. -/
def indicators : Scan (Chomping × Option Nat) := do
  let first := chomping? (← head)
  if first.isSome then skip 1
  let indentation ← indentation?
  let next ← head
  let last := if first.isNone && indentation.isSome then chomping? next else none
  if last.isSome then skip 1
  let c ← head
  if isBreakOrEnd c || c = ' ' then return ((first.or last).getD .clip, indentation)
  else throw .token

/-- Passes over the rest of the line of the mark: blanks and a comment. -/
def lineEnd : Scan Unit := do
  skipBlanks
  skipComment
  if (← lineBreak?).isNone then
    if (← head) ≠ '\x00' then throw .token

/-- Passes over the empty lines in front of a block: their breaks, and the widest indentation. -/
def leadingLines : Nat → List Char → Nat → Scan (List Char × Nat)
  | 0, acc, widest => return (acc.reverse, widest)
  | rounds + 1, acc, widest => do
    if (← head) = ' ' then
      skip 1
      leadingLines rounds acc (max widest (← column))
    else
      match ← lineBreak? with
      | some b => leadingLines rounds (b :: acc) widest
      | none => return (acc.reverse, widest)

/-- Passes over blanks up to a column. -/
def skipTo (indent : Nat) : Scan Unit := do
  let c ← get
  skip (min (c.rest.takeWhile (· = ' ')).length (indent - c.column))

/-- Passes over empty lines and the indentation of the next line. -/
def emptyLines (indent : Nat) : Nat → List Char → Scan (List Char)
  | 0, acc => return acc.reverse
  | rounds + 1, acc => do
    skipTo indent
    match ← lineBreak? with
    | some b => emptyLines indent rounds (b :: acc)
    | none => return acc.reverse

/-- Whether a line of a block starts here. -/
def atLine (indent : Nat) : Scan Bool := do
  if (← column) = indent then return (← head) ≠ '\x00' else return false

/-- The lines of a block after some parts, in reverse, and empty lines: all parts but the breaks at
the end, in reverse, the last break, and the empty lines after it. -/
def lines (folded : Bool) (indent : Nat) :
    Nat → List (List Char) → List Char → Scan (List (List Char) × List Char × List Char)
  | 0, acc, breaks => return (acc, [], breaks)
  | rounds + 1, acc, breaks => do
    let flush := !isSpace (← head)
    let line ← takeWhile (!isBreak ·)
    let lineBreak := (← lineBreak?).toList
    let more ← emptyLines indent (← Scan.rounds) []
    let acc := line :: breaks :: acc
    if ← atLine indent then
      let folds := folded && lineBreak = ['\n'] && flush && !isSpace (← head)
      let joint := if !folds then lineBreak else if more.isEmpty then [' '] else []
      lines folded indent rounds (joint :: acc) more
    else return (acc, lineBreak, more)

end Block

/-- Passes over a block, given the indentation of the collection around it: its text. -/
def block (folded : Bool) (outer : Int) : Scan String := do
  skip 1
  let (chomping, indentation) ← Block.indicators
  Block.lineEnd
  let least := (max (outer + 1) 1).toNat
  let (breaks, indent) ← match indentation with
    | some n => do
      let indent := least + n - 1
      pure (← Block.emptyLines indent (← rounds) [], indent)
    | none => do
      let (breaks, widest) ← Block.leadingLines (← rounds) [] 0
      pure (breaks, max least widest)
  let (parts, lineBreak, breaks) ←
    if ← Block.atLine indent then Block.lines folded indent (← rounds) [] breaks
    else pure ([], [], breaks)
  let ending := match chomping with
    | .strip => []
    | .clip => lineBreak
    | .keep => lineBreak ++ breaks
  return String.ofList (parts.reverse.flatten ++ ending)

end FlowGate.Yaml
