import FlowGate.Yaml.Cursor

/-!
# Plain scalars

A plain scalar is written without marks around it. It may run over several lines: a line break
becomes a blank, and of several breaks the first is dropped. Each loop uses up a character in every
round, so the length of the text bounds the rounds.
-/

namespace FlowGate.Yaml

open Scan

/-- What joins two lines of text: the break itself if it is not an ordinary one, else a blank or,
where empty lines follow, these alone. -/
def foldedBreak (first : Char) (more : List Char) : List Char :=
  if first ≠ '\n' then first :: more else if more.isEmpty then [' '] else more

/-- Whether a character has a meaning of its own inside flow collections. -/
def isFlowMark (c : Char) : Bool := [',', '[', ']', '\x7b', '\x7d'].contains c

namespace Plain

/-- The length of a piece without gaps. -/
def pieceLength (inFlow : Bool) : List Char → Nat
  | [] => 0
  | c :: rest =>
    let after := rest.headD '\x00'
    if isGap c || (c = ':' && (isGap after || (inFlow && isFlowMark after)))
      || (inFlow && (isFlowMark c || c = '?')) then 0
    else pieceLength inFlow rest + 1

/-- Passes over a piece without gaps. A colon ends it depending on the character behind. -/
def piece (inFlow : Bool) : Scan (List Char) := do
  let cs := (← get).rest
  let n := pieceLength inFlow cs
  if cs[n]? = some ':' then
    let _ ← peek (n + 1)
  skip n
  return cs.take n

/-- Passes over the empty lines after a line; nothing where a separator follows. -/
def emptyLines : Nat → List Char → Scan (Option (List Char))
  | 0, acc => return some acc.reverse
  | rounds + 1, acc => do
    skipBlanks
    match ← lineBreak? with
    | some b =>
      if ← atSeparator then return none
      emptyLines rounds (b :: acc)
    | none => return some acc.reverse

/-- Passes over the gap after a piece: what it stands for, and whether a line ended. Nothing means
that the scalar ends here. -/
def gap : Scan (Option (List Char) × Bool) := do
  let blanks ← takeWhile (· = ' ')
  match ← lineBreak? with
  | none => return (if blanks.isEmpty then none else some blanks, false)
  | some first =>
    if ← atSeparator then return (none, true)
    let more ← emptyLines (← rounds) []
    return (more.map (foldedBreak first), true)

/-- The rest of a scalar after some parts, in reverse, and a gap: all its parts, in reverse, and
whether a line ended in its last gap. -/
def parts (inFlow : Bool) (indent : Int) :
    Nat → List (List Char) → List Char → Bool → Scan (List (List Char) × Bool)
  | 0, acc, _, ended => return (acc, ended)
  | rounds + 1, acc, before, ended => do
    if (← head) = '#' then return (acc, ended)
    let cs ← piece inFlow
    if cs.isEmpty then return (acc, ended)
    let acc := cs :: before :: acc
    match ← gap with
    | (none, ended) => return (acc, ended)
    | (some after, ended) =>
      if (← head) = '#' then return (acc, ended)
      else if !inFlow && ((← column) : Int) < indent then return (acc, ended)
      else parts inFlow indent rounds acc after ended

end Plain

/-- Passes over a plain scalar, whose lines stand at a column or further right outside flow
collections: its text, and whether a line ended in its last gap. -/
def plain (inFlow : Bool) (indent : Int) : Scan (String × Bool) := do
  let (parts, ended) ← Plain.parts inFlow indent (← rounds) [] [] false
  return (String.ofList parts.reverse.flatten, ended)

end FlowGate.Yaml
