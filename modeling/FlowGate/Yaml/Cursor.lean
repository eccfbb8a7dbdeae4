import FlowGate.Yaml.Source

/-!
# Cursors

A cursor is a place in a source: what follows it, and where it stands. At the end of the text it
shows the character NUL, which no text contains. `Scan` moves a cursor and ends in a fault; one of
them is that a character is asked for that cannot be had.
-/

namespace FlowGate.Yaml

def isBreak (c : Char) : Bool := c = '\n' || c = '\x85' || c = '\u2028' || c = '\u2029'

def isBreakOrEnd (c : Char) : Bool := isBreak c || c = '\x00'

def isSpace (c : Char) : Bool := c = ' ' || c = '\t'

/-- Whether a character separates tokens. -/
def isGap (c : Char) : Bool := isBreakOrEnd c || isSpace c

def isNameChar (c : Char) : Bool := c.isAlphanum || c = '-' || c = '_'

/-- A place in a source. -/
structure Cursor where
  rest : List Char
  beyond : Option Fault
  index : Nat
  line : Nat
  column : Nat
  /-- The number of characters in the source. -/
  size : Nat

namespace Cursor

def start (source : Source) : Cursor where
  rest := source.chars
  beyond := source.beyond
  index := 0
  line := 0
  column := 0
  size := source.chars.length

/-- The next place; a byte order mark takes no column. -/
def next (c : Cursor) : Cursor :=
  match c.rest with
  | [] => c
  | a :: rest =>
    if isBreak a then { c with rest, index := c.index + 1, line := c.line + 1, column := 0 }
    else
      { c with
        rest
        index := c.index + 1
        column := if a = '\ufeff' then c.column else c.column + 1 }

def forward (c : Cursor) : Nat → Cursor
  | 0 => c
  | n + 1 => c.next.forward n

end Cursor

abbrev Scan := StateT Cursor (Except Fault)

namespace Scan

/-- Ends the scan where what stands behind the last character is a fault. -/
def checkEnd : Scan Unit := do
  match (← get).beyond with
  | some f => throw f
  | none => return ()

/-- The character at a distance. -/
def peek (n : Nat) : Scan Char := do
  match (← get).rest[n]? with
  | some a => return a
  | none =>
    checkEnd
    return '\x00'

def head : Scan Char := peek 0

def ahead (n : Nat) : Scan (List Char) := do
  let cs := (← get).rest.take n
  if cs.length < n then checkEnd
  return cs

/-- Moves on by a number of characters, in front of one that can be had. -/
def skip (n : Nat) : Scan Unit := do
  let c := (← get).forward n
  if c.rest.isEmpty then checkEnd
  set c

def takeWhile (test : Char → Bool) : Scan (List Char) := do
  let cs := (← get).rest.takeWhile test
  skip cs.length
  return cs

def skipWhile (test : Char → Bool) : Scan Unit := do
  let _ ← takeWhile test

def skipBlanks : Scan Unit := skipWhile (· = ' ')

def skipComment : Scan Unit := do
  if (← head) = '#' then skipWhile (!isBreak ·)

/-- Passes over a line break, if one stands here, and gives it in its plain form. -/
def lineBreak? : Scan (Option Char) := do
  let a ← head
  if a = '\n' || a = '\x85' then
    skip 1
    return some '\n'
  else if isBreak a then
    skip 1
    return some a
  else return none

/-- Whether three dashes or three dots stand alone here. -/
def atSeparator : Scan Bool := do
  let cs ← ahead 3
  if cs = ['-', '-', '-'] || cs = ['.', '.', '.'] then return isGap (← peek 3) else return false

def column : Scan Nat := return (← get).column

/-- A number of rounds that no loop over the rest of the text exceeds. -/
def rounds : Scan Nat := return (← get).size + 1

end Scan

end FlowGate.Yaml
