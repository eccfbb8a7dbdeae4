import FlowGate.Text.Quoted
import FlowGate.Value.Text

/-!
# Writing JSON

`Json.write` writes a value over several lines: each item of a list and each member of a mapping
has a line of its own, two blanks further in; empty ones stay closed. Characters outside printable
ASCII are escaped, those past U+FFFF by two escapes.
-/

namespace FlowGate.Json

def unitEscape (n : Nat) : List Char := '\\' :: 'u' :: Text.hexDigits 4 n

def escapeChar (c : Char) : List Char :=
  if c = '"' then ['\\', '"']
  else if c = '\\' then ['\\', '\\']
  else if c = '\n' then ['\\', 'n']
  else if c = '\r' then ['\\', 'r']
  else if c = '\t' then ['\\', 't']
  else if c = '\x08' then ['\\', 'b']
  else if c = '\x0c' then ['\\', 'f']
  else
    let n := c.toNat
    if 0x20 ≤ n && n < 0x7f then [c]
    else if n ≤ 0xffff then unitEscape n
    else unitEscape (0xd800 + (n - 0x10000) / 0x400) ++ unitEscape (0xdc00 + (n - 0x10000) % 0x400)

def stringText (s : String) : String :=
  String.ofList ('"' :: s.toList.flatMap escapeChar ++ ['"'])

/-- The form of a number that is not finite, and the shortest text of the others. -/
def doubleText : Double → String
  | .nan => "NaN"
  | .infinite negative => if negative then "-Infinity" else "Infinity"
  | x => x.toText

def scalarText : Scalar → String
  | .null => "null"
  | .bool b => if b then "true" else "false"
  | .int n => toString n
  | .float x => doubleText x
  | s => stringText s.text

def keyText : Scalar → String
  | .str s => stringText s
  | s => stringText (scalarText s)

/-- The line break in front of something `depth` levels in. -/
def newline (depth : Nat) : String :=
  String.ofList ('\n' :: List.replicate (2 * depth) ' ')

/-- Parts on lines of their own between two brackets. -/
def bracketed (opening closing : String) (depth : Nat) (parts : List String) : String :=
  if parts.isEmpty then opening ++ closing
  else
    opening ++ newline (depth + 1) ++ ("," ++ newline (depth + 1)).intercalate parts
      ++ newline depth ++ closing

mutual

def valueText : Nat → Value → String
  | _, .scalar s => scalarText s
  | depth, .list items => bracketed "[" "]" depth (itemTexts (depth + 1) items)
  | depth, .map entries => bracketed "\x7b" "\x7d" depth (memberTexts (depth + 1) entries)
termination_by structural _ v => v

def itemTexts : Nat → List Value → List String
  | _, [] => []
  | depth, v :: vs => valueText depth v :: itemTexts depth vs
termination_by structural _ vs => vs

def memberTexts : Nat → List (Scalar × Value) → List String
  | _, [] => []
  | depth, (k, v) :: es => (keyText k ++ ": " ++ valueText depth v) :: memberTexts depth es
termination_by structural _ es => es

end

def write (v : Value) : String := valueText 0 v

end FlowGate.Json
