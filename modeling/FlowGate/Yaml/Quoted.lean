import FlowGate.Text.Codes
import FlowGate.Text.Digit
import FlowGate.Yaml.Plain

/-!
# Quoted scalars

A scalar in single quotes holds every character as it stands, a quote written twice; in double
quotes a backslash starts an escape. Line breaks are folded as in plain scalars, whatever the
columns, but no document may start or end inside.
-/

namespace FlowGate.Yaml

open Scan

namespace Quoted

def letterEscape? : Char → Option Char
  | '0' => some '\x00'
  | 'a' => some '\x07'
  | 'b' => some '\x08'
  | 't' => some '\t'
  | '\t' => some '\t'
  | 'n' => some '\n'
  | 'v' => some '\x0b'
  | 'f' => some '\x0c'
  | 'r' => some '\r'
  | 'e' => some '\x1b'
  | ' ' => some ' '
  | '"' => some '"'
  | '\\' => some '\\'
  | '/' => some '/'
  | 'N' => some '\x85'
  | '_' => some '\xa0'
  | 'L' => some '\u2028'
  | 'P' => some '\u2029'
  | _ => none

/-- The number of hexadecimal digits after the letter of an escape. -/
def codeEscape? : Char → Option Nat
  | 'x' => some 2
  | 'u' => some 4
  | 'U' => some 8
  | _ => none

/-- The number that the next hexadecimal digits write, which are not passed over. -/
def hexNumber (digits : Nat) : Scan Nat := do
  let ds ← (List.range digits).mapM fun k => do
    match Text.hexValue? (← peek k) with
    | some d => return d
    | none => throw .token
  return Number.ofDigitsIn 16 ds

/-- The number of a character, if there is one. -/
def checkCode (n : Nat) : Except Fault Nat :=
  if 0x7fffffff < n then .error .hugeCharacter
  else if 0x10ffff < n then .error .noCharacter
  else .ok n

/-- Passes over the empty lines after a line, where no separator may stand. -/
def emptyLines : Nat → List Char → Scan (List Char)
  | 0, acc => return acc.reverse
  | rounds + 1, acc => do
    if ← atSeparator then throw .token
    skipWhile isSpace
    match ← lineBreak? with
    | some b => emptyLines rounds (b :: acc)
    | none => return acc.reverse

def codes (cs : List Char) : List Nat := cs.map Char.toNat

/-- Passes over an escape after its backslash: the numbers of the characters that it stands for. A
line break after a backslash stands for the empty lines after it. -/
def escape : Scan (List Nat) := do
  let c ← head
  match letterEscape? c, codeEscape? c with
  | some a, _ =>
    skip 1
    return [a.toNat]
  | none, some digits =>
    skip 1
    let n ← checkCode (← hexNumber digits)
    skip digits
    return [n]
  | none, none =>
    match ← lineBreak? with
    | some _ => return codes (← emptyLines (← rounds) [])
    | none => throw .token

/-- Passes over a gap: what it stands for. -/
def gap : Scan (List Char) := do
  let blanks ← takeWhile isSpace
  if (← head) = '\x00' then throw .token
  match ← lineBreak? with
  | none => return blanks
  | some first => return foldedBreak first (← emptyLines (← rounds) [])

/-- The rest of a scalar after its opening quote and some parts, in reverse. -/
def parts (double : Bool) : Nat → List (List Nat) → Scan (List (List Nat))
  | 0, _ => throw .token
  | rounds + 1, acc => do
    let cs ← takeWhile fun c => !(isGap c || c = '"' || c = '\'' || c = '\\')
    let acc := codes cs :: acc
    let c ← head
    if isGap c then parts double rounds (codes (← gap) :: acc)
    else if double then
      skip 1
      if c = '"' then return acc
      else if c = '\\' then parts double rounds ((← escape) :: acc)
      else parts double rounds ([c.toNat] :: acc)
    else if c ≠ '\'' then
      skip 1
      parts double rounds ([c.toNat] :: acc)
    else if (← peek 1) = '\'' then
      skip 2
      parts double rounds ([c.toNat] :: acc)
    else
      skip 1
      return acc

end Quoted

/-- Passes over a quoted scalar: its text. -/
def quoted (double : Bool) : Scan String := do
  skip 1
  let parts ← Quoted.parts double (← rounds) []
  return String.ofList (Text.ofCodes parts.reverse.flatten)

end FlowGate.Yaml
