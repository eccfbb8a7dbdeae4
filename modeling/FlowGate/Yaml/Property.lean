import FlowGate.Text.Codes
import FlowGate.Yaml.Quoted
import FlowGate.Yaml.Token

/-!
# Directives and properties

A directive at the start of a document gives the version of YAML or a handle for tags. A node may
have properties: an anchor, by which an alias refers to it, and a tag, which says what it stands
for.
-/

namespace FlowGate.Yaml

open Scan

namespace Property

def isWordEnd (c : Char) : Bool := isBreakOrEnd c || c = ' '

/-- Passes over a name in front of a character that may stand there. -/
def name (mayFollow : Char → Bool) : Scan String := do
  let cs ← takeWhile isNameChar
  if cs.isEmpty then throw .token
  if mayFollow (← head) then return String.ofList cs else throw .token

def checkWordEnd : Scan Unit := do
  if !isWordEnd (← head) then throw .token

/-! ## Tags -/

def isTagChar (c : Char) : Bool :=
  isNameChar c || [';', '/', '?', ':', '@', '&', '=', '+', '$', ',', '.', '!', '~', '*', '\'', '(',
    ')', '[', ']'].contains c

def escapedBytes : Nat → List UInt8 → Scan (List UInt8)
  | 0, acc => return acc.reverse
  | rounds + 1, acc => do
    if (← head) ≠ '%' then return acc.reverse
    skip 1
    let n ← Quoted.hexNumber 2
    skip 2
    escapedBytes rounds (UInt8.ofNat n :: acc)

def escaped : Scan (List Char) := do
  match Utf8.decode (← escapedBytes (← rounds) []) with
  | .ok cs => return cs
  | .error _ => throw .token

/-- The rest of the text of a tag after some parts, in reverse. -/
def tagParts : Nat → List (List Char) → Scan (List (List Char))
  | 0, acc => return acc
  | rounds + 1, acc => do
    let cs ← takeWhile isTagChar
    if (← head) = '%' then tagParts rounds ((← escaped) :: cs :: acc)
    else return cs :: acc

def tagText : Scan String := do
  let cs := (← tagParts (← rounds) []).reverse.flatten
  if cs.isEmpty then throw .token
  return String.ofList cs

/-- Passes over a handle: an exclamation mark, alone or with another one behind a name. -/
def handle : Scan String := do
  if (← head) ≠ '!' then throw .token
  skip 1
  if (← head) = ' ' then return "!"
  let cs ← takeWhile isNameChar
  if (← head) ≠ '!' then throw .token
  skip 1
  return "!" ++ String.ofList cs ++ "!"

/-- Whether another exclamation mark stands in the word behind the one at the cursor. -/
def hasHandle : Scan Bool := do
  let word := ((← get).rest.drop 1).takeWhile (!isWordEnd ·)
  if word.contains '!' then return true
  let _ ← peek (word.length + 1)
  return false

/-- Passes over a tag: its handle and its ending. -/
def tag : Scan (Option String × String) := do
  let c ← peek 1
  let found ←
    if c = '<' then do
      skip 2
      let text ← tagText
      if (← head) ≠ '>' then throw .token
      skip 1
      pure (none, text)
    else if isGap c then do
      skip 1
      pure (none, "!")
    else if ← hasHandle then do
      let handle ← handle
      pure (some handle, ← tagText)
    else do
      skip 1
      pure (some "!", ← tagText)
  checkWordEnd
  return found

/-! ## Anchors -/

def mayFollowAnchor (c : Char) : Bool :=
  isGap c || ['?', ':', ',', ']', '\x7d', '%', '@', '\x60'].contains c

/-- Passes over the mark and the name of an anchor or an alias. -/
def anchor : Scan String := do
  skip 1
  name mayFollowAnchor

/-! ## Directives -/

def versionNumber : Scan Nat := do
  let cs ← takeWhile Char.isDigit
  if cs.isEmpty then throw .token
  if Number.digitLimit < cs.length then throw (.tooManyDigits cs.length)
  return Number.ofDigits (cs.map fun c => c.toNat - '0'.toNat)

def version : Scan Token := do
  skipBlanks
  let major ← versionNumber
  if (← head) ≠ '.' then throw .token
  skip 1
  let _ ← versionNumber
  checkWordEnd
  return .version major

def shorthand : Scan Token := do
  skipBlanks
  let handle ← handle
  if (← head) ≠ ' ' then throw .token
  skipBlanks
  let beginning ← tagText
  checkWordEnd
  return .shorthand handle beginning

def directive : Scan Token := do
  skip 1
  let token ← match ← name isWordEnd with
    | "YAML" => version
    | "TAG" => shorthand
    | _ => do
      skipWhile (!isBreak ·)
      pure .otherDirective
  skipBlanks
  skipComment
  if (← lineBreak?).isNone then
    if (← head) ≠ '\x00' then throw .token
  return token

end Property

end FlowGate.Yaml
