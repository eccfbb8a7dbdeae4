import FlowGate.Yaml.Block
import FlowGate.Yaml.Property

/-!
# From text to tokens

`Token.scan` divides a source into tokens. In block style the columns matter: a column further right
than the current indentation opens a collection, one further left closes collections. A scalar, a
flow collection, an alias or a property may turn out to start a key when a colon follows on the same
line, within 1024 characters; its place among the tokens is remembered until then, for each level of
flow collections.

No token is free to be used while it may still get a key in front of it. The tokens that are free
when a fault is met are kept, so that a fault in their order is found first.
-/

namespace FlowGate.Yaml

/-- What may start a key: its number among the tokens and its place. -/
structure PossibleKey where
  token : Nat
  index : Nat
  line : Nat
  column : Nat
  required : Bool

/-- The state between two tokens. -/
structure Lexer where
  cursor : Cursor
  tokens : Array Token
  /-- The column of the innermost block collection, −1 outside all. -/
  indent : Int
  /-- The columns of the collections around it. -/
  outer : List Int
  /-- The level of flow collections; it is negative where more were closed than opened. -/
  flowLevel : Int
  keyAllowed : Bool
  /-- The possible keys with their levels of flow collections. -/
  keys : List (Int × PossibleKey)

/-- A step from token to token. The state that it has reached outlives a fault. -/
abbrev Lex := ExceptT Fault (StateM Lexer)

namespace Lexer

def start (source : Source) : Lexer where
  cursor := .start source
  tokens := #[]
  indent := -1
  outer := []
  flowLevel := 0
  keyAllowed := true
  keys := []

def inFlow (s : Lexer) : Bool := s.flowLevel ≠ 0

/-- The number of tokens that are free to be used. -/
def free (s : Lexer) : Nat := (s.keys.map (·.2.token)).foldl min s.tokens.size

def isDone (s : Lexer) : Bool := s.tokens.back? = some .textEnd

def scan {α : Type} (x : Scan α) : Lex α := do
  match x.run (← get).cursor with
  | .ok (a, cursor) =>
    modify ({ · with cursor })
    return a
  | .error e => throw e

def fail : Lex Unit := throw .token

def flowing : Lex Bool := return (← get).inFlow

def push (t : Token) : Lex Unit := modify fun s => { s with tokens := s.tokens.push t }

/-- Adds the token of a mark of some characters and passes over it. -/
def mark (t : Token) (width : Nat) : Lex Unit := do
  scan (Scan.skip width)
  push t

/-- Allows or forbids a key to start at the next token. -/
def allowKey (allowed : Bool) : Lex Unit := modify ({ · with keyAllowed := allowed })

/-! ## Possible keys -/

def keyHere? (s : Lexer) : Option PossibleKey := s.keys.lookup s.flowLevel

def dropKeyHere (s : Lexer) : Lexer := { s with keys := s.keys.filter (·.1 ≠ s.flowLevel) }

/-- Gives up the possible key of this level; a required one must not be given up. -/
def removeKey : Lex Unit := do
  if (← get).keyHere?.any (·.required) then fail
  modify dropKeyHere

def isStale (c : Cursor) (k : PossibleKey) : Bool :=
  k.line ≠ c.line || 1024 < c.index - k.index

/-- Gives up the possible keys that are too far away. -/
def dropStaleKeys : Lex Unit := do
  let c := (← get).cursor
  if (← get).keys.any fun k => isStale c k.2 && k.2.required then fail
  modify fun s => { s with keys := s.keys.filter fun k => !isStale c k.2 }

def saveKey : Lex Unit := do
  if (← get).keyAllowed then
    removeKey
    modify fun s =>
      let c := s.cursor
      let required := !s.inFlow && s.indent = c.column
      let key : PossibleKey := ⟨s.tokens.size, c.index, c.line, c.column, required⟩
      { s with keys := (s.flowLevel, key) :: s.keys }

/-! ## Indentation -/

/-- Closes the block collections further right than a column, given the columns around them. -/
def unwind (column : Int) : List Int → Lexer → Lexer
  | [], s => s
  | o :: outer, s =>
    if column < s.indent then
      unwind column outer { s with tokens := s.tokens.push .blockEnd, indent := o, outer }
    else s

/-- Closes block collections, which are not closed inside flow collections. -/
def unwindTo (column : Int) : Lex Unit :=
  modify fun s => if s.inFlow then s else unwind column s.outer s

/-- Opens a block collection at a column with a token put at a place among the tokens, unless one is
open there. -/
def openBlock (column : Int) (t : Token) (place : Nat) : Lex Unit :=
  modify fun s =>
    if s.indent < column then
      { s with
        indent := column
        outer := s.indent :: s.outer
        tokens := s.tokens.insertIdxIfInBounds place t }
    else s

/-- Opens a block collection at the cursor outside flow collections, where one may start. -/
def openHere (t : Token) : Lex Unit := do
  if !(← flowing) then
    if !(← get).keyAllowed then fail
    openBlock (← get).cursor.column t (← get).tokens.size

/-! ## Tokens -/

/-- Skips blanks, comments and line breaks; after a line break a key may start outside flow
collections. -/
def skipGap : Nat → Lex Unit
  | 0 => return ()
  | rounds + 1 => do
    scan Scan.skipBlanks
    scan Scan.skipComment
    if (← scan Scan.lineBreak?).isSome then
      if !(← flowing) then allowKey true
      skipGap rounds

/-- Skips a byte order mark at the start of the text. -/
def skipByteOrderMark : Scan Unit := do
  if (← get).index = 0 then
    if (← Scan.head) = '\ufeff' then Scan.skip 1

/-- The end of the text, of a document or of directives in front of one. -/
def documentMark (token : Lex Unit) : Lex Unit := do
  unwindTo (-1)
  removeKey
  allowKey false
  token

def textEnd : Lex Unit := documentMark do
  modify ({ · with keys := [] })
  push .textEnd

def flowStart (t : Token) : Lex Unit := do
  saveKey
  modify fun s => { s with flowLevel := s.flowLevel + 1, keyAllowed := true }
  mark t 1

def flowEnd (t : Token) : Lex Unit := do
  removeKey
  modify fun s => { s with flowLevel := s.flowLevel - 1, keyAllowed := false }
  mark t 1

def comma : Lex Unit := do
  allowKey true
  removeKey
  mark .comma 1

def entry : Lex Unit := do
  openHere .blockListStart
  allowKey true
  removeKey
  mark .entry 1

def explicitKey : Lex Unit := do
  openHere .blockMapStart
  allowKey (!(← flowing))
  removeKey
  mark .key 1

def value : Lex Unit := do
  let flow ← flowing
  match (← get).keyHere? with
  | some k =>
    modify fun s => { s.dropKeyHere with
      tokens := s.tokens.insertIdxIfInBounds k.token .key
      keyAllowed := false }
    if !flow then openBlock k.column .blockMapStart k.token
  | none =>
    openHere .blockMapStart
    allowKey (!flow)
    removeKey
  mark .value 1

/-- A token that may start a key and that no key may follow on its line. -/
def keyPart (token : Scan Token) : Lex Unit := do
  saveKey
  allowKey false
  push (← scan token)

def blockScalar (folded : Bool) : Lex Unit := do
  allowKey true
  removeKey
  push (.scalar false (← scan (block folded (← get).indent)))

def plainScalar : Lex Unit := do
  saveKey
  let (text, ended) ← scan (plain (← flowing) ((← get).indent + 1))
  allowKey ended
  push (.scalar true text)

/-- The characters that start no plain scalar, or not in front of a gap. -/
def indicators : List Char :=
  ['-', '?', ':', ',', '[', ']', '\x7b', '\x7d', '#', '&', '*', '!', '|', '>', '\'', '"', '%', '@',
    '\x60']

def startsPlain (inFlow : Bool) : Scan Bool := do
  let c ← Scan.head
  if !isGap c && !indicators.contains c then return true
  if isGap (← Scan.peek 1) then return false
  return c = '-' || (!inFlow && (c = '?' || c = ':'))

/-- Whether a mark that needs a gap behind it outside flow collections stands here. -/
def isMark (flow : Bool) : Scan Bool := do
  if flow then return true else return isGap (← Scan.peek 1)

def atDocumentMark : Scan Bool := do
  if (← Scan.column) = 0 then Scan.atSeparator else return false

/-- A scalar that is not marked by its first character. -/
def otherScalar : Lex Unit := do
  if ← scan (startsPlain (← flowing)) then plainScalar else fail

/-- A mark that takes part in the structure of block collections, or a plain scalar. -/
def structureMark (c : Char) : Lex Unit := do
  let flow ← flowing
  if c = '-' then
    if ← scan atDocumentMark then documentMark (mark .documentStart 3)
    else if ← scan (isMark false) then entry
    else otherScalar
  else if c = '.' then
    if ← scan atDocumentMark then documentMark (mark .documentEnd 3) else otherScalar
  else if c = '?' then
    if ← scan (isMark flow) then explicitKey else otherScalar
  else if ← scan (isMark flow) then value
  else otherScalar

def token : Lex Unit := do
  let flow ← flowing
  match ← scan Scan.head with
  | '\x00' => textEnd
  | '%' =>
    if (← scan Scan.column) = 0 then documentMark do push (← scan Property.directive)
    else otherScalar
  | '[' => flowStart .flowListStart
  | '\x7b' => flowStart .flowMapStart
  | ']' => flowEnd .flowListEnd
  | '\x7d' => flowEnd .flowMapEnd
  | ',' => comma
  | '*' => keyPart do return .alias (← Property.anchor)
  | '&' => keyPart do return .anchor (← Property.anchor)
  | '!' => keyPart do
    let (handle, ending) ← Property.tag
    return .tag handle ending
  | '\'' => keyPart do return .scalar false (← quoted false)
  | '"' => keyPart do return .scalar false (← quoted true)
  | '|' => if flow then otherScalar else blockScalar false
  | '>' => if flow then otherScalar else blockScalar true
  | '-' => structureMark '-'
  | '.' => structureMark '.'
  | '?' => structureMark '?'
  | ':' => structureMark ':'
  | _ => otherScalar

def step : Lex Unit := do
  scan skipByteOrderMark
  skipGap (← scan Scan.rounds)
  dropStaleKeys
  unwindTo (← get).cursor.column
  token

/-- All tokens of the rest of a source, or the ones that are free when a fault is met. -/
def run : Nat → Lexer → List Token × Option Fault
  | 0, s => (s.tokens.toList, none)
  | rounds + 1, s =>
    let free := s.free
    match (step *> dropStaleKeys).run.run s with
    | (.error e, s) => (s.tokens.toList.take free, some e)
    | (.ok _, s) => if s.isDone then (s.tokens.toList, none) else run rounds s

end Lexer

/-- The tokens of a source, and the fault that ended them early. Every step passes over a
character. -/
def Token.scan (source : Source) : List Token × Option Fault :=
  Lexer.run (source.chars.length + 2) (.start source)

end FlowGate.Yaml
