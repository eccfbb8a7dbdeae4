import FlowGate.Yaml.Form
import FlowGate.Yaml.Lexer

/-!
# Nodes of YAML

`Document.read?` puts the tokens of a source together to the nodes of the one document that it
holds, if it holds any. Nodes are numbered, because an alias stands for a node that came before,
perhaps for one around it. Keys and values may be left out; an empty plain scalar stands in for
them. Of two steps in a row one uses up a token, so the number of tokens bounds the steps.
-/

namespace FlowGate.Yaml

/-- What a node holds, other nodes by their numbers. -/
inductive Content where
  | scalar (text : String)
  | list (items : List Nat)
  | map (entries : List (Nat × Nat))
  deriving DecidableEq, Repr

structure Node where
  tag : Tag
  content : Content
  deriving DecidableEq, Repr

instance : Inhabited Node := ⟨⟨.null, .scalar ""⟩⟩

/-- The nodes of a document and the number of its root. -/
structure Document where
  nodes : Array Node
  root : Nat
  deriving DecidableEq, Repr

structure Composer where
  tokens : List Token
  /-- The fault that ended the tokens early. -/
  fault : Option Fault
  /-- What the handles of tags stand for. -/
  handles : List (String × String)
  anchors : List (String × Nat)
  nodes : Array Node

abbrev Compose := StateT Composer (Except Fault)

namespace Composer

/-- What handles stand for where no directive says anything else. -/
def defaultHandles : List (String × String) := [("!", "!"), ("!!", Tag.beginning)]

def start (tokens : List Token) (fault : Option Fault) : Composer where
  tokens
  fault
  handles := defaultHandles
  anchors := []
  nodes := #[]

def peek : Compose Token := do
  match (← get).tokens with
  | t :: _ => return t
  | [] => throw ((← get).fault.getD .arrangement)

def advance : Compose Unit := modify fun s => { s with tokens := s.tokens.drop 1 }

def misplaced {α : Type} : Compose α := throw .arrangement

def isNext (among : List Token) : Compose Bool := return among.contains (← peek)

def accept (t : Token) : Compose Bool := do
  if (← peek) = t then
    advance
    return true
  else return false

/-! ## Properties -/

/-- The properties of a node: its anchor and the text of its tag, none for a tag that leaves open
what the node stands for. -/
structure Properties where
  anchor : Option String
  tag : Option String
  /-- Whether there is a tag that leaves open what the node stands for. -/
  isOpen : Bool

def tagText : Option String × String → Compose String
  | (none, text) => return text
  | (some handle, ending) => do
    match (← get).handles.lookup handle with
    | some beginning => return beginning ++ ending
    | none => misplaced

def properties : Compose Properties := do
  let anchor? : Compose (Option String) := do
    match ← peek with
    | .anchor name =>
      advance
      return some name
    | _ => return none
  let first ← anchor?
  match ← peek with
  | .tag handle ending =>
    advance
    let last ← if first.isNone then anchor? else pure none
    let text ← tagText (handle, ending)
    return ⟨first.or last, if text = "!" then none else some text, text = "!"⟩
  | _ => return ⟨first, none, false⟩

def Properties.any (p : Properties) : Bool := p.anchor.isSome || p.tag.isSome || p.isOpen

/-- The tag of a list or mapping, given the one that it has if nothing is said. -/
def Properties.tagOr (p : Properties) (t : Tag) : Tag := (p.tag.map Tag.ofText).getD t

def Properties.scalarTag (p : Properties) (plain : Bool) (text : String) : Tag :=
  p.tagOr (if plain || p.isOpen then .ofPlain text else .str)

/-! ## Nodes -/

/-- Adds a node under its anchor, which no other node may have. -/
def add (anchor : Option String) (node : Node) : Compose Nat := do
  let n := (← get).nodes.size
  match anchor with
  | none => pure ()
  | some name =>
    if ((← get).anchors.lookup name).isSome then throw .composition
    modify fun s => { s with anchors := (name, n) :: s.anchors }
  modify fun s => { s with nodes := s.nodes.push node }
  return n

def addScalar (p : Properties) (plain : Bool) (text : String) : Compose Nat :=
  add p.anchor ⟨p.scalarTag plain text, .scalar text⟩

/-- Adds what stands where nothing is written. -/
def addBlank : Compose Nat := addScalar ⟨none, none, false⟩ true ""

/-- Adds a list or mapping in front of its parts, which are found next. -/
def addCollection (p : Properties) (t : Tag) (parts : Compose Content) : Compose Nat := do
  let n ← add p.anchor ⟨p.tagOr t, .list []⟩
  let content ← parts
  modify fun s => { s with nodes := s.nodes.modify n ({ · with content }) }
  return n

def aliased (name : String) : Compose Nat := do
  match (← get).anchors.lookup name with
  | some n => return n
  | none => throw .composition

mutual

/-- A node: in block style where `block` holds, and as a list without indentation of its own where
`indentless` holds. -/
def node : Nat → Bool → Bool → Compose Nat
  | 0, _, _ => misplaced
  | fuel + 1, block, indentless => do
    match ← peek with
    | .alias name =>
      advance
      aliased name
    | _ =>
      let p ← properties
      let list (parts : Compose (List Nat)) : Compose Nat :=
        addCollection p .list (.list <$> parts)
      let map (parts : Compose (List (Nat × Nat))) : Compose Nat :=
        addCollection p .map (.map <$> parts)
      let other : Compose Nat := if p.any then addScalar p true "" else misplaced
      match ← peek with
      | .scalar plain text =>
        advance
        addScalar p plain text
      | .flowListStart => list (advance *> flowList fuel true [])
      | .flowMapStart => map (advance *> flowMap fuel true [])
      | .blockListStart => if block then list (advance *> blockList fuel []) else other
      | .blockMapStart => if block then map (advance *> blockMap fuel []) else other
      | .entry => if indentless then list (openList fuel []) else other
      | _ => other

/-- A node, or the blank one where one of some tokens follows. -/
def nodeUnless : Nat → Bool → Bool → List Token → Compose Nat
  | 0, _, _, _ => misplaced
  | fuel + 1, block, indentless, among => do
    if ← isNext among then addBlank else node fuel block indentless

def valueUnless : Nat → Bool → List Token → Compose Nat
  | 0, _, _ => misplaced
  | fuel + 1, block, among => do
    if ← accept .value then nodeUnless fuel block block among else addBlank

def blockList : Nat → List Nat → Compose (List Nat)
  | 0, _ => misplaced
  | fuel + 1, acc => do
    if ← accept .entry then
      let item ← nodeUnless fuel true false [.entry, .blockEnd]
      blockList fuel (item :: acc)
    else if ← accept .blockEnd then return acc.reverse
    else misplaced

/-- The rest of a list without indentation of its own. -/
def openList : Nat → List Nat → Compose (List Nat)
  | 0, _ => misplaced
  | fuel + 1, acc => do
    if ← accept .entry then
      let item ← nodeUnless fuel true false [.entry, .key, .value, .blockEnd]
      openList fuel (item :: acc)
    else return acc.reverse

def blockMap : Nat → List (Nat × Nat) → Compose (List (Nat × Nat))
  | 0, _ => misplaced
  | fuel + 1, acc => do
    let ends : List Token := [.key, .value, .blockEnd]
    if ← accept .key then
      let k ← nodeUnless fuel true true ends
      let v ← valueUnless fuel true ends
      blockMap fuel ((k, v) :: acc)
    else if ← accept .blockEnd then return acc.reverse
    else misplaced

/-- The rest of a flow list and its end; an item may be a mapping of one entry. -/
def flowList : Nat → Bool → List Nat → Compose (List Nat)
  | 0, _, _ => misplaced
  | fuel + 1, first, acc => do
    if ← accept .flowListEnd then return acc.reverse
    if !first then
      if !(← accept .comma) then misplaced
    if ← accept .flowListEnd then return acc.reverse
    if (← peek) = .key then
      let item ← addCollection ⟨none, none, false⟩ .map do
        advance
        let k ← nodeUnless fuel false false [.value, .comma, .flowListEnd]
        let v ← valueUnless fuel false [.comma, .flowListEnd]
        return .map [(k, v)]
      flowList fuel false (item :: acc)
    else
      let item ← node fuel false false
      flowList fuel false (item :: acc)

/-- The rest of a flow mapping and its end; an entry may be a key alone. -/
def flowMap : Nat → Bool → List (Nat × Nat) → Compose (List (Nat × Nat))
  | 0, _, _ => misplaced
  | fuel + 1, first, acc => do
    if ← accept .flowMapEnd then return acc.reverse
    if !first then
      if !(← accept .comma) then misplaced
    if ← accept .flowMapEnd then return acc.reverse
    if ← accept .key then
      let k ← nodeUnless fuel false false [.value, .comma, .flowMapEnd]
      let v ← valueUnless fuel false [.comma, .flowMapEnd]
      flowMap fuel false ((k, v) :: acc)
    else
      let k ← node fuel false false
      let v ← addBlank
      flowMap fuel false ((k, v) :: acc)

end

/-! ## Documents -/

/-- Passes over the directives in front of a document, given what was seen of them. -/
def directives (versioned : Bool) (handles : List (String × String)) : List Token → Compose Unit
  | .version major :: rest => do
    if versioned || major ≠ 1 then misplaced
    advance
    directives true handles rest
  | .shorthand handle beginning :: rest => do
    if (handles.lookup handle).isSome then misplaced
    advance
    directives versioned ((handle, beginning) :: handles) rest
  | .otherDirective :: rest => do
    advance
    directives versioned handles rest
  | _ => modify fun s => { s with handles := handles ++ defaultHandles }

def documentEnds : List Token → Compose Unit
  | .documentEnd :: rest => do
    advance
    documentEnds rest
  | _ => return ()

/-- Passes over the start of a document, if one follows. -/
def documentStart : Compose Bool := do
  documentEnds (← get).tokens
  if (← peek) = .textEnd then return false
  directives false [] (← get).tokens
  if ← accept .documentStart then return true else misplaced

/-- The root of the first document, if there is one. Without a mark at its start it cannot be
empty. -/
def root? (fuel : Nat) : Compose (Option Nat) := do
  let t ← peek
  if t.isDirective || t = .documentStart || t = .textEnd then
    if ← documentStart then
      let t ← peek
      if t.isDirective || t = .documentStart || t = .documentEnd || t = .textEnd then
        return some (← addBlank)
      else return some (← node fuel true false)
    else return none
  else return some (← node fuel true false)

/-- The root of the only document, if there is one. -/
def onlyRoot? (fuel : Nat) : Compose (Option Nat) := do
  match ← root? fuel with
  | none => return none
  | some n =>
    let _ ← accept .documentEnd
    if ← documentStart then throw .composition
    return some n

end Composer

/-- The document in a source, if there is one. -/
def Document.read? (source : Source) : Except Fault (Option Document) := do
  let (tokens, fault) := Token.scan source
  let (root, s) ← (Composer.onlyRoot? (4 * tokens.length + 4)).run (.start tokens fault)
  return root.map fun n => ⟨s.nodes, n⟩

end FlowGate.Yaml
