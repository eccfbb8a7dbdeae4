import FlowGate.Value.Text
import FlowGate.Yaml.Node
import FlowGate.Yaml.Scalar

/-!
# Reading YAML

`Yaml.read` gives the value of the one document in a file, null where there is none. The nodes are
worked through level by level: a list, mapping or set is taken up when all that waited before it are
done, scalars at once. A key that occurs again replaces the value in its place, and a key cannot be
a list, a mapping or a set. The entries of the mappings under the key `<<` are put in front of the
others.
-/

namespace FlowGate.Yaml

/-- What a node was found to stand for, other nodes by their numbers. -/
inductive Meaning where
  | scalar (s : Scalar)
  | list (items : List Nat)
  | map (entries : List (Nat × Nat))
  | set (entries : List (Nat × Nat))
  | pairs (entries : List (Nat × Nat))

structure Reader where
  nodes : Array Node
  meanings : Array (Option Meaning)
  /-- The nodes whose parts are still to be looked at. -/
  waiting : Array Nat

abbrev Read := StateT Reader (Except Fault)

namespace Reader

def start (nodes : Array Node) : Reader := ⟨nodes, nodes.map fun _ => none, #[]⟩

def fail {α : Type} : Read α := throw .construction

def nodeAt (n : Nat) : Read Node := return ((← get).nodes[n]?).getD default

def setNode (n : Nat) (node : Node) : Read Unit :=
  modify fun s => { s with nodes := s.nodes.setIfInBounds n node }

def entriesAt (n : Nat) : Read (List (Nat × Nat)) := do
  match (← nodeAt n).content with
  | .map entries => return entries
  | _ => fail

def itemsAt (n : Nat) : Read (List Nat) := do
  match (← nodeAt n).content with
  | .list items => return items
  | _ => fail

/-! ## Entries from elsewhere -/

mutual

/-- Puts the entries from elsewhere into a mapping, in front of its own. -/
def merge : Nat → Nat → Read Unit
  | 0, _ => fail
  | fuel + 1, n => do
    let merged ← mergeFrom fuel n 0 []
    if !merged.isEmpty then
      setNode n { ← nodeAt n with content := .map (merged ++ (← entriesAt n)) }

/-- Takes the marked entries out of a mapping from a place on: the entries that they bring in, after
some others. -/
def mergeFrom : Nat → Nat → Nat → List (Nat × Nat) → Read (List (Nat × Nat))
  | 0, _, _, _ => fail
  | fuel + 1, n, place, merged => do
    let entries ← entriesAt n
    match entries[place]? with
    | none => return merged
    | some (k, v) =>
      let key ← nodeAt k
      if key.tag = .merge then
        setNode n { ← nodeAt n with content := .map (entries.eraseIdx place) }
        mergeFrom fuel n place (merged ++ (← mergedEntries fuel v))
      else
        if key.tag = .default then setNode k { key with tag := .str }
        mergeFrom fuel n (place + 1) merged

/-- The entries that a value brings in: those of a mapping, or of a list of mappings, of which the
earlier ones win. -/
def mergedEntries : Nat → Nat → Read (List (Nat × Nat))
  | 0, _ => fail
  | fuel + 1, v => do
    match (← nodeAt v).content with
    | .map _ =>
      merge fuel v
      entriesAt v
    | .list items =>
      let parts ← items.mapM fun item => do
        let _ ← entriesAt item
        merge fuel item
        entriesAt item
      return parts.reverse.flatten
    | .scalar _ => fail

end

/-- A number of steps that merging does not exceed while no mapping is merged into itself. -/
def mergeBound : Read Nat := do
  let size := (← get).nodes.size
  return (size + 2) * (size + 2)

/-! ## Nodes -/

/-- The text of a scalar; a mapping with a default value stands for that. -/
def textAt : Nat → Nat → Read String
  | 0, _ => fail
  | fuel + 1, n => do
    match (← nodeAt n).content with
    | .scalar text => return text
    | .map entries =>
      match ← entries.findM? fun e => return (← nodeAt e.1).tag = .default with
      | some e => textAt fuel e.2
      | none => fail
    | .list _ => fail

def setMeaning (n : Nat) (m : Meaning) : Read Unit :=
  modify fun s => { s with meanings := s.meanings.setIfInBounds n (some m) }

/-- What a node stands for, as far as it was looked at. -/
def meaning? (n : Nat) : Read (Option Meaning) := return ((← get).meanings[n]?).getD none

/-- Takes a node up whose parts are looked at later. -/
def postpone (n : Nat) (m : Meaning) : Read Unit := do
  setMeaning n m
  modify fun s => { s with waiting := s.waiting.push n }

def visit (n : Nat) : Read Unit := do
  if (← meaning? n).isSome then return ()
  match (← nodeAt n).tag with
  | .list => postpone n (.list [])
  | .map => postpone n (.map [])
  | .set => postpone n (.set [])
  | .orderedMap | .pairs => postpone n (.pairs [])
  | .null | .bool | .int | .float | .binary | .timestamp | .str => do
    let text ← textAt (← get).nodes.size n
    setMeaning n (.scalar (← (← nodeAt n).tag.read text))
  | .merge | .default | .other _ => fail

def visitKey (n : Nat) : Read Unit := do
  visit n
  match ← meaning? n with
  | some (.scalar _) => return ()
  | _ => fail

/-- Takes the entries of a mapping up, those from elsewhere among them. -/
def visitEntries (n : Nat) : Read (List (Nat × Nat)) := do
  let _ ← entriesAt n
  merge (← mergeBound) n
  let entries ← entriesAt n
  entries.forM fun (k, v) => do
    visitKey k
    visit v
  return entries

/-- Takes up the one entry of a mapping in a list of pairs. -/
def visitPair (n : Nat) : Read (Nat × Nat) := do
  match ← entriesAt n with
  | [(k, v)] =>
    visit k
    visit v
    return (k, v)
  | _ => fail

def visitParts (n : Nat) : Read Unit := do
  match (← nodeAt n).tag with
  | .list =>
    let items ← itemsAt n
    items.forM visit
    setMeaning n (.list items)
  | .map => setMeaning n (.map (← visitEntries n))
  | .set => setMeaning n (.set (← visitEntries n))
  | _ => setMeaning n (.pairs (← (← itemsAt n).mapM visitPair))

/-- Takes up what waits from a place on. Every node waits at most once. -/
def visitWaiting : Nat → Nat → Read Unit
  | 0, _ => return ()
  | fuel + 1, place => do
    match (← get).waiting[place]? with
    | some n =>
      visitParts n
      visitWaiting fuel (place + 1)
    | none => return ()

/-! ## Values -/

/-- What stands for a value that holds itself, inside that value. -/
def loop : Meaning → Scalar
  | .map _ => .sealed .map "\x7b...\x7d" []
  | .set _ => .sealed .set "set(...)" []
  | _ => .sealed .list "[...]" []

def setLiteral (keys : List Scalar) : String :=
  if keys.isEmpty then "set()"
  else "\x7b" ++ ", ".intercalate (keys.map Scalar.literal) ++ "\x7d"

def pair (v w : Value) : Value :=
  .scalar (.sealed .pair ("(" ++ v.literal ++ ", " ++ w.literal ++ ")") (v.ints ++ w.ints))

def keyOf (meanings : Array (Option Meaning)) (n : Nat) : Scalar :=
  match meanings[n]? with
  | some (some (.scalar s)) => s
  | _ => .null

/-- The value of a node inside others, given the values that are known. -/
def value (meanings : Array (Option Meaning)) :
    Nat → List Nat → Nat → StateM (Array (Option Value)) Value
  | 0, _, _ => return .null
  | fuel + 1, around, n => do
    match (← get)[n]? with
    | some (some v) => return v
    | _ =>
      match meanings[n]? with
      | some (some m) =>
        if around.contains n then return .scalar (loop m)
        let v ← match m with
          | .scalar s => pure (.scalar s)
          | .list items => .list <$> items.mapM (value meanings fuel (n :: around))
          | .map entries => do
            let found ← entries.mapM fun e =>
              return (keyOf meanings e.1, ← value meanings fuel (n :: around) e.2)
            pure (.map (Entries.ofList found))
          | .set entries =>
            let found := Entries.ofList (entries.map fun e => (keyOf meanings e.1, .null))
            let keys := found.map Prod.fst
            pure (.scalar (.sealed .set (setLiteral keys) (keys.flatMap Scalar.ints)))
          | .pairs entries => do
            .list <$> entries.mapM fun e => do
              let v ← value meanings fuel (n :: around) e.1
              return pair v (← value meanings fuel (n :: around) e.2)
        modify (·.setIfInBounds n (some v))
        return v
      | _ => return .null

end Reader

def Document.value (d : Document) : Except Fault Value := do
  let size := d.nodes.size
  let visitAll : Read Unit := do
    Reader.visit d.root
    Reader.visitWaiting size 0
  let (_, r) ← visitAll.run (.start d.nodes)
  return ((Reader.value r.meanings (size + 1) [] d.root).run (d.nodes.map fun _ => none)).1

def read (bytes : List UInt8) : Except Fault Value := do
  match ← Document.read? (.ofBytes bytes) with
  | some d => d.value
  | none => return .null

end FlowGate.Yaml
