import FlowGate.Project.Path

/-!
# Files

What stands at a path: nothing, a folder, or a file with its bytes; a name may also be too long to
be looked up. `FileTree.entry` looks a path up in a tree of files around the current folder. Two
dots lead to the folder above, also above the current one, where nothing else is known.
-/

namespace FlowGate

inductive FileEntry where
  | missing
  | folder
  | file (bytes : List UInt8)
  | nameTooLong
  deriving DecidableEq

/-- What stands at a path in a folder that is made up of some texts, given the parts of their
paths. -/
def FileEntry.ofTexts (texts : List (List String × String)) (p : Path) : FileEntry :=
  if p.parts = [] then .folder
  else
    match texts.lookup p.parts with
    | some s => .file s.toUTF8.data.toList
    | none => .missing

/-- Whether a part of a path is longer than a name can be. -/
def isLongName (part : String) : Bool := 255 < part.utf8ByteSize

/-- Whether a path is longer than a path can be. -/
def Path.isLong (p : Path) : Bool := 4096 ≤ p.toText.utf8ByteSize

/-- Whether a path has a character that ends a path early. -/
def Path.isCut (p : Path) : Bool := p.parts.any (·.toList.contains '\x00')

/-- Files and folders by their parts below the current folder; the folders around them are
implied. -/
structure FileTree where
  files : List (List String × List UInt8)
  folders : List (List String)

namespace FileTree

/-- What stands at some parts below the current folder. -/
def at? (t : FileTree) (parts : List String) : FileEntry :=
  match t.files.lookup parts with
  | some bytes => .file bytes
  | none =>
    if parts.isEmpty || t.files.any (parts.isPrefixOf ·.1) || t.folders.any (parts.isPrefixOf ·)
    then .folder else .missing

/-- A folder: one in the tree, or one outside. -/
inductive Place where
  | inside (parts : List String)
  | outside

/-- What stands at some parts after a folder was reached. -/
def walk (t : FileTree) : Place → List String → FileEntry
  | .inside here, [] => t.at? here
  | .outside, [] => .folder
  | .outside, p :: ps =>
    if p = ".." then walk t .outside ps
    else if isLongName p then .nameTooLong
    else .missing
  | .inside here, p :: ps =>
    if t.at? here ≠ .folder then .missing
    else if p = ".." then
      walk t (if here.isEmpty then .outside else .inside here.dropLast) ps
    else if isLongName p then .nameTooLong
    else walk t (.inside (here ++ [p])) ps

def entry (t : FileTree) (p : Path) : FileEntry :=
  if p.isCut then .missing
  else if p.isLong then .nameTooLong
  else t.walk (if p.root = "" then .inside [] else .outside) p.parts

end FileTree

end FlowGate
