import FlowGate.Text.Split

/-!
# Paths

A path is a root, which is empty for a relative path, and the parts between the slashes. Empty parts
and single dots are dropped, two dots are kept. Joining an absolute path replaces what stands before
it.
-/

namespace FlowGate

structure Path where
  root : String
  parts : List String
  deriving DecidableEq, Repr

namespace Path

/-- The root of a path: none, one slash, or exactly two of them. -/
def rootOf : List Char → String
  | '/' :: '/' :: '/' :: _ => "/"
  | '/' :: '/' :: _ => "//"
  | '/' :: _ => "/"
  | _ => ""

def ofText (s : String) : Path where
  root := rootOf s.toList
  parts := ((Text.split '/' s.toList).map String.ofList).filter fun p => p ≠ "" && p ≠ "."

def join (p : Path) (s : String) : Path :=
  let q := ofText s
  if q.root = "" then { p with parts := p.parts ++ q.parts } else q

/-- The text of a path; a dot for the empty one. -/
def toText (p : Path) : String :=
  let s := p.root ++ "/".intercalate p.parts
  if s = "" then "." else s

end Path

end FlowGate
