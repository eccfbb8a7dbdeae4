/-!
# Tags

A tag says what a node stands for. The tags of the language share a beginning; all others are
foreign and stand for nothing.
-/

namespace FlowGate.Yaml

inductive Tag where
  | null
  | bool
  | int
  | float
  | binary
  | timestamp
  | str
  | list
  | map
  | set
  /-- A list of pairs of different keys. -/
  | orderedMap
  | pairs
  /-- The mark for entries from elsewhere. -/
  | merge
  /-- The mark for the value of a mapping that stands for a scalar. -/
  | default
  | other (text : String)
  deriving DecidableEq, Repr

namespace Tag

/-- The beginning of the tags of the language. -/
def beginning : String := "tag:yaml.org,2002:"

/-- The tags of the language and their endings. -/
def endings : List (String × Tag) :=
  [("null", null), ("bool", bool), ("int", int), ("float", float), ("binary", binary),
    ("timestamp", timestamp), ("str", str), ("seq", list), ("map", map), ("set", set),
    ("omap", orderedMap), ("pairs", pairs), ("merge", merge), ("value", default)]

def ofText (s : String) : Tag :=
  ((endings.find? (beginning ++ ·.1 = s)).map Prod.snd).getD (other s)

end Tag

end FlowGate.Yaml
