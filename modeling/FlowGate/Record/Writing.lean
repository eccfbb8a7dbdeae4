import FlowGate.Record.Basic

/-!
# Writing records

A record is written as a mapping: its fields in the order of the schema, each under its key, then
the entries that belong to no field. A field that holds null or nothing is left out; one that holds
a list is always written.
-/

namespace FlowGate

variable {P : Type} {Item : P → Type}

/-- The value that stores what a field holds; null for a field that holds nothing. -/
def FieldKind.write (part : (p : P) → Item p → Value) : (k : FieldKind P) → k.Holds Item → Value
  | .any, v => v
  | .integer, (n : Option Int) => (n.map Value.int).getD .null
  | .number, (x : Option Double) => (x.map Value.float).getD .null
  | .boolean, (b : Option Bool) => (b.map Value.bool).getD .null
  | .texts, (ss : List String) => .list (ss.map Value.str)
  | .one p, (r : Option (Item p)) => (r.map (part p)).getD .null
  | .many p, (rs : List (Item p)) => .list (rs.map (part p))

def Row.write (part : (p : P) → Item p → Value) : (fs : List (Field P)) → Row Item fs → Entries
  | [], _ => []
  | f :: fs, (x, row) =>
    let v := f.kind.write part x
    if v = .null then Row.write part fs row
    else (.str f.key, v) :: Row.write part fs row

def Record.write (part : (p : P) → Item p → Value) {fs : List (Field P)} (r : Record Item fs) :
    Value :=
  .map (Row.write part fs r.row ++ r.extra)

end FlowGate
