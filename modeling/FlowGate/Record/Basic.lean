import FlowGate.Value.Basic

/-!
# Records

A record is a mapping with known fields. A schema lists the fields with their kinds; the type of a
record is computed from its schema, so a field of kind `integer` holds an integer or nothing. The
entries of the mapping that no field uses are kept beside the fields, in `Record.extra`.

A field may hold further records. Their names come from a type of parts `P`, and `Item p` is the
type of the records named `p`.
-/

namespace FlowGate

/-- How a field is read and what it holds. -/
inductive FieldKind (P : Type) where
  | any
  | integer
  | number
  | boolean
  | texts
  | one (part : P)
  | many (part : P)
  deriving DecidableEq, Repr

/-- What a field of a kind holds; a field that was not given holds null, nothing or no items. -/
def FieldKind.Holds {P : Type} (Item : P → Type) : FieldKind P → Type
  | .any => Value
  | .integer => Option Int
  | .number => Option Double
  | .boolean => Option Bool
  | .texts => List String
  | .one p => Option (Item p)
  | .many p => List (Item p)

/-- A field: its name, the key under which it is stored, and its kind. -/
structure Field (P : Type) where
  name : String
  key : String
  kind : FieldKind P
  deriving DecidableEq, Repr

/-- One value for each field of a schema. -/
def Row {P : Type} (Item : P → Type) : List (Field P) → Type
  | [] => Unit
  | f :: fs => f.kind.Holds Item × Row Item fs

/-- Whether a key belongs to a field of the schema. -/
def hasKey {P : Type} (fs : List (Field P)) (k : Scalar) : Bool :=
  fs.any fun f => k == .str f.key

/-- The fields of a schema together with the entries that belong to none of them. -/
structure Record {P : Type} (Item : P → Type) (fs : List (Field P)) where
  row : Row Item fs
  extra : Entries
  extra_fresh : ∀ e ∈ extra, hasKey fs e.1 = false := by simp

namespace FieldKind

variable {P : Type} {Item : P → Type}

/-- What a field holds that was not given. -/
def absent : (k : FieldKind P) → k.Holds Item
  | .any => Value.null
  | .integer => (none : Option Int)
  | .number => (none : Option Double)
  | .boolean => (none : Option Bool)
  | .texts => ([] : List String)
  | .one p => (none : Option (Item p))
  | .many p => ([] : List (Item p))

instance instDecidableEqHolds [∀ p, DecidableEq (Item p)] :
    (k : FieldKind P) → DecidableEq (k.Holds Item)
  | .any => inferInstanceAs (DecidableEq Value)
  | .integer => inferInstanceAs (DecidableEq (Option Int))
  | .number => inferInstanceAs (DecidableEq (Option Double))
  | .boolean => inferInstanceAs (DecidableEq (Option Bool))
  | .texts => inferInstanceAs (DecidableEq (List String))
  | .one p => inferInstanceAs (DecidableEq (Option (Item p)))
  | .many p => inferInstanceAs (DecidableEq (List (Item p)))

end FieldKind

namespace Row

variable {P : Type} {Item : P → Type}

instance instDecidableEq [∀ p, DecidableEq (Item p)] :
    (fs : List (Field P)) → DecidableEq (Row Item fs)
  | [] => inferInstanceAs (DecidableEq Unit)
  | f :: fs =>
    have := @FieldKind.instDecidableEqHolds P Item _ f.kind
    have := instDecidableEq fs
    inferInstanceAs (DecidableEq (f.kind.Holds Item × Row Item fs))

/-- The row of a record of which nothing was given. -/
def absent : (fs : List (Field P)) → Row Item fs
  | [] => ()
  | f :: fs => (f.kind.absent, absent fs)

def get : {fs : List (Field P)} → Row Item fs → (i : Fin fs.length) → (fs.get i).kind.Holds Item
  | _ :: _, (x, _), ⟨0, _⟩ => x
  | _ :: _, (_, row), ⟨i + 1, h⟩ => get row ⟨i, Nat.lt_of_succ_lt_succ h⟩

end Row

namespace Record

variable {P : Type} {Item : P → Type} {fs : List (Field P)}

theorem ext_parts {r s : Record Item fs} (hrow : r.row = s.row) (hextra : r.extra = s.extra) :
    r = s := by
  cases r; cases s; cases hrow; cases hextra; rfl

instance [∀ p, DecidableEq (Item p)] : DecidableEq (Record Item fs) := fun r s =>
  have := @Row.instDecidableEq P Item _ fs
  if h : r.row = s.row ∧ r.extra = s.extra then .isTrue (ext_parts h.1 h.2)
  else .isFalse fun e => h ⟨by rw [e], by rw [e]⟩

def absent (fs : List (Field P)) : Record Item fs := { row := Row.absent fs, extra := [] }

end Record

end FlowGate
