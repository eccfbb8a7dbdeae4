import FlowGate.Number.Shortest
import FlowGate.Calendar

/-!
# Values

The content of a document: scalars, lists, and mappings whose keys are scalars, in the order in
which they were written. `Value.get?` and `Value.field` look a text key up; `Entries.insert`
replaces the value of an equal key in its place, where keys are equal if they are equal as numbers
(`1`, `1.0` and `true` are one key), the same point in time, or identical.
-/

namespace FlowGate

/-- What a sealed value is. -/
inductive SealedKind where
  | bytes
  | pair
  | set
  | list
  | map
  deriving DecidableEq, Repr

/-- A value without parts. A sealed one may have parts that nothing looks at; all that is known of
it is how it is written and which integers are in it. -/
inductive Scalar where
  | null
  | bool (b : Bool)
  | int (n : Int)
  | float (x : Double)
  | str (s : String)
  | date (d : Date)
  | moment (m : Moment)
  | sealed (kind : SealedKind) (written : String) (ints : List Int)
  deriving DecidableEq, Repr

inductive Value where
  | scalar (s : Scalar)
  | list (items : List Value)
  | map (entries : List (Scalar × Value))
  deriving Repr

abbrev Entries := List (Scalar × Value)

namespace Value

@[match_pattern] abbrev null : Value := .scalar .null
@[match_pattern] abbrev bool (b : Bool) : Value := .scalar (.bool b)
@[match_pattern] abbrev int (n : Int) : Value := .scalar (.int n)
@[match_pattern] abbrev float (x : Double) : Value := .scalar (.float x)
@[match_pattern] abbrev str (s : String) : Value := .scalar (.str s)

instance : Inhabited Value := ⟨null⟩

mutual

def decEq : (v w : Value) → Decidable (v = w)
  | .scalar s, .scalar t =>
    if h : s = t then .isTrue (by rw [h]) else .isFalse (by simp [h])
  | .list vs, .list ws =>
    match decEqList vs ws with
    | .isTrue h => .isTrue (by rw [h])
    | .isFalse h => .isFalse (by simp [h])
  | .map es, .map fs =>
    match decEqEntries es fs with
    | .isTrue h => .isTrue (by rw [h])
    | .isFalse h => .isFalse (by simp [h])
  | .scalar _, .list _ => .isFalse nofun
  | .scalar _, .map _ => .isFalse nofun
  | .list _, .scalar _ => .isFalse nofun
  | .list _, .map _ => .isFalse nofun
  | .map _, .scalar _ => .isFalse nofun
  | .map _, .list _ => .isFalse nofun
termination_by structural v => v

def decEqList : (vs ws : List Value) → Decidable (vs = ws)
  | [], [] => .isTrue rfl
  | [], _ :: _ => .isFalse nofun
  | _ :: _, [] => .isFalse nofun
  | v :: vs, w :: ws =>
    match decEq v w, decEqList vs ws with
    | .isTrue h, .isTrue g => .isTrue (by rw [h, g])
    | .isFalse h, _ => .isFalse (by simp [h])
    | _, .isFalse g => .isFalse (by simp [g])
termination_by structural vs => vs

def decEqEntries : (es fs : List (Scalar × Value)) → Decidable (es = fs)
  | [], [] => .isTrue rfl
  | [], _ :: _ => .isFalse nofun
  | _ :: _, [] => .isFalse nofun
  | (k, v) :: es, (l, w) :: fs =>
    match (inferInstance : Decidable (k = l)), decEq v w, decEqEntries es fs with
    | .isTrue e, .isTrue h, .isTrue g => .isTrue (by rw [e, h, g])
    | .isFalse e, _, _ => .isFalse (by simp [e])
    | _, .isFalse h, _ => .isFalse (by simp [h])
    | _, _, .isFalse g => .isFalse (by simp [g])
termination_by structural es => es

end

instance : DecidableEq Value := decEq

end Value

/-- Whether two scalars are one key of a mapping. -/
def Scalar.sameKey : Scalar → Scalar → Bool
  | .float x, .float y => x.same y || x == y
  | .float x, .int n | .int n, .float x => x.toInt? == some n
  | .float x, .bool b | .bool b, .float x => x.toInt? == some b.toInt
  | .int n, .bool b | .bool b, .int n => n == b.toInt
  | .moment m, .moment n => m.same n
  | s, t => s == t

namespace Entries

/-- The value under a text key. -/
def get? (es : Entries) (key : String) : Option Value :=
  (es.find? fun e => e.1 == .str key).map Prod.snd

/-- The value under a text key, null if there is none. -/
def field (es : Entries) (key : String) : Value :=
  (get? es key).getD .null

/-- The entries with a value under a key: in the place of the equal key, at the end if there is
none. -/
def insert (es : Entries) (key : Scalar) (v : Value) : Entries :=
  if es.any (·.1.sameKey key) then
    es.map fun e => if e.1.sameKey key then (e.1, v) else e
  else es ++ [(key, v)]

/-- The entries written one after the other, so that a later one replaces an earlier one of the same
key. -/
def ofList (es : List (Scalar × Value)) : Entries :=
  es.foldl (fun acc e => insert acc e.1 e.2) []

@[simp] theorem get?_nil (key : String) : get? [] key = none := rfl

theorem get?_cons (e : Scalar × Value) (es : Entries) (key : String) :
    get? (e :: es) key = if e.1 = .str key then some e.2 else get? es key := by
  by_cases h : e.1 = .str key <;> simp [get?, h]

theorem get?_append (es fs : Entries) (key : String) :
    get? (es ++ fs) key = (get? es key).or (get? fs key) := by
  induction es with
  | nil => simp
  | cons e es ih =>
    by_cases h : e.1 = .str key <;> simp [get?_cons, h, ih]

end Entries

namespace Value

def get? : Value → String → Option Value
  | .map es, key => Entries.get? es key
  | _, _ => none

/-- Whether a value counts as given: null, false, zero and whatever is empty do not. -/
def isGiven : Value → Bool
  | .scalar .null => false
  | .scalar (.bool b) => b
  | .scalar (.int n) => n != 0
  | .scalar (.float x) => !x.isZero
  | .scalar (.str s) => s != ""
  | .scalar (.date _) | .scalar (.moment _) => true
  | .scalar (.sealed _ written _) => !(["", "b''", "set()"].contains written)
  | .list items => !items.isEmpty
  | .map entries => !entries.isEmpty

/-- The value, or another one in place of what does not count as given. -/
def orElse (v w : Value) : Value := if v.isGiven then v else w

def isScalar : Value → Bool
  | .scalar _ => true
  | _ => false

/-- Whether a value can be a key: lists, mappings and sets cannot. -/
def isKey : Value → Bool
  | .scalar (.sealed kind _ _) => kind = .bytes || kind = .pair
  | v => v.isScalar

@[simp] theorem isGiven_null : isGiven .null = false := rfl

end Value

end FlowGate
