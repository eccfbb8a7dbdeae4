/-!
# Doubles

The finite non-negative doubles, in increasing order, are numbered `0, 1, 2, …` up to
`Double.limit`; a double is a signed place in that order, an infinity, or the one not-a-number.
Each double has one form, so equality of forms tells doubles apart (`0.0` from `-0.0` too), while
`Double.same` compares the numbers. Everything is exact arithmetic on naturals: a ratio or a
decimal is rounded once, to the nearest place, and a tie goes to the even place.
-/

namespace FlowGate

/-- The number of places with one exponent. -/
def Double.binade : Nat := Nat.pow 2 52

/-- The number of finite non-negative doubles. -/
def Double.limit : Nat := 2047 * binade

inductive Double where
  | nan
  | infinite (negative : Bool)
  | finite (negative : Bool) (place : Fin Double.limit)
  deriving DecidableEq, Repr

namespace Double

/-- The integer `s` of the value `s * 2 ^ e` at a place. -/
def significand (place : Nat) : Nat :=
  if place < binade then place else binade + place % binade

/-- The exponent `e` of the value `s * 2 ^ e` at a place. -/
def exponent (place : Nat) : Int :=
  if place < binade then -1074 else (place / binade : Nat) - 1075

/-- `num / den` to the nearest integer; a tie goes to the even one. -/
def divNearest (num den : Nat) : Nat :=
  let low := num / den
  let twice := 2 * (num % den)
  if twice < den then low
  else if den < twice then low + 1
  else low + low % 2

/-- The least exponent, not below that of the smallest place, at which `num / den` has at most
53 binary digits. -/
def scaleOf (num den : Nat) : Int :=
  let estimate : Int := (num.log2 : Int) - den.log2 - 53
  let up := Nat.pow 2 (-(estimate + 53)).toNat
  let down := Nat.pow 2 (estimate + 53).toNat
  let scale := if num * up < den * down then estimate else estimate + 1
  max scale (-1074)

/-- The place nearest to `num / den`; it is `limit` or more where the ratio is too large. -/
def nearestPlace (num den : Nat) : Nat :=
  if num = 0 then 0
  else
    let scale := scaleOf num den
    let up := Nat.pow 2 (-scale).toNat
    let down := Nat.pow 2 scale.toNat
    (scale + 1074).toNat * binade + divNearest (num * up) (den * down)

/-- The double at a place, an infinity past the last one. -/
def ofPlace (negative : Bool) (place : Nat) : Double :=
  if h : place < limit then .finite negative ⟨place, h⟩ else .infinite negative

def ofRatio (negative : Bool) (num den : Nat) : Double :=
  ofPlace negative (nearestPlace num den)

/-- The double nearest to `digits * 10 ^ power`. Powers past the range of doubles are settled
without computing them. -/
def ofDecimal (negative : Bool) (digits : Nat) (power : Int) : Double :=
  if digits = 0 then ofPlace negative 0
  else if 310 < power then .infinite negative
  else if power + (digits.log2 + 1 : Nat) < -330 then ofPlace negative 0
  else ofRatio negative (digits * Nat.pow 10 power.toNat) (Nat.pow 10 (-power).toNat)

def zero : Double := ofPlace false 0

/-- The double nearest to an integer, if there is a finite one. -/
def ofInt? (n : Int) : Option Double :=
  let place := nearestPlace n.natAbs 1
  if h : place < limit then some (.finite (n < 0) ⟨place, h⟩) else none

/-- The integer that a double is, if it is one. -/
def toInt? : Double → Option Int
  | .finite negative place =>
    let s := significand place
    let e := exponent place
    let scale := Nat.pow 2 (-e).toNat
    if s % scale = 0 then
      let n : Nat := s / scale * Nat.pow 2 e.toNat
      some (if negative then -(n : Int) else n)
    else none
  | _ => none

/-- The number in units of the smallest positive double, of which every finite one is a whole
number. -/
def units? : Double → Option Int
  | .finite negative place =>
    let n : Nat := significand place * Nat.pow 2 (exponent place + 1074).toNat
    some (if negative then -(n : Int) else n)
  | _ => none

/-- The double nearest to a whole number of units. -/
def ofUnits (n : Int) : Double := ofRatio (n < 0) n.natAbs (Nat.pow 2 1074)

/-- The sum, rounded once; what is not finite swallows the other part. -/
def add (x y : Double) : Double :=
  match x.units?, y.units? with
  | some m, some n => ofUnits (m + n)
  | none, _ => x
  | _, none => y

/-- The product, rounded once; what is not finite swallows the other part, and a zero has no
sign. -/
def mul (x y : Double) : Double :=
  match x.units?, y.units? with
  | some m, some n => ofRatio (m * n < 0) (m * n).natAbs (Nat.pow 2 2148)
  | none, _ => x
  | _, none => y

def neg : Double → Double
  | .finite negative place => .finite (!negative) place
  | .infinite negative => .infinite (!negative)
  | .nan => .nan

def isZero : Double → Bool
  | .finite _ place => place.val == 0
  | _ => false

/-- Equality as numbers: the zeros are equal and a not-a-number equals nothing. -/
def same : Double → Double → Bool
  | .nan, _ => false
  | x, y => x == y || (x.isZero && y.isZero)

def isFinite : Double → Bool
  | .finite _ _ => true
  | _ => false

end Double

end FlowGate
