import FlowGate.Number.Double

/-!
# The shortest decimal of a double

Between a double and each of its neighbours lies a midpoint; every decimal between the two
midpoints reads back as the double, and the midpoints themselves do when the significand is even.
`Shortest.decimal` looks at the grids of 1, 2, … 17 digits and takes the first that has a point in
that interval: of the two grid points around the value the one that lies in it, the nearer one if
both do. `Double.toText` then writes the digits in positional form where the point falls between
the fourth zero and the sixteenth digit, and with an exponent elsewhere.
-/

namespace FlowGate

/-- A decimal `digits * 10 ^ power`. -/
structure Decimal where
  digits : Nat
  power : Int
  deriving DecidableEq, Repr

namespace Shortest

/-- A positive value with the midpoints around it, as multiples of one unit fraction `1 / unit`. -/
structure Window where
  low : Nat
  value : Nat
  high : Nat
  unit : Nat
  /-- Whether the midpoints themselves belong to the value. -/
  closed : Bool
  deriving DecidableEq, Repr

/-- The window of the double at a positive place. The lower neighbour of a power of two is only
half as far away as the upper one. -/
def window (place : Nat) : Window :=
  let s := Double.significand place
  let e := Double.exponent place - 2
  let up := Nat.pow 2 e.toNat
  let nearBelow := s == Double.binade && 2 * Double.binade ≤ place
  { low := (4 * s - if nearBelow then 1 else 2) * up
    value := 4 * s * up
    high := (4 * s + 2) * up
    unit := Nat.pow 2 (-e).toNat
    closed := s % 2 == 0 }

namespace Window

def admits (w : Window) (d : Decimal) : Bool :=
  let n := d.digits * Nat.pow 10 d.power.toNat * w.unit
  let scale := Nat.pow 10 (-d.power).toNat
  if w.closed then w.low * scale ≤ n && n ≤ w.high * scale
  else w.low * scale < n && n < w.high * scale

/-- The greatest multiple of `10 ^ power` not above the value. -/
def below (w : Window) (power : Int) : Decimal :=
  ⟨w.value * Nat.pow 10 (-power).toNat / (w.unit * Nat.pow 10 power.toNat), power⟩

/-- Whether the value lies above the middle of a grid cell, or on it with an odd lower end. -/
def prefersUpper (w : Window) (d : Decimal) : Bool :=
  let cell := w.unit * Nat.pow 10 d.power.toNat
  let twice := 2 * (w.value * Nat.pow 10 (-d.power).toNat % cell)
  cell < twice || (cell == twice && d.digits % 2 == 1)

/-- The grid point of the window nearest to the value, if the grid has one. -/
def onGrid? (w : Window) (power : Int) : Option Decimal :=
  let lower := w.below power
  let upper := { lower with digits := lower.digits + 1 }
  match w.admits lower, w.admits upper with
  | true, true => some (if w.prefersUpper lower then upper else lower)
  | true, false => some lower
  | false, true => some upper
  | false, false => none

/-- The number `k` with `10 ^ (k - 1) ≤ value < 10 ^ k`. -/
def magnitude (w : Window) : Int :=
  let whole := w.value / w.unit
  if 0 < whole then (Nat.toDigits 10 whole).length
  else
    match (List.range 400).find? fun z => w.unit ≤ w.value * Nat.pow 10 (z + 1) with
    | some z => -(z : Int)
    | none => -400

end Window

/-- The decimal with the fewest digits that reads back as the double at a positive place. -/
def decimal (place : Nat) : Decimal :=
  let w := window place
  let k := w.magnitude
  ((List.range 17).findSome? fun n => w.onGrid? (k - (n + 1 : Nat))).getD (w.below (k - 17))

end Shortest

/-- The decimal without its trailing zeros. -/
def Decimal.trim (d : Decimal) : Decimal :=
  let text := Nat.toDigits 10 d.digits
  let kept := text.reverse.dropWhile (· == '0')
  let dropped := text.length - kept.length
  ⟨d.digits / Nat.pow 10 dropped, d.power + dropped⟩

/-- Positional form: at least one digit on either side of the point. -/
def Decimal.positional (digits : List Char) (point : Int) : List Char :=
  if point ≤ 0 then
    ['0', '.'] ++ List.replicate (-point).toNat '0' ++ digits
  else if digits.length ≤ point.toNat then
    digits ++ List.replicate (point.toNat - digits.length) '0' ++ ['.', '0']
  else digits.take point.toNat ++ ['.'] ++ digits.drop point.toNat

/-- Exponent form: one digit before the point, an exponent with sign and at least two digits. -/
def Decimal.scientific (digits : List Char) (point : Int) : List Char :=
  let power := (Nat.toDigits 10 (point - 1).natAbs)
  let mantissa := digits.take 1 ++ (if 1 < digits.length then '.' :: digits.drop 1 else [])
  mantissa ++ ['e', if point ≤ 0 then '-' else '+']
    ++ List.replicate (2 - power.length) '0' ++ power

def Decimal.toChars (d : Decimal) : List Char :=
  let t := d.trim
  let digits := Nat.toDigits 10 t.digits
  let point := t.power + digits.length
  if -4 < point && point ≤ 16 then Decimal.positional digits point
  else Decimal.scientific digits point

/-- The shortest text that reads back as the double. -/
def Double.toText : Double → String
  | .nan => "nan"
  | .infinite negative => if negative then "-inf" else "inf"
  | .finite negative place =>
    let body := if place.val = 0 then ['0', '.', '0'] else (Shortest.decimal place).toChars
    String.ofList (if negative then '-' :: body else body)

end FlowGate
