import DottedSchema.Double

set_option autoImplicit false

namespace DottedSchema.Double

/-- A decimal `0.d₁d₂… · 10 ^ point`, its digits given as one number. -/
structure Decimal where
  digits : Nat
  point : Int
deriving DecidableEq

def digitCount (n : Nat) : Nat := if n = 0 then 0 else (Nat.toDigits 10 n).length

/-- The position of the first digit of a positive number of units, relative to the decimal point. -/
def pointOf (units : Nat) : Int :=
  if one ≤ units then digitCount (units / one) else 1 - (digitCount ((one - 1) / units) : Int)

/-- Quarters of a unit between `units` and the lower end of the interval that rounds to it. -/
def reachBelow (units : Nat) : Nat :=
  if units = Nat.pow 2 52 * spacing units ∧ 1 < spacing units then spacing units else 2 * spacing units

/-- Whether the decimal `digits · 10 ^ place` rounds to `units`; `up` and `down` are the powers of ten that
scale both to one grid. -/
def roundsTo (units up down digits : Nat) : Bool :=
  let candidate := digits * (4 * one * down)
  let low := (4 * units - reachBelow units) * up
  let high := (4 * units + 2 * spacing units) * up
  if units / spacing units % 2 = 0 then decide (low ≤ candidate) && decide (candidate ≤ high)
  else decide (low < candidate) && decide (candidate < high)

def withDigits (units count : Nat) : Option Decimal :=
  let place := pointOf units - count
  let up := if place < 0 then Nat.pow 10 place.natAbs else 1
  let down := if place < 0 then 1 else Nat.pow 10 place.natAbs
  let num := units * up
  let den := one * down
  let low := num / den
  let nearer := roundQuotient num den
  let other := if nearer = low then low + 1 else low
  if roundsTo units up down nearer then some ⟨nearer, pointOf units⟩
  else if roundsTo units up down other then some ⟨other, pointOf units⟩
  else none

/-- Seventeen digits always suffice. -/
def shortest (units : Nat) : Decimal :=
  ((List.range 17).findSome? fun i => (withDigits units (i + 1)).map fun d =>
    if digitCount d.digits = i + 1 then d else ⟨d.digits, d.point + 1⟩).getD ⟨units, pointOf units⟩

def trimZeros (digits : List Char) : List Char := (digits.reverse.dropWhile (· = '0')).reverse

def zeros (n : Nat) : List Char := List.replicate n '0'

def layout (digits : List Char) (point : Int) : List Char :=
  let count := digits.length
  if 0 < point ∧ point ≤ 16 then
    let whole := point.toNat
    if count ≤ whole then digits ++ zeros (whole - count) ++ ['.', '0']
    else digits.take whole ++ '.' :: digits.drop whole
  else if -5 < point ∧ point ≤ 0 then '0' :: '.' :: zeros point.natAbs ++ digits
  else
    let exponent := point - 1
    let fraction := if count = 1 then [] else '.' :: digits.drop 1
    let sign := if exponent < 0 then '-' else '+'
    digits.take 1 ++ fraction ++ 'e' :: sign :: Nat.toDigits 10 exponent.natAbs

def text (x : Double) : String :=
  let magnitude := if x.units = 0 then ['0', '.', '0'] else
    let d := shortest x.units
    layout (trimZeros (Nat.toDigits 10 d.digits)) d.point
  String.ofList (if x.negative then '-' :: magnitude else magnitude)

end DottedSchema.Double
