/-!
# Doubles

A finite 64-bit binary floating-point number is a sign and a whole number of steps of the least positive double,
2⁻¹⁰⁷⁴, so equal numbers have equal representations and all arithmetic is exact arithmetic on naturals followed
by one rounding (`nearest`) to 53 significant bits, ties to the even neighbour.
-/
set_option autoImplicit false

namespace DottedSchema

structure Double where
  negative : Bool
  units : Nat
deriving DecidableEq, Inhabited

namespace Double

def one : Nat := Nat.pow 2 1074

/-- The number of units of the first power of two that is too large. -/
def limit : Nat := Nat.pow 2 2098

def roundQuotient (num den : Nat) : Nat :=
  let low := num / den
  let rest := 2 * (num % den)
  if rest < den then low else if den < rest then low + 1 else low + low % 2

/-- The distance between neighbouring doubles around `units`. -/
def spacing (units : Nat) : Nat := Nat.pow 2 (units.log2 - 52)

def nearest (num den : Nat) : Nat :=
  roundQuotient num (den * spacing (num / den)) * spacing (num / den)

def ofNat (n : Nat) : Double := ⟨false, nearest (n * one) 1⟩

def neg (x : Double) : Double := { x with negative := !x.negative }

def isFinite (x : Double) : Bool := x.units < limit

def mul (x y : Double) : Double := ⟨x.negative != y.negative, nearest (x.units * y.units) one⟩

def div (x y : Double) : Double := ⟨x.negative != y.negative, nearest (x.units * one) y.units⟩

def powerOfTen (k : Nat) : Double := ofNat (Nat.pow 10 k)

def scaleDown (x : Double) (k : Nat) : Double :=
  if k ≤ 308 then x.div (powerOfTen k)
  else if x.units = 0 then x
  else scaleDown (x.div (powerOfTen 308)) (k - 308)
termination_by k

def scaleTen (x : Double) (k : Int) : Option Double :=
  if k < 0 then some (x.scaleDown k.natAbs)
  else if k ≤ 308 then
    let y := x.mul (powerOfTen k.toNat)
    if y.isFinite then some y else none
  else if x.units = 0 then some x
  else none

/-- Equality of the numbers: the two zeros are one number. -/
def beq (x y : Double) : Bool := x.units == y.units && (x.units == 0 || x.negative == y.negative)

instance : BEq Double := ⟨beq⟩

theorem beq_iff {x y : Double} : (x == y) = true ↔ x.units = y.units ∧ (x.units = 0 ∨ x.negative = y.negative) := by
  change beq x y = true ↔ _
  simp [beq]

instance : ReflBEq Double where
  rfl := beq_iff.2 ⟨rfl, .inr rfl⟩

instance : PartialEquivBEq Double where
  symm h := by
    obtain ⟨hu, hn⟩ := beq_iff.1 h
    exact beq_iff.2 ⟨hu.symm, hn.imp (fun h => hu ▸ h) Eq.symm⟩
  trans h k := by
    obtain ⟨hu, hn⟩ := beq_iff.1 h
    obtain ⟨ku, kn⟩ := beq_iff.1 k
    refine beq_iff.2 ⟨hu.trans ku, ?_⟩
    rcases hn with hn | hn
    · exact .inl hn
    · exact kn.imp (fun k => hu.trans k) hn.trans

end Double

end DottedSchema
