/-
This file holds what is exact about numbers. A result of integers is kept if it fits into 64 bits. A
finite floating-point number is taken apart into a sign and a whole number of units, where the unit
is a power of two, and whatever has to be exact about it is computed on these parts, such as the
remainder of a division.
-/

namespace Playscript

/-! ### Integers -/

/-- An exact result as a 64-bit integer, if it is one. -/
def int64? (number : Int) : Option Int64 :=
  if Int64.minValue.toInt ≤ number ∧ number ≤ Int64.maxValue.toInt then some (Int64.ofInt number)
  else none

theorem int64?_eq_some_iff {number : Int} {word : Int64} :
    int64? number = some word ↔ word.toInt = number := by
  unfold int64?
  constructor
  · intro fits
    split at fits
    · rename_i bounds
      cases fits
      exact Int64.toInt_ofInt_of_le bounds.1 (Int.lt_of_le_of_lt bounds.2 (by decide))
    · cases fits
  · rintro rfl
    rw [if_pos ⟨word.minValue_le_toInt, word.toInt_le⟩, Int64.ofInt_toInt]

/-! ### Parts of floating-point numbers -/

/-- A finite number: its sign, and how many units of which power of two it holds. -/
structure Parts where
  negative : Bool
  units : Nat
  exponent : Int
  deriving DecidableEq, Repr

namespace Parts

/-- The exponent of the smallest unit. -/
def leastExponent : Int := -1074

/-- A number whose unit is not the smallest one has at least so many units, and less than twice as
many. -/
def leastNormal : Nat := Nat.pow 2 52

/-- The parts of a finite number. Infinities and the number that is none have no parts. -/
def ofFloat (number : Float) : Parts :=
  let bits : Nat := number.toBits.toNat
  let field : Nat := bits / leastNormal % Nat.pow 2 11
  let fraction : Nat := bits % leastNormal
  { negative := bits / Nat.pow 2 63 == 1
    units := if field = 0 then fraction else leastNormal + fraction
    exponent := if field = 0 then leastExponent else (field : Int) - 1075 }

/-- The number with the given parts. It is exact where fewer than 2^53 units of at least the
smallest exponent are given. -/
def toFloat (parts : Parts) : Float :=
  let sign := if parts.negative then Nat.pow 2 63 else 0
  let shift := min (52 - parts.units.log2) (parts.exponent - leastExponent).toNat
  let units := parts.units * Nat.pow 2 shift
  let exponent := parts.exponent - shift
  let magnitude :=
    if units < leastNormal then units
    else (exponent + 1075).toNat * leastNormal + (units - leastNormal)
  Float.ofBits (UInt64.ofNat (sign + magnitude))

end Parts

/-! ### Remainders -/

/-- What is left of the units of one number after as many whole multiples of another as fit. It has
the sign of the dividend. -/
def Parts.remainder (dividend divisor : Parts) : Parts :=
  let unit := min dividend.exponent divisor.exponent
  let whole (parts : Parts) : Nat := parts.units * Nat.pow 2 (parts.exponent - unit).toNat
  { negative := dividend.negative
    units := whole dividend % whole divisor
    exponent := unit }

/-- The exact remainder of a division whose quotient is cut off towards zero. -/
def remainder (dividend divisor : Float) : Float :=
  if dividend.isNaN || divisor.isNaN || dividend.isInf || divisor == 0.0 then 0.0 / 0.0
  else if divisor.isInf then dividend
  else ((Parts.ofFloat dividend).remainder (Parts.ofFloat divisor)).toFloat

end Playscript
