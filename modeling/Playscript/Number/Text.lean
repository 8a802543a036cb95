/-
This file reads and writes numbers. Expressions hold digits, and digits with a point between them.
A floating-point number is written with the fewest digits that tell it from its neighbours, always
positionally and never with an exponent, and a whole number has no point.

These digits are found by a search. Of all decimals that are nearer to a number than to any other
such number, one with the fewest digits is taken, of these the nearest, and of two that are equally
near the larger one. The search runs over grids of decimals, from coarse to fine, and all
comparisons are between natural numbers.
-/

import Playscript.Number.Exact

namespace Playscript

/-! ### Reading -/

/-- The value of decimal digits; none if a character is no digit. -/
def digitsValue? (digits : List Char) : Option Nat :=
  digits.foldl (fun value? digit =>
    value?.bind fun value =>
      if digit.isDigit then some (10 * value + (digit.toNat - '0'.toNat)) else none) (some 0)

/-- Digits as a 64-bit integer; none if they do not fit. -/
def readInt? (digits : List Char) : Option Int64 :=
  (digitsValue? digits).bind fun value => int64? value

/-- Digits, a point and digits as the nearest floating-point number. -/
def readFloat? (text : List Char) : Option Float :=
  let whole := text.takeWhile (· ≠ '.')
  match text.dropWhile (· ≠ '.') with
  | [] => none
  | _ :: fraction =>
    (digitsValue? (whole ++ fraction)).map fun digits =>
      Float.ofScientific digits true fraction.length

/-! ### Shortest decimals -/

/-- A decimal: digits, read as a natural number, and a power of ten. -/
structure Decimal where
  digits : Nat
  exponent : Int
  deriving DecidableEq, Repr

/-- The decimals that stand for a number: those between two bounds around it. All three are counted
in quarters of the unit of the number. -/
structure Surrounding where
  lower : Nat
  number : Nat
  upper : Nat
  /-- Whether the bounds themselves belong to the surrounding. -/
  closed : Bool
  /-- The quarter of the unit, as an exponent of two. -/
  exponent : Int
  deriving DecidableEq, Repr

namespace Surrounding

/-- The surrounding of a number reaches half-way to its neighbours. The neighbour below a power of
two is half as far away as the one above it, except at the smallest unit. A bound belongs to the
number whose count of units is even. -/
def ofParts (parts : Parts) : Surrounding :=
  let narrow := parts.units = Parts.leastNormal ∧ Parts.leastExponent < parts.exponent
  { lower := if narrow then 4 * parts.units - 1 else 4 * parts.units - 2
    number := 4 * parts.units
    upper := 4 * parts.units + 2
    closed := parts.units % 2 == 0
    exponent := parts.exponent - 2 }

/-- Whether a fraction lies between the bounds, which are given with the same denominator. -/
def holds (surrounding : Surrounding) (scale fraction : Nat) : Bool :=
  let lower := surrounding.lower * scale
  let upper := surrounding.upper * scale
  if surrounding.closed then lower ≤ fraction && fraction ≤ upper
  else lower < fraction && fraction < upper

/-- The point of the grid of multiples of a power of ten that stands for the number best, if one
does. Only the two points next to the number need to be looked at. -/
def onGrid? (surrounding : Surrounding) (grid : Int) : Option Decimal :=
  let scale := Nat.pow 2 surrounding.exponent.toNat * Nat.pow 10 (-grid).toNat
  let step := Nat.pow 2 (-surrounding.exponent).toNat * Nat.pow 10 grid.toNat
  let number := surrounding.number * scale
  let below := number / step
  let belowHolds := surrounding.holds scale (below * step)
  let aboveHolds := surrounding.holds scale ((below + 1) * step)
  if belowHolds && (!aboveHolds || 2 * number < (2 * below + 1) * step) then some ⟨below, grid⟩
  else if aboveHolds then some ⟨below + 1, grid⟩
  else none

/-- The first hit on the given number of grids, each ten times finer than the one before. -/
def search (surrounding : Surrounding) : Nat → Int → Option Decimal
  | 0, _ => none
  | grids + 1, grid =>
    match surrounding.onGrid? grid with
    | some decimal => some decimal
    | none => surrounding.search grids (grid - 1)

end Surrounding

namespace Decimal

/-- A finite number written out in full. -/
def exact (parts : Parts) : Decimal :=
  if parts.exponent < 0 then ⟨parts.units * Nat.pow 5 (-parts.exponent).toNat, parts.exponent⟩
  else ⟨parts.units * Nat.pow 2 parts.exponent.toNat, 0⟩

/-- The number of decimal digits before the point. -/
def wholeDigits (parts : Parts) : Nat :=
  (Nat.toDigits 10
    (parts.units * Nat.pow 2 parts.exponent.toNat / Nat.pow 2 (-parts.exponent).toNat)).length

/-- The shortest decimal that stands for a finite number other than zero. -/
def shortest (parts : Parts) : Decimal :=
  let coarsest := wholeDigits parts
  ((Surrounding.ofParts parts).search (coarsest + 345) coarsest).getD (exact parts)

end Decimal

/-! ### Writing -/

/-- A decimal written positionally. -/
def Decimal.positional (decimal : Decimal) : List Char :=
  let digits := Nat.toDigits 10 decimal.digits
  let places := (-decimal.exponent).toNat
  if places = 0 then digits ++ List.replicate decimal.exponent.toNat '0'
  else if places < digits.length then
    digits.take (digits.length - places) ++ '.' :: digits.drop (digits.length - places)
  else '0' :: '.' :: (List.replicate (places - digits.length) '0' ++ digits)

/-- A floating-point number as text. -/
def floatText (number : Float) : String :=
  if number.isNaN then "NaN"
  else
    let parts := Parts.ofFloat number
    let magnitude :=
      if number.isInf then ['i', 'n', 'f']
      else if parts.units = 0 then ['0']
      else (Decimal.shortest parts).positional
    String.ofList (if parts.negative then '-' :: magnitude else magnitude)

/-! ### Samples -/

example : floatText 0.1 = "0.1" := by decide +kernel

example : floatText 40 = "40" := by decide +kernel

example : floatText (-0.0) = "-0" := by decide +kernel

example : floatText 1e21 = "1000000000000000000000" := by decide +kernel

example : floatText 1125899906842624.25 = "1125899906842624.3" := by decide +kernel

end Playscript
