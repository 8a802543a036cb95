/-
This file reads JSON numbers as floating-point numbers. The digits are collected in 64 bits; digits
that do not fit any more only count for their place. The collected digits are then scaled by powers
of ten in steps that are rounded one by one, so the result can be off the nearest number by a
little.
-/

import Playscript.Json.Reader

namespace Playscript.Json

/-! ### Scaling -/

/-- The greatest power of ten that a floating-point number can be near to. -/
def greatestPower : Nat := 308

/-- A power of ten. -/
def power (exponent : Nat) : Float := Float.ofScientific 1 false exponent

/-- A number without so many of its decimal places. -/
def scaleDown (number : Float) (places : Nat) : Float :=
  if places ≤ greatestPower then number / power places
  else if number == 0.0 then number
  else scaleDown (number / power greatestPower) (places - greatestPower)
termination_by places
decreasing_by
  rename_i large _
  have positive : 0 < greatestPower := by decide
  omega

/-- A number with so many more decimal places; none if it becomes too large. -/
def scaleUp? (number : Float) (places : Nat) : Option Float :=
  if places ≤ greatestPower then
    let scaled := number * power places
    if scaled.isInf then none else some scaled
  else if number == 0.0 then some number
  else none

/-- Digits times a power of ten; none if the product is too large. -/
def scale? (digits : Nat) (exponent : Int) : Option Float :=
  if 0 ≤ exponent then scaleUp? (Float.ofNat digits) exponent.toNat
  else some (scaleDown (Float.ofNat digits) (-exponent).toNat)

/-! ### Digits -/

/-- Collected digits: their value, and the power of ten that they are multiples of. -/
structure Collected where
  value : Nat
  exponent : Int

namespace Collected

/-- Collected digits with one more, unless it does not fit. -/
def push? (collected : Collected) (digit : Char) : Option Nat :=
  let value := 10 * collected.value + (digit.toNat - '0'.toNat)
  if value < UInt64.size then some value else none

/-- Collects digits before the point. Those that do not fit raise the power of ten. -/
def whole : Collected → List Char → Collected
  | collected, [] => collected
  | collected, digit :: rest =>
    match collected.push? digit with
    | some value => whole ⟨value, 0⟩ rest
    | none => ⟨collected.value, rest.length + 1⟩

/-- Collects digits after the point. From the first that does not fit on they are left out. -/
def fraction : Collected → List Char → Collected
  | collected, [] => collected
  | collected, digit :: rest =>
    match collected.push? digit with
    | some value => fraction ⟨value, collected.exponent - 1⟩ rest
    | none => collected

end Collected

/-! ### Numbers -/

/-- The greatest exponent that is told from larger ones. -/
def greatestExponent : Nat := Int32.maxValue.toInt.toNat

/-- The value of decimal digits. -/
def digitsValue (digits : List Char) : Nat :=
  digits.foldl (fun value digit => 10 * value + (digit.toNat - '0'.toNat)) 0

namespace Reader

/-- Digits of which there is at least one. -/
def someDigits : Reader (List Char) := do
  let found ← digits
  if found = [] then
    if (← peek?).isSome then throw .malformed else throw .ended
  return found

/-- The digits before the point. A zero stands alone. -/
def wholeDigits : Reader (List Char) := do
  let found ← someDigits
  match found with
  | '0' :: _ :: _ => throw .malformed
  | _ => return found

/-- The number that collected digits stand for, with its exponent if one follows. -/
def exponentPart (collected : Collected) : Reader Float := do
  let mark ← peek?
  if mark ≠ some 'e' ∧ mark ≠ some 'E' then
    match scale? collected.value collected.exponent with
    | some number => return number
    | none => throw .malformed
  drop
  let sign ← peek?
  if sign = some '+' ∨ sign = some '-' then drop
  let exponent := digitsValue (← someDigits)
  let shift : Int := if sign = some '-' then -exponent else exponent
  if greatestExponent < exponent then
    if collected.value ≠ 0 ∧ 0 < shift then throw .malformed
    return 0
  match scale? collected.value (collected.exponent + shift) with
  | some number => return number
  | none => throw .malformed

/-- A number without its sign. -/
def magnitude : Reader Float := do
  let whole := Collected.whole ⟨0, 0⟩ (← wholeDigits)
  if (← peek?) = some '.' then
    drop
    exponentPart (whole.fraction (← someDigits))
  else exponentPart whole

/-- A number. -/
def number : Reader Float := do
  if (← peek?) = some '-' then
    drop
    return -(← magnitude)
  else magnitude

end Reader

end Playscript.Json
