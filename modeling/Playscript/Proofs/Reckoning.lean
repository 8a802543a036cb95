/-
This file compares the arithmetic of expressions with arithmetic on integers of any size. A
calculation is put together from 64-bit integers by operators, and it is worked out in two ways: as
an expression, and by hand, where every operation gives the exact number or says what is wrong with
it. Both come to the same number, or to the same error.

What comes out can also be read off without working anything out in turn. The operations are listed
as they are met, operands before their operator and left before right, and each of them is looked at
on the exact numbers of its operands. The first one that fails is the error of the whole, and if
none fails the result is the exact number. So no number that has been cut off ever goes on into the
rest of a calculation.
-/

import Mathlib.Data.Int.Order.Basic
import Playscript.Proofs.Outcomes

namespace Playscript

/-! ### Numbers that fit -/

/-- The least of the integers of expressions. -/
def leastWord : Int := -9223372036854775808

/-- Whether an exact number is one of the integers of expressions. -/
def IsWord (number : Int) : Prop := leastWord ≤ number ∧ number ≤ 9223372036854775807

instance (number : Int) : Decidable (IsWord number) := inferInstanceAs (Decidable (_ ∧ _))

theorem isWord_toInt (word : Int64) : IsWord word.toInt := ⟨word.minValue_le_toInt, word.toInt_le⟩

theorem int64?_of_isWord {number : Int} (fits : IsWord number) :
    ∃ word : Int64, int64? number = some word ∧ word.toInt = number := by
  have found : int64? number = some (Int64.ofInt number) := if_pos fits
  exact ⟨_, found, int64?_eq_some_iff.mp found⟩

theorem int64?_eq_none_iff {number : Int} : int64? number = none ↔ ¬ IsWord number := by
  constructor
  · intro nothing fits
    obtain ⟨word, found, -⟩ := int64?_of_isWord fits
    rw [nothing] at found
    cases found
  · exact fun large => if_neg large

/-- A quotient is no larger than the dividend, but the least integer has no opposite. -/
theorem isWord_tdiv_iff {left right : Int} (fits : IsWord left) :
    IsWord (left.tdiv right) ↔ ¬ (left = leastWord ∧ right = -1) := by
  unfold IsWord leastWord at *
  constructor
  · rintro ⟨-, le⟩ ⟨rfl, rfl⟩
    exact absurd le (by decide)
  · intro other
    have small := Int.natAbs_tdiv_le_natAbs left right
    by_cases opposite : right = -1
    · subst opposite
      rw [Int.tdiv_neg, Int.tdiv_one]
      omega
    by_cases unchanged : right = 1
    · subst unchanged
      rwa [Int.tdiv_one]
    · have half : (left.tdiv right).natAbs ≤ left.natAbs / 2 := by
        by_cases isZero : right = 0
        · subst isZero
          rw [Int.tdiv_zero]
          exact Nat.zero_le _
        · rw [Int.natAbs_tdiv]
          exact Nat.div_le_div_left (by omega) (by decide)
      omega

/-! ### Calculations -/

/-- The operators of arithmetic. -/
inductive ArithmeticOperator where
  | add
  | subtract
  | multiply
  | divide
  | modulo
  deriving DecidableEq, Repr

namespace ArithmeticOperator

/-- The operator in expressions. -/
def binary : ArithmeticOperator → BinaryOperator
  | add => .add
  | subtract => .subtract
  | multiply => .multiply
  | divide => .divide
  | modulo => .modulo

theorem not_isLogical_binary (operator : ArithmeticOperator) :
    operator.binary.isLogical = false := by
  cases operator <;> rfl

/-- The number that an operator gives. A quotient is cut off towards zero, and a remainder has the
sign of the dividend. -/
def exact (operator : ArithmeticOperator) (left right : Int) : Int :=
  match operator with
  | add => left + right
  | subtract => left - right
  | multiply => left * right
  | divide => left.tdiv right
  | modulo => left.tmod right

/-- What is wrong with an operation, if anything is. The remainder of the least integer by minus one
counts as one that does not fit, although it is zero. -/
def failure? (operator : ArithmeticOperator) (left right : Int) : Option EvalError :=
  if (operator = divide ∨ operator = modulo) ∧ right = 0 then some .divisionByZero
  else if operator = modulo ∧ left = leastWord ∧ right = -1 then some (.overflow .modulo)
  else if IsWord (operator.exact left right) then none
  else some (.overflow operator.binary)

/-- The exact number that an operation gives, or what is wrong with it. -/
def outcome (operator : ArithmeticOperator) (left right : Int) : Except EvalError Int :=
  match operator.failure? left right with
  | none => .ok (operator.exact left right)
  | some error => .error error

end ArithmeticOperator

/-- What is put together from integers by operators. Parentheses only show how. -/
inductive Calculation where
  | number (word : Int64)
  | negate (operand : Calculation)
  | operate (operator : ArithmeticOperator) (left right : Calculation)
  deriving DecidableEq

namespace Calculation

/-- A calculation as an expression. -/
def expr : Calculation → Expr
  | number word => .literal (.int word)
  | negate operand => .unary .negate operand.expr
  | operate operator left right => .binary operator.binary left.expr right.expr

/-- A calculation worked out by hand, the left operand first. The first error ends it. -/
def reckon : Calculation → Except EvalError Int
  | number word => .ok word.toInt
  | negate operand => do
    let value ← operand.reckon
    if IsWord (-value) then .ok (-value) else .error (.unaryOverflow .negate)
  | operate operator left right => do
    let first ← left.reckon
    let second ← right.reckon
    operator.outcome first second

/-- The number that a calculation stands for where nothing fails. -/
def exact : Calculation → Int
  | number word => word.toInt
  | negate operand => -operand.exact
  | operate operator left right => operator.exact left.exact right.exact

/-- What is wrong with the last operation of a calculation. -/
def failure? : Calculation → Option EvalError
  | number _ => none
  | negate operand => if IsWord (-operand.exact) then none else some (.unaryOverflow .negate)
  | operate operator left right => operator.failure? left.exact right.exact

/-- The calculations that are met on the way, in order: the operands of an operator before the
operator, and the left one first. -/
def parts : Calculation → List Calculation
  | number word => [number word]
  | negate operand => operand.parts ++ [negate operand]
  | operate operator left right => left.parts ++ right.parts ++ [operate operator left right]

/-- The first failure that is met. -/
def firstFailure? (calculation : Calculation) : Option EvalError :=
  calculation.parts.findSome? failure?

end Calculation

/-! ### Expressions -/

/-- An outcome is what is worked out by hand: the same error, or the same number as an integer. -/
inductive IsExact : Except EvalError Value → Except EvalError Int → Prop
  | integer (word : Int64) : IsExact (.ok (.int word)) (.ok word.toInt)
  | failure (error : EvalError) : IsExact (.error error) (.error error)

namespace ArithmeticOperator

theorem exact?_binary (operator : ArithmeticOperator) (left right : Int) :
    operator.binary.exact? left right = some (operator.exact left right) := by
  cases operator <;> rfl

theorem apply_binary (operator : ArithmeticOperator) (left right : Int64) :
    operator.binary.apply (.int left) (.int right) = intArithmetic operator.binary left right := by
  cases operator <;> rfl

/-- A remainder overflows where the quotient would. -/
theorem isExact_intArithmetic (operator : ArithmeticOperator) (left right : Int64) :
    IsExact (intArithmetic operator.binary left right)
      (operator.outcome left.toInt right.toInt) := by
  have noDivisor : right = 0 ↔ right.toInt = 0 := by rw [← Int64.toInt_inj, Int64.toInt_zero]
  have noOpposite : (int64? (left.toInt.tdiv right.toInt)).isNone = true ↔
      left.toInt = leastWord ∧ right.toInt = -1 := by
    rw [Option.isNone_iff_eq_none, int64?_eq_none_iff, isWord_tdiv_iff (isWord_toInt left), not_not]
  have isDivide : operator.binary = .divide ↔ operator = divide := by cases operator <;> decide
  have isModulo : operator.binary = .modulo ↔ operator = modulo := by cases operator <;> decide
  unfold intArithmetic outcome failure?
  simp only [isDivide, isModulo, noDivisor, noOpposite, exact?_binary]
  by_cases dividesByZero : (operator = divide ∨ operator = modulo) ∧ right.toInt = 0
  · rw [if_pos dividesByZero, if_pos dividesByZero]
    exact .failure _
  rw [if_neg dividesByZero, if_neg dividesByZero]
  by_cases leastByMinusOne : operator = modulo ∧ left.toInt = leastWord ∧ right.toInt = -1
  · rw [if_pos leastByMinusOne, if_pos leastByMinusOne, leastByMinusOne.1]
    exact .failure _
  rw [if_neg leastByMinusOne, if_neg leastByMinusOne]
  by_cases fits : IsWord (operator.exact left.toInt right.toInt)
  · obtain ⟨word, found, same⟩ := int64?_of_isWord fits
    rw [if_pos fits, found, ← same]
    exact .integer word
  · rw [if_neg fits, int64?_eq_none_iff.mpr fits]
    exact .failure _

end ArithmeticOperator

theorem isExact_negate (operand : Int64) :
    IsExact (UnaryOperator.negate.apply (.int operand))
      (if IsWord (-operand.toInt) then .ok (-operand.toInt)
        else .error (.unaryOverflow .negate)) := by
  unfold UnaryOperator.apply
  dsimp only
  by_cases fits : IsWord (-operand.toInt)
  · obtain ⟨word, found, same⟩ := int64?_of_isWord fits
    rw [if_pos fits, found, ← same]
    exact .integer word
  · rw [if_neg fits, int64?_eq_none_iff.mpr fits]
    exact .failure _

/-! ### Two ways to the outcome -/

namespace Calculation

/-- An expression comes to what is worked out by hand. -/
theorem exists_comesTo (calculation : Calculation) :
    ∃ outcome, calculation.expr.ComesTo outcome ∧ IsExact outcome calculation.reckon := by
  induction calculation with
  | number word => exact ⟨_, Expr.comesTo_literal _, .integer word⟩
  | negate operand inductionHypothesis =>
    obtain ⟨inner, comes, isExact⟩ := inductionHypothesis
    rw [reckon]
    generalize operand.reckon = reckoned at isExact ⊢
    cases isExact with
    | integer word => exact ⟨_, comes.unary, isExact_negate word⟩
    | failure error => exact ⟨_, comes.unary_error, .failure error⟩
  | operate operator left right leftHypothesis rightHypothesis =>
    obtain ⟨first, leftComes, leftExact⟩ := leftHypothesis
    obtain ⟨second, rightComes, rightExact⟩ := rightHypothesis
    rw [reckon]
    generalize left.reckon = leftReckoned at leftExact ⊢
    generalize right.reckon = rightReckoned at rightExact ⊢
    have strict := operator.not_isLogical_binary
    cases leftExact with
    | failure error => exact ⟨_, leftComes.binary_left_error, .failure error⟩
    | integer word =>
      cases rightExact with
      | failure error => exact ⟨_, leftComes.binary_right_error rightComes strict, .failure error⟩
      | integer word' =>
        refine ⟨_, leftComes.binary rightComes strict, ?_⟩
        rw [ArithmeticOperator.apply_binary]
        exact operator.isExact_intArithmetic word word'

theorem firstFailure?_negate (operand : Calculation) :
    (negate operand).firstFailure? = operand.firstFailure?.or (negate operand).failure? := by
  rw [firstFailure?, parts, List.findSome?_append, List.findSome?_singleton]
  rfl

theorem firstFailure?_operate (operator : ArithmeticOperator) (left right : Calculation) :
    (operate operator left right).firstFailure? =
      (left.firstFailure?.or right.firstFailure?).or (operate operator left right).failure? := by
  rw [firstFailure?, parts, List.findSome?_append, List.findSome?_append,
    List.findSome?_singleton]
  rfl

/-- What is worked out by hand is the first failure that is met, or the exact number if there is
none. -/
theorem reckon_eq (calculation : Calculation) :
    calculation.reckon =
      match calculation.firstFailure? with
      | none => .ok calculation.exact
      | some error => .error error := by
  induction calculation with
  | number word => rfl
  | negate operand inductionHypothesis =>
    rw [reckon, inductionHypothesis, firstFailure?_negate]
    cases operand.firstFailure? with
    | some error => rfl
    | none =>
      show (if IsWord (-operand.exact) then Except.ok (-operand.exact)
        else Except.error (EvalError.unaryOverflow .negate)) = _
      rw [Option.none_or, failure?]
      split <;> rfl
  | operate operator left right leftHypothesis rightHypothesis =>
    rw [reckon, leftHypothesis, rightHypothesis, firstFailure?_operate]
    cases left.firstFailure? with
    | some error => rfl
    | none =>
      cases right.firstFailure? with
      | some error => rfl
      | none => rfl

/-- A value that a calculation gives is its exact number. -/
theorem eq_exact_of_comesTo {calculation : Calculation} {value : Value}
    (comes : calculation.expr.ComesTo (.ok value)) :
    ∃ word : Int64, value = .int word ∧ word.toInt = calculation.exact := by
  obtain ⟨outcome, comes', isExact⟩ := calculation.exists_comesTo
  obtain rfl := comes'.unique comes
  rw [calculation.reckon_eq] at isExact
  cases failure : calculation.firstFailure? with
  | some error =>
    rw [failure] at isExact
    cases isExact
  | none =>
    rw [failure] at isExact
    dsimp only at isExact
    generalize calculation.exact = number at isExact ⊢
    cases isExact with
    | integer word => exact ⟨word, rfl, rfl⟩

end Calculation

/-- Wherever it stands, arithmetic on integers comes to what is worked out by hand on integers of
any size, and changes nothing. Its outcome is the first failure among its operations, each looked at
on the exact numbers of its operands, or its exact number. No part of it ever gives anything but its
exact number. -/
theorem reckons_exactly (calculation : Calculation) :
    (∃ outcome, calculation.expr.ComesTo outcome ∧ IsExact outcome calculation.reckon) ∧
      (calculation.reckon =
        match calculation.firstFailure? with
        | none => .ok calculation.exact
        | some error => .error error) ∧
      ∀ part ∈ calculation.parts, ∀ value, part.expr.ComesTo (.ok value) →
        ∃ word : Int64, value = .int word ∧ word.toInt = part.exact :=
  ⟨calculation.exists_comesTo, calculation.reckon_eq,
    fun _ _ _ comes => Calculation.eq_exact_of_comesTo comes⟩

/-- The remainder of the least integer by minus one fails before the division by zero to its
right, although it is zero. -/
example : (Calculation.operate .add
    (.operate .modulo (.number Int64.minValue) (.negate (.number 1)))
    (.operate .divide (.number 1) (.number 0))).reckon = .error (.overflow .modulo) := rfl

end Playscript
