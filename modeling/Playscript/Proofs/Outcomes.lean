/-
This file holds expressions whose outcome is the same wherever they are evaluated. Such expressions
leave everything as it is, so what an operator makes of them follows from the outcomes of its
operands alone.
-/

import Playscript.Expr.Evaluation

namespace Playscript

/-- Whether an operator may leave its second operand out. -/
def BinaryOperator.isLogical : BinaryOperator → Bool
  | and | or => true
  | _ => false

namespace Expr

/-- An expression comes to an outcome wherever it is evaluated, and changes nothing there. -/
def ComesTo (expression : Expr) (outcome : Except EvalError Value) : Prop :=
  ∀ (Context : Type) [HasScope Context] (registry : Registry Context) (context : Context),
    expression.eval registry context = some (outcome, context)

theorem comesTo_literal (value : Value) : (literal value).ComesTo (.ok value) := fun _ _ _ _ => rfl

namespace ComesTo

variable {expression operand left right : Expr} {outcome outcome' : Except EvalError Value}
  {operator : UnaryOperator} {operator' : BinaryOperator} {value value' : Value} {error : EvalError}

theorem unique (comes : expression.ComesTo outcome) (comes' : expression.ComesTo outcome') :
    outcome = outcome' := by
  have first := comes Scope Table.empty Table.empty
  have second := comes' Scope Table.empty Table.empty
  exact congrArg Prod.fst (Option.some.inj (first.symm.trans second))

theorem unary (comes : operand.ComesTo (.ok value)) :
    (Expr.unary operator operand).ComesTo (operator.apply value) := by
  intro Context _ registry context
  rw [eval, Action.bind_of_ok (comes Context registry context), Action.ofExcept_apply]

theorem unary_error (fails : operand.ComesTo (.error error)) :
    (Expr.unary operator operand).ComesTo (.error error) := by
  intro Context _ registry context
  rw [eval, Action.bind_of_error (fails Context registry context)]

theorem binary_left_error (fails : left.ComesTo (.error error)) :
    (Expr.binary operator' left right).ComesTo (.error error) := by
  intro Context _ registry context
  rw [eval, Action.bind_of_error (fails Context registry context)]

/-- Where the first operand does not decide, the second one is evaluated as well. -/
theorem eval_binary (leftComes : left.ComesTo (.ok value)) (strict : operator'.isLogical = false)
    {Context : Type} [HasScope Context] (registry : Registry Context) (context : Context) :
    (Expr.binary operator' left right).eval registry context =
      (right.eval registry >>= fun second => Action.ofExcept (operator'.apply value second))
        context := by
  rw [eval, Action.bind_of_ok (leftComes Context registry context)]
  cases operator' <;> first | rfl | cases strict

theorem binary (leftComes : left.ComesTo (.ok value)) (rightComes : right.ComesTo (.ok value'))
    (strict : operator'.isLogical = false) :
    (Expr.binary operator' left right).ComesTo (operator'.apply value value') := by
  intro Context _ registry context
  rw [leftComes.eval_binary strict, Action.bind_of_ok (rightComes Context registry context),
    Action.ofExcept_apply]

theorem binary_right_error (leftComes : left.ComesTo (.ok value))
    (fails : right.ComesTo (.error error)) (strict : operator'.isLogical = false) :
    (Expr.binary operator' left right).ComesTo (.error error) := by
  intro Context _ registry context
  rw [leftComes.eval_binary strict, Action.bind_of_error (fails Context registry context)]

end ComesTo

end Expr

end Playscript
