/-
This file evaluates expressions. Operands, items and arguments are evaluated from left to right, the
first error ends the evaluation, and what was assigned before it stays assigned.
-/

import Playscript.Expr.Basic
import Playscript.Expr.Registry

namespace Playscript.Expr

variable {Context : Type} [HasScope Context]

mutual

/-- The value of an expression. The second operand of a logical operator is evaluated only if the
first one leaves the result open. -/
def eval (registry : Registry Context) : Expr → Action Context EvalError Value
  | literal value => pure value
  | reference name => do
    let context ← Action.look
    match (HasScope.scope context).get? name with
    | some value => pure value
    | none => Action.fail (.undefinedVariable name)
  | list items => do
    let values ← evalAll registry items
    pure (.list values)
  | unary operator operand => do
    let value ← operand.eval registry
    Action.ofExcept (operator.apply value)
  | binary operator left right => do
    let first ← left.eval registry
    match operator with
    | .and =>
      if first.isTruthy then
        let second ← right.eval registry
        pure (.bool second.isTruthy)
      else pure (.bool false)
    | .or =>
      if first.isTruthy then pure (.bool true)
      else
        let second ← right.eval registry
        pure (.bool second.isTruthy)
    | _ =>
      let second ← right.eval registry
      Action.ofExcept (operator.apply first second)
  | assign name expression => do
    let value ← expression.eval registry
    Action.change fun context =>
      HasScope.withScope context ((HasScope.scope context).insert name value)
    pure value
  | call name arguments => do
    let values ← evalAll registry arguments
    match registry.get? name with
    | some operation => (operation values).mapError (.operationFailed name)
    | none => Action.fail (.unknownOperation name)
  | sequence items => evalLast registry .null items

/-- The values of expressions, in order. -/
def evalAll (registry : Registry Context) : List Expr → Action Context EvalError (List Value)
  | [] => pure []
  | item :: rest => do
    let value ← item.eval registry
    let values ← evalAll registry rest
    pure (value :: values)

/-- The value of the last of some expressions, or a given one if there are none. -/
def evalLast (registry : Registry Context) (last : Value) :
    List Expr → Action Context EvalError Value
  | [] => pure last
  | item :: rest => do
    let value ← item.eval registry
    evalLast registry value rest

end

end Playscript.Expr
