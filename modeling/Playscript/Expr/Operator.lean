/-
This file holds the operators of expressions and what they do to values. Integers are 64 bits wide,
and a result that does not fit is an error, never a wrapped number. An operator that meets an
integer and a floating-point number takes both as floating-point numbers.
-/

import Playscript.Expr.Value
import Playscript.Number.Exact

namespace Playscript

/-! ### Operators -/

/-- Operators before one operand. -/
inductive UnaryOperator where
  | negate
  | not
  deriving DecidableEq, Repr

/-- Operators between two operands. -/
inductive BinaryOperator where
  | add
  | subtract
  | multiply
  | divide
  | modulo
  | equal
  | notEqual
  | less
  | lessEqual
  | greater
  | greaterEqual
  | and
  | or
  deriving DecidableEq, Repr

/-- An operator as it is written. -/
def UnaryOperator.symbol : UnaryOperator → String
  | negate => "-"
  | not => "!"

/-- An operator as it is written. -/
def BinaryOperator.symbol : BinaryOperator → String
  | add => "+"
  | subtract => "-"
  | multiply => "*"
  | divide => "/"
  | modulo => "%"
  | equal => "=="
  | notEqual => "!="
  | less => "<"
  | lessEqual => "<="
  | greater => ">"
  | greaterEqual => ">="
  | and => "&&"
  | or => "||"

/-! ### Errors -/

/-- Why the evaluation of an expression fails. -/
inductive EvalError where
  | undefinedVariable (name : String)
  | unknownOperation (name : String)
  /-- A named operation refused its arguments, in its own words. -/
  | operationFailed (name : String) (message : String)
  | typeMismatch (operator : BinaryOperator) (left right : ValueKind)
  | unaryTypeMismatch (operator : UnaryOperator) (operand : ValueKind)
  | overflow (operator : BinaryOperator)
  | unaryOverflow (operator : UnaryOperator)
  | divisionByZero
  deriving DecidableEq, Repr

/-- The error in words. -/
def EvalError.message : EvalError → String
  | undefinedVariable name => "undefined variable '" ++ name ++ "'"
  | unknownOperation name => "unknown operation '" ++ name ++ "'"
  | operationFailed name message => name ++ ": " ++ message
  | typeMismatch operator left right =>
    "cannot apply '" ++ operator.symbol ++ "' to " ++ left.name ++ " and " ++ right.name
  | unaryTypeMismatch operator operand =>
    "cannot apply '" ++ operator.symbol ++ "' to " ++ operand.name
  | overflow operator => "integer overflow in '" ++ operator.symbol ++ "'"
  | unaryOverflow operator => "integer overflow in '" ++ operator.symbol ++ "'"
  | divisionByZero => "division by zero"

/-! ### Integers -/

/-- The exact result of an arithmetic operator on integers. The quotient is cut off towards zero,
and the remainder has the sign of the dividend. -/
def BinaryOperator.exact? : BinaryOperator → Int → Int → Option Int
  | add, left, right => some (left + right)
  | subtract, left, right => some (left - right)
  | multiply, left, right => some (left * right)
  | divide, left, right => some (left.tdiv right)
  | modulo, left, right => some (left.tmod right)
  | _, _, _ => none

/-- Arithmetic on integers. The remainder by minus one counts as an overflow where the quotient
would overflow. -/
def intArithmetic (operator : BinaryOperator) (left right : Int64) : Except EvalError Value :=
  if (operator = .divide ∨ operator = .modulo) ∧ right = 0 then .error .divisionByZero
  else if operator = .modulo ∧ (int64? (left.toInt.tdiv right.toInt)).isNone then
    .error (.overflow operator)
  else
    match operator.exact? left.toInt right.toInt with
    | none => .error (.typeMismatch operator .int .int)
    | some result =>
      match int64? result with
      | some number => .ok (.int number)
      | none => .error (.overflow operator)

/-! ### Floating-point numbers -/

/-- Arithmetic on floating-point numbers. -/
def floatArithmetic (operator : BinaryOperator) (left right : Float) : Except EvalError Value :=
  match operator with
  | .add => .ok (.float (left + right))
  | .subtract => .ok (.float (left - right))
  | .multiply => .ok (.float (left * right))
  | .divide => if right == 0.0 then .error .divisionByZero else .ok (.float (left / right))
  | .modulo => if right == 0.0 then .error .divisionByZero else .ok (.float (remainder left right))
  | _ => .error (.typeMismatch operator .float .float)

/-! ### Values -/

/-- Arithmetic on values: on two integers exactly, on other numbers in floating point. -/
def arithmetic (operator : BinaryOperator) (left right : Value) : Except EvalError Value :=
  match left, right with
  | .int first, .int second => intArithmetic operator first second
  | _, _ =>
    match left.number?, right.number? with
    | some first, some second => floatArithmetic operator first second
    | _, _ => .error (.typeMismatch operator left.kind right.kind)

/-- The test of the operators for equality. An integer and a floating-point number are equal if they
are the same number; other values if they are the same. -/
def Value.equals (left right : Value) : Bool :=
  match left, right with
  | .int first, .float second => Float.ofInt first.toInt == second
  | .float first, .int second => first == Float.ofInt second.toInt
  | _, _ => left == right

/-- How two floating-point numbers stand to each other; none if one of them is not a number. -/
def floatOrdering? (left right : Float) : Option Ordering :=
  if left < right then some .lt
  else if right < left then some .gt
  else if left == right then some .eq
  else none

/-- How two values stand to each other. Integers, other numbers and strings can be compared among
their kind, strings by the code points of their characters. -/
def Value.ordering? (left right : Value) : Option Ordering :=
  match left, right with
  | .int first, .int second => some (compare first.toInt second.toInt)
  | .string first, .string second => some (compare first second)
  | _, _ =>
    match left.number?, right.number? with
    | some first, some second => floatOrdering? first second
    | _, _ => none

/-- Whether an ordering passes the test of a comparison operator. -/
def BinaryOperator.accepts : BinaryOperator → Ordering → Bool
  | less, ordering => ordering == .lt
  | lessEqual, ordering => ordering != .gt
  | greater, ordering => ordering == .gt
  | _, ordering => ordering != .lt

/-- Applies an operator to one value. -/
def UnaryOperator.apply (operator : UnaryOperator) (operand : Value) : Except EvalError Value :=
  match operator, operand with
  | .not, _ => .ok (.bool !operand.isTruthy)
  | .negate, .int number =>
    match int64? (-number.toInt) with
    | some result => .ok (.int result)
    | none => .error (.unaryOverflow .negate)
  | .negate, .float number => .ok (.float (-number))
  | .negate, other => .error (.unaryTypeMismatch .negate other.kind)

/-- Applies an operator to two values. Addition joins strings and lists. -/
def BinaryOperator.apply (operator : BinaryOperator) (left right : Value) :
    Except EvalError Value :=
  match operator with
  | .equal => .ok (.bool (left.equals right))
  | .notEqual => .ok (.bool !left.equals right)
  | .less | .lessEqual | .greater | .greaterEqual =>
    match left.ordering? right with
    | some ordering => .ok (.bool (operator.accepts ordering))
    | none => .error (.typeMismatch operator left.kind right.kind)
  | .add =>
    match left, right with
    | .string first, .string second => .ok (.string (first ++ second))
    | .list first, .list second => .ok (.list (first ++ second))
    | _, _ => arithmetic operator left right
  | _ => arithmetic operator left right

end Playscript
