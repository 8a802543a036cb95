/-
This file holds expressions that are ready to be evaluated: their literals are values, and only
names are assigned to and called.
-/

import Playscript.Expr.Operator

namespace Playscript

/-- An expression that can be evaluated. -/
inductive Expr where
  | literal (value : Value)
  | reference (name : String)
  | list (items : List Expr)
  | unary (operator : UnaryOperator) (operand : Expr)
  | binary (operator : BinaryOperator) (left right : Expr)
  | assign (name : String) (value : Expr)
  | call (name : String) (arguments : List Expr)
  | sequence (items : List Expr)
  deriving Inhabited

namespace Expr

mutual

/-- Whether two expressions are built alike from the same names, operators and values. -/
def same : Expr → Expr → Bool
  | literal first, literal second => first == second
  | reference first, reference second => first == second
  | list first, list second => sameItems first second
  | unary operator first, unary operator' second => operator == operator' && first.same second
  | binary operator left right, binary operator' left' right' =>
    operator == operator' && left.same left' && right.same right'
  | assign name first, assign name' second => name == name' && first.same second
  | call name first, call name' second => name == name' && sameItems first second
  | sequence first, sequence second => sameItems first second
  | _, _ => false

/-- Whether two lists hold the same expressions. -/
def sameItems : List Expr → List Expr → Bool
  | [], [] => true
  | first :: firsts, second :: seconds => first.same second && sameItems firsts seconds
  | _, _ => false

end

instance : BEq Expr := ⟨same⟩

end Expr

end Playscript
