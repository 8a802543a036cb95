/-
This file holds expressions as they are written: every node has the column at which it begins, and
literals keep their text. Nothing has been checked beyond the grammar, so a tree may assign to what
is no name, or hold a number that is too large.
-/

import Playscript.Expr.Lexeme
import Playscript.Expr.Operator

namespace Playscript

/-- An expression as it is written. Each node comes with its column. -/
inductive Tree where
  | int (column : Nat) (text : String)
  | float (column : Nat) (text : String)
  | string (column : Nat) (text : String)
  | bool (column : Nat) (truth : Bool)
  | null (column : Nat)
  | name (column : Nat) (text : String)
  | list (column : Nat) (items : List Tree)
  | unary (column : Nat) (operator : UnaryOperator) (operand : Tree)
  | binary (column : Nat) (operator : BinaryOperator) (left right : Tree)
  | assign (column : Nat) (target value : Tree)
  | call (column : Nat) (callee : Tree) (arguments : List Tree)
  | sequence (column : Nat) (items : List Tree)
  deriving Inhabited

/-- The column at which an expression begins. -/
def Tree.column : Tree → Nat
  | int column _ | float column _ | string column _ | bool column _ | null column
  | name column _ | list column _ | unary column _ _ | binary column _ _ _
  | assign column _ _ | call column _ _ | sequence column _ => column

/-! ### Issues -/

/-- What the grammar asks for at some place. -/
inductive Expectation where
  | expression
  | closingParen
  | commaOrClosingParen
  | commaOrClosingBracket
  | semicolonOrEnd
  deriving DecidableEq, Repr

/-- An expectation in words. -/
def Expectation.phrase : Expectation → String
  | expression => "expression"
  | closingParen => "')'"
  | commaOrClosingParen => "',' or ')'"
  | commaOrClosingBracket => "',' or ']'"
  | semicolonOrEnd => "';' or end of expression"

/-- How deep an expression may be nested. -/
def nestingLimit : Nat := 256

/-- What keeps lexemes from being an expression. -/
inductive Obstacle where
  /-- The grammar asks for something else than the lexeme that stands here. -/
  | unexpected (expectation : Expectation) (found : Lexeme)
  | openString
  | tooDeep
  deriving DecidableEq, Repr

/-- An obstacle in words. -/
def Obstacle.message : Obstacle → String
  | unexpected expectation found =>
    let thing := if found.kind = .finish then "end of expression" else "'" ++ found.text ++ "'"
    "expected " ++ expectation.phrase ++ ", found " ++ thing
  | openString => "unterminated string literal"
  | tooDeep => "expression nested too deeply (limit " ++ toString nestingLimit ++ ")"

/-- An obstacle and the column where it stands. -/
structure Issue where
  column : Nat
  obstacle : Obstacle
  deriving DecidableEq, Repr

/-! ### Written expressions -/

/-- The text of an expression and what it was read as: an issue, or a tree, or no tree if the text
holds nothing but white space. -/
structure Draft where
  source : String
  reading : Except Issue (Option Tree)

namespace Draft

/-- The tree, if there is one. -/
def root? (draft : Draft) : Option Tree :=
  match draft.reading with
  | .ok root => root
  | .error _ => none

/-- The issues found while reading. -/
def issues (draft : Draft) : List Issue :=
  match draft.reading with
  | .ok _ => []
  | .error issue => [issue]

/-- Whether reading met an issue. -/
def hasIssues (draft : Draft) : Bool := !draft.issues.isEmpty

end Draft

end Playscript
