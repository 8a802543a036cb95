/-
This file turns written expressions into expressions that can be evaluated. All problems of an
expression are found, not only the first one, except that the callee of a call and the target of an
assignment are only looked at as far as to see whether they are names.
-/

import Playscript.Expr.Basic
import Playscript.Expr.Grammar
import Playscript.Number.Text
import Playscript.Text.Escape

namespace Playscript

/-! ### Problems -/

/-- What keeps a written expression from being evaluated. -/
inductive Problem where
  | unreadable (obstacle : Obstacle)
  | emptyExpression
  | intOutOfRange (text : String)
  | badFloat (text : String)
  | escape (flaw : EscapeFlaw)
  | assignmentTarget
  | callee
  deriving DecidableEq, Repr

/-- A problem in words. -/
def Problem.message : Problem → String
  | unreadable obstacle => obstacle.message
  | emptyExpression => "empty expression"
  | intOutOfRange text => "integer literal '" ++ text ++ "' is out of range"
  | badFloat text => "invalid float literal '" ++ text ++ "'"
  | escape flaw => flaw.message
  | assignmentTarget => "invalid assignment target, expected a variable name"
  | callee => "only named operations can be called"

/-- A problem and its column; column zero stands for a problem of the expression as a whole. -/
structure Diagnostic where
  column : Nat
  problem : Problem
  deriving DecidableEq, Repr

/-- A diagnostic in words, with its column if it has one. -/
def Diagnostic.text (diagnostic : Diagnostic) : String :=
  if diagnostic.column = 0 then diagnostic.problem.message
  else "column " ++ toString diagnostic.column ++ ": " ++ diagnostic.problem.message

/-! ### Validation -/

/-- A result, or all diagnostics that speak against it. -/
abbrev Validated (Result : Type) := Except (List Diagnostic) Result

namespace Validated

/-- Two results together, or the diagnostics of both. -/
def both {First Second Result : Type} (combine : First → Second → Result) :
    Validated First → Validated Second → Validated Result
  | .ok first, .ok second => .ok (combine first second)
  | .ok _, .error diagnostics => .error diagnostics
  | .error diagnostics, .ok _ => .error diagnostics
  | .error diagnostics, .error others => .error (diagnostics ++ others)

/-- The name of a tree that is a name; otherwise a problem at its column. -/
def nameOf (problem : Problem) : Tree → Validated String
  | .name _ text => .ok text
  | tree => .error [⟨tree.column, problem⟩]

end Validated

namespace Tree

/-- The digits of a number as it is written, without the underscores between them. -/
def withoutGaps (text : String) : List Char := text.toList.filter (· ≠ '_')

mutual

/-- The expression that a tree stands for, or the diagnostics of the tree in order. -/
def validate : Tree → Validated Expr
  | int column text =>
    match readInt? (withoutGaps text) with
    | some number => .ok (.literal (.int number))
    | none => .error [⟨column, .intOutOfRange text⟩]
  | float column text =>
    match readFloat? (withoutGaps text) with
    | some number => .ok (.literal (.float number))
    | none => .error [⟨column, .badFloat text⟩]
  | string column raw =>
    match unescape raw.toList with
    | .ok text => .ok (.literal (.string (String.ofList text)))
    | .error flaws => .error (flaws.map fun flaw => ⟨column, .escape flaw⟩)
  | bool _ truth => .ok (.literal (.bool truth))
  | null _ => .ok (.literal .null)
  | name _ text => .ok (.reference text)
  | list _ items => (validateAll items).map .list
  | unary _ operator operand => operand.validate.map (.unary operator)
  | binary _ operator left right =>
    Validated.both (.binary operator) left.validate right.validate
  | assign _ target value =>
    Validated.both (fun value name => .assign name value) value.validate
      (Validated.nameOf .assignmentTarget target)
  | call _ callee arguments =>
    Validated.both (fun arguments name => .call name arguments) (validateAll arguments)
      (Validated.nameOf .callee callee)
  | sequence _ items => (validateAll items).map .sequence

/-- The expressions that trees stand for, or the diagnostics of all of them. -/
def validateAll : List Tree → Validated (List Expr)
  | [] => .ok []
  | item :: rest => Validated.both List.cons item.validate (validateAll rest)

end

end Tree

/-- The expression that was written, or why there is none. -/
def Draft.validate (draft : Draft) : Validated Expr :=
  match draft.reading with
  | .error issue => .error [⟨issue.column, .unreadable issue.obstacle⟩]
  | .ok none => .error [⟨0, .emptyExpression⟩]
  | .ok (some root) => root.validate

end Playscript
