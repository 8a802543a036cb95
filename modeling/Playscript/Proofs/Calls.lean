/-
This file lists what expressions are made of, and what they call. Which operations an expression may
run is fixed by its text: the names in its calls, however deep they stand. A programme is described
by the expressions in its nodes, since everything a player ever evaluates is one of them.
-/

import Mathlib.Data.List.Basic
import Mathlib.Data.Nat.Basic
import Mathlib.Order.Basic
import Playscript.Script.Programme

namespace Playscript

/-! ### Expressions -/

namespace Expr

mutual

/-- The names of the operations that an expression calls, from left to right. -/
def calls : Expr → List String
  | literal _ => []
  | reference _ => []
  | list items => callsOfAll items
  | unary _ operand => operand.calls
  | binary _ left right => left.calls ++ right.calls
  | assign _ expression => expression.calls
  | call name arguments => callsOfAll arguments ++ [name]
  | sequence items => callsOfAll items

/-- The names of the operations that some expressions call. -/
def callsOfAll : List Expr → List String
  | [] => []
  | item :: rest => item.calls ++ callsOfAll rest

end

mutual

/-- The parts of an expression, and itself, in the order in which they are evaluated. -/
def parts : Expr → List Expr
  | literal value => [literal value]
  | reference name => [reference name]
  | list items => partsOfAll items ++ [list items]
  | unary operator operand => operand.parts ++ [unary operator operand]
  | binary operator left right => left.parts ++ (right.parts ++ [binary operator left right])
  | assign name expression => expression.parts ++ [assign name expression]
  | call name arguments => partsOfAll arguments ++ [call name arguments]
  | sequence items => partsOfAll items ++ [sequence items]

/-- The parts of some expressions, in order. -/
def partsOfAll : List Expr → List Expr
  | [] => []
  | item :: rest => item.parts ++ partsOfAll rest

end

/-- An expression comes after its parts. -/
theorem self_mem_parts (expression : Expr) : expression ∈ expression.parts := by
  cases expression <;> simp [parts]

mutual

theorem mem_calls_of_mem_parts {name : String} {arguments : List Expr} {expression : Expr}
    (member : call name arguments ∈ expression.parts) : name ∈ expression.calls := by
  cases expression with
  | literal value => cases member with | tail _ member => cases member
  | reference other => cases member with | tail _ member => cases member
  | list items | sequence items =>
    rcases List.mem_append.mp member with member | member
    · exact mem_callsOfAll_of_mem_parts member
    · cases List.mem_singleton.mp member
  | unary operator operand | assign other operand =>
    rcases List.mem_append.mp member with member | member
    · show name ∈ operand.calls
      exact mem_calls_of_mem_parts member
    · cases List.mem_singleton.mp member
  | binary operator left right =>
    rcases List.mem_append.mp member with member | member
    · exact List.mem_append_left _ (mem_calls_of_mem_parts member)
    · rcases List.mem_append.mp member with member | member
      · exact List.mem_append_right _ (mem_calls_of_mem_parts member)
      · cases List.mem_singleton.mp member
  | call other items =>
    rcases List.mem_append.mp member with member | member
    · exact List.mem_append_left _ (mem_callsOfAll_of_mem_parts member)
    · cases List.mem_singleton.mp member
      exact List.mem_append_right _ (List.mem_singleton.mpr rfl)

theorem mem_callsOfAll_of_mem_parts {name : String} {arguments : List Expr} {items : List Expr}
    (member : call name arguments ∈ partsOfAll items) : name ∈ callsOfAll items := by
  cases items with
  | nil => cases member
  | cons item rest =>
    rcases List.mem_append.mp member with member | member
    · exact List.mem_append_left _ (mem_calls_of_mem_parts member)
    · exact List.mem_append_right _ (mem_callsOfAll_of_mem_parts member)

end

end Expr

/-! ### Nodes and programmes -/

namespace Node

/-- The expression that a node puts off. -/
def deferred? : Node Expr → Option Expr
  | deferredExpr expression => some expression
  | _ => none

/-- The expression of a node, if it has one. -/
def expression? : Node Expr → Option Expr
  | inlineExpr expression | deferredExpr expression | instantExpr expression
  | typewriterExpr expression => some expression
  | text _ | instantString _ | typewriterString _ => none

/-- The names of the operations that a node calls. -/
def calls (node : Node Expr) : List String := (node.expression?.map Expr.calls).getD []

theorem mem_calls_of_expression {node : Node Expr} {expression : Expr} {name : String}
    (holds : node.expression? = some expression) (member : name ∈ expression.calls) :
    name ∈ node.calls := by
  unfold calls
  rw [holds]
  exact member

theorem expression?_of_deferred {node : Node Expr} {expression : Expr}
    (deferred : node.deferred? = some expression) : node.expression? = some expression := by
  cases node <;> cases deferred
  rfl

end Node

namespace Programme

/-- The names of the operations that a programme calls. -/
def calls (programme : Programme) : List String :=
  programme.scenes.flatMap fun scene => scene.beats.flatMap fun beat => beat.flatMap Node.calls

theorem mem_calls {programme : Programme} {scene beat : Nat} {nodes : List (Node Expr)}
    {node : Node Expr} {name : String} (stands : programme.beat? scene beat = some nodes)
    (member : node ∈ nodes) (called : name ∈ node.calls) : name ∈ programme.calls := by
  unfold beat? at stands
  obtain ⟨content, sceneFound, beatFound⟩ := Option.bind_eq_some_iff.mp stands
  unfold calls
  refine List.mem_flatMap.mpr ⟨content, List.mem_of_getElem? sceneFound, ?_⟩
  refine List.mem_flatMap.mpr ⟨nodes, List.mem_of_getElem? beatFound, ?_⟩
  exact List.mem_flatMap.mpr ⟨node, member, called⟩

end Programme

end Playscript
