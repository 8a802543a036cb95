/-
This file shows that an expression without calls depends on its variables only, and changes nothing
but variables that it assigns to. It is evaluated from two contexts in which its variables have the
same values, and both runs come to the same value or the same error; afterwards its variables still
have the same values, and everything else in either context is as before.

All of this is kept part by part. A part looks a variable up, or assigns to one, or only puts the
values of its own parts together, so what matters of an expression are the names in its parts.
-/

import Playscript.Playback.Player
import Playscript.Proofs.Comparison

namespace Playscript

/-! ### Names -/

namespace Expr

/-- The variable that an expression itself assigns to. -/
def target? : Expr → Option String
  | assign name _ => some name
  | _ => none

/-- The variable that an expression itself looks up or assigns to. -/
def named? : Expr → Option String
  | reference name | assign name _ => some name
  | _ => none

/-- The variables that are assigned to in an expression. -/
def targets (expression : Expr) : List String := expression.parts.filterMap target?

/-- The variables that occur in an expression. -/
def names (expression : Expr) : List String := expression.parts.filterMap named?

/-- The value of a logical operator, if its first operand decides it. -/
def decided? : BinaryOperator → Value → Option Value
  | .and, first => if first.isTruthy then none else some (.bool false)
  | .or, first => if first.isTruthy then some (.bool true) else none
  | _, _ => none

end Expr

/-- The variables with some names have the same values. -/
def Scope.AgreeOn (names : List String) (scope scope' : Scope) : Prop :=
  ∀ name ∈ names, scope.get? name = scope'.get? name

/-- All variables but those with some names have the same values. -/
def Scope.AgreeBut (names : List String) (scope scope' : Scope) : Prop :=
  ∀ name, name ∉ names → scope.get? name = scope'.get? name

namespace Scope

variable {names : List String} {scope scope' : Scope}

theorem AgreeOn.insert (agree : AgreeOn names scope scope') (name : String) (value : Value) :
    AgreeOn names (scope.insert name value) (scope'.insert name value) := by
  intro other member
  rw [Table.get?_insert, Table.get?_insert, agree other member]

theorem AgreeBut.insert (agree : AgreeBut names scope scope') {name : String}
    (member : name ∈ names) (value : Value) :
    AgreeBut names scope (scope'.insert name value) := by
  intro other notMember
  rw [Table.get?_insert, if_neg (by rintro rfl; exact notMember member)]
  exact agree other notMember

end Scope

/-! ### Operands that are left out -/

/-- Where the first operand decides a logical operator, the second one has no effect. -/
theorem Expr.eval_of_decided {Context : Type} [HasScope Context] {operator : BinaryOperator}
    {left : Expr} {registry : Registry Context} {context later : Context} {value decided : Value}
    (ended : left.eval registry context = some (.ok value, later))
    (decides : decided? operator value = some decided) (right : Expr) :
    (binary operator left right).eval registry context = some (.ok decided, later) := by
  rw [eval, Action.bind_of_ok ended]
  cases operator with
  | and =>
    cases truth : value.isTruthy with
    | true => simp [decided?, truth] at decides
    | false =>
      obtain rfl : Value.bool false = decided := by simpa [decided?, truth] using decides
      rfl
  | or =>
    cases truth : value.isTruthy with
    | true =>
      obtain rfl : Value.bool true = decided := by simpa [decided?, truth] using decides
      rfl
    | false => simp [decided?, truth] at decides
  | _ => cases decides

/-! ### Contexts -/

/-- A context keeps its variables apart from everything else. -/
class LawfulScope (Context : Type) [HasScope Context] : Prop where
  scope_withScope : ∀ (context : Context) (scope : Scope),
    HasScope.scope (HasScope.withScope context scope) = scope
  withScope_withScope : ∀ (context : Context) (scope scope' : Scope),
    HasScope.withScope (HasScope.withScope context scope) scope' =
      HasScope.withScope context scope'
  withScope_scope : ∀ context : Context,
    HasScope.withScope context (HasScope.scope context) = context

instance : LawfulScope Scope := ⟨fun _ _ => rfl, fun _ _ _ => rfl, fun _ => rfl⟩

instance : LawfulScope Player := ⟨fun _ _ => rfl, fun _ _ _ => rfl, fun _ => rfl⟩

variable {Context Context' : Type} [HasScope Context] [HasScope Context'] [LawfulScope Context]
  [LawfulScope Context']

namespace Expr

/-- Where no operation is called, evaluations keep in step on the variables of the expression. -/
theorem matches_of_agreeOn {expression : Expr} (noCalls : expression.calls = [])
    {context : Context} {context' : Context'}
    (agree : Scope.AgreeOn expression.names (HasScope.scope context)
      (HasScope.scope context'))
    (registry : Registry Context) (registry' : Registry Context') :
    Matches True
      (SameResult fun (later : Context) (later' : Context') =>
        Scope.AgreeOn expression.names (HasScope.scope later) (HasScope.scope later'))
      (expression.eval registry context) (expression.eval registry' context') := by
  refine eval_matches_of_parts expression (fun part member => ?_) agree
  cases part with
  | reference name =>
    intro context context' agree
    exact agree name (List.mem_filterMap.mpr ⟨_, member, rfl⟩)
  | assign name operand =>
    intro value context context' agree
    rw [LawfulScope.scope_withScope, LawfulScope.scope_withScope]
    exact agree.insert name value
  | call name arguments =>
    have called := mem_calls_of_mem_parts member
    rw [noCalls] at called
    cases called
  | literal | list | unary | binary | sequence => exact trivial

/-- A context has changed in nothing but some variables. -/
def OnlyIn (names : List String) (context later : Context) : Prop :=
  Scope.AgreeBut names (HasScope.scope context) (HasScope.scope later) ∧
    later = HasScope.withScope context (HasScope.scope later)

theorem onlyIn_refl (names : List String) (context : Context) : OnlyIn names context context :=
  ⟨fun _ _ => rfl, (LawfulScope.withScope_scope context).symm⟩

theorem OnlyIn.insert {names : List String} {context later : Context}
    (only : OnlyIn names context later) {name : String} (member : name ∈ names) (value : Value) :
    OnlyIn names context
      (HasScope.withScope later ((HasScope.scope later).insert name value)) := by
  obtain ⟨agree, rebuilt⟩ := only
  refine ⟨?_, ?_⟩
  · rw [LawfulScope.scope_withScope]
    exact agree.insert member value
  · rw [LawfulScope.scope_withScope]
    conv_lhs => rw [rebuilt]
    rw [LawfulScope.scope_withScope, LawfulScope.withScope_withScope]

/-- Where no operation is called, the evaluation ends and changes nothing but the targets. -/
theorem ends_onlyIn_targets {expression : Expr} (noCalls : expression.calls = [])
    (registry : Registry Context) (context : Context) :
    Ends True (fun outcome : Except EvalError Value × Context =>
      OnlyIn expression.targets context outcome.2) (expression.eval registry context) := by
  refine ends_eval expression (fun name operand member later value only => ?_)
    (fun name arguments operation member => ?_) (onlyIn_refl expression.targets context)
  · exact only.insert (List.mem_filterMap.mpr ⟨_, member, rfl⟩) value
  · have called := mem_calls_of_mem_parts member
    rw [noCalls] at called
    cases called

/-- An expression without calls depends on its variables only, and changes nothing but those that it
assigns to: from two contexts in which its variables have the same values it comes to the same value
or the same error; each context is afterwards as it was but for the variables assigned to, the
variables of the expression still have the same values in both, and the second operand of a logical
operator that the first one has decided has changed nothing. -/
theorem evaluates_by_its_names {expression : Expr} (noCalls : expression.calls = [])
    {context : Context} {context' : Context'}
    (agree : Scope.AgreeOn expression.names (HasScope.scope context) (HasScope.scope context'))
    (registry : Registry Context) (registry' : Registry Context') :
    ∃ outcome later later',
      expression.eval registry context = some (outcome, later) ∧
      expression.eval registry' context' = some (outcome, later') ∧
      OnlyIn expression.targets context later ∧ OnlyIn expression.targets context' later' ∧
      Scope.AgreeOn expression.names (HasScope.scope later) (HasScope.scope later') ∧
      ∀ operator left right value decided, decided? operator value = some decided →
        ∀ before after, left.eval registry before = some (.ok value, after) →
          (binary operator left right).eval registry before = some (.ok decided, after) := by
  obtain ⟨⟨outcome, later⟩, ⟨outcome', later'⟩, ended, ended', same, agreeAfter⟩ :=
    (matches_of_agreeOn noCalls agree registry registry').of_certain trivial
  obtain rfl : outcome = outcome' := same
  have only := (ends_onlyIn_targets noCalls registry context).of_some ended
  have only' := (ends_onlyIn_targets noCalls registry' context').of_some ended'
  refine ⟨outcome, later, later', ended, ended', only, only', agreeAfter, ?_⟩
  intro operator left right value decided decides before after leftEnded
  exact eval_of_decided leftEnded decides right

/-- The expression is `x = 1; y && (z = 2)`, the value of `y` is false, and only one context has a
variable `w`. -/
theorem evaluates_by_its_names_of_false :
    let expression := sequence [assign "x" (literal (.int 1)),
      binary .and (reference "y") (assign "z" (literal (.int 2)))]
    let scope : Scope := (Table.empty.insert "y" (.bool false)).insert "w" (.int 7)
    let scope' : Scope := Table.empty.insert "y" (.bool false)
    expression.calls = [] ∧ Scope.AgreeOn expression.names scope scope' ∧
      ∃ outcome later later',
        expression.eval Table.empty scope = some (outcome, later) ∧
        expression.eval Table.empty scope' = some (outcome, later') ∧
        OnlyIn expression.targets scope later ∧ OnlyIn expression.targets scope' later' ∧
        Scope.AgreeOn expression.names later later' := by
  intro expression scope scope'
  have agree : Scope.AgreeOn expression.names (HasScope.scope scope) (HasScope.scope scope') := by
    intro name member
    have names : expression.names = ["x", "y", "z"] := rfl
    simp only [names, List.mem_cons, List.not_mem_nil, or_false] at member
    rcases member with rfl | rfl | rfl <;> rfl
  obtain ⟨outcome, later, later', ended, ended', only, only', agreeAfter, -⟩ :=
    evaluates_by_its_names (rfl : expression.calls = []) agree Table.empty Table.empty
  exact ⟨rfl, agree, outcome, later, later', ended, ended', only, only', agreeAfter⟩

end Expr

end Playscript
