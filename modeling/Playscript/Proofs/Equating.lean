/-
This file compares the equality of lists with the equality of their items. Numbers that stand by
themselves are equal if they are the same number, be they integers or floating-point numbers. Inside
lists they are compared with their kind: an integer there is no floating-point number.

So two lists are equal if they have the same length and items at the same place are equal and are
not two kinds of number. Where equal numbers of two kinds stand at some place, and all places hold
equal items, the lists are not equal although their items are.
-/

import Mathlib.Data.List.Forall2
import Playscript.Proofs.Outcomes

namespace Playscript

namespace Value

/-- Whether one value is an integer and the other one a floating-point number. -/
def areMixed : Value → Value → Bool
  | int _, float _ | float _, int _ => true
  | _, _ => false

/-- The operator for equality holds between two values. -/
def Equal (left right : Value) : Prop :=
  (Expr.binary .equal (.literal left) (.literal right)).ComesTo (.ok (.bool true))

/-- Lists of the same length have equal items at each place. -/
abbrev EqualItems (lefts rights : List Value) : Prop := List.Forall₂ Equal lefts rights

/-- An integer and a floating-point number stand at the same place of two lists. -/
def MixAt (lefts rights : List Value) : Prop :=
  ∃ pair ∈ lefts.zip rights, areMixed pair.1 pair.2 = true

/-! ### The operator -/

theorem comesTo_equal (left right : Value) :
    (Expr.binary .equal (.literal left) (.literal right)).ComesTo
      (.ok (.bool (left.equals right))) :=
  (Expr.comesTo_literal left).binary (Expr.comesTo_literal right) rfl

theorem comesTo_notEqual (left right : Value) :
    (Expr.binary .notEqual (.literal left) (.literal right)).ComesTo
      (.ok (.bool !left.equals right)) :=
  (Expr.comesTo_literal left).binary (Expr.comesTo_literal right) rfl

theorem equal_iff {left right : Value} : left.Equal right ↔ left.equals right = true := by
  have comes := comesTo_equal left right
  constructor
  · intro equal
    have same := comes.unique equal
    injection same with same
    injection same
  · intro equals
    rw [equals] at comes
    exact comes

/-- Values other than two kinds of number are equal if they are the same. -/
theorem equals_of_not_areMixed {left right : Value} (alike : areMixed left right = false) :
    left.equals right = left.same right := by
  cases left <;> cases right <;> first | rfl | cases alike

/-- Two kinds of number are never the same. -/
theorem same_of_areMixed {left right : Value} (mixed : areMixed left right = true) :
    left.same right = false := by
  cases left <;> cases right <;> first | rfl | cases mixed

theorem same_iff {left right : Value} :
    left.same right = true ↔ left.Equal right ∧ areMixed left right = false := by
  rw [equal_iff]
  cases mixed : areMixed left right with
  | true =>
    rw [same_of_areMixed mixed]
    simp
  | false =>
    rw [equals_of_not_areMixed mixed]
    simp

/-! ### Lists -/

theorem mixAt_cons {left right : Value} {lefts rights : List Value} :
    MixAt (left :: lefts) (right :: rights) ↔
      areMixed left right = true ∨ MixAt lefts rights := by
  unfold MixAt
  rw [List.zip_cons_cons, List.exists_mem_cons_iff]

theorem not_mixAt_cons {left right : Value} {lefts rights : List Value} :
    ¬ MixAt (left :: lefts) (right :: rights) ↔
      areMixed left right = false ∧ ¬ MixAt lefts rights := by
  rw [mixAt_cons, not_or, Bool.not_eq_true]

/-- Lists are the same if their items are equal, and no place mixes the kinds of number. -/
theorem sameItems_iff {lefts rights : List Value} :
    sameItems lefts rights = true ↔ EqualItems lefts rights ∧ ¬ MixAt lefts rights := by
  induction lefts generalizing rights with
  | nil =>
    cases rights with
    | nil => exact ⟨fun _ => ⟨.nil, fun ⟨_, member, _⟩ => nomatch member⟩, fun _ => rfl⟩
    | cons right rights => exact ⟨nofun, fun ⟨equal, _⟩ => nomatch equal⟩
  | cons left lefts inductionHypothesis =>
    cases rights with
    | nil => exact ⟨nofun, fun ⟨equal, _⟩ => nomatch equal⟩
    | cons right rights =>
      rw [sameItems, Bool.and_eq_true, same_iff, inductionHypothesis, not_mixAt_cons,
        and_and_and_comm, ← List.forall₂_cons]

theorem equal_list_iff {lefts rights : List Value} :
    (list lefts).Equal (list rights) ↔ EqualItems lefts rights ∧ ¬ MixAt lefts rights :=
  equal_iff.trans sameItems_iff

theorem comesTo_notEqual_iff {left right : Value} {truth : Bool} :
    (Expr.binary .notEqual (.literal left) (.literal right)).ComesTo (.ok (.bool truth)) ↔
      (Expr.binary .equal (.literal left) (.literal right)).ComesTo (.ok (.bool !truth)) := by
  constructor
  · intro comes
    have same := (comesTo_notEqual left right).unique comes
    injection same with same
    injection same with same
    rw [← same, Bool.not_not]
    exact comesTo_equal left right
  · intro comes
    have same := (comesTo_equal left right).unique comes
    injection same with same
    injection same with same
    have other := comesTo_notEqual left right
    rw [same, Bool.not_not] at other
    exact other

end Value

/-- Two lists are equal exactly if they have equal items at the same places and mix the kinds of
number at none of them. So the equality of lists agrees with that of their items unless the items
are equal and numbers of two kinds are among them. Inequality is always the opposite of equality. -/
theorem equal_lists_iff (lefts rights : List Value) :
    ((Value.list lefts).Equal (.list rights) ↔
        Value.EqualItems lefts rights ∧ ¬ Value.MixAt lefts rights) ∧
      (((Value.list lefts).Equal (.list rights) ↔ Value.EqualItems lefts rights) ↔
        ¬ (Value.EqualItems lefts rights ∧ Value.MixAt lefts rights)) ∧
      ∀ (left right : Value) (truth : Bool),
        (Expr.binary .notEqual (.literal left) (.literal right)).ComesTo (.ok (.bool truth)) ↔
          (Expr.binary .equal (.literal left) (.literal right)).ComesTo (.ok (.bool !truth)) := by
  refine ⟨Value.equal_list_iff, ?_, fun _ _ _ => Value.comesTo_notEqual_iff⟩
  rw [Value.equal_list_iff]
  tauto

/-- One and one point zero are equal, but not inside lists. -/
theorem not_equal_lists_of_equal_items : ¬ ∀ lefts rights : List Value,
    (Value.list lefts).Equal (.list rights) ↔ Value.EqualItems lefts rights := by
  intro agrees
  have equal : (Value.int 1).Equal (.float 1) := Value.equal_iff.mpr (by decide +kernel)
  have equalLists := (agrees [.int 1] [.float 1]).mpr (.cons equal .nil)
  exact absurd (Value.equal_iff.mp equalLists) (by decide)

end Playscript
