/-
This file says that the columns of lexemes do not matter for what an expression is. If two texts have
the same lexemes but for their columns, what is a phrase of the one is a phrase of the other, and the
two trees are valid together and stand for one expression.

The readers of expressions keep columns in trees and in issues. They need not be looked at, since the
grammar tells all of what they take, and asks for kinds and texts only.
-/

import Mathlib.Data.List.Forall2
import Playscript.Expr.Validation
import Playscript.Proofs.Parsing

namespace Playscript

/-! ### What is alike -/

/-- Two lexemes are of one kind and have one text. The text of a quotation that is left open does not
matter, since no expression has one. -/
structure Lexeme.Alike (first second : Lexeme) : Prop where
  kind : first.kind = second.kind
  text : first.kind ≠ .openString → first.text = second.text

/-- Two trees stand for the same expression, or both for none, and are the same name, or both no
name. -/
structure Tree.Alike (first second : Tree) : Prop where
  expr : first.validate.toOption = second.validate.toOption
  name : ∀ problem, (Validated.nameOf problem first).toOption =
    (Validated.nameOf problem second).toOption

theorem Lexeme.Alike.symm {first second : Lexeme} (alike : first.Alike second) :
    second.Alike first :=
  ⟨alike.kind.symm, fun closed => (alike.text (alike.kind ▸ closed)).symm⟩

/-! ### Trees -/

namespace Validated

theorem toOption_map {First Result : Type} (change : First → Result) (validated : Validated First) :
    (validated.map change).toOption = validated.toOption.map change := by
  cases validated <;> rfl

theorem toOption_both {First Second Result : Type} (combine : First → Second → Result)
    (first : Validated First) (second : Validated Second) :
    (both combine first second).toOption =
      first.toOption.bind fun left => second.toOption.map (combine left) := by
  cases first <;> cases second <;> rfl

end Validated

namespace Tree.Alike

variable {first second third fourth : Tree} {column column' : Nat}

theorem toOption_validateAll {firsts seconds : List Tree}
    (each : List.Forall₂ Tree.Alike firsts seconds) :
    (validateAll firsts).toOption = (validateAll seconds).toOption := by
  induction each with
  | nil => rfl
  | cons pair _ inductionHypothesis =>
    rw [validateAll, validateAll, Validated.toOption_both, Validated.toOption_both, pair.expr,
      inductionHypothesis]

theorem list {items items' : List Tree} (each : List.Forall₂ Tree.Alike items items') :
    (Tree.list column items).Alike (.list column' items') where
  expr := by
    rw [validate, validate, Validated.toOption_map, Validated.toOption_map,
      toOption_validateAll each]
  name _ := rfl

theorem sequence {items items' : List Tree} (each : List.Forall₂ Tree.Alike items items') :
    (Tree.sequence column items).Alike (.sequence column' items') where
  expr := by
    rw [validate, validate, Validated.toOption_map, Validated.toOption_map,
      toOption_validateAll each]
  name _ := rfl

theorem unary (operator : UnaryOperator) (operand : first.Alike second) :
    (Tree.unary column operator first).Alike (.unary column' operator second) where
  expr := by
    rw [validate, validate, Validated.toOption_map, Validated.toOption_map, operand.expr]
  name _ := rfl

theorem binary (operator : BinaryOperator) (left : first.Alike second) (right : third.Alike fourth) :
    (Tree.binary column operator first third).Alike (.binary column' operator second fourth) where
  expr := by
    rw [validate, validate, Validated.toOption_both, Validated.toOption_both, left.expr, right.expr]
  name _ := rfl

theorem assign (target : first.Alike second) (value : third.Alike fourth) :
    (Tree.assign column first third).Alike (.assign column' second fourth) where
  expr := by
    rw [validate, validate, Validated.toOption_both, Validated.toOption_both, value.expr,
      target.name]
  name _ := rfl

theorem call {arguments arguments' : List Tree} (callee : first.Alike second)
    (each : List.Forall₂ Tree.Alike arguments arguments') :
    (Tree.call column first arguments).Alike (.call column' second arguments') where
  expr := by
    rw [validate, validate, Validated.toOption_both, Validated.toOption_both,
      toOption_validateAll each, callee.name]
  name _ := rfl

end Tree.Alike

theorem Lexeme.Alike.leaf {first second : Lexeme} {tree : Tree} (alike : first.Alike second)
    (stands : first.leaf? = some tree) :
    ∃ other, second.leaf? = some other ∧ tree.Alike other := by
  obtain ⟨kind, text, column⟩ := first
  obtain ⟨kind', text', column'⟩ := second
  obtain ⟨rfl, sameText⟩ := alike
  cases kind <;> cases stands
  case int | float | string =>
    obtain rfl := sameText nofun
    refine ⟨_, rfl, ?_, fun _ => rfl⟩
    simp only [Tree.validate]
    split <;> rfl
  case name =>
    obtain rfl := sameText nofun
    exact ⟨_, rfl, rfl, fun _ => rfl⟩
  all_goals exact ⟨_, rfl, rfl, fun _ => rfl⟩

/-! ### Phrases -/

theorem exists_append_of_forall₂ {First Second : Type} {related : First → Second → Prop}
    {firsts others : List First} {whole : List Second}
    (each : List.Forall₂ related (firsts ++ others) whole) :
    ∃ seconds further, whole = seconds ++ further ∧ List.Forall₂ related firsts seconds ∧
      List.Forall₂ related others further :=
  ⟨whole.take firsts.length, whole.drop firsts.length,
    (List.take_append_drop firsts.length whole).symm,
    (List.forall₂_take_append whole firsts others each.flip).flip,
    (List.forall₂_drop_append whole firsts others each.flip).flip⟩

/-- Lexemes that are alike can be cut in the same places. -/
theorem Separated.exists_alike {separator : LexemeKind} {parts : List (List Lexeme)}
    {lexemes lexemes' : List Lexeme} (separated : Separated separator parts lexemes)
    (alike : List.Forall₂ Lexeme.Alike lexemes lexemes') :
    ∃ parts', List.Forall₂ (List.Forall₂ Lexeme.Alike) parts parts' ∧
      Separated separator parts' lexemes' := by
  induction separated generalizing lexemes' with
  | none =>
    cases alike
    exact ⟨[], .nil, .none⟩
  | last part => exact ⟨[lexemes'], .cons alike .nil, .last lexemes'⟩
  | more part isSeparator _ inductionHypothesis =>
    obtain ⟨part', _, rfl, partAlike, later⟩ := exists_append_of_forall₂ alike
    obtain ⟨mark, further, markAlike, othersAlike, rfl⟩ := List.forall₂_cons_left_iff.mp later
    obtain ⟨parts', partsAlike, others⟩ := inductionHypothesis othersAlike
    exact ⟨part' :: parts', .cons partAlike partsAlike,
      .more part' (markAlike.kind ▸ isSeparator) others⟩

/-- If each part has a counterpart for all lexemes that are alike, so do the parts together. -/
theorem exists_parts_alike {levels : Nat} {parts : List (List Lexeme × Tree)}
    {phrases : List (List Lexeme)}
    (each : ∀ part ∈ parts, ∀ {lexemes}, List.Forall₂ Lexeme.Alike part.1 lexemes →
      ∃ tree, Phrase levels .expression lexemes tree ∧ part.2.Alike tree)
    (alike : List.Forall₂ (List.Forall₂ Lexeme.Alike) (parts.map Prod.fst) phrases) :
    ∃ others : List (List Lexeme × Tree), others.map Prod.fst = phrases ∧
      (∀ part ∈ others, Phrase levels .expression part.1 part.2) ∧
      List.Forall₂ Tree.Alike (parts.map Prod.snd) (others.map Prod.snd) := by
  induction parts generalizing phrases with
  | nil =>
    cases alike
    exact ⟨[], rfl, List.forall_mem_nil _, .nil⟩
  | cons part rest inductionHypothesis =>
    obtain ⟨first, others⟩ := List.forall_mem_cons.mp each
    obtain ⟨phrase, further, pair, later, rfl⟩ := List.forall₂_cons_left_iff.mp alike
    obtain ⟨tree, derived, treeAlike⟩ := first pair
    obtain ⟨parts, rfl, eachOther, treesAlike⟩ := inductionHypothesis others later
    exact ⟨(phrase, tree) :: parts, rfl, List.forall_mem_cons.mpr ⟨derived, eachOther⟩,
      .cons treeAlike treesAlike⟩

/-- A phrase is one whatever the columns are. -/
theorem Phrase.exists_alike {levels : Nat} {category : Category} {lexemes lexemes' : List Lexeme}
    {tree : Tree} (phrase : Phrase levels category lexemes tree)
    (alike : List.Forall₂ Lexeme.Alike lexemes lexemes') :
    ∃ tree', Phrase levels category lexemes' tree' ∧ tree.Alike tree' := by
  induction phrase generalizing lexemes' with
  | wider _ inductionHypothesis =>
    obtain ⟨tree', derived, same⟩ := inductionHypothesis alike
    exact ⟨tree', .wider derived, same⟩
  | assignment _ isMark _ target value =>
    obtain ⟨first, _, rfl, firstAlike, later⟩ := exists_append_of_forall₂ alike
    obtain ⟨mark, second, markAlike, secondAlike, rfl⟩ := List.forall₂_cons_left_iff.mp later
    obtain ⟨targetTree, targetPhrase, targetSame⟩ := target firstAlike
    obtain ⟨valueTree, valuePhrase, valueSame⟩ := value secondAlike
    exact ⟨_, .assignment targetPhrase (markAlike.kind ▸ isMark) valuePhrase,
      targetSame.assign valueSame⟩
  | operation _ isMark _ left right =>
    obtain ⟨first, _, rfl, firstAlike, later⟩ := exists_append_of_forall₂ alike
    obtain ⟨mark, second, markAlike, secondAlike, rfl⟩ := List.forall₂_cons_left_iff.mp later
    obtain ⟨leftTree, leftPhrase, leftSame⟩ := left firstAlike
    obtain ⟨rightTree, rightPhrase, rightSame⟩ := right secondAlike
    exact ⟨_, .operation leftPhrase (markAlike.kind ▸ isMark) rightPhrase,
      leftSame.binary _ rightSame⟩
  | prefixed isMark _ operand =>
    obtain ⟨mark, others, markAlike, othersAlike, rfl⟩ := List.forall₂_cons_left_iff.mp alike
    obtain ⟨tree', derived, same⟩ := operand othersAlike
    exact ⟨_, .prefixed (markAlike.kind ▸ isMark) derived, same.unary _⟩
  | call _ opens _ separated closes callee arguments =>
    obtain ⟨first, _, rfl, firstAlike, later⟩ := exists_append_of_forall₂ alike
    obtain ⟨opening, _, openingAlike, inside, rfl⟩ := List.forall₂_cons_left_iff.mp later
    obtain ⟨items, _, rfl, itemsAlike, ending⟩ := exists_append_of_forall₂ inside
    obtain ⟨closing, _, closingAlike, nothing, rfl⟩ := List.forall₂_cons_left_iff.mp ending
    cases nothing
    obtain ⟨calleeTree, called, calleeSame⟩ := callee firstAlike
    obtain ⟨phrases, phrasesAlike, cut⟩ := separated.exists_alike itemsAlike
    obtain ⟨parts, rfl, each, treesSame⟩ :=
      exists_parts_alike (fun part member _ => arguments part member) phrasesAlike
    exact ⟨_, .call called (openingAlike.kind ▸ opens) each cut (closingAlike.kind ▸ closes),
      calleeSame.call treesSame⟩
  | leaf stands =>
    obtain ⟨lexeme, _, lexemeAlike, nothing, rfl⟩ := List.forall₂_cons_left_iff.mp alike
    cases nothing
    obtain ⟨other, otherStands, same⟩ := lexemeAlike.leaf stands
    exact ⟨other, .leaf otherStands, same⟩
  | list opens _ separated closes elements =>
    obtain ⟨opening, _, openingAlike, inside, rfl⟩ := List.forall₂_cons_left_iff.mp alike
    obtain ⟨items, _, rfl, itemsAlike, ending⟩ := exists_append_of_forall₂ inside
    obtain ⟨closing, _, closingAlike, nothing, rfl⟩ := List.forall₂_cons_left_iff.mp ending
    cases nothing
    obtain ⟨phrases, phrasesAlike, cut⟩ := separated.exists_alike itemsAlike
    obtain ⟨parts, rfl, each, treesSame⟩ :=
      exists_parts_alike (fun part member _ => elements part member) phrasesAlike
    exact ⟨_, .list (openingAlike.kind ▸ opens) each cut (closingAlike.kind ▸ closes),
      .list treesSame⟩
  | parenthesized opens _ closes inner =>
    obtain ⟨opening, _, openingAlike, inside, rfl⟩ := List.forall₂_cons_left_iff.mp alike
    obtain ⟨others, _, rfl, othersAlike, ending⟩ := exists_append_of_forall₂ inside
    obtain ⟨closing, _, closingAlike, nothing, rfl⟩ := List.forall₂_cons_left_iff.mp ending
    cases nothing
    obtain ⟨tree', derived, same⟩ := inner othersAlike
    exact ⟨tree', .parenthesized (openingAlike.kind ▸ opens) derived (closingAlike.kind ▸ closes),
      same⟩

/-! ### Whole texts -/

theorem Statements.exists_alike {lexemes lexemes' : List Lexeme} {tree : Tree}
    (statements : Statements lexemes tree) (alike : List.Forall₂ Lexeme.Alike lexemes lexemes') :
    ∃ tree', Statements lexemes' tree' ∧ tree.Alike tree' := by
  cases statements with
  | one phrase separated =>
    obtain ⟨phrases, phrasesAlike, cut⟩ := separated.exists_alike alike
    obtain ⟨expression, _, expressionAlike, nothing, rfl⟩ :=
      List.forall₂_cons_left_iff.mp phrasesAlike
    cases nothing
    obtain ⟨tree', derived, same⟩ := phrase.exists_alike expressionAlike
    exact ⟨tree', .one derived cut, same⟩
  | several each atLeastTwo separated =>
    obtain ⟨phrases, phrasesAlike, cut⟩ := separated.exists_alike alike
    obtain ⟨parts, rfl, eachOther, treesSame⟩ :=
      exists_parts_alike (fun part member _ => (each part member).exists_alike) phrasesAlike
    obtain ⟨first, others, -, -, rfl⟩ := List.forall₂_cons_left_iff.mp alike
    have sameLength := treesSame.length_eq
    rw [List.length_map, List.length_map] at sameLength
    exact ⟨_, .several eachOther (sameLength ▸ atLeastTwo) cut, .sequence treesSame⟩

namespace Draft

theorem validate_read_eq_ok_iff {source : String} {expr : Expr} :
    (read source).validate = .ok expr ↔
      ∃ tree, Statements (Lexeme.scan source).dropLast tree ∧ tree.validate = .ok expr := by
  simp only [← reading_eq_iff]
  unfold validate
  rcases (read source).reading with issue | _ | tree
  · exact iff_of_false nofun fun ⟨_, same, _⟩ => nomatch same
  · exact iff_of_false nofun fun ⟨_, same, _⟩ => nomatch same
  · refine ⟨fun valid => ⟨tree, rfl, valid⟩, ?_⟩
    rintro ⟨_, same, valid⟩
    cases same
    exact valid

/-- Texts with the same lexemes but for their columns are the same expression, or both none. -/
theorem validate_read_of_alike {source source' : String} {expr : Expr}
    (alike : List.Forall₂ Lexeme.Alike (Lexeme.scan source) (Lexeme.scan source'))
    (valid : (read source).validate = .ok expr) : (read source').validate = .ok expr := by
  obtain ⟨tree, statements, means⟩ := validate_read_eq_ok_iff.mp valid
  have before : List.Forall₂ Lexeme.Alike (Lexeme.scan source).dropLast
      (Lexeme.scan source').dropLast := by
    rw [List.dropLast_eq_take, List.dropLast_eq_take, alike.length_eq]
    exact List.forall₂_take _ alike
  obtain ⟨tree', statements', same⟩ := statements.exists_alike before
  refine validate_read_eq_ok_iff.mpr ⟨tree', statements', ?_⟩
  have sameExpr := same.expr
  rw [means] at sameExpr
  generalize tree'.validate = validated at sameExpr
  cases validated with
  | error diagnostics => cases sameExpr
  | ok other =>
    cases sameExpr
    rfl

theorem validate_read_iff_of_alike {source source' : String} {expr : Expr}
    (alike : List.Forall₂ Lexeme.Alike (Lexeme.scan source) (Lexeme.scan source')) :
    (read source).validate = .ok expr ↔ (read source').validate = .ok expr :=
  ⟨validate_read_of_alike alike,
    validate_read_of_alike (alike.flip.imp fun _ _ pair => Lexeme.Alike.symm pair)⟩

end Draft

end Playscript
