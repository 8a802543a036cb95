/-
This file says how the literals of an expression are spelled, and what the numbers among them are
worth. A lexeme keeps the characters it was cut from, so a literal anywhere in the tree of a text is
spelled as its kind demands: an integer by digits and underscores, a floating-point number by two
such runs around a point, and a string without a backslash left over at its end. Digits can always
be read, so an integer is only refused for its size.
-/

import Mathlib.Data.Nat.Basic
import Playscript.Proofs.Covering
import Playscript.Proofs.Heights
import Playscript.Proofs.Literals

namespace Playscript

/-! ### Digits -/

/-- Digits after digits that were read already. -/
theorem foldl_digitsValue {digits : List Char} (allDigits : ∀ digit ∈ digits, digit.isDigit = true)
    (sofar : Nat) :
    digits.foldl (fun value? digit =>
        value?.bind fun value =>
          if digit.isDigit then some (10 * value + (digit.toNat - '0'.toNat)) else none)
        (some sofar) = some (Nat.ofDigitChars 10 digits sofar) := by
  induction digits generalizing sofar with
  | nil => rfl
  | cons digit rest inductionHypothesis =>
    obtain ⟨first, others⟩ := List.forall_mem_cons.mp allDigits
    rw [List.foldl_cons, Option.bind_some, if_pos first, inductionHypothesis others,
      Nat.ofDigitChars_cons]

/-- Digits are read in base ten. -/
theorem digitsValue?_of_digits {digits : List Char}
    (allDigits : ∀ digit ∈ digits, digit.isDigit = true) :
    digitsValue? digits = some (Nat.ofDigitChars 10 digits 0) :=
  foldl_digitsValue allDigits 0

/-- The greatest integer has nineteen digits. -/
theorem int64?_natCast_eq_none_iff {number : Nat} :
    int64? number = none ↔ 9223372036854775807 < number := by
  have least : Int64.minValue.toInt = -9223372036854775808 := rfl
  have greatest : Int64.maxValue.toInt = 9223372036854775807 := rfl
  unfold int64?
  rw [least, greatest]
  split <;> simp only [reduceCtorEq, true_iff, false_iff] <;> omega

namespace Tree

/-- The number that a text of digits and underscores stands for. -/
def decimal (text : String) : Nat := Nat.ofDigitChars 10 (withoutGaps text) 0

end Tree

/-! ### Lexemes -/

/-- How the text of a literal is made up. -/
def LexemeKind.Spells : LexemeKind → List Char → Prop
  | int, text => ∀ character ∈ text, LexemeCut.isDigitOrGap character = true
  | float, text =>
    ∃ whole fraction, text = whole ++ '.' :: fraction ∧
      (∀ character ∈ whole, LexemeCut.isDigitOrGap character = true) ∧
      ∀ character ∈ fraction, LexemeCut.isDigitOrGap character = true
  | string, text => ¬ Dangling text
  | _, _ => True

/-- Whether the lexemes of a kind are no literals that keep their text. -/
def LexemeKind.isFixed : LexemeKind → Bool
  | int | float | string => false
  | _ => true

theorem LexemeKind.spells_of_isFixed {kind : LexemeKind} (isFixed : kind.isFixed = true)
    (text : List Char) : kind.Spells text := by
  cases kind <;> trivial

namespace LexemeCut

theorem isDigitOrGap_of_isDigit {character : Char} (isDigit : character.isDigit = true) :
    isDigitOrGap character = true := by
  rw [isDigitOrGap, isDigit]
  rfl

theorem isFixed_nameKind (text : List Char) : (nameKind text).isFixed = true := by
  unfold nameKind
  repeat' split
  all_goals rfl

end LexemeCut

/-- What a lexeme takes up is spelled as its kind demands. -/
theorem LexemeKind.TakesUp.spells {kind : LexemeKind} {text piece rest : List Char}
    (takesUp : kind.TakesUp text piece rest) : kind.Spells text := by
  cases takesUp with
  | written writes _ =>
    cases writes with
    | int isDigit each =>
      exact List.forall_mem_cons.mpr ⟨LexemeCut.isDigitOrGap_of_isDigit isDigit, each⟩
    | float isDigit eachWhole nextIsDigit eachFraction =>
      exact ⟨_ :: _, _, rfl,
        List.forall_mem_cons.mpr ⟨LexemeCut.isDigitOrGap_of_isDigit isDigit, eachWhole⟩,
        List.forall_mem_cons.mpr ⟨LexemeCut.isDigitOrGap_of_isDigit nextIsDigit, eachFraction⟩⟩
    | name => exact spells_of_isFixed (LexemeCut.isFixed_nameKind _) _
    | mark isMark =>
      have allFixed : ∀ mark ∈ marks, mark.1.isFixed = true := by decide
      exact spells_of_isFixed (allFixed _ isMark) _
  | string _ quoted => exact not_dangling_of_quoted quoted
  | openString | stray => trivial

/-- Every lexeme of a text is spelled as its kind demands. -/
theorem Lexeme.spells_of_mem_scan {source : String} :
    ∀ lexeme ∈ scan source, lexeme.kind.Spells lexeme.text.toList := by
  intro lexeme member
  rcases (covers_scan source).exists_piece_of_mem lexeme member with
    rfl | ⟨_, _, _, _, _, takesUp⟩
  · trivial
  · exact takesUp.spells

/-! ### The parts of a tree -/

namespace Tree

mutual

/-- All parts of a tree; the tree itself is the last one. -/
def parts : Tree → List Tree
  | list column items => partsOfAll items ++ [list column items]
  | unary column operator operand => operand.parts ++ [unary column operator operand]
  | binary column operator left right =>
    left.parts ++ right.parts ++ [binary column operator left right]
  | assign column target value => target.parts ++ value.parts ++ [assign column target value]
  | call column callee arguments =>
    callee.parts ++ partsOfAll arguments ++ [call column callee arguments]
  | sequence column items => partsOfAll items ++ [sequence column items]
  | leaf => [leaf]

/-- All parts of some trees. -/
def partsOfAll : List Tree → List Tree
  | [] => []
  | item :: rest => item.parts ++ partsOfAll rest

end

theorem partsOfAll_eq (trees : List Tree) : partsOfAll trees = trees.flatMap parts := by
  induction trees with
  | nil => rfl
  | cons item rest inductionHypothesis =>
    rw [partsOfAll, inductionHypothesis, List.flatMap_cons]

/-- What holds of the parts of each item holds of all parts. -/
theorem forall_mem_partsOfAll {property : Tree → Prop} {items : List (List Lexeme × Tree)}
    (each : ∀ item ∈ items, ∀ part ∈ item.2.parts, property part) :
    ∀ part ∈ partsOfAll (items.map Prod.snd), property part := by
  rw [partsOfAll_eq, List.flatMap_map]
  exact List.forall_mem_flatMap.mpr each

/-- A literal is spelled as the lexemes of its kind are. -/
def IsSpelled : Tree → Prop
  | int _ text => LexemeKind.int.Spells text.toList
  | float _ text => LexemeKind.float.Spells text.toList
  | string _ text => LexemeKind.string.Spells text.toList
  | _ => True

end Tree

theorem Lexeme.isSpelled_of_leaf? {lexeme : Lexeme} {tree : Tree}
    (stands : lexeme.leaf? = some tree) (spells : lexeme.kind.Spells lexeme.text.toList) :
    ∀ part ∈ tree.parts, part.IsSpelled := by
  unfold leaf? at stands
  split at stands <;> cases stands
  all_goals
    rename_i kind
    rw [kind] at spells
    exact List.forall_mem_singleton.mpr spells

theorem Separated.sublist_of_mem {separator : LexemeKind} {parts : List (List Lexeme)}
    {lexemes : List Lexeme} (separated : Separated separator parts lexemes) :
    ∀ part ∈ parts, part.Sublist lexemes := by
  induction separated with
  | none => exact List.forall_mem_nil _
  | last part => exact List.forall_mem_singleton.mpr (List.Sublist.refl _)
  | more part _ _ inductionHypothesis =>
    refine List.forall_mem_cons.mpr ⟨List.sublist_append_left _ _, fun other member => ?_⟩
    exact ((inductionHypothesis other member).cons _).trans (List.sublist_append_right _ _)

/-- Items with separators between them are spelled if each of them is. -/
theorem isSpelled_of_separated {separator : LexemeKind} {items : List (List Lexeme × Tree)}
    {lexemes : List Lexeme} (separated : Separated separator (items.map Prod.fst) lexemes)
    (spells : ∀ lexeme ∈ lexemes, lexeme.kind.Spells lexeme.text.toList)
    (each : ∀ item ∈ items, (∀ lexeme ∈ item.1, lexeme.kind.Spells lexeme.text.toList) →
      ∀ part ∈ item.2.parts, part.IsSpelled) :
    ∀ part ∈ Tree.partsOfAll (items.map Prod.snd), part.IsSpelled := by
  refine Tree.forall_mem_partsOfAll fun item itemMember =>
    each item itemMember fun lexeme among => spells lexeme ?_
  exact (separated.sublist_of_mem item.1 (List.mem_map_of_mem itemMember)).subset among

/-- The literals of a phrase are spelled as its lexemes are. -/
theorem Phrase.isSpelled {levels : Nat} {category : Category} {lexemes : List Lexeme} {tree : Tree}
    (phrase : Phrase levels category lexemes tree)
    (spells : ∀ lexeme ∈ lexemes, lexeme.kind.Spells lexeme.text.toList) :
    ∀ part ∈ tree.parts, part.IsSpelled := by
  induction phrase with
  | wider _ inductionHypothesis => exact inductionHypothesis spells
  | assignment _ _ _ target value | operation _ _ _ target value =>
    obtain ⟨first, second⟩ := List.forall_mem_append.mp spells
    have others := (List.forall_mem_cons.mp second).2
    exact List.forall_mem_append.mpr ⟨List.forall_mem_append.mpr ⟨target first, value others⟩,
      List.forall_mem_singleton.mpr trivial⟩
  | prefixed _ _ operand =>
    have others := (List.forall_mem_cons.mp spells).2
    exact List.forall_mem_append.mpr ⟨operand others, List.forall_mem_singleton.mpr trivial⟩
  | call _ _ _ separated _ callee arguments =>
    obtain ⟨first, second⟩ := List.forall_mem_append.mp spells
    have inside := (List.forall_mem_append.mp (List.forall_mem_cons.mp second).2).1
    exact List.forall_mem_append.mpr ⟨List.forall_mem_append.mpr
      ⟨callee first, isSpelled_of_separated separated inside arguments⟩,
      List.forall_mem_singleton.mpr trivial⟩
  | leaf stands => exact Lexeme.isSpelled_of_leaf? stands (spells _ List.mem_cons_self)
  | list _ _ separated _ elements =>
    have inside := (List.forall_mem_append.mp (List.forall_mem_cons.mp spells).2).1
    exact List.forall_mem_append.mpr
      ⟨isSpelled_of_separated separated inside elements, List.forall_mem_singleton.mpr trivial⟩
  | parenthesized _ _ _ inductionHypothesis =>
    exact inductionHypothesis (List.forall_mem_append.mp (List.forall_mem_cons.mp spells).2).1

theorem Statements.isSpelled {lexemes : List Lexeme} {tree : Tree}
    (statements : Statements lexemes tree)
    (spells : ∀ lexeme ∈ lexemes, lexeme.kind.Spells lexeme.text.toList) :
    ∀ part ∈ tree.parts, part.IsSpelled := by
  cases statements with
  | one phrase separated =>
    exact phrase.isSpelled fun lexeme member =>
      spells lexeme ((separated.sublist_of_mem _ (List.mem_singleton_self _)).subset member)
  | several each _ separated =>
    exact List.forall_mem_append.mpr
      ⟨isSpelled_of_separated separated spells fun item member => (each item member).isSpelled,
        List.forall_mem_singleton.mpr trivial⟩

/-- Every literal anywhere in the tree of a text is spelled as its kind demands. -/
theorem isSpelled_of_mem_parts {source : String} {root : Tree}
    (read : (Draft.read source).root? = some root) : ∀ part ∈ root.parts, part.IsSpelled := by
  refine (Draft.root?_read_eq_iff.mp read).isSpelled fun lexeme member => ?_
  exact Lexeme.spells_of_mem_scan lexeme ((List.dropLast_sublist _).subset member)

/-! ### The worth of a number -/

namespace Tree

theorem isDigit_of_mem_filter {text : List Char}
    (spelled : ∀ character ∈ text, LexemeCut.isDigitOrGap character = true) :
    ∀ digit ∈ text.filter (· ≠ '_'), digit.isDigit = true := by
  intro digit member
  obtain ⟨among, notGap⟩ := List.mem_filter.mp member
  simpa [LexemeCut.isDigitOrGap, of_decide_eq_true notGap] using spelled digit among

/-- An integer literal is read in base ten, if it fits. -/
theorem readInt?_withoutGaps {text : String} (spelled : LexemeKind.int.Spells text.toList) :
    readInt? (withoutGaps text) = int64? (decimal text) := by
  rw [readInt?, withoutGaps, digitsValue?_of_digits (isDigit_of_mem_filter spelled)]
  rfl

/-- A floating-point literal can always be read. -/
theorem exists_readFloat? {text : String} (spelled : LexemeKind.float.Spells text.toList) :
    ∃ number, readFloat? (withoutGaps text) = some number := by
  obtain ⟨whole, fraction, same, wholeSpelled, fractionSpelled⟩ := spelled
  have wholeDigits := isDigit_of_mem_filter wholeSpelled
  have noPoint : ∀ digit ∈ whole.filter (· ≠ '_'), decide (digit ≠ '.') = true := by
    intro digit member
    refine decide_eq_true fun isPoint => ?_
    exact absurd (wholeDigits digit member) (isPoint ▸ by decide)
  have allDigits := List.forall_mem_append.mpr ⟨wholeDigits, isDigit_of_mem_filter fractionSpelled⟩
  have shape : withoutGaps text = whole.filter (· ≠ '_') ++ '.' :: fraction.filter (· ≠ '_') := by
    rw [withoutGaps, same, List.filter_append, List.filter_cons_of_pos (by decide)]
  rw [shape, readFloat?, List.takeWhile_append_of_pos noPoint, List.dropWhile_append_of_pos noPoint,
    List.takeWhile_cons_of_neg (by decide), List.dropWhile_cons_of_neg (by decide),
    List.append_nil]
  dsimp only
  rw [digitsValue?_of_digits allDigits]
  exact ⟨_, rfl⟩

end Tree

end Playscript
