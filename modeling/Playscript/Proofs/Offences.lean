/-
This file says which problems of an expression are reported. A node offends by itself: an integer by
its size, a string by its escapes, an assignment by a target and a call by a callee that is no name.
The diagnostics are the offences of the nodes that validation sees, in order, and nothing else.

Validation does not see what lies inside a target or a callee. All offences of a tree are reported
exactly if those that are hidden there are also reported from elsewhere; a callee that is itself a
call with a bad argument shows that this is not always so.
-/

import Mathlib.Algebra.Order.Group.Multiset
import Mathlib.Tactic.Abel
import Playscript.Proofs.Spelling

namespace Playscript

/-! ### Escapes -/

/-- The characters that have no meaning after the backslash before them, in order. -/
def badEscapes : List Char → List Char
  | [] => []
  | '\\' :: character :: rest =>
    if escapeMeaning character = none then character :: badEscapes rest else badEscapes rest
  | _ :: rest => badEscapes rest

theorem badEscapes_plain {character : Char} {rest : List Char} (notBackslash : character ≠ '\\') :
    badEscapes (character :: rest) = badEscapes rest := by
  rw [badEscapes]
  exact fun _ _ same _ => notBackslash same

theorem escapeFlaws_escaped (character : Char) (rest : List Char) :
    escapeFlaws ('\\' :: character :: rest) =
      if escapeMeaning character = none then .unknown character :: escapeFlaws rest
      else escapeFlaws rest := by
  unfold escapeFlaws
  rw [unescape]
  cases escapeMeaning character <;> cases unescape rest <;> rfl

/-- In a text that does not end after a backslash, the flaws are the escapes without a meaning. -/
theorem escapeFlaws_eq : (text : List Char) → ¬ Dangling text →
    escapeFlaws text = (badEscapes text).map .unknown
  | [], _ => rfl
  | [character], notDangling => by
    have notBackslash : character ≠ '\\' := by
      rintro rfl
      exact notDangling .last
    rw [escapeFlaws_plain notBackslash, badEscapes_plain notBackslash]
    rfl
  | character :: next :: rest, notDangling => by
    by_cases backslash : character = '\\'
    · subst backslash
      have others := escapeFlaws_eq rest (mt dangling_escaped_iff.mpr notDangling)
      rw [escapeFlaws_escaped, badEscapes, others]
      split <;> rfl
    · rw [escapeFlaws_plain backslash, badEscapes_plain backslash]
      exact escapeFlaws_eq (next :: rest) (mt (dangling_plain_iff backslash).mpr notDangling)

/-- An escape is unknown exactly if its character has no meaning there. -/
theorem unknown_mem_escapeFlaws_iff {unknown : Char} : (text : List Char) →
    (.unknown unknown ∈ escapeFlaws text ↔ unknown ∈ badEscapes text)
  | [] => iff_of_false nofun nofun
  | [character] => by
    by_cases backslash : character = '\\'
    · have flaws : escapeFlaws ['\\'] = [.incomplete] := rfl
      rw [backslash, flaws]
      exact iff_of_false (mt List.mem_singleton.mp nofun) nofun
    · rw [escapeFlaws_plain backslash, badEscapes_plain backslash]
      exact iff_of_false nofun nofun
  | character :: next :: rest => by
    by_cases backslash : character = '\\'
    · subst backslash
      have others : .unknown unknown ∈ escapeFlaws rest ↔ unknown ∈ badEscapes rest :=
        unknown_mem_escapeFlaws_iff rest
      rw [escapeFlaws_escaped, badEscapes]
      split
      · rw [List.mem_cons, List.mem_cons, others, EscapeFlaw.unknown.injEq]
      · exact others
    · rw [escapeFlaws_plain backslash, badEscapes_plain backslash]
      exact unknown_mem_escapeFlaws_iff (next :: rest)

theorem badEscapes_subset (text : List Char) : badEscapes text ⊆ text := by
  fun_induction badEscapes text with
  | case1 => exact List.Subset.refl _
  | case2 character rest noMeaning inductionHypothesis =>
    exact List.subset_cons_of_subset _ (List.cons_subset_cons _ inductionHypothesis)
  | case3 character rest meaning inductionHypothesis =>
    exact List.subset_cons_of_subset _ (List.subset_cons_of_subset _ inductionHypothesis)
  | case4 character rest _ inductionHypothesis =>
    exact List.subset_cons_of_subset _ inductionHypothesis

/-! ### Offences -/

namespace Tree

/-- Whether a tree is a name. -/
def isName : Tree → Bool
  | name _ _ => true
  | _ => false

/-- What is wrong with a tree, apart from what is wrong with the parts below it. -/
def offences : Tree → List Diagnostic
  | int column text =>
    if 9223372036854775807 < decimal text then [⟨column, .intOutOfRange text⟩] else []
  | string column text =>
    (badEscapes text.toList).map fun character => ⟨column, .escape (.unknown character)⟩
  | assign _ target _ => if target.isName then [] else [⟨target.column, .assignmentTarget⟩]
  | call _ callee _ => if callee.isName then [] else [⟨callee.column, .callee⟩]
  | _ => []

/-! ### What is seen and what is hidden -/

mutual

/-- The parts of a tree that lie in no target and in no callee; the tree itself is the last one. -/
def seen : Tree → List Tree
  | list column items => seenOfAll items ++ [list column items]
  | unary column operator operand => operand.seen ++ [unary column operator operand]
  | binary column operator left right =>
    left.seen ++ right.seen ++ [binary column operator left right]
  | assign column target value => value.seen ++ [assign column target value]
  | call column callee arguments => seenOfAll arguments ++ [call column callee arguments]
  | sequence column items => seenOfAll items ++ [sequence column items]
  | leaf => [leaf]

/-- The parts of some trees that lie in no target and in no callee. -/
def seenOfAll : List Tree → List Tree
  | [] => []
  | item :: rest => item.seen ++ seenOfAll rest

end

mutual

/-- The parts of a tree that lie in a target or in a callee. -/
def hidden : Tree → List Tree
  | list _ items | sequence _ items => hiddenOfAll items
  | unary _ _ operand => operand.hidden
  | binary _ _ left right => left.hidden ++ right.hidden
  | assign _ target value => target.parts ++ value.hidden
  | call _ callee arguments => callee.parts ++ hiddenOfAll arguments
  | _ => []

/-- The parts of some trees that lie in a target or in a callee. -/
def hiddenOfAll : List Tree → List Tree
  | [] => []
  | item :: rest => item.hidden ++ hiddenOfAll rest

end

mutual

theorem coe_parts (tree : Tree) : (tree.parts : Multiset Tree) = tree.seen + tree.hidden := by
  cases tree with
  | list _ items | sequence _ items =>
    rw [parts, seen, hidden, ← Multiset.coe_add, ← Multiset.coe_add, coe_partsOfAll items]
    abel
  | unary _ _ operand =>
    rw [parts, seen, hidden, ← Multiset.coe_add, ← Multiset.coe_add, coe_parts operand]
    abel
  | binary _ _ left right =>
    simp only [parts, seen, hidden, ← Multiset.coe_add, coe_parts left, coe_parts right]
    abel
  | assign _ target value =>
    simp only [parts, seen, hidden, ← Multiset.coe_add, coe_parts value]
    abel
  | call _ callee arguments =>
    simp only [parts, seen, hidden, ← Multiset.coe_add, coe_partsOfAll arguments]
    abel
  | _ => exact (add_zero _).symm

theorem coe_partsOfAll (items : List Tree) :
    (partsOfAll items : Multiset Tree) = seenOfAll items + hiddenOfAll items := by
  cases items with
  | nil => rfl
  | cons item rest =>
    simp only [partsOfAll, seenOfAll, hiddenOfAll, ← Multiset.coe_add, coe_parts item,
      coe_partsOfAll rest]
    abel

end

/-- Every part is either seen or hidden. -/
theorem parts_perm (tree : Tree) : tree.parts.Perm (tree.seen ++ tree.hidden) := by
  rw [← Multiset.coe_eq_coe, ← Multiset.coe_add]
  exact tree.coe_parts

theorem mem_parts_iff {tree part : Tree} :
    part ∈ tree.parts ↔ part ∈ tree.seen ∨ part ∈ tree.hidden :=
  tree.parts_perm.mem_iff.trans List.mem_append

/-! ### Diagnostics -/

theorem diagnostics_nameOf (problem : Problem) (tree : Tree) :
    (Validated.nameOf problem tree).diagnostics =
      if tree.isName then [] else [⟨tree.column, problem⟩] := by
  cases tree <;> rfl

theorem diagnostics_int {column : Nat} {text : String}
    (spelled : LexemeKind.int.Spells text.toList) :
    (int column text).validate.diagnostics = (int column text).offences := by
  rw [validate, offences, readInt?_withoutGaps spelled]
  rcases fits : int64? (decimal text) with _ | number
  · rw [if_pos (int64?_natCast_eq_none_iff.mp fits)]
    rfl
  · have small : ¬ 9223372036854775807 < decimal text := by
      rw [← int64?_natCast_eq_none_iff, fits]
      exact nofun
    rw [if_neg small]
    rfl

theorem diagnostics_float {column : Nat} {text : String}
    (spelled : LexemeKind.float.Spells text.toList) :
    (float column text).validate.diagnostics = [] := by
  obtain ⟨number, read⟩ := exists_readFloat? spelled
  rw [validate, read]
  rfl

theorem diagnostics_string {column : Nat} {text : String}
    (spelled : LexemeKind.string.Spells text.toList) :
    (string column text).validate.diagnostics = (string column text).offences := by
  have flaws : (string column text).validate.diagnostics =
      (escapeFlaws text.toList).map fun flaw => ⟨column, .escape flaw⟩ := by
    rw [validate, escapeFlaws]
    cases unescape text.toList <;> rfl
  rw [flaws, escapeFlaws_eq _ spelled, List.map_map]
  rfl

theorem flatMap_offences_concat (parts : List Tree) (tree : Tree) :
    (parts ++ [tree]).flatMap offences = parts.flatMap offences ++ tree.offences := by
  rw [List.flatMap_append, List.flatMap_singleton]

mutual

/-- The diagnostics of a tree are the offences of the parts that are seen. -/
theorem diagnostics_validate (tree : Tree) (spelled : ∀ part ∈ tree.seen, part.IsSpelled) :
    tree.validate.diagnostics = tree.seen.flatMap offences := by
  cases tree with
  | int column text =>
    rw [diagnostics_int (spelled _ (List.mem_singleton_self _))]
    exact (List.flatMap_singleton ..).symm
  | float column text => exact diagnostics_float (spelled _ (List.mem_singleton_self _))
  | string column text =>
    rw [diagnostics_string (spelled _ (List.mem_singleton_self _))]
    exact (List.flatMap_singleton ..).symm
  | bool | null | name => rfl
  | list _ items | sequence _ items =>
    have inside := (List.forall_mem_append.mp spelled).1
    rw [validate, Validated.diagnostics_map, diagnostics_validateAll items inside, seen,
      flatMap_offences_concat]
    exact (List.append_nil _).symm
  | unary _ _ operand =>
    have inside := (List.forall_mem_append.mp spelled).1
    rw [validate, Validated.diagnostics_map, diagnostics_validate operand inside, seen,
      flatMap_offences_concat]
    exact (List.append_nil _).symm
  | binary _ _ left right =>
    obtain ⟨first, second⟩ := List.forall_mem_append.mp (List.forall_mem_append.mp spelled).1
    rw [validate, Validated.diagnostics_both, diagnostics_validate left first,
      diagnostics_validate right second, seen, flatMap_offences_concat, List.flatMap_append]
    exact (List.append_nil _).symm
  | assign _ target value =>
    have inside := (List.forall_mem_append.mp spelled).1
    rw [validate, Validated.diagnostics_both, diagnostics_validate value inside,
      diagnostics_nameOf, seen, flatMap_offences_concat, offences]
  | call _ callee arguments =>
    have inside := (List.forall_mem_append.mp spelled).1
    rw [validate, Validated.diagnostics_both, diagnostics_validateAll arguments inside,
      diagnostics_nameOf, seen, flatMap_offences_concat, offences]

theorem diagnostics_validateAll (items : List Tree)
    (spelled : ∀ part ∈ seenOfAll items, part.IsSpelled) :
    (validateAll items).diagnostics = (seenOfAll items).flatMap offences := by
  cases items with
  | nil => rfl
  | cons item rest =>
    obtain ⟨first, others⟩ := List.forall_mem_append.mp spelled
    rw [validateAll, Validated.diagnostics_both, diagnostics_validate item first,
      diagnostics_validateAll rest others, seenOfAll, List.flatMap_append]

end

end Tree

theorem Draft.validate_of_root? {draft : Draft} {root : Tree} (read : draft.root? = some root) :
    draft.validate = root.validate := by
  unfold root? at read
  unfold validate
  split at read
  · rename_i found
    rw [found, read]
  · cases read

/-- A text that was read as a tree is reported the offences of the parts that are seen. -/
theorem diagnostics_of_root? {source : String} {root : Tree}
    (read : (Draft.read source).root? = some root) :
    (Draft.read source).validate.diagnostics = root.seen.flatMap Tree.offences := by
  rw [Draft.validate_of_root? read]
  exact root.diagnostics_validate fun part member =>
    isSpelled_of_mem_parts read part (Tree.mem_parts_iff.mpr (.inl member))

/-! ### All offences -/

namespace Tree

/-- The offences that are seen are all offences, each as often as it occurs, exactly if nothing that
is hidden offends. -/
theorem seen_offences_perm_iff (tree : Tree) :
    (tree.seen.flatMap offences).Perm (tree.parts.flatMap offences) ↔
      ∀ part ∈ tree.hidden, part.offences = [] := by
  have all : (tree.parts.flatMap offences).Perm
      (tree.seen.flatMap offences ++ tree.hidden.flatMap offences) := by
    rw [← List.flatMap_append]
    exact tree.parts_perm.flatMap_right offences
  rw [← List.flatMap_eq_nil_iff]
  constructor
  · intro same
    have lengths := (same.trans all).length_eq
    rw [List.length_append] at lengths
    exact List.eq_nil_of_length_eq_zero (by omega)
  · intro none
    rw [none, List.append_nil] at all
    exact all.symm

/-- The offences that are seen are all offences, apart from how often they occur, exactly if those
that are hidden are also seen elsewhere. -/
theorem seen_offences_iff (tree : Tree) :
    (∀ diagnostic, diagnostic ∈ tree.seen.flatMap offences ↔
        ∃ part ∈ tree.parts, diagnostic ∈ part.offences) ↔
      ∀ part ∈ tree.hidden, ∀ diagnostic ∈ part.offences,
        ∃ other ∈ tree.seen, diagnostic ∈ other.offences := by
  simp only [List.mem_flatMap]
  constructor
  · intro all part isHidden diagnostic offends
    exact (all diagnostic).mpr ⟨part, mem_parts_iff.mpr (.inr isHidden), offends⟩
  · intro elsewhere diagnostic
    constructor
    · rintro ⟨part, isSeen, offends⟩
      exact ⟨part, mem_parts_iff.mpr (.inl isSeen), offends⟩
    · rintro ⟨part, isPart, offends⟩
      rcases mem_parts_iff.mp isPart with isSeen | isHidden
      · exact ⟨part, isSeen, offends⟩
      · exact elsewhere part isHidden diagnostic offends

end Tree

/-- What is reported of a text that can be read. Blank text is reported as such; a tree, by the
offences of its parts that are seen, in order. All offences of the tree are reported exactly if those
that are hidden in targets and callees are also seen elsewhere, and all of them as often as they
occur exactly if nothing that is hidden offends. -/
theorem reports_of_no_issue {source : String} (noIssue : (Draft.read source).issues = []) :
    ((Draft.read source).root? = none →
      (Draft.read source).validate = .error [⟨0, .emptyExpression⟩]) ∧
    ∀ root, (Draft.read source).root? = some root →
      (Draft.read source).validate.diagnostics = root.seen.flatMap Tree.offences ∧
      root.parts.Perm (root.seen ++ root.hidden) ∧
      ((∀ diagnostic, diagnostic ∈ (Draft.read source).validate.diagnostics ↔
          ∃ part ∈ root.parts, diagnostic ∈ part.offences) ↔
        ∀ part ∈ root.hidden, ∀ diagnostic ∈ part.offences,
          ∃ other ∈ root.seen, diagnostic ∈ other.offences) ∧
      ((Draft.read source).validate.diagnostics.Perm (root.parts.flatMap Tree.offences) ↔
        ∀ part ∈ root.hidden, part.offences = []) := by
  refine ⟨fun blank => ?_, fun root read => ?_⟩
  · unfold Draft.issues at noIssue
    unfold Draft.root? at blank
    unfold Draft.validate
    split at noIssue
    · rename_i root found
      rw [found] at blank ⊢
      cases blank
      rfl
    · cases noIssue
  · rw [diagnostics_of_root? read]
    exact ⟨rfl, root.parts_perm, root.seen_offences_iff, root.seen_offences_perm_iff⟩

set_option maxRecDepth 10000 in
/-- A bad escape and a number that is too large, both in sight. -/
theorem reports_of_no_issue_in_sight : ∃ root,
    (Draft.read "['\\q', 9223372036854775808]").issues = [] ∧
      (Draft.read "['\\q', 9223372036854775808]").root? = some root ∧
      (Draft.read "['\\q', 9223372036854775808]").validate.diagnostics =
        root.seen.flatMap Tree.offences ∧
      root.seen.flatMap Tree.offences =
        [⟨2, .escape (.unknown 'q')⟩, ⟨8, .intOutOfRange "9223372036854775808"⟩] := by
  have read : (Draft.read "['\\q', 9223372036854775808]").root? =
      some (.list 1 [.string 2 "\\q", .int 8 "9223372036854775808"]) := by
    with_unfolding_all rfl
  have noIssue : (Draft.read "['\\q', 9223372036854775808]").issues = [] := by
    with_unfolding_all rfl
  exact ⟨_, noIssue, read, ((reports_of_no_issue noIssue).2 _ read).1, by decide +kernel⟩

set_option maxRecDepth 10000 in
/-- Not all offences of all texts are reported: a bad escape in an argument of a callee that is
itself a call is not. -/
theorem not_reports_all : ¬ ∀ source root, (Draft.read source).root? = some root →
    ∀ part ∈ root.parts, ∀ diagnostic ∈ part.offences,
      diagnostic ∈ (Draft.read source).validate.diagnostics := by
  intro all
  have read : (Draft.read "x('\\q')()").root? =
      some (.call 1 (.call 1 (.name 1 "x") [.string 3 "\\q"]) []) := by
    with_unfolding_all rfl
  have validated : (Draft.read "x('\\q')()").validate.diagnostics = [⟨1, .callee⟩] := by
    rw [Draft.validate_of_root? read]
    rfl
  have reported := all _ _ read (.string 3 "\\q") (by simp [Tree.parts, Tree.partsOfAll])
    ⟨3, .escape (.unknown 'q')⟩ (by decide +kernel)
  rw [validated] at reported
  exact absurd reported (by decide)

end Playscript
