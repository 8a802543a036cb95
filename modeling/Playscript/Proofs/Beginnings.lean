/-
This file says where the parts of an expression begin. Every part begins at a lexeme, and so does
what keeps a text from being an expression. A part that has another one at its front begins where
that one does, and no part begins after what lies below it, though parentheses, which leave no trace
in the tree, may stand before a part that lies below.

The lexemes of a text cover it and begin one after the other, so what stands further behind begins
at a greater column.
-/

import Playscript.Proofs.Covering
import Playscript.Proofs.Spelling

namespace Playscript

namespace Tree

theorem mem_parts_self (tree : Tree) : tree ∈ tree.parts := by
  cases tree <;> simp [parts]

/-- A part that has another one at its front begins where that one does. -/
def BeginsWithFirst : Tree → Prop
  | binary column _ left _ => column = left.column
  | assign column target _ => column = target.column
  | call column callee _ => column = callee.column
  | _ => True

/-- A tree begins at one of some lexemes, and not after any of its parts. -/
structure IsPlaced (lexemes : List Lexeme) (tree : Tree) : Prop where
  among : ∃ lexeme ∈ lexemes, tree.column = lexeme.column
  first : tree.BeginsWithFirst
  least : ∀ part ∈ tree.parts, tree.column ≤ part.column

namespace IsPlaced

variable {lexemes : List Lexeme} {tree : Tree} {inside : List Tree}

theorem mono {others : List Lexeme} (placed : tree.IsPlaced lexemes) (among : lexemes ⊆ others) :
    tree.IsPlaced others := by
  obtain ⟨lexeme, member, same⟩ := placed.among
  exact ⟨⟨lexeme, among member, same⟩, placed.first, placed.least⟩

theorem of_leaf? {lexeme : Lexeme} (stands : lexeme.leaf? = some tree) :
    ∀ part ∈ tree.parts, part.IsPlaced [lexeme] := by
  unfold Lexeme.leaf? at stands
  split at stands <;> cases stands
  all_goals
    exact List.forall_mem_singleton.mpr
      ⟨⟨lexeme, List.mem_singleton_self _, rfl⟩, trivial,
        List.forall_mem_singleton.mpr (Nat.le_refl _)⟩

/-- A part that begins at the first one of its lexemes is placed if the parts below it are. -/
theorem of_first {first : Lexeme} (parts_eq : tree.parts = inside ++ [tree])
    (column : tree.column = first.column) (begins : tree.BeginsWithFirst)
    (ascending : Lexeme.Ascending (first :: lexemes))
    (placed : ∀ part ∈ inside, part.IsPlaced (first :: lexemes)) :
    ∀ part ∈ tree.parts, part.IsPlaced (first :: lexemes) := by
  have later := (List.pairwise_cons.mp ascending).1
  rw [parts_eq]
  refine List.forall_mem_append.mpr ⟨placed, List.forall_mem_singleton.mpr
    ⟨⟨first, List.mem_cons_self, column⟩, begins, ?_⟩⟩
  rw [parts_eq]
  refine List.forall_mem_append.mpr ⟨fun part member => ?_,
    List.forall_mem_singleton.mpr (Nat.le_refl _)⟩
  obtain ⟨lexeme, among, same⟩ := (placed part member).among
  rw [column, same]
  rcases List.mem_cons.mp among with rfl | behind
  · exact Nat.le_refl _
  · exact Nat.le_of_lt (later lexeme behind)

/-- A part that begins with another one is placed if this one and the others behind it are. -/
theorem of_leader {leader : Tree} {front back : List Lexeme}
    (parts_eq : tree.parts = leader.parts ++ inside ++ [tree])
    (column : tree.column = leader.column) (begins : tree.BeginsWithFirst)
    (ascending : Lexeme.Ascending (front ++ back))
    (leads : ∀ part ∈ leader.parts, part.IsPlaced front)
    (placed : ∀ part ∈ inside, part.IsPlaced back) :
    ∀ part ∈ tree.parts, part.IsPlaced (front ++ back) := by
  have before := (List.pairwise_append.mp ascending).2.2
  obtain ⟨⟨first, among, same⟩, -, least⟩ := leads leader leader.mem_parts_self
  rw [parts_eq]
  refine List.forall_mem_append.mpr ⟨List.forall_mem_append.mpr
    ⟨fun part member => (leads part member).mono (List.subset_append_left _ _),
      fun part member => (placed part member).mono (List.subset_append_right _ _)⟩,
    List.forall_mem_singleton.mpr
      ⟨⟨first, List.mem_append_left _ among, column.trans same⟩, begins, ?_⟩⟩
  rw [parts_eq]
  refine List.forall_mem_append.mpr ⟨List.forall_mem_append.mpr ⟨fun part member => ?_,
    fun part member => ?_⟩, List.forall_mem_singleton.mpr (Nat.le_refl _)⟩
  · rw [column]
    exact least part member
  · obtain ⟨lexeme, behind, partSame⟩ := (placed part member).among
    rw [column, same, partSame]
    exact Nat.le_of_lt (before first among lexeme behind)

/-- Items with separators between them are placed if each of them is. -/
theorem of_separated {separator : LexemeKind} {items : List (List Lexeme × Tree)}
    (separated : Separated separator (items.map Prod.fst) lexemes)
    (ascending : Lexeme.Ascending lexemes)
    (each : ∀ item ∈ items, Lexeme.Ascending item.1 →
      ∀ part ∈ item.2.parts, part.IsPlaced item.1) :
    ∀ part ∈ partsOfAll (items.map Prod.snd), part.IsPlaced lexemes := by
  refine forall_mem_partsOfAll fun item itemMember part partMember => ?_
  have sublist := separated.sublist_of_mem item.1 (List.mem_map_of_mem itemMember)
  exact (each item itemMember (ascending.sublist sublist) part partMember).mono sublist.subset

end IsPlaced

end Tree

/-- The parts of a phrase begin at its lexemes, and not after what lies below them. -/
theorem Phrase.isPlaced {levels : Nat} {category : Category} {lexemes : List Lexeme} {tree : Tree}
    (phrase : Phrase levels category lexemes tree)
    (ascending : Lexeme.Ascending lexemes) :
    ∀ part ∈ tree.parts, part.IsPlaced lexemes := by
  induction phrase with
  | wider _ inductionHypothesis => exact inductionHypothesis ascending
  | assignment _ _ _ target value | operation _ _ _ target value =>
    obtain ⟨first, second, -⟩ := List.pairwise_append.mp ascending
    have others := value (List.pairwise_cons.mp second).2
    exact .of_leader rfl rfl rfl ascending (target first)
      fun part member => (others part member).mono (List.subset_cons_self _ _)
  | prefixed _ _ operand =>
    have others := operand (List.pairwise_cons.mp ascending).2
    exact .of_first rfl rfl trivial ascending
      fun part member => (others part member).mono (List.subset_cons_self _ _)
  | call _ _ _ separated _ callee arguments =>
    obtain ⟨first, second, -⟩ := List.pairwise_append.mp ascending
    have inside := (List.pairwise_append.mp (List.pairwise_cons.mp second).2).1
    have others := Tree.IsPlaced.of_separated separated inside arguments
    exact .of_leader rfl rfl rfl ascending (callee first) fun part member =>
      (others part member).mono
        (List.subset_cons_of_subset _ (List.subset_append_left _ _))
  | leaf stands => exact .of_leaf? stands
  | list _ _ separated _ elements =>
    have inside := (List.pairwise_append.mp (List.pairwise_cons.mp ascending).2).1
    have others := Tree.IsPlaced.of_separated separated inside elements
    exact .of_first rfl rfl trivial ascending fun part member =>
      (others part member).mono
        (List.subset_cons_of_subset _ (List.subset_append_left _ _))
  | parenthesized _ _ _ inductionHypothesis =>
    have inside := (List.pairwise_append.mp (List.pairwise_cons.mp ascending).2).1
    exact fun part member => (inductionHypothesis inside part member).mono
      (List.subset_cons_of_subset _ (List.subset_append_left _ _))

theorem Statements.isPlaced {lexemes : List Lexeme} {tree : Tree}
    (statements : Statements lexemes tree)
    (ascending : Lexeme.Ascending lexemes) :
    ∀ part ∈ tree.parts, part.IsPlaced lexemes := by
  cases statements with
  | one phrase separated =>
    have sublist := separated.sublist_of_mem _ (List.mem_singleton_self _)
    exact fun part member =>
      (phrase.isPlaced (ascending.sublist sublist) part member).mono sublist.subset
  | several each _ separated =>
    exact .of_first rfl rfl trivial ascending
      (.of_separated separated ascending fun item member => (each item member).isPlaced)

/-- The lexemes of a text cover it, and its expression begins where they do. The end of the text
comes last, and only there; an open string comes right before it. Each lexeme takes up its piece,
at the column after the characters before it, and there is only white space between the pieces. Every
part of the expression, and what keeps the text from being one, begins at a lexeme: operations,
assignments and calls where their first part does, and no part after what lies below it. -/
theorem lexemes_cover (source : String) :
    Covers [] source.toList (Lexeme.scan source) ∧
    (∃ body, Lexeme.scan source = body ++ [⟨.finish, "", source.length + 1⟩] ∧
      ∀ lexeme ∈ body, lexeme.kind ≠ .finish) ∧
    (∀ front lexeme back, Lexeme.scan source = front ++ lexeme :: back →
      lexeme.kind = .openString → back = [⟨.finish, "", source.length + 1⟩]) ∧
    (∀ issue ∈ (Draft.read source).issues,
      ∃ lexeme ∈ Lexeme.scan source, issue.column = lexeme.column) ∧
    ∀ root, (Draft.read source).root? = some root → ∀ part ∈ root.parts,
      (∃ lexeme ∈ Lexeme.scan source, part.column = lexeme.column) ∧ part.BeginsWithFirst ∧
        ∀ below ∈ part.parts, part.column ≤ below.column := by
  have covers := covers_scan source
  refine ⟨covers, covers.exists_eq_concat, fun _ _ _ => covers.eq_finish_of_openString,
    fun issue member => ?_, fun root read part member => ?_⟩
  · exact (isAt_of_mem_issues member).exists_column_eq
  · have ascending := covers.ascending.sublist (List.dropLast_sublist _)
    have placed := (Draft.root?_read_eq_iff.mp read).isPlaced ascending part member
    have whole := placed.mono (List.dropLast_subset _)
    exact ⟨whole.among, whole.first, whole.least⟩

set_option maxRecDepth 10000 in
/-- A sum whose first operand stands in parentheses begins behind the parenthesis, and an open
string after a name is where the expression ends. -/
theorem lexemes_cover_behind_parenthesis :
    (∃ root, (Draft.read "( x) + 1.5").root? = some root ∧ root.column = 3 ∧
      (∃ lexeme ∈ Lexeme.scan "( x) + 1.5", root.column = lexeme.column) ∧ root.BeginsWithFirst ∧
        Tree.float 8 "1.5" ∈ root.parts ∧ root.column ≤ (Tree.float 8 "1.5").column) ∧
    Lexeme.scan "x 'y" = [⟨.name, "x", 1⟩] ++ ⟨.openString, "y", 3⟩ :: [⟨.finish, "", 5⟩] ∧
    [⟨.finish, "", 5⟩] = [(⟨.finish, "", "x 'y".length + 1⟩ : Lexeme)] ∧
    ∃ issue ∈ (Draft.read "x 'y").issues,
      ∃ lexeme ∈ Lexeme.scan "x 'y", issue.column = lexeme.column := by
  have read : (Draft.read "( x) + 1.5").root? =
      some (.binary 3 .add (.name 3 "x") (.float 8 "1.5")) := by
    with_unfolding_all rfl
  have scanned : Lexeme.scan "x 'y" =
      [⟨.name, "x", 1⟩] ++ ⟨.openString, "y", 3⟩ :: [⟨.finish, "", 5⟩] := by
    with_unfolding_all rfl
  have unread : (Draft.read "x 'y").issues =
      [⟨3, .unexpected .semicolonOrEnd ⟨.openString, "y", 3⟩⟩] := by
    with_unfolding_all rfl
  obtain ⟨-, -, -, -, parts⟩ := lexemes_cover "( x) + 1.5"
  obtain ⟨-, -, alone, issues, -⟩ := lexemes_cover "x 'y"
  have member := unread ▸ List.mem_singleton_self _
  have below : Tree.float 8 "1.5" ∈ (Tree.binary 3 .add (.name 3 "x") (.float 8 "1.5")).parts := by
    simp [Tree.parts]
  obtain ⟨among, first, least⟩ := parts _ read _ (Tree.mem_parts_self _)
  exact ⟨⟨_, read, rfl, among, first, below, least _ below⟩, scanned, alone _ _ _ scanned rfl, _,
    member, issues _ member⟩

end Playscript
