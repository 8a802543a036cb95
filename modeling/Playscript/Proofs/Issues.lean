/-
This file says where an expression that cannot be read has its issue: at one of the lexemes of its
text. What is found instead of what the grammar asks for is such a lexeme, an open string is one of
the open strings among them, and each issue has the column of its lexeme.

Every reader takes a phrase off the front of its lexemes. The end of a text is part of no phrase, so
what is left ends in it again, and there is always a lexeme that stands next.
-/

import Playscript.Proofs.Parsing

namespace Playscript

/-- An issue stands at one of some lexemes, and if it is about a lexeme, it is about this one. -/
inductive Issue.IsAt (lexemes : List Lexeme) : Issue → Prop
  | unexpected {found : Lexeme} (among : found ∈ lexemes) (expectation : Expectation) :
      IsAt lexemes ⟨found.column, .unexpected expectation found⟩
  | openString {found : Lexeme} (among : found ∈ lexemes) (isOpen : found.kind = .openString) :
      IsAt lexemes ⟨found.column, .openString⟩
  | tooDeep {found : Lexeme} (among : found ∈ lexemes) : IsAt lexemes ⟨found.column, .tooDeep⟩

namespace Issue

variable {lexemes : List Lexeme} {issue : Issue}

theorem IsAt.mono {others : List Lexeme} (isAt : issue.IsAt lexemes) (among : lexemes ⊆ others) :
    issue.IsAt others := by
  cases isAt with
  | unexpected member expectation => exact .unexpected (among member) expectation
  | openString member isOpen => exact .openString (among member) isOpen
  | tooDeep member => exact .tooDeep (among member)

theorem IsAt.exists_column_eq (isAt : issue.IsAt lexemes) :
    ∃ lexeme ∈ lexemes, issue.column = lexeme.column := by
  cases isAt with
  | unexpected member | openString member _ | tooDeep member => exact ⟨_, member, rfl⟩

end Issue

namespace Grammar

/-! ### The end of a text -/

/-- The last lexeme is the end of a text. -/
def Terminated (lexemes : List Lexeme) : Prop :=
  ∃ last, lexemes.getLast? = some last ∧ last.kind = .finish

section Terminated

variable {front lexemes : List Lexeme} {mark : Lexeme}

theorem not_terminated_nil : ¬ Terminated [] := by
  rintro ⟨_, same, _⟩
  cases same

theorem Terminated.of_append (terminated : Terminated (front ++ lexemes))
    (noFinish : ∀ lexeme ∈ front, lexeme.kind ≠ .finish) : Terminated lexemes := by
  obtain ⟨last, same, isFinish⟩ := terminated
  rcases lexemes with _ | ⟨first, others⟩
  · rw [List.append_nil] at same
    exact absurd isFinish (noFinish last (List.mem_of_getLast? same))
  · rw [List.getLast?_append_of_ne_nil _ (List.cons_ne_nil _ _)] at same
    exact ⟨last, same, isFinish⟩

theorem Terminated.of_cons (terminated : Terminated (mark :: lexemes))
    (notFinish : mark.kind ≠ .finish) : Terminated lexemes := by
  have whole : Terminated ([mark] ++ lexemes) := terminated
  exact whole.of_append (List.forall_mem_singleton.mpr notFinish)

theorem Terminated.next_mem (terminated : Terminated lexemes) : next lexemes ∈ lexemes := by
  cases lexemes with
  | nil => exact absurd terminated not_terminated_nil
  | cons first others => exact List.mem_cons_self

theorem Terminated.of_phrase {levels : Nat} {category : Category} {tree : Tree}
    (phrase : Phrase levels category front tree) (terminated : Terminated (front ++ lexemes)) :
    Terminated lexemes :=
  terminated.of_append phrase.ne_finish_of_mem

theorem terminated_scan (source : String) : Terminated (Lexeme.scan source) := by
  obtain ⟨body, last, same, _⟩ := Lexeme.exists_scanFrom_eq 1 source.toList
  have scan_eq : Lexeme.scan source = body ++ [⟨.finish, "", last⟩] := same
  exact ⟨_, by rw [scan_eq, List.getLast?_concat], rfl⟩

end Terminated

/-! ### Readers -/

/-- What keeps something from being read stands at one of some lexemes. -/
def FailsAt {Result : Type} (lexemes : List Lexeme) (outcome : Except Issue Result) : Prop :=
  ∀ issue, outcome = .error issue → issue.IsAt lexemes

section FailsAt

variable {Result : Type} {lexemes rest : List Lexeme}

theorem failsAt_ok (result : Result) : FailsAt lexemes (.ok result) := nofun

theorem failsAt_error {issue : Issue} (isAt : issue.IsAt lexemes) :
    FailsAt lexemes (.error issue : Except Issue Result) := by
  rintro _ ⟨⟩
  exact isAt

theorem failsAt_unexpected (terminated : Terminated rest) (among : rest ⊆ lexemes)
    (expectation : Expectation) :
    FailsAt lexemes (.error (unexpected expectation rest) : Except Issue Result) :=
  failsAt_error (.unexpected (among terminated.next_mem) expectation)

end FailsAt

/-- One level deeper, issues stand at lexemes as well. -/
structure Inner.FailsAt (inner : Inner) : Prop where
  expression {minimum : Nat} {lexemes : List Lexeme} (terminated : Terminated lexemes) :
    Grammar.FailsAt lexemes (inner.expression minimum lexemes)
  operand {lexemes : List Lexeme} (terminated : Terminated lexemes) :
    Grammar.FailsAt lexemes (inner.operand lexemes)

section Readers

variable {inner : Inner} {count : Nat} (sound : inner.Sound count) (failsAt : inner.FailsAt)

include sound failsAt

omit failsAt in
/-- What follows an expression ends where the text does. -/
theorem Terminated.of_reads_expression {lexemes rest : List Lexeme} {tree : Tree}
    (terminated : Terminated lexemes) (reads : Reads (inner.expression 0 lexemes) tree rest) :
    Terminated rest ∧ rest ⊆ lexemes := by
  obtain ⟨phrase, rfl, _, derived⟩ := sound.whole reads
  exact ⟨terminated.of_phrase derived, List.subset_append_right _ _⟩

omit failsAt in
theorem Terminated.of_reads_items {closing : LexemeKind} {expectation : Expectation}
    {lexemes rest : List Lexeme} {trees : List Tree} (terminated : Terminated lexemes)
    (reads : Reads (items inner closing expectation lexemes) trees rest)
    (closes : closing ≠ .finish) : Terminated rest ∧ rest ⊆ lexemes := by
  obtain ⟨parts, phrase, mark, rfl, isClosing, _, each, separated⟩ := items_sound sound reads
  have noFinish : ∀ lexeme ∈ phrase, lexeme.kind ≠ .finish :=
    separated.forall_mem (fun mark isComma => isComma ▸ nofun)
      (List.forall_mem_map.mpr fun part member => (each part member).ne_finish_of_mem)
  exact ⟨(terminated.of_append noFinish).of_cons (isClosing ▸ closes),
    fun lexeme member => List.mem_append_right _ (List.mem_cons_of_mem _ member)⟩

theorem failsAt_items {closing : LexemeKind} {expectation : Expectation} {lexemes : List Lexeme}
    (terminated : Terminated lexemes) :
    FailsAt lexemes (items inner closing expectation lexemes) := by
  rw [items]
  split
  · exact failsAt_ok _
  · rcases first : inner.expression 0 lexemes with issue | ⟨item, after, fewer⟩
    · exact failsAt_error (failsAt.expression terminated issue first)
    · obtain ⟨ends, among⟩ := terminated.of_reads_expression sound ⟨fewer, first⟩
      rcases after with _ | ⟨mark, after⟩
      · exact absurd ends not_terminated_nil
      · dsimp only
        split
        · rename_i isComma
          rcases later : items inner closing expectation after with issue | taken
          · have isAt := failsAt_items (ends.of_cons (by rw [isComma]; decide)) issue later
            exact failsAt_error (isAt.mono (List.subset_of_cons_subset among))
          · exact failsAt_ok _
        · split
          · exact failsAt_ok _
          · exact failsAt_unexpected ends among _
termination_by lexemes.length
decreasing_by simp only [List.length_cons] at fewer; omega

theorem failsAt_primary {lexemes : List Lexeme} (terminated : Terminated lexemes) :
    FailsAt lexemes (primary inner lexemes) := by
  rcases lexemes with _ | ⟨mark, after⟩
  · exact absurd terminated not_terminated_nil
  · unfold primary
    dsimp only
    split
    all_goals try exact failsAt_ok _
    · rename_i opens
      rcases inside : items inner .rightBracket .commaOrClosingBracket after with issue | taken
      · have afterTerminated := terminated.of_cons (by rw [opens]; decide)
        have isAt := failsAt_items sound failsAt afterTerminated issue inside
        exact failsAt_error (isAt.mono (List.subset_cons_self _ _))
      · exact failsAt_ok _
    · rename_i opens
      have afterTerminated := terminated.of_cons (by rw [opens]; decide)
      rcases inside : inner.expression 0 after with issue | ⟨tree, left, fewer⟩
      · have isAt := failsAt.expression afterTerminated issue inside
        exact failsAt_error (isAt.mono (List.subset_cons_self _ _))
      · obtain ⟨ends, among⟩ := afterTerminated.of_reads_expression sound ⟨fewer, inside⟩
        rcases left with _ | ⟨last, left⟩
        · exact absurd ends not_terminated_nil
        · dsimp only
          split
          · exact failsAt_ok _
          · exact failsAt_unexpected ends (List.subset_cons_of_subset _ among) _
    · exact failsAt_error (.openString List.mem_cons_self ‹_›)
    · exact failsAt_unexpected terminated (List.Subset.refl _) _

theorem failsAt_calls {callee : Tree} {lexemes : List Lexeme} (terminated : Terminated lexemes) :
    FailsAt lexemes (calls inner callee lexemes) := by
  rcases shape : lexemes with _ | ⟨mark, after⟩
  · rw [calls]
    exact failsAt_ok _
  · rw [calls]
    split
    · rename_i opens
      have afterTerminated : Terminated after :=
        (shape ▸ terminated).of_cons (by rw [opens]; decide)
      rcases inside : items inner .rightParen .commaOrClosingParen after with
        issue | ⟨arguments, left, fewer⟩
      · have isAt := failsAt_items sound failsAt afterTerminated issue inside
        exact failsAt_error (isAt.mono (List.subset_cons_self _ _))
      · have shorter : left.length < lexemes.length := shape ▸ Nat.lt_succ_of_lt fewer
        obtain ⟨ends, among⟩ := afterTerminated.of_reads_items sound ⟨fewer, inside⟩ (by decide)
        dsimp only
        rcases later : calls inner (.call callee.column callee arguments) left with issue | taken
        · have isAt := failsAt_calls ends issue later
          exact failsAt_error (isAt.mono (List.subset_cons_of_subset _ among))
        · exact failsAt_ok _
    · exact failsAt_ok _
termination_by lexemes.length

theorem failsAt_postfixed {lexemes : List Lexeme} (terminated : Terminated lexemes) :
    FailsAt lexemes (postfixed inner lexemes) := by
  unfold postfixed
  rcases first : primary inner lexemes with issue | ⟨callee, after, fewer⟩
  · exact failsAt_error (failsAt_primary sound failsAt terminated issue first)
  · obtain ⟨phrase, rfl, derived⟩ := primary_sound sound ⟨fewer, first⟩
    dsimp only
    rcases later : calls inner callee after with issue | taken
    · have isAt := failsAt_calls sound failsAt (terminated.of_phrase derived) issue later
      exact failsAt_error (isAt.mono (List.subset_append_right _ _))
    · exact failsAt_ok _

theorem failsAt_unary {lexemes : List Lexeme} (terminated : Terminated lexemes) :
    FailsAt lexemes (unary inner lexemes) := by
  unfold unary
  rcases lexemes with _ | ⟨mark, after⟩
  · exact failsAt_postfixed sound failsAt terminated
  · dsimp only
    split
    · exact failsAt_postfixed sound failsAt terminated
    · rename_i written
      have notFinish : mark.kind ≠ .finish := by
        intro isFinish
        rw [isFinish] at written
        cases written
      rcases inside : inner.operand after with issue | taken
      · have isAt := failsAt.operand (terminated.of_cons notFinish) issue inside
        exact failsAt_error (isAt.mono (List.subset_cons_self _ _))
      · exact failsAt_ok _

theorem failsAt_operations {minimum : Nat} {tree : Tree} {lexemes : List Lexeme}
    (terminated : Terminated lexemes) : FailsAt lexemes (operations inner minimum tree lexemes) := by
  rcases shape : lexemes with _ | ⟨mark, after⟩
  · rw [operations]
    exact failsAt_ok _
  · rw [operations]
    split
    · exact failsAt_ok _
    · rename_i tight
      have notFinish : mark.kind ≠ .finish := by
        intro isFinish
        rw [isFinish] at tight
        exact tight (Nat.zero_le _)
      have afterTerminated : Terminated after := (shape ▸ terminated).of_cons notFinish
      rcases inside : inner.expression mark.kind.rightPrecedence after with
        issue | ⟨right, left, fewer⟩
      · have isAt := failsAt.expression afterTerminated issue inside
        exact failsAt_error (isAt.mono (List.subset_cons_self _ _))
      · have shorter : left.length < lexemes.length := shape ▸ Nat.lt_succ_of_lt fewer
        obtain ⟨_, phrase, same, _, _, derived⟩ :=
          sound.expression mark.kind.rightPrecedence_le ⟨fewer, inside⟩
        have ends : Terminated left := Terminated.of_phrase derived (same ▸ afterTerminated)
        have among : left ⊆ after := same ▸ List.subset_append_right _ _
        dsimp only
        rcases later : operations inner minimum (.join mark.kind tree right) left with issue | taken
        · have isAt := failsAt_operations ends issue later
          exact failsAt_error (isAt.mono (List.subset_cons_of_subset _ among))
        · exact failsAt_ok _
termination_by lexemes.length

theorem failsAt_binary {minimum : Nat} {lexemes : List Lexeme} (terminated : Terminated lexemes) :
    FailsAt lexemes (binary inner minimum lexemes) := by
  unfold binary
  rcases first : unary inner lexemes with issue | ⟨tree, after, fewer⟩
  · exact failsAt_error (failsAt_unary sound failsAt terminated issue first)
  · obtain ⟨phrase, rfl, derived⟩ := unary_sound sound ⟨fewer, first⟩
    dsimp only
    rcases later : operations inner minimum tree after with issue | taken
    · have isAt := failsAt_operations sound failsAt (terminated.of_phrase derived) issue later
      exact failsAt_error (isAt.mono (List.subset_append_right _ _))
    · exact failsAt_ok _

end Readers

/-! ### Whole expressions -/

theorem failsAt_levels (count : Nat) : (levels count).FailsAt := by
  induction count with
  | zero =>
    exact ⟨fun terminated => failsAt_error (.tooDeep terminated.next_mem),
      fun terminated => failsAt_error (.tooDeep terminated.next_mem)⟩
  | succ count inductionHypothesis =>
    exact ⟨fun terminated => failsAt_binary (sound_levels count) inductionHypothesis terminated,
      fun terminated => failsAt_unary (sound_levels count) inductionHypothesis terminated⟩

theorem failsAt_statements {lexemes : List Lexeme} (terminated : Terminated lexemes) :
    FailsAt lexemes (statements lexemes) := by
  rw [statements]
  rcases first : expression lexemes with issue | ⟨tree, rest, fewer⟩
  · exact failsAt_error ((failsAt_levels nestingLimit).expression terminated issue first)
  · obtain ⟨ends, among⟩ :=
      terminated.of_reads_expression (sound_levels nestingLimit) ⟨fewer, first⟩
    rcases rest with _ | ⟨mark, after⟩
    · exact absurd ends not_terminated_nil
    · dsimp only
      split
      · exact failsAt_ok _
      · rename_i notFinish
        split
        · split
          · exact failsAt_ok _
          · rcases later : statements after with issue | trees
            · have isAt := failsAt_statements (ends.of_cons notFinish) issue later
              rw [List.tail_cons, later]
              exact failsAt_error (isAt.mono (List.subset_of_cons_subset among))
            · rw [List.tail_cons, later]
              exact failsAt_ok _
        · exact failsAt_unexpected ends among _
termination_by lexemes.length
decreasing_by simp only [List.length_cons] at fewer; omega

theorem failsAt_program {lexemes : List Lexeme} (terminated : Terminated lexemes) :
    FailsAt lexemes (program lexemes) := by
  unfold program
  split
  · exact failsAt_ok _
  · rcases read : statements lexemes with issue | trees
    · exact failsAt_error (failsAt_statements terminated issue read)
    · exact failsAt_ok _

end Grammar

/-- The issue of an expression that cannot be read stands at one of its lexemes. -/
theorem isAt_of_reading_eq_error {source : String} {issue : Issue}
    (unread : (Draft.read source).reading = .error issue) : issue.IsAt (Lexeme.scan source) :=
  Grammar.failsAt_program (Grammar.terminated_scan source) issue unread

theorem isAt_of_mem_issues {source : String} {issue : Issue}
    (member : issue ∈ (Draft.read source).issues) : issue.IsAt (Lexeme.scan source) := by
  unfold Draft.issues at member
  split at member
  · cases member
  · rw [List.mem_singleton.mp member]
    exact isAt_of_reading_eq_error ‹_›

end Playscript
