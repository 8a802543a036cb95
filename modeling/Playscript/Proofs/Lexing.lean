/-
This file says what the lexemes of a text have to do with the quotations in it. A text has lexemes
and an end. Only a quote begins a string, and no other lexeme takes up a quote, so the strings among
the lexemes are the quotations of the text, in order, and none of them is left open unless a
quotation is.
-/

import Mathlib.Data.List.TakeWhile
import Playscript.Expr.Lexeme
import Playscript.Proofs.Quotations

namespace Playscript

/-! ### One lexeme -/

/-- Whether lexemes of a kind are neither quotations nor the end of a text. -/
def LexemeKind.isPlain : LexemeKind → Bool
  | string | openString | finish => false
  | _ => true

namespace LexemeCut

theorem isPlain_nameKind (text : List Char) : (nameKind text).isPlain = true := by
  unfold nameKind
  repeat' split
  all_goals rfl

theorem number_of_fraction (character : Char) {digit : Char} {rest after : List Char}
    (fraction : rest.dropWhile isDigitOrGap = '.' :: digit :: after)
    (isDigit : digit.isDigit = true) :
    number character rest =
      ⟨.float, character :: rest.takeWhile isDigitOrGap ++
          '.' :: digit :: after.takeWhile isDigitOrGap,
        (character :: rest.takeWhile isDigitOrGap ++
          '.' :: digit :: after.takeWhile isDigitOrGap).length,
        after.dropWhile isDigitOrGap⟩ := by
  simp only [number, fraction, isDigit, if_true]

theorem number_of_no_fraction (character : Char) {rest : List Char}
    (whole : ∀ digit after, rest.dropWhile isDigitOrGap = '.' :: digit :: after →
      ¬ digit.isDigit = true) :
    number character rest =
      ⟨.int, character :: rest.takeWhile isDigitOrGap,
        (character :: rest.takeWhile isDigitOrGap).length, rest.dropWhile isDigitOrGap⟩ := by
  unfold number
  dsimp only
  split
  · rename_i digit after fraction
    rw [if_neg (whole digit after fraction), fraction]
  · rfl

/-- What is cut off a text is no quotation, and takes up no quote. -/
structure Unquoted (text : List Char) (cut : LexemeCut) : Prop where
  isPlain : cut.kind.isPlain = true
  taken : ∃ taken, text = taken ++ cut.rest ∧ ∀ character ∈ taken, ¬ isQuote character = true

section Unquoted

variable {character : Char} (rest : List Char) (notQuote : ¬ isQuote character = true)

include notQuote

theorem unquoted_single {kind : LexemeKind} (isPlain : kind.isPlain = true) :
    Unquoted (character :: rest) (single kind character rest) :=
  ⟨isPlain, [character], rfl, List.forall_mem_singleton.mpr notQuote⟩

theorem unquoted_pair {second : Char} {double alone : LexemeKind}
    (secondNotQuote : ¬ isQuote second = true) (doublePlain : double.isPlain = true)
    (alonePlain : alone.isPlain = true) :
    Unquoted (character :: rest) (pair second double alone character rest) := by
  unfold pair
  split
  · split
    · rename_i next after same
      refine ⟨doublePlain, [character, next], rfl, ?_⟩
      exact List.forall_mem_cons.mpr
        ⟨notQuote, List.forall_mem_singleton.mpr (same ▸ secondNotQuote)⟩
    · exact unquoted_single _ notQuote alonePlain
  · exact unquoted_single _ notQuote alonePlain

/-- Characters of a kind without quotes can be taken up as far as they go. -/
theorem unquoted_takeWhile {test : Char → Bool} {kind : LexemeKind} {width : Nat} {text : List Char}
    (isPlain : kind.isPlain = true)
    (noQuote : ∀ character, test character = true → ¬ isQuote character = true) :
    Unquoted (character :: rest) ⟨kind, text, width, rest.dropWhile test⟩ := by
  refine ⟨isPlain, character :: rest.takeWhile test, ?_, ?_⟩
  · rw [List.cons_append, List.takeWhile_append_dropWhile]
  · exact List.forall_mem_cons.mpr
      ⟨notQuote, fun taken member => noQuote taken (List.mem_takeWhile_imp member)⟩

theorem unquoted_number : Unquoted (character :: rest) (number character rest) := by
  have noQuote : ∀ character, isDigitOrGap character = true → ¬ isQuote character = true := by
    intro character digit opens
    rcases isQuote_iff.mp opens with rfl | rfl <;> exact absurd digit (by decide)
  have whole (kind : LexemeKind) (text : List Char) (width : Nat) (isPlain : kind.isPlain = true) :
      Unquoted (character :: rest) ⟨kind, text, width, rest.dropWhile isDigitOrGap⟩ :=
    unquoted_takeWhile rest notQuote isPlain noQuote
  unfold number
  dsimp only
  split
  · rename_i digit after same
    rw [same] at whole
    split
    · rename_i isDigit
      obtain ⟨_, taken, textSame, takenNoQuote⟩ := whole .int [] 0 rfl
      have digitNotQuote := noQuote digit (by rw [isDigitOrGap, isDigit]; rfl)
      refine ⟨rfl, taken ++ '.' :: digit :: after.takeWhile isDigitOrGap, ?_, ?_⟩
      · rw [textSame, List.append_assoc, List.cons_append, List.cons_append,
          List.takeWhile_append_dropWhile]
      · refine List.forall_mem_append.mpr ⟨takenNoQuote, List.forall_mem_cons.mpr ⟨by decide,
          List.forall_mem_cons.mpr ⟨digitNotQuote, fun taken member => ?_⟩⟩⟩
        exact noQuote taken (List.mem_takeWhile_imp member)
    · exact whole _ _ _ rfl
  · exact whole _ _ _ rfl

theorem unquoted_name : Unquoted (character :: rest) (name character rest) := by
  have noQuote : ∀ character, continuesName character = true → ¬ isQuote character = true := by
    intro character continues opens
    rcases isQuote_iff.mp opens with rfl | rfl <;> exact absurd continues (by decide)
  exact unquoted_takeWhile rest notQuote (isPlain_nameKind _) noQuote

/-- Only a quote begins a quotation. -/
theorem unquoted_first : Unquoted (character :: rest) (first character rest) := by
  unfold first
  split
  all_goals first
    | exact unquoted_single rest notQuote rfl
    | exact unquoted_pair rest notQuote (by decide) rfl rfl
    | skip
  rw [if_neg notQuote]
  split
  · exact unquoted_number rest notQuote
  · split
    · exact unquoted_name rest notQuote
    · exact unquoted_single rest notQuote rfl

end Unquoted

theorem first_of_isQuote {character : Char} (rest : List Char) (opens : isQuote character = true) :
    first character rest = quoted character rest := by
  rcases isQuote_iff.mp opens with rfl | rfl <;> rfl

/-- A quotation is cut off up to its closing quote. -/
theorem first_of_quoted {quote : Char} {content : List Char} (opens : isQuote quote = true)
    (quoted : Quoted quote content) (rest : List Char) :
    first quote (content ++ quote :: rest) =
      ⟨.string, content, content.length + 2, rest⟩ := by
  rw [first_of_isQuote _ opens, LexemeCut.quoted, quotedSpan_of_quoted opens quoted]

theorem kind_first_ne_finish (character : Char) (rest : List Char) :
    (first character rest).kind ≠ .finish := by
  by_cases opens : isQuote character = true
  · rw [first_of_isQuote rest opens, quoted]
    split <;> exact nofun
  · have plain := (unquoted_first rest opens).isPlain
    intro finish
    rw [finish] at plain
    cases plain

end LexemeCut

/-! ### All lexemes -/

namespace Lexeme

/-- A text has lexemes and an end, in this order. -/
theorem exists_scanFrom_eq (column : Nat) (text : List Char) :
    ∃ body last, scanFrom column text = body ++ [⟨.finish, "", last⟩] ∧
      ∀ lexeme ∈ body, lexeme.kind ≠ .finish := by
  fun_induction scanFrom column text with
  | case1 column => exact ⟨[], column, rfl, List.forall_mem_nil _⟩
  | case2 column character rest blank inductionHypothesis => exact inductionHypothesis
  | case3 column character rest notBlank cut inductionHypothesis =>
    obtain ⟨body, last, same, noFinish⟩ := inductionHypothesis
    refine ⟨_ :: body, last, by rw [same]; rfl, List.forall_mem_cons.mpr ⟨?_, noFinish⟩⟩
    exact LexemeCut.kind_first_ne_finish character rest

/-- The texts of the strings among lexemes, in order. -/
def strings (lexemes : List Lexeme) : List String :=
  (lexemes.filter (·.kind = .string)).map (·.text)

theorem strings_cons_of_ne {lexeme : Lexeme} {others : List Lexeme}
    (notString : lexeme.kind ≠ .string) : strings (lexeme :: others) = strings others := by
  unfold strings
  rw [List.filter_cons_of_neg (by simpa using notString)]

/-- The strings of a text are its quotations, and none of them is left open. -/
theorem strings_scanFrom {text : List Char} {quotations : List (List Char)}
    (quotes : Quotes text quotations) (column : Nat) :
    strings (scanFrom column text) = quotations.map String.ofList ∧
      ∀ lexeme ∈ scanFrom column text, lexeme.kind ≠ .openString := by
  fun_induction scanFrom column text generalizing quotations with
  | case1 column =>
    cases quotes
    exact ⟨rfl, List.forall_mem_singleton.mpr nofun⟩
  | case2 column character rest blank inductionHypothesis =>
    exact inductionHypothesis (quotes.of_cons (not_isQuote_of_isBlank blank))
  | case3 column character rest notBlank cut =>
    rename_i inductionHypothesis
    by_cases opens : isQuote character = true
    · obtain ⟨content, after, further, rfl, rfl, quoted, others⟩ := quotes.of_quote opens
      have cut_eq : cut = ⟨.string, content, content.length + 2, after⟩ :=
        LexemeCut.first_of_quoted opens quoted after
      rw [cut_eq] at inductionHypothesis ⊢
      obtain ⟨same, closed⟩ := inductionHypothesis others
      refine ⟨?_, List.forall_mem_cons.mpr ⟨nofun, closed⟩⟩
      exact congrArg (String.ofList content :: ·) same
    · obtain ⟨plain, taken, textSame, noQuote⟩ := LexemeCut.unquoted_first rest opens
      rw [textSame] at quotes
      obtain ⟨same, closed⟩ := inductionHypothesis (quotes.of_append noQuote)
      have notString : cut.kind ≠ .string := by
        intro isString
        rw [isString] at plain
        cases plain
      have notOpen : cut.kind ≠ .openString := by
        intro isOpen
        rw [isOpen] at plain
        cases plain
      exact ⟨(strings_cons_of_ne notString).trans same, List.forall_mem_cons.mpr ⟨notOpen, closed⟩⟩

end Lexeme

end Playscript
