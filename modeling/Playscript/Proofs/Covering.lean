/-
This file says that the lexemes of a text cover it. Between white space every character belongs to
exactly one lexeme, in order, and the column of a lexeme counts the characters before it. Numbers,
names and marks go on as far as they can: nothing longer that stands at the same place is written as
any of them. A quotation goes on to its closing quote, and to the end of the text without one. A
character is stray only where nothing of all this begins.

One lexeme is cut off at a time, so it is enough to say what one cut takes up.
-/

import Playscript.Proofs.Lexing

namespace Playscript

/-! ### How lexemes are written -/

namespace LexemeKind

/-- The marks of expressions, and how they are written. -/
def marks : List (LexemeKind × List Char) :=
  [(leftParen, ['(']), (rightParen, [')']), (leftBracket, ['[']), (rightBracket, [']']),
    (comma, [',']), (semicolon, [';']), (plus, ['+']), (minus, ['-']), (star, ['*']),
    (slash, ['/']), (percent, ['%']), (bang, ['!']), (bangEqual, ['!', '=']), (equal, ['=']),
    (doubleEqual, ['=', '=']), (less, ['<']), (lessEqual, ['<', '=']), (greater, ['>']),
    (greaterEqual, ['>', '=']), (doubleAnd, ['&', '&']), (doubleBar, ['|', '|'])]

/-- The texts of numbers, names and marks. -/
inductive Writes : LexemeKind → List Char → Prop
  /-- A digit, and then digits and underscores. -/
  | int {digit : Char} {others : List Char} (isDigit : digit.isDigit = true)
      (each : ∀ character ∈ others, LexemeCut.isDigitOrGap character = true) :
      Writes int (digit :: others)
  /-- An integer, a point, a digit, and then digits and underscores. -/
  | float {digit next : Char} {whole fraction : List Char} (isDigit : digit.isDigit = true)
      (eachWhole : ∀ character ∈ whole, LexemeCut.isDigitOrGap character = true)
      (nextIsDigit : next.isDigit = true)
      (eachFraction : ∀ character ∈ fraction, LexemeCut.isDigitOrGap character = true) :
      Writes float (digit :: (whole ++ '.' :: next :: fraction))
  /-- A name, or one of the words of the language. -/
  | name {first : Char} {others : List Char} (begins : beginsName first = true)
      (each : ∀ character ∈ others, continuesName character = true) :
      Writes (LexemeCut.nameKind (first :: others)) (first :: others)
  | mark {kind : LexemeKind} {text : List Char} (isMark : (kind, text) ∈ marks) : Writes kind text

end LexemeKind

/-- A text goes on as far as it can: nothing longer that stands at the same place is a number, a
name or a mark. -/
def IsLongest (text rest : List Char) : Prop :=
  ∀ kind longer, LexemeKind.Writes kind longer → longer <+: text ++ rest →
    longer.length ≤ text.length

/-- A lexeme of a kind, with a text, takes up the piece at the front of what is left. -/
inductive LexemeKind.TakesUp : LexemeKind → (text piece rest : List Char) → Prop
  /-- A number, a name or a mark is its text, as long as it can be. -/
  | written {kind : LexemeKind} {text rest : List Char} (writes : kind.Writes text)
      (longest : IsLongest text rest) : TakesUp kind text text rest
  /-- A string has its quotes around it. -/
  | string {quote : Char} {content rest : List Char} (opens : isQuote quote = true)
      (quoted : Quoted quote content) :
      TakesUp string content (quote :: (content ++ [quote])) rest
  /-- An open string has its quote before it. No quote closes it, so it is all that is left. -/
  | openString {quote : Char} {content : List Char} (opens : isQuote quote = true)
      (unclosed : ∀ inside rest, content = inside ++ quote :: rest → ¬ Quoted quote inside) :
      TakesUp openString content (quote :: content) []
  /-- A character is by itself where nothing else begins. -/
  | stray {character : Char} {rest : List Char} (notBlank : ¬ isBlank character = true)
      (notQuote : ¬ isQuote character = true)
      (nothing : ∀ kind text, Writes kind text → ¬ text <+: character :: rest) :
      TakesUp stray [character] [character] rest

/-! ### Texts of lexemes -/

namespace LexemeKind

variable {kind : LexemeKind} {first : Char} {others rest text piece : List Char}

theorem Writes.ne_nil (writes : kind.Writes text) : text ≠ [] := by
  cases writes with
  | int | float | name => exact List.cons_ne_nil _ _
  | mark isMark =>
    have noEmpty : ∀ mark ∈ marks, mark.2 ≠ [] := by decide
    exact noEmpty _ isMark

theorem Writes.isPlain (writes : kind.Writes text) : kind.isPlain = true := by
  cases writes with
  | int | float => rfl
  | name => exact LexemeCut.isPlain_nameKind _
  | mark isMark =>
    have allPlain : ∀ mark ∈ marks, mark.1.isPlain = true := by decide
    exact allPlain _ isMark

theorem Writes.exists_eq_cons (writes : kind.Writes text) (isPrefix : text <+: first :: rest) :
    ∃ others, text = first :: others ∧ others <+: rest := by
  rcases List.prefix_cons_iff.mp isPrefix with rfl | found
  · exact absurd rfl writes.ne_nil
  · exact found

/-- What begins neither a number nor a name can only begin a mark. -/
theorem Writes.mem_marks (writes : kind.Writes (first :: others))
    (notDigit : ¬ first.isDigit = true) (notName : ¬ beginsName first = true) :
    (kind, first :: others) ∈ marks := by
  cases writes with
  | int isDigit | float isDigit => exact absurd isDigit notDigit
  | name begins => exact absurd begins notName
  | mark isMark => exact isMark

/-- All letters come after the digits. -/
theorem not_beginsName_of_isDigit (isDigit : first.isDigit = true) :
    ¬ beginsName first = true := by
  have fromLetters : ascendFrom 'A'.toNat CharClass.alphabetic.ranges = true := by decide +kernel
  have letterAfterDigit : '9'.toNat < 'A'.toNat := by decide
  rw [beginsName, Bool.or_eq_true, CharClass.contains_iff, beq_iff_eq]
  rintro (⟨range, member, reached, -⟩ | rfl)
  · have greatest := (Char.isDigit_iff_toNat.mp isDigit).2
    have least := CharClass.bound_le_of_ascendFrom fromLetters member
    omega
  · exact absurd isDigit (by decide)

theorem not_isDigit_of_mem_marks (isMark : (kind, first :: others) ∈ marks) :
    ¬ first.isDigit = true ∧ ¬ beginsName first = true := by
  have neither : ∀ mark ∈ marks,
      mark.2.all (fun character => !character.isDigit && !beginsName character) = true := by
    decide
  simpa using List.all_eq_true.mp (neither _ isMark) first List.mem_cons_self

theorem head?_of_mem_marks {mark : LexemeKind × List Char} (isMark : mark ∈ marks)
    (isPrefix : mark.2 <+: first :: rest) : mark.2.head? = some first := by
  obtain ⟨others, same, -⟩ := (Writes.mark isMark).exists_eq_cons isPrefix
  rw [same, List.head?_cons]

theorem TakesUp.ne_nil (takesUp : kind.TakesUp text piece rest) : piece ≠ [] := by
  cases takesUp with
  | written writes _ => exact writes.ne_nil
  | string | openString | stray => exact List.cons_ne_nil _ _

theorem TakesUp.ne_finish (takesUp : kind.TakesUp text piece rest) : kind ≠ .finish := by
  rintro rfl
  cases takesUp with
  | written writes _ => cases writes.isPlain

theorem TakesUp.text_subset (takesUp : kind.TakesUp text piece rest) : text ⊆ piece := by
  cases takesUp with
  | written | stray => exact List.Subset.refl _
  | string => exact List.subset_cons_of_subset _ (List.subset_append_left _ _)
  | openString => exact List.subset_cons_self _ _

theorem TakesUp.rest_eq_nil (takesUp : kind.TakesUp text piece rest) (isOpen : kind = .openString) :
    rest = [] := by
  cases takesUp with
  | written writes _ =>
    rw [isOpen] at writes
    cases writes.isPlain
  | openString => rfl
  | string | stray => cases isOpen

end LexemeKind

/-! ### One lexeme -/

section Longest

variable {test : Char → Bool} {first : Char} {text others rest : List Char}

theorem length_le_length_takeWhile (isPrefix : text <+: rest)
    (each : ∀ character ∈ text, test character = true) :
    text.length ≤ (rest.takeWhile test).length := by
  obtain ⟨further, rfl⟩ := isPrefix
  rw [List.takeWhile_append_of_pos each, List.length_append]
  exact Nat.le_add_right _ _

/-- Where the characters of some kind end, another character ends them. -/
theorem takeWhile_eq_of_isPrefix {mark : Char} (stops : ¬ test mark = true)
    (isPrefix : text ++ mark :: others <+: rest)
    (each : ∀ character ∈ text, test character = true) :
    rest.takeWhile test = text ∧ mark :: others <+: rest.dropWhile test := by
  obtain ⟨further, rfl⟩ := isPrefix
  rw [List.append_assoc, List.takeWhile_append_of_pos each, List.dropWhile_append_of_pos each,
    List.cons_append, List.takeWhile_cons_of_neg stops, List.dropWhile_cons_of_neg stops,
    List.append_nil]
  exact ⟨rfl, further, rfl⟩

/-- A mark is as long as it can be if no mark that stands at the same place is longer. -/
theorem isLongest_of_marks {kind : LexemeKind} (isMark : (kind, first :: others) ∈ LexemeKind.marks)
    (only : ∀ mark ∈ LexemeKind.marks, mark.2 <+: first :: (others ++ rest) →
      mark.2.length ≤ (first :: others).length) : IsLongest (first :: others) rest := by
  intro kind longer writes isPrefix
  obtain ⟨notDigit, notName⟩ := LexemeKind.not_isDigit_of_mem_marks isMark
  obtain ⟨further, rfl, -⟩ := writes.exists_eq_cons isPrefix
  exact only _ (writes.mem_marks notDigit notName) isPrefix

theorem isLongest_name (begins : beginsName first = true) :
    IsLongest (first :: rest.takeWhile continuesName) (rest.dropWhile continuesName) := by
  intro kind longer writes isPrefix
  rw [List.cons_append, List.takeWhile_append_dropWhile] at isPrefix
  obtain ⟨further, rfl, among⟩ := writes.exists_eq_cons isPrefix
  cases writes with
  | int isDigit | float isDigit =>
    exact absurd begins (LexemeKind.not_beginsName_of_isDigit isDigit)
  | name _ each => exact Nat.succ_le_succ (length_le_length_takeWhile among each)
  | mark isMark => exact absurd begins (LexemeKind.not_isDigit_of_mem_marks isMark).2

open LexemeCut in
theorem isLongest_float {digit : Char} {after : List Char} (isDigit : first.isDigit = true)
    (fraction : rest.dropWhile isDigitOrGap = '.' :: digit :: after) :
    IsLongest (first :: rest.takeWhile isDigitOrGap ++ '.' :: digit :: after.takeWhile isDigitOrGap)
      (after.dropWhile isDigitOrGap) := by
  intro kind longer writes isPrefix
  have whole : first :: rest.takeWhile isDigitOrGap ++
      '.' :: digit :: after.takeWhile isDigitOrGap ++ after.dropWhile isDigitOrGap =
      first :: rest := by
    rw [List.append_assoc, List.cons_append, List.cons_append, List.cons_append,
      List.takeWhile_append_dropWhile, ← fraction, List.takeWhile_append_dropWhile]
  rw [whole] at isPrefix
  obtain ⟨further, rfl, among⟩ := writes.exists_eq_cons isPrefix
  simp only [List.length_append, List.length_cons]
  cases writes with
  | int _ each =>
    have shorter := length_le_length_takeWhile among each
    omega
  | float _ eachWhole _ eachFraction =>
    obtain ⟨same, left⟩ := takeWhile_eq_of_isPrefix (by decide) among eachWhole
    rw [fraction, List.cons_prefix_cons, List.cons_prefix_cons] at left
    have shorter := length_le_length_takeWhile left.2.2 eachFraction
    simp only [List.length_append, List.length_cons, same]
    omega
  | name begins => exact absurd begins (LexemeKind.not_beginsName_of_isDigit isDigit)
  | mark isMark => exact absurd isDigit (LexemeKind.not_isDigit_of_mem_marks isMark).1

open LexemeCut in
theorem isLongest_int (isDigit : first.isDigit = true)
    (noFraction : ∀ digit after, rest.dropWhile isDigitOrGap = '.' :: digit :: after →
      ¬ digit.isDigit = true) :
    IsLongest (first :: rest.takeWhile isDigitOrGap) (rest.dropWhile isDigitOrGap) := by
  intro kind longer writes isPrefix
  rw [List.cons_append, List.takeWhile_append_dropWhile] at isPrefix
  obtain ⟨further, rfl, among⟩ := writes.exists_eq_cons isPrefix
  cases writes with
  | int _ each => exact Nat.succ_le_succ (length_le_length_takeWhile among each)
  | float _ eachWhole nextIsDigit _ =>
    obtain ⟨-, left⟩ := takeWhile_eq_of_isPrefix (by decide) among eachWhole
    obtain ⟨behind, same⟩ := left
    exact absurd nextIsDigit (noFraction _ _ same.symm)
  | name begins => exact absurd begins (LexemeKind.not_beginsName_of_isDigit isDigit)
  | mark isMark => exact absurd isDigit (LexemeKind.not_isDigit_of_mem_marks isMark).1

end Longest

namespace LexemeCut

/-- What is cut off a text is a lexeme that takes up the characters before what follows. -/
def Fits (text : List Char) (cut : LexemeCut) : Prop :=
  ∃ piece, text = piece ++ cut.rest ∧ cut.width = piece.length ∧
    cut.kind.TakesUp cut.text piece cut.rest

section Fits

variable {character : Char} (rest : List Char)

theorem fits_mark {kind : LexemeKind} (isMark : (kind, [character]) ∈ LexemeKind.marks)
    (only : ∀ mark ∈ LexemeKind.marks, mark.2 <+: character :: rest → mark.2 = [character]) :
    Fits (character :: rest) (single kind character rest) := by
  refine ⟨[character], rfl, rfl, .written (.mark isMark) (isLongest_of_marks isMark ?_)⟩
  intro mark member isPrefix
  rw [only mark member isPrefix]

/-- No other mark begins like a mark of one character. -/
theorem fits_single {kind : LexemeKind} (isMark : (kind, [character]) ∈ LexemeKind.marks)
    (only : ∀ mark ∈ LexemeKind.marks, mark.2.head? = some character → mark.2 = [character]) :
    Fits (character :: rest) (single kind character rest) :=
  fits_mark rest isMark fun mark member isPrefix =>
    only mark member (LexemeKind.head?_of_mem_marks member isPrefix)

/-- Where no mark stands, and nothing else can begin, a character is stray. -/
theorem fits_stray (notBlank : ¬ isBlank character = true) (notQuote : ¬ isQuote character = true)
    (notDigit : ¬ character.isDigit = true) (notName : ¬ beginsName character = true)
    (noMark : ∀ mark ∈ LexemeKind.marks, ¬ mark.2 <+: character :: rest) :
    Fits (character :: rest) (single .stray character rest) := by
  refine ⟨[character], rfl, rfl, .stray notBlank notQuote fun kind text writes isPrefix => ?_⟩
  obtain ⟨others, rfl, -⟩ := writes.exists_eq_cons isPrefix
  exact noMark _ (writes.mem_marks notDigit notName) isPrefix

section Pair

variable {second : Char} {double alone : LexemeKind}
  (isDouble : (double, [character, second]) ∈ LexemeKind.marks)
  (only : ∀ mark ∈ LexemeKind.marks, mark.2.head? = some character →
    mark.2 = [character] ∨ mark.2 = [character, second])

include isDouble only

/-- One other mark begins like a mark of two characters. It stands alone where the second one does
not follow. -/
theorem fits_pair (whenAlone : (¬ [second] <+: rest) →
      Fits (character :: rest) (single alone character rest)) :
    Fits (character :: rest) (pair second double alone character rest) := by
  unfold pair
  split
  · rename_i next after
    split
    · rename_i same
      rw [same]
      have writes := LexemeKind.Writes.mark isDouble
      refine ⟨[character, second], rfl, rfl, .written writes (isLongest_of_marks isDouble ?_)⟩
      intro mark member isPrefix
      have begins := LexemeKind.head?_of_mem_marks member isPrefix
      rcases only mark member begins with same | same <;> simp [same]
    · rename_i other
      exact whenAlone fun follows => other (List.cons_prefix_cons.mp follows).1.symm
  · exact whenAlone (mt List.prefix_nil.mp (List.cons_ne_nil _ _))

theorem fits_pair_of_mark (isAlone : (alone, [character]) ∈ LexemeKind.marks) :
    Fits (character :: rest) (pair second double alone character rest) := by
  refine fits_pair rest isDouble only fun notSecond =>
    fits_mark rest isAlone fun mark member isPrefix => ?_
  rcases only mark member (LexemeKind.head?_of_mem_marks member isPrefix) with same | same
  · exact same
  · rw [same, List.cons_prefix_cons] at isPrefix
    exact absurd isPrefix.2 notSecond

theorem fits_pair_of_stray (notBlank : ¬ isBlank character = true)
    (notQuote : ¬ isQuote character = true)
    (notAlone : ∀ mark ∈ LexemeKind.marks, mark.2 ≠ [character]) :
    Fits (character :: rest) (pair second double .stray character rest) := by
  obtain ⟨notDigit, notName⟩ := LexemeKind.not_isDigit_of_mem_marks isDouble
  refine fits_pair rest isDouble only fun notSecond =>
    fits_stray rest notBlank notQuote notDigit notName fun mark member isPrefix => ?_
  rcases only mark member (LexemeKind.head?_of_mem_marks member isPrefix) with same | same
  · exact notAlone mark member same
  · rw [same, List.cons_prefix_cons] at isPrefix
    exact notSecond isPrefix.2

end Pair

theorem fits_number (isDigit : character.isDigit = true) :
    Fits (character :: rest) (number character rest) := by
  have each (text : List Char) : ∀ other ∈ text.takeWhile isDigitOrGap,
      isDigitOrGap other = true := fun _ member => List.mem_takeWhile_imp member
  by_cases fraction : ∃ digit after, rest.dropWhile isDigitOrGap = '.' :: digit :: after ∧
      digit.isDigit = true
  · obtain ⟨digit, after, found, nextIsDigit⟩ := fraction
    rw [number_of_fraction character found nextIsDigit]
    refine ⟨_, ?_, rfl, .written (.float isDigit (each rest) nextIsDigit (each after))
      (isLongest_float isDigit found)⟩
    rw [List.append_assoc, List.cons_append, List.cons_append, List.cons_append,
      List.takeWhile_append_dropWhile, ← found, List.takeWhile_append_dropWhile]
  · have whole : ∀ digit after, rest.dropWhile isDigitOrGap = '.' :: digit :: after →
        ¬ digit.isDigit = true :=
      fun digit after found nextIsDigit => fraction ⟨digit, after, found, nextIsDigit⟩
    rw [number_of_no_fraction character whole]
    refine ⟨_, ?_, rfl, .written (.int isDigit (each rest)) (isLongest_int isDigit whole)⟩
    rw [List.cons_append, List.takeWhile_append_dropWhile]

theorem fits_name (begins : beginsName character = true) :
    Fits (character :: rest) (name character rest) := by
  have each : ∀ other ∈ rest.takeWhile continuesName, continuesName other = true :=
    fun _ member => List.mem_takeWhile_imp member
  refine ⟨_, ?_, rfl, .written (.name begins each) (isLongest_name begins)⟩
  show character :: rest =
    (character :: rest.takeWhile continuesName) ++ rest.dropWhile continuesName
  rw [List.cons_append, List.takeWhile_append_dropWhile]

theorem fits_quoted (opens : isQuote character = true) :
    Fits (character :: rest) (quoted character rest) := by
  unfold quoted
  rcases read : quotedSpan character rest with _ | ⟨content, after⟩
  · refine ⟨character :: rest, (List.append_nil _).symm, rfl, .openString opens ?_⟩
    rintro inside behind rfl isQuoted
    rw [quotedSpan_of_quoted opens isQuoted] at read
    cases read
  · obtain ⟨same, isQuoted⟩ := (quotedSpan_eq_some_iff opens).mp read
    refine ⟨character :: (content ++ [character]), ?_, ?_, .string opens isQuoted⟩
    · rw [same, List.cons_append, List.append_assoc, List.singleton_append]
    · rw [List.length_cons, List.length_append]
      rfl

/-- What is cut off a text is the lexeme that stands there. -/
theorem fits_first (notBlank : ¬ isBlank character = true) :
    Fits (character :: rest) (first character rest) := by
  unfold first
  split
  all_goals first
    | exact fits_single rest (by decide) (by decide)
    | exact fits_pair_of_mark rest (by decide) (by decide) (by decide)
    | exact fits_pair_of_stray rest (by decide) (by decide) (by decide) (by decide) (by decide)
    | skip
  split
  · exact fits_quoted rest ‹_›
  · split
    · exact fits_number rest ‹_›
    · split
      · exact fits_name rest ‹_›
      · refine fits_stray rest notBlank ‹_› ‹_› ‹_› ?_
        intro mark member isPrefix
        have begins : some character ∈ LexemeKind.marks.map (·.2.head?) :=
          List.mem_map.mpr ⟨mark, member, LexemeKind.head?_of_mem_marks member isPrefix⟩
        simp_all [LexemeKind.marks]

end Fits

end LexemeCut

/-! ### All lexemes -/

/-- Behind some text, lexemes cover what follows: white space is passed over, each lexeme takes up
the next piece, and its column is one more than the number of characters before this piece. The end
of the text comes last. -/
inductive Covers : (before text : List Char) → List Lexeme → Prop
  | finish {before : List Char} : Covers before [] [⟨.finish, "", before.length + 1⟩]
  | blank {before rest : List Char} {character : Char} {lexemes : List Lexeme}
      (isBlank : isBlank character = true) (others : Covers (before ++ [character]) rest lexemes) :
      Covers before (character :: rest) lexemes
  | lexeme {before piece rest : List Char} {lexeme : Lexeme} {lexemes : List Lexeme}
      (takesUp : lexeme.kind.TakesUp lexeme.text.toList piece rest)
      (column : lexeme.column = before.length + 1) (others : Covers (before ++ piece) rest lexemes) :
      Covers before (piece ++ rest) (lexeme :: lexemes)

/-- The lexemes of a text cover it. -/
theorem covers_scanFrom (before text : List Char) (column : Nat)
    (same : column = before.length + 1) : Covers before text (Lexeme.scanFrom column text) := by
  fun_induction Lexeme.scanFrom column text generalizing before with
  | case1 column =>
    rw [same]
    exact .finish
  | case2 column character rest blank inductionHypothesis =>
    exact .blank blank (inductionHypothesis _ (by rw [same, List.length_append]; rfl))
  | case3 column character rest notBlank cut inductionHypothesis =>
    obtain ⟨piece, split, width, takesUp⟩ := LexemeCut.fits_first rest notBlank
    have others := inductionHypothesis (before ++ piece) (by
      rw [same, List.length_append, Nat.add_right_comm, ← width])
    rw [split]
    exact .lexeme (by rwa [String.toList_ofList]) same others

/-- Each lexeme begins at a greater column than the one before it. -/
def Lexeme.Ascending (lexemes : List Lexeme) : Prop :=
  lexemes.Pairwise fun first second => first.column < second.column

namespace Covers

variable {before text : List Char} {lexemes : List Lexeme}

/-- The end of the text is the last lexeme, and the only one of its kind. -/
theorem exists_eq_concat (covers : Covers before text lexemes) :
    ∃ body, lexemes = body ++ [⟨.finish, "", (before ++ text).length + 1⟩] ∧
      ∀ lexeme ∈ body, lexeme.kind ≠ .finish := by
  induction covers with
  | @finish before =>
    rw [List.append_nil]
    exact ⟨[], rfl, List.forall_mem_nil _⟩
  | blank _ _ inductionHypothesis => rwa [← List.append_cons] at inductionHypothesis
  | lexeme takesUp _ _ inductionHypothesis =>
    obtain ⟨body, same, noFinish⟩ := inductionHypothesis
    rw [same, List.append_assoc]
    exact ⟨_ :: body, rfl, List.forall_mem_cons.mpr ⟨takesUp.ne_finish, noFinish⟩⟩

theorem eq_finish_of_nil (covers : Covers before text lexemes) (atEnd : text = []) :
    lexemes = [⟨.finish, "", before.length + 1⟩] := by
  cases covers with
  | finish => rfl
  | blank => cases atEnd
  | lexeme takesUp => exact absurd (List.append_eq_nil_iff.mp atEnd).1 takesUp.ne_nil

/-- Nothing but the end of the text follows an open string. -/
theorem eq_finish_of_openString (covers : Covers before text lexemes) {front back : List Lexeme}
    {lexeme : Lexeme} (same : lexemes = front ++ lexeme :: back)
    (isOpen : lexeme.kind = .openString) :
    back = [⟨.finish, "", (before ++ text).length + 1⟩] := by
  induction covers generalizing front with
  | finish =>
    rcases front with _ | ⟨first, front⟩
    · cases same
      cases isOpen
    · exact absurd (List.cons.inj same).2 (by simp)
  | blank _ _ inductionHypothesis =>
    rw [← List.append_cons] at inductionHypothesis
    exact inductionHypothesis same
  | lexeme takesUp _ others inductionHypothesis =>
    rw [List.append_assoc] at inductionHypothesis
    rcases front with _ | ⟨first, front⟩
    · obtain ⟨rfl, rfl⟩ := List.cons.inj same
      have atEnd := takesUp.rest_eq_nil isOpen
      rw [atEnd, List.append_nil]
      exact others.eq_finish_of_nil atEnd
    · exact inductionHypothesis (List.cons.inj same).2

/-- A lexeme takes up a piece of the text, at the column behind what stands before the piece. -/
theorem exists_piece_of_mem (covers : Covers before text lexemes) :
    ∀ lexeme ∈ lexemes, lexeme = ⟨.finish, "", (before ++ text).length + 1⟩ ∨
      ∃ past piece rest, text = past ++ (piece ++ rest) ∧
        lexeme.column = (before ++ past).length + 1 ∧
        lexeme.kind.TakesUp lexeme.text.toList piece rest := by
  induction covers with
  | @finish before => exact List.forall_mem_singleton.mpr (.inl (by rw [List.append_nil]))
  | @blank before rest character lexemes _ _ inductionHypothesis =>
    rw [← List.append_cons] at inductionHypothesis
    refine fun lexeme member => (inductionHypothesis lexeme member).imp_right ?_
    rintro ⟨past, piece, after, rfl, column, takesUp⟩
    exact ⟨character :: past, piece, after, rfl, by rwa [List.append_cons], takesUp⟩
  | @lexeme before piece rest lexeme lexemes takesUp column _ inductionHypothesis =>
    rw [List.append_assoc] at inductionHypothesis
    refine List.forall_mem_cons.mpr
      ⟨.inr ⟨[], piece, rest, rfl, by rwa [List.append_nil], takesUp⟩, fun other member => ?_⟩
    refine (inductionHypothesis other member).imp_right ?_
    rintro ⟨past, further, after, rfl, otherColumn, otherTakesUp⟩
    refine ⟨piece ++ past, further, after, (List.append_assoc ..).symm, ?_, otherTakesUp⟩
    rwa [← List.append_assoc]

/-- A lexeme begins after all lexemes before it. -/
theorem ascending (covers : Covers before text lexemes) : Lexeme.Ascending lexemes := by
  induction covers with
  | finish => exact List.pairwise_singleton _ _
  | blank _ _ inductionHypothesis => exact inductionHypothesis
  | lexeme takesUp column others inductionHypothesis =>
    refine List.pairwise_cons.mpr ⟨fun other member => ?_, inductionHypothesis⟩
    have notEmpty := List.length_pos_iff.mpr takesUp.ne_nil
    rcases others.exists_piece_of_mem other member with rfl | ⟨past, _, _, _, later, _⟩
    · simp only [List.length_append]
      omega
    · rw [List.length_append, List.length_append] at later
      omega

/-- The characters of a lexeme stand in the text. -/
theorem text_subset (covers : Covers before text lexemes) :
    ∀ lexeme ∈ lexemes, lexeme.text.toList ⊆ text := by
  intro lexeme member
  rcases covers.exists_piece_of_mem lexeme member with rfl | ⟨past, piece, rest, rfl, _, takesUp⟩
  · exact List.nil_subset _
  · exact List.subset_append_of_subset_right _
      (List.subset_append_of_subset_left _ takesUp.text_subset)

end Covers

theorem covers_scan (source : String) : Covers [] source.toList (Lexeme.scan source) :=
  covers_scanFrom [] source.toList 1 rfl

end Playscript
