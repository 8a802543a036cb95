/-
This file says what quoted text is, and what stands between two braces that belong together, apart
from how they are looked for. In quoted text a backslash takes the next character along; between
braces, quotations are opaque and other braces come in pairs. The quotations between braces are
listed in order, as they are without their quotes.

Whoever skips the braces and reads only quotations finds the same ones, since braces are no quotes;
and white space around the text does not belong to any of them.
-/

import Playscript.Script.Piece

namespace Playscript

/-! ### Quoted text -/

/-- Text that can stand between two quotes of a kind. -/
inductive Quoted (quote : Char) : List Char → Prop
  | nil : Quoted quote []
  | plain {character : Char} {rest : List Char} (notQuote : character ≠ quote)
      (notBackslash : character ≠ '\\') (others : Quoted quote rest) :
      Quoted quote (character :: rest)
  | escaped {character : Char} {rest : List Char} (others : Quoted quote rest) :
      Quoted quote ('\\' :: character :: rest)

theorem isQuote_iff {character : Char} :
    isQuote character = true ↔ character = '"' ∨ character = '\'' := by
  simp only [isQuote, Bool.or_eq_true, beq_iff_eq]

theorem ne_backslash_of_isQuote {quote : Char} (opens : isQuote quote = true) : quote ≠ '\\' := by
  rintro rfl
  exact absurd opens (by decide)

variable {quote : Char} {text content after : List Char} {quotations : List (List Char)}

theorem quoted_of_quotedSpan (read : quotedSpan quote text = some (content, after)) :
    Quoted quote content := by
  fun_induction quotedSpan quote text generalizing content after with
  | case1 => cases read
  | case2 escaped rest inductionHypothesis =>
    obtain ⟨⟨inner, later⟩, found, same⟩ := Option.map_eq_some_iff.mp read
    cases same
    exact .escaped (inductionHypothesis found)
  | case3 => cases read
  | case4 =>
    cases read
    exact .nil
  | case5 character rest _ notBackslash notQuote inductionHypothesis =>
    obtain ⟨⟨inner, later⟩, found, same⟩ := Option.map_eq_some_iff.mp read
    cases same
    exact .plain notQuote notBackslash (inductionHypothesis found)

theorem quotedSpan_cons {character : Char} {rest : List Char} (notBackslash : character ≠ '\\') :
    quotedSpan quote (character :: rest) =
      if character = quote then some ([], rest)
      else (quotedSpan quote rest).map fun (content, after) => (character :: content, after) := by
  rw [quotedSpan, if_neg notBackslash]
  exact fun _ _ same _ => notBackslash same

theorem quotedSpan_of_quoted (opens : isQuote quote = true) (quoted : Quoted quote content)
    (after : List Char) : quotedSpan quote (content ++ quote :: after) = some (content, after) := by
  induction quoted with
  | nil => rw [List.nil_append, quotedSpan_cons (ne_backslash_of_isQuote opens), if_pos rfl]
  | plain notQuote notBackslash _ inductionHypothesis =>
    rw [List.cons_append, quotedSpan_cons notBackslash, if_neg notQuote, inductionHypothesis]
    rfl
  | escaped _ inductionHypothesis =>
    rw [List.cons_append, List.cons_append, quotedSpan, inductionHypothesis]
    rfl

/-- A quotation ends at the first quote that no backslash takes along. -/
theorem quotedSpan_eq_some_iff (opens : isQuote quote = true) :
    quotedSpan quote text = some (content, after) ↔
      text = content ++ quote :: after ∧ Quoted quote content := by
  constructor
  · exact fun read => ⟨quotedSpan_eq_some read, quoted_of_quotedSpan read⟩
  · rintro ⟨rfl, quoted⟩
    exact quotedSpan_of_quoted opens quoted after

/-! ### Text between braces -/

/-- Text that can stand between two braces, and the quotations in it. -/
inductive Enclosed : List Char → List (List Char) → Prop
  | nil : Enclosed [] []
  | plain {character : Char} {rest : List Char} {quotations : List (List Char)}
      (notOpening : character ≠ '{') (notClosing : character ≠ '}')
      (notQuote : ¬ isQuote character = true) (others : Enclosed rest quotations) :
      Enclosed (character :: rest) quotations
  | quotation {quote : Char} {content rest : List Char} {quotations : List (List Char)}
      (opens : isQuote quote = true) (quoted : Quoted quote content)
      (others : Enclosed rest quotations) :
      Enclosed (quote :: (content ++ quote :: rest)) (content :: quotations)
  | braces {inside rest : List Char} {quotations further : List (List Char)}
      (inner : Enclosed inside quotations) (others : Enclosed rest further) :
      Enclosed ('{' :: (inside ++ '}' :: rest)) (quotations ++ further)

theorem Enclosed.exists_quoted {content : List Char} {quotations : List (List Char)}
    (enclosed : Enclosed content quotations) :
    ∀ quotation ∈ quotations, ∃ quote, Quoted quote quotation := by
  induction enclosed with
  | nil => exact List.forall_mem_nil _
  | plain _ _ _ _ inductionHypothesis => exact inductionHypothesis
  | quotation _ quoted _ inductionHypothesis =>
    exact List.forall_mem_cons.mpr ⟨⟨_, quoted⟩, inductionHypothesis⟩
  | braces _ _ inside others => exact List.forall_mem_append.mpr ⟨inside, others⟩

/-- Text up to a closing brace when so many braces before it are still open, and the quotations in
it. -/
def Closes : Nat → List Char → List (List Char) → Prop
  | 0, content, quotations => Enclosed content quotations
  | depth + 1, content, quotations => ∃ inside rest first further,
      content = inside ++ '}' :: rest ∧ quotations = first ++ further ∧ Enclosed inside first ∧
        Closes depth rest further

/-- What may stand in front of text between braces may stand in front of each of its parts. -/
theorem Closes.prepend {depth : Nat} (closes : Closes depth content quotations)
    (front : List Char) (before : List (List Char))
    (enclosed : ∀ {rest quotations}, Enclosed rest quotations →
      Enclosed (front ++ rest) (before ++ quotations)) :
    Closes depth (front ++ content) (before ++ quotations) := by
  cases depth with
  | zero => exact enclosed closes
  | succ depth =>
    obtain ⟨inside, rest, first, further, rfl, rfl, inner, others⟩ := closes
    exact ⟨front ++ inside, rest, before ++ first, further, (List.append_assoc ..).symm,
      (List.append_assoc ..).symm, enclosed inner, others⟩

theorem closes_of_bracedSpan {depth : Nat}
    (read : bracedSpan depth text = some (content, after)) :
    ∃ quotations, Closes depth content quotations := by
  fun_induction bracedSpan depth text generalizing content after with
  | case1 => cases read
  | case2 depth rest inductionHypothesis =>
    obtain ⟨⟨inner, later⟩, found, same⟩ := Option.map_eq_some_iff.mp read
    cases same
    obtain ⟨quotations, inside, others, first, further, rfl, rfl, enclosed, closes⟩ :=
      inductionHypothesis found
    refine ⟨first ++ further, ?_⟩
    have pair := closes.prepend ('{' :: (inside ++ ['}'])) first fun others => by
      simpa using Enclosed.braces enclosed others
    simpa using pair
  | case3 rest =>
    cases read
    exact ⟨[], .nil⟩
  | case4 rest _ depth inductionHypothesis =>
    obtain ⟨⟨inner, later⟩, found, same⟩ := Option.map_eq_some_iff.mp read
    cases same
    obtain ⟨quotations, closes⟩ := inductionHypothesis found
    exact ⟨quotations, [], inner, [], quotations, rfl, rfl, .nil, closes⟩
  | case5 => cases read
  | case6 depth quote rest _ _ opens quoted later found inductionHypothesis =>
    obtain ⟨⟨inner, last⟩, innerFound, same⟩ := Option.map_eq_some_iff.mp read
    cases same
    obtain ⟨quotations, closes⟩ := inductionHypothesis innerFound
    refine ⟨quoted :: quotations, ?_⟩
    have pair := closes.prepend (quote :: (quoted ++ [quote])) [quoted] fun others => by
      simpa using Enclosed.quotation opens (quoted_of_quotedSpan found) others
    simpa using pair
  | case7 depth character rest notOpening notClosing notQuote inductionHypothesis =>
    obtain ⟨⟨inner, later⟩, found, same⟩ := Option.map_eq_some_iff.mp read
    cases same
    obtain ⟨quotations, closes⟩ := inductionHypothesis found
    exact ⟨quotations, closes.prepend [character] []
      fun others => .plain notOpening notClosing notQuote others⟩

theorem ne_brace_of_isQuote (opens : isQuote quote = true) : quote ≠ '{' ∧ quote ≠ '}' := by
  constructor <;> rintro rfl <;> exact absurd opens (by decide)

theorem bracedSpan_of_quotedSpan {depth : Nat} (opens : isQuote quote = true)
    (read : quotedSpan quote text = some (content, after)) :
    bracedSpan depth (quote :: text) = (bracedSpan depth after).map fun (further, rest) =>
      (quote :: (content ++ quote :: further), rest) := by
  obtain ⟨notOpening, notClosing⟩ := ne_brace_of_isQuote opens
  rw [bracedSpan.eq_def]
  simp only [if_neg notOpening, if_neg notClosing, if_pos opens]
  split
  · rename_i unread
    rw [read] at unread
    cases unread
  · rename_i found
    rw [read] at found
    cases found
    rfl

theorem bracedSpan_other {depth : Nat} {character : Char} (notOpening : character ≠ '{')
    (notClosing : character ≠ '}') (notQuote : ¬ isQuote character = true) :
    bracedSpan depth (character :: text) = (bracedSpan depth text).map fun (further, after) =>
      (character :: further, after) := by
  rw [bracedSpan.eq_def]
  simp only [if_neg notOpening, if_neg notClosing, if_neg notQuote]

theorem bracedSpan_opening {depth : Nat} :
    bracedSpan depth ('{' :: text) = (bracedSpan (depth + 1) text).map fun (further, after) =>
      ('{' :: further, after) := by
  rw [bracedSpan.eq_def]
  exact if_pos rfl

theorem bracedSpan_closing {depth : Nat} :
    bracedSpan (depth + 1) ('}' :: text) = (bracedSpan depth text).map fun (further, after) =>
      ('}' :: further, after) := by
  rw [bracedSpan, if_neg (by decide), if_pos rfl]

/-- Text between braces is passed over, whatever follows it. -/
theorem bracedSpan_append (enclosed : Enclosed content quotations) (depth : Nat)
    (text : List Char) :
    bracedSpan depth (content ++ text) =
      (bracedSpan depth text).map fun (further, after) => (content ++ further, after) := by
  induction enclosed generalizing depth text with
  | nil => exact Option.map_id'.symm
  | plain notOpening notClosing notQuote _ inductionHypothesis =>
    rw [List.cons_append, bracedSpan_other notOpening notClosing notQuote, inductionHypothesis,
      Option.map_map]
    rfl
  | @quotation _ _ rest _ opens quoted _ inductionHypothesis =>
    have read := quotedSpan_of_quoted opens quoted (rest ++ text)
    rw [List.cons_append, List.append_assoc, List.cons_append,
      bracedSpan_of_quotedSpan opens read, inductionHypothesis, Option.map_map]
    simp [Function.comp_def]
  | @braces inside rest _ _ _ _ inner others =>
    rw [List.cons_append, List.append_assoc, List.cons_append, bracedSpan_opening, inner,
      bracedSpan_closing, others, Option.map_map, Option.map_map, Option.map_map]
    simp [Function.comp_def]

/-- An opening brace is closed by the first brace that closes no other, quotations apart. -/
theorem bracedSpan_eq_some_iff :
    bracedSpan 0 text = some (content, after) ↔
      text = content ++ '}' :: after ∧ ∃ quotations, Enclosed content quotations := by
  constructor
  · exact fun read => ⟨bracedSpan_eq_some read, closes_of_bracedSpan read⟩
  · rintro ⟨rfl, quotations, enclosed⟩
    rw [bracedSpan_append enclosed, bracedSpan]
    simp

/-! ### Quotations alone -/

/-- A text in which every quotation is closed, and its quotations, whatever else it holds. -/
inductive Quotes : List Char → List (List Char) → Prop
  | nil : Quotes [] []
  | other {character : Char} {rest : List Char} {quotations : List (List Char)}
      (notQuote : ¬ isQuote character = true) (others : Quotes rest quotations) :
      Quotes (character :: rest) quotations
  | quotation {quote : Char} {content rest : List Char} {quotations : List (List Char)}
      (opens : isQuote quote = true) (quoted : Quoted quote content)
      (others : Quotes rest quotations) :
      Quotes (quote :: (content ++ quote :: rest)) (content :: quotations)

namespace Quotes

variable {further : List (List Char)}

theorem append {rest : List Char} (first : Quotes text quotations) (second : Quotes rest further) :
    Quotes (text ++ rest) (quotations ++ further) := by
  induction first with
  | nil => exact second
  | other notQuote _ inductionHypothesis => exact .other notQuote inductionHypothesis
  | quotation opens quoted _ inductionHypothesis =>
    rw [List.cons_append, List.append_assoc, List.cons_append, List.cons_append]
    exact .quotation opens quoted inductionHypothesis

/-- After a quote there is a quotation. -/
theorem of_quote (opens : isQuote quote = true) (quotes : Quotes (quote :: text) quotations) :
    ∃ content after further, text = content ++ quote :: after ∧ quotations = content :: further ∧
      Quoted quote content ∧ Quotes after further := by
  cases quotes with
  | other notQuote => exact absurd opens notQuote
  | quotation _ quoted others => exact ⟨_, _, _, rfl, rfl, quoted, others⟩

theorem of_cons {character : Char} (notQuote : ¬ isQuote character = true)
    (quotes : Quotes (character :: text) quotations) : Quotes text quotations := by
  cases quotes with
  | other _ others => exact others
  | quotation opens => exact absurd opens notQuote

/-- Text without quotes in front of it does not matter. -/
theorem of_append {front : List Char} (noQuote : ∀ character ∈ front, ¬ isQuote character = true)
    (quotes : Quotes (front ++ text) quotations) : Quotes text quotations := by
  induction front with
  | nil => exact quotes
  | cons character front inductionHypothesis =>
    obtain ⟨notQuote, frontNoQuote⟩ := List.forall_mem_cons.mp noQuote
    exact inductionHypothesis frontNoQuote (quotes.of_cons notQuote)

/-- A last character that is no quote does not matter, since a quotation ends with a quote. -/
theorem of_append_singleton {character : Char} (notQuote : ¬ isQuote character = true)
    (quotes : Quotes (text ++ [character]) quotations) : Quotes text quotations := by
  generalize same : text ++ [character] = whole at quotes
  induction quotes generalizing text with
  | nil => exact absurd same (List.append_ne_nil_of_right_ne_nil _ (List.cons_ne_nil _ _))
  | other otherNotQuote others inductionHypothesis =>
    rcases text with _ | ⟨first, text⟩
    · obtain ⟨rfl, rfl⟩ := List.cons.inj same
      exact others
    · obtain ⟨rfl, restSame⟩ := List.cons.inj same
      exact .other otherNotQuote (inductionHypothesis restSame)
  | @quotation quote content rest _ opens quoted _ inductionHypothesis =>
    rcases List.eq_nil_or_concat rest with rfl | ⟨front, last, rfl⟩
    · rw [← List.cons_append] at same
      have lastSame := List.append_inj_right' same rfl
      rw [List.singleton_inj.mp lastSame] at notQuote
      exact absurd opens notQuote
    · rw [List.concat_eq_append, ← List.cons_append, ← List.cons_append,
        ← List.append_assoc] at same
      obtain ⟨rfl, lastSame⟩ := List.append_inj' same rfl
      exact .quotation opens quoted (inductionHypothesis (by rw [lastSame, List.concat_eq_append]))

end Quotes

theorem not_isQuote_of_isBlank {character : Char} (blank : isBlank character = true) :
    ¬ isQuote character = true := by
  intro opens
  rcases isQuote_iff.mp opens with rfl | rfl <;> exact absurd blank (by decide)

/-- What holds of a text, and goes on to hold when white space is taken away at either end, holds of
the trimmed text. -/
theorem trim_induction (property : List Char → Prop)
    (first : ∀ character rest, isBlank character = true → property (character :: rest) →
      property rest)
    (last : ∀ character front, isBlank character = true → property (front ++ [character]) →
      property front)
    (holds : property text) : property (trim text) := by
  have start (text : List Char) (holds : property text) : property (trimStart text) := by
    unfold trimStart
    induction text with
    | nil => exact holds
    | cons character rest inductionHypothesis =>
      by_cases blank : isBlank character = true
      · rw [List.dropWhile_cons_of_pos blank]
        exact inductionHypothesis (first character rest blank holds)
      · rw [List.dropWhile_cons_of_neg blank]
        exact holds
  have finish (backwards : List Char) (holds : property backwards.reverse) :
      property (trimStart backwards).reverse := by
    unfold trimStart
    induction backwards with
    | nil => exact holds
    | cons character rest inductionHypothesis =>
      by_cases blank : isBlank character = true
      · rw [List.dropWhile_cons_of_pos blank]
        rw [List.reverse_cons] at holds
        exact inductionHypothesis (last character rest.reverse blank holds)
      · rw [List.dropWhile_cons_of_neg blank]
        exact holds
  refine finish _ ?_
  rw [List.reverse_reverse]
  exact start text holds

theorem Enclosed.quotes (enclosed : Enclosed content quotations) : Quotes content quotations := by
  induction enclosed with
  | nil => exact .nil
  | plain _ _ notQuote _ inductionHypothesis => exact .other notQuote inductionHypothesis
  | quotation opens quoted _ inductionHypothesis =>
    exact .quotation opens quoted inductionHypothesis
  | braces _ _ inside others =>
    have closing : Quotes ('}' :: _) _ := .other (by decide) others
    exact .other (by decide) (inside.append closing)

theorem Quotes.trim (quotes : Quotes text quotations) : Quotes (trim text) quotations :=
  trim_induction (Quotes · quotations)
    (fun _ _ blank => of_cons (not_isQuote_of_isBlank blank))
    (fun _ _ blank => of_append_singleton (not_isQuote_of_isBlank blank)) quotes

end Playscript
