/-
This file says what becomes of a script when a carriage return is put before each of its newlines.
It has the same tokens at the same positions, or the same first mistake. Only strings and
expressions hold the carriage returns, since everything else leaves white space and line endings
out. And if no string goes over a line, the script is the same programme, or it is none both times.

Every scanner is compared with itself on the longer text. A newline ends or continues a piece in the
same way with a carriage return before it, also where a backslash takes the carriage return along in
place of the newline, since neither is a quote. Positions agree again after the newline.
-/

import Playscript.Proofs.Columns
import Playscript.Proofs.Compiling
import Playscript.Proofs.Corresponding
import Playscript.Proofs.Verbatim
import Playscript.Session

namespace Playscript

/-! ### Carriage returns -/

/-- A newline with a carriage return before it, and any other character by itself. -/
def withReturn (character : Char) : List Char :=
  if character = '\n' then ['\r', '\n'] else [character]

/-- A text with a carriage return before each newline. -/
def addReturns (text : List Char) : List Char := text.flatMap withReturn

/-- What is cut off a text and what follows it, as they are in the text with carriage returns. -/
def spanWithReturns (span : List Char × List Char) : List Char × List Char :=
  (addReturns span.1, addReturns span.2)

/-- Whether tokens of a kind are quoted strings. -/
def TokenKind.isString : TokenKind → Bool
  | instantString | typewriterString => true
  | _ => false

/-- Whether tokens of a kind are expressions. -/
def TokenKind.isExpression : TokenKind → Bool
  | inlineExpr | deferredExpr | instantExpr | typewriterExpr => true
  | _ => false

/-- The text of a token of a kind with a carriage return before each newline, if it stands between
quotes or braces. -/
def TokenKind.textWithReturns (kind : TokenKind) (text : List Char) : List Char :=
  if kind.isString || kind.isExpression then addReturns text else text

/-- A token as it is in the text with carriage returns. -/
def Token.withReturns (token : Token) : Token :=
  { token with text := .ofList (token.kind.textWithReturns token.text.toList) }

/-- A piece as it is in the text with carriage returns. -/
def Piece.withReturns (piece : Piece) : Piece where
  finding := piece.finding.map fun found => (found.1, found.1.textWithReturns found.2)
  taken := addReturns piece.taken
  rest := addReturns piece.rest

/-- A place with carriage returns in the text that is still to be read. -/
def Place.withReturns (place : Place) : Place :=
  { place with rest := addReturns place.rest }

section Characters

variable {character : Char} {text : List Char}

theorem ne_newline_of_isQuote (opens : isQuote character = true) : character ≠ '\n' := by
  rintro rfl
  exact absurd opens (by decide)

theorem ne_return_of_isQuote (opens : isQuote character = true) : character ≠ '\r' := by
  rintro rfl
  exact absurd opens (by decide)

theorem ne_newline_of_mem_stringSigils {kind : TokenKind}
    (member : (character, kind) ∈ stringSigils) : character ≠ '\n' := by
  rcases mem_stringSigils_iff.mp member with ⟨rfl, _⟩ | ⟨rfl, _⟩ <;> decide

theorem newline_not_mem_of_mem_expressionSigils {kind : TokenKind}
    (member : (text, kind) ∈ expressionSigils) : '\n' ∉ text := by
  rcases mem_expressionSigils_iff.mp member with
    ⟨rfl, _⟩ | ⟨rfl, _⟩ | ⟨rfl, _⟩ | ⟨rfl, _⟩ <;> decide

theorem addReturns_nil : addReturns [] = [] := rfl

theorem addReturns_newline (rest : List Char) :
    addReturns ('\n' :: rest) = '\r' :: '\n' :: addReturns rest := rfl

theorem addReturns_cons (notNewline : character ≠ '\n') (rest : List Char) :
    addReturns (character :: rest) = character :: addReturns rest := by
  rw [addReturns, List.flatMap_cons, withReturn, if_neg notNewline]
  rfl

theorem addReturns_append (first second : List Char) :
    addReturns (first ++ second) = addReturns first ++ addReturns second :=
  List.flatMap_append

theorem addReturns_of_not_mem (noNewline : '\n' ∉ text) : addReturns text = text := by
  induction text with
  | nil => rfl
  | cons character rest inductionHypothesis =>
    rw [addReturns_cons (List.ne_of_not_mem_cons noNewline).symm,
      inductionHypothesis (List.not_mem_of_not_mem_cons noNewline)]

/-- Only a carriage return is new at the start. -/
theorem exists_of_addReturns_eq_cons {rest : List Char} (notReturn : character ≠ '\r')
    (same : addReturns text = character :: rest) :
    ∃ later, text = character :: later ∧ rest = addReturns later := by
  cases text with
  | nil => cases same
  | cons first later =>
    by_cases newline : first = '\n'
    · rw [newline, addReturns_newline] at same
      exact absurd (List.cons.inj same).1.symm notReturn
    · rw [addReturns_cons newline] at same
      obtain ⟨rfl, rfl⟩ := List.cons.inj same
      exact ⟨later, rfl, rfl⟩

theorem getLast?_addReturns (text : List Char) : (addReturns text).getLast? = text.getLast? := by
  induction text using List.reverseRecOn with
  | nil => rfl
  | append_singleton front last _ =>
    rw [addReturns_append, List.getLast?_concat]
    by_cases newline : last = '\n'
    · rw [newline]
      exact List.getLast?_append_of_ne_nil _ (List.cons_ne_nil _ _)
    · rw [addReturns_cons newline]
      exact List.getLast?_concat

theorem Position.afterAll_addReturns (position : Position) (text : List Char) :
    position.afterAll (addReturns text) = position.afterAll text := by
  induction text generalizing position with
  | nil => rfl
  | cons character rest inductionHypothesis =>
    by_cases newline : character = '\n'
    · rw [newline, addReturns_newline]
      exact inductionHypothesis _
    · rw [addReturns_cons newline]
      exact inductionHypothesis _

theorem trim_addReturns (text : List Char) : trim (addReturns text) = addReturns (trim text) := by
  have dropped (text : List Char) : ∀ character ∈ text, isBlank character = true →
      ∀ part ∈ withReturn character, isBlank part = true := by
    intro character _ blank
    unfold withReturn
    split
    · exact List.forall_mem_cons.mpr ⟨by decide, List.forall_mem_singleton.mpr (by decide)⟩
    · exact List.forall_mem_singleton.mpr blank
  have kept (text : List Char) : ∀ character ∈ text, ¬ isBlank character = true →
      withReturn character ≠ [] ∧ ∀ part ∈ withReturn character, ¬ isBlank part = true := by
    intro character _ notBlank
    have notNewline : character ≠ '\n' := by
      rintro rfl
      exact notBlank (by decide)
    rw [withReturn, if_neg notNewline]
    exact ⟨List.cons_ne_nil _ _, List.forall_mem_singleton.mpr notBlank⟩
  exact ((flatMap_rdropWhile (dropped _) (kept _)).trans
    (congrArg (List.rdropWhile _) (flatMap_dropWhile (dropped _) (kept _)))).symm

theorem trim_concat (text : List Char) (blank : isBlank character = true) :
    trim (text ++ [character]) = trim text := by
  have whole (text : List Char) : trim text = (text.dropWhile isBlank).rdropWhile isBlank := rfl
  rw [whole, whole, List.dropWhile_append]
  split
  · rename_i none
    rw [List.isEmpty_iff.mp none, List.dropWhile_cons_of_pos blank]
    rfl
  · rw [List.rdropWhile_concat_pos _ _ _ blank]

end Characters

/-! ### Spans -/

/-- A backslash before a newline takes the carriage return along, and the newline is then an
ordinary character of the quotation. -/
theorem quotedSpan_addReturns {quote : Char} (opens : isQuote quote = true) (text : List Char) :
    quotedSpan quote (addReturns text) = (quotedSpan quote text).map spanWithReturns := by
  have newlineNotQuote : '\n' ≠ quote := (ne_newline_of_isQuote opens).symm
  have returnNotQuote : '\r' ≠ quote := (ne_return_of_isQuote opens).symm
  fun_induction quotedSpan quote text with
  | case1 => rfl
  | case2 escaped rest inductionHypothesis =>
    rw [addReturns_cons (by decide)]
    by_cases newline : escaped = '\n'
    · rw [newline, addReturns_newline, quotedSpan, quotedSpan_cons (by decide),
        if_neg newlineNotQuote, inductionHypothesis]
      cases quotedSpan quote rest <;> rfl
    · rw [addReturns_cons newline, quotedSpan, inductionHypothesis]
      rcases quotedSpan quote rest with _ | ⟨content, after⟩
      · rfl
      · simp [spanWithReturns, addReturns_cons newline, addReturns_cons]
  | case3 rest notEscaped =>
    obtain rfl : rest = [] := by
      cases rest with
      | nil => rfl
      | cons escaped further => exact absurd rfl (notEscaped escaped further rfl)
    rfl
  | case4 rest _ notBackslash =>
    rw [addReturns_cons newlineNotQuote.symm, quotedSpan_cons notBackslash, if_pos rfl]
    rfl
  | case5 character rest _ notBackslash notQuote inductionHypothesis =>
    by_cases newline : character = '\n'
    · rw [newline, addReturns_newline, quotedSpan_cons (by decide), if_neg returnNotQuote,
        quotedSpan_cons (by decide), if_neg newlineNotQuote, inductionHypothesis]
      cases quotedSpan quote rest <;> rfl
    · rw [addReturns_cons newline, quotedSpan_cons notBackslash, if_neg notQuote,
        inductionHypothesis]
      rcases quotedSpan quote rest with _ | ⟨content, after⟩
      · rfl
      · simp [spanWithReturns, addReturns_cons newline]

theorem bracedSpan_of_unclosed {depth : Nat} {quote : Char} {text : List Char}
    (opens : isQuote quote = true) (unclosed : quotedSpan quote text = none) :
    bracedSpan depth (quote :: text) = none := by
  obtain ⟨notOpening, notClosing⟩ := ne_brace_of_isQuote opens
  rw [bracedSpan.eq_def]
  simp only [if_neg notOpening, if_neg notClosing, if_pos opens]
  split
  · rfl
  · rename_i found
    rw [unclosed] at found
    cases found

/-- Between braces a newline counts for nothing, whether or not a carriage return stands before
it. -/
theorem bracedSpan_addReturns (depth : Nat) (text : List Char) :
    bracedSpan depth (addReturns text) = (bracedSpan depth text).map spanWithReturns := by
  fun_induction bracedSpan depth text with
  | case1 depth => rw [addReturns_nil, bracedSpan, Option.map_none]
  | case2 depth rest inductionHypothesis =>
    rw [addReturns_cons (by decide), bracedSpan_opening, inductionHypothesis]
    cases bracedSpan (depth + 1) rest <;> rfl
  | case3 rest =>
    rw [addReturns_cons (by decide), bracedSpan, if_neg (by decide), if_pos rfl]
    rfl
  | case4 rest depth _ inductionHypothesis =>
    rw [addReturns_cons (by decide), bracedSpan_closing, inductionHypothesis]
    cases bracedSpan depth rest <;> rfl
  | case5 depth quote rest _ _ opens unclosed =>
    have stillUnclosed : quotedSpan quote (addReturns rest) = none := by
      rw [quotedSpan_addReturns opens, unclosed, Option.map_none]
    rw [addReturns_cons (ne_newline_of_isQuote opens), bracedSpan_of_unclosed opens stillUnclosed,
      Option.map_none]
  | case6 depth quote rest _ _ opens quoted later found inductionHypothesis =>
    have notNewline := ne_newline_of_isQuote opens
    have stillFound : quotedSpan quote (addReturns rest) =
        some (addReturns quoted, addReturns later) := by
      rw [quotedSpan_addReturns opens, found]
      rfl
    rw [addReturns_cons notNewline, bracedSpan_of_quotedSpan opens stillFound,
      inductionHypothesis]
    rcases bracedSpan depth later with _ | ⟨content, after⟩
    · rfl
    · simp [spanWithReturns, addReturns_cons notNewline, addReturns_append]
  | case7 depth character rest notOpening notClosing notQuote inductionHypothesis =>
    by_cases newline : character = '\n'
    · rw [newline, addReturns_newline, bracedSpan_other (by decide) (by decide) (by decide),
        bracedSpan_other (by decide) (by decide) (by decide), inductionHypothesis]
      cases bracedSpan depth rest <;> rfl
    · rw [addReturns_cons newline, bracedSpan_other notOpening notClosing notQuote,
        inductionHypothesis]
      rcases bracedSpan depth rest with _ | ⟨content, after⟩
      · rfl
      · simp [spanWithReturns, addReturns_cons newline]

theorem line_addReturns (text : List Char) :
    Piece.line (addReturns text) =
      ((Piece.line text).1 ++ (if (Piece.line text).2.1 = [] then [] else ['\r']),
        (Piece.line text).2.1, addReturns (Piece.line text).2.2) := by
  induction text with
  | nil => rfl
  | cons character rest inductionHypothesis =>
    by_cases newline : character = '\n'
    · rw [newline, addReturns_newline, line_newline, line_cons (by decide), line_newline]
      rfl
    · rw [addReturns_cons newline, line_cons newline, line_cons newline, inductionHypothesis]
      rfl

theorem interrupts_addReturns_iff {text : List Char} (noReturn : '\r' ∉ text) :
    Interrupts (addReturns text) ↔ Interrupts text := by
  constructor
  · intro interrupts
    generalize same : addReturns text = whole at interrupts
    cases interrupts with
    | newline =>
      obtain ⟨later, rfl, -⟩ := exists_of_addReturns_eq_cons (by decide) same
      exact .newline
    | carriageReturn =>
      -- The text itself has no carriage return, so this one stands before a newline of the text.
      cases text with
      | nil => cases same
      | cons first rest =>
        by_cases newline : first = '\n'
        · exact newline ▸ .newline
        · rw [addReturns_cons newline] at same
          exact absurd ((List.cons.inj same).1 ▸ List.mem_cons_self) noReturn
    | expression member =>
      rcases mem_expressionSigils_iff.mp member with ⟨rfl, _⟩ | ⟨rfl, _⟩ | ⟨rfl, _⟩ | ⟨rfl, _⟩
      · obtain ⟨later, rfl, -⟩ := exists_of_addReturns_eq_cons (by decide) same
        exact .expression member
      all_goals
        obtain ⟨rest, rfl, restSame⟩ := exists_of_addReturns_eq_cons (by decide) same
        obtain ⟨later, rfl, -⟩ := exists_of_addReturns_eq_cons (by decide) restSame.symm
        exact .expression member
    | @string sigil quote _ _ member opens =>
      have sigilNotReturn : sigil ≠ '\r' := by
        rcases mem_stringSigils_iff.mp member with ⟨rfl, _⟩ | ⟨rfl, _⟩ <;> decide
      obtain ⟨rest, rfl, restSame⟩ := exists_of_addReturns_eq_cons sigilNotReturn same
      obtain ⟨later, rfl, -⟩ :=
        exists_of_addReturns_eq_cons (ne_return_of_isQuote opens) restSame.symm
      exact .string member opens
  · intro interrupts
    cases interrupts with
    | newline => exact .carriageReturn
    | carriageReturn => exact absurd List.mem_cons_self noReturn
    | @expression sigil rest kind member =>
      have noNewline := newline_not_mem_of_mem_expressionSigils member
      rw [addReturns_append, addReturns_of_not_mem noNewline, addReturns_cons (by decide)]
      exact .expression member
    | @string sigil quote rest kind member opens =>
      rw [addReturns_cons (ne_newline_of_mem_stringSigils member),
        addReturns_cons (ne_newline_of_isQuote opens)]
      exact .string member opens

theorem beginsMark_of_addReturns {text : List Char} (begins : BeginsMark (addReturns text)) :
    BeginsMark text := by
  have front {mark : Char} (notReturn : mark ≠ '\r') (starts : [mark, mark] <+: addReturns text) :
      [mark, mark] <+: text := by
    obtain ⟨after, same⟩ := starts
    obtain ⟨rest, rfl, restSame⟩ := exists_of_addReturns_eq_cons notReturn same.symm
    obtain ⟨later, rfl, -⟩ := exists_of_addReturns_eq_cons notReturn restSame.symm
    exact ⟨later, rfl⟩
  exact begins.imp (front (by decide)) (front (by decide))

theorem plainSpan_addReturns {text : List Char} (noReturn : '\r' ∉ text) :
    plainSpan (addReturns text) = ((plainSpan text).1, addReturns (plainSpan text).2) := by
  induction text with
  | nil => rfl
  | cons character rest inductionHypothesis =>
    have same := interrupts_addReturns_iff noReturn
    by_cases interrupts : Interrupts (character :: rest)
    · rw [plainSpan_of_interrupts interrupts, plainSpan_of_interrupts (same.mpr interrupts)]
    · have notNewline : character ≠ '\n' := by
        rintro rfl
        exact interrupts .newline
      rw [addReturns_cons notNewline] at same ⊢
      rw [plainSpan_cons interrupts, plainSpan_cons (mt same.mp interrupts),
        inductionHypothesis (List.not_mem_of_not_mem_cons noReturn)]

/-! ### Pieces -/

namespace Piece

theorem addReturns_line {content ending after : List Char} (line : IsLine content ending after) :
    addReturns (content ++ ending) = content ++ (if ending = [] then [] else ['\r']) ++ ending := by
  rw [addReturns_append, addReturns_of_not_mem line.noNewline, List.append_assoc]
  rcases line.ends with rfl | ⟨rfl, -⟩ <;> rfl

theorem trim_line (content ending : List Char) :
    trim (content ++ (if ending = [] then [] else ['\r'])) = trim content := by
  split
  · rw [List.append_nil]
  · exact trim_concat content (by decide)

theorem sceneDeclaration_addReturns (text : List Char) :
    sceneDeclaration (addReturns text) = (sceneDeclaration text).withReturns := by
  have whole := addReturns_line (isLine_line text)
  unfold sceneDeclaration withReturns
  dsimp only
  rw [line_addReturns, trim_line, addReturns_cons (by decide), addReturns_cons (by decide), whole]
  congr 1
  split <;> rfl

theorem beatSeparator_addReturns (text : List Char) :
    beatSeparator (addReturns text) = (beatSeparator text).withReturns := by
  have whole := addReturns_line (isLine_line text)
  unfold beatSeparator withReturns
  dsimp only
  rw [line_addReturns, addReturns_cons (by decide), addReturns_cons (by decide), whole]
  rfl

theorem string_addReturns {sigil quote : Char} {kind : TokenKind}
    (member : (sigil, kind) ∈ stringSigils) (opens : isQuote quote = true) (text : List Char) :
    string kind sigil quote (addReturns text) = (string kind sigil quote text).withReturns := by
  have sigilNotNewline := ne_newline_of_mem_stringSigils member
  have quoteNotNewline := ne_newline_of_isQuote opens
  have content (text : List Char) : kind.textWithReturns text = addReturns text := by
    rcases mem_stringSigils_iff.mp member with ⟨_, rfl⟩ | ⟨_, rfl⟩ <;> rfl
  unfold string withReturns
  rw [quotedSpan_addReturns opens]
  rcases quotedSpan quote text with _ | ⟨inside, after⟩
  · simp [addReturns_cons sigilNotNewline, addReturns_cons quoteNotNewline, Except.map,
      addReturns_nil]
  · simp [spanWithReturns, addReturns_cons sigilNotNewline, addReturns_cons quoteNotNewline,
      addReturns_append, Except.map, addReturns_nil, content]

theorem expression_addReturns {sigil : List Char} {kind : TokenKind}
    (member : (sigil, kind) ∈ expressionSigils) (text : List Char) :
    expression kind sigil (addReturns text) = (expression kind sigil text).withReturns := by
  have sigilNoNewline := newline_not_mem_of_mem_expressionSigils member
  have content (text : List Char) : kind.textWithReturns text = addReturns text := by
    rcases mem_expressionSigils_iff.mp member with
      ⟨_, rfl⟩ | ⟨_, rfl⟩ | ⟨_, rfl⟩ | ⟨_, rfl⟩ <;> rfl
  unfold expression withReturns
  rw [bracedSpan_addReturns]
  rcases bracedSpan 0 text with _ | ⟨inside, after⟩
  · simp [addReturns_append, addReturns_of_not_mem sigilNoNewline, addReturns_cons, Except.map,
      addReturns_nil]
  · simp [spanWithReturns, addReturns_append, addReturns_of_not_mem sigilNoNewline,
      addReturns_cons, addReturns_nil, Except.map, content, trim_addReturns]

theorem plain_addReturns {character : Char} {text : List Char} (noReturn : '\r' ∉ text)
    (uninterrupted : ¬ Interrupts (character :: text)) :
    plain character (addReturns text) = (plain character text).withReturns := by
  have noNewline : '\n' ∉ character :: (plainSpan text).1 := by
    refine newline_not_mem_of_uninterrupted (uninterrupted_cons_iff.mpr
      ⟨?_, (uninterrupted_plainSpan text).1⟩)
    rw [plainSpan_append]
    exact uninterrupted
  unfold plain withReturns
  dsimp only
  rw [plainSpan_addReturns noReturn, addReturns_of_not_mem noNewline]
  rfl

/-- A piece is the same in a text with carriage returns, but for the carriage returns in it. -/
theorem exists_first_addReturns {atLineStart : Bool} {before rest : List Char} {character : Char}
    (starts : atLineStart = true ↔ AtLineStart before) (noReturn : '\r' ∉ character :: rest) :
    ∃ next later, addReturns (character :: rest) = next :: later ∧
      first atLineStart next later = (first atLineStart character rest).withReturns := by
  have front : Front before (character :: rest) (first atLineStart character rest) :=
    front_first starts
  generalize whole_eq : character :: rest = whole, first atLineStart character rest = piece at front
  cases front with
  | sceneDeclaration line =>
    refine ⟨':', ':' :: addReturns _, rfl, ?_⟩
    rw [starts.mpr line, ← sceneDeclaration_addReturns]
    rfl
  | beatSeparator line =>
    refine ⟨';', ';' :: addReturns _, rfl, ?_⟩
    rw [starts.mpr line, ← beatSeparator_addReturns]
    rfl
  | newline => exact ⟨'\r', '\n' :: addReturns _, rfl, first_carriageReturn _⟩
  | carriageReturn =>
    cases whole_eq
    exact absurd List.mem_cons_self noReturn
  | @expression sigil after kind member =>
    have sigilNoNewline := newline_not_mem_of_mem_expressionSigils member
    obtain ⟨next, later, shape⟩ : ∃ next later, sigil ++ '{' :: addReturns after = next :: later :=
      List.exists_cons_of_ne_nil (List.append_ne_nil_of_right_ne_nil _ (List.cons_ne_nil _ _))
    refine ⟨next, later, ?_, ?_⟩
    · rw [addReturns_append, addReturns_of_not_mem sigilNoNewline, addReturns_cons (by decide),
        shape]
    · rw [first_expression member shape.symm, expression_addReturns member]
  | @string sigil quote after kind member opens =>
    refine ⟨sigil, quote :: addReturns after, ?_, ?_⟩
    · rw [addReturns_cons (ne_newline_of_mem_stringSigils member),
        addReturns_cons (ne_newline_of_isQuote opens)]
    · rw [first_string member opens, string_addReturns member opens]
  | @plain character rest noMark uninterrupted =>
    have notNewline : character ≠ '\n' := by
      rintro rfl
      exact uninterrupted .newline
    rw [whole_eq] at noReturn
    have stillNoMark (line : atLineStart = true) : ¬ BeginsMark (character :: addReturns rest) := by
      rw [← addReturns_cons notNewline]
      exact mt beginsMark_of_addReturns (noMark (starts.mp line))
    have stillUninterrupted : ¬ Interrupts (character :: addReturns rest) := by
      rw [← addReturns_cons notNewline]
      exact mt (interrupts_addReturns_iff noReturn).mp uninterrupted
    refine ⟨character, addReturns rest, addReturns_cons notNewline _, ?_⟩
    rw [first_plain stillNoMark stillUninterrupted,
      plain_addReturns (List.not_mem_of_not_mem_cons noReturn) uninterrupted]

end Piece

/-! ### Tokens -/

/-- From a place in the text with carriage returns the same tokens are found at the same positions,
or the same mistake. -/
theorem Place.tokens_withReturns {place : Place} {before : List Char}
    (behind : place.Behind before) (noReturn : '\r' ∉ place.rest) :
    place.withReturns.tokens = place.tokens.map (List.map Token.withReturns) := by
  rcases more : place.rest with _ | ⟨character, rest⟩
  · have same : place.withReturns.rest = [] := congrArg addReturns more
    rw [tokens_of_nil more, tokens_of_nil same]
    rfl
  · rw [more] at noReturn
    obtain ⟨next, later, whole, first⟩ :=
      Piece.exists_first_addReturns behind.atLineStart noReturn
    have same : place.withReturns.rest = next :: later := (congrArg addReturns more).trans whole
    have atLineStart : place.withReturns.atLineStart = place.atLineStart := rfl
    rw [tokens_of_cons more, tokens_of_cons same, atLineStart, first]
    have shorter : (place.behind (Piece.first place.atLineStart character rest)).rest.length <
        place.rest.length := more ▸ Piece.length_rest_first place.atLineStart character rest
    have taken := Piece.first_append place.atLineStart character rest
    have further := behind.further (Piece.first place.atLineStart character rest)
      (Piece.first_taken_ne_nil _ _ _)
    have othersNoReturn : '\r' ∉ (Piece.first place.atLineStart character rest).rest :=
      fun member => noReturn (taken ▸ List.mem_append_right _ member)
    have others := tokens_withReturns further othersNoReturn
    generalize Piece.first place.atLineStart character rest = piece at others ⊢
    have moved : place.withReturns.behind piece.withReturns = (place.behind piece).withReturns := by
      show Place.mk _ (place.position.afterAll (addReturns piece.taken))
        ((addReturns piece.taken).getLast? == _) = _
      rw [Position.afterAll_addReturns, getLast?_addReturns]
      rfl
    rw [moved, others]
    obtain ⟨finding, _, _⟩ := piece
    rcases finding with fault | ⟨kind, text⟩
    · rfl
    · have text_eq : Token.withReturns ⟨kind, .ofList text, place.position⟩ =
          ⟨kind, .ofList (kind.textWithReturns text), place.position⟩ := by
        rw [Token.withReturns, String.toList_ofList]
      dsimp only [Piece.withReturns, Except.map]
      cases (place.behind _).tokens with
      | error mistake => rfl
      | ok tokens => exact congrArg (fun token => Except.ok (token :: _)) text_eq.symm
termination_by place.rest.length

/-- A text with carriage returns has the same tokens at the same positions, or the same mistake. -/
theorem Token.scan_addReturns {source : String} (noReturn : '\r' ∉ source.toList) :
    scan (.ofList (addReturns source.toList)) = (scan source).map (List.map withReturns) := by
  unfold scan
  rw [String.toList_ofList]
  exact Place.tokens_withReturns (Place.behind_start source.toList) noReturn

/-! ### Lexemes -/

namespace LexemeCut

/-- One cut is off a text, and another one off the text with carriage returns. Only quotations go
over line endings. -/
structure Returned (cut other : LexemeCut) : Prop where
  kind : other.kind = cut.kind
  text : other.text = addReturns cut.text
  rest : other.rest = addReturns cut.rest
  within : cut.kind ≠ .string → cut.kind ≠ .openString → '\n' ∉ cut.text

variable {character : Char}

theorem returned_of_no_newline {kind : LexemeKind} {width width' : Nat} {text rest : List Char}
    (noNewline : '\n' ∉ text) :
    Returned ⟨kind, text, width, rest⟩ ⟨kind, text, width', addReturns rest⟩ :=
  ⟨rfl, (addReturns_of_not_mem noNewline).symm, rfl, fun _ _ => noNewline⟩

theorem returned_single (kind : LexemeKind) (notNewline : character ≠ '\n') (rest : List Char) :
    Returned (single kind character rest) (single kind character (addReturns rest)) :=
  returned_of_no_newline (mt List.mem_singleton.mp notNewline.symm)

theorem returned_pair {second : Char} (double alone : LexemeKind) (notNewline : character ≠ '\n')
    (secondNotNewline : second ≠ '\n') (secondNotReturn : second ≠ '\r') (rest : List Char) :
    Returned (pair second double alone character rest)
      (pair second double alone character (addReturns rest)) := by
  cases rest with
  | nil => exact returned_single alone notNewline []
  | cons next after =>
    unfold pair
    dsimp only
    by_cases newline : next = '\n'
    · rw [newline, addReturns_newline]
      dsimp only
      rw [if_neg secondNotNewline.symm, if_neg secondNotReturn.symm]
      exact returned_single alone notNewline ('\n' :: after)
    · rw [addReturns_cons newline]
      dsimp only
      split
      · have noNewline : '\n' ∉ [character, next] := by
          simp [notNewline.symm, Ne.symm newline]
        exact returned_of_no_newline noNewline
      · rw [← addReturns_cons newline]
        exact returned_single alone notNewline (next :: after)

/-- Where characters of some kind end does not change, if line endings are not of that kind. -/
theorem takeWhile_addReturns {test : Char → Bool} (stops : ¬ test '\n' = true)
    (stopsAtReturn : ¬ test '\r' = true) (text : List Char) :
    (addReturns text).takeWhile test = text.takeWhile test ∧
      (addReturns text).dropWhile test = addReturns (text.dropWhile test) := by
  induction text with
  | nil => exact ⟨rfl, rfl⟩
  | cons character rest inductionHypothesis =>
    by_cases newline : character = '\n'
    · rw [newline, addReturns_newline, List.takeWhile_cons_of_neg stopsAtReturn,
        List.dropWhile_cons_of_neg stopsAtReturn, List.takeWhile_cons_of_neg stops,
        List.dropWhile_cons_of_neg stops]
      exact ⟨rfl, rfl⟩
    · rw [addReturns_cons newline]
      by_cases holds : test character = true
      · rw [List.takeWhile_cons_of_pos holds, List.takeWhile_cons_of_pos holds,
          List.dropWhile_cons_of_pos holds, List.dropWhile_cons_of_pos holds]
        exact inductionHypothesis.imp_left (congrArg (character :: ·))
      · rw [List.takeWhile_cons_of_neg holds, List.takeWhile_cons_of_neg holds,
          List.dropWhile_cons_of_neg holds, List.dropWhile_cons_of_neg holds,
          addReturns_cons newline]
        exact ⟨rfl, rfl⟩

theorem returned_name (notNewline : character ≠ '\n') (rest : List Char) :
    Returned (name character rest) (name character (addReturns rest)) := by
  have stops : ¬ continuesName '\n' = true := by decide
  obtain ⟨taken, dropped⟩ := takeWhile_addReturns stops (by decide) rest
  unfold name
  rw [taken, dropped]
  exact returned_of_no_newline (List.not_mem_cons_of_ne_of_not_mem notNewline.symm
    fun member => stops (List.mem_takeWhile_imp member))

theorem returned_number (notNewline : character ≠ '\n') (rest : List Char) :
    Returned (number character rest) (number character (addReturns rest)) := by
  have stops : ¬ isDigitOrGap '\n' = true := by decide
  have stopsAtReturn : ¬ isDigitOrGap '\r' = true := by decide
  have noNewline (text : List Char) : '\n' ∉ text.takeWhile isDigitOrGap :=
    fun member => stops (List.mem_takeWhile_imp member)
  have digits := List.not_mem_cons_of_ne_of_not_mem notNewline.symm (noNewline rest)
  obtain ⟨taken, dropped⟩ := takeWhile_addReturns stops stopsAtReturn rest
  by_cases fraction : ∃ digit after, rest.dropWhile isDigitOrGap = '.' :: digit :: after ∧
      digit.isDigit = true
  · obtain ⟨digit, after, found, isDigit⟩ := fraction
    have digitNotNewline : digit ≠ '\n' := by
      rintro rfl
      exact absurd isDigit (by decide)
    rw [found, addReturns_cons (by decide), addReturns_cons digitNotNewline] at dropped
    obtain ⟨takenAfter, droppedAfter⟩ := takeWhile_addReturns stops stopsAtReturn after
    rw [number_of_fraction character found isDigit, number_of_fraction character dropped isDigit,
      taken, takenAfter, droppedAfter]
    have noNewlines : '\n' ∉ character :: rest.takeWhile isDigitOrGap ++
        '.' :: digit :: after.takeWhile isDigitOrGap := by
      simp [notNewline.symm, noNewline rest, noNewline after, digitNotNewline.symm]
    exact returned_of_no_newline noNewlines
  · have whole : ∀ digit after, rest.dropWhile isDigitOrGap = '.' :: digit :: after →
        ¬ digit.isDigit = true :=
      fun digit after found isDigit => fraction ⟨digit, after, found, isDigit⟩
    have stillWhole : ∀ digit after,
        (addReturns rest).dropWhile isDigitOrGap = '.' :: digit :: after →
          ¬ digit.isDigit = true := by
      intro digit after found isDigit
      have notReturn : digit ≠ '\r' := by
        rintro rfl
        exact absurd isDigit (by decide)
      obtain ⟨later, point, laterSame⟩ :=
        exists_of_addReturns_eq_cons (by decide) (dropped.symm.trans found)
      obtain ⟨last, rfl, -⟩ := exists_of_addReturns_eq_cons notReturn laterSame.symm
      exact whole digit last point isDigit
    rw [number_of_no_fraction character whole, number_of_no_fraction character stillWhole, taken,
      dropped]
    exact returned_of_no_newline digits

theorem returned_quoted (opens : isQuote character = true) (rest : List Char) :
    Returned (quoted character rest) (quoted character (addReturns rest)) := by
  unfold quoted
  rw [quotedSpan_addReturns opens]
  cases quotedSpan character rest with
  | none => exact ⟨rfl, rfl, rfl, fun _ closed => absurd rfl closed⟩
  | some span => exact ⟨rfl, rfl, rfl, fun notString => absurd rfl notString⟩

/-- A lexeme is the same in a text with carriage returns, but for the carriage returns in it. -/
theorem returned_first (notNewline : character ≠ '\n') (rest : List Char) :
    Returned (first character rest) (first character (addReturns rest)) := by
  unfold first
  split
  all_goals first
    | exact returned_single _ notNewline rest
    | exact returned_pair _ _ notNewline (by decide) (by decide) rest
    | skip
  by_cases opens : isQuote character = true
  · rw [if_pos opens, if_pos opens]
    exact returned_quoted opens rest
  · rw [if_neg opens, if_neg opens]
    split
    · exact returned_number notNewline rest
    · split
      · exact returned_name notNewline rest
      · exact returned_single _ notNewline rest

end LexemeCut

namespace Lexeme

theorem scanFrom_of_isBlank {character : Char} (blank : isBlank character = true) (column : Nat)
    (rest : List Char) : scanFrom column (character :: rest) = scanFrom (column + 1) rest := by
  rw [scanFrom, if_pos blank]

/-- One lexeme is of a text, and another one of the text with carriage returns. Only quotations go
over line endings. -/
structure Returned (lexeme other : Lexeme) : Prop where
  kind : other.kind = lexeme.kind
  text : other.text.toList = addReturns lexeme.text.toList
  within : lexeme.kind ≠ .string → lexeme.kind ≠ .openString → '\n' ∉ lexeme.text.toList

theorem returned_scanFrom (column column' : Nat) (text : List Char) :
    List.Forall₂ Returned (scanFrom column text) (scanFrom column' (addReturns text)) := by
  fun_induction scanFrom column text generalizing column' with
  | case1 column =>
    rw [addReturns_nil, scanFrom]
    exact .cons ⟨rfl, rfl, fun _ _ => List.not_mem_nil⟩ .nil
  | case2 column character rest blank inductionHypothesis =>
    by_cases newline : character = '\n'
    · rw [newline, addReturns_newline, scanFrom_of_isBlank (by decide),
        scanFrom_of_isBlank (by decide)]
      exact inductionHypothesis _
    · rw [addReturns_cons newline, scanFrom_of_isBlank blank]
      exact inductionHypothesis _
  | case3 column character rest notBlank cut inductionHypothesis =>
    have notNewline : character ≠ '\n' := by
      rintro rfl
      exact notBlank (by decide)
    obtain ⟨kind, text, further, within⟩ := LexemeCut.returned_first notNewline rest
    rw [addReturns_cons notNewline, scanFrom, if_neg notBlank]
    dsimp only
    rw [further]
    refine .cons ⟨kind, ?_, fun notString closed => ?_⟩ (inductionHypothesis _)
    · rw [String.toList_ofList, String.toList_ofList, text]
    · rw [String.toList_ofList]
      exact within notString closed

/-- Carriage returns change no lexemes but for their columns, if no string goes over a line. -/
theorem alike_scan_addReturns {source : String}
    (within : ∀ lexeme ∈ scan source, lexeme.kind = .string → '\n' ∉ lexeme.text.toList) :
    List.Forall₂ Alike (scan source) (scan (.ofList (addReturns source.toList))) := by
  have returned : List.Forall₂ Returned (scan source)
      (scan (.ofList (addReturns source.toList))) := by
    unfold scan
    rw [String.toList_ofList]
    exact returned_scanFrom 1 1 source.toList
  generalize scan source = lexemes, scan (.ofList (addReturns source.toList)) = others
    at within returned
  induction returned with
  | nil => exact .nil
  | @cons lexeme other _ _ pair _ inductionHypothesis =>
    obtain ⟨here, further⟩ := List.forall_mem_cons.mp within
    refine .cons ⟨pair.kind.symm, fun closed => ?_⟩ (inductionHypothesis further)
    have noNewline : '\n' ∉ lexeme.text.toList := by
      by_cases isString : lexeme.kind = .string
      · exact here isString
      · exact pair.within isString closed
    have text := pair.text
    rw [addReturns_of_not_mem noNewline] at text
    exact (String.toList_inj.mp text).symm

end Lexeme

/-! ### Programmes -/

/-- No string of a token goes over a line: the token is not such a string, and has none in it if it
is an expression. -/
structure Token.OneLineStrings (token : Token) : Prop where
  quoted : token.kind.isString = true → '\n' ∉ token.text.toList
  within : token.kind.isExpression = true → ∀ lexeme ∈ Lexeme.scan token.text,
    lexeme.kind = .string → '\n' ∉ lexeme.text.toList

theorem Token.OneLineStrings.of_neither {token : Token} (notString : token.kind.isString = false)
    (notExpression : token.kind.isExpression = false) : token.OneLineStrings where
  quoted isString := (Bool.false_ne_true (notString.symm.trans isString)).elim
  within isExpression := (Bool.false_ne_true (notExpression.symm.trans isExpression)).elim

/-- Two nodes are played as the same node, or none of them can be played. -/
structure PlacedNode.Alike (first second : PlacedNode) : Prop where
  newline : first.isNewline = second.isNewline
  resolves : ∀ node, first.node.Resolves node ↔ second.node.Resolves node

theorem forall₂_iff_of_forall₂ {First Second Third : Type} {related : First → Second → Prop}
    {left : First → Third → Prop} {right : Second → Third → Prop} {firsts : List First}
    {seconds : List Second} {thirds : List Third}
    (agree : ∀ first second, related first second → ∀ third, left first third ↔ right second third)
    (each : List.Forall₂ related firsts seconds) :
    List.Forall₂ left firsts thirds ↔ List.Forall₂ right seconds thirds := by
  induction each generalizing thirds with
  | nil => rw [List.forall₂_nil_left_iff, List.forall₂_nil_left_iff]
  | cons pair _ inductionHypothesis =>
    simp only [List.forall₂_cons_left_iff, agree _ _ pair, inductionHypothesis]

theorem SceneDraft.Corresponds.resolves_iff {first second : SceneDraft}
    (scene : first.Corresponds PlacedNode.Alike Eq second) (played : Scene) :
    first.Resolves played ↔ second.Resolves played := by
  have beats : List.Forall₂ (List.Forall₂ fun placed node => placed.node.Resolves node)
        first.beats played.beats ↔
      List.Forall₂ (List.Forall₂ fun placed node => placed.node.Resolves node)
        second.beats played.beats :=
    forall₂_iff_of_forall₂ (fun _ _ nodes _ =>
      forall₂_iff_of_forall₂ (fun _ _ alike => alike.resolves) nodes) scene.beats
  constructor
  · intro resolves
    exact ⟨resolves.name.trans scene.name, beats.mp resolves.beats⟩
  · intro resolves
    exact ⟨resolves.name.trans scene.name.symm, beats.mpr resolves.beats⟩

theorem Token.withReturns_of_not_isExpression {token : Token} (oneLine : token.OneLineStrings)
    (notExpression : token.kind.isExpression = false) : token.withReturns = token := by
  have same : token.kind.textWithReturns token.text.toList = token.text.toList := by
    unfold TokenKind.textWithReturns
    rw [notExpression, Bool.or_false]
    split
    · rename_i isString
      exact addReturns_of_not_mem (oneLine.quoted isString)
    · rfl
  rw [withReturns, same, String.ofList_toList]

theorem Node.resolves_expr_iff {first second : Draft}
    (agree : ∀ expression, first.validate = .ok expression ↔ second.validate = .ok expression)
    (node : Node Expr) :
    ((Node.inlineExpr first).Resolves node ↔ (Node.inlineExpr second).Resolves node) ∧
      ((Node.deferredExpr first).Resolves node ↔ (Node.deferredExpr second).Resolves node) ∧
      ((Node.instantExpr first).Resolves node ↔ (Node.instantExpr second).Resolves node) ∧
      ((Node.typewriterExpr first).Resolves node ↔
        (Node.typewriterExpr second).Resolves node) := by
  refine ⟨⟨?_, ?_⟩, ⟨?_, ?_⟩, ⟨?_, ?_⟩, ⟨?_, ?_⟩⟩ <;> intro resolves <;> cases resolves <;>
    rename_i valid <;> constructor
  all_goals first
    | exact (agree _).mp valid
    | exact (agree _).mpr valid

/-- A token stands for the same with carriage returns, if its strings are on one line. -/
theorem Token.corresponds_withReturns {token : Token} (oneLine : token.OneLineStrings) :
    token.Corresponds PlacedNode.Alike Eq token.withReturns := by
  cases isExpression : token.kind.isExpression with
  | false =>
    rw [withReturns_of_not_isExpression oneLine isExpression]
    refine ⟨rfl, fun _ => rfl, rfl, ?_⟩
    cases PlacedNode.ofToken? token with
    | none => exact .none
    | some placed => exact .some ⟨rfl, fun _ => Iff.rfl⟩
  | true =>
    have alike := Lexeme.alike_scan_addReturns (oneLine.within isExpression)
    have resolves := Node.resolves_expr_iff fun _ => Draft.validate_read_iff_of_alike alike
    obtain ⟨kind, text, position⟩ := token
    cases kind <;> cases isExpression
    · exact ⟨rfl, nofun, rfl, .some ⟨rfl, fun node => (resolves node).1⟩⟩
    · exact ⟨rfl, nofun, rfl, .some ⟨rfl, fun node => (resolves node).2.1⟩⟩
    · exact ⟨rfl, nofun, rfl, .some ⟨rfl, fun node => (resolves node).2.2.1⟩⟩
    · exact ⟨rfl, nofun, rfl, .some ⟨rfl, fun node => (resolves node).2.2.2⟩⟩

/-- A text is a programme if the main scene is one of its scenes and they have counterparts, and
then it is these. -/
theorem compile_eq_ok_iff {source : String} {programme : Programme} :
    compile source = .ok programme ↔
      ∃ tokens, Token.scan source = .ok tokens ∧
        mainScene ∈ (Script.scenesOf tokens).map (·.name) ∧
        List.Forall₂ SceneDraft.Resolves (Script.scenesOf tokens) programme.scenes := by
  unfold compile Script.read
  rcases Token.scan source with mistake | tokens
  · exact iff_of_false nofun fun ⟨_, same, _⟩ => nomatch same
  · simp only [Except.ok.injEq, exists_eq_left', Script.ofTokens_eq_scenesOf]
    by_cases hasMain : mainScene ∈ (Script.scenesOf tokens).map (·.name)
    · have scenes : Script.compile ⟨Script.scenesOf tokens⟩ = .ok programme ↔
          List.Forall₂ SceneDraft.Resolves (Script.scenesOf tokens) programme.scenes :=
        Script.compile_eq_ok_iff
      simp only [hasMain, if_true, true_and, ← scenes]
      cases Script.compile ⟨Script.scenesOf tokens⟩ with
      | error report => exact iff_of_false nofun nofun
      | ok other => exact ⟨fun same => by cases same; rfl, fun same => by cases same; rfl⟩
    · simp only [hasMain, if_false, false_and]
      exact iff_of_false nofun id

/-- Carriage returns before its newlines do not change what a text is. It has the same tokens at the
same positions, or the same first mistake, and only the texts of strings and expressions have the
carriage returns. If none of its strings goes over a line, it is the same programme, or none both
times. -/
theorem unchanged_by_returns {source : String} (noReturn : '\r' ∉ source.toList) :
    Token.scan (.ofList (addReturns source.toList)) =
        (Token.scan source).map (List.map Token.withReturns) ∧
      ((∀ tokens, Token.scan source = .ok tokens → ∀ token ∈ tokens, token.OneLineStrings) →
        ∀ programme, compile source = .ok programme ↔
          compile (.ofList (addReturns source.toList)) = .ok programme) := by
  have scanned := Token.scan_addReturns noReturn
  refine ⟨scanned, fun oneLine programme => ?_⟩
  rw [compile_eq_ok_iff, compile_eq_ok_iff, scanned]
  cases found : Token.scan source with
  | error mistake => simp only [Except.map, reduceCtorEq, false_and, exists_false]
  | ok tokens =>
    have corresponds : List.Forall₂ (Token.Corresponds PlacedNode.Alike Eq) tokens
        (tokens.map Token.withReturns) :=
      List.forall₂_map_right_iff.mpr (List.forall₂_same.mpr fun token member =>
        Token.corresponds_withReturns (oneLine tokens found token member))
    have scenes := Script.corresponds_scenesOf (fun _ _ alike => alike.newline) corresponds
    have names := Script.names_of_corresponds scenes
    have resolves : List.Forall₂ SceneDraft.Resolves (Script.scenesOf tokens) programme.scenes ↔
        List.Forall₂ SceneDraft.Resolves (Script.scenesOf (tokens.map Token.withReturns))
          programme.scenes :=
      forall₂_iff_of_forall₂ (fun _ _ scene => scene.resolves_iff) scenes
    simp only [Except.map, Except.ok.injEq, exists_eq_left', names, resolves]

set_option maxRecDepth 100000 in
/-- A quotation on one line, and an expression that goes over two lines and has a string. -/
theorem unchanged_by_returns_inside_braces : ∃ source programme,
    '\r' ∉ source.toList ∧
      (∀ tokens, Token.scan source = .ok tokens → ∀ token ∈ tokens, token.OneLineStrings) ∧
      Token.scan (.ofList (addReturns source.toList)) =
        .ok [⟨.sceneDeclaration, "main", ⟨1, 1⟩⟩, ⟨.instantString, "a", ⟨2, 1⟩⟩,
          ⟨.text, "\n", ⟨2, 5⟩⟩, ⟨.instantExpr, "b\r\n+ 'c'", ⟨3, 1⟩⟩, ⟨.finish, "", ⟨4, 7⟩⟩] ∧
      compile (.ofList (addReturns source.toList)) = .ok programme := by
  have noReturn : '\r' ∉ "::main\n#'a'\n#\x7bb\n+ 'c'\x7d".toList := by decide
  have scanned : Token.scan "::main\n#'a'\n#\x7bb\n+ 'c'\x7d" =
      .ok [⟨.sceneDeclaration, "main", ⟨1, 1⟩⟩, ⟨.instantString, "a", ⟨2, 1⟩⟩,
        ⟨.text, "\n", ⟨2, 5⟩⟩, ⟨.instantExpr, "b\n+ 'c'", ⟨3, 1⟩⟩, ⟨.finish, "", ⟨4, 7⟩⟩] := by
    with_unfolding_all rfl
  have lexemes : Lexeme.scan "b\n+ 'c'" = [⟨.name, "b", 1⟩, ⟨.plus, "+", 3⟩, ⟨.string, "c", 5⟩,
      ⟨.finish, "", 8⟩] := by
    with_unfolding_all rfl
  have compiled : compile "::main\n#'a'\n#\x7bb\n+ 'c'\x7d" = .ok ⟨[⟨"main", [[
      .instantString "a", .text "\n",
      .instantExpr (.binary .add (.reference "b") (.literal (.string "c")))]]⟩]⟩ := by
    with_unfolding_all rfl
  have oneLine : ∀ tokens, Token.scan "::main\n#'a'\n#\x7bb\n+ 'c'\x7d" = .ok tokens →
      ∀ token ∈ tokens, token.OneLineStrings := by
    intro tokens same
    cases scanned.symm.trans same
    simp only [List.forall_mem_cons, List.not_mem_nil, false_imp_iff, implies_true, and_true]
    have instantString : Token.OneLineStrings ⟨.instantString, "a", ⟨2, 1⟩⟩ :=
      ⟨fun _ => by decide, fun isExpression => (Bool.false_ne_true isExpression).elim⟩
    have instantExpr : Token.OneLineStrings ⟨.instantExpr, "b\n+ 'c'", ⟨3, 1⟩⟩ :=
      ⟨fun isString => (Bool.false_ne_true isString).elim, fun _ => by rw [lexemes]; decide⟩
    exact ⟨.of_neither rfl rfl, instantString, .of_neither rfl rfl, instantExpr,
      .of_neither rfl rfl⟩
  obtain ⟨tokens, programmes⟩ := unchanged_by_returns noReturn
  rw [scanned] at tokens
  exact ⟨_, _, noReturn, oneLine, tokens, (programmes oneLine _).mp compiled⟩

end Playscript
