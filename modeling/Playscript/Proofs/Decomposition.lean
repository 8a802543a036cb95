/-
This file says which pieces a script is made up of, apart from how they are cut off. Every piece
stands between what comes before it, which decides whether a line starts there, and what comes after
it, which decides where it ends.

The kinds of pieces exclude each other at any place, and each of them ends at one place only. So a
script has at most one decomposition, and the tokens of a script, if it has any, are those of its
decomposition.
-/

import Mathlib.Data.List.TakeWhile
import Playscript.Proofs.Quotations
import Playscript.Script.Token

namespace Playscript

/-! ### What a piece is -/

/-- What stands before the opening brace of an expression, and the kind of the expression. -/
def expressionSigils : List (List Char × TokenKind) :=
  [([], .inlineExpr), (['%'], .deferredExpr), (['#'], .instantExpr), (['@'], .typewriterExpr)]

/-- What stands before the opening quote of a string, and the kind of the string. -/
def stringSigils : List (Char × TokenKind) := [('#', .instantString), ('@', .typewriterString)]

/-- A text begins with what plain text does not hold: a newline, an expression or a string. -/
inductive Interrupts : List Char → Prop
  | newline {rest : List Char} : Interrupts ('\n' :: rest)
  | carriageReturn {rest : List Char} : Interrupts ('\r' :: '\n' :: rest)
  | expression {sigil rest : List Char} {kind : TokenKind}
      (member : (sigil, kind) ∈ expressionSigils) : Interrupts (sigil ++ '{' :: rest)
  | string {sigil quote : Char} {rest : List Char} {kind : TokenKind}
      (member : (sigil, kind) ∈ stringSigils) (opens : isQuote quote = true) :
      Interrupts (sigil :: quote :: rest)

/-- No newline, expression or string begins within a text, whatever it goes on with after it. -/
def Uninterrupted (text after : List Char) : Prop :=
  ∀ back, back <:+ text → back ≠ [] → ¬ Interrupts (back ++ after)

/-- Behind some text a line starts. -/
def AtLineStart (before : List Char) : Prop := before = [] ∨ ∃ front, before = front ++ ['\n']

/-- A text begins with what declares a scene or separates beats at the start of a line. -/
def BeginsMark (text : List Char) : Prop := [':', ':'] <+: text ∨ [';', ';'] <+: text

/-- The content of a line, and the newline that ends it unless the text ends there. -/
structure IsLine (content ending after : List Char) : Prop where
  noNewline : '\n' ∉ content
  ends : ending = ['\n'] ∨ ending = [] ∧ after = []

/-- A piece of a script between what comes before and after it, the kind of its token, and the text
of its token. -/
inductive IsPiece (before : List Char) :
    List Char → List Char → TokenKind → List Char → Prop
  /-- The line is the name of a scene. -/
  | sceneDeclaration {content ending after : List Char} (starts : AtLineStart before)
      (line : IsLine content ending after) (named : trim content ≠ []) :
      IsPiece before (':' :: ':' :: (content ++ ending)) after .sceneDeclaration (trim content)
  /-- What stands in the line does not matter. -/
  | beatSeparator {content ending after : List Char} (starts : AtLineStart before)
      (line : IsLine content ending after) :
      IsPiece before (';' :: ';' :: (content ++ ending)) after .beatSeparator [';', ';']
  | newline {after : List Char} : IsPiece before ['\n'] after .text ['\n']
  /-- A carriage return before a newline is left out. -/
  | carriageReturn {after : List Char} : IsPiece before ['\r', '\n'] after .text ['\n']
  /-- A string is closed by the first quote that no backslash takes along. -/
  | string {sigil quote : Char} {content after : List Char} {kind : TokenKind}
      (member : (sigil, kind) ∈ stringSigils) (opens : isQuote quote = true)
      (quoted : Quoted quote content) :
      IsPiece before (sigil :: quote :: (content ++ [quote])) after kind content
  /-- An expression is closed by the first brace that closes no brace inside, where quotations do
  not count. -/
  | expression {sigil content after : List Char} {kind : TokenKind} {quotations : List (List Char)}
      (member : (sigil, kind) ∈ expressionSigils) (enclosed : Enclosed content quotations) :
      IsPiece before (sigil ++ '{' :: (content ++ ['}'])) after kind (trim content)
  /-- Everything else is plain text, as far as it goes. -/
  | plain {content after : List Char} (notEmpty : content ≠ [])
      (noMark : AtLineStart before → ¬ BeginsMark (content ++ after))
      (uninterrupted : Uninterrupted content after) (ends : after = [] ∨ Interrupts after) :
      IsPiece before content after .text content

/-- Pieces that follow each other after some text, each with its token, whose position is that of
the first character of the piece. -/
def Consecutive (before : List Char) : List (List Char × Token) → Prop
  | [] => True
  | (piece, token) :: later =>
    IsPiece before piece (later.flatMap Prod.fst) token.kind token.text.toList ∧
      token.position = Position.start.afterAll before ∧ Consecutive (before ++ piece) later

/-! ### Sigils -/

theorem mem_expressionSigils_iff {sigil : List Char} {kind : TokenKind} :
    (sigil, kind) ∈ expressionSigils ↔
      (sigil = [] ∧ kind = .inlineExpr) ∨ (sigil = ['%'] ∧ kind = .deferredExpr) ∨
        (sigil = ['#'] ∧ kind = .instantExpr) ∨ (sigil = ['@'] ∧ kind = .typewriterExpr) := by
  simp only [expressionSigils, List.mem_cons, List.not_mem_nil, or_false, Prod.mk.injEq]

theorem mem_stringSigils_iff {sigil : Char} {kind : TokenKind} :
    (sigil, kind) ∈ stringSigils ↔
      (sigil = '#' ∧ kind = .instantString) ∨ (sigil = '@' ∧ kind = .typewriterString) := by
  simp only [stringSigils, List.mem_cons, List.not_mem_nil, or_false, Prod.mk.injEq]

namespace IsPiece

variable {before piece after text : List Char} {kind : TokenKind}

theorem ne_nil (isPiece : IsPiece before piece after kind text) : piece ≠ [] := by
  cases isPiece with
  | expression => exact List.append_ne_nil_of_right_ne_nil _ (List.cons_ne_nil _ _)
  | plain notEmpty => exact notEmpty
  | _ => exact List.cons_ne_nil _ _

theorem kind_ne_finish (isPiece : IsPiece before piece after kind text) : kind ≠ .finish := by
  cases isPiece with
  | string member =>
    rcases mem_stringSigils_iff.mp member with ⟨_, rfl⟩ | ⟨_, rfl⟩ <;> exact nofun
  | expression member =>
    rcases mem_expressionSigils_iff.mp member with ⟨_, rfl⟩ | ⟨_, rfl⟩ | ⟨_, rfl⟩ | ⟨_, rfl⟩ <;>
      exact nofun
  | _ => exact nofun

theorem of_mem_stringSigils {sigil : Char} (isPiece : IsPiece before piece after kind text)
    (member : (sigil, kind) ∈ stringSigils) :
    ∃ quote, piece = sigil :: quote :: (text ++ [quote]) ∧ Quoted quote text := by
  cases isPiece with
  | @string other quote _ _ _ otherMember _ quoted =>
    obtain rfl : other = sigil := by
      rcases mem_stringSigils_iff.mp member with ⟨rfl, rfl⟩ | ⟨rfl, rfl⟩ <;>
        simpa [mem_stringSigils_iff] using otherMember
    exact ⟨quote, rfl, quoted⟩
  | expression otherMember =>
    rcases mem_expressionSigils_iff.mp otherMember with
      ⟨_, rfl⟩ | ⟨_, rfl⟩ | ⟨_, rfl⟩ | ⟨_, rfl⟩ <;> simp [mem_stringSigils_iff] at member
  | _ => simp [mem_stringSigils_iff] at member

theorem of_mem_expressionSigils {sigil : List Char}
    (isPiece : IsPiece before piece after kind text) (member : (sigil, kind) ∈ expressionSigils) :
    ∃ content quotations, piece = sigil ++ '{' :: (content ++ ['}']) ∧
      Enclosed content quotations ∧ text = trim content := by
  cases isPiece with
  | @expression other content _ _ quotations otherMember enclosed =>
    obtain rfl : other = sigil := by
      rcases mem_expressionSigils_iff.mp member with
        ⟨rfl, rfl⟩ | ⟨rfl, rfl⟩ | ⟨rfl, rfl⟩ | ⟨rfl, rfl⟩ <;>
        simpa [mem_expressionSigils_iff] using otherMember
    exact ⟨content, quotations, rfl, enclosed, rfl⟩
  | string otherMember =>
    rcases mem_stringSigils_iff.mp otherMember with ⟨_, rfl⟩ | ⟨_, rfl⟩ <;>
      simp [mem_expressionSigils_iff] at member
  | _ => simp [mem_expressionSigils_iff] at member

end IsPiece

/-! ### Where spans end -/

theorem interrupts_of_opening {text : List Char} {kind : TokenKind}
    (opens : opening text = some kind) : Interrupts text := by
  unfold opening at opens
  split at opens
  · exact Interrupts.expression (mem_expressionSigils_iff.mpr (.inl ⟨rfl, rfl⟩))
  · exact Interrupts.expression (mem_expressionSigils_iff.mpr (.inr (.inl ⟨rfl, rfl⟩)))
  · exact Interrupts.expression (mem_expressionSigils_iff.mpr (.inr (.inr (.inl ⟨rfl, rfl⟩))))
  · exact Interrupts.expression (mem_expressionSigils_iff.mpr (.inr (.inr (.inr ⟨rfl, rfl⟩))))
  · split at opens
    · rename_i isQuote
      exact .string (mem_stringSigils_iff.mpr (.inl ⟨rfl, rfl⟩)) isQuote
    · cases opens
  · split at opens
    · rename_i isQuote
      exact .string (mem_stringSigils_iff.mpr (.inr ⟨rfl, rfl⟩)) isQuote
    · cases opens
  · cases opens

theorem interrupts_iff {text : List Char} :
    (atNewline text || (opening text).isSome) = true ↔ Interrupts text := by
  rw [Bool.or_eq_true]
  constructor
  · rintro (newline | opens)
    · unfold atNewline at newline
      split at newline
      · exact .newline
      · exact .carriageReturn
      · cases newline
    · obtain ⟨kind, opens⟩ := Option.isSome_iff_exists.mp opens
      exact interrupts_of_opening opens
  · intro interrupts
    cases interrupts with
    | newline => exact .inl rfl
    | carriageReturn => exact .inl rfl
    | expression member =>
      rcases mem_expressionSigils_iff.mp member with ⟨rfl, _⟩ | ⟨rfl, _⟩ | ⟨rfl, _⟩ | ⟨rfl, _⟩ <;>
        exact .inr rfl
    | string member opens =>
      rcases mem_stringSigils_iff.mp member with ⟨rfl, _⟩ | ⟨rfl, _⟩ <;>
        rcases isQuote_iff.mp opens with rfl | rfl <;> exact .inr rfl

theorem uninterrupted_cons_iff {character : Char} {text after : List Char} :
    Uninterrupted (character :: text) after ↔
      ¬ Interrupts (character :: (text ++ after)) ∧ Uninterrupted text after := by
  constructor
  · intro whole
    exact ⟨whole _ List.suffix_rfl (List.cons_ne_nil _ _),
      fun back suffix => whole back (suffix.trans (List.suffix_cons _ _))⟩
  · rintro ⟨first, others⟩ back suffix notEmpty
    rcases List.suffix_cons_iff.mp suffix with rfl | suffix
    · exact first
    · exact others back suffix notEmpty

theorem plainSpan_of_interrupts {text : List Char} (interrupts : Interrupts text) :
    plainSpan text = ([], text) := by
  cases text with
  | nil => rfl
  | cons character rest => rw [plainSpan, if_pos (interrupts_iff.mpr interrupts)]

theorem plainSpan_cons {character : Char} {rest : List Char}
    (uninterrupted : ¬ Interrupts (character :: rest)) :
    plainSpan (character :: rest) = (character :: (plainSpan rest).1, (plainSpan rest).2) := by
  rw [plainSpan, if_neg (mt interrupts_iff.mp uninterrupted)]

theorem uninterrupted_plainSpan (text : List Char) :
    Uninterrupted (plainSpan text).1 (plainSpan text).2 ∧
      ((plainSpan text).2 = [] ∨ Interrupts (plainSpan text).2) := by
  induction text with
  | nil => exact ⟨fun _ suffix notEmpty => absurd (List.suffix_nil.mp suffix) notEmpty, .inl rfl⟩
  | cons character rest inductionHypothesis =>
    by_cases interrupts : Interrupts (character :: rest)
    · rw [plainSpan_of_interrupts interrupts]
      exact ⟨fun _ suffix notEmpty => absurd (List.suffix_nil.mp suffix) notEmpty, .inr interrupts⟩
    · rw [plainSpan_cons interrupts]
      obtain ⟨uninterrupted, ends⟩ := inductionHypothesis
      refine ⟨uninterrupted_cons_iff.mpr ⟨?_, uninterrupted⟩, ends⟩
      rw [plainSpan_append]
      exact interrupts

theorem plainSpan_of_uninterrupted {content after : List Char}
    (uninterrupted : Uninterrupted content after) (ends : after = [] ∨ Interrupts after) :
    plainSpan (content ++ after) = (content, after) := by
  induction content with
  | nil =>
    rcases ends with rfl | interrupts
    · rfl
    · exact plainSpan_of_interrupts interrupts
  | cons character content inductionHypothesis =>
    obtain ⟨first, others⟩ := uninterrupted_cons_iff.mp uninterrupted
    rw [List.cons_append, plainSpan_cons first, inductionHypothesis others]

theorem line_newline (rest : List Char) : Piece.line ('\n' :: rest) = ([], ['\n'], rest) := rfl

theorem line_cons {character : Char} (notNewline : character ≠ '\n') (rest : List Char) :
    Piece.line (character :: rest) = (character :: (Piece.line rest).1, (Piece.line rest).2) := by
  simp [Piece.line, notNewline]

theorem isLine_line (text : List Char) :
    IsLine (Piece.line text).1 (Piece.line text).2.1 (Piece.line text).2.2 := by
  induction text with
  | nil => exact ⟨List.not_mem_nil, .inr ⟨rfl, rfl⟩⟩
  | cons character rest inductionHypothesis =>
    by_cases newline : character = '\n'
    · rw [newline, line_newline]
      exact ⟨List.not_mem_nil, .inl rfl⟩
    · rw [line_cons newline]
      obtain ⟨noNewline, ends⟩ := inductionHypothesis
      exact ⟨List.not_mem_cons_of_ne_of_not_mem (Ne.symm newline) noNewline, ends⟩

theorem line_of_isLine {content ending after : List Char} (line : IsLine content ending after) :
    Piece.line (content ++ (ending ++ after)) = (content, ending, after) := by
  obtain ⟨noNewline, ends⟩ := line
  induction content with
  | nil =>
    rcases ends with rfl | ⟨rfl, rfl⟩
    · exact line_newline after
    · rfl
  | cons character content inductionHypothesis =>
    have notNewline : character ≠ '\n' := (List.ne_of_not_mem_cons noNewline).symm
    have contentNoNewline := List.not_mem_of_not_mem_cons noNewline
    rw [List.cons_append, line_cons notNewline, inductionHypothesis contentNoNewline]

/-! ### One piece -/

namespace Piece

variable {atLineStart : Bool} {character : Char} {rest : List Char}

theorem first_expression {sigil after : List Char} {kind : TokenKind}
    (member : (sigil, kind) ∈ expressionSigils)
    (same : character :: rest = sigil ++ '{' :: after) :
    first atLineStart character rest = expression kind sigil after := by
  rcases mem_expressionSigils_iff.mp member with
    ⟨rfl, rfl⟩ | ⟨rfl, rfl⟩ | ⟨rfl, rfl⟩ | ⟨rfl, rfl⟩ <;> cases same <;> cases atLineStart <;> rfl

theorem first_string {sigil quote : Char} {after : List Char} {kind : TokenKind}
    (member : (sigil, kind) ∈ stringSigils) (opens : isQuote quote = true) :
    first atLineStart sigil (quote :: after) = string kind sigil quote after := by
  rcases mem_stringSigils_iff.mp member with ⟨rfl, rfl⟩ | ⟨rfl, rfl⟩ <;>
    rcases isQuote_iff.mp opens with rfl | rfl <;> cases atLineStart <;> rfl

theorem first_plain (noMark : atLineStart = true → ¬ BeginsMark (character :: rest))
    (uninterrupted : ¬ Interrupts (character :: rest)) :
    first atLineStart character rest = plain character rest := by
  have noExpression {sigil after : List Char} {kind : TokenKind}
      (member : (sigil, kind) ∈ expressionSigils) : character :: rest ≠ sigil ++ '{' :: after := by
    intro same
    exact uninterrupted (same ▸ .expression member)
  unfold first
  split
  · exact absurd (.inl ⟨_, rfl⟩) (noMark rfl)
  · exact absurd (.inr ⟨_, rfl⟩) (noMark rfl)
  · exact absurd .newline uninterrupted
  · exact absurd .carriageReturn uninterrupted
  · exact absurd rfl (noExpression (mem_expressionSigils_iff.mpr (.inl ⟨rfl, rfl⟩)))
  · exact absurd rfl (noExpression (mem_expressionSigils_iff.mpr (.inr (.inl ⟨rfl, rfl⟩))))
  · exact absurd rfl (noExpression (mem_expressionSigils_iff.mpr (.inr (.inr (.inl ⟨rfl, rfl⟩)))))
  · exact absurd rfl (noExpression (mem_expressionSigils_iff.mpr (.inr (.inr (.inr ⟨rfl, rfl⟩)))))
  · refine if_neg fun opens => uninterrupted ?_
    exact .string (mem_stringSigils_iff.mpr (.inl ⟨rfl, rfl⟩)) opens
  · refine if_neg fun opens => uninterrupted ?_
    exact .string (mem_stringSigils_iff.mpr (.inr ⟨rfl, rfl⟩)) opens
  · rfl

theorem first_newline (after : List Char) :
    first atLineStart '\n' after = ⟨.ok (.text, ['\n']), ['\n'], after⟩ := by
  cases atLineStart <;> rfl

theorem first_carriageReturn (after : List Char) :
    first atLineStart '\r' ('\n' :: after) = ⟨.ok (.text, ['\n']), ['\r', '\n'], after⟩ := by
  cases atLineStart <;> rfl

variable {before text : List Char} {kind : TokenKind}

/-- How the piece at the front of a text is read. -/
inductive Front (before : List Char) : List Char → Piece → Prop
  | sceneDeclaration {after : List Char} (starts : AtLineStart before) :
      Front before (':' :: ':' :: after) (sceneDeclaration after)
  | beatSeparator {after : List Char} (starts : AtLineStart before) :
      Front before (';' :: ';' :: after) (beatSeparator after)
  | newline {after : List Char} :
      Front before ('\n' :: after) ⟨.ok (.text, ['\n']), ['\n'], after⟩
  | carriageReturn {after : List Char} :
      Front before ('\r' :: '\n' :: after) ⟨.ok (.text, ['\n']), ['\r', '\n'], after⟩
  | expression {sigil after : List Char} {kind : TokenKind}
      (member : (sigil, kind) ∈ expressionSigils) :
      Front before (sigil ++ '{' :: after) (expression kind sigil after)
  | string {sigil quote : Char} {after : List Char} {kind : TokenKind}
      (member : (sigil, kind) ∈ stringSigils) (opens : isQuote quote = true) :
      Front before (sigil :: quote :: after) (string kind sigil quote after)
  | plain {character : Char} {rest : List Char}
      (noMark : AtLineStart before → ¬ BeginsMark (character :: rest))
      (uninterrupted : ¬ Interrupts (character :: rest)) :
      Front before (character :: rest) (plain character rest)

theorem front_first (starts : atLineStart = true ↔ AtLineStart before) :
    Front before (character :: rest) (first atLineStart character rest) := by
  by_cases mark : atLineStart = true ∧ BeginsMark (character :: rest)
  · obtain ⟨rfl, ⟨after, same⟩ | ⟨after, same⟩⟩ := mark
    · cases same
      exact .sceneDeclaration (starts.mp rfl)
    · cases same
      exact .beatSeparator (starts.mp rfl)
  · have noMark (line : atLineStart = true) (begins : BeginsMark (character :: rest)) : False :=
      mark ⟨line, begins⟩
    by_cases interrupts : Interrupts (character :: rest)
    · generalize same : character :: rest = whole at interrupts ⊢
      cases interrupts with
      | newline =>
        cases same
        rw [first_newline]
        exact .newline
      | carriageReturn =>
        cases same
        rw [first_carriageReturn]
        exact .carriageReturn
      | expression member =>
        rw [first_expression member same]
        exact .expression member
      | string member opens =>
        cases same
        rw [first_string member opens]
        exact .string member opens
    · rw [first_plain noMark interrupts]
      exact .plain (fun line => noMark (starts.mpr line)) interrupts

theorem isPiece_sceneDeclaration {after : List Char} (starts : AtLineStart before)
    (found : (sceneDeclaration after).finding = .ok (kind, text)) :
    IsPiece before (sceneDeclaration after).taken (sceneDeclaration after).rest kind text := by
  unfold sceneDeclaration at found
  dsimp only at found
  split at found
  · cases found
  · rename_i named
    cases found
    exact .sceneDeclaration starts (isLine_line after) named

theorem isPiece_string {sigil quote : Char} {after : List Char} {stringKind : TokenKind}
    (member : (sigil, stringKind) ∈ stringSigils) (opens : isQuote quote = true)
    (found : (string stringKind sigil quote after).finding = .ok (kind, text)) :
    IsPiece before (string stringKind sigil quote after).taken
      (string stringKind sigil quote after).rest kind text := by
  rcases read : quotedSpan quote after with _ | ⟨content, later⟩
  · simp only [string, read] at found
    cases found
  · simp only [string, read] at found ⊢
    cases found
    exact .string member opens ((quotedSpan_eq_some_iff opens).mp read).2

theorem isPiece_expression {sigil after : List Char} {expressionKind : TokenKind}
    (member : (sigil, expressionKind) ∈ expressionSigils)
    (found : (expression expressionKind sigil after).finding = .ok (kind, text)) :
    IsPiece before (expression expressionKind sigil after).taken
      (expression expressionKind sigil after).rest kind text := by
  rcases read : bracedSpan 0 after with _ | ⟨content, later⟩
  · simp only [expression, read] at found
    cases found
  · simp only [expression, read] at found ⊢
    cases found
    obtain ⟨quotations, enclosed⟩ := closes_of_bracedSpan read
    exact .expression member enclosed

theorem isPiece_plain {first : Char} {after : List Char}
    (noMark : AtLineStart before → ¬ BeginsMark (first :: after))
    (uninterrupted : ¬ Interrupts (first :: after))
    (found : (plain first after).finding = .ok (kind, text)) :
    IsPiece before (plain first after).taken (plain first after).rest kind text := by
  cases found
  obtain ⟨others, ends⟩ := uninterrupted_plainSpan after
  refine .plain (List.cons_ne_nil _ _) ?_ (uninterrupted_cons_iff.mpr ⟨?_, others⟩) ends
  · rw [plain_append]
    exact noMark
  · show ¬ Interrupts (first :: ((plainSpan after).1 ++ (plainSpan after).2))
    rw [plainSpan_append]
    exact uninterrupted

/-- What is found at the front of a text is a piece. -/
theorem isPiece_first (starts : atLineStart = true ↔ AtLineStart before)
    (found : (first atLineStart character rest).finding = .ok (kind, text)) :
    IsPiece before (first atLineStart character rest).taken
      (first atLineStart character rest).rest kind text := by
  have front : Front before (character :: rest) (first atLineStart character rest) :=
    front_first starts
  generalize character :: rest = whole, first atLineStart character rest = piece at front found
  cases front with
  | sceneDeclaration line => exact isPiece_sceneDeclaration line found
  | beatSeparator line =>
    cases found
    exact .beatSeparator line (isLine_line _)
  | newline =>
    cases found
    exact .newline
  | carriageReturn =>
    cases found
    exact .carriageReturn
  | expression member => exact isPiece_expression member found
  | string member opens => exact isPiece_string member opens found
  | plain noMark uninterrupted => exact isPiece_plain noMark uninterrupted found

/-- A piece is found wherever it stands. -/
theorem first_of_isPiece {piece after : List Char}
    (starts : atLineStart = true ↔ AtLineStart before)
    (isPiece : IsPiece before piece after kind text)
    (same : character :: rest = piece ++ after) :
    first atLineStart character rest = ⟨.ok (kind, text), piece, after⟩ := by
  cases isPiece with
  | @sceneDeclaration content ending _ line isLine named =>
    rw [List.cons_append, List.cons_append, List.append_assoc] at same
    cases same
    rw [starts.mpr line]
    show sceneDeclaration (content ++ (ending ++ after)) = _
    rw [sceneDeclaration, line_of_isLine isLine]
    exact congrArg (fun finding => (⟨finding, _, _⟩ : Piece)) (if_neg named)
  | @beatSeparator content ending _ line isLine =>
    rw [List.cons_append, List.cons_append, List.append_assoc] at same
    cases same
    rw [starts.mpr line]
    show beatSeparator (content ++ (ending ++ after)) = _
    rw [beatSeparator, line_of_isLine isLine]
  | newline =>
    cases same
    exact first_newline after
  | carriageReturn =>
    cases same
    exact first_carriageReturn after
  | @string sigil quote _ _ _ member opens quoted =>
    rw [List.cons_append, List.cons_append, List.append_assoc, List.singleton_append] at same
    cases same
    rw [first_string member opens, string, (quotedSpan_eq_some_iff opens).mpr ⟨rfl, quoted⟩]
  | @expression sigil content _ _ quotations member enclosed =>
    rw [List.append_assoc, List.cons_append, List.append_assoc, List.singleton_append] at same
    have read : bracedSpan 0 (content ++ '}' :: after) = some (content, after) :=
      bracedSpan_eq_some_iff.mpr ⟨rfl, quotations, enclosed⟩
    rw [first_expression member same, expression, read]
  | plain notEmpty noMark uninterrupted ends =>
    obtain ⟨first, content, rfl⟩ := List.exists_cons_of_ne_nil notEmpty
    obtain ⟨notFirst, others⟩ := uninterrupted_cons_iff.mp uninterrupted
    obtain ⟨firstSame, restSame⟩ : character = first ∧ rest = content ++ after :=
      List.cons.inj same
    have found :
        Piece.first atLineStart first (content ++ after) = plain first (content ++ after) :=
      first_plain (fun line => noMark (starts.mp line)) notFirst
    rw [firstSame, restSame, found, Piece.plain, plainSpan_of_uninterrupted others ends]

end Piece

/-! ### All pieces -/

/-- The pieces of a text that follows some other text, each with its token. -/
structure Decomposes (before text : List Char) (pieces : List (List Char × Token)) : Prop where
  whole : text = pieces.flatMap Prod.fst
  consecutive : Consecutive before pieces

namespace Decomposes

variable {before : List Char}

theorem nil : Decomposes before [] [] := ⟨rfl, trivial⟩

theorem cons {piece after text : List Char} {kind : TokenKind} {later : List (List Char × Token)}
    (isPiece : IsPiece before piece after kind text)
    (others : Decomposes (before ++ piece) after later) :
    Decomposes before (piece ++ after)
      ((piece, ⟨kind, String.ofList text, Position.start.afterAll before⟩) :: later) := by
  obtain ⟨whole, consecutive⟩ := others
  refine ⟨?_, ?_, rfl, consecutive⟩
  · rw [List.flatMap_cons, ← whole]
  · rw [← whole, String.toList_ofList]
    exact isPiece

end Decomposes

theorem getLast?_eq_newline_iff {before taken : List Char} (notEmpty : taken ≠ []) :
    taken.getLast? = some '\n' ↔ AtLineStart (before ++ taken) := by
  rcases List.eq_nil_or_concat taken with rfl | ⟨front, last, rfl⟩
  · exact absurd rfl notEmpty
  · rw [List.concat_eq_append, List.getLast?_concat, Option.some.injEq, ← List.append_assoc]
    constructor
    · rintro rfl
      exact .inr ⟨_, rfl⟩
    · rintro (nothing | ⟨line, same⟩)
      · exact absurd nothing (List.append_ne_nil_of_right_ne_nil _ (List.cons_ne_nil _ _))
      · exact List.singleton_inj.mp (List.append_inj_right' same rfl)

namespace Place

/-- A place stands behind some text. -/
structure Behind (before : List Char) (place : Place) : Prop where
  position : place.position = Position.start.afterAll before
  atLineStart : place.atLineStart = true ↔ AtLineStart before

theorem behind_start (text : List Char) : (start text).Behind [] :=
  ⟨rfl, iff_of_true rfl (.inl rfl)⟩

theorem Behind.further {place : Place} {before : List Char} (behind : place.Behind before)
    (piece : Piece) (notEmpty : piece.taken ≠ []) :
    (place.behind piece).Behind (before ++ piece.taken) := by
  constructor
  · show place.position.afterAll piece.taken = _
    rw [behind.position, Position.afterAll_append]
  · show (piece.taken.getLast? == some '\n') = true ↔ _
    rw [beq_iff_eq]
    exact getLast?_eq_newline_iff notEmpty

theorem tokens_of_nil {place : Place} (atEnd : place.rest = []) :
    place.tokens = .ok [⟨.finish, "", place.position⟩] := by
  rw [tokens, dif_pos atEnd]

theorem tokens_of_cons {place : Place} {character : Char} {rest : List Char}
    (more : place.rest = character :: rest) :
    place.tokens =
      match (Piece.first place.atLineStart character rest).finding with
      | .ok (kind, text) => (place.behind (Piece.first place.atLineStart character rest)).tokens.map
          (⟨kind, String.ofList text, place.position⟩ :: ·)
      | .error fault => .error ⟨fault, place.position⟩ := by
  have notEmpty : place.rest ≠ [] := more ▸ List.cons_ne_nil _ _
  rw [tokens, dif_neg notEmpty]
  unfold next
  rw [more]
  rcases found : (Piece.first place.atLineStart character rest).finding with
    fault | ⟨kind, text⟩ <;> simp only [found]

/-- The tokens from a place on are those of the pieces of the text from there on. -/
theorem tokens_sound {place : Place} {before : List Char} {tokens : List Token}
    (behind : place.Behind before) (read : place.tokens = .ok tokens) :
    ∃ pieces, Decomposes before place.rest pieces ∧ tokens = pieces.map Prod.snd ++
      [⟨.finish, "", Position.start.afterAll (before ++ place.rest)⟩] := by
  rcases more : place.rest with _ | ⟨character, rest⟩
  · rw [tokens_of_nil more] at read
    cases read
    exact ⟨[], ⟨rfl, trivial⟩, by rw [List.append_nil, behind.position]; rfl⟩
  · rw [tokens_of_cons more] at read
    have taken_append := Piece.first_append place.atLineStart character rest
    rcases found : (Piece.first place.atLineStart character rest).finding with fault | ⟨kind, text⟩
    · rw [found] at read
      cases read
    · rw [found] at read
      have isPiece := Piece.isPiece_first behind.atLineStart found
      have shorter : (place.behind (Piece.first place.atLineStart character rest)).rest.length <
          place.rest.length := more ▸ Piece.length_rest_first place.atLineStart character rest
      rcases later : (place.behind (Piece.first place.atLineStart character rest)).tokens with
        mistake | others
      · rw [later] at read
        cases read
      · rw [later] at read
        cases read
        obtain ⟨pieces, ⟨whole, consecutive⟩, rfl⟩ :=
          tokens_sound (behind.further _ isPiece.ne_nil) later
        change (Piece.first place.atLineStart character rest).rest = _ at whole
        refine ⟨((Piece.first place.atLineStart character rest).taken,
          ⟨kind, String.ofList text, place.position⟩) :: pieces, ⟨?_, ?_⟩, ?_⟩
        · rw [List.flatMap_cons, ← whole, taken_append]
        · refine ⟨?_, behind.position, consecutive⟩
          rw [← whole, String.toList_ofList]
          exact isPiece
        · rw [List.map_cons, List.cons_append, ← taken_append, ← List.append_assoc]
          rfl
termination_by place.rest.length

theorem tokens_complete {place : Place} {before : List Char} {pieces : List (List Char × Token)}
    (behind : place.Behind before) (decomposes : Decomposes before place.rest pieces) :
    place.tokens = .ok (pieces.map Prod.snd ++
      [⟨.finish, "", Position.start.afterAll (before ++ place.rest)⟩]) := by
  obtain ⟨whole, consecutive⟩ := decomposes
  induction pieces generalizing place before with
  | nil =>
    have atEnd : place.rest = [] := whole
    rw [tokens_of_nil atEnd, behind.position, atEnd, List.append_nil]
    rfl
  | cons first later inductionHypothesis =>
    obtain ⟨piece, token⟩ := first
    obtain ⟨isPiece, position, others⟩ := consecutive
    rw [List.flatMap_cons] at whole
    obtain ⟨character, rest, more⟩ : ∃ character rest, place.rest = character :: rest :=
      List.exists_cons_of_ne_nil (whole ▸ List.append_ne_nil_of_left_ne_nil isPiece.ne_nil _)
    have found := Piece.first_of_isPiece behind.atLineStart isPiece (more.symm.trans whole)
    have further := behind.further
      ⟨.ok (token.kind, token.text.toList), piece, later.flatMap Prod.fst⟩ isPiece.ne_nil
    rw [tokens_of_cons more, found]
    dsimp only
    rw [inductionHypothesis further rfl others, whole, behind.position, ← position,
      String.ofList_toList]
    rw [List.map_cons, List.cons_append, ← List.append_assoc]
    rfl

end Place

theorem Consecutive.forall_isPiece {before : List Char} {pieces : List (List Char × Token)}
    (consecutive : Consecutive before pieces) :
    ∀ piece ∈ pieces, ∃ earlier after,
      IsPiece earlier piece.1 after piece.2.kind piece.2.text.toList := by
  induction pieces generalizing before with
  | nil => exact List.forall_mem_nil _
  | cons first later inductionHypothesis =>
    obtain ⟨isPiece, _, others⟩ := consecutive
    exact List.forall_mem_cons.mpr ⟨⟨before, _, isPiece⟩, inductionHypothesis others⟩

/-- The tokens of a script are those of its decomposition, and a token for its end. Each token
before the end has a piece of the script of its own, and these make up the script. -/
theorem scan_eq_ok_iff (source : String) (tokens : List Token) :
    Token.scan source = .ok tokens ↔
      ∃ pieces, Decomposes [] source.toList pieces ∧
        (∀ piece ∈ pieces, piece.1 ≠ [] ∧ piece.2.kind ≠ .finish) ∧
        tokens = pieces.map Prod.snd ++ [⟨.finish, "", Position.start.afterAll source.toList⟩] := by
  constructor
  · intro read
    obtain ⟨pieces, decomposes, same⟩ := Place.tokens_sound (Place.behind_start source.toList) read
    refine ⟨pieces, decomposes, fun piece member => ?_, same⟩
    obtain ⟨earlier, after, isPiece⟩ := decomposes.consecutive.forall_isPiece piece member
    exact ⟨isPiece.ne_nil, isPiece.kind_ne_finish⟩
  · rintro ⟨pieces, decomposes, _, rfl⟩
    exact Place.tokens_complete (Place.behind_start source.toList) decomposes

end Playscript
