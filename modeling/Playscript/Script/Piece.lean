/-
This file cuts pieces off the text of a script: declarations of scenes, separators of beats,
newlines, quoted strings, expressions in braces, and the runs of plain text between them. A piece
takes up at least one character, and pieces follow each other without gaps. A piece that cannot be
read takes up what was looked at to find that out.
-/

import Playscript.Text.CharClass
import Playscript.Text.Quoted

namespace Playscript

/-- The kinds of tokens of a script. -/
inductive TokenKind where
  | sceneDeclaration
  | beatSeparator
  | text
  | instantString
  | typewriterString
  | inlineExpr
  | deferredExpr
  | instantExpr
  | typewriterExpr
  | finish
  deriving DecidableEq, Repr

/-- A kind of token as it is called in messages. -/
def TokenKind.name : TokenKind → String
  | sceneDeclaration => "scene declaration"
  | beatSeparator => "beat separator"
  | text => "text"
  | instantString => "instant string"
  | typewriterString => "typewriter string"
  | inlineExpr => "inline expression"
  | deferredExpr => "deferred expression"
  | instantExpr => "instant expression"
  | typewriterExpr => "typewriter expression"
  | finish => "end of input"

/-- What keeps a piece of a script from being a token. -/
inductive LexicalFault where
  | unclosedString
  | unclosedBrace
  | emptySceneName
  deriving DecidableEq, Repr

/-- A fault in words. -/
def LexicalFault.phrase : LexicalFault → String
  | unclosedString => "unclosed string"
  | unclosedBrace => "unclosed brace"
  | emptySceneName => "empty scene name"

/-- A fault as programs know it. -/
def LexicalFault.name : LexicalFault → String
  | unclosedString => "UnclosedString"
  | unclosedBrace => "UnclosedBrace"
  | emptySceneName => "EmptySceneName"

/-! ### Spans -/

/-- Reads up to the closing brace that belongs to an opening one, when so many braces inside are
still open: what stands before it, and what follows it. Quotations inside are passed over. None if
the brace or a quotation is not closed. -/
def bracedSpan (depth : Nat) (text : List Char) : Option (List Char × List Char) :=
  match text with
  | [] => none
  | character :: rest =>
    if character = '{' then
      (bracedSpan (depth + 1) rest).map fun (content, after) => (character :: content, after)
    else if character = '}' then
      match depth with
      | 0 => some ([], rest)
      | depth + 1 =>
        (bracedSpan depth rest).map fun (content, after) => (character :: content, after)
    else if isQuote character then
      match _read : quotedSpan character rest with
      | none => none
      | some (quoted, later) =>
        (bracedSpan depth later).map fun (content, after) =>
          (character :: (quoted ++ character :: content), after)
    else (bracedSpan depth rest).map fun (content, after) => (character :: content, after)
termination_by text.length
decreasing_by
  all_goals first
    | exact Nat.lt_succ_self _
    | exact Nat.lt_succ_of_lt (length_lt_of_quotedSpan (by assumption))

/-- The kind of the string or expression that begins here, if one does. -/
def opening : List Char → Option TokenKind
  | '{' :: _ => some .inlineExpr
  | '%' :: '{' :: _ => some .deferredExpr
  | '#' :: '{' :: _ => some .instantExpr
  | '@' :: '{' :: _ => some .typewriterExpr
  | '#' :: quote :: _ => if isQuote quote then some .instantString else none
  | '@' :: quote :: _ => if isQuote quote then some .typewriterString else none
  | _ => none

/-- Whether a newline begins here, with or without a carriage return before it. -/
def atNewline : List Char → Bool
  | '\n' :: _ => true
  | '\r' :: '\n' :: _ => true
  | _ => false

/-- Plain text goes on until a newline, a string or an expression. -/
def plainSpan : List Char → List Char × List Char
  | [] => ([], [])
  | character :: rest =>
    if atNewline (character :: rest) || (opening (character :: rest)).isSome then
      ([], character :: rest)
    else
      let (content, after) := plainSpan rest
      (character :: content, after)

/-- What stands between braces, the closing brace and what follows make up the text. -/
theorem bracedSpan_eq_some {depth : Nat} {text content after : List Char}
    (read : bracedSpan depth text = some (content, after)) :
    text = content ++ '}' :: after := by
  fun_induction bracedSpan depth text generalizing content after with
  | case1 => cases read
  | case2 depth rest inductionHypothesis =>
    obtain ⟨⟨inner, later⟩, found, same⟩ := Option.map_eq_some_iff.mp read
    cases same
    simp [inductionHypothesis found]
  | case3 rest =>
    cases read
    rfl
  | case4 rest _ depth inductionHypothesis =>
    obtain ⟨⟨inner, later⟩, found, same⟩ := Option.map_eq_some_iff.mp read
    cases same
    simp [inductionHypothesis found]
  | case5 => cases read
  | case6 depth quote rest _ _ _ quoted later found inductionHypothesis =>
    obtain ⟨⟨inner, last⟩, innerFound, same⟩ := Option.map_eq_some_iff.mp read
    cases same
    rw [quotedSpan_eq_some found, inductionHypothesis innerFound]
    simp
  | case7 depth character rest _ _ _ inductionHypothesis =>
    obtain ⟨⟨inner, later⟩, found, same⟩ := Option.map_eq_some_iff.mp read
    cases same
    simp [inductionHypothesis found]

/-- Plain text and what follows it make up the text. -/
theorem plainSpan_append (text : List Char) : (plainSpan text).1 ++ (plainSpan text).2 = text := by
  induction text with
  | nil => rfl
  | cons character rest inductionHypothesis =>
    unfold plainSpan
    split
    · rfl
    · simpa using inductionHypothesis

/-! ### Pieces -/

/-- A piece of a text: what it holds, a token of some kind and text or a fault; the characters that
it takes up; and what follows. -/
structure Piece where
  finding : Except LexicalFault (TokenKind × List Char)
  taken : List Char
  rest : List Char

namespace Piece

/-- The rest of a line, and what follows the newline at its end. -/
def line (text : List Char) : List Char × List Char × List Char :=
  let after := text.dropWhile (· ≠ '\n')
  (text.takeWhile (· ≠ '\n'), after.take 1, after.drop 1)

/-- The declaration of a scene takes up its line; its name is the line without white space around
it. -/
def sceneDeclaration (text : List Char) : Piece :=
  let (content, newline, after) := line text
  let name := trim content
  { finding := if name = [] then .error .emptySceneName else .ok (.sceneDeclaration, name)
    taken := ':' :: ':' :: (content ++ newline)
    rest := after }

/-- A separator of beats takes up its line, whatever else stands there. -/
def beatSeparator (text : List Char) : Piece :=
  let (content, newline, after) := line text
  { finding := .ok (.beatSeparator, [';', ';'])
    taken := ';' :: ';' :: (content ++ newline)
    rest := after }

/-- A string after its sigil and opening quote. -/
def string (kind : TokenKind) (sigil quote : Char) (text : List Char) : Piece :=
  match quotedSpan quote text with
  | some (content, after) =>
    { finding := .ok (kind, content)
      taken := sigil :: quote :: (content ++ [quote])
      rest := after }
  | none =>
    { finding := .error .unclosedString
      taken := sigil :: quote :: text
      rest := [] }

/-- An expression after its sigil, if it has one, and its opening brace. -/
def expression (kind : TokenKind) (sigil text : List Char) : Piece :=
  match bracedSpan 0 text with
  | some (content, after) =>
    { finding := .ok (kind, trim content)
      taken := sigil ++ '{' :: (content ++ ['}'])
      rest := after }
  | none =>
    { finding := .error .unclosedBrace
      taken := sigil ++ '{' :: text
      rest := [] }

/-- Plain text; its first character belongs to it in any case. -/
def plain (first : Char) (text : List Char) : Piece :=
  let (content, after) := plainSpan text
  { finding := .ok (.text, first :: content)
    taken := first :: content
    rest := after }

/-- The piece that begins with a given character. Declarations and separators stand only at the
start of a line. -/
def first (atLineStart : Bool) (character : Char) (rest : List Char) : Piece :=
  match atLineStart, character, rest with
  | true, ':', ':' :: after => sceneDeclaration after
  | true, ';', ';' :: after => beatSeparator after
  | _, '\n', after => ⟨.ok (.text, ['\n']), ['\n'], after⟩
  | _, '\r', '\n' :: after => ⟨.ok (.text, ['\n']), ['\r', '\n'], after⟩
  | _, '{', after => expression .inlineExpr [] after
  | _, '%', '{' :: after => expression .deferredExpr ['%'] after
  | _, '#', '{' :: after => expression .instantExpr ['#'] after
  | _, '@', '{' :: after => expression .typewriterExpr ['@'] after
  | _, '#', quote :: after =>
    if isQuote quote then string .instantString '#' quote after else plain '#' (quote :: after)
  | _, '@', quote :: after =>
    if isQuote quote then string .typewriterString '@' quote after
    else plain '@' (quote :: after)
  | _, character, rest => plain character rest

/-! ### Nothing is lost -/

theorem line_append (text : List Char) :
    (line text).1 ++ (line text).2.1 ++ (line text).2.2 = text := by
  simp only [line, List.append_assoc, List.take_append_drop, List.takeWhile_append_dropWhile]

theorem string_append (kind : TokenKind) (sigil quote : Char) (text : List Char) :
    (string kind sigil quote text).taken ++ (string kind sigil quote text).rest =
      sigil :: quote :: text := by
  unfold string
  split
  · rename_i content after read
    simp [quotedSpan_eq_some read]
  · simp

theorem expression_append (kind : TokenKind) (sigil text : List Char) :
    (expression kind sigil text).taken ++ (expression kind sigil text).rest =
      sigil ++ '{' :: text := by
  unfold expression
  split
  · rename_i content after read
    simp [bracedSpan_eq_some read]
  · simp

theorem plain_append (character : Char) (text : List Char) :
    (plain character text).taken ++ (plain character text).rest = character :: text := by
  simpa [plain] using plainSpan_append text

/-- A piece and what follows it make up the text. -/
theorem first_append (atLineStart : Bool) (character : Char) (rest : List Char) :
    (first atLineStart character rest).taken ++ (first atLineStart character rest).rest =
      character :: rest := by
  unfold first
  split <;> try exact expression_append ..
  all_goals try exact plain_append ..
  all_goals try rfl
  · rename_i after
    simpa [sceneDeclaration] using line_append after
  · rename_i after
    simpa [beatSeparator] using line_append after
  · split
    · exact string_append ..
    · exact plain_append ..
  · split
    · exact string_append ..
    · exact plain_append ..

/-- A piece takes up at least one character. -/
theorem first_taken_ne_nil (atLineStart : Bool) (character : Char) (rest : List Char) :
    (first atLineStart character rest).taken ≠ [] := by
  unfold first
  split <;> simp [sceneDeclaration, beatSeparator, expression, plain]
  all_goals split <;> simp [string]
  all_goals split <;> simp

/-- What follows a piece is shorter. -/
theorem length_rest_first (atLineStart : Bool) (character : Char) (rest : List Char) :
    (first atLineStart character rest).rest.length < (character :: rest).length := by
  have whole := congrArg List.length (first_append atLineStart character rest)
  have taken := List.length_pos_iff.mpr (first_taken_ne_nil atLineStart character rest)
  rw [List.length_append] at whole
  omega

end Piece

end Playscript
