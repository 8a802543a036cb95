/-
This file cuts the text of an expression into lexemes. White space between lexemes is skipped, and
no text is refused: what cannot be part of an expression becomes a lexeme of its own kind, for the
reader of the lexemes to report. Columns count the characters of the expression, from one.
-/

import Playscript.Text.CharClass
import Playscript.Text.Name
import Playscript.Text.Quoted

namespace Playscript

/-- The kinds of lexemes. -/
inductive LexemeKind where
  | int
  | float
  | string
  | name
  | trueWord
  | falseWord
  | nullWord
  | leftParen
  | rightParen
  | leftBracket
  | rightBracket
  | comma
  | semicolon
  | plus
  | minus
  | star
  | slash
  | percent
  | bang
  | equal
  | doubleEqual
  | bangEqual
  | less
  | lessEqual
  | greater
  | greaterEqual
  | doubleAnd
  | doubleBar
  /-- A character that no lexeme begins with. -/
  | stray
  /-- A quotation that is not closed. -/
  | openString
  | finish
  deriving DecidableEq, Repr

/-- A lexeme: its kind, its text, which for strings is what stands between the quotes, and the
column of its first character. -/
structure Lexeme where
  kind : LexemeKind
  text : String
  column : Nat
  deriving DecidableEq, Repr

/-! ### The lexeme at the head of a text -/

/-- What is cut off a text: a lexeme of a kind, with its text and the number of characters that it
takes up, and what follows. -/
structure LexemeCut where
  kind : LexemeKind
  text : List Char
  width : Nat
  rest : List Char
  deriving DecidableEq, Repr

namespace LexemeCut

/-- A lexeme of one character. -/
def single (kind : LexemeKind) (first : Char) (rest : List Char) : LexemeCut :=
  ⟨kind, [first], 1, rest⟩

/-- A lexeme of two characters if the second one follows, of one otherwise. -/
def pair (second : Char) (double alone : LexemeKind) (first : Char) (rest : List Char) :
    LexemeCut :=
  match rest with
  | next :: after =>
    if next = second then ⟨double, [first, next], 2, after⟩ else single alone first rest
  | [] => single alone first rest

/-- Whether a character can stand among the digits of a number. -/
def isDigitOrGap (character : Char) : Bool := character.isDigit || character == '_'

/-- A number: digits and underscores, and if a point and a digit follow, these and further digits
and underscores. -/
def number (first : Char) (rest : List Char) : LexemeCut :=
  let whole := first :: rest.takeWhile isDigitOrGap
  match rest.dropWhile isDigitOrGap with
  | '.' :: digit :: after =>
    if digit.isDigit then
      let text := whole ++ '.' :: digit :: after.takeWhile isDigitOrGap
      ⟨.float, text, text.length, after.dropWhile isDigitOrGap⟩
    else ⟨.int, whole, whole.length, '.' :: digit :: after⟩
  | after => ⟨.int, whole, whole.length, after⟩

/-- The kind of a name: three names are words of the language. -/
def nameKind (text : List Char) : LexemeKind :=
  if text = ['t', 'r', 'u', 'e'] then .trueWord
  else if text = ['f', 'a', 'l', 's', 'e'] then .falseWord
  else if text = ['n', 'u', 'l', 'l'] then .nullWord
  else .name

/-- A name, as far as it goes. -/
def name (first : Char) (rest : List Char) : LexemeCut :=
  let text := first :: rest.takeWhile continuesName
  ⟨nameKind text, text, text.length, rest.dropWhile continuesName⟩

/-- A quotation; without a closing quote it takes up all that is left. -/
def quoted (quote : Char) (rest : List Char) : LexemeCut :=
  match quotedSpan quote rest with
  | some (content, after) => ⟨.string, content, content.length + 2, after⟩
  | none => ⟨.openString, rest, rest.length + 1, []⟩

/-- The lexeme that begins with a given character. -/
def first (character : Char) (rest : List Char) : LexemeCut :=
  match character with
  | '(' => single .leftParen character rest
  | ')' => single .rightParen character rest
  | '[' => single .leftBracket character rest
  | ']' => single .rightBracket character rest
  | ',' => single .comma character rest
  | ';' => single .semicolon character rest
  | '+' => single .plus character rest
  | '-' => single .minus character rest
  | '*' => single .star character rest
  | '/' => single .slash character rest
  | '%' => single .percent character rest
  | '!' => pair '=' .bangEqual .bang character rest
  | '=' => pair '=' .doubleEqual .equal character rest
  | '<' => pair '=' .lessEqual .less character rest
  | '>' => pair '=' .greaterEqual .greater character rest
  | '&' => pair '&' .doubleAnd .stray character rest
  | '|' => pair '|' .doubleBar .stray character rest
  | _ =>
    if isQuote character then quoted character rest
    else if character.isDigit then number character rest
    else if beginsName character then name character rest
    else single .stray character rest

/-! ### What follows is shorter -/

theorem length_dropWhile_le (test : Char → Bool) (text : List Char) :
    (text.dropWhile test).length ≤ text.length :=
  (List.dropWhile_sublist test).length_le

theorem length_rest_pair (second : Char) (double alone : LexemeKind) (first : Char)
    (rest : List Char) : (pair second double alone first rest).rest.length ≤ rest.length := by
  unfold pair
  split
  · split
    · simp
    · exact Nat.le_refl _
  · exact Nat.le_refl _

theorem length_rest_number (first : Char) (rest : List Char) :
    (number first rest).rest.length ≤ rest.length := by
  have shorter := length_dropWhile_le isDigitOrGap rest
  unfold number
  dsimp only
  split
  · rename_i digit after same
    rw [same] at shorter
    simp only [List.length_cons] at shorter
    split
    · have := length_dropWhile_le isDigitOrGap after
      dsimp only
      omega
    · simpa using shorter
  · simpa using shorter

theorem length_rest_quoted (quote : Char) (rest : List Char) :
    (quoted quote rest).rest.length ≤ rest.length := by
  unfold quoted
  split
  · rename_i content after read
    exact Nat.le_of_lt (length_lt_of_quotedSpan read)
  · exact Nat.zero_le _

/-- A lexeme takes up at least the character that it begins with. -/
theorem length_rest_first (character : Char) (rest : List Char) :
    (first character rest).rest.length ≤ rest.length := by
  unfold first
  split <;> try exact length_rest_pair ..
  all_goals try exact Nat.le_refl _
  split
  · exact length_rest_quoted ..
  · split
    · exact length_rest_number ..
    · split
      · exact length_dropWhile_le ..
      · exact Nat.le_refl _

end LexemeCut

/-! ### All lexemes of a text -/

namespace Lexeme

/-- The lexemes of a text whose first character stands in a given column. The last one, and only the
last one, is the end of the text. -/
def scanFrom (column : Nat) (text : List Char) : List Lexeme :=
  match text with
  | [] => [⟨.finish, "", column⟩]
  | character :: rest =>
    if isBlank character then scanFrom (column + 1) rest
    else
      let cut := LexemeCut.first character rest
      ⟨cut.kind, String.ofList cut.text, column⟩ :: scanFrom (column + cut.width) cut.rest
termination_by text.length
decreasing_by
  · simp
  · exact Nat.lt_succ_of_le (LexemeCut.length_rest_first character rest)

/-- The lexemes of an expression. -/
def scan (source : String) : List Lexeme := scanFrom 1 source.toList

end Lexeme

end Playscript
