/-
This file holds readers of JSON. A reader takes what it needs from the front of a text and leaves
the rest, or ends with one of three faults. The readers here take the smallest parts: single
characters, white space and words.
-/

namespace Playscript.Json

/-- Why a text is not read as JSON. -/
inductive Fault where
  /-- The text ends too early. -/
  | ended
  /-- The text breaks the rules of JSON, or holds a number that is too large. -/
  | malformed
  /-- The text keeps the rules of JSON, but holds something else than is asked for. -/
  | misshapen
  deriving DecidableEq, Repr

/-- A reader of something at the front of a text. -/
abbrev Reader (Result : Type) := StateT (List Char) (Except Fault) Result

namespace Reader

/-- The first character, which stays in the text; none at the end. -/
def peek? : Reader (Option Char) := return (← get).head?

/-- Takes the first character. -/
def next : Reader Char := do
  match ← get with
  | [] => throw .ended
  | character :: rest =>
    set rest
    return character

/-- Drops the first character. -/
def drop : Reader Unit := modify List.tail

/-- Drops white space. -/
def blanks : Reader Unit := modify fun text =>
  text.dropWhile fun character =>
    character = ' ' || character = '\n' || character = '\t' || character = '\r'

/-- The first character that is no white space; it stays in the text. -/
def visible : Reader Char := do
  blanks
  match ← peek? with
  | some character => return character
  | none => throw .ended

/-- Takes the letters of a word, one after the other. -/
def word : List Char → Reader Unit
  | [] => return
  | letter :: letters => do
    if (← next) = letter then word letters else throw .malformed

/-- Takes the decimal digits at the front of the text. -/
def digits : Reader (List Char) := do
  let text ← get
  set (text.dropWhile Char.isDigit)
  return text.takeWhile Char.isDigit

/-- The end of the text, after white space. -/
def finish : Reader Unit := do
  blanks
  if (← peek?).isSome then throw .malformed

end Reader

end Playscript.Json
