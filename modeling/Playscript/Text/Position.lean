/-
This file holds positions in a script: a line and a column, both counted from one. A column counts
characters, whatever their length in an encoding.
-/

namespace Playscript

/-- A line and a column, counted from one. -/
structure Position where
  line : Nat
  column : Nat
  deriving DecidableEq, Repr

namespace Position

/-- The place of the first character. -/
def start : Position := ⟨1, 1⟩

instance : Inhabited Position := ⟨start⟩

/-- The place after a character that stands here. -/
def after (position : Position) (character : Char) : Position :=
  if character = '\n' then ⟨position.line + 1, 1⟩ else ⟨position.line, position.column + 1⟩

/-- The place after a text that begins here. -/
def afterAll (position : Position) (text : List Char) : Position := text.foldl after position

/-- The place after one byte of UTF-8. The second and later bytes of a character leave it alone, so
a character counts once. -/
def afterByte (position : Position) (byte : UInt8) : Position :=
  if byte = 0x0A then ⟨position.line + 1, 1⟩
  else if byte &&& 0xC0 = 0x80 then position
  else ⟨position.line, position.column + 1⟩

/-- Whether a position stands before another, line by line and then by column. -/
def isBefore (position other : Position) : Bool :=
  position.line < other.line || (position.line = other.line && position.column < other.column)

/-- A position as it stands in messages. -/
def text (position : Position) : String :=
  toString position.line ++ ":" ++ toString position.column

/-! ### Counting -/

@[simp] theorem afterAll_nil (position : Position) : position.afterAll [] = position := rfl

@[simp] theorem afterAll_cons (position : Position) (character : Char) (rest : List Char) :
    position.afterAll (character :: rest) = (position.after character).afterAll rest := rfl

theorem afterAll_append (position : Position) (first second : List Char) :
    position.afterAll (first ++ second) = (position.afterAll first).afterAll second := by
  simp [afterAll]

end Position

end Playscript
