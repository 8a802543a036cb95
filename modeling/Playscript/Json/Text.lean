/-
This file reads JSON strings. A string that nobody asks for is only passed over, and then its
surrogates need not come in pairs.
-/

import Playscript.Json.Reader

namespace Playscript.Json

/-- The value of a hexadecimal digit. -/
def hexDigit? (character : Char) : Option Nat :=
  if character.isDigit then some (character.toNat - '0'.toNat)
  else if 'a' ≤ character ∧ character ≤ 'f' then some (character.toNat - 'a'.toNat + 10)
  else if 'A' ≤ character ∧ character ≤ 'F' then some (character.toNat - 'A'.toNat + 10)
  else none

/-- The character for a letter after a backslash. -/
def letterEscape? : Char → Option Char
  | '"' => some '"'
  | '\\' => some '\\'
  | '/' => some '/'
  | 'b' => some '\x08'
  | 'f' => some '\x0c'
  | 'n' => some '\n'
  | 'r' => some '\r'
  | 't' => some '\t'
  | _ => none

/-- Whether a character must be escaped in a string. -/
def isControl (character : Char) : Bool := character.toNat < 0x20

namespace Reader

/-- Four hexadecimal digits. The text counts as ended if fewer than four bytes of it are left,
whatever they are. -/
def unit : Reader Nat := do
  let four := (← get).take 4
  if four.foldl (fun size character => size + character.utf8Size) 0 < 4 then throw .ended
  match four.mapM hexDigit? with
  | none => throw .malformed
  | some digits =>
    modify (List.drop 4)
    return digits.foldl (fun value digit => 16 * value + digit) 0

/-- A character given by one unit of UTF-16, or by two if the first is a leading surrogate. -/
def unitEscape : Reader Char := do
  let leading ← unit
  if 0xDC00 ≤ leading ∧ leading ≤ 0xDFFF then throw .malformed
  if leading < 0xD800 ∨ 0xDFFF < leading then return Char.ofNat leading
  word ['\\', 'u']
  let trailing ← unit
  if trailing < 0xDC00 ∨ 0xDFFF < trailing then throw .malformed
  return Char.ofNat (0x10000 + 0x400 * (leading - 0xD800) + (trailing - 0xDC00))

/-- The meaning of an escape, after its backslash. -/
def escape : Reader Char := do
  let letter ← next
  if letter = 'u' then unitEscape
  else
    match letterEscape? letter with
    | some character => return character
    | none => throw .malformed

/-- Passes over an escape, after its backslash. -/
def skipEscape : Reader Unit := do
  let letter ← next
  if letter = 'u' then
    let _ ← unit
  else if (letterEscape? letter).isNone then throw .malformed

/-- A string after its opening quote, of so many characters at most. -/
def stringWithin : Nat → Reader (List Char)
  | 0 => throw .ended
  | fuel + 1 => do
    let character ← next
    if character = '"' then return []
    if isControl character then throw .malformed
    let first ← if character = '\\' then escape else pure character
    let others ← stringWithin fuel
    return first :: others

/-- A string after its opening quote. Each of its characters takes up some of the text. -/
def string : Reader String := do
  let length := (← get).length
  let content ← stringWithin (length + 1)
  return String.ofList content

/-- Passes over a string after its opening quote, of so many characters at most. -/
def skipStringWithin : Nat → Reader Unit
  | 0 => throw .ended
  | fuel + 1 => do
    let character ← next
    if character = '"' then return
    if isControl character then throw .malformed
    if character = '\\' then skipEscape
    skipStringWithin fuel

/-- Passes over a string after its opening quote. -/
def skipString : Reader Unit := do
  let length := (← get).length
  skipStringWithin (length + 1)

end Reader

end Playscript.Json
