/-
This file writes JSON without white space: strings, lists, and objects whose fields stand in a given
order. Only quotes, backslashes and controls are escaped in a string.
-/

namespace Playscript.Json

/-- A character as it stands inside a string. Controls without a letter of their own are written
with four lower-case hexadecimal digits. -/
def stringCharacter (character : Char) : List Char :=
  match character with
  | '"' => ['\\', '"']
  | '\\' => ['\\', '\\']
  | '\x08' => ['\\', 'b']
  | '\t' => ['\\', 't']
  | '\n' => ['\\', 'n']
  | '\x0c' => ['\\', 'f']
  | '\r' => ['\\', 'r']
  | _ =>
    if character.toNat < 0x20 then
      ['\\', 'u', '0', '0', Nat.digitChar (character.toNat / 16),
        Nat.digitChar (character.toNat % 16)]
    else [character]

/-- A string. -/
def string (text : String) : String :=
  String.ofList ('"' :: text.toList.flatMap stringCharacter ++ ['"'])

/-- A natural number. -/
def natural (number : Nat) : String := toString number

/-- Something that is written as null where it is absent. -/
def orNull {Part : Type} (write : Part → String) : Option Part → String
  | some part => write part
  | none => "null"

/-- A list of what has already been written. -/
def list (items : List String) : String := "[" ++ ",".intercalate items ++ "]"

/-- An object of fields that have already been written. -/
def object (fields : List (String × String)) : String :=
  "\x7b" ++ ",".intercalate (fields.map fun field => string field.1 ++ ":" ++ field.2) ++ "\x7d"

end Playscript.Json
