/-
This file writes a text as a quotation for diagnostics: between double quotes, with backslashes
before quotes and backslashes, with letters for common controls, and with the code point of whatever
cannot be seen on its own.
-/

import Playscript.Text.Extending
import Playscript.Text.Hidden

namespace Playscript

/-- A code point in braces, in lower-case hexadecimal digits. -/
def codePointEscape (character : Char) : List Char :=
  ['\\', 'u', '{'] ++ Nat.toDigits 16 character.toNat ++ ['}']

/-- A character as it stands inside a quotation. -/
def quotedCharacter (character : Char) : List Char :=
  match character with
  | '\x00' => ['\\', '0']
  | '\t' => ['\\', 't']
  | '\r' => ['\\', 'r']
  | '\n' => ['\\', 'n']
  | '\\' => ['\\', '\\']
  | '"' => ['\\', '"']
  | _ =>
    if CharClass.extending.contains character || CharClass.hidden.contains character then
      codePointEscape character
    else [character]

/-- A text between double quotes. -/
def quotation (text : String) : String :=
  String.ofList ('"' :: text.toList.flatMap quotedCharacter ++ ['"'])

/-! ### Samples -/

example : quotation "it's \"so\"\n" = "\"it's \\\"so\\\"\\n\"" := by decide +kernel

example : quotation "e\u0301\u200b" = "\"e\\u\x7b301\x7d\\u\x7b200b\x7d\"" := by decide +kernel

example : quotation "\uff76\uff9e" = "\"\uff76\uff9e\"" := by decide +kernel

example : quotation "\u3164!" = "\"\\u\x7b3164\x7d!\"" := by decide +kernel

end Playscript
