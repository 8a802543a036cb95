/-
This file resolves backslash escapes. Quoted strings of a script and string literals of an
expression share one table of escapes, so the same text means the same in both. Every bad escape of
a text is reported, in order.
-/

namespace Playscript

/-- What is wrong with an escape. -/
inductive EscapeFlaw where
  /-- The character after the backslash has no meaning there. -/
  | unknown (character : Char)
  /-- The text ends after the backslash. -/
  | incomplete
  deriving DecidableEq, Repr

namespace EscapeFlaw

/-- The flaw in words. -/
def message : EscapeFlaw → String
  | unknown character => "unknown escape sequence '\\" ++ String.singleton character ++ "'"
  | incomplete => "incomplete escape sequence '\\' at end of string"

end EscapeFlaw

/-- What a character stands for after a backslash. -/
def escapeMeaning : Char → Option Char
  | 'n' => some '\n'
  | 'r' => some '\r'
  | 't' => some '\t'
  | 'b' => some '\x08'
  | 'f' => some '\x0c'
  | 'v' => some '\x0b'
  | '0' => some '\x00'
  | 'a' => some '\x07'
  | 'e' => some '\x1b'
  | '\\' => some '\\'
  | '"' => some '"'
  | '\'' => some '\''
  | _ => none

/-- Replaces every escape by its meaning, or reports every escape that has none. -/
def unescape : List Char → Except (List EscapeFlaw) (List Char)
  | [] => .ok []
  | '\\' :: character :: rest =>
    match escapeMeaning character, unescape rest with
    | some meaning, .ok text => .ok (meaning :: text)
    | some _, .error flaws => .error flaws
    | none, .ok _ => .error [.unknown character]
    | none, .error flaws => .error (.unknown character :: flaws)
  | character :: rest =>
    if character = '\\' then .error [.incomplete]
    else (unescape rest).map (character :: ·)

/-- A text without a backslash stands for itself. -/
theorem unescape_of_no_backslash {text : List Char} (plain : ∀ character ∈ text, character ≠ '\\') :
    unescape text = .ok text := by
  induction text with
  | nil => rfl
  | cons character rest inductionHypothesis =>
    have first := plain character List.mem_cons_self
    unfold unescape
    split
    · contradiction
    · rename_i same
      exact absurd (List.cons.inj same).1 first
    · rename_i same
      obtain ⟨rfl, rfl⟩ := List.cons.inj same
      rw [if_neg first, inductionHypothesis fun c m => plain c (List.mem_cons_of_mem _ m)]
      rfl

end Playscript
