/-
This file reads quoted text. Scripts and the expressions inside them end a quotation in the same
way: at the first quote of the kind that opened it, where a backslash takes the character after it
along, whatever that is.
-/

namespace Playscript

/-- Whether a character opens a quotation. -/
def isQuote (character : Char) : Bool := character == '"' || character == '\''

/-- Reads up to a closing quote: what stands before it, and what follows it. None if there is no
closing quote. -/
def quotedSpan (quote : Char) : List Char → Option (List Char × List Char)
  | [] => none
  | '\\' :: escaped :: rest =>
    (quotedSpan quote rest).map fun (content, after) => ('\\' :: escaped :: content, after)
  | character :: rest =>
    if character = '\\' then none
    else if character = quote then some ([], rest)
    else (quotedSpan quote rest).map fun (content, after) => (character :: content, after)

/-- A quotation with its closing quote is a piece of the text it was read from. -/
theorem quotedSpan_eq_some {quote : Char} {text content after : List Char}
    (read : quotedSpan quote text = some (content, after)) :
    text = content ++ quote :: after := by
  fun_induction quotedSpan quote text generalizing content after with
  | case1 => cases read
  | case2 escaped rest inductionHypothesis =>
    obtain ⟨⟨inner, later⟩, found, same⟩ := Option.map_eq_some_iff.mp read
    cases same
    simp [inductionHypothesis found]
  | case3 => cases read
  | case4 =>
    cases read
    rfl
  | case5 character rest _ _ _ inductionHypothesis =>
    obtain ⟨⟨inner, later⟩, found, same⟩ := Option.map_eq_some_iff.mp read
    cases same
    simp [inductionHypothesis found]

/-- What follows a quotation is shorter than what it was read from. -/
theorem length_lt_of_quotedSpan {quote : Char} {text content after : List Char}
    (read : quotedSpan quote text = some (content, after)) : after.length < text.length := by
  rw [quotedSpan_eq_some read]
  simp
  omega

end Playscript
