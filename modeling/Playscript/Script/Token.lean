/-
This file turns the text of a script into tokens with positions. A place in a script says what is
still to be read; reading goes on behind a piece whether or not it was a token, so a place can also
be asked for what follows a mistake.
-/

import Playscript.Script.Piece
import Playscript.Text.Position

namespace Playscript

/-- A token of a script: its kind, its text and the position of its first character, the sigil
included. -/
structure Token where
  kind : TokenKind
  text : String
  position : Position
  deriving DecidableEq, Repr

/-- A fault in a script and the position of the piece that has it. -/
structure Mistake where
  fault : LexicalFault
  position : Position
  deriving DecidableEq, Repr

/-- A mistake in words. -/
def Mistake.message (mistake : Mistake) : String :=
  mistake.fault.phrase ++ " at " ++ mistake.position.text

/-- A place in a script: the text from there on, its position, and whether a line starts there. -/
structure Place where
  rest : List Char
  position : Position
  atLineStart : Bool
  deriving DecidableEq, Repr

namespace Place

/-- The place before a whole text. -/
def start (text : List Char) : Place := ⟨text, .start, true⟩

/-- The place behind a piece that begins here. -/
def behind (place : Place) (piece : Piece) : Place :=
  ⟨piece.rest, place.position.afterAll piece.taken, piece.taken.getLast? == some '\n'⟩

/-- The token or mistake that stands here, and the place behind it. At the end of the text there is
a token for the end, again and again. -/
def next (place : Place) : Except Mistake Token × Place :=
  match place.rest with
  | [] => (.ok ⟨.finish, "", place.position⟩, place)
  | character :: rest =>
    let piece := Piece.first place.atLineStart character rest
    let finding :=
      match piece.finding with
      | .ok (kind, text) => .ok ⟨kind, String.ofList text, place.position⟩
      | .error fault => .error ⟨fault, place.position⟩
    (finding, place.behind piece)

/-- Unless the text is at its end, the place behind a token has less text before it. -/
theorem length_next_lt (place : Place) (more : place.rest ≠ []) :
    place.next.2.rest.length < place.rest.length := by
  unfold next
  split
  · contradiction
  · rename_i character rest same
    rw [same]
    exact Piece.length_rest_first ..

/-- The tokens from a place on, up to and with the end of the text, or the first mistake. -/
def tokens (place : Place) : Except Mistake (List Token) :=
  if _more : place.rest = [] then .ok [⟨.finish, "", place.position⟩]
  else
    match place.next.1 with
    | .error mistake => .error mistake
    | .ok token => place.next.2.tokens.map (token :: ·)
termination_by place.rest.length
decreasing_by exact length_next_lt place (by assumption)

/-- The results of asking for the next token so many times, whatever the results are. -/
def nextTokens : Nat → Place → List (Except Mistake Token)
  | 0, _ => []
  | count + 1, place => place.next.1 :: nextTokens count place.next.2

end Place

/-- The tokens of a script; the last one is the end of the text. -/
def Token.scan (source : String) : Except Mistake (List Token) :=
  (Place.start source.toList).tokens

end Playscript
