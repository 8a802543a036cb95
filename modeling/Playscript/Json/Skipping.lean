/-
This file passes over a JSON value that nobody asks for. Its brackets are kept on a pile instead of
being followed by recursion, so a value may be nested as deeply as it likes.
-/

import Playscript.Json.Text

namespace Playscript.Json

/-- What an open bracket belongs to. -/
inductive Bracket where
  | list
  | object
  deriving DecidableEq, Repr

/-- The character that closes a bracket. -/
def Bracket.closing : Bracket → Char
  | list => ']'
  | object => '}'

namespace Reader

/-- Passes over the digits, point and exponent of a number without its sign. A number that ends too
early counts as malformed here. -/
def skipMagnitude : Reader Unit := do
  let malformedIfNone (found : List Char) : Reader Unit :=
    if found = [] then throw .malformed else pure ()
  let whole ← digits
  malformedIfNone whole
  if whole.head? = some '0' ∧ 1 < whole.length then throw .malformed
  if (← peek?) = some '.' then
    drop
    malformedIfNone (← digits)
  let mark ← peek?
  if mark = some 'e' ∨ mark = some 'E' then
    drop
    let sign ← peek?
    if sign = some '+' ∨ sign = some '-' then drop
    malformedIfNone (← digits)

/-- Passes over a value up to its end or, if the value has brackets, up to the first of them, which
is given. -/
def skipStart : Reader (Option Bracket) := do
  let first ← visible
  if first.isDigit then
    skipMagnitude
    return none
  match first with
  | '[' => drop; return some .list
  | '{' => drop; return some .object
  | '"' => drop; skipString; return none
  | '-' => drop; skipMagnitude; return none
  | 'n' => word ['n', 'u', 'l', 'l']; return none
  | 't' => word ['t', 'r', 'u', 'e']; return none
  | 'f' => word ['f', 'a', 'l', 's', 'e']; return none
  | _ => throw .malformed

/-- Passes over what stands before a value inside a bracket: in an object, a name and a colon. -/
def skipName : Bracket → Reader Unit
  | .list => return
  | .object => do
    if (← visible) ≠ '"' then throw .malformed
    drop
    skipString
    if (← visible) ≠ ':' then throw .malformed
    drop

/-- Where a reader stands inside the innermost open bracket. -/
inductive Spot where
  /-- Behind the opening bracket. -/
  | opened
  /-- Behind a value. -/
  | filled
  deriving DecidableEq, Repr

/-- Passes over what is left of some open brackets, the innermost first, in so many rounds at most.
-/
def skipRest : Nat → Spot → List Bracket → Reader Unit
  | _, _, [] => return
  | 0, _, _ => throw .ended
  | fuel + 1, spot, innermost :: others => do
    let character ← visible
    if character = innermost.closing then
      drop
      skipRest fuel .filled others
    else
      if spot = .filled then
        if character ≠ ',' then throw .malformed
        drop
      skipName innermost
      match ← skipStart with
      | none => skipRest fuel .filled (innermost :: others)
      | some bracket => skipRest fuel .opened (bracket :: innermost :: others)

/-- Passes over a value. Each round takes up some of the text. -/
def skipValue : Reader Unit := do
  let length := (← get).length
  match ← skipStart with
  | none => return
  | some bracket => skipRest (length + 1) .opened [bracket]

end Reader

end Playscript.Json
