/-
This file holds everything that the host of a player can ask of it between two moments: to let time
pass, to take a confirmation, to go elsewhere, to change settings and variables. Every request has
an answer.
-/

import Playscript.Playback.Controls

namespace Playscript

/-- A request of the host. -/
inductive Request where
  | advance (milliseconds : Float)
  | confirm
  | continueBeat
  | skipBeat
  | loadScene (name : String)
  | endScene
  | clearOutput
  | setInstant (instant : Bool)
  | setConfirmFlushes (flushes : Bool)
  | setSpeed (charsPerSecond : Float)
  | pause (milliseconds : Float)
  | setVariable (name : String) (value : Value)
  | removeVariable (name : String)
  | isDone

/-- The answer to a request. -/
inductive Answer where
  | nothing
  | status (status : Status)
  | truth (truth : Bool)
  | refused (refusal : Refusal)
  /-- The earlier value of a variable, if it had one. -/
  | earlier (value? : Option Value)

namespace Request

/-- The answer for a player that may refuse, and the player afterwards. -/
def settle (player : Player) : Except Refusal Player → Answer × Player
  | .ok later => (.nothing, later)
  | .error refusal => (.refused refusal, player)

/-- Fulfils a request; none if it does not return. -/
def fulfil (controls : Controls) (request : Request) (player : Player) : Option (Answer × Player) :=
  match request with
  | advance milliseconds =>
    (controls.advance milliseconds player).map fun later => (.status later.status, later)
  | confirm => (controls.confirm player).map fun later => (.nothing, later)
  | continueBeat => (controls.continueBeat player).map fun later => (.nothing, later)
  | skipBeat => (controls.skipBeat player).map fun later => (.nothing, later)
  | loadScene name =>
    match player.loadScene? name with
    | some later => some (.truth true, later)
    | none => some (.truth false, player)
  | endScene => some (.nothing, player.endScene)
  | clearOutput => some (.nothing, player.clearOutput)
  | setInstant instant => some (.nothing, player.setInstant instant)
  | setConfirmFlushes flushes => some (.nothing, player.setConfirmFlushes flushes)
  | setSpeed charsPerSecond => some (settle player (player.setSpeed charsPerSecond))
  | pause milliseconds => some (settle player (player.pause milliseconds))
  | setVariable name value =>
    let (value?, scope) := player.scope.set name value
    some (.earlier value?, { player with scope := scope })
  | removeVariable name =>
    let (value?, scope) := player.scope.remove name
    some (.earlier value?, { player with scope := scope })
  | isDone => some (.truth (player.status == .done), player)

/-- Fulfils requests, one after the other; none if one of them does not return. -/
def fulfilAll (controls : Controls) : List Request → Player → Option (List Answer × Player)
  | [], player => some ([], player)
  | request :: rest, player =>
    match request.fulfil controls player with
    | none => none
    | some (answer, later) =>
      (fulfilAll controls rest later).map fun (answers, last) => (answer :: answers, last)

end Request

end Playscript
