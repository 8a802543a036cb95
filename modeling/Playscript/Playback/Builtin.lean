/-
This file holds the built-in operations, by which a script steers its own playback: `speed('fast')`,
`pause(300)`, `goto('ending')` and so on. An operation looks at its arguments before it does
anything, so one that fails has changed nothing, and one that succeeds gives null.
-/

import Playscript.Playback.Controls

namespace Playscript

/-- The built-in operations. -/
inductive Builtin where
  | instant
  | flushing
  | speed
  | pause
  | goto
  | skip
  | flush
  | clear
  | finish
  deriving DecidableEq, Repr

/-- Why a built-in operation refuses its arguments. -/
inductive Misuse where
  /-- There are fewer arguments than the least or more than the greatest number. -/
  | argumentCount (least greatest count : Nat)
  | unknownSpeed (name : String)
  | unknownPause (name : String)
  | notNumberOrPreset (kind : ValueKind)
  | notSceneName (kind : ValueKind)
  | unknownScene (name : String)
  | refused (refusal : Refusal)

/-- Names in quotes, with commas between them. -/
def quotedNames (names : List String) : String :=
  ", ".intercalate (names.map fun name => "'" ++ name ++ "'")

/-- A misuse in words. -/
def Misuse.message : Misuse → String
  | argumentCount least greatest count =>
    let expected :=
      if least = greatest then toString least
      else toString least ++ " to " ++ toString greatest
    "expected " ++ expected ++ " argument" ++ (if greatest = 1 then "" else "s") ++ ", got " ++
      toString count
  | unknownSpeed name =>
    "unknown speed preset '" ++ name ++ "', expected one of " ++
      quotedNames (SpeedPreset.all.map (·.name))
  | unknownPause name =>
    "unknown pause preset '" ++ name ++ "', expected one of " ++
      quotedNames (PausePreset.all.map (·.name))
  | notNumberOrPreset kind => "expected a number or preset name, got " ++ kind.name
  | notSceneName kind => "expected a scene name, got " ++ kind.name
  | unknownScene name => "unknown scene '" ++ name ++ "'"
  | refused refusal => refusal.message

namespace Builtin

/-- All built-in operations. -/
def all : List Builtin := [instant, flushing, speed, pause, goto, skip, flush, clear, finish]

/-- The name by which scripts call an operation. -/
def name : Builtin → String
  | instant => "instant"
  | flushing => "flushing"
  | speed => "speed"
  | pause => "pause"
  | goto => "goto"
  | skip => "skip"
  | flush => "flush"
  | clear => "clear"
  | finish => "end"

/-- The least and the greatest number of arguments. -/
def argumentBounds : Builtin → Nat × Nat
  | instant | flushing => (0, 1)
  | speed | pause | goto => (1, 1)
  | skip | flush | clear | finish => (0, 0)

/-! ### Arguments -/

/-- The speed that an argument names or is. -/
def speedArgument (argument : Value) : Except Misuse Float :=
  match argument with
  | .string name =>
    match SpeedPreset.ofName? name with
    | some preset => .ok preset.charsPerSecond
    | none => .error (.unknownSpeed name)
  | _ =>
    match argument.number? with
    | some number => .ok number
    | none => .error (.notNumberOrPreset argument.kind)

/-- The length of the pause that an argument names or is. -/
def pauseArgument (argument : Value) : Except Misuse Float :=
  match argument with
  | .string name =>
    match PausePreset.ofName? name with
    | some preset => .ok preset.milliseconds
    | none => .error (.unknownPause name)
  | _ =>
    match argument.number? with
    | some number => .ok number
    | none => .error (.notNumberOrPreset argument.kind)

/-! ### Effects -/

/-- Changes the player unless it refuses. -/
def attempt (update : Player → Except Misuse Player) : Action Player Misuse Unit := fun player =>
  match update player with
  | .ok later => some (.ok (), later)
  | .error misuse => some (.error misuse, player)

/-- Goes to a scene. -/
def loadScene (name : String) (player : Player) : Except Misuse Player :=
  match player.loadScene? name with
  | some later => .ok later
  | none => .error (.unknownScene name)

/-- What an operation does. Without an argument the modes are switched over; with one they are set
by its truth. -/
def perform (controls : Controls) (builtin : Builtin) (arguments : List Value) :
    Action Player Misuse Unit :=
  match builtin, arguments with
  | instant, [] => Action.change fun player => player.setInstant !player.instant
  | instant, [value] => Action.change fun player => player.setInstant value.isTruthy
  | flushing, [] =>
    Action.change fun player => player.setConfirmFlushes !player.settings.confirmFlushes
  | flushing, [value] => Action.change fun player => player.setConfirmFlushes value.isTruthy
  | speed, [argument] => do
    let charsPerSecond ← Action.ofExcept (speedArgument argument)
    attempt fun player => (player.setSpeed charsPerSecond).mapError .refused
  | pause, [argument] => do
    let milliseconds ← Action.ofExcept (pauseArgument argument)
    attempt fun player => (player.pause milliseconds).mapError .refused
  | goto, [.string name] => attempt (loadScene name)
  | goto, [argument] => Action.fail (.notSceneName argument.kind)
  | skip, [] => Action.run controls.skipBeat
  | flush, [] => Action.run controls.continueBeat
  | clear, [] => Action.change Player.clearOutput
  | finish, [] => Action.change Player.endScene
  | _, _ =>
    let (least, greatest) := builtin.argumentBounds
    Action.fail (.argumentCount least greatest arguments.length)

/-- An operation as expressions call it. -/
def operation (controls : Controls) (builtin : Builtin) : Operation Player := fun arguments =>
  ((do builtin.perform controls arguments; pure .null) : Action Player Misuse Value).mapError
    Misuse.message

/-- The built-in operations under their names. -/
def registry (controls : Controls) : Registry Player :=
  all.foldl (fun table builtin => table.insert builtin.name (builtin.operation controls))
    Table.empty

end Builtin

/-- The calls of a player whose expressions have the built-in operations, nested up to a depth. -/
def Controls.builtin (depth : Nat) : Controls := nested Builtin.registry depth

end Playscript
