/-
This file holds players. A player stands at some beat of a programme and either plays the beat,
waits for it to be confirmed, or is done. Whatever belongs to one visit to a beat is kept together,
and entering a beat starts it afresh; visits are numbered, so an expression that has moved the
player on can be noticed.
-/

import Playscript.Expr.Registry
import Playscript.Number.Text
import Playscript.Playback.Event
import Playscript.Playback.Settings
import Playscript.Script.Programme

namespace Playscript

/-- What a player is about to do. -/
inductive Status where
  /-- It plays the nodes of a beat. -/
  | emitting
  /-- The beat has been played to its end and has to be confirmed. -/
  | waiting
  | done
  deriving DecidableEq, Repr

/-- A status as scripts and hosts call it. -/
def Status.name : Status → String
  | emitting => "emitting"
  | waiting => "waiting"
  | done => "done"

/-! ### Typing -/

/-- A text that is being typed: the characters that have been typed, the latest first, and those
that are still to come. -/
structure Typing where
  shown : List Char := []
  pending : List Char := []
  deriving DecidableEq, Repr

namespace Typing

/-- The whole text. -/
def text (typing : Typing) : List Char := typing.shown.reverse ++ typing.pending

/-- A text of which nothing has been typed. -/
def start (text : String) : Typing := ⟨[], text.toList⟩

/-- The text when all of it has been shown. -/
def finish (typing : Typing) : Typing := ⟨typing.pending.reverse ++ typing.shown, []⟩

@[simp] theorem text_start (text : String) : (start text).text = text.toList := rfl

@[simp] theorem text_finish (typing : Typing) : typing.finish.text = typing.text := by
  simp [Typing.text, finish]

end Typing

/-! ### Players -/

/-- What belongs to one visit to a beat. -/
structure Visit where
  /-- The number of the next node. -/
  node : Nat := 0
  typing : Typing := {}
  /-- The milliseconds that have passed and not been spent on characters. -/
  elapsed : Float := 0
  /-- The milliseconds for which nothing is typed. -/
  pause : Float := 0
  /-- The expressions to evaluate when the beat is confirmed. -/
  deferred : List Expr := []

/-- A player of a programme. -/
structure Player where
  programme : Programme
  /-- The settings that a scene starts with. -/
  defaults : Settings
  settings : Settings
  scope : Scope := Table.empty
  /-- What the player has put out, the first event first. -/
  events : Array Event := #[]
  status : Status := .done
  /-- The number of the scene in the programme. -/
  scene : Nat := 0
  /-- The number of the beat in the scene. -/
  beat : Nat := 0
  visit : Visit := {}
  /-- The number of the visit. It is not bounded; a counter of 64 bits would be the same for the
  first 2 ^ 64 visits. -/
  epoch : Nat := 0
  /-- Whether plain text appears at once. -/
  instant : Bool := false

instance : HasScope Player where
  scope player := player.scope
  withScope player scope := { player with scope := scope }

/-- Why a player does not take a number. -/
inductive Refusal where
  | speed (charsPerSecond : Float)
  | pause (milliseconds : Float)

/-- A refusal in words. -/
def Refusal.message : Refusal → String
  | speed charsPerSecond =>
    "speed must be a positive number of characters per second, got " ++ floatText charsPerSecond
  | pause milliseconds =>
    "pause must be a non-negative number of milliseconds, got " ++ floatText milliseconds

namespace Player

/-! ### What stands where -/

/-- The name of the scene; empty if the programme has no scene. -/
def sceneName (player : Player) : String :=
  match player.programme.scenes[player.scene]? with
  | some scene => scene.name
  | none => ""

/-- The nodes of the beat; none if the scene has no such beat. -/
def nodes (player : Player) : List (Node Expr) :=
  (player.programme.beat? player.scene player.beat).getD []

/-- The next node of the beat. -/
def node? (player : Player) : Option (Node Expr) :=
  player.programme.node? player.scene player.beat player.visit.node

/-! ### Output -/

/-- Puts an event out. -/
def emit (player : Player) (event : Event) : Player :=
  { player with events := player.events.push event }

/-- Wipes the display. -/
def clearOutput (player : Player) : Player := player.emit .clear

/-! ### Settings -/

/-- Changes the speed; it has to be finite and positive. -/
def setSpeed (player : Player) (charsPerSecond : Float) : Except Refusal Player :=
  if Settings.isSpeed charsPerSecond then
    .ok { player with settings := { player.settings with charsPerSecond := charsPerSecond } }
  else .error (.speed charsPerSecond)

/-- Changes whether a confirmation cuts the typing short. -/
def setConfirmFlushes (player : Player) (flushes : Bool) : Player :=
  { player with settings := { player.settings with confirmFlushes := flushes } }

/-- Changes whether plain text appears at once. -/
def setInstant (player : Player) (instant : Bool) : Player := { player with instant := instant }

/-- Holds the typing up for some time, which has to be finite and not negative. What has elapsed is
kept and spent afterwards. -/
def pause (player : Player) (milliseconds : Float) : Except Refusal Player :=
  if milliseconds.isFinite && 0 ≤ milliseconds then
    .ok { player with visit := { player.visit with pause := milliseconds } }
  else .error (.pause milliseconds)

/-! ### Moving -/

/-- Begins a visit to a beat of the scene. A scene without such a beat is done. -/
def enterBeat (player : Player) (beat : Nat) : Player :=
  { player with
    beat := beat
    visit := {}
    epoch := player.epoch + 1
    status := if (player.programme.beat? player.scene beat).isSome then .emitting else .done }

/-- Goes to the start of a scene, with the settings that a scene starts with. None if the programme
has no such scene. -/
def loadScene? (player : Player) (name : String) : Option Player :=
  (player.programme.sceneIndex? name).map fun scene =>
    enterBeat { player with scene := scene, settings := player.defaults, instant := false } 0

/-- Ends the scene at once. -/
def endScene (player : Player) : Player :=
  { player with visit := {}, epoch := player.epoch + 1, status := .done }

/-- A player at the start of the main scene; a programme without one is done. A speed that makes no
progress is replaced by the usual one. -/
def start (programme : Programme) (settings : Settings) : Player :=
  let player : Player :=
    { programme := programme, defaults := settings.repaired, settings := settings.repaired }
  (player.loadScene? mainScene).getD player

end Player

end Playscript
