/-
This file ties the player and the operations of expressions together. Some operations call the
player that is evaluating them, so the calls of a player and its operations are defined by each
other; the depth to which they may be nested is given, and calls that nest more deeply do not
return.
-/

import Playscript.Playback.Playing

namespace Playscript

/-- The calls by which time and the reader drive a player. A call that does not return gives none.
-/
structure Controls where
  advance : Float → Player → Option Player
  confirm : Player → Option Player
  continueBeat : Player → Option Player
  skipBeat : Player → Option Player

namespace Controls

/-- The calls of which none returns. -/
def stuck : Controls := ⟨fun _ _ => none, fun _ => none, fun _ => none, fun _ => none⟩

/-- The calls that play with the operations of a registry. -/
def ofRegistry (registry : Registry Player) : Controls where
  advance milliseconds player := player.advance registry milliseconds
  confirm player := player.confirm registry
  continueBeat player := player.continueBeat registry
  skipBeat player := player.skipBeat registry

/-- The calls that play with operations which call the player, nested up to a depth. -/
def nested (operations : Controls → Registry Player) : Nat → Controls
  | 0 => stuck
  | depth + 1 =>
    { advance := fun milliseconds player =>
        (ofRegistry (operations (nested operations depth))).advance milliseconds player
      confirm := fun player => (ofRegistry (operations (nested operations depth))).confirm player
      continueBeat := fun player =>
        (ofRegistry (operations (nested operations depth))).continueBeat player
      skipBeat := fun player =>
        (ofRegistry (operations (nested operations depth))).skipBeat player }

theorem nested_succ (operations : Controls → Registry Player) (depth : Nat) :
    nested operations (depth + 1) = ofRegistry (operations (nested operations depth)) := rfl

end Controls

end Playscript
