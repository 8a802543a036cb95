/-
This file says what a built-in operation comes to. It fails, and then the player is as it was, or it
succeeds and has one effect. Two of the effects are those of a nested call.
-/

import Playscript.Proofs.Steering

namespace Playscript

/-- Whether an operation does not play nodes. -/
def IsQuiet (name : String) : Prop := name ≠ Builtin.skip.name ∧ name ≠ Builtin.flush.name

instance (name : String) : Decidable (IsQuiet name) := inferInstanceAs (Decidable (_ ∧ _))

namespace Player

variable {player later : Player}

theorem eq_of_setSpeed {charsPerSecond : Float}
    (taken : player.setSpeed charsPerSecond = .ok later) :
    later =
      { player with settings := { player.settings with charsPerSecond := charsPerSecond } } := by
  unfold setSpeed at taken
  split at taken <;> cases taken
  rfl

theorem eq_of_pause {milliseconds : Float} (taken : player.pause milliseconds = .ok later) :
    later = { player with visit := { player.visit with pause := milliseconds } } := by
  unfold Player.pause at taken
  split at taken <;> cases taken
  rfl

end Player

namespace Builtin

/-- What an operation that succeeds does to a player. -/
inductive Effect (controls : Controls) (player : Player) : Builtin → Player → Prop
  | instant (instant : Bool) : Effect controls player .instant (player.setInstant instant)
  | flushing (flushes : Bool) :
      Effect controls player .flushing (player.setConfirmFlushes flushes)
  | speed {charsPerSecond : Float} {later : Player}
      (taken : player.setSpeed charsPerSecond = .ok later) : Effect controls player .speed later
  | pause {milliseconds : Float} {later : Player}
      (taken : player.pause milliseconds = .ok later) : Effect controls player .pause later
  | goto {name : String} {later : Player} (loaded : player.loadScene? name = some later) :
      Effect controls player .goto later
  | skip {later : Player} (skipped : controls.skipBeat player = some later) :
      Effect controls player .skip later
  | flush {later : Player} (continued : controls.continueBeat player = some later) :
      Effect controls player .flush later
  | clear : Effect controls player .clear player.clearOutput
  | finish : Effect controls player .finish player.endScene

/-- An action fails and leaves the player as it was, or succeeds and does something to it. If
`certain` holds, it is required to return. -/
def FailsOrDoes (certain : Prop) (does : Player → Player → Prop)
    (action : Action Player Misuse Unit) : Prop :=
  ∀ player, Ends certain (fun outcome : Except Misuse Unit × Player =>
      (∃ misuse, outcome.1 = .error misuse ∧ outcome.2 = player) ∨
        outcome.1 = .ok () ∧ does player outcome.2)
    (action player)

section FailsOrDoes

variable {certain : Prop} {does : Player → Player → Prop}

theorem failsOrDoes_attempt {update : Player → Except Misuse Player}
    (updates : ∀ player later, update player = .ok later → does player later) :
    FailsOrDoes certain does (attempt update) := by
  intro player
  unfold attempt
  split
  · rename_i later taken
    exact Or.inr ⟨rfl, updates player later taken⟩
  · rename_i misuse refused
    exact Or.inl ⟨misuse, rfl, rfl⟩

/-- Before an operation begins, its argument is read, and if this fails nothing happens. -/
theorem failsOrDoes_ofExcept_bind {Read : Type} {read : Except Misuse Read}
    {next : Read → Action Player Misuse Unit}
    (nexts : ∀ result, FailsOrDoes certain does (next result)) :
    FailsOrDoes certain does (Action.ofExcept read >>= next) := by
  cases read with
  | error misuse => exact fun player => Or.inl ⟨misuse, rfl, rfl⟩
  | ok result => exact nexts result

theorem failsOrDoes_change {update : Player → Player}
    (updates : ∀ player, does player (update player)) :
    FailsOrDoes certain does (Action.change update) :=
  fun player => Or.inr ⟨rfl, updates player⟩

theorem failsOrDoes_run {update : Player → Option Player}
    (updates : ∀ player, Ends certain (does player) (update player)) :
    FailsOrDoes certain does (Action.run update) :=
  fun player => (updates player).map fun _ did => Or.inr ⟨rfl, did⟩

theorem failsOrDoes_fail (misuse : Misuse) : FailsOrDoes certain does (Action.fail misuse) :=
  fun _ => Or.inl ⟨misuse, rfl, rfl⟩

end FailsOrDoes

theorem eq_ok_of_mapError {State : Type} {outcome : Except Refusal State} {later : State}
    (taken : outcome.mapError Misuse.refused = .ok later) : outcome = .ok later := by
  cases outcome with
  | error refusal => cases taken
  | ok state =>
    cases taken
    rfl

theorem loadScene?_of_loadScene {name : String} {player later : Player}
    (loaded : loadScene name player = .ok later) : player.loadScene? name = some later := by
  unfold loadScene at loaded
  split at loaded
  · rename_i found
    cases loaded
    exact found
  · cases loaded

/-- An operation fails and changes nothing, or has its effect. It returns unless it plays nodes. -/
theorem failsOrDoes_perform {certain : Prop} (controls : Controls) {builtin : Builtin}
    (quiet : certain → IsQuiet builtin.name) (arguments : List Value) :
    FailsOrDoes certain (fun player => Effect controls player builtin)
      (builtin.perform controls arguments) := by
  unfold perform
  split
  · exact failsOrDoes_change fun player => .instant _
  · exact failsOrDoes_change fun player => .instant _
  · exact failsOrDoes_change fun player => .flushing _
  · exact failsOrDoes_change fun player => .flushing _
  · exact failsOrDoes_ofExcept_bind fun charsPerSecond =>
      failsOrDoes_attempt fun player later taken => .speed (eq_ok_of_mapError taken)
  · exact failsOrDoes_ofExcept_bind fun milliseconds =>
      failsOrDoes_attempt fun player later taken => .pause (eq_ok_of_mapError taken)
  · exact failsOrDoes_attempt fun player later loaded => .goto (loadScene?_of_loadScene loaded)
  · exact failsOrDoes_fail _
  · refine failsOrDoes_run fun player => ?_
    cases skipped : controls.skipBeat player with
    | none => exact fun sure => absurd rfl (quiet sure).1
    | some later => exact .skip skipped
  · refine failsOrDoes_run fun player => ?_
    cases continued : controls.continueBeat player with
    | none => exact fun sure => absurd rfl (quiet sure).2
    | some later => exact .flush continued
  · exact failsOrDoes_change fun player => .clear
  · exact failsOrDoes_change fun player => .finish
  · exact failsOrDoes_fail _

/-- As expressions call it, an operation gives null, or a message for one of its misuses. -/
theorem operation_cases {controls : Controls} {builtin : Builtin} {arguments : List Value}
    {player later : Player} {result : Except String Value}
    (returned : builtin.operation controls arguments player = some (result, later)) :
    (∃ misuse : Misuse, result = .error misuse.message ∧ later = player) ∨
      result = .ok .null ∧ Effect controls player builtin later := by
  have performs : FailsOrDoes False (fun player => Effect controls player builtin)
      (builtin.perform controls arguments) := failsOrDoes_perform controls False.elim arguments
  unfold operation Action.mapError at returned
  cases performed : builtin.perform controls arguments player with
  | none =>
    rw [Action.bind_apply, Action.andThen, performed] at returned
    cases returned
  | some outcome =>
    obtain ⟨done, after⟩ := outcome
    rcases (performs player).of_some performed with ⟨misuse, rfl, rfl⟩ | ⟨rfl, effect⟩
    · rw [Action.bind_of_error performed] at returned
      cases returned
      exact Or.inl ⟨misuse, rfl, rfl⟩
    · rw [Action.bind_of_ok performed] at returned
      cases returned
      exact Or.inr ⟨rfl, effect⟩

end Builtin

end Playscript
