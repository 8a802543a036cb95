/-
This file shows that playing only goes forward. Whatever is evaluated or played, what has been put
out stays, visits are not taken back, and within one visit the player stays at its beat, goes to
later nodes only, and at most changes from emitting to waiting. So the number of the visit tells
whether the player has been moved, which is what the rest of a play relies on.

The argument goes by the depth to which calls are nested: calls that go forward make operations that
go forward, and these make calls that do so one level up.
-/

import Playscript.Playback.Host
import Playscript.Proofs.Steering
import Playscript.Proofs.Visits

namespace Playscript

/-! ### Evaluations -/

/-- Nested calls that go forward. A call that skips a beat enters another visit, unless the play is
over. -/
structure Controls.Forward (controls : Controls) : Prop where
  skipBeat : ∀ player : Player, Ends False
    (fun later => player.Continues later ∧ (player.status ≠ .done → player.epoch < later.epoch))
    (controls.skipBeat player)
  continueBeat : ∀ player : Player, Ends False player.Continues (controls.continueBeat player)

namespace Player

variable {controls : Controls} (forward : controls.Forward)

include forward

theorem lastsThroughSteering_continues (player : Player) :
    LastsThroughSteering False (fun _ => True) controls player.Continues where
  assignment _ continues :=
    continues.trans (.of_stands ⟨rfl, rfl, rfl, rfl, rfl, rfl, rfl⟩ List.prefix_rfl)
  emit event continues := continues.trans (continues_emit _ event)
  setInstant _ continues :=
    continues.trans (.of_stands ⟨rfl, rfl, rfl, rfl, rfl, rfl, rfl⟩ List.prefix_rfl)
  setConfirmFlushes _ continues :=
    continues.trans (.of_stands ⟨rfl, rfl, rfl, rfl, rfl, rfl, rfl⟩ List.prefix_rfl)
  setSpeed _ continues _ :=
    continues.trans (.of_stands ⟨rfl, rfl, rfl, rfl, rfl, rfl, rfl⟩ List.prefix_rfl)
  setPause _ continues :=
    continues.trans (.of_stands ⟨rfl, rfl, rfl, rfl, rfl, rfl, rfl⟩ List.prefix_rfl)
  loadScene _ continues loaded := continues.trans (continues_loadScene loaded)
  endScene continues := continues.trans (continues_endScene _)
  skipBeat _ continues := (forward.skipBeat _).imp fun _ further => continues.trans further.1
  continueBeat _ continues := (forward.continueBeat _).imp fun _ further => continues.trans further

theorem continues_evaluate (player : Player) (expression : Expr) :
    Ends False (fun outcome : Option Value × Player => player.Continues outcome.2)
      (player.evaluate (Builtin.registry controls) expression) :=
  (lastsThroughSteering_continues forward player).ends_evaluate expression
    (fun _ _ => trivial) (.refl player)

theorem continues_evaluateAll (player : Player) (expressions : List Expr) :
    Ends False player.Continues
      (evaluateAll (Builtin.registry controls) expressions player) :=
  (lastsThroughSteering_continues forward player).ends_evaluateAll expressions
    (fun _ _ _ _ => trivial) (.refl player)

/-! ### Playing a beat -/

theorem continues_playNode (flushing : Bool) (node : Node Expr) (player : Player) :
    Ends False player.Continues
      (player.playNode (Builtin.registry controls) flushing node) := by
  cases node with
  | text content => exact player.continues_render _ content
  | instantString content => exact player.continues_render true content
  | typewriterString content => exact player.continues_render flushing content
  | inlineExpr expression =>
    exact (continues_evaluate forward player expression).map fun _ continues => continues
  | deferredExpr expression => exact player.continues_defer expression
  | instantExpr expression =>
    exact (continues_evaluate forward player expression).map fun outcome continues =>
      continues.trans (outcome.2.continues_renderValue _ _ _)
  | typewriterExpr expression =>
    exact (continues_evaluate forward player expression).map fun outcome continues =>
      continues.trans (outcome.2.continues_renderValue _ _ _)

/-- A player that still emits within its visit after a node was loaded is past that node. -/
theorem continues_loadNode (flushing : Bool) (player : Player)
    (emitting : player.status = .emitting) :
    Ends False
      (fun later => player.Continues later ∧
        (later.status = .emitting → later.epoch = player.epoch →
          player.visit.node < later.visit.node ∧ player.node?.isSome))
      (player.loadNode (Builtin.registry controls) flushing) := by
  unfold loadNode
  cases next : player.node? with
  | none =>
    refine ⟨⟨rfl, List.prefix_rfl, le_rfl, fun _ => ?_⟩, fun stillEmitting => ?_⟩
    · exact ⟨rfl, rfl, le_rfl, List.prefix_rfl, Or.inr ⟨emitting, rfl⟩⟩
    · cases stillEmitting
  | some node =>
    refine (continues_playNode forward flushing node player.passNode).imp fun later continues => ?_
    refine ⟨player.continues_passNode.trans continues, fun _ same => ⟨?_, rfl⟩⟩
    exact (continues.visit same).node

/-- While a beat goes on, each node that is loaded leaves fewer rounds. -/
theorem rounds_loadNode (flushing : Bool) (player : Player) (emitting : player.status = .emitting) :
    Ends False
      (fun later => later.status = .emitting ∧ later.epoch = player.epoch →
        later.rounds < player.rounds)
      (player.loadNode (Builtin.registry controls) flushing) := by
  refine (continues_loadNode forward flushing player emitting).imp fun later loaded going => ?_
  obtain ⟨continues, further⟩ := loaded
  obtain ⟨passed, isNode⟩ := further going.1 going.2
  obtain ⟨node, next⟩ := Option.isSome_iff_exists.mp isNode
  have inside := length_of_node? next
  unfold rounds
  rw [continues.nodes_eq going.2]
  omega

/-! ### Loops over nodes -/

/-- What loading a node keeps is kept by the loop that shows nodes at once, and the loop ends when
the player no longer emits within the visit. It does end if there are enough rounds for what is left
of the beat. -/
theorem ends_flushNodes {certain : Prop} {property : Player → Prop} {epoch : Nat}
    (loads : ∀ player : Player, property player → player.status = .emitting →
      Ends certain property (player.loadNode (Builtin.registry controls) true))
    (rounds : Nat) {player : Player} (holds : property player)
    (enough : certain → player.status = .emitting ∧ player.epoch = epoch →
      player.rounds ≤ rounds) :
    Ends certain (fun later => property later ∧ ¬ (later.status = .emitting ∧ later.epoch = epoch))
      (flushNodes (Builtin.registry controls) epoch rounds player) := by
  induction rounds generalizing player with
  | zero =>
    unfold flushNodes
    by_cases going : player.status = .emitting ∧ player.epoch = epoch
    · rw [if_pos going]
      exact fun sure => absurd (enough sure going) (Nat.not_succ_le_zero _)
    · rw [if_neg going]
      exact ⟨holds, going⟩
  | succ rounds inductionHypothesis =>
    unfold flushNodes
    by_cases going : player.status = .emitting ∧ player.epoch = epoch
    · rw [if_pos going]
      have loaded := (loads player holds going.1).and (rounds_loadNode forward true player going.1)
      refine loaded.bind fun later both => inductionHypothesis both.1 fun sure still => ?_
      have fewer := both.2 ⟨still.1, still.2.trans going.2.symm⟩
      exact Nat.le_of_lt_succ (fewer.trans_le (enough sure going))
    · rw [if_neg going]
      exact ⟨holds, going⟩

/-- What typing and loading a node keep is kept by a frame. Nodes are loaded when nothing is left to
type. -/
theorem ends_playFrame {certain : Prop} {property : Player → Prop} {epoch : Nat}
    (types : ∀ player : Player, property player → player.status = .emitting →
      property player.typePending)
    (loads : ∀ player : Player, property player → player.status = .emitting →
      player.visit.typing.pending = [] →
      Ends certain property (player.loadNode (Builtin.registry controls) false))
    (rounds : Nat) {player : Player} (holds : property player)
    (enough : certain → player.status = .emitting ∧ player.epoch = epoch →
      player.rounds ≤ rounds) :
    Ends certain property (playFrame (Builtin.registry controls) epoch rounds player) := by
  induction rounds generalizing player with
  | zero =>
    unfold playFrame
    by_cases going : player.status = .emitting ∧ player.visit.pause ≤ 0 ∧ player.epoch = epoch
    · rw [if_pos going]
      dsimp only
      split
      · exact fun sure => absurd (enough sure ⟨going.1, going.2.2⟩) (Nat.not_succ_le_zero _)
      · exact types player holds going.1
    · rw [if_neg going]
      exact holds
  | succ rounds inductionHypothesis =>
    unfold playFrame
    by_cases going : player.status = .emitting ∧ player.visit.pause ≤ 0 ∧ player.epoch = epoch
    · rw [if_pos going]
      have stands := player.standsWith_typePending
      have emitting : player.typePending.status = .emitting := stands.status.trans going.1
      have typed := types player holds going.1
      dsimp only
      split
      · rename_i nothing
        have loaded := (loads _ typed emitting nothing).and
          (rounds_loadNode forward false player.typePending emitting)
        refine loaded.bind fun later both => inductionHypothesis both.1 fun sure still => ?_
        have fewer := both.2 ⟨still.1, (still.2.trans going.2.2.symm).trans stands.epoch.symm⟩
        rw [rounds_of_stands stands] at fewer
        exact Nat.le_of_lt_succ (fewer.trans_le (enough sure ⟨going.1, going.2.2⟩))
      · exact typed
    · rw [if_neg going]
      exact holds

/-! ### Showing the rest of a beat, and finishing it -/

theorem continues_flushNodes (epoch rounds : Nat) (player : Player) :
    Ends False
      (fun later => player.Continues later ∧ ¬ (later.status = .emitting ∧ later.epoch = epoch))
      (flushNodes (Builtin.registry controls) epoch rounds player) := by
  refine ends_flushNodes forward (fun middle continues emitting => ?_) rounds (.refl player)
    False.elim
  exact (continues_loadNode forward true middle emitting).imp fun _ further =>
    continues.trans further.1

/-- A player that emits after the rest of its beat was shown is at another visit. -/
theorem continues_continueBeat (player : Player) :
    Ends False
      (fun later => player.Continues later ∧
        (player.status = .emitting → later.status = .emitting → player.epoch < later.epoch))
      (player.continueBeat (Builtin.registry controls)) := by
  unfold Player.continueBeat
  split
  · refine (continues_flushNodes forward player.epoch player.rounds player.showPending).map ?_
    intro later further
    have continues := player.continues_showPending.trans further.1
    have dropped := later.continues_dropTime player.epoch
    refine ⟨continues.trans dropped, fun _ emitting => ?_⟩
    have stands := later.standsWith_dropTime player.epoch
    rw [stands.epoch]
    refine lt_of_le_of_ne continues.epoch fun same => further.2 ⟨?_, same.symm⟩
    exact stands.status.symm.trans emitting
  · rename_i notEmitting
    exact ⟨.refl player, fun emitting => absurd emitting notEmitting⟩

/-- Finishing a beat always leaves it for another visit. -/
theorem continues_finishBeat (player : Player) (waiting : player.status = .waiting) :
    Ends False (fun later => player.Continues later ∧ player.epoch < later.epoch)
      (player.finishBeat (Builtin.registry controls)) := by
  unfold finishBeat takeDeferred
  refine (continues_evaluateAll forward _ player.visit.deferred).map fun later continues => ?_
  have events := (continues.trans (later.continues_emit .clear)).events
  have after : player.epoch < (if later.clearOutput.status = .waiting then
      later.clearOutput.enterBeat (later.clearOutput.beat + 1) else later.clearOutput).epoch := by
    split
    · exact Nat.lt_succ_of_le continues.epoch
    · rename_i notWaiting
      refine lt_of_le_of_ne continues.epoch fun same => notWaiting ?_
      rcases (continues.visit same.symm).status with status | ⟨emitting, _⟩
      · exact status.trans waiting
      · rw [show player.status = .emitting from emitting] at waiting
        cases waiting
  refine ⟨.of_epoch_lt ?_ ?_ after, after⟩
  · dsimp only
    split <;> exact continues.programme
  · dsimp only
    split <;> exact events

theorem continues_skipBeat (player : Player) :
    Ends False
      (fun later => player.Continues later ∧ (player.status ≠ .done → player.epoch < later.epoch))
      (player.skipBeat (Builtin.registry controls)) := by
  unfold Player.skipBeat
  refine (continues_continueBeat forward player).bind fun middle continued => ?_
  split
  · rename_i waiting
    refine (continues_finishBeat forward middle waiting).imp fun later finished => ?_
    exact ⟨continued.1.trans finished.1, fun _ => continued.1.epoch.trans_lt finished.2⟩
  · rename_i notWaiting
    refine ⟨continued.1, fun notDone => ?_⟩
    refine lt_of_le_of_ne continued.1.epoch fun same => ?_
    have visit := continued.1.visit same.symm
    cases status : middle.status with
    | waiting => exact notWaiting status
    | done => exact continued.1.status_ne_done same.symm notDone status
    | emitting =>
      rcases visit.status with unchanged | ⟨_, waiting⟩
      · exact (continued.2 (unchanged ▸ status) status).ne same
      · exact notWaiting waiting

end Player

/-! ### Letting time pass -/

namespace Player

/-- A player whose clocks show something else. -/
def withTime (player : Player) (pause elapsed : Float) : Player :=
  { player with visit := { player.visit with pause := pause, elapsed := elapsed } }

theorem standsWith_withTime (player : Player) (pause elapsed : Float) :
    player.StandsWith (player.withTime pause elapsed) :=
  ⟨rfl, rfl, rfl, rfl, rfl, rfl, rfl⟩

/-- Time is counted first. Then it is used up, or a frame is played. -/
theorem advance_cases (registry : Registry Player) (milliseconds : Float) (player : Player) :
    (∃ pause elapsed, player.advance registry milliseconds = some (player.withTime pause elapsed)) ∨
      player.status = .emitting ∧ ∃ pause elapsed, player.advance registry milliseconds =
        playFrame registry player.epoch player.rounds (player.withTime pause elapsed) := by
  unfold Player.advance
  generalize (if milliseconds.isFinite && 0 < milliseconds then milliseconds else 0) = time
  dsimp only
  split
  · rename_i emitting
    split
    · split
      · exact Or.inl ⟨_, _, rfl⟩
      · exact Or.inr ⟨emitting, _, _, rfl⟩
    · exact Or.inr ⟨emitting, _, _, rfl⟩
  · exact Or.inl ⟨player.visit.pause, player.visit.elapsed, rfl⟩

variable {controls : Controls} (forward : controls.Forward)

include forward

theorem continues_playFrame (epoch rounds : Nat) (player : Player) :
    Ends False player.Continues (playFrame (Builtin.registry controls) epoch rounds player) := by
  refine ends_playFrame forward (fun middle continues _ => ?_)
    (fun middle continues emitting _ => ?_) rounds (.refl player) False.elim
  · exact continues.trans middle.continues_typePending
  · exact (continues_loadNode forward false middle emitting).imp fun _ further =>
      continues.trans further.1

theorem continues_advance (milliseconds : Float) (player : Player) :
    Ends False player.Continues (player.advance (Builtin.registry controls) milliseconds) := by
  have timed (pause elapsed : Float) : player.Continues (player.withTime pause elapsed) :=
    .of_stands (player.standsWith_withTime pause elapsed) List.prefix_rfl
  rcases player.advance_cases (Builtin.registry controls) milliseconds with
    ⟨pause, elapsed, outcome⟩ | ⟨-, pause, elapsed, outcome⟩
  · rw [outcome]
    exact timed pause elapsed
  · rw [outcome]
    exact (continues_playFrame forward _ _ _).imp fun _ further =>
      (timed pause elapsed).trans further

theorem continues_confirm (player : Player) :
    Ends False player.Continues (player.confirm (Builtin.registry controls)) := by
  unfold Player.confirm
  split
  · split
    · exact (continues_continueBeat forward player).imp fun _ further => further.1
    · exact .refl player
  · rename_i waiting
    exact (continues_finishBeat forward player waiting).imp fun _ further => further.1
  · exact .refl player

end Player

/-! ### Nested calls -/

theorem Controls.forward_builtin (depth : Nat) : (Controls.builtin depth).Forward := by
  induction depth with
  | zero => exact ⟨fun _ => not_false, fun _ => not_false⟩
  | succ depth inductionHypothesis =>
    refine ⟨fun player => Player.continues_skipBeat inductionHypothesis player, fun player => ?_⟩
    exact (Player.continues_continueBeat inductionHypothesis player).imp fun _ further => further.1

/-! ### Requests of the host -/

namespace Request

/-- What each request of a run keeps is kept by the run. -/
theorem ends_fulfilAll {controls : Controls} {property : Player → Prop} (requests : List Request)
    (each : ∀ request ∈ requests, ∀ player : Player, property player →
      Ends False (fun outcome : Answer × Player => property outcome.2)
        (request.fulfil controls player))
    {player : Player} (holds : property player) :
    Ends False (fun outcome : List Answer × Player => property outcome.2)
      (fulfilAll controls requests player) := by
  induction requests generalizing player with
  | nil => exact holds
  | cons request rest inductionHypothesis =>
    have first := each request List.mem_cons_self player holds
    unfold fulfilAll
    cases outcome : request.fulfil controls player with
    | none => exact not_false
    | some found =>
      rw [outcome] at first
      refine (inductionHypothesis ?_ first).map fun _ holds => holds
      exact fun other member => each other (List.mem_cons_of_mem _ member)

/-- A speed is taken, or refused and nothing changes. -/
theorem ends_fulfil_setSpeed {controls : Controls} {player : Player} {charsPerSecond : Float}
    {property : Player → Prop} (refused : property player)
    (taken : Settings.isSpeed charsPerSecond →
      property { player with
        settings := { player.settings with charsPerSecond := charsPerSecond } }) :
    Ends False (fun outcome : Answer × Player => property outcome.2)
      ((setSpeed charsPerSecond).fulfil controls player) := by
  show property (settle player (player.setSpeed charsPerSecond)).2
  unfold Player.setSpeed
  split
  · rename_i isSpeed
    exact taken isSpeed
  · exact refused

/-- A pause is taken, or refused and nothing changes. -/
theorem ends_fulfil_pause {controls : Controls} {player : Player} {milliseconds : Float}
    {property : Player → Prop} (refused : property player)
    (taken : property { player with visit := { player.visit with pause := milliseconds } }) :
    Ends False (fun outcome : Answer × Player => property outcome.2)
      ((pause milliseconds).fulfil controls player) := by
  show property (settle player (player.pause milliseconds)).2
  unfold Player.pause
  split
  · exact taken
  · exact refused

theorem ends_fulfil_loadScene {controls : Controls} {player : Player} {name : String}
    {property : Player → Prop} (unknown : property player)
    (loads : ∀ later, player.loadScene? name = some later → property later) :
    Ends False (fun outcome : Answer × Player => property outcome.2)
      ((loadScene name).fulfil controls player) := by
  unfold fulfil
  dsimp only
  cases loaded : player.loadScene? name with
  | none => exact unknown
  | some later => exact loads later loaded

theorem continues_fulfil (depth : Nat) (request : Request) (player : Player) :
    Ends False (fun outcome : Answer × Player => player.Continues outcome.2)
      (request.fulfil (Controls.builtin depth) player) := by
  have stays (later : Player) (stands : player.StandsWith later)
      (events : later.events = player.events) : player.Continues later :=
    .of_stands stands (events ▸ List.prefix_rfl)
  cases request with
  | advance milliseconds =>
    cases depth with
    | zero => exact not_false
    | succ depth =>
      exact (Player.continues_advance (Controls.forward_builtin depth) milliseconds player).map
        fun _ continues => continues
  | confirm =>
    cases depth with
    | zero => exact not_false
    | succ depth =>
      exact (Player.continues_confirm (Controls.forward_builtin depth) player).map
        fun _ continues => continues
  | continueBeat =>
    exact ((Controls.forward_builtin depth).continueBeat player).map fun _ continues => continues
  | skipBeat =>
    exact ((Controls.forward_builtin depth).skipBeat player).map fun _ continues => continues.1
  | loadScene name =>
    exact ends_fulfil_loadScene (Player.Continues.refl player) fun _ loaded =>
      Player.continues_loadScene loaded
  | endScene => exact player.continues_endScene
  | clearOutput => exact player.continues_emit .clear
  | setInstant instant => exact stays _ ⟨rfl, rfl, rfl, rfl, rfl, rfl, rfl⟩ rfl
  | setConfirmFlushes flushes => exact stays _ ⟨rfl, rfl, rfl, rfl, rfl, rfl, rfl⟩ rfl
  | setSpeed charsPerSecond =>
    exact ends_fulfil_setSpeed (.refl player) fun _ =>
      stays _ ⟨rfl, rfl, rfl, rfl, rfl, rfl, rfl⟩ rfl
  | pause milliseconds =>
    exact ends_fulfil_pause (.refl player) (stays _ ⟨rfl, rfl, rfl, rfl, rfl, rfl, rfl⟩ rfl)
  | setVariable name value => exact stays _ ⟨rfl, rfl, rfl, rfl, rfl, rfl, rfl⟩ rfl
  | removeVariable name => exact stays _ ⟨rfl, rfl, rfl, rfl, rfl, rfl, rfl⟩ rfl
  | isDone => exact Player.Continues.refl player

/-- A run only goes forward. -/
theorem continues_fulfilAll (depth : Nat) (requests : List Request) (player : Player) :
    Ends False (fun outcome : List Answer × Player => player.Continues outcome.2)
      (fulfilAll (Controls.builtin depth) requests player) := by
  refine ends_fulfilAll requests (fun request _ middle continues => ?_) (.refl player)
  exact (continues_fulfil depth request middle).imp fun _ further => continues.trans further

end Request

end Playscript
