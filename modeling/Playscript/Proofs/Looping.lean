/-
This file shows which scripts can keep a player from ever returning. A scene that jumps to itself is
harmless as long as the player gets a chance to stop: the jump ends the visit, and so ends the loop
over the nodes of the beat. But an expression may play on after a jump, by skipping the beat or by
showing the rest of it. That call begins a loop of its own, which meets the same expression again,
and no depth of nested calls is enough.

Together with the scripts whose calls return this gives the exact line between the two, in terms of
the operations that a script calls.
-/

import Playscript.Proofs.Returning
import Playscript.Session

namespace Playscript

/-! ### A scene that jumps to itself and plays on -/

/-- The expression by which a scene jumps to itself and then calls an operation. -/
def selfJump (operation : Builtin) : Expr :=
  .sequence [.call Builtin.goto.name [.literal (.string mainScene)], .call operation.name []]

/-- The programme of a scene that jumps to itself and then calls an operation. -/
def selfJumping (operation : Builtin) : Programme :=
  ⟨[⟨mainScene, [[.inlineExpr (selfJump operation)]]⟩]⟩

/-- A player is about to play the only node of such a programme. -/
structure Player.AtSelfJump (operation : Builtin) (player : Player) : Prop where
  programme : player.programme = selfJumping operation
  status : player.status = .emitting
  scene : player.scene = 0
  beat : player.beat = 0
  node : player.visit.node = 0

/-- The operations that play on from within an expression. -/
def Builtin.PlaysOn (operation : Builtin) : Prop := operation = skip ∨ operation = flush

/-- Nested calls that do not return where a scene is about to jump to itself. -/
structure Controls.Lost (operation : Builtin) (controls : Controls) : Prop where
  skipBeat : ∀ player : Player, player.AtSelfJump operation → controls.skipBeat player = none
  continueBeat : ∀ player : Player, player.AtSelfJump operation →
    controls.continueBeat player = none

namespace Player

variable {operation : Builtin} {player : Player} {controls : Controls}

theorem AtSelfJump.loadScene (programme : player.programme = selfJumping operation) :
    ∃ later, player.loadScene? mainScene = some later ∧ later.AtSelfJump operation := by
  have found : (selfJumping operation).sceneIndex? mainScene = some 0 := rfl
  have inside : ((selfJumping operation).beat? 0 0).isSome := rfl
  refine ⟨enterBeat { player with scene := 0, settings := player.defaults, instant := false } 0,
    ?_, ?_⟩
  · unfold loadScene?
    rw [programme, found]
    rfl
  · refine ⟨programme, ?_, rfl, rfl, rfl⟩
    show (if (player.programme.beat? 0 0).isSome then Status.emitting else .done) = _
    rw [programme, if_pos inside]

theorem eval_goto (controls : Controls) (programme : player.programme = selfJumping operation) :
    ∃ later, (Expr.call Builtin.goto.name [.literal (.string mainScene)]).eval
        (Builtin.registry controls) player = some (.ok .null, later) ∧
      later.AtSelfJump operation := by
  obtain ⟨later, loaded, stands⟩ := AtSelfJump.loadScene programme
  refine ⟨later, ?_, stands⟩
  have performed : Builtin.goto.operation controls [.string mainScene] player =
      some (.ok .null, later) := by
    show Action.mapError (Action.andThen (Builtin.attempt (Builtin.loadScene mainScene)) _) _ _ = _
    unfold Action.mapError Action.andThen Builtin.attempt Builtin.loadScene
    rw [loaded]
    rfl
  unfold Expr.eval
  simp only [Expr.evalAll, Expr.eval, Action.bind_apply, Action.pure_apply, Action.andThen]
  rw [Builtin.get?_registry]
  dsimp only
  unfold Action.mapError
  rw [performed]

theorem operation_eq_none (playsOn : operation.PlaysOn) (lost : controls.Lost operation)
    (stands : player.AtSelfJump operation) : operation.operation controls [] player = none := by
  have performed : operation.perform controls [] player = none := by
    rcases playsOn with rfl | rfl
    · exact congrArg (Option.map _) (lost.skipBeat player stands)
    · exact congrArg (Option.map _) (lost.continueBeat player stands)
  unfold Builtin.operation Action.mapError
  rw [Action.bind_apply]
  unfold Action.andThen
  rw [performed]

/-- The jump succeeds, and what is called after it does not return. -/
theorem eval_selfJump_eq_none (playsOn : operation.PlaysOn) (lost : controls.Lost operation)
    (programme : player.programme = selfJumping operation) :
    (selfJump operation).eval (Builtin.registry controls) player = none := by
  obtain ⟨later, jumped, stands⟩ := eval_goto controls programme
  have called : (Expr.call operation.name []).eval (Builtin.registry controls) later = none := by
    unfold Expr.eval
    simp only [Expr.evalAll, Action.bind_apply, Action.pure_apply, Action.andThen]
    rw [Builtin.get?_registry]
    dsimp only
    unfold Action.mapError
    rw [operation_eq_none playsOn lost stands]
  unfold selfJump Expr.eval
  simp only [Expr.evalLast]
  rw [Action.bind_of_ok jumped, Action.bind_apply, Action.andThen, called]

theorem loadNode_eq_none (playsOn : operation.PlaysOn) (lost : controls.Lost operation)
    (stands : player.AtSelfJump operation) (flushing : Bool) :
    player.loadNode (Builtin.registry controls) flushing = none := by
  have next : player.node? = some (.inlineExpr (selfJump operation)) := by
    unfold node?
    rw [stands.programme, stands.scene, stands.beat, stands.node]
    rfl
  have evaluated : player.passNode.evaluate (Builtin.registry controls) (selfJump operation) =
      none := by
    have programme : player.passNode.programme = selfJumping operation := stands.programme
    unfold evaluate
    rw [eval_selfJump_eq_none playsOn lost programme]
  unfold loadNode
  rw [next]
  exact congrArg (Option.map Prod.snd) evaluated

theorem atSelfJump_start (operation : Builtin) :
    (Player.start (selfJumping operation) {}).AtSelfJump operation :=
  ⟨rfl, rfl, rfl, rfl, rfl⟩

theorem visit_start_selfJumping (operation : Builtin) :
    (Player.start (selfJumping operation) {}).visit = {} := rfl

theorem AtSelfJump.of_stands {other : Player} (stands : player.AtSelfJump operation)
    (same : player.StandsWith other) : other.AtSelfJump operation :=
  ⟨same.programme.trans stands.programme, same.status.trans stands.status,
    same.scene.trans stands.scene, same.beat.trans stands.beat, same.node.trans stands.node⟩

theorem continueBeat_eq_none (playsOn : operation.PlaysOn) (lost : controls.Lost operation)
    (stands : player.AtSelfJump operation) :
    player.continueBeat (Builtin.registry controls) = none := by
  have shown := stands.of_stands player.standsWith_showPending
  have going : player.showPending.status = .emitting ∧ player.showPending.epoch = player.epoch :=
    ⟨shown.status, player.standsWith_showPending.epoch⟩
  unfold Player.continueBeat rounds flushNodes
  rw [if_pos stands.status, if_pos going]
  dsimp only
  rw [loadNode_eq_none playsOn lost shown]
  rfl

theorem skipBeat_eq_none (playsOn : operation.PlaysOn) (lost : controls.Lost operation)
    (stands : player.AtSelfJump operation) :
    player.skipBeat (Builtin.registry controls) = none := by
  unfold Player.skipBeat
  rw [continueBeat_eq_none playsOn lost stands]
  rfl

/-- At the start of a visit any amount of time gets the player to the jump. -/
theorem advance_eq_none (playsOn : operation.PlaysOn) (lost : controls.Lost operation)
    (stands : player.AtSelfJump operation) (fresh : player.visit = {}) (milliseconds : Float) :
    player.advance (Builtin.registry controls) milliseconds = none := by
  have noPause : ¬ (0 : Float) < 0 := by decide +kernel
  have noLonger : (0 : Float) ≤ 0 := by decide +kernel
  have pause : player.visit.pause = 0 := by rw [fresh]
  have pending : player.visit.typing.pending = [] := by rw [fresh]
  unfold Player.advance
  rw [if_pos stands.status]
  dsimp only
  rw [pause, if_neg noPause]
  generalize (if milliseconds.isFinite && 0 < milliseconds then milliseconds else 0) = time
  have elapses : (player.elapse time).AtSelfJump operation :=
    stands.of_stands ⟨rfl, rfl, rfl, rfl, rfl, rfl, rfl⟩
  have going : (player.elapse time).status = .emitting ∧ (player.elapse time).visit.pause ≤ 0 ∧
      (player.elapse time).epoch = player.epoch := by
    refine ⟨elapses.status, ?_, rfl⟩
    show player.visit.pause ≤ 0
    rw [pause]
    exact noLonger
  have typed : (player.elapse time).typePending = player.elapse time := by
    show typeWhileTime _ player.visit.typing.pending _ = _
    rw [pending]
    rfl
  unfold rounds playFrame
  rw [if_pos going]
  dsimp only
  rw [typed, if_pos (show (player.elapse time).visit.typing.pending = [] from pending),
    loadNode_eq_none playsOn lost elapses]
  rfl

end Player

theorem Controls.lost_builtin {operation : Builtin} (playsOn : operation.PlaysOn) (depth : Nat) :
    (Controls.builtin depth).Lost operation := by
  induction depth with
  | zero => exact ⟨fun _ _ => rfl, fun _ _ => rfl⟩
  | succ depth inductionHypothesis =>
    refine ⟨fun player stands => ?_, fun player stands => ?_⟩
    · exact Player.skipBeat_eq_none playsOn inductionHypothesis stands
    · exact Player.continueBeat_eq_none playsOn inductionHypothesis stands

theorem Controls.advance_eq_none {operation : Builtin} (playsOn : operation.PlaysOn) (depth : Nat)
    {player : Player} (stands : player.AtSelfJump operation) (fresh : player.visit = {})
    (milliseconds : Float) : (Controls.builtin depth).advance milliseconds player = none := by
  cases depth with
  | zero => rfl
  | succ depth =>
    exact Player.advance_eq_none playsOn (lost_builtin playsOn depth) stands fresh milliseconds

/-! ### Which scripts return -/

set_option maxRecDepth 100000 in
theorem compile_selfJumping_skip :
    compile "::main\n\x7bgoto('main'); skip()\x7d" = .ok (selfJumping .skip) := by
  with_unfolding_all rfl

set_option maxRecDepth 100000 in
theorem compile_selfJumping_flush :
    compile "::main\n\x7bgoto('main'); flush()\x7d" = .ok (selfJumping .flush) := by
  with_unfolding_all rfl

/-- There are texts of scripts whose only scene jumps to itself and plays on. -/
theorem exists_compile_selfJumping {operation : Builtin} (playsOn : operation.PlaysOn) :
    ∃ source, compile source = .ok (selfJumping operation) := by
  rcases playsOn with rfl | rfl
  · exact ⟨_, compile_selfJumping_skip⟩
  · exact ⟨_, compile_selfJumping_flush⟩

theorem calls_selfJumping (operation : Builtin) :
    (selfJumping operation).calls = [Builtin.goto.name, operation.name] := rfl

/-- For any set of operations, every request returns to the host of any script that calls no others,
after whatever run, just if the set does not allow a script both to jump and to play on. -/
theorem returns_iff (calls : String → Prop) :
    (∀ source programme, compile source = .ok programme → (∀ name ∈ programme.calls, calls name) →
      ∀ settings depth requests answers player,
        Request.fulfilAll (Controls.builtin depth) requests (Player.start programme settings) =
          some (answers, player) →
        ∀ request : Request, ∃ depth, (request.fulfil (Controls.builtin depth) player).isSome) ↔
    (calls Builtin.goto.name → ¬ calls Builtin.skip.name ∧ ¬ calls Builtin.flush.name) := by
  refine ⟨fun returns jumps => ?_, fun sober source programme _ called => ?_⟩
  · have noOther (operation : Builtin) (playsOn : operation.PlaysOn) : ¬ calls operation.name := by
      intro playing
      obtain ⟨source, compiled⟩ := exists_compile_selfJumping playsOn
      have called : ∀ name ∈ (selfJumping operation).calls, calls name := by
        rw [calls_selfJumping]
        rintro name (_ | ⟨_, _ | ⟨_, member⟩⟩)
        · exact jumps
        · exact playing
        · cases member
      obtain ⟨depth, returned⟩ :=
        returns source _ compiled called {} 0 [] [] _ rfl .continueBeat
      have lost := (Controls.lost_builtin playsOn depth).continueBeat _
        (Player.atSelfJump_start operation)
      unfold Request.fulfil at returned
      rw [lost] at returned
      cases returned
    exact ⟨noOther .skip (Or.inl rfl), noOther .flush (Or.inr rfl)⟩
  · intro settings depth requests answers player run request
    exact ⟨_, Request.returns_fulfil sober (Request.callsOnly_of_run called run) request⟩

theorem fulfil_advance_eq_none {operation : Builtin} (playsOn : operation.PlaysOn) (depth : Nat)
    {player : Player} (stands : player.AtSelfJump operation) (fresh : player.visit = {})
    (milliseconds : Float) :
    (Request.advance milliseconds).fulfil (Controls.builtin depth) player = none :=
  congrArg (Option.map _) (Controls.advance_eq_none playsOn depth stands fresh milliseconds)

/-- A script that jumps and then shows the rest of its beat does not return from letting no time
pass, to whatever depth its calls may be nested. -/
theorem not_returns_of_jump_and_flush : ∃ programme,
    compile "::main\n\x7bgoto('main'); flush()\x7d" = .ok programme ∧ ∀ depth,
      (Request.advance 0).fulfil (Controls.builtin depth) (Player.start programme {}) = none := by
  have playsOn : Builtin.flush.PlaysOn := Or.inr rfl
  refine ⟨selfJumping .flush, compile_selfJumping_flush, fun depth => ?_⟩
  exact fulfil_advance_eq_none playsOn depth (Player.atSelfJump_start .flush)
    (Player.visit_start_selfJumping .flush) 0

end Playscript
