/-
This file says where a player stands when it has finished a beat. The deferred expressions of the
beat may move the player, and the beat moves on by itself only if they did not. Whether they did is
told by the status, and the status does not always tell it: an expression may jump to another beat
and then show the rest of that beat, so that the player waits again, elsewhere. Then the beat that
was jumped to is left as well.

So the number of the visit is compared with the status here, and the two agree as long as nothing
in the queue shows the rest of a beat.
-/

import Playscript.Playback.Host
import Playscript.Proofs.Continuing
import Playscript.Session

namespace Playscript

/-- The two requests by which a host finishes a beat that waits. -/
def Request.Finishes (request : Request) : Prop := request = .confirm ∨ request = .skipBeat

namespace Player

/-! ### Where a finished beat leads -/

/-- Two players are at the same place of their programmes, with the same expressions put off. -/
structure SamePlace (player other : Player) : Prop where
  scene : other.scene = player.scene
  beat : other.beat = player.beat
  node : other.visit.node = player.visit.node
  deferred : other.visit.deferred = player.visit.deferred

/-- A player is at the start of the next beat of the scene, or done if there is none. -/
structure AtNextBeat (player later : Player) : Prop where
  scene : later.scene = player.scene
  beat : later.beat = player.beat + 1
  node : later.visit.node = 0
  deferred : later.visit.deferred = []
  status : later.status =
    if (player.programme.beat? player.scene (player.beat + 1)).isSome then .emitting else .done

/-- A player moves on once: to the next beat, unless the queue has moved it already. Here `fired` is
the player after its queue has been evaluated, and `later` the player at the end. -/
structure MovesOnce (player fired later : Player) : Prop where
  moved : fired.epoch ≠ player.epoch → fired.status ≠ .done → fired.SamePlace later
  unmoved : fired.epoch = player.epoch → player.AtNextBeat later

/-! ### Finishing a beat -/

section Registries

variable {registry : Registry Player} {player later : Player}

/-- A player that finishes a beat ends up in the next beat or where the queue has left it. -/
theorem fired_of_finishBeat (finished : player.finishBeat registry = some later) :
    ∃ fired, evaluateAll registry player.visit.deferred player.takeDeferred.2 = some fired ∧
      ((fired.status = .waiting ∧ later = fired.clearOutput.enterBeat (fired.beat + 1)) ∨
        (fired.status ≠ .waiting ∧ later = fired.clearOutput)) := by
  obtain ⟨fired, evaluated, rfl⟩ := Option.map_eq_some_iff.mp finished
  refine ⟨fired, evaluated, ?_⟩
  by_cases waiting : fired.status = .waiting
  · exact Or.inl ⟨waiting, if_pos waiting⟩
  · exact Or.inr ⟨waiting, if_neg waiting⟩

/-- A player that waits has nothing left to show, so skipping its beat is finishing it. -/
theorem skipBeat_of_waiting (waiting : player.status = .waiting) :
    player.skipBeat registry = player.finishBeat registry := by
  have notEmitting : player.status ≠ .emitting := by
    rw [waiting]
    decide
  unfold Player.skipBeat Player.continueBeat
  rw [if_neg notEmitting]
  show (if player.status = .waiting then player.finishBeat registry else some player) = _
  rw [if_pos waiting]

theorem confirm_of_waiting (waiting : player.status = .waiting) :
    player.confirm registry = player.finishBeat registry := by
  unfold Player.confirm
  rw [waiting]

theorem status_enterBeat_ne_waiting (player : Player) (beat : Nat) :
    (player.enterBeat beat).status ≠ .waiting := by
  show (if (player.programme.beat? player.scene beat).isSome then Status.emitting else .done) ≠ _
  split
  · decide
  · decide

theorem status_finishBeat (finished : player.finishBeat registry = some later) :
    later.status ≠ .waiting := by
  obtain ⟨fired, -, ⟨-, rfl⟩ | ⟨notWaiting, rfl⟩⟩ := fired_of_finishBeat finished
  · exact status_enterBeat_ne_waiting _ _
  · exact notWaiting

/-- After a beat has been skipped nothing waits. -/
theorem status_skipBeat (skipped : player.skipBeat registry = some later) :
    later.status ≠ .waiting := by
  obtain ⟨middle, -, ended⟩ := Option.bind_eq_some_iff.mp skipped
  by_cases waiting : middle.status = .waiting
  · rw [if_pos waiting] at ended
    exact status_finishBeat ended
  · rw [if_neg waiting] at ended
    cases ended
    exact waiting

end Registries

theorem samePlace_clearOutput (player : Player) : player.SamePlace player.clearOutput :=
  ⟨rfl, rfl, rfl, rfl⟩

/-- If the visit has not changed, entering the next beat is moving on. -/
theorem atNextBeat_of_same {player fired : Player} (programme : fired.programme = player.programme)
    (scene : fired.scene = player.scene) (beat : fired.beat = player.beat) :
    player.AtNextBeat (fired.clearOutput.enterBeat (fired.beat + 1)) where
  scene := scene
  beat := congrArg (· + 1) beat
  node := rfl
  deferred := rfl
  status := by
    rw [← programme, ← scene, ← beat]
    rfl

theorem finishBeat_of_finishes {depth : Nat} {player later : Player} {request : Request}
    {answer : Answer} (waiting : player.status = .waiting) (finishing : request.Finishes)
    (returned : request.fulfil (Controls.builtin (depth + 1)) player = some (answer, later)) :
    player.finishBeat (Builtin.registry (Controls.builtin depth)) = some later := by
  rcases finishing with rfl | rfl
  · obtain ⟨found, confirmed, same⟩ := Option.map_eq_some_iff.mp returned
    cases same
    exact (confirm_of_waiting waiting).symm.trans confirmed
  · obtain ⟨found, skipped, same⟩ := Option.map_eq_some_iff.mp returned
    cases same
    exact (skipBeat_of_waiting waiting).symm.trans skipped

/-- What finishing a beat comes to, for the player that its queue leaves behind. -/
theorem movesOnce_iff_of_finishBeat {controls : Controls} (forward : controls.Forward)
    {player later : Player} (waiting : player.status = .waiting)
    (finished : player.finishBeat (Builtin.registry controls) = some later) :
    ∃ fired, evaluateAll (Builtin.registry controls) player.visit.deferred
          player.takeDeferred.2 = some fired ∧
      (player.MovesOnce fired later ↔ (fired.status = .waiting → fired.epoch = player.epoch)) ∧
      (fired.status = .waiting → later = fired.clearOutput.enterBeat (fired.beat + 1)) := by
  obtain ⟨fired, evaluated, ended⟩ := fired_of_finishBeat finished
  have continues : player.takeDeferred.2.Continues fired :=
    (continues_evaluateAll forward player.takeDeferred.2 player.visit.deferred).of_some evaluated
  refine ⟨fired, evaluated, ?_⟩
  rcases ended with ⟨firedWaits, rfl⟩ | ⟨notWaiting, rfl⟩
  · refine ⟨⟨fun once _ => ?_, fun same => ?_⟩, fun _ => rfl⟩
    · by_contra moved
      have place := once.moved moved (by rw [firedWaits]; decide)
      exact Nat.succ_ne_self fired.beat place.beat
    · refine ⟨fun moved => absurd (same firedWaits) moved, fun unmoved => ?_⟩
      have visit := continues.visit unmoved
      exact atNextBeat_of_same continues.programme visit.scene visit.beat
  · refine ⟨⟨fun _ firedWaits => absurd firedWaits notWaiting, fun _ => ?_⟩,
      fun firedWaits => absurd firedWaits notWaiting⟩
    refine ⟨fun _ _ => fired.samePlace_clearOutput, fun unmoved => ?_⟩
    -- Within the visit a player that waits can only go on waiting.
    rcases (continues.visit unmoved).status with status | ⟨emitting, -⟩
    · exact absurd (status.trans waiting) notWaiting
    · rw [show player.status = .emitting from emitting] at waiting
      cases waiting

/-- A beat that is finished moves on once, unless its queue leaves the player waiting at another
visit. Then the beat after that one is entered. -/
theorem movesOnce_iff {depth : Nat} {player later : Player} {request : Request} {answer : Answer}
    (waiting : player.status = .waiting) (finishing : request.Finishes)
    (returned : request.fulfil (Controls.builtin (depth + 1)) player = some (answer, later)) :
    ∃ fired, evaluateAll (Builtin.registry (Controls.builtin depth)) player.visit.deferred
          player.takeDeferred.2 = some fired ∧
      (player.MovesOnce fired later ↔ (fired.status = .waiting → fired.epoch = player.epoch)) ∧
      (fired.status = .waiting → later = fired.clearOutput.enterBeat (fired.beat + 1)) :=
  movesOnce_iff_of_finishBeat (Controls.forward_builtin depth) waiting
    (finishBeat_of_finishes waiting finishing returned)

/-- A queue that only jumps lets the beat move on once. -/
theorem movesOnce_iff_jumping : ∃ player later fired,
    (Controls.builtin 1).continueBeat (Player.start ⟨[⟨"main",
        [[.deferredExpr (.call "goto" [.literal (.string "b")])], []]⟩, ⟨"b", [[]]⟩]⟩ {}) =
        some player ∧
      Request.confirm.fulfil (Controls.builtin 1) player = some (.nothing, later) ∧
      later.scene = 1 ∧ fired.status = .emitting ∧ player.MovesOnce fired later := by
  have shape : ((Controls.builtin 1).continueBeat (Player.start ⟨[⟨"main",
      [[.deferredExpr (.call "goto" [.literal (.string "b")])], []]⟩, ⟨"b", [[]]⟩]⟩ {})).bind
        (fun player =>
          (Controls.builtin 1).confirm player |>.bind fun later =>
          (evaluateAll (Builtin.registry (Controls.builtin 0)) player.visit.deferred
            player.takeDeferred.2).map fun fired => (player.status, later.scene, fired.status)) =
      some (.waiting, 1, .emitting) := by
    decide +kernel
  obtain ⟨player, continued, shape⟩ := Option.bind_eq_some_iff.mp shape
  obtain ⟨later, confirmed, shape⟩ := Option.bind_eq_some_iff.mp shape
  obtain ⟨fired, evaluated, shape⟩ := Option.map_eq_some_iff.mp shape
  rw [Prod.mk.injEq, Prod.mk.injEq] at shape
  obtain ⟨waiting, scene, emitting⟩ := shape
  have returned := congrArg (Option.map fun later => (Answer.nothing, later)) confirmed
  obtain ⟨fired', evaluated', once, -⟩ :=
    movesOnce_iff waiting (Or.inl rfl : Request.confirm.Finishes) returned
  obtain rfl : fired = fired' := Option.some.inj (evaluated.symm.trans evaluated')
  refine ⟨player, later, fired, continued, returned, scene, emitting, once.mpr fun waits => ?_⟩
  rw [emitting] at waits
  cases waits

theorem ok_of_toOption {Error Result : Type} {outcome : Except Error Result} {result : Result}
    (found : outcome.toOption = some result) : outcome = .ok result := by
  cases outcome with
  | error error => cases found
  | ok other => exact congrArg Except.ok (Option.some.inj found)

/-- The queue jumps to a beat and shows the rest of it. The beat after that one is entered. -/
theorem not_movesOnce_of_jump_and_flush : ∃ programme player later fired,
    compile "::main\none%\x7bgoto('b'); flush()\x7d\n;;\ntwo\n::b\nb0\n;;\nb1" = .ok programme ∧
      Request.continueBeat.fulfil (Controls.builtin 2) (Player.start programme {}) =
        some (.nothing, player) ∧
      player.status = .waiting ∧
      Request.confirm.fulfil (Controls.builtin 2) player = some (.nothing, later) ∧
      evaluateAll (Builtin.registry (Controls.builtin 1)) player.visit.deferred
        player.takeDeferred.2 = some fired ∧
      ¬ player.MovesOnce fired later := by
  have shape : (compile
      "::main\none%\x7bgoto('b'); flush()\x7d\n;;\ntwo\n::b\nb0\n;;\nb1").toOption.bind
        (fun programme =>
          (Controls.builtin 2).continueBeat (Player.start programme {}) |>.bind fun player =>
          (Controls.builtin 2).confirm player |>.bind fun later =>
          (evaluateAll (Builtin.registry (Controls.builtin 1)) player.visit.deferred
            player.takeDeferred.2).map fun fired =>
          ((player.status, player.epoch), (fired.status, fired.epoch, fired.beat), later.beat)) =
      some ((.waiting, 1), (.waiting, 2, 0), 1) := by
    decide +kernel
  obtain ⟨programme, compiled, shape⟩ := Option.bind_eq_some_iff.mp shape
  obtain ⟨player, continued, shape⟩ := Option.bind_eq_some_iff.mp shape
  obtain ⟨later, confirmed, shape⟩ := Option.bind_eq_some_iff.mp shape
  obtain ⟨fired, evaluated, shape⟩ := Option.map_eq_some_iff.mp shape
  rw [Prod.mk.injEq, Prod.mk.injEq, Prod.mk.injEq, Prod.mk.injEq, Prod.mk.injEq] at shape
  obtain ⟨⟨waiting, epoch⟩, ⟨firedWaits, firedEpoch, firedBeat⟩, beat⟩ := shape
  refine ⟨programme, player, later, fired, ok_of_toOption compiled, ?_, waiting, ?_, evaluated, ?_⟩
  · exact congrArg (Option.map fun later => (Answer.nothing, later)) continued
  · exact congrArg (Option.map fun later => (Answer.nothing, later)) confirmed
  · intro once
    have moved : fired.epoch ≠ player.epoch := by
      rw [firedEpoch, epoch]
      decide
    have place := once.moved moved (by rw [firedWaits]; decide)
    rw [place.beat, firedBeat] at beat
    cases beat

/-! ### Queues that do not show the rest of a beat -/

/-- While nothing shows the rest of a beat, a player that waits is still at its visit. -/
theorem lastsThroughSteering_waits (depth : Nat) (epoch : Nat) :
    LastsThroughSteering False (· ≠ Builtin.flush.name) (Controls.builtin depth)
      (fun player => player.status = .waiting → player.epoch = epoch) where
  assignment _ holds := holds
  emit _ holds := holds
  setInstant _ holds := holds
  setConfirmFlushes _ holds := holds
  setSpeed _ holds _ := holds
  setPause _ holds := holds
  loadScene _ _ loaded waiting := by
    obtain ⟨scene, -, rfl⟩ := Option.map_eq_some_iff.mp loaded
    exact absurd waiting (status_enterBeat_ne_waiting _ _)
  endScene _ waiting := by cases waiting
  skipBeat {player} _ _ := by
    cases depth with
    | zero => exact not_false
    | succ depth =>
      cases skipped : (Controls.builtin (depth + 1)).skipBeat player with
      | none => exact not_false
      | some later => exact fun waiting => absurd waiting (status_skipBeat skipped)
  continueBeat called _ := absurd rfl called

/-- A queue that never shows the rest of a beat lets the beat move on once. -/
theorem movesOnce_of_no_flush {depth : Nat} {player later : Player} {request : Request}
    {answer : Answer} (waiting : player.status = .waiting) (finishing : request.Finishes)
    (noFlush : ∀ expression ∈ player.visit.deferred, Builtin.flush.name ∉ expression.calls)
    (returned : request.fulfil (Controls.builtin (depth + 1)) player = some (answer, later)) :
    ∃ fired, evaluateAll (Builtin.registry (Controls.builtin depth)) player.visit.deferred
        player.takeDeferred.2 = some fired ∧ player.MovesOnce fired later := by
  obtain ⟨fired, evaluated, once, -⟩ := movesOnce_iff_of_finishBeat
    (Controls.forward_builtin depth) waiting (finishBeat_of_finishes waiting finishing returned)
  refine ⟨fired, evaluated, once.mpr ?_⟩
  have before : player.takeDeferred.2.status = .waiting →
      player.takeDeferred.2.epoch = player.epoch := fun _ => rfl
  refine ((lastsThroughSteering_waits depth player.epoch).ends_evaluateAll player.visit.deferred
    ?_ before).of_some evaluated
  rintro expression member _ called rfl
  exact noFlush expression member called

end Player

end Playscript
