/-
This file proves what holds of a player between any two requests of its host. Unless the play is
over, the player stands at a beat that exists, the deferred expressions are exactly those of the
nodes it has passed, and a beat that waits has been passed to its end. When the play is over nothing
is left to type or to evaluate. The text that is being typed is cut between two characters, and
speeds are always finite and positive.

All of this is kept by every change on its own, with one exception: while the deferred expressions
of a beat are evaluated, the beat waits and its queue has already been taken. The invariant
therefore allows an empty queue there, and every proof is done for both readings at once.
-/

import Playscript.Proofs.Continuing

namespace Playscript

/-! ### The text that is being typed -/

/-- The place in the text up to which it has been typed, counted in bytes. -/
def Typing.cursor (typing : Typing) : String.Pos.Raw :=
  (String.ofList typing.shown.reverse).rawEndPos

theorem Typing.isValid_cursor (typing : Typing) :
    typing.cursor.IsValid (String.ofList typing.text) := by
  unfold text
  rw [String.ofList_append]
  exact String.Pos.Raw.isValid_rawEndPos.append_right _

namespace Player

/-- The expressions that the passed nodes of the beat put off. -/
def putOff (player : Player) : List Expr :=
  (player.nodes.take player.visit.node).filterMap Node.deferred?

/-- What holds of a player between two requests of its host. -/
structure WellFormed (player : Player) : Prop where
  /-- The beat exists. Its nodes have been passed up to some number, all of them if it waits. -/
  placed : player.status ≠ .done → ∃ nodes,
    player.programme.beat? player.scene player.beat = some nodes ∧
      player.visit.node ≤ nodes.length ∧
        (player.status = .waiting → player.visit.node = nodes.length)
  /-- The deferred expressions are those of the passed nodes, in order. -/
  queued : player.status ≠ .done → player.visit.deferred = player.putOff
  /-- When the play is over, nothing is left to evaluate or to type. -/
  idle : player.status = .done → player.visit.deferred = [] ∧ player.visit.typing.text = []
  /-- The text is cut between two characters. -/
  cut : player.visit.typing.cursor.IsValid (String.ofList player.visit.typing.text)
  speed : player.settings.charsPerSecond.isFinite ∧ 0 < player.settings.charsPerSecond
  defaultSpeed : player.defaults.charsPerSecond.isFinite ∧ 0 < player.defaults.charsPerSecond

/-! ### The invariant -/

/-- The invariant of a player. If `drained` holds, the queue of a beat that waits may have been
taken. -/
structure Sound (drained : Prop) (player : Player) : Prop where
  placed : player.status ≠ .done → ∃ nodes,
    player.programme.beat? player.scene player.beat = some nodes ∧
      player.visit.node ≤ nodes.length ∧
        (player.status = .waiting → player.visit.node = nodes.length)
  queued : player.status ≠ .done → player.visit.deferred = player.putOff ∨
    drained ∧ player.status = .waiting ∧ player.visit.deferred = []
  idle : player.status = .done → player.visit.deferred = [] ∧ player.visit.typing.text = []
  speed : Settings.isSpeed player.settings.charsPerSecond
  defaultSpeed : Settings.isSpeed player.defaults.charsPerSecond

theorem putOff_of_stands {player other : Player} (stands : player.StandsWith other) :
    other.putOff = player.putOff := by
  unfold putOff nodes
  rw [stands.programme, stands.scene, stands.beat, stands.node]

/-- What is put off grows by the expression of the passed node, if that node puts one off. -/
theorem putOff_passNode {player : Player} {node : Node Expr} (next : player.node? = some node) :
    player.passNode.putOff = player.putOff ++ node.deferred?.toList := by
  rw [node?_eq] at next
  show (player.nodes.take (player.visit.node + 1)).filterMap Node.deferred? = _
  rw [List.take_add_one, next, List.filterMap_append]
  show player.putOff ++ [node].filterMap Node.deferred? = _
  cases deferred : node.deferred? with
  | none => rw [List.filterMap_cons_none deferred]; rfl
  | some expression => rw [List.filterMap_cons_some deferred]; rfl

namespace Sound

variable {drained : Prop} {player later : Player}

theorem wellFormed (sound : player.Sound False) : player.WellFormed where
  placed := sound.placed
  queued notDone := by
    rcases sound.queued notDone with queued | ⟨impossible, _⟩
    · exact queued
    · exact impossible.elim
  idle := sound.idle
  cut := player.visit.typing.isValid_cursor
  speed := by
    have speed := sound.speed
    unfold Settings.isSpeed at speed
    simpa using speed
  defaultSpeed := by
    have speed := sound.defaultSpeed
    unfold Settings.isSpeed at speed
    simpa using speed

/-- A player that stands at the same place is sound as well, unless it types something although the
play is over. -/
theorem of_stands (sound : player.Sound drained) (stands : player.StandsWith later)
    (speed : Settings.isSpeed later.settings.charsPerSecond)
    (defaults : later.defaults = player.defaults)
    (typing : player.status = .done → later.visit.typing = player.visit.typing) :
    later.Sound drained where
  placed := by
    rw [stands.status, stands.programme, stands.scene, stands.beat, stands.node]
    exact sound.placed
  queued := by
    rw [stands.status, stands.deferred, putOff_of_stands stands]
    exact sound.queued
  idle := by
    intro isDone
    rw [stands.status] at isDone
    rw [stands.deferred, typing isDone]
    exact sound.idle isDone
  speed := speed
  defaultSpeed := by
    rw [defaults]
    exact sound.defaultSpeed

theorem emit (sound : player.Sound drained) (event : Event) : (player.emit event).Sound drained :=
  sound.of_stands (player.standsWith_emit event) sound.speed rfl fun _ => rfl

/-- Where a player enters a beat, nothing of the beat has been passed. -/
theorem enterBeat (speed : Settings.isSpeed player.settings.charsPerSecond)
    (defaultSpeed : Settings.isSpeed player.defaults.charsPerSecond) (beat : Nat) :
    (player.enterBeat beat).Sound drained where
  placed notDone := by
    have status : (player.enterBeat beat).status =
        if (player.programme.beat? player.scene beat).isSome then .emitting else .done := rfl
    rw [status] at notDone ⊢
    cases found : player.programme.beat? player.scene beat with
    | none =>
      rw [found] at notDone
      exact absurd rfl notDone
    | some nodes =>
      refine ⟨nodes, found, Nat.zero_le _, fun waiting => ?_⟩
      cases waiting
  queued _ := Or.inl rfl
  idle _ := ⟨rfl, rfl⟩
  speed := speed
  defaultSpeed := defaultSpeed

theorem loadScene {name : String} (sound : player.Sound drained)
    (loaded : player.loadScene? name = some later) : later.Sound drained := by
  obtain ⟨scene, -, rfl⟩ := Option.map_eq_some_iff.mp loaded
  refine Sound.enterBeat ?_ ?_ 0
  · exact sound.defaultSpeed
  · exact sound.defaultSpeed

theorem endScene (sound : player.Sound drained) : player.endScene.Sound drained where
  placed notDone := absurd rfl notDone
  queued notDone := absurd rfl notDone
  idle _ := ⟨rfl, rfl⟩
  speed := sound.speed
  defaultSpeed := sound.defaultSpeed

theorem setSpeed (sound : player.Sound drained) {charsPerSecond : Float}
    (isSpeed : Settings.isSpeed charsPerSecond) :
    Player.Sound drained
      { player with settings := { player.settings with charsPerSecond := charsPerSecond } } :=
  sound.of_stands ⟨rfl, rfl, rfl, rfl, rfl, rfl, rfl⟩ isSpeed rfl fun _ => rfl

theorem setConfirmFlushes (sound : player.Sound drained) (flushes : Bool) :
    (player.setConfirmFlushes flushes).Sound drained :=
  sound.of_stands ⟨rfl, rfl, rfl, rfl, rfl, rfl, rfl⟩ sound.speed rfl fun _ => rfl

theorem setInstant (sound : player.Sound drained) (instant : Bool) :
    (player.setInstant instant).Sound drained :=
  sound.of_stands ⟨rfl, rfl, rfl, rfl, rfl, rfl, rfl⟩ sound.speed rfl fun _ => rfl

theorem setPause (sound : player.Sound drained) (milliseconds : Float) :
    Player.Sound drained { player with visit := { player.visit with pause := milliseconds } } :=
  sound.of_stands ⟨rfl, rfl, rfl, rfl, rfl, rfl, rfl⟩ sound.speed rfl fun _ => rfl

theorem setScope (sound : player.Sound drained) (scope : Scope) :
    Player.Sound drained { player with scope := scope } :=
  sound.of_stands ⟨rfl, rfl, rfl, rfl, rfl, rfl, rfl⟩ sound.speed rfl fun _ => rfl

theorem render (sound : player.Sound drained) (notDone : player.status ≠ .done) (atOnce : Bool)
    (text : String) : (player.render atOnce text).Sound drained := by
  cases atOnce with
  | true => exact sound.emit _
  | false =>
    exact sound.of_stands (player.standsWith_beginTyping text) sound.speed rfl
      fun isDone => absurd isDone notDone

/-- A node that puts nothing off may be passed. -/
theorem passNode {node : Node Expr} (sound : player.Sound drained)
    (emitting : player.status = .emitting) (next : player.node? = some node)
    (notDeferred : node.deferred? = none) : player.passNode.Sound drained where
  placed notDone := by
    obtain ⟨nodes, stands, -, -⟩ := sound.placed notDone
    rw [node?_eq, nodes_of_beat stands] at next
    refine ⟨nodes, stands, (List.getElem?_eq_some_iff.mp next).1, fun waiting => ?_⟩
    rw [show player.status = .waiting from waiting] at emitting
    cases emitting
  queued notDone := by
    rcases sound.queued notDone with queued | ⟨_, waiting, _⟩
    · refine Or.inl (queued.trans ?_)
      rw [putOff_passNode next, notDeferred]
      exact (List.append_nil _).symm
    · rw [waiting] at emitting
      cases emitting
  idle := sound.idle
  speed := sound.speed
  defaultSpeed := sound.defaultSpeed

/-- A node that puts an expression off may be passed if the expression is put off. -/
theorem passNode_defer {expression : Expr} (sound : player.Sound drained)
    (emitting : player.status = .emitting) (next : player.node? = some (.deferredExpr expression)) :
    (player.passNode.defer expression).Sound drained where
  placed notDone := by
    obtain ⟨nodes, stands, -, -⟩ := sound.placed notDone
    rw [node?_eq, nodes_of_beat stands] at next
    refine ⟨nodes, stands, (List.getElem?_eq_some_iff.mp next).1, fun waiting => ?_⟩
    rw [show player.status = .waiting from waiting] at emitting
    cases emitting
  queued notDone := by
    rcases sound.queued notDone with queued | ⟨_, waiting, _⟩
    · refine Or.inl ?_
      show player.visit.deferred ++ [expression] = player.passNode.putOff
      rw [queued, putOff_passNode next]
      rfl
    · rw [waiting] at emitting
      cases emitting
  idle isDone := by
    rw [show player.status = .done from isDone] at emitting
    cases emitting
  speed := sound.speed
  defaultSpeed := sound.defaultSpeed

/-- A beat whose nodes have all been passed may wait. -/
theorem wait (sound : player.Sound drained) (emitting : player.status = .emitting)
    (last : player.node? = none) : Player.Sound drained { player with status := .waiting } where
  placed _ := by
    obtain ⟨nodes, stands, passed, -⟩ := sound.placed (by rw [emitting]; decide)
    rw [node?_eq, nodes_of_beat stands] at last
    have all := List.getElem?_eq_none_iff.mp last
    exact ⟨nodes, stands, passed, fun _ => Nat.le_antisymm passed all⟩
  queued _ := by
    rcases sound.queued (by rw [emitting]; decide) with queued | ⟨_, waiting, _⟩
    · exact Or.inl queued
    · rw [waiting] at emitting
      cases emitting
  idle isDone := by cases isDone
  speed := sound.speed
  defaultSpeed := sound.defaultSpeed

/-- A beat that waits stays sound when its queue is taken, where that is allowed. -/
theorem takeDeferred (sound : player.Sound drained) (waiting : player.status = .waiting) :
    player.takeDeferred.2.Sound True where
  placed := sound.placed
  queued _ := Or.inr ⟨trivial, waiting, rfl⟩
  idle isDone := by
    rw [show player.status = .done from isDone] at waiting
    cases waiting
  speed := sound.speed
  defaultSpeed := sound.defaultSpeed

/-- A taken queue can only be told in a beat that waits. -/
theorem of_not_waiting (sound : player.Sound True) (notWaiting : player.status ≠ .waiting) :
    player.Sound drained where
  placed := sound.placed
  queued notDone := by
    rcases sound.queued notDone with queued | ⟨_, waiting, _⟩
    · exact Or.inl queued
    · exact absurd waiting notWaiting
  idle := sound.idle
  speed := sound.speed
  defaultSpeed := sound.defaultSpeed

end Sound

end Player

/-! ### Evaluations -/

/-- Nested calls that keep the invariant, in both readings. -/
structure Controls.KeepSound (controls : Controls) : Prop where
  skipBeat : ∀ (drained : Prop) (player : Player), player.Sound drained →
    Ends False (Player.Sound drained) (controls.skipBeat player)
  continueBeat : ∀ (drained : Prop) (player : Player), player.Sound drained →
    Ends False (Player.Sound drained) (controls.continueBeat player)

namespace Player

variable {controls : Controls} {drained : Prop}

theorem lastsThroughSteering_sound (keep : controls.KeepSound) (drained : Prop) :
    LastsThroughSteering False (fun _ => True) controls (Player.Sound drained) where
  assignment scope sound := sound.setScope scope
  emit event sound := sound.emit event
  setInstant instant sound := sound.setInstant instant
  setConfirmFlushes flushes sound := sound.setConfirmFlushes flushes
  setSpeed _ sound isSpeed := sound.setSpeed isSpeed
  setPause milliseconds sound := sound.setPause milliseconds
  loadScene _ sound loaded := sound.loadScene loaded
  endScene sound := sound.endScene
  skipBeat _ sound := keep.skipBeat drained _ sound
  continueBeat _ sound := keep.continueBeat drained _ sound

theorem sound_evaluate (keep : controls.KeepSound) {player : Player} (sound : player.Sound drained)
    (expression : Expr) :
    Ends False (fun outcome : Option Value × Player => outcome.2.Sound drained)
      (player.evaluate (Builtin.registry controls) expression) :=
  (lastsThroughSteering_sound keep drained).ends_evaluate expression (fun _ _ => trivial) sound

/-! ### Playing a beat -/

variable (forward : controls.Forward) (keep : controls.KeepSound)

include forward keep

/-- A value is shown only at the visit of its node, where the play is not over. -/
theorem sound_evaluate_renderValue {player : Player} (sound : player.Sound drained)
    (notDone : player.status ≠ .done) (atOnce : Bool) (expression : Expr) :
    Ends False (Player.Sound drained)
      ((player.evaluate (Builtin.registry controls) expression).map fun (value?, later) =>
        later.renderValue player.epoch atOnce value?) := by
  have evaluated := (sound_evaluate keep sound expression).and
    (continues_evaluate forward player expression)
  refine evaluated.map fun outcome both => ?_
  refine renderValue_cases outcome.1 both.1 fun text same => ?_
  exact both.1.render (both.2.status_ne_done same notDone) atOnce text

theorem sound_loadNode (flushing : Bool) {player : Player} (sound : player.Sound drained)
    (emitting : player.status = .emitting) :
    Ends False (Player.Sound drained)
      (player.loadNode (Builtin.registry controls) flushing) := by
  unfold loadNode
  cases next : player.node? with
  | none => exact sound.wait emitting next
  | some node =>
    have notDone : player.passNode.status ≠ .done := by
      rw [show player.passNode.status = .emitting from emitting]
      decide
    cases node with
    | text content => exact (sound.passNode emitting next rfl).render notDone _ content
    | instantString content => exact (sound.passNode emitting next rfl).render notDone _ content
    | typewriterString content => exact (sound.passNode emitting next rfl).render notDone _ content
    | inlineExpr expression =>
      exact (sound_evaluate keep (sound.passNode emitting next rfl) expression).map
        fun _ sound => sound
    | deferredExpr expression => exact sound.passNode_defer emitting next
    | instantExpr expression =>
      exact sound_evaluate_renderValue forward keep (sound.passNode emitting next rfl) notDone
        true expression
    | typewriterExpr expression =>
      exact sound_evaluate_renderValue forward keep (sound.passNode emitting next rfl) notDone
        flushing expression

theorem sound_flushNodes (epoch rounds : Nat) {player : Player} (sound : player.Sound drained) :
    Ends False (Player.Sound drained)
      (flushNodes (Builtin.registry controls) epoch rounds player) :=
  (ends_flushNodes forward (fun _ sound => sound_loadNode forward keep true sound) rounds sound
    False.elim).imp fun _ ended => ended.1

theorem sound_continueBeat {player : Player} (sound : player.Sound drained) :
    Ends False (Player.Sound drained) (player.continueBeat (Builtin.registry controls)) := by
  unfold Player.continueBeat
  split
  · rename_i emitting
    have shown : player.showPending.Sound drained := by
      refine sound.of_stands player.standsWith_showPending ?_ ?_ ?_
      · unfold showPending
        dsimp only
        split <;> exact sound.speed
      · unfold showPending
        dsimp only
        split <;> rfl
      · intro isDone
        rw [isDone] at emitting
        cases emitting
    have flushed := sound_flushNodes forward keep player.epoch player.rounds shown
    refine flushed.map fun later sound => ?_
    refine sound.of_stands (later.standsWith_dropTime player.epoch) ?_ ?_ ?_
    · unfold dropTime
      split <;> exact sound.speed
    · unfold dropTime
      split <;> rfl
    · intro _
      unfold dropTime
      split <;> rfl
  · exact sound

omit forward in
/-- While the queue is evaluated the beat waits without one. Afterwards the player is elsewhere, or
goes to the next beat. -/
theorem sound_finishBeat {player : Player} (sound : player.Sound drained)
    (waiting : player.status = .waiting) :
    Ends False (Player.Sound drained) (player.finishBeat (Builtin.registry controls)) := by
  unfold finishBeat
  have evaluated := (lastsThroughSteering_sound keep True).ends_evaluateAll player.visit.deferred
    (fun _ _ _ _ => trivial) (sound.takeDeferred waiting)
  refine evaluated.map fun later sound => ?_
  have wiped := sound.emit .clear
  dsimp only
  split
  · exact Sound.enterBeat wiped.speed wiped.defaultSpeed _
  · rename_i notWaiting
    exact wiped.of_not_waiting notWaiting

theorem sound_skipBeat {player : Player} (sound : player.Sound drained) :
    Ends False (Player.Sound drained) (player.skipBeat (Builtin.registry controls)) := by
  unfold Player.skipBeat
  refine (sound_continueBeat forward keep sound).bind fun middle sound => ?_
  split
  · rename_i waiting
    exact sound_finishBeat keep sound waiting
  · exact sound

theorem sound_confirm {player : Player} (sound : player.Sound drained) :
    Ends False (Player.Sound drained) (player.confirm (Builtin.registry controls)) := by
  unfold Player.confirm
  split
  · split
    · exact sound_continueBeat forward keep sound
    · exact sound
  · rename_i waiting
    exact sound_finishBeat keep sound waiting
  · exact sound

end Player

theorem Controls.keepSound_builtin (depth : Nat) : (Controls.builtin depth).KeepSound := by
  induction depth with
  | zero => exact ⟨fun _ _ _ => not_false, fun _ _ _ => not_false⟩
  | succ depth inductionHypothesis =>
    have forward := Controls.forward_builtin depth
    exact ⟨fun _ _ sound => Player.sound_skipBeat forward inductionHypothesis sound,
      fun _ _ sound => Player.sound_continueBeat forward inductionHypothesis sound⟩

/-! ### Letting time pass -/

namespace Player

variable {controls : Controls} {drained : Prop}

theorem Sound.typePending {player : Player} (sound : player.Sound drained)
    (notDone : player.status ≠ .done) : player.typePending.Sound drained := by
  obtain ⟨stands, settings, defaults⟩ := standsWith_typeWhileTime player.settings.charInterval
    player.visit.typing.pending player
  refine sound.of_stands stands ?_ defaults fun isDone => absurd isDone notDone
  exact settings ▸ sound.speed

variable (forward : controls.Forward) (keep : controls.KeepSound)

include forward keep

theorem sound_playFrame (epoch rounds : Nat) {player : Player} (sound : player.Sound drained) :
    Ends False (Player.Sound drained)
      (playFrame (Builtin.registry controls) epoch rounds player) := by
  refine ends_playFrame forward (fun _ sound emitting => ?_) (fun _ sound emitting _ => ?_)
    rounds sound False.elim
  · exact sound.typePending (by rw [emitting]; decide)
  · exact sound_loadNode forward keep false sound emitting

theorem sound_advance (milliseconds : Float) {player : Player} (sound : player.Sound drained) :
    Ends False (Player.Sound drained)
      (player.advance (Builtin.registry controls) milliseconds) := by
  have timed (pause elapsed : Float) : (player.withTime pause elapsed).Sound drained :=
    sound.of_stands (player.standsWith_withTime pause elapsed) sound.speed rfl fun _ => rfl
  rcases player.advance_cases (Builtin.registry controls) milliseconds with
    ⟨pause, elapsed, outcome⟩ | ⟨-, pause, elapsed, outcome⟩
  · rw [outcome]
    exact timed pause elapsed
  · rw [outcome]
    exact sound_playFrame forward keep _ _ (timed pause elapsed)

end Player

/-! ### Runs -/

namespace Request

theorem sound_fulfil (depth : Nat) (request : Request) (player : Player)
    (sound : player.Sound False) :
    Ends False (fun outcome : Answer × Player => outcome.2.Sound False)
      (request.fulfil (Controls.builtin depth) player) := by
  cases request with
  | advance milliseconds =>
    cases depth with
    | zero => exact not_false
    | succ depth =>
      exact (Player.sound_advance (Controls.forward_builtin depth)
        (Controls.keepSound_builtin depth) milliseconds sound).map fun _ sound => sound
  | confirm =>
    cases depth with
    | zero => exact not_false
    | succ depth =>
      exact (Player.sound_confirm (Controls.forward_builtin depth)
        (Controls.keepSound_builtin depth) sound).map fun _ sound => sound
  | continueBeat =>
    exact ((Controls.keepSound_builtin depth).continueBeat False player sound).map
      fun _ sound => sound
  | skipBeat =>
    exact ((Controls.keepSound_builtin depth).skipBeat False player sound).map fun _ sound => sound
  | loadScene name =>
    exact ends_fulfil_loadScene sound fun _ loaded => sound.loadScene loaded
  | endScene => exact sound.endScene
  | clearOutput => exact sound.emit .clear
  | setInstant instant => exact sound.setInstant instant
  | setConfirmFlushes flushes => exact sound.setConfirmFlushes flushes
  | setSpeed charsPerSecond =>
    exact ends_fulfil_setSpeed sound fun isSpeed => sound.setSpeed isSpeed
  | pause milliseconds => exact ends_fulfil_pause sound (sound.setPause milliseconds)
  | setVariable name value => exact sound.setScope _
  | removeVariable name => exact sound.setScope _
  | isDone => exact sound

end Request

namespace Player

theorem isSpeed_repaired (settings : Settings) :
    Settings.isSpeed settings.repaired.charsPerSecond := by
  unfold Settings.repaired
  split
  · rename_i isSpeed
    exact isSpeed
  · exact (rfl : Settings.isSpeed 40 = true)

theorem sound_start (programme : Programme) (settings : Settings) :
    (Player.start programme settings).Sound False := by
  have speed := isSpeed_repaired settings
  obtain ⟨player, named⟩ : ∃ player : Player, player =
      { programme := programme, defaults := settings.repaired, settings := settings.repaired } :=
    ⟨_, rfl⟩
  have idle : player.Sound False := by
    subst named
    exact ⟨fun notDone => absurd rfl notDone, fun notDone => absurd rfl notDone,
      fun _ => ⟨rfl, rfl⟩, speed, speed⟩
  unfold Player.start
  rw [← named]
  dsimp only
  cases loaded : player.loadScene? mainScene with
  | none => exact idle
  | some later => exact idle.loadScene loaded

end Player

theorem Request.sound_of_run {programme : Programme} {settings : Settings} {depth : Nat}
    {requests : List Request} {answers : List Answer} {player : Player}
    (run : fulfilAll (Controls.builtin depth) requests (Player.start programme settings) =
      some (answers, player)) : player.Sound False := by
  have ends := ends_fulfilAll requests (fun request _ => sound_fulfil depth request)
    (Player.sound_start programme settings)
  rw [run] at ends
  exact ends

/-- Whatever a host asks for, in whatever order, and whatever the script does meanwhile, the player
is well formed whenever it has answered. -/
theorem wellFormed_of_run {programme : Programme} {settings : Settings} {depth : Nat}
    {requests : List Request} {answers : List Answer} {player : Player}
    (run : Request.fulfilAll (Controls.builtin depth) requests (Player.start programme settings) =
      some (answers, player)) : player.WellFormed :=
  (Request.sound_of_run run).wellFormed

/-- After a jump out of a beat that waits, the queue and the cut text are those of the new beat. -/
theorem wellFormed_of_run_jumping : ∃ answers player,
    Request.fulfilAll (Controls.builtin 1) [.continueBeat, .confirm, .advance 60]
        (Player.start ⟨[⟨"main", [[.deferredExpr (.call "goto" [.literal (.string "b")])], []]⟩,
          ⟨"b", [[.deferredExpr (.reference "x"), .text "three"]]⟩]⟩ {}) =
      some (answers, player) ∧
      (player.scene, player.visit.deferred.length, player.visit.typing) =
        (1, 1, ⟨['h', 't'], ['r', 'e', 'e']⟩) ∧
      player.WellFormed := by
  have shape : (Request.fulfilAll (Controls.builtin 1) [.continueBeat, .confirm, .advance 60]
      (Player.start ⟨[⟨"main", [[.deferredExpr (.call "goto" [.literal (.string "b")])], []]⟩,
        ⟨"b", [[.deferredExpr (.reference "x"), .text "three"]]⟩]⟩ {})).map (fun outcome =>
      (outcome.2.scene, outcome.2.visit.deferred.length, outcome.2.visit.typing)) =
        some (1, 1, ⟨['h', 't'], ['r', 'e', 'e']⟩) := by
    decide +kernel
  obtain ⟨⟨answers, player⟩, run, stands⟩ := Option.map_eq_some_iff.mp shape
  exact ⟨answers, player, run, stands, wellFormed_of_run run⟩

end Playscript
