/-
This file shows that the calls of a player return if its script keeps to a rule: a script that jumps
neither skips beats nor shows the rest of beats by itself. Expressions may call the player that
evaluates them, so the depth of nested calls has to be bounded; how often nodes are loaded within
one call is bounded by the nodes of the beat.

A script that does not jump goes through its scene only once. What is left of the scene is weighed,
and it weighs less before each nested call than at the beginning of the call around it, so the
weight bounds the depth. A script that jumps makes no nested calls at all.
-/

import Playscript.Proofs.WellFormed

namespace Playscript

namespace Player

/-! ### What is left of a scene -/

/-- The beats of the scene after the beat at which the player stands. -/
def laterBeats (player : Player) : List (List (Node Expr)) :=
  ((player.programme.scenes[player.scene]?.map Scene.beats).getD []).drop (player.beat + 1)

/-- What beats weigh that have not been entered. -/
def beatsWeight : List (List (Node Expr)) → Nat
  | [] => 0
  | nodes :: rest => nodes.length + 3 + beatsWeight rest

/-- What is left of the scene: the nodes and expressions that may still be played and evaluated,
and the changes from one status to the next. -/
def weight (player : Player) : Nat :=
  match player.status with
  | .emitting =>
    (player.nodes.length - player.visit.node) + 2 + player.visit.deferred.length +
      beatsWeight player.laterBeats
  | .waiting => 1 + player.visit.deferred.length + beatsWeight player.laterBeats
  | .done => 0

theorem weight_of_emitting {player : Player} (emitting : player.status = .emitting) :
    player.weight = (player.nodes.length - player.visit.node) + 2 + player.visit.deferred.length +
      beatsWeight player.laterBeats := by
  unfold weight
  rw [emitting]

theorem weight_of_waiting {player : Player} (waiting : player.status = .waiting) :
    player.weight = 1 + player.visit.deferred.length + beatsWeight player.laterBeats := by
  unfold weight
  rw [waiting]

theorem weight_of_stands {player other : Player} (stands : player.StandsWith other) :
    other.weight = player.weight := by
  unfold weight laterBeats
  rw [nodes_of_stands stands, stands.status, stands.programme, stands.scene, stands.beat,
    stands.node, stands.deferred]

/-- Every node that is passed makes the rest lighter. -/
theorem weight_passNode {player : Player} {node : Node Expr} (emitting : player.status = .emitting)
    (next : player.node? = some node) : player.passNode.weight + 1 = player.weight := by
  have inside := length_of_node? next
  rw [weight_of_emitting emitting,
    weight_of_emitting (show player.passNode.status = .emitting from emitting)]
  show (player.nodes.length - (player.visit.node + 1)) + 2 + player.visit.deferred.length +
    beatsWeight player.laterBeats + 1 = _
  omega

theorem weight_defer {player : Player} (emitting : player.status = .emitting)
    (expression : Expr) : (player.defer expression).weight = player.weight + 1 := by
  rw [weight_of_emitting emitting,
    weight_of_emitting (show (player.defer expression).status = .emitting from emitting)]
  show (player.nodes.length - player.visit.node) + 2 +
    (player.visit.deferred ++ [expression]).length + beatsWeight player.laterBeats = _
  rw [List.length_append, List.length_singleton]
  omega

theorem weight_wait {player : Player} (emitting : player.status = .emitting) :
    Player.weight { player with status := .waiting } < player.weight := by
  rw [weight_of_emitting emitting]
  show 1 + player.visit.deferred.length + beatsWeight player.laterBeats < _
  omega

theorem weight_takeDeferred {player : Player} (waiting : player.status = .waiting) :
    player.takeDeferred.2.weight + player.visit.deferred.length = player.weight := by
  rw [weight_of_waiting waiting,
    weight_of_waiting (show player.takeDeferred.2.status = .waiting from waiting)]
  show 1 + 0 + beatsWeight player.laterBeats + player.visit.deferred.length = _
  omega

/-- The next beat is what the later beats begin with. -/
theorem laterBeats_eq_cons {player : Player} {nodes : List (Node Expr)}
    (found : player.programme.beat? player.scene (player.beat + 1) = some nodes) :
    player.laterBeats = nodes :: (player.enterBeat (player.beat + 1)).laterBeats := by
  obtain ⟨scene, sceneFound, beatFound⟩ := Option.bind_eq_some_iff.mp found
  show ((player.programme.scenes[player.scene]?.map Scene.beats).getD []).drop (player.beat + 1) =
    nodes :: ((player.programme.scenes[player.scene]?.map Scene.beats).getD []).drop
      (player.beat + 1 + 1)
  rw [sceneFound]
  show scene.beats.drop (player.beat + 1) = nodes :: scene.beats.drop (player.beat + 1 + 1)
  obtain ⟨inside, rfl⟩ := List.getElem?_eq_some_iff.mp beatFound
  exact List.drop_eq_getElem_cons inside

/-- The next beat weighs less than the change to it. -/
theorem weight_enterBeat {player : Player} (waiting : player.status = .waiting) :
    (player.enterBeat (player.beat + 1)).weight < player.weight := by
  rw [weight_of_waiting waiting]
  have status : (player.enterBeat (player.beat + 1)).status =
      if (player.programme.beat? player.scene (player.beat + 1)).isSome then .emitting else .done :=
    rfl
  cases found : player.programme.beat? player.scene (player.beat + 1) with
  | none =>
    rw [found] at status
    have nothing : (player.enterBeat (player.beat + 1)).weight = 0 := by
      unfold weight
      rw [status]
      rfl
    rw [nothing]
    omega
  | some nodes =>
    rw [found] at status
    have stands : (player.enterBeat (player.beat + 1)).nodes = nodes := nodes_of_beat found
    rw [weight_of_emitting status, stands, laterBeats_eq_cons found]
    show (nodes.length - 0) + 2 + 0 + _ < 1 + _ + (nodes.length + 3 + _)
    omega

/-! ### The rule -/

/-- All that a player may evaluate calls some operations only. -/
structure CallsOnly (calls : String → Prop) (player : Player) : Prop where
  programme : ∀ name ∈ player.programme.calls, calls name
  deferred : ∀ expression ∈ player.visit.deferred, ∀ name ∈ expression.calls, calls name

/-- All that a player may evaluate calls some operations only, and if these include no jump, what is
left of the scene weighs less than a bound. -/
structure Light (calls : String → Prop) (bound : Nat) (player : Player) : Prop where
  callsOnly : player.CallsOnly calls
  weight : ¬ calls Builtin.goto.name → player.weight < bound

theorem calls_of_node {calls : String → Prop} {player : Player} {node : Node Expr}
    (called : ∀ name ∈ player.programme.calls, calls name) (next : player.node? = some node)
    {expression : Expr} (holds : node.expression? = some expression) :
    ∀ name ∈ expression.calls, calls name := by
  intro name member
  unfold node? Programme.node? at next
  obtain ⟨nodes, stands, found⟩ := Option.bind_eq_some_iff.mp next
  refine called name (Programme.mem_calls stands (List.mem_of_getElem? found) ?_)
  exact Node.mem_calls_of_expression holds member

namespace Light

variable {calls : String → Prop} {bound bound' : Nat} {player later : Player}

theorem mono (light : player.Light calls bound) (le : bound ≤ bound') : player.Light calls bound' :=
  ⟨light.callsOnly, fun noJump => (light.weight noJump).trans_le le⟩

theorem of_stands (light : player.Light calls bound) (stands : player.StandsWith later) :
    later.Light calls bound where
  callsOnly := by
    refine ⟨?_, ?_⟩
    · rw [stands.programme]
      exact light.callsOnly.programme
    · rw [stands.deferred]
      exact light.callsOnly.deferred
  weight noJump := by
    rw [weight_of_stands stands]
    exact light.weight noJump

theorem loadScene {name : String} (light : player.Light calls bound)
    (called : calls Builtin.goto.name) (loaded : player.loadScene? name = some later) :
    later.Light calls bound := by
  obtain ⟨scene, -, rfl⟩ := Option.map_eq_some_iff.mp loaded
  refine ⟨⟨light.callsOnly.programme, ?_⟩, fun noJump => absurd called noJump⟩
  intro expression member
  cases member

theorem endScene (light : player.Light calls bound) : player.endScene.Light calls bound where
  callsOnly := by
    refine ⟨light.callsOnly.programme, ?_⟩
    intro expression member
    cases member
  weight noJump := (Nat.zero_le _).trans_lt (light.weight noJump)

theorem passNode {node : Node Expr} (light : player.Light calls (bound + 1))
    (emitting : player.status = .emitting) (next : player.node? = some node) :
    player.passNode.Light calls bound where
  callsOnly := ⟨light.callsOnly.programme, light.callsOnly.deferred⟩
  weight noJump := by
    have before := light.weight noJump
    rw [← weight_passNode emitting next] at before
    exact Nat.lt_of_succ_lt_succ before

theorem defer {expression : Expr} (light : player.Light calls bound)
    (emitting : player.status = .emitting) (called : ∀ name ∈ expression.calls, calls name) :
    (player.defer expression).Light calls (bound + 1) where
  callsOnly := by
    refine ⟨light.callsOnly.programme, ?_⟩
    intro other member
    rcases List.mem_append.mp member with member | member
    · exact light.callsOnly.deferred other member
    · obtain rfl := List.mem_singleton.mp member
      exact called
  weight noJump := by
    rw [weight_defer emitting]
    exact Nat.succ_lt_succ (light.weight noJump)

theorem wait (light : player.Light calls bound) (emitting : player.status = .emitting) :
    Player.Light calls bound { player with status := .waiting } where
  callsOnly := ⟨light.callsOnly.programme, light.callsOnly.deferred⟩
  weight noJump := (weight_wait emitting).trans (light.weight noJump)

/-- What is evaluated from the queue is evaluated with less left. -/
theorem takeDeferred (light : player.Light calls (bound + 1)) (waiting : player.status = .waiting)
    (some : player.visit.deferred ≠ []) : player.takeDeferred.2.Light calls bound where
  callsOnly := by
    refine ⟨light.callsOnly.programme, ?_⟩
    intro expression member
    cases member
  weight noJump := by
    have before := light.weight noJump
    have taken := weight_takeDeferred waiting
    have positive := List.length_pos_iff.mpr some
    omega

theorem enterBeat (light : player.Light calls bound) (waiting : player.status = .waiting) :
    (player.enterBeat (player.beat + 1)).Light calls bound where
  callsOnly := by
    refine ⟨light.callsOnly.programme, ?_⟩
    intro expression member
    cases member
  weight noJump := (weight_enterBeat waiting).trans (light.weight noJump)

theorem render (light : player.Light calls bound) (atOnce : Bool) (text : String) :
    (player.render atOnce text).Light calls bound := by
  cases atOnce with
  | true => exact light.of_stands (player.standsWith_emit _)
  | false => exact light.of_stands (player.standsWith_beginTyping text)

theorem renderValue (light : player.Light calls bound) (epoch : Nat) (atOnce : Bool)
    (value? : Option Value) : (player.renderValue epoch atOnce value?).Light calls bound :=
  renderValue_cases value? light fun text _ => light.render atOnce text

end Light

end Player

/-! ### Evaluations -/

/-- Nested calls that return, from players with less than a bound left. They are only asked for
where no script jumps. -/
structure Controls.Return (calls : String → Prop) (bound : Nat) (controls : Controls) : Prop where
  skipBeat : ¬ calls Builtin.goto.name → ∀ player : Player, player.Light calls bound →
    Ends True (Player.Light calls bound) (controls.skipBeat player)
  continueBeat : ¬ calls Builtin.goto.name → ∀ player : Player, player.Light calls bound →
    Ends True (Player.Light calls bound) (controls.continueBeat player)

/-- The rule for scripts whose calls return: what jumps does not skip or show the rest of beats. -/
def Sober (calls : String → Prop) : Prop :=
  calls Builtin.goto.name → ¬ calls Builtin.skip.name ∧ ¬ calls Builtin.flush.name

namespace Player

variable {calls : String → Prop} {bound : Nat} {controls : Controls} (sober : Sober calls)
  (forward : controls.Forward) (returns : controls.Return calls bound)

include sober returns

theorem lastsThroughSteering_light :
    LastsThroughSteering True calls controls (Player.Light calls bound) where
  assignment _ light := light.of_stands ⟨rfl, rfl, rfl, rfl, rfl, rfl, rfl⟩
  emit event light := light.of_stands (standsWith_emit _ event)
  setInstant _ light := light.of_stands ⟨rfl, rfl, rfl, rfl, rfl, rfl, rfl⟩
  setConfirmFlushes _ light := light.of_stands ⟨rfl, rfl, rfl, rfl, rfl, rfl, rfl⟩
  setSpeed _ light _ := light.of_stands ⟨rfl, rfl, rfl, rfl, rfl, rfl, rfl⟩
  setPause _ light := light.of_stands ⟨rfl, rfl, rfl, rfl, rfl, rfl, rfl⟩
  loadScene called light loaded := light.loadScene called loaded
  endScene light := light.endScene
  skipBeat called light := returns.skipBeat (fun jumps => (sober jumps).1 called) _ light
  continueBeat called light := returns.continueBeat (fun jumps => (sober jumps).2 called) _ light

/-! ### Playing a beat -/

theorem returns_playNode {node : Node Expr} (flushing : Bool) {player : Player}
    (light : player.Light calls bound) (emitting : player.status = .emitting)
    (called : ∀ expression, node.expression? = some expression →
      ∀ name ∈ expression.calls, calls name) :
    Ends True (Player.Light calls (bound + 1))
      (player.playNode (Builtin.registry controls) flushing node) := by
  have evaluated (expression : Expr) (holds : node.expression? = some expression) :=
    (lastsThroughSteering_light sober returns).ends_evaluate expression (called expression holds)
      light
  have more := Nat.le_succ bound
  cases node with
  | text content => exact (light.render _ content).mono more
  | instantString content => exact (light.render true content).mono more
  | typewriterString content => exact (light.render flushing content).mono more
  | inlineExpr expression => exact (evaluated expression rfl).map fun _ light => light.mono more
  | deferredExpr expression => exact light.defer emitting (called expression rfl)
  | instantExpr expression =>
    exact (evaluated expression rfl).map fun _ light => (light.renderValue _ _ _).mono more
  | typewriterExpr expression =>
    exact (evaluated expression rfl).map fun _ light => (light.renderValue _ _ _).mono more

theorem returns_loadNode (flushing : Bool) {player : Player}
    (light : player.Light calls (bound + 1)) (emitting : player.status = .emitting) :
    Ends True (Player.Light calls (bound + 1))
      (player.loadNode (Builtin.registry controls) flushing) := by
  unfold loadNode
  cases next : player.node? with
  | none => exact light.wait emitting
  | some node =>
    refine returns_playNode sober returns flushing (light.passNode emitting next) emitting ?_
    intro expression holds
    exact calls_of_node light.callsOnly.programme next holds

include forward

theorem returns_flushNodes (epoch rounds : Nat) {player : Player}
    (light : player.Light calls (bound + 1))
    (enough : player.status = .emitting ∧ player.epoch = epoch → player.rounds ≤ rounds) :
    Ends True (Player.Light calls (bound + 1))
      (flushNodes (Builtin.registry controls) epoch rounds player) := by
  refine (ends_flushNodes forward (fun middle light emitting => ?_) rounds light
    fun _ => enough).imp fun _ ended => ended.1
  exact returns_loadNode sober returns true light emitting

theorem returns_continueBeat {player : Player} (light : player.Light calls (bound + 1)) :
    Ends True (Player.Light calls (bound + 1))
      (player.continueBeat (Builtin.registry controls)) := by
  unfold Player.continueBeat
  split
  · have shown := player.standsWith_showPending
    refine (returns_flushNodes sober forward returns player.epoch player.rounds
      (light.of_stands shown) fun _ => (rounds_of_stands shown).le).map fun later light => ?_
    exact light.of_stands (later.standsWith_dropTime player.epoch)
  · exact light

omit forward in
theorem returns_evaluateAll_deferred {player : Player} (light : player.Light calls (bound + 1))
    (waiting : player.status = .waiting) :
    Ends True (Player.Light calls (bound + 1))
      (evaluateAll (Builtin.registry controls) player.visit.deferred player.takeDeferred.2) := by
  by_cases nothing : player.visit.deferred = []
  · rw [nothing]
    refine light.of_stands ⟨rfl, rfl, rfl, rfl, rfl, ?_, rfl⟩
    exact nothing.symm
  · refine ((lastsThroughSteering_light sober returns).ends_evaluateAll player.visit.deferred
      light.callsOnly.deferred (light.takeDeferred waiting nothing)).imp fun later light => ?_
    exact light.mono (Nat.le_succ bound)

omit forward in
theorem returns_finishBeat {player : Player} (light : player.Light calls (bound + 1))
    (waiting : player.status = .waiting) :
    Ends True (Player.Light calls (bound + 1))
      (player.finishBeat (Builtin.registry controls)) := by
  unfold finishBeat
  refine (returns_evaluateAll_deferred sober returns light waiting).map fun later light => ?_
  have wiped : later.clearOutput.Light calls (bound + 1) :=
    light.of_stands (later.standsWith_emit .clear)
  dsimp only
  split
  · rename_i stillWaiting
    exact wiped.enterBeat stillWaiting
  · exact wiped

theorem returns_skipBeat {player : Player} (light : player.Light calls (bound + 1)) :
    Ends True (Player.Light calls (bound + 1))
      (player.skipBeat (Builtin.registry controls)) := by
  unfold Player.skipBeat
  refine (returns_continueBeat sober forward returns light).bind fun middle light => ?_
  split
  · rename_i waiting
    exact returns_finishBeat sober returns light waiting
  · exact light

theorem returns_confirm {player : Player} (light : player.Light calls (bound + 1)) :
    Ends True (Player.Light calls (bound + 1))
      (player.confirm (Builtin.registry controls)) := by
  unfold Player.confirm
  split
  · split
    · exact returns_continueBeat sober forward returns light
    · exact light
  · rename_i waiting
    exact returns_finishBeat sober returns light waiting
  · exact light

/-! ### Letting time pass -/

theorem returns_playFrame (epoch rounds : Nat) {player : Player}
    (light : player.Light calls (bound + 1))
    (enough : player.status = .emitting ∧ player.epoch = epoch → player.rounds ≤ rounds) :
    Ends True (Player.Light calls (bound + 1))
      (playFrame (Builtin.registry controls) epoch rounds player) := by
  refine ends_playFrame forward (fun middle light _ => ?_) (fun middle light emitting _ => ?_)
    rounds light fun _ => enough
  · exact light.of_stands middle.standsWith_typePending
  · exact returns_loadNode sober returns false light emitting

theorem returns_advance (milliseconds : Float) {player : Player}
    (light : player.Light calls (bound + 1)) :
    Ends True (Player.Light calls (bound + 1))
      (player.advance (Builtin.registry controls) milliseconds) := by
  have timed (pause elapsed : Float) := player.standsWith_withTime pause elapsed
  rcases player.advance_cases (Builtin.registry controls) milliseconds with
    ⟨pause, elapsed, outcome⟩ | ⟨-, pause, elapsed, outcome⟩
  · rw [outcome]
    exact light.of_stands (timed pause elapsed)
  · rw [outcome]
    exact returns_playFrame sober forward returns _ _ (light.of_stands (timed pause elapsed))
      fun _ => (rounds_of_stands (timed pause elapsed)).le

end Player

/-! ### Nested calls -/

/-- No player has less than nothing left. -/
theorem Controls.return_zero (calls : String → Prop) (controls : Controls) :
    controls.Return calls 0 where
  skipBeat noJump _ light := absurd (light.weight noJump) (Nat.not_lt_zero _)
  continueBeat noJump _ light := absurd (light.weight noJump) (Nat.not_lt_zero _)

/-- A depth is enough for every player that has less left than it. -/
theorem Controls.return_builtin {calls : String → Prop} (sober : Sober calls) {bound depth : Nat}
    (le : bound ≤ depth) : (Controls.builtin depth).Return calls bound := by
  induction depth generalizing bound with
  | zero =>
    obtain rfl := Nat.le_zero.mp le
    exact Controls.return_zero calls _
  | succ depth inductionHypothesis =>
    cases bound with
    | zero => exact Controls.return_zero calls _
    | succ bound =>
      have forward := Controls.forward_builtin depth
      have returns := inductionHypothesis (Nat.le_of_succ_le_succ le)
      refine ⟨fun _ player light => ?_, fun _ player light => ?_⟩
      · exact Player.returns_skipBeat sober forward returns light
      · exact Player.returns_continueBeat sober forward returns light

/-! ### Requests of the host -/

namespace Player

theorem programme_start (programme : Programme) (settings : Settings) :
    (Player.start programme settings).programme = programme := by
  unfold Player.start
  dsimp only
  cases loaded : Player.loadScene? _ mainScene with
  | none => rfl
  | some later => exact (continues_loadScene loaded).programme

/-- What a sound player has put off stands in its programme. -/
theorem Sound.callsOnly {calls : String → Prop} {player : Player} (sound : player.Sound False)
    (called : ∀ name ∈ player.programme.calls, calls name) : player.CallsOnly calls where
  programme := called
  deferred expression member name inside := by
    by_cases isDone : player.status = .done
    · rw [(sound.idle isDone).1] at member
      cases member
    · obtain ⟨nodes, stands, -⟩ := sound.placed isDone
      rw [sound.wellFormed.queued isDone] at member
      obtain ⟨node, passed, deferred⟩ := List.mem_filterMap.mp member
      rw [nodes_of_beat stands] at passed
      refine called name (Programme.mem_calls stands (List.mem_of_mem_take passed) ?_)
      exact Node.mem_calls_of_expression (Node.expression?_of_deferred deferred) inside

end Player

namespace Request

theorem callsOnly_of_run {calls : String → Prop} {programme : Programme} {settings : Settings}
    {depth : Nat} {requests : List Request} {answers : List Answer} {player : Player}
    (called : ∀ name ∈ programme.calls, calls name)
    (run : fulfilAll (Controls.builtin depth) requests (Player.start programme settings) =
      some (answers, player)) : player.CallsOnly calls := by
  refine (sound_of_run run).callsOnly ?_
  have continues := continues_fulfilAll depth requests (Player.start programme settings)
  rw [run] at continues
  rw [continues.programme, Player.programme_start]
  exact called

/-- A depth that is greater than what is left of the scene is enough for every request. -/
theorem returns_fulfil {calls : String → Prop} (sober : Sober calls) {player : Player}
    (callsOnly : player.CallsOnly calls) (request : Request) :
    (request.fulfil (Controls.builtin (player.weight + 1)) player).isSome := by
  have light : player.Light calls (player.weight + 1) := ⟨callsOnly, fun _ => Nat.lt_succ_self _⟩
  have forward := Controls.forward_builtin player.weight
  have returns := Controls.return_builtin sober (le_refl player.weight)
  cases request with
  | advance milliseconds =>
    obtain ⟨later, advanced, -⟩ :=
      (Player.returns_advance sober forward returns milliseconds light).of_certain trivial
    exact Option.isSome_map.trans (Option.isSome_of_eq_some advanced)
  | confirm =>
    obtain ⟨later, confirmed, -⟩ :=
      (Player.returns_confirm sober forward returns light).of_certain trivial
    exact Option.isSome_map.trans (Option.isSome_of_eq_some confirmed)
  | continueBeat =>
    obtain ⟨later, continued, -⟩ :=
      (Player.returns_continueBeat sober forward returns light).of_certain trivial
    exact Option.isSome_map.trans (Option.isSome_of_eq_some continued)
  | skipBeat =>
    obtain ⟨later, skipped, -⟩ :=
      (Player.returns_skipBeat sober forward returns light).of_certain trivial
    exact Option.isSome_map.trans (Option.isSome_of_eq_some skipped)
  | loadScene name =>
    unfold fulfil
    dsimp only
    cases player.loadScene? name <;> rfl
  | endScene | clearOutput | setInstant | setConfirmFlushes | setSpeed | pause | setVariable
  | removeVariable | isDone => rfl

end Request

end Playscript
