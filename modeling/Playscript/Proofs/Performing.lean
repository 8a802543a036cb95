/-
This file shows that a player performs its scene. Whatever a host does about time, what has been put
out when the scene is over is what the scene tells, as long as the scene calls nothing that decides
where a play goes on.

The argument looks ahead. At every moment it is settled what is still to be told: the text that is
being typed, the nodes that are left, the expressions that have been put off, and the later beats.
To play is to move something from what is ahead to what has been told. So telling all that is ahead
comes to the same end at every moment, and when the play is over nothing is ahead.
-/

import Playscript.Proofs.Finishing
import Playscript.Proofs.Pacing
import Playscript.Proofs.Telling

namespace Playscript

/-! ### Evaluations -/

namespace Player

/-- A player stands where an earlier one stood and has nothing to type, and it has come as far as a
telling. -/
structure TellsAs (player later : Player) (telling : Telling) : Prop where
  stands : player.StandsWith later
  pending : later.visit.typing.pending = []
  scope : later.scope = telling.scope
  stream : later.stream = telling.stream

namespace TellsAs

variable {player later other : Player} {telling : Telling}

theorem of_stands (tells : player.TellsAs later telling) (stands : later.StandsWith other)
    (typing : other.visit.typing = later.visit.typing) (scope : other.scope = later.scope)
    (events : other.events = later.events) : player.TellsAs other telling where
  stands := tells.stands.trans stands
  pending := by rw [typing, tells.pending]
  scope := scope.trans tells.scope
  stream := by
    show other.events.toList.flatMap Event.parts = telling.stream
    rw [events]
    exact tells.stream

theorem emit (tells : player.TellsAs later telling) (event : Event) :
    player.TellsAs (later.emit event) (telling.tell event) where
  stands := tells.stands.trans (later.standsWith_emit event)
  pending := tells.pending
  scope := tells.scope
  stream := by
    rw [stream_emit, tells.stream]
    rfl

end TellsAs

end Player

/-- An operation that does not steer does to a player what it does to a telling. -/
theorem Builtin.tells_operation {controls : Controls} {player later : Player} {telling : Telling}
    (builtin : Builtin) (stays : builtin.steers = false) (arguments : List Value)
    (tells : player.TellsAs later telling) :
    Matches False (SameResult player.TellsAs) (builtin.operation controls arguments later)
      (Telling.operation builtin arguments telling) := by
  have unchanged (other : Player) (stands : later.StandsWith other)
      (typing : other.visit.typing = later.visit.typing) (scope : other.scope = later.scope)
      (events : other.events = later.events) : player.TellsAs other telling :=
    tells.of_stands stands typing scope events
  cases builtin with
  | goto | skip | flush | finish => cases stays
  | instant =>
    match arguments with
    | [] => exact ⟨rfl, unchanged _ ⟨rfl, rfl, rfl, rfl, rfl, rfl, rfl⟩ rfl rfl rfl⟩
    | [value] => exact ⟨rfl, unchanged _ ⟨rfl, rfl, rfl, rfl, rfl, rfl, rfl⟩ rfl rfl rfl⟩
    | _ :: _ :: _ => exact ⟨rfl, tells⟩
  | flushing =>
    match arguments with
    | [] => exact ⟨rfl, unchanged _ ⟨rfl, rfl, rfl, rfl, rfl, rfl, rfl⟩ rfl rfl rfl⟩
    | [value] => exact ⟨rfl, unchanged _ ⟨rfl, rfl, rfl, rfl, rfl, rfl, rfl⟩ rfl rfl rfl⟩
    | _ :: _ :: _ => exact ⟨rfl, tells⟩
  | clear =>
    match arguments with
    | [] => exact ⟨rfl, tells.emit .clear⟩
    | _ :: _ => exact ⟨rfl, tells⟩
  | speed =>
    match arguments with
    | [] => exact ⟨rfl, tells⟩
    | [argument] =>
      simp only [Builtin.operation, Builtin.perform, Telling.operation, Builtin.misuse?,
        Action.mapError, Action.bind_apply, Action.andThen]
      cases Builtin.speedArgument argument with
      | error misuse => exact ⟨rfl, tells⟩
      | ok charsPerSecond =>
        simp only [Action.ofExcept, Action.give, Builtin.attempt, Player.setSpeed]
        by_cases isSpeed : Settings.isSpeed charsPerSecond
        · simp only [if_pos isSpeed]
          exact ⟨rfl, unchanged _ ⟨rfl, rfl, rfl, rfl, rfl, rfl, rfl⟩ rfl rfl rfl⟩
        · simp only [if_neg isSpeed]
          exact ⟨rfl, tells⟩
    | _ :: _ :: _ => exact ⟨rfl, tells⟩
  | pause =>
    match arguments with
    | [] => exact ⟨rfl, tells⟩
    | [argument] =>
      simp only [Builtin.operation, Builtin.perform, Telling.operation, Builtin.misuse?,
        Action.mapError, Action.bind_apply, Action.andThen]
      cases Builtin.pauseArgument argument with
      | error misuse => exact ⟨rfl, tells⟩
      | ok milliseconds =>
        simp only [Action.ofExcept, Action.give, Builtin.attempt, Player.pause]
        by_cases isPause : milliseconds.isFinite && 0 ≤ milliseconds
        · simp only [if_pos isPause]
          exact ⟨rfl, unchanged _ ⟨rfl, rfl, rfl, rfl, rfl, rfl, rfl⟩ rfl rfl rfl⟩
        · simp only [if_neg isPause]
          exact ⟨rfl, tells⟩
    | _ :: _ :: _ => exact ⟨rfl, tells⟩

namespace Player

theorem keptByCalls_tells (controls : Controls) (player : Player) :
    KeptByCalls False (fun name => ∀ builtin : Builtin, builtin.steers = true → builtin.name ≠ name)
      player.TellsAs (Builtin.registry controls) Telling.registry where
  scope tells := tells.scope
  assignment _ tells := ⟨⟨tells.stands.programme, tells.stands.status, tells.stands.scene,
    tells.stands.beat, tells.stands.node, tells.stands.deferred, tells.stands.epoch⟩,
    tells.pending, rfl, tells.stream⟩
  operations := by
    intro name noSteering
    have stays (builtin : Builtin) (isName : builtin.name = name) : builtin.steers = false :=
      Bool.eq_false_iff.mpr fun steers => noSteering builtin steers isName
    -- Nothing that steers has the name, so it makes no difference that only one table lists it.
    have found : (Builtin.all.filter fun builtin => !builtin.steers).find?
          (fun builtin => builtin.name = name) =
        Builtin.all.find? fun builtin => builtin.name = name := by
      rw [List.find?_filter]
      refine congrArg (List.find? · Builtin.all) (funext fun builtin => ?_)
      by_cases isName : builtin.name = name
      · simp [isName, stays builtin isName]
      · simp [isName]
    unfold Builtin.registry Telling.registry
    rw [Builtin.get?_foldl_insert, Builtin.get?_foldl_insert, found]
    cases named : Builtin.all.find? fun builtin => builtin.name = name with
    | none => exact .none
    | some builtin =>
      have isName : builtin.name = name := by simpa using List.find?_some named
      exact .some fun arguments _ _ tells =>
        builtin.tells_operation (stays builtin isName) arguments tells

/-- Evaluating an expression that stays does to a player what it does to a telling. -/
theorem tells_evaluate (controls : Controls) {player later : Player} {telling : Telling}
    {expression : Expr} (stays : expression.Stays) (tells : player.TellsAs later telling) :
    Matches False (SameResult player.TellsAs)
      (later.evaluate (Builtin.registry controls) expression) (telling.evaluate expression) := by
  have compared := Expr.eval_matches (player.keptByCalls_tells controls) expression
    (fun name called builtin steers isName => stays builtin steers (isName ▸ called)) tells
  unfold Player.evaluate Telling.evaluate
  cases ended : expression.eval (Builtin.registry controls) later with
  | none => exact not_false
  | some outcome =>
    obtain ⟨result, last⟩ := outcome
    obtain ⟨⟨result', told⟩, ended', same, tells⟩ := compared.of_some ended
    obtain rfl : result = result' := same
    rw [ended']
    cases result with
    | error error => exact ⟨rfl, tells.emit _⟩
    | ok value => exact ⟨rfl, tells⟩

theorem tells_evaluateAll (controls : Controls) (expressions : List Expr)
    (stay : ∀ expression ∈ expressions, expression.Stays) {player later : Player}
    {telling : Telling} (tells : player.TellsAs later telling) :
    Matches False player.TellsAs (evaluateAll (Builtin.registry controls) expressions later)
      (expressions.foldlM Telling.fire telling) := by
  induction expressions generalizing later telling with
  | nil => exact tells
  | cons expression rest inductionHypothesis =>
    rw [List.foldlM_cons]
    show Matches False player.TellsAs
      ((later.evaluate _ expression).bind fun outcome => evaluateAll _ rest outcome.2)
      (((telling.evaluate expression).map Prod.snd).bind fun told => rest.foldlM Telling.fire told)
    rw [Option.bind_map]
    refine (tells_evaluate controls (stay expression List.mem_cons_self) tells).bind ?_
    intro outcome outcome' same
    exact inductionHypothesis
      (fun other member => stay other (List.mem_cons_of_mem _ member)) same.2

/-! ### What has been told -/

/-- What a player has told, when the text that is being typed counts as shown. -/
def telling (player : Player) : Telling where
  scope := player.scope
  stream := player.stream ++ player.visit.typing.pending.map Event.character

theorem telling_of_nil {player : Player} (nothing : player.visit.typing.pending = []) :
    player.telling = ⟨player.scope, player.stream⟩ := by
  unfold telling
  rw [nothing, List.map_nil, List.append_nil]

theorem telling_showPending (player : Player) : player.showPending.telling = player.telling := by
  have story := player.story_showPending
  rw [telling_of_nil player.pending_showPending]
  unfold telling
  rw [show player.showPending.scope = player.scope from congrArg Story.scope story,
    show player.showPending.stream = _ from congrArg Story.stream story]

theorem telling_typePending (player : Player) : player.typePending.telling = player.telling := by
  rw [← telling_showPending, ← telling_showPending player]
  have story : player.typePending.showPending.story = player.showPending.story :=
    story_showPending_typeWhileTime _ _ rfl
  rw [telling_of_nil (pending_showPending _), telling_of_nil (pending_showPending _)]
  rw [show player.typePending.showPending.scope = _ from congrArg Story.scope story,
    show player.typePending.showPending.stream = _ from congrArg Story.stream story]
  rfl

theorem tellsAs_of_nil {player : Player} (nothing : player.visit.typing.pending = []) :
    player.TellsAs player player.telling :=
  ⟨⟨rfl, rfl, rfl, rfl, rfl, rfl, rfl⟩, nothing, rfl, by rw [telling_of_nil nothing]⟩

theorem TellsAs.telling_eq {player later : Player} {telling : Telling}
    (tells : player.TellsAs later telling) : later.telling = telling := by
  rw [telling_of_nil tells.pending, tells.scope, tells.stream]

/-- Where nothing is being typed, a text is told whether it is shown at once or typed. -/
theorem telling_render {player : Player} (nothing : player.visit.typing.pending = [])
    (atOnce : Bool) (text : String) :
    (player.render atOnce text).telling = player.telling.tell (.text text) := by
  rw [telling_of_nil nothing]
  cases atOnce with
  | true =>
    show (player.emit (.text text)).telling = _
    rw [telling_of_nil (show (player.emit (.text text)).visit.typing.pending = [] from nothing),
      stream_emit]
    rfl
  | false => rfl

/-! ### Playing nodes -/

/-- A player has played a node, and it is at the same visit still. -/
structure Plays (flushing : Bool) (player : Player) (node : Node Expr) (later : Player)
    (telling : Telling) : Prop where
  programme : later.programme = player.programme
  status : later.status = player.status
  scene : later.scene = player.scene
  beat : later.beat = player.beat
  deferred : later.visit.deferred = player.visit.deferred ++ node.deferred?.toList
  node : later.visit.node = player.visit.node
  told : later.telling = telling
  pending : flushing = true → later.visit.typing.pending = []

theorem Plays.of_stands {flushing : Bool} {player later : Player} {node : Node Expr}
    {telling : Telling} (nothing : node.deferred? = none) (stands : player.StandsWith later)
    (told : later.telling = telling) (pending : flushing = true → later.visit.typing.pending = []) :
    player.Plays flushing node later telling where
  programme := stands.programme
  status := stands.status
  scene := stands.scene
  beat := stands.beat
  node := stands.node
  deferred := by
    rw [stands.deferred, nothing]
    exact (List.append_nil _).symm
  told := told
  pending := pending

/-- A player tells a node as the scene does. -/
theorem plays_playNode (controls : Controls) (flushing : Bool) {player : Player}
    (nothing : player.visit.typing.pending = []) (node : Node Expr)
    (stays : ∀ expression, node.expression? = some expression → expression.Stays) :
    Matches False (player.Plays flushing node)
      (player.playNode (Builtin.registry controls) flushing node)
      (player.telling.tellNode node) := by
  have rendered (other : Node Expr) (noExpression : other.deferred? = none) {later : Player}
      {telling : Telling} (tells : player.TellsAs later telling) (atOnce : Bool) (text : String)
      (soon : flushing = true → atOnce = true) :
      player.Plays flushing other (later.render atOnce text) (telling.tell (.text text)) := by
    refine .of_stands noExpression (tells.stands.trans (later.standsWith_render atOnce text)) ?_ ?_
    · rw [telling_render tells.pending, tells.telling_eq]
    · intro flushes
      rw [soon flushes]
      exact tells.pending
  have shown (other : Node Expr) (noExpression : other.deferred? = none) (atOnce : Bool)
      (soon : flushing = true → atOnce = true) (value? : Option Value) (value?' : Option Value)
      {later : Player} {telling : Telling} (same : value? = value?')
      (tells : player.TellsAs later telling) :
      player.Plays flushing other (later.renderValue player.epoch atOnce value?)
        (telling.tellValue value?') := by
    subst same
    cases value? with
    | none => exact .of_stands noExpression tells.stands tells.telling_eq fun _ => tells.pending
    | some value =>
      show player.Plays flushing other
        (if later.epoch = player.epoch then later.render atOnce value.text else later) _
      rw [if_pos tells.stands.epoch]
      exact rendered other noExpression tells atOnce value.text soon
  have start := tellsAs_of_nil nothing
  cases node with
  | text content =>
    exact rendered _ rfl start _ content fun flushes => by rw [flushes, Bool.or_true]
  | instantString content => exact rendered _ rfl start true content fun _ => rfl
  | typewriterString content => exact rendered _ rfl start flushing content id
  | inlineExpr expression =>
    exact (tells_evaluate controls (stays expression rfl) start).map fun _ _ same =>
      .of_stands rfl same.2.stands same.2.telling_eq fun _ => same.2.pending
  | deferredExpr expression =>
    exact ⟨rfl, rfl, rfl, rfl, rfl, rfl, rfl, fun _ => nothing⟩
  | instantExpr expression =>
    exact (tells_evaluate controls (stays expression rfl) start).map fun _ _ same =>
      shown _ rfl true (fun _ => rfl) _ _ same.1 same.2
  | typewriterExpr expression =>
    exact (tells_evaluate controls (stays expression rfl) start).map fun _ _ same =>
      shown _ rfl flushing id _ _ same.1 same.2

/-! ### What is ahead -/

/-- What will have been told when the play is over: what is ahead of a player in the given beats,
told after what it has told. -/
def ahead (player : Player) (beats : List (List (Node Expr))) : Option Telling :=
  if player.status = .done then some player.telling
  else
    (player.telling.tellRest player.visit.deferred (player.nodes.drop player.visit.node)).bind
      fun later => (beats.drop (player.beat + 1)).foldlM Telling.tellBeat later

/-- A player plays a scene towards an end: telling what is ahead of it leads there. -/
structure Follows (scene : Scene) (ending : Option Telling) (player : Player) : Prop where
  stands : player.programme.scenes[player.scene]? = some scene
  /-- A beat that waits has no nodes left. -/
  passed : player.status = .waiting → player.nodes.length ≤ player.visit.node
  /-- Only a player that plays a beat has something to type. -/
  settled : player.status ≠ .emitting → player.visit.typing.pending = []
  stay : ∀ expression ∈ player.visit.deferred, expression.Stays
  ahead : player.ahead scene.beats = ending

variable {scene : Scene} {ending : Option Telling} {player later : Player}

theorem ahead_of_not_done (notDone : player.status ≠ .done) (beats : List (List (Node Expr))) :
    player.ahead beats =
      (player.telling.tellRest player.visit.deferred (player.nodes.drop player.visit.node)).bind
        fun later => (beats.drop (player.beat + 1)).foldlM Telling.tellBeat later :=
  if_neg notDone

theorem ahead_of_stands (stands : player.StandsWith later) (told : later.telling = player.telling)
    (beats : List (List (Node Expr))) : later.ahead beats = player.ahead beats := by
  unfold ahead
  rw [stands.status, stands.deferred, stands.node, stands.beat, nodes_of_stands stands, told]

/-- Where a player enters a beat, this beat and the later ones are ahead. -/
theorem ahead_enterBeat (stands : player.programme.scenes[player.scene]? = some scene)
    (beat : Nat) :
    (player.enterBeat beat).ahead scene.beats =
      (scene.beats.drop beat).foldlM Telling.tellBeat ⟨player.scope, player.stream⟩ := by
  have told : (player.enterBeat beat).telling = ⟨player.scope, player.stream⟩ := telling_of_nil rfl
  have found : player.programme.beat? player.scene beat = scene.beats[beat]? := by
    unfold Programme.beat?
    rw [stands]
    rfl
  have status : (player.enterBeat beat).status =
      if (scene.beats[beat]?).isSome then .emitting else .done := by
    rw [← found]
    rfl
  cases isBeat : scene.beats[beat]? with
  | none =>
    have isDone : (player.enterBeat beat).status = .done := by
      rw [status, isBeat]
      rfl
    unfold ahead
    rw [if_pos isDone, told, List.drop_eq_nil_of_le (List.getElem?_eq_none_iff.mp isBeat)]
    rfl
  | some nodes =>
    have notDone : (player.enterBeat beat).status ≠ .done := by
      rw [status, isBeat]
      simp
    obtain ⟨inside, isNodes⟩ := List.getElem?_eq_some_iff.mp isBeat
    have nodesEq : (player.enterBeat beat).nodes = nodes := nodes_of_beat (found.trans isBeat)
    rw [ahead_of_not_done notDone, told, nodesEq, List.drop_eq_getElem_cons inside, isNodes,
      List.foldlM_cons]
    rfl

namespace Follows

theorem enterBeat (stands : player.programme.scenes[player.scene]? = some scene) (beat : Nat)
    (ahead : (scene.beats.drop beat).foldlM Telling.tellBeat ⟨player.scope, player.stream⟩ =
      ending) : (player.enterBeat beat).Follows scene ending where
  stands := stands
  passed waiting := absurd waiting (status_enterBeat_ne_waiting player beat)
  settled _ := rfl
  stay _ member := by cases member
  ahead := (ahead_enterBeat stands beat).trans ahead

theorem of_stands (follows : player.Follows scene ending) (stands : player.StandsWith later)
    (told : later.telling = player.telling)
    (settled : later.status ≠ .emitting → later.visit.typing.pending = []) :
    later.Follows scene ending where
  stands := by
    rw [stands.programme, stands.scene]
    exact follows.stands
  passed := by
    rw [stands.status, stands.node, nodes_of_stands stands]
    exact follows.passed
  settled := settled
  stay := by
    rw [stands.deferred]
    exact follows.stay
  ahead := (ahead_of_stands stands told scene.beats).trans follows.ahead

theorem beat?_eq (follows : player.Follows scene ending) :
    player.programme.beat? player.scene player.beat = scene.beats[player.beat]? := by
  unfold Programme.beat?
  rw [follows.stands]
  rfl

/-- The next node is a node of the scene. -/
theorem stays_of_node? {node : Node Expr} {expression : Expr}
    (follows : player.Follows scene ending) (calm : scene.Stays) (next : player.node? = some node)
    (holds : node.expression? = some expression) : expression.Stays := by
  unfold node? Programme.node? at next
  obtain ⟨nodes, beat, found⟩ := Option.bind_eq_some_iff.mp next
  rw [follows.beat?_eq] at beat
  exact calm.expression (List.mem_of_getElem? beat) (List.mem_of_getElem? found) holds

/-- A beat that has been played to its end waits for what it has put off. -/
theorem wait (follows : player.Follows scene ending) (emitting : player.status = .emitting)
    (nothing : player.visit.typing.pending = []) (last : player.node? = none) :
    Follows scene ending { player with status := .waiting } where
  stands := follows.stands
  passed _ := List.getElem?_eq_none_iff.mp (player.node?_eq.symm.trans last)
  settled _ := nothing
  stay := follows.stay
  ahead := by
    have notDone : player.status ≠ .done := by
      rw [emitting]
      decide
    rw [← follows.ahead, ahead_of_not_done notDone]
    exact ahead_of_not_done (show Status.waiting ≠ .done by decide) _

/-- To play a node is to tell it. -/
theorem of_plays {flushing : Bool} {node : Node Expr} {telling : Telling}
    (follows : player.Follows scene ending) (calm : scene.Stays)
    (emitting : player.status = .emitting) (next : player.node? = some node)
    (tells : player.telling.tellNode node = some telling)
    (plays : player.passNode.Plays flushing node later telling) : later.Follows scene ending := by
  have laterEmitting : later.status = .emitting := plays.status.trans emitting
  have laterNodes : later.nodes = player.nodes := by
    unfold nodes
    rw [plays.programme, plays.scene, plays.beat]
    rfl
  obtain ⟨inside, isNode⟩ := List.getElem?_eq_some_iff.mp (player.node?_eq.symm.trans next)
  refine ⟨?_, fun waiting => ?_, fun notEmitting => absurd laterEmitting notEmitting, ?_, ?_⟩
  · rw [plays.programme, plays.scene]
    exact follows.stands
  · rw [laterEmitting] at waiting
    cases waiting
  · rw [plays.deferred]
    intro expression member
    rcases List.mem_append.mp member with earlier | new
    · exact follows.stay expression earlier
    · exact follows.stays_of_node? calm next
        (Node.expression?_of_deferred (Option.mem_toList.mp new))
  · rw [← follows.ahead, ahead_of_not_done (by rw [laterEmitting]; decide),
      ahead_of_not_done (by rw [emitting]; decide), List.drop_eq_getElem_cons inside, isNode,
      Telling.tellRest_cons, tells, plays.told, plays.deferred, plays.node, plays.beat, laterNodes]
    rfl

end Follows

/-! ### Playing a scene -/

section Playing

variable {controls : Controls} (calm : scene.Stays)

include calm

theorem follows_loadNode (flushing : Bool) (follows : player.Follows scene ending)
    (emitting : player.status = .emitting) (nothing : player.visit.typing.pending = []) :
    Ends False
      (fun later => later.Follows scene ending ∧
        (flushing = true → later.visit.typing.pending = []))
      (player.loadNode (Builtin.registry controls) flushing) := by
  unfold loadNode
  cases next : player.node? with
  | none => exact ⟨follows.wait emitting nothing next, fun _ => nothing⟩
  | some node =>
    have played := plays_playNode controls flushing
      (show player.passNode.visit.typing.pending = [] from nothing) node
      fun expression holds => follows.stays_of_node? calm next holds
    dsimp only
    cases ended : player.passNode.playNode (Builtin.registry controls) flushing node with
    | none => exact not_false
    | some later =>
      obtain ⟨telling, tells, plays⟩ := played.of_some ended
      exact ⟨follows.of_plays calm emitting next tells plays, plays.pending⟩

variable (forward : controls.Forward)

include forward

/-- Showing nodes at once leaves nothing to type. -/
theorem follows_flushNodes (epoch rounds : Nat) (follows : player.Follows scene ending)
    (nothing : player.visit.typing.pending = []) :
    Ends False (fun later => later.Follows scene ending ∧ later.visit.typing.pending = [])
      (flushNodes (Builtin.registry controls) epoch rounds player) := by
  refine (ends_flushNodes forward (fun middle both emitting => ?_) rounds ⟨follows, nothing⟩
    False.elim).imp fun later ended => ended.1
  exact (follows_loadNode calm true both.1 emitting both.2).imp fun later loaded =>
    ⟨loaded.1, loaded.2 rfl⟩

theorem follows_continueBeat (follows : player.Follows scene ending) :
    Ends False (Follows scene ending) (player.continueBeat (Builtin.registry controls)) := by
  unfold Player.continueBeat
  split
  · have shown : player.showPending.Follows scene ending :=
      follows.of_stands player.standsWith_showPending player.telling_showPending
        fun _ => player.pending_showPending
    refine (follows_flushNodes calm forward player.epoch player.rounds shown
      player.pending_showPending).map fun later both => ?_
    refine both.1.of_stands (later.standsWith_dropTime player.epoch) ?_ ?_
    · unfold dropTime
      split <;> rfl
    · unfold dropTime
      split <;> exact fun _ => both.2
  · exact follows

omit calm forward in
/-- What a beat has put off is evaluated, and the next beat follows. -/
theorem follows_finishBeat (follows : player.Follows scene ending)
    (waiting : player.status = .waiting) :
    Ends False (Follows scene ending) (player.finishBeat (Builtin.registry controls)) := by
  have nothing := follows.settled (by rw [waiting]; decide)
  have fired := tells_evaluateAll controls player.visit.deferred follows.stay
    (tellsAs_of_nil (show player.takeDeferred.2.visit.typing.pending = [] from nothing))
  cases finished : player.finishBeat (Builtin.registry controls) with
  | none => exact not_false
  | some later =>
    obtain ⟨queueLater, evaluated, ended⟩ := fired_of_finishBeat finished
    obtain ⟨telling, told, tells⟩ := fired.of_some evaluated
    have stillWaiting : queueLater.status = .waiting := tells.stands.status.trans waiting
    rcases ended with ⟨-, rfl⟩ | ⟨notWaiting, -⟩
    · have wiped : player.takeDeferred.2.TellsAs queueLater.clearOutput (telling.tell .clear) :=
        tells.emit .clear
      refine .enterBeat ?_ _ ?_
      · rw [wiped.stands.programme, wiped.stands.scene]
        exact follows.stands
      · rw [← follows.ahead, ahead_of_not_done (by rw [waiting]; decide),
          List.drop_eq_nil_of_le (follows.passed waiting), Telling.tellRest_of_no_nodes,
          show player.visit.deferred.foldlM Telling.fire player.telling = _ from told,
          wiped.scope, wiped.stream, tells.stands.beat]
        rfl
    · exact absurd stillWaiting notWaiting

theorem follows_skipBeat (follows : player.Follows scene ending) :
    Ends False (Follows scene ending) (player.skipBeat (Builtin.registry controls)) := by
  unfold Player.skipBeat
  refine (follows_continueBeat calm forward follows).bind fun later follows => ?_
  split
  · rename_i waiting
    exact follows_finishBeat follows waiting
  · exact follows

theorem follows_confirm (follows : player.Follows scene ending) :
    Ends False (Follows scene ending) (player.confirm (Builtin.registry controls)) := by
  unfold Player.confirm
  split
  · split
    · exact follows_continueBeat calm forward follows
    · exact follows
  · rename_i waiting
    exact follows_finishBeat follows waiting
  · exact follows

theorem follows_advance (milliseconds : Float) (follows : player.Follows scene ending) :
    Ends False (Follows scene ending)
      (player.advance (Builtin.registry controls) milliseconds) := by
  have timed (pause elapsed : Float) : (player.withTime pause elapsed).Follows scene ending :=
    follows.of_stands (player.standsWith_withTime pause elapsed) rfl follows.settled
  rcases player.advance_cases (Builtin.registry controls) milliseconds with
    ⟨pause, elapsed, outcome⟩ | ⟨-, pause, elapsed, outcome⟩
  · rw [outcome]
    exact timed pause elapsed
  · rw [outcome]
    refine ends_playFrame forward (fun middle follows emitting => ?_)
      (fun middle follows emitting nothing => ?_) _ (timed pause elapsed) False.elim
    · refine follows.of_stands middle.standsWith_typePending middle.telling_typePending ?_
      exact fun notEmitting =>
        absurd (middle.standsWith_typePending.status.trans emitting) notEmitting
    · exact (follows_loadNode calm false follows emitting nothing).imp fun _ loaded => loaded.1

end Playing

/-- Where the play is over, nothing is ahead. -/
theorem Follows.ending_of_done (follows : player.Follows scene ending)
    (isDone : player.status = .done) : ending = some ⟨player.scope, player.stream⟩ := by
  have nothing := follows.settled (by rw [isDone]; decide)
  rw [← follows.ahead, ← telling_of_nil nothing]
  exact if_pos isDone

end Player

/-! ### Runs -/

theorem Request.follows_fulfil {scene : Scene} (calm : scene.Stays) {ending : Option Telling}
    (depth : Nat) {request : Request} (timing : request.IsTiming) {player : Player}
    (follows : player.Follows scene ending) :
    Ends False (fun outcome : Answer × Player => outcome.2.Follows scene ending)
      (request.fulfil (Controls.builtin depth) player) := by
  have sameStand (later : Player) (stands : player.StandsWith later)
      (told : later.telling = player.telling)
      (typing : later.visit.typing = player.visit.typing) : later.Follows scene ending := by
    refine follows.of_stands stands told fun notEmitting => ?_
    rw [typing]
    exact follows.settled (stands.status ▸ notEmitting)
  cases request with
  | advance milliseconds =>
    cases depth with
    | zero => exact not_false
    | succ depth =>
      exact (Player.follows_advance calm (Controls.forward_builtin depth) milliseconds
        follows).map fun _ follows => follows
  | confirm =>
    cases depth with
    | zero => exact not_false
    | succ depth =>
      exact (Player.follows_confirm calm (Controls.forward_builtin depth) follows).map
        fun _ follows => follows
  | continueBeat =>
    cases depth with
    | zero => exact not_false
    | succ depth =>
      exact (Player.follows_continueBeat calm (Controls.forward_builtin depth) follows).map
        fun _ follows => follows
  | skipBeat =>
    cases depth with
    | zero => exact not_false
    | succ depth =>
      exact (Player.follows_skipBeat calm (Controls.forward_builtin depth) follows).map
        fun _ follows => follows
  | setInstant instant => exact sameStand _ ⟨rfl, rfl, rfl, rfl, rfl, rfl, rfl⟩ rfl rfl
  | setConfirmFlushes flushes => exact sameStand _ ⟨rfl, rfl, rfl, rfl, rfl, rfl, rfl⟩ rfl rfl
  | setSpeed charsPerSecond =>
    exact ends_fulfil_setSpeed follows fun _ =>
      sameStand _ ⟨rfl, rfl, rfl, rfl, rfl, rfl, rfl⟩ rfl rfl
  | pause milliseconds =>
    exact ends_fulfil_pause follows (sameStand _ ⟨rfl, rfl, rfl, rfl, rfl, rfl, rfl⟩ rfl rfl)
  | loadScene | endScene | clearOutput | setVariable | removeVariable | isDone => cases timing

/-- Where a player enters a scene, the whole scene is ahead. -/
theorem Player.follows_loadScene {player begun : Player} {name : String} {scene : Scene}
    (loaded : player.loadScene? name = some begun)
    (named : player.programme.scene? name = some scene) :
    begun.Follows scene (Telling.tellScene ⟨player.scope, player.stream⟩ scene) := by
  obtain ⟨index, found, rfl⟩ := Option.map_eq_some_iff.mp loaded
  unfold Programme.scene? at named
  rw [found] at named
  refine .enterBeat ?_ 0 ?_
  · exact named
  · rfl

/-- However a host lets time pass from the start of a scene that calls nothing which decides where
the play goes on: when the play is over, what has been put out, the variables and the display are
those that telling the scene comes to. -/
theorem tellScene_eq_of_done {player begun last : Player} {name : String} {scene : Scene}
    (loaded : player.loadScene? name = some begun)
    (named : player.programme.scene? name = some scene) (calm : scene.Stays) {depth : Nat}
    {requests : List Request} (timing : ∀ request ∈ requests, request.IsTiming)
    {answers : List Answer}
    (run : Request.fulfilAll (Controls.builtin depth) requests begun = some (answers, last))
    (isDone : last.status = .done) :
    ∃ told : Telling,
      Telling.tellScene ⟨player.scope, player.stream⟩ scene = some told ∧
        last.stream = told.stream ∧ last.scope = told.scope ∧
          Display.empty.receiveAll last.events = told.stream.foldl Display.receive .empty := by
  have follows : last.Follows scene (Telling.tellScene ⟨player.scope, player.stream⟩ scene) := by
    have ends := Request.ends_fulfilAll requests
      (fun request member _ follows => Request.follows_fulfil calm depth (timing request member)
        follows) (Player.follows_loadScene loaded named)
    rw [run] at ends
    exact ends
  exact ⟨_, follows.ending_of_done isDone, rfl, rfl, Display.receiveAll_eq _ _⟩

/-- A text is typed in part and then shown at once, and two values are missing. -/
theorem tellScene_eq_of_done_missing_values : ∃ begun : Player, ∃ last : List Answer × Player,
    ∃ told : Telling,
    (Player.start ⟨[⟨"main", [[.text "three", .deferredExpr (.reference "x")],
        [.instantExpr (.reference "y")]]⟩]⟩ {}).loadScene? "main" = some begun ∧
      Request.fulfilAll (Controls.builtin 1) [.advance 60, .confirm, .confirm, .skipBeat] begun =
        some last ∧
      Telling.tellScene ⟨Table.empty, []⟩ ⟨"main", [[.text "three", .deferredExpr (.reference "x")],
        [.instantExpr (.reference "y")]]⟩ = some told ∧
      told.stream = "three".toList.map .character ++
        [.error "undefined variable 'x'", .clear, .error "undefined variable 'y'", .clear] ∧
      last.2.stream = told.stream ∧ last.2.scope = told.scope ∧
      Display.empty.receiveAll last.2.events = told.stream.foldl Display.receive .empty := by
  have shape : ((Player.start ⟨[⟨"main", [[.text "three", .deferredExpr (.reference "x")],
        [.instantExpr (.reference "y")]]⟩]⟩ {}).loadScene? "main").bind (fun begun =>
          (Request.fulfilAll (Controls.builtin 1) [.advance 60, .confirm, .confirm, .skipBeat]
            begun).map fun last => (last.2.status, last.2.stream)) =
      some (.done, "three".toList.map .character ++
        [.error "undefined variable 'x'", .clear, .error "undefined variable 'y'", .clear]) := by
    decide +kernel
  obtain ⟨begun, loaded, shape⟩ := Option.bind_eq_some_iff.mp shape
  obtain ⟨last, run, shape⟩ := Option.map_eq_some_iff.mp shape
  obtain ⟨isDone, stream⟩ := Prod.mk.inj shape
  have timing : ∀ request ∈ [Request.advance 60, .confirm, .confirm, .skipBeat],
      request.IsTiming := by
    simp [Request.IsTiming]
  have calm : Scene.Stays ⟨"main", [[.text "three", .deferredExpr (.reference "x")],
      [.instantExpr (.reference "y")]]⟩ := by
    decide
  obtain ⟨told, tells, sameStream, sameScope, sameDisplay⟩ :=
    tellScene_eq_of_done loaded rfl calm timing run isDone
  exact ⟨begun, last, told, loaded, run, tells, sameStream.symm.trans stream, sameStream, sameScope,
    sameDisplay⟩

end Playscript
