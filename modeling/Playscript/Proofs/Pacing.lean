/-
This file shows that a host decides how far a play gets, and never what it tells. Whatever a host
does about time, its player shows what the play without time tells after some number of turns. So of
two hosts one is further than the other, and the one that is behind has shown the beginning of the
same stream.

Values that are typed need one condition. An expression that shows the rest of its own beat leaves
nothing that could still be typed, so a value that comes after it would be lost. Everything else
that an expression may do, jumping and skipping included, does the same at any pace.
-/

import Playscript.Proofs.Turns

namespace Playscript

/-- No expression whose value is typed shows the rest of a beat. -/
def Programme.TypesCalmly (programme : Programme) : Prop :=
  ∀ (scene beat : Nat) (nodes : List (Node Expr)), programme.beat? scene beat = some nodes →
    ∀ expression, Node.typewriterExpr expression ∈ nodes → Builtin.flush.name ∉ expression.calls

/-- A script that never shows the rest of a beat does not do so in a value that is typed. -/
theorem Programme.typesCalmly_of_calls {programme : Programme}
    (never : Builtin.flush.name ∉ programme.calls) : programme.TypesCalmly := by
  intro scene beat nodes stands expression member called
  refine never (Programme.mem_calls stands member ?_)
  exact Node.mem_calls_of_expression (rfl : (Node.typewriterExpr expression).expression? = _) called

namespace Player

/-! ### After some turns -/

/-- A player is related to what another one comes to after some number of turns. -/
def After (registry : Registry Player) (related : Player → Player → Prop) (told player : Player) :
    Prop :=
  ∃ count later, turns registry count told = some later ∧ related player later

namespace After

variable {registry : Registry Player} {related related' : Player → Player → Prop}
  {told middle player : Player}

theorem now (holds : related player told) : After registry related told player :=
  ⟨0, told, rfl, holds⟩

theorem imp (after : After registry related told player)
    (weakens : ∀ later, related player later → related' player later) :
    After registry related' told player := by
  obtain ⟨count, later, turned, holds⟩ := after
  exact ⟨count, later, turned, weakens later holds⟩

theorem of_turns {count : Nat} (turned : turns registry count told = some middle)
    (after : After registry related middle player) : After registry related told player := by
  obtain ⟨further, later, turned', holds⟩ := after
  refine ⟨count + further, later, ?_, holds⟩
  rw [turns_add, turned]
  exact turned'

/-- What matches one turn is related to something one turn later. -/
theorem of_matches {player? : Option Player}
    (compared : Matches False related player? (told.turn registry)) :
    Ends False (After registry related told) player? := by
  cases player? with
  | none => exact not_false
  | some player =>
    obtain ⟨later, turned, holds⟩ := compared.of_some rfl
    exact ⟨1, later, (turns_one registry told).trans turned, holds⟩

end After

/-! ### Values that are typed -/

section Typing

variable {controls : Controls} (forward : controls.Forward)

include forward

/-- While nothing shows the rest of the beat, a player that is still at its visit still emits. -/
theorem emitting_evaluate {player : Player} (emitting : player.status = .emitting)
    (expression : Expr) (calm : Builtin.flush.name ∉ expression.calls) :
    Ends False
      (fun outcome : Option Value × Player =>
        outcome.2.epoch = player.epoch → outcome.2.status = .emitting)
      (player.evaluate (Builtin.registry controls) expression) := by
  have lasts : LastsThroughSteering False (· ≠ Builtin.flush.name) controls
      (fun later => player.epoch ≤ later.epoch ∧
        (later.epoch = player.epoch → later.status = .emitting)) :=
    { assignment := fun _ holds => holds
      emit := fun _ holds => holds
      setInstant := fun _ holds => holds
      setConfirmFlushes := fun _ holds => holds
      setSpeed := fun _ holds _ => holds
      setPause := fun _ holds => holds
      loadScene := by
        intro middle later name _ holds loaded
        obtain ⟨scene, -, rfl⟩ := Option.map_eq_some_iff.mp loaded
        have after : player.epoch < middle.epoch + 1 := Nat.lt_succ_of_le holds.1
        exact ⟨after.le, fun same => absurd same after.ne'⟩
      endScene := by
        intro middle holds
        have after : player.epoch < middle.epoch + 1 := Nat.lt_succ_of_le holds.1
        exact ⟨after.le, fun same => absurd same after.ne'⟩
      skipBeat := by
        intro middle _ holds
        refine (forward.skipBeat middle).imp fun later further => ?_
        refine ⟨holds.1.trans further.1.epoch, fun same => ?_⟩
        -- Within the visit the beat was emitting before it was skipped, so skipping has left it.
        have sameBefore : middle.epoch = player.epoch :=
          le_antisymm (further.1.epoch.trans same.le) holds.1
        have notDone : middle.status ≠ .done := by
          rw [holds.2 sameBefore]
          decide
        exact absurd (same.trans sameBefore.symm) (further.2 notDone).ne'
      continueBeat := fun called _ => absurd rfl called }
  refine (lasts.ends_evaluate expression ?_ ⟨le_rfl, fun _ => emitting⟩).imp fun _ holds => holds.2
  rintro _ called rfl
  exact calm called

end Typing

/-! ### Playing nodes -/

section Playing

variable {programme : Programme} {controls controls' : Controls}
  (steering : KeptBySteering False (fun _ => True) controls controls' (SameStory programme))
  {player told : Player}

include steering

/-- A player that takes its time with a node shows what the node tells at once. -/
theorem matches_playNode_typing (forward : controls.Forward) (node : Node Expr)
    (calm : ∀ expression, node = .typewriterExpr expression →
      Builtin.flush.name ∉ expression.calls)
    (emitting : player.status = .emitting) (same : player.SameStory programme told) :
    Matches False (Shows programme) (player.playNode (Builtin.registry controls) false node)
      (told.playNode (Builtin.registry controls') true node) := by
  have rendered (atOnce : Bool) (text : String) :
      (player.render atOnce text).Shows programme (told.emit (.text text)) := by
    cases atOnce with
    | true => exact (same.emit (.text text)).shows
    | false => exact same.beginTyping emitting text
  have evaluated (expression : Expr) :=
    steering.matches_evaluate expression (fun _ _ => trivial) same
  cases node with
  | text content =>
    show Shows programme (player.render (player.instant || false) content)
      (told.render (told.instant || true) content)
    rw [Bool.or_true]
    exact rendered _ content
  | instantString content => exact rendered true content
  | typewriterString content => exact rendered false content
  | inlineExpr expression => exact (evaluated expression).map fun _ _ same => same.2.shows
  | deferredExpr expression =>
    exact ((keptByFlushing_sameStory programme).defer expression same).shows
  | instantExpr expression =>
    refine (evaluated expression).map ?_
    rintro ⟨value?, later⟩ ⟨_, later'⟩ ⟨rfl, same'⟩
    exact ((keptByFlushing_sameStory programme).renderValue same same' value?).shows
  | typewriterExpr expression =>
    have stays := emitting_evaluate forward emitting expression (calm expression rfl)
    refine ((evaluated expression).with_ends stays).map ?_
    rintro ⟨value?, later⟩ ⟨_, later'⟩ ⟨⟨rfl, same'⟩, stays⟩
    cases value? with
    | none => exact same'.shows
    | some value =>
      show Shows programme
        (if later.epoch = player.epoch then later.beginTyping value.text else later)
        (if later'.epoch = told.epoch then later'.emit (.text value.text) else later')
      rw [same.epoch_eq, same'.epoch_eq]
      split
      · rename_i visit
        exact same'.beginTyping (stays (by rw [same.epoch_eq, same'.epoch_eq, visit])) value.text
      · exact same'.shows

theorem matches_loadNode_typing (forward : controls.Forward) (calm : programme.TypesCalmly)
    (emitting : player.status = .emitting) (same : player.SameStory programme told) :
    Matches False (Shows programme) (player.loadNode (Builtin.registry controls) false)
      (told.turn (Builtin.registry controls')) := by
  have kept := keptByFlushing_sameStory programme
  rw [turn_of_emitting _ (same.status_eq.symm.trans emitting)]
  unfold loadNode
  rw [← kept.node?_eq same]
  cases next : player.node? with
  | none => exact (kept.wait same).shows
  | some node =>
    refine matches_playNode_typing steering forward node ?_ emitting (kept.passNode same)
    rintro expression rfl
    unfold node? Programme.node? at next
    rw [same.programme] at next
    obtain ⟨nodes, stands, found⟩ := Option.bind_eq_some_iff.mp next
    exact calm _ _ nodes stands expression (List.mem_of_getElem? found)

variable (forward : controls.Forward)

include forward

/-- Showing nodes at once takes one turn for each of them. -/
theorem after_flushNodes (epoch rounds : Nat) (same : player.SameStory programme told) :
    Ends False (After (Builtin.registry controls') (SameStory programme) told)
      (flushNodes (Builtin.registry controls) epoch rounds player) := by
  refine (ends_flushNodes forward (fun middle after emitting => ?_) rounds (.now same)
    False.elim).imp fun _ ended => ended.1
  obtain ⟨count, toldLater, turned, same⟩ := after
  have loaded := (keptByFlushing_sameStory programme).matches_loadNode steering same
  rw [← turn_of_emitting _ (same.status_eq.symm.trans emitting)] at loaded
  exact (After.of_matches loaded).imp fun _ after => .of_turns turned after

theorem after_continueBeat (shows : player.Shows programme told) :
    Ends False (After (Builtin.registry controls') (Shows programme) told)
      (player.continueBeat (Builtin.registry controls)) := by
  unfold Player.continueBeat
  split
  · refine (after_flushNodes steering forward player.epoch player.rounds shows.same).map ?_
    intro later after
    obtain ⟨count, middle, turned, same⟩ := after
    refine ⟨count, middle, turned, ?_⟩
    unfold dropTime
    split
    · exact same.shows.of_story_eq rfl rfl
    · exact same.shows
  · exact .now shows

omit forward in
theorem after_finishBeat (shows : player.Shows programme told)
    (waiting : player.status = .waiting) :
    Ends False (After (Builtin.registry controls') (Shows programme) told)
      (player.finishBeat (Builtin.registry controls)) := by
  have same : player.SameStory programme told :=
    shows.sameStory (shows.settled (by rw [waiting]; decide))
  have finished := (keptByFlushing_sameStory programme).matches_finishBeat steering same
  rw [← turn_of_waiting _ (same.status_eq.symm.trans waiting)] at finished
  exact (After.of_matches finished).imp fun _ after => after.imp fun _ same => same.shows

theorem after_skipBeat (shows : player.Shows programme told) :
    Ends False (After (Builtin.registry controls') (Shows programme) told)
      (player.skipBeat (Builtin.registry controls)) := by
  unfold Player.skipBeat
  refine (after_continueBeat steering forward shows).bind fun later after => ?_
  obtain ⟨count, middle, turned, shows⟩ := after
  split
  · rename_i waiting
    exact (after_finishBeat steering shows waiting).imp fun _ after => .of_turns turned after
  · exact ⟨count, middle, turned, shows⟩

theorem after_confirm (shows : player.Shows programme told) :
    Ends False (After (Builtin.registry controls') (Shows programme) told)
      (player.confirm (Builtin.registry controls)) := by
  unfold Player.confirm
  split
  · split
    · exact after_continueBeat steering forward shows
    · exact .now shows
  · rename_i waiting
    exact after_finishBeat steering shows waiting
  · exact .now shows

/-! ### Letting time pass -/

variable (calm : programme.TypesCalmly)

include calm

theorem after_playFrame (epoch rounds : Nat) (shows : player.Shows programme told) :
    Ends False (After (Builtin.registry controls') (Shows programme) told)
      (playFrame (Builtin.registry controls) epoch rounds player) := by
  refine ends_playFrame forward (fun middle after emitting => ?_)
    (fun middle after emitting nothing => ?_) rounds (.now shows) False.elim
  · obtain ⟨count, toldLater, turned, shows⟩ := after
    exact ⟨count, toldLater, turned, shows.typePending emitting⟩
  · obtain ⟨count, toldLater, turned, shows⟩ := after
    have loaded := matches_loadNode_typing steering forward calm emitting (shows.sameStory nothing)
    exact (After.of_matches loaded).imp fun _ after => .of_turns turned after

theorem after_advance (milliseconds : Float) (shows : player.Shows programme told) :
    Ends False (After (Builtin.registry controls') (Shows programme) told)
      (player.advance (Builtin.registry controls) milliseconds) := by
  have timed (pause elapsed : Float) : (player.withTime pause elapsed).Shows programme told :=
    shows.of_story_eq rfl rfl
  rcases player.advance_cases (Builtin.registry controls) milliseconds with
    ⟨pause, elapsed, outcome⟩ | ⟨-, pause, elapsed, outcome⟩
  · rw [outcome]
    exact .now (timed pause elapsed)
  · rw [outcome]
    exact after_playFrame steering forward calm _ _ (timed pause elapsed)

end Playing

end Player

/-! ### Requests of the host -/

namespace Request

/-- Requests that are about time: they let it pass, cut it short, or change how it passes. -/
def IsTiming : Request → Prop
  | advance _ | confirm | continueBeat | skipBeat | setInstant _ | setConfirmFlushes _ | setSpeed _
  | pause _ => True
  | loadScene _ | endScene | clearOutput | setVariable _ _ | removeVariable _ | isDone => False

variable {programme : Programme} (calm : programme.TypesCalmly)

include calm

theorem after_fulfil {depth depth' : Nat} (le : depth ≤ depth') {request : Request}
    (timing : request.IsTiming) {player told : Player} (shows : player.Shows programme told) :
    Ends False (fun outcome : Answer × Player =>
        Player.After (Builtin.registry (Controls.builtin depth')) (Player.Shows programme) told
          outcome.2)
      (request.fulfil (Controls.builtin depth) player) := by
  have kept := Player.keptByFlushing_sameStory programme
  cases request with
  | advance milliseconds =>
    cases depth with
    | zero => exact not_false
    | succ depth =>
      exact (Player.after_advance (kept.steering_builtin (Nat.le_of_succ_le le))
        (Controls.forward_builtin depth) calm milliseconds shows).map fun _ after => after
  | confirm =>
    cases depth with
    | zero => exact not_false
    | succ depth =>
      exact (Player.after_confirm (kept.steering_builtin (Nat.le_of_succ_le le))
        (Controls.forward_builtin depth) shows).map fun _ after => after
  | continueBeat =>
    cases depth with
    | zero => exact not_false
    | succ depth =>
      exact (Player.after_continueBeat (kept.steering_builtin (Nat.le_of_succ_le le))
        (Controls.forward_builtin depth) shows).map fun _ after => after
  | skipBeat =>
    cases depth with
    | zero => exact not_false
    | succ depth =>
      exact (Player.after_skipBeat (kept.steering_builtin (Nat.le_of_succ_le le))
        (Controls.forward_builtin depth) shows).map fun _ after => after
  | setInstant instant => exact .now (shows.of_story_eq rfl rfl)
  | setConfirmFlushes flushes => exact .now (shows.of_story_eq rfl rfl)
  | setSpeed charsPerSecond =>
    exact ends_fulfil_setSpeed (.now shows) fun _ => .now (shows.of_story_eq rfl rfl)
  | pause milliseconds =>
    exact ends_fulfil_pause (.now shows) (.now (shows.of_story_eq rfl rfl))
  | loadScene | endScene | clearOutput | setVariable | removeVariable | isDone => cases timing

/-- A run about time shows what the play without time tells after some number of turns. -/
theorem after_fulfilAll {depth depth' : Nat} (le : depth ≤ depth') {requests : List Request}
    (timing : ∀ request ∈ requests, request.IsTiming) {player told : Player}
    (shows : player.Shows programme told) :
    Ends False (fun outcome : List Answer × Player =>
        Player.After (Builtin.registry (Controls.builtin depth')) (Player.Shows programme) told
          outcome.2)
      (fulfilAll (Controls.builtin depth) requests player) := by
  refine ends_fulfilAll requests (fun request member middle after => ?_) (Player.After.now shows)
  obtain ⟨count, later, turned, shows⟩ := after
  exact (after_fulfil calm le (timing request member) shows).imp fun _ after =>
    .of_turns turned after

/-- A player of the programme has nothing left to type unless it plays a beat. -/
def Settled (programme : Programme) (player : Player) : Prop :=
  ∃ told, player.Shows programme told

omit calm in
theorem settled_of {player : Player} (same : player.programme = programme)
    (nothing : player.status ≠ .emitting → player.visit.typing.pending = []) :
    Settled programme player := by
  refine ⟨player.showPending, ⟨rfl, ?_, player.pending_showPending, player.pending_showPending⟩,
    nothing⟩
  exact player.standsWith_showPending.programme.trans same

theorem settled_fulfil (depth : Nat) (request : Request) {player : Player}
    (settled : Settled programme player) :
    Ends False (fun outcome : Answer × Player => Settled programme outcome.2)
      (request.fulfil (Controls.builtin depth) player) := by
  obtain ⟨told, shows⟩ := settled
  by_cases timing : request.IsTiming
  · refine (after_fulfil calm le_rfl timing shows).imp fun _ after => ?_
    obtain ⟨count, later, turned, shows⟩ := after
    exact ⟨later, shows⟩
  · have same := shows.programme_eq
    cases request with
    | advance | confirm | continueBeat | skipBeat | setInstant | setConfirmFlushes | setSpeed
    | pause => exact absurd trivial timing
    | loadScene name =>
      refine ends_fulfil_loadScene ⟨told, shows⟩ fun later loaded => ?_
      obtain ⟨scene, -, rfl⟩ := Option.map_eq_some_iff.mp loaded
      exact settled_of same fun _ => rfl
    | endScene => exact settled_of same fun _ => rfl
    | clearOutput | setVariable | removeVariable => exact settled_of same shows.settled
    | isDone => exact ⟨told, shows⟩

end Request

/-! ### Two hosts -/

namespace Player

variable {programme : Programme} {controls : Controls} (forward : controls.Forward)
  {told first second : Player}

include forward

/-- The further of two players has told what the other one has shown, and nothing follows the end of
a play. -/
theorem comparable_of_le {count count' : Nat} {firstTold secondTold : Player} (le : count ≤ count')
    (firstTurned : turns (Builtin.registry controls) count told = some firstTold)
    (secondTurned : turns (Builtin.registry controls) count' told = some secondTold)
    (firstShows : first.Shows programme firstTold)
    (secondShows : second.Shows programme secondTold) :
    (first.stream <+: second.stream ∨ second.stream <+: first.stream) ∧
      (first.status = .done → second.status = .done → first.story = second.story) := by
  obtain ⟨further, rfl⟩ := Nat.exists_eq_add_of_le le
  rw [turns_add, firstTurned] at secondTurned
  have turned : turns (Builtin.registry controls) further firstTold = some secondTold :=
    secondTurned
  constructor
  · have continues := (continues_turns forward further firstTold).of_some turned
    have firstBehind := firstShows.stream_prefix.trans (stream_prefix_of_continues continues)
    exact List.prefix_or_prefix_of_prefix firstBehind secondShows.stream_prefix
  · intro firstDone secondDone
    rw [turns_of_done _ (firstShows.status_eq.symm.trans firstDone)] at turned
    obtain rfl : firstTold = secondTold := Option.some.inj turned
    have firstSame := firstShows.sameStory (firstShows.settled (by rw [firstDone]; decide))
    have secondSame := secondShows.sameStory (secondShows.settled (by rw [secondDone]; decide))
    exact firstSame.story.trans secondSame.story.symm

theorem comparable_of_after
    (firstAfter : After (Builtin.registry controls) (Shows programme) told first)
    (secondAfter : After (Builtin.registry controls) (Shows programme) told second) :
    (first.stream <+: second.stream ∨ second.stream <+: first.stream) ∧
      (first.status = .done → second.status = .done → first.story = second.story) := by
  obtain ⟨count, firstTold, firstTurned, firstShows⟩ := firstAfter
  obtain ⟨count', secondTold, secondTurned, secondShows⟩ := secondAfter
  rcases Nat.le_total count count' with le | le
  · exact comparable_of_le forward le firstTurned secondTurned firstShows secondShows
  · obtain ⟨prefixes, same⟩ :=
      comparable_of_le forward le secondTurned firstTurned secondShows firstShows
    exact ⟨prefixes.symm, fun firstDone secondDone => (same secondDone firstDone).symm⟩

omit forward in
theorem settled_start (settings : Settings) :
    Request.Settled programme (Player.start programme settings) := by
  unfold Player.start
  dsimp only
  cases loaded : Player.loadScene? _ mainScene with
  | none => exact Request.settled_of rfl fun _ => rfl
  | some later =>
    obtain ⟨scene, -, rfl⟩ := Option.map_eq_some_iff.mp loaded
    exact Request.settled_of rfl fun _ => rfl

end Player

/-- However two hosts let time pass from one point of a play on, one of their players has put out
the beginning of what the other one has. If both come to the end, they have put out the same and
left the same variables and the same display. -/
theorem prefix_or_prefix_of_timing {programme : Programme} (calm : programme.TypesCalmly)
    {settings : Settings} {depth firstDepth secondDepth : Nat}
    {earlier firstRequests secondRequests : List Request}
    {answers firstAnswers secondAnswers : List Answer} {player first second : Player}
    (reached : Request.fulfilAll (Controls.builtin depth) earlier
      (Player.start programme settings) = some (answers, player))
    (firstTiming : ∀ request ∈ firstRequests, request.IsTiming)
    (firstRun : Request.fulfilAll (Controls.builtin firstDepth) firstRequests player =
      some (firstAnswers, first))
    (secondTiming : ∀ request ∈ secondRequests, request.IsTiming)
    (secondRun : Request.fulfilAll (Controls.builtin secondDepth) secondRequests player =
      some (secondAnswers, second)) :
    (first.stream <+: second.stream ∨ second.stream <+: first.stream) ∧
      (first.status = .done → second.status = .done →
        first.stream = second.stream ∧ first.scope = second.scope ∧
          Display.empty.receiveAll first.events = Display.empty.receiveAll second.events) := by
  have settled := Request.ends_fulfilAll earlier
    (fun request _ _ settled => Request.settled_fulfil calm depth request settled)
    (Player.settled_start settings)
  rw [reached] at settled
  obtain ⟨told, shows⟩ := settled
  have firstAfter := Request.after_fulfilAll calm (Nat.le_max_left firstDepth secondDepth)
    firstTiming shows
  have secondAfter := Request.after_fulfilAll calm (Nat.le_max_right firstDepth secondDepth)
    secondTiming shows
  rw [firstRun] at firstAfter
  rw [secondRun] at secondAfter
  obtain ⟨prefixes, ended⟩ :=
    Player.comparable_of_after (Controls.forward_builtin _) firstAfter secondAfter
  refine ⟨prefixes, fun firstDone secondDone => ?_⟩
  have same := ended firstDone secondDone
  have stream : first.stream = second.stream := congrArg Story.stream same
  exact ⟨stream, congrArg Story.scope same, Player.receiveAll_of_stream stream Display.empty⟩

/-- One host has let a text be typed for a while, and another one has had it shown at once. -/
theorem prefix_or_prefix_of_timing_behind : ∃ first second : List Answer × Player,
    Request.fulfilAll (Controls.builtin 1) [.pause 0, .advance 60]
        (Player.start ⟨[⟨"main", [[.text "three", .deferredExpr (.reference "x")]]⟩]⟩ {}) =
      some first ∧
    Request.fulfilAll (Controls.builtin 1) [.continueBeat, .confirm]
        (Player.start ⟨[⟨"main", [[.text "three", .deferredExpr (.reference "x")]]⟩]⟩ {}) =
      some second ∧
    first.2.stream = [.character 't', .character 'h'] ∧ second.2.status = .done ∧
      (first.2.stream <+: second.2.stream ∨ second.2.stream <+: first.2.stream) := by
  have firstShape : (Request.fulfilAll (Controls.builtin 1) [.pause 0, .advance 60]
      (Player.start ⟨[⟨"main", [[.text "three", .deferredExpr (.reference "x")]]⟩]⟩ {})).map
        (fun outcome => outcome.2.stream) = some [.character 't', .character 'h'] := by
    decide +kernel
  have secondShape : (Request.fulfilAll (Controls.builtin 1) [.continueBeat, .confirm]
      (Player.start ⟨[⟨"main", [[.text "three", .deferredExpr (.reference "x")]]⟩]⟩ {})).map
        (fun outcome => outcome.2.status) = some .done := by
    decide +kernel
  obtain ⟨first, firstRun, typed⟩ := Option.map_eq_some_iff.mp firstShape
  obtain ⟨second, secondRun, isDone⟩ := Option.map_eq_some_iff.mp secondShape
  have calm : Programme.TypesCalmly
      ⟨[⟨"main", [[.text "three", .deferredExpr (.reference "x")]]⟩]⟩ :=
    Programme.typesCalmly_of_calls (by decide)
  have firstTiming : ∀ request ∈ [Request.pause 0, .advance 60], request.IsTiming := by
    rintro request (_ | ⟨_, _ | ⟨_, member⟩⟩)
    · trivial
    · trivial
    · cases member
  have secondTiming : ∀ request ∈ [Request.continueBeat, .confirm], request.IsTiming := by
    rintro request (_ | ⟨_, _ | ⟨_, member⟩⟩)
    · trivial
    · trivial
    · cases member
  obtain ⟨prefixes, -⟩ := prefix_or_prefix_of_timing calm
    (rfl : Request.fulfilAll (Controls.builtin 0) [] _ = some ([], _)) firstTiming firstRun
    secondTiming secondRun
  exact ⟨first, second, firstRun, secondRun, typed, isDone, prefixes⟩

end Playscript
