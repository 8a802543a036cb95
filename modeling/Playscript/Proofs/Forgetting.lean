/-
This file shows that loading a scene leaves the past behind. Whatever two players of one programme
have been through, once they have the same variables and load the same scene they are one player
with two different pasts: what they have put out before, and how many visits they have made. From
then on they give the same answers, put out the same and stand at the same place, whatever their
hosts ask for.

The past is never looked at. Events are only added to it, and the number of a visit is only compared
with the number that the same player had earlier, so it does not matter from where it counts.
-/

import Playscript.Proofs.Flushing

namespace Playscript

/-! ### Pasts -/

/-- What lies behind a player: all that it has put out, and the number of its visit. -/
structure Past where
  events : Array Event
  epoch : Nat

namespace Player

/-- The past of a player. -/
def past (player : Player) : Past := ⟨player.events, player.epoch⟩

/-- The player with some past before its own. -/
def after (player : Player) (past : Past) : Player :=
  { player with events := past.events ++ player.events, epoch := past.epoch + player.epoch }

theorem after_nothing (player : Player) : player.after ⟨#[], 0⟩ = player := by
  unfold after
  rw [Array.empty_append, Nat.zero_add]

theorem emit_after (player : Player) (past : Past) (event : Event) :
    (player.after past).emit event = (player.emit event).after past := by
  unfold emit after
  rw [Array.push_append]

/-- The player when all of its text has been shown. -/
def finishTyping (player : Player) : Player :=
  { player with visit := { player.visit with typing := player.visit.typing.finish } }

theorem showPending_eq (player : Player) :
    player.showPending =
      if player.visit.typing.pending = [] then player.finishTyping
      else (player.emit (.text (String.ofList player.visit.typing.pending))).finishTyping := by
  unfold showPending
  by_cases nothing : player.visit.typing.pending = []
  · simp only [if_pos nothing]
    rfl
  · simp only [if_neg nothing]
    rfl

theorem showPending_after (player : Player) (past : Past) :
    (player.after past).showPending = player.showPending.after past := by
  rw [showPending_eq, showPending_eq, emit_after, apply_ite (after · past)]
  rfl

theorem typeWhileTime_after (interval : Float) (pending : List Char) (player : Player)
    (past : Past) :
    typeWhileTime interval pending (player.after past) =
      (typeWhileTime interval pending player).after past := by
  induction pending generalizing player with
  | nil => rfl
  | cons character rest inductionHypothesis =>
    have typed : (player.after past).typeCharacter interval character rest =
        (player.typeCharacter interval character rest).after past := by
      simp only [after, typeCharacter, Array.push_append]
    rw [typeWhileTime, typeWhileTime, typed, inductionHypothesis, apply_ite (after · past)]
    rfl

/-! ### One player after two pasts -/

/-- Two players are one player after two different pasts. The programme and the settings that a
scene starts with are given ones. -/
inductive SameSince (programme : Programme) (defaults : Settings) (past past' : Past) :
    Player → Player → Prop
  | intro (since : Player) (plays : since.programme = programme)
      (restores : since.defaults = defaults) :
      SameSince programme defaults past past' (since.after past) (since.after past')

namespace SameSince

variable {programme : Programme} {defaults : Settings} {past past' : Past}
  {player player' later later' : Player}

theorem symm (same : SameSince programme defaults past past' player player') :
    SameSince programme defaults past' past player' player := by
  obtain ⟨since, plays, restores⟩ := same
  exact ⟨since, plays, restores⟩

theorem status_eq (same : SameSince programme defaults past past' player player') :
    player.status = player'.status := by
  obtain ⟨since, -, -⟩ := same
  rfl

theorem visit_eq (same : SameSince programme defaults past past' player player') :
    player.visit = player'.visit := by
  obtain ⟨since, -, -⟩ := same
  rfl

theorem settings_eq (same : SameSince programme defaults past past' player player') :
    player.settings = player'.settings := by
  obtain ⟨since, -, -⟩ := same
  rfl

theorem instant_eq (same : SameSince programme defaults past past' player player') :
    player.instant = player'.instant := by
  obtain ⟨since, -, -⟩ := same
  rfl

theorem emit (same : SameSince programme defaults past past' player player') (event : Event) :
    SameSince programme defaults past past' (player.emit event) (player'.emit event) := by
  obtain ⟨since, plays, restores⟩ := same
  rw [emit_after, emit_after]
  exact ⟨since.emit event, plays, restores⟩

/-- A visit that two players have both left, or neither, is told by its numbers. -/
theorem epoch_iff (same : SameSince programme defaults past past' player player')
    (further : SameSince programme defaults past past' later later') :
    later.epoch = player.epoch ↔ later'.epoch = player'.epoch := by
  obtain ⟨since, -, -⟩ := same
  obtain ⟨later, -, -⟩ := further
  show past.epoch + later.epoch = past.epoch + since.epoch ↔
    past'.epoch + later.epoch = past'.epoch + since.epoch
  rw [Nat.add_left_cancel_iff, Nat.add_left_cancel_iff]

theorem loadScene (same : SameSince programme defaults past past' player player') (name : String) :
    Option.Rel (SameSince programme defaults past past')
      (player.loadScene? name) (player'.loadScene? name) := by
  obtain ⟨since, plays, restores⟩ := same
  show Option.Rel _ ((since.programme.sceneIndex? name).map _)
    ((since.programme.sceneIndex? name).map _)
  cases since.programme.sceneIndex? name with
  | none => exact .none
  | some scene =>
    exact .some ⟨enterBeat { since with
      scene := scene, settings := since.defaults, instant := false } 0, plays, restores⟩

theorem showPending (same : SameSince programme defaults past past' player player') :
    SameSince programme defaults past past' player.showPending player'.showPending := by
  obtain ⟨since, plays, restores⟩ := same
  rw [showPending_after, showPending_after]
  refine ⟨since.showPending, since.standsWith_showPending.programme.trans plays, ?_⟩
  rw [showPending_eq]
  split <;> exact restores

theorem typePending (same : SameSince programme defaults past past' player player') :
    SameSince programme defaults past past' player.typePending player'.typePending := by
  obtain ⟨since, plays, restores⟩ := same
  obtain ⟨stands, -, unchanged⟩ :=
    standsWith_typeWhileTime since.settings.charInterval since.visit.typing.pending since
  show SameSince programme defaults past past'
    (typeWhileTime since.settings.charInterval since.visit.typing.pending (since.after past))
    (typeWhileTime since.settings.charInterval since.visit.typing.pending (since.after past'))
  rw [typeWhileTime_after, typeWhileTime_after]
  exact intro _ (stands.programme.trans plays) (unchanged.trans restores)

theorem withTime (same : SameSince programme defaults past past' player player')
    (pause elapsed : Float) :
    SameSince programme defaults past past' (player.withTime pause elapsed)
      (player'.withTime pause elapsed) := by
  obtain ⟨since, plays, restores⟩ := same
  exact ⟨since.withTime pause elapsed, plays, restores⟩

end SameSince

/-- Every single change is made after both pasts alike. -/
theorem steering_sameSince (programme : Programme) (defaults : Settings) (past past' : Past) :
    KeptBySteering False (fun _ => True) Controls.stuck Controls.stuck
      (SameSince programme defaults past past') where
  scope := by
    rintro _ _ ⟨since, _, _⟩
    rfl
  assignment := by
    rintro _ _ scope ⟨since, plays, restores⟩
    exact ⟨{ since with scope := scope }, plays, restores⟩
  emit event same := same.emit event
  setInstant := by
    rintro _ _ instant ⟨since, plays, restores⟩
    exact ⟨since.setInstant instant, plays, restores⟩
  switchInstant := by
    rintro _ _ ⟨since, plays, restores⟩
    exact ⟨since.setInstant !since.instant, plays, restores⟩
  setConfirmFlushes := by
    rintro _ _ flushes ⟨since, plays, restores⟩
    exact ⟨since.setConfirmFlushes flushes, plays, restores⟩
  switchConfirmFlushes := by
    rintro _ _ ⟨since, plays, restores⟩
    exact ⟨since.setConfirmFlushes !since.settings.confirmFlushes, plays, restores⟩
  setSpeed := by
    rintro _ _ charsPerSecond ⟨since, plays, restores⟩ _
    exact ⟨{ since with settings := { since.settings with charsPerSecond := charsPerSecond } },
      plays, restores⟩
  setPause := by
    rintro _ _ milliseconds ⟨since, plays, restores⟩
    exact ⟨{ since with visit := { since.visit with pause := milliseconds } }, plays, restores⟩
  loadScene name _ same := same.loadScene name
  endScene := by
    rintro _ _ ⟨since, plays, restores⟩
    exact ⟨since.endScene, plays, restores⟩
  skipBeat _ _ := not_false
  continueBeat _ _ := not_false

theorem keptByFlushing_sameSince (programme : Programme) (defaults : Settings)
    (past past' : Past) : KeptByFlushing (SameSince programme defaults past past') where
  steering := steering_sameSince programme defaults past past'
  status same := same.status_eq
  nodes := by
    rintro _ _ ⟨since, _, _⟩
    rfl
  node same := congrArg Visit.node same.visit_eq
  deferred same := congrArg Visit.deferred same.visit_eq
  epoch same further := same.epoch_iff further
  passNode := by
    rintro _ _ ⟨since, plays, restores⟩
    exact ⟨since.passNode, plays, restores⟩
  defer := by
    rintro _ _ expression ⟨since, plays, restores⟩
    exact ⟨since.defer expression, plays, restores⟩
  wait := by
    rintro _ _ ⟨since, plays, restores⟩
    exact ⟨{ since with status := .waiting }, plays, restores⟩
  showPending same := same.showPending
  withoutTime same := same.withTime 0 0
  takeDeferred := by
    rintro _ _ ⟨since, plays, restores⟩
    exact ⟨since.takeDeferred.2, plays, restores⟩
  enterBeat := by
    rintro _ _ ⟨since, plays, restores⟩
    exact ⟨since.enterBeat (since.beat + 1), plays, restores⟩

/-! ### Taking time -/

/-- Time is spent on the pause first, and then on a frame. -/
theorem advance_eq (registry : Registry Player) (milliseconds : Float) (player : Player) :
    player.advance registry milliseconds =
      let time := if milliseconds.isFinite && 0 < milliseconds then milliseconds else 0
      let pause := player.visit.pause
      let elapsed := player.visit.elapsed
      if player.status = .emitting then
        if 0 < pause then
          if time < pause then some (player.withTime (pause - time) elapsed)
          else playFrame registry player.epoch player.rounds
            (player.withTime 0 (elapsed + (time - pause)))
        else playFrame registry player.epoch player.rounds (player.withTime pause (elapsed + time))
      else some player := rfl

section Playing

variable {programme : Programme} {defaults : Settings} {past past' : Past}
  {controls controls' : Controls}
  (steering : KeptBySteering False (fun _ => True) controls controls'
    (SameSince programme defaults past past'))
  {player player' : Player}

theorem SameSince.render (atOnce : Bool) (text : String)
    (same : SameSince programme defaults past past' player player') :
    SameSince programme defaults past past' (player.render atOnce text)
      (player'.render atOnce text) := by
  cases atOnce with
  | true => exact same.emit (.text text)
  | false =>
    obtain ⟨since, plays, restores⟩ := same
    exact ⟨since.beginTyping text, plays, restores⟩

/-- A value is shown or typed after both pasts, or dropped after both. -/
theorem SameSince.renderValue {later later' : Player} (atOnce : Bool) (value? : Option Value)
    (same : SameSince programme defaults past past' player player')
    (further : SameSince programme defaults past past' later later') :
    SameSince programme defaults past past' (later.renderValue player.epoch atOnce value?)
      (later'.renderValue player'.epoch atOnce value?) := by
  cases value? with
  | none => exact further
  | some value =>
    show SameSince programme defaults past past'
      (if later.epoch = player.epoch then later.render atOnce value.text else later)
      (if later'.epoch = player'.epoch then later'.render atOnce value.text else later')
    by_cases stays : later.epoch = player.epoch
    · rw [if_pos stays, if_pos ((same.epoch_iff further).mp stays)]
      exact further.render atOnce value.text
    · rw [if_neg stays, if_neg (mt (same.epoch_iff further).mpr stays)]
      exact further

include steering

theorem SameSince.matches_playNode (flushing : Bool) (node : Node Expr)
    (same : SameSince programme defaults past past' player player') :
    Matches False (SameSince programme defaults past past')
      (player.playNode (Builtin.registry controls) flushing node)
      (player'.playNode (Builtin.registry controls') flushing node) := by
  have evaluated (expression : Expr) :=
    steering.matches_evaluate expression (fun _ _ => trivial) same
  have shown (atOnce : Bool) (expression : Expr) :
      Matches False (SameSince programme defaults past past')
        ((player.evaluate (Builtin.registry controls) expression).map fun outcome =>
          outcome.2.renderValue player.epoch atOnce outcome.1)
        ((player'.evaluate (Builtin.registry controls') expression).map fun outcome =>
          outcome.2.renderValue player'.epoch atOnce outcome.1) := by
    refine (evaluated expression).map ?_
    rintro ⟨value?, later⟩ ⟨_, later'⟩ ⟨rfl, further⟩
    exact same.renderValue atOnce value? further
  cases node with
  | text content =>
    show SameSince programme defaults past past'
      (player.render (player.instant || flushing) content)
      (player'.render (player'.instant || flushing) content)
    rw [same.instant_eq]
    exact same.render _ content
  | instantString content => exact same.render true content
  | typewriterString content => exact same.render flushing content
  | inlineExpr expression => exact (evaluated expression).map fun _ _ further => further.2
  | deferredExpr expression =>
    exact (keptByFlushing_sameSince programme defaults past past').defer expression same
  | instantExpr expression => exact shown true expression
  | typewriterExpr expression => exact shown flushing expression

theorem SameSince.matches_loadNode (flushing : Bool)
    (same : SameSince programme defaults past past' player player') :
    Matches False (SameSince programme defaults past past')
      (player.loadNode (Builtin.registry controls) flushing)
      (player'.loadNode (Builtin.registry controls') flushing) := by
  have kept := keptByFlushing_sameSince programme defaults past past'
  unfold Player.loadNode
  rw [kept.node?_eq same]
  cases player'.node? with
  | none => exact kept.wait same
  | some node => exact (kept.passNode same).matches_playNode steering flushing node

/-- The loop of a frame takes its turns alike, since it stops where the player is no longer at the
visit at which the frame began. -/
theorem SameSince.matches_playFrame {first first' : Player} (rounds : Nat)
    (begun : SameSince programme defaults past past' first first')
    (same : SameSince programme defaults past past' player player') :
    Matches False (SameSince programme defaults past past')
      (Player.playFrame (Builtin.registry controls) first.epoch rounds player)
      (Player.playFrame (Builtin.registry controls') first'.epoch rounds player') := by
  induction rounds generalizing player player' with
  | zero =>
    unfold Player.playFrame
    simp only [same.status_eq, same.visit_eq, begun.epoch_iff same, same.typePending.visit_eq]
    split
    · split
      · exact not_false
      · exact same.typePending
    · exact same
  | succ rounds inductionHypothesis =>
    unfold Player.playFrame
    simp only [same.status_eq, same.visit_eq, begun.epoch_iff same, same.typePending.visit_eq]
    split
    · split
      · exact (same.typePending.matches_loadNode steering false).bind fun _ _ further =>
          inductionHypothesis further
      · exact same.typePending
    · exact same

theorem SameSince.matches_advance (milliseconds : Float)
    (same : SameSince programme defaults past past' player player') :
    Matches False (SameSince programme defaults past past')
      (player.advance (Builtin.registry controls) milliseconds)
      (player'.advance (Builtin.registry controls') milliseconds) := by
  have frame (pause elapsed : Float) : Matches False (SameSince programme defaults past past')
      (Player.playFrame (Builtin.registry controls) player.epoch player.rounds
        (player.withTime pause elapsed))
      (Player.playFrame (Builtin.registry controls') player'.epoch player'.rounds
        (player'.withTime pause elapsed)) := by
    rw [(keptByFlushing_sameSince programme defaults past past').rounds_eq same]
    exact same.matches_playFrame steering _ (same.withTime pause elapsed)
  rw [advance_eq, advance_eq, same.status_eq, same.visit_eq]
  generalize (if milliseconds.isFinite && 0 < milliseconds then milliseconds else 0) = time
  dsimp only
  split
  · split
    · split
      · exact same.withTime _ _
      · exact frame _ _
    · exact frame _ _
  · exact same

theorem SameSince.matches_confirm
    (same : SameSince programme defaults past past' player player') :
    Matches False (SameSince programme defaults past past')
      (player.confirm (Builtin.registry controls))
      (player'.confirm (Builtin.registry controls')) := by
  have kept := keptByFlushing_sameSince programme defaults past past'
  unfold Player.confirm
  rw [same.status_eq, same.settings_eq]
  split
  · split
    · exact kept.matches_continueBeat steering same
    · exact same
  · exact kept.matches_finishBeat steering same
  · exact same

end Playing

end Player

/-! ### Requests -/

namespace Request

/-- Two ends of a call or a run have the same answers, and are one player after two pasts. -/
def SameOutcome {Result : Type} (programme : Programme) (defaults : Settings) (past past' : Past)
    (outcome outcome' : Result × Player) : Prop :=
  outcome.1 = outcome'.1 ∧
    Player.SameSince programme defaults past past' outcome.2 outcome'.2

variable {programme : Programme} {defaults : Settings} {past past' : Past}
  {player player' : Player}

/-- A request is fulfilled alike after both pasts. -/
theorem matches_fulfil (depth : Nat) (request : Request)
    (same : Player.SameSince programme defaults past past' player player') :
    Matches False (SameOutcome programme defaults past past')
      (request.fulfil (Controls.builtin depth) player)
      (request.fulfil (Controls.builtin depth) player') := by
  have kept := Player.keptByFlushing_sameSince programme defaults past past'
  have steering := kept.steering_builtin (le_refl depth)
  have answered {update update' : Option Player}
      (compared : Matches False (Player.SameSince programme defaults past past') update update') :
      Matches False (SameOutcome programme defaults past past')
        (update.map fun later => (Answer.nothing, later))
        (update'.map fun later => (Answer.nothing, later)) :=
    compared.map fun _ _ further => ⟨rfl, further⟩
  cases request with
  | advance milliseconds =>
    cases depth with
    | zero => exact not_false
    | succ depth =>
      have nested := kept.steering_builtin (le_refl depth)
      refine (same.matches_advance nested milliseconds).map fun _ _ further => ?_
      exact ⟨congrArg Answer.status further.status_eq, further⟩
  | confirm =>
    cases depth with
    | zero => exact not_false
    | succ depth =>
      exact answered (same.matches_confirm (kept.steering_builtin (le_refl depth)))
  | continueBeat => exact answered (steering.continueBeat trivial same)
  | skipBeat => exact answered (steering.skipBeat trivial same)
  | loadScene name =>
    have loaded := same.loadScene name
    unfold fulfil
    dsimp only
    generalize player.loadScene? name = later? at loaded ⊢
    generalize player'.loadScene? name = later?' at loaded ⊢
    cases loaded with
    | none => exact ⟨rfl, same⟩
    | some further => exact ⟨rfl, further⟩
  | endScene => exact ⟨rfl, steering.endScene same⟩
  | clearOutput => exact ⟨rfl, same.emit .clear⟩
  | setInstant instant => exact ⟨rfl, steering.setInstant instant same⟩
  | setConfirmFlushes flushes => exact ⟨rfl, steering.setConfirmFlushes flushes same⟩
  | setSpeed charsPerSecond =>
    show SameOutcome programme defaults past past' (settle player (player.setSpeed charsPerSecond))
      (settle player' (player'.setSpeed charsPerSecond))
    unfold Player.setSpeed
    split
    · rename_i isSpeed
      exact ⟨rfl, steering.setSpeed charsPerSecond same isSpeed⟩
    · exact ⟨rfl, same⟩
  | pause milliseconds =>
    show SameOutcome programme defaults past past' (settle player (player.pause milliseconds))
      (settle player' (player'.pause milliseconds))
    unfold Player.pause
    split
    · exact ⟨rfl, steering.setPause milliseconds same⟩
    · exact ⟨rfl, same⟩
  | setVariable name value =>
    have scope := steering.scope same
    refine ⟨congrArg (fun scope : Scope => Answer.earlier (scope.set name value).1) scope, ?_⟩
    show Player.SameSince programme defaults past past'
      { player with scope := (player.scope.set name value).2 }
      { player' with scope := (player'.scope.set name value).2 }
    rw [← scope]
    exact steering.assignment _ same
  | removeVariable name =>
    have scope := steering.scope same
    refine ⟨congrArg (fun scope : Scope => Answer.earlier (scope.remove name).1) scope, ?_⟩
    show Player.SameSince programme defaults past past'
      { player with scope := (player.scope.remove name).2 }
      { player' with scope := (player'.scope.remove name).2 }
    rw [← scope]
    exact steering.assignment _ same
  | isDone => exact ⟨congrArg (fun status => Answer.truth (status == .done)) same.status_eq, same⟩

theorem matches_fulfilAll (depth : Nat) (requests : List Request)
    (same : Player.SameSince programme defaults past past' player player') :
    Matches False (SameOutcome programme defaults past past')
      (fulfilAll (Controls.builtin depth) requests player)
      (fulfilAll (Controls.builtin depth) requests player') := by
  induction requests generalizing player player' with
  | nil => exact ⟨rfl, same⟩
  | cons request rest inductionHypothesis =>
    have first := matches_fulfil depth request same
    unfold fulfilAll
    cases fulfilled : request.fulfil (Controls.builtin depth) player with
    | none => exact not_false
    | some outcome =>
      obtain ⟨outcome', fulfilled', answer, further⟩ := first.of_some fulfilled
      rw [fulfilled']
      refine (inductionHypothesis further).map fun later later' ended => ?_
      exact ⟨congrArg₂ List.cons answer ended.1, ended.2⟩

/-- A run after one past returns if it does after the other one, with the same outcome. -/
theorem rel_fulfilAll (depth : Nat) (requests : List Request)
    (same : Player.SameSince programme defaults past past' player player') :
    Option.Rel (SameOutcome programme defaults past past')
      (fulfilAll (Controls.builtin depth) requests player)
      (fulfilAll (Controls.builtin depth) requests player') := by
  have forth := matches_fulfilAll depth requests same
  have back := matches_fulfilAll depth requests same.symm
  cases run : fulfilAll (Controls.builtin depth) requests player with
  | some outcome =>
    obtain ⟨outcome', run', ended⟩ := forth.of_some run
    rw [run']
    exact .some ended
  | none =>
    cases run' : fulfilAll (Controls.builtin depth) requests player' with
    | none => exact .none
    | some outcome' =>
      obtain ⟨_, returned, -⟩ := back.of_some run'
      rw [run] at returned
      cases returned

end Request

/-! ### Loading a scene -/

namespace Player

/-- A player that has just come to the start of a scene and has no past. -/
def arrival (programme : Programme) (defaults : Settings) (scope : Scope) (scene : Nat) : Player :=
  enterBeat { programme, defaults, settings := defaults, scope, scene } 0

/-- Of all that a player has been through, only its variables and its past outlast the loading of a
scene. -/
theorem loadScene?_eq (player : Player) (name : String) :
    player.loadScene? name = (player.programme.sceneIndex? name).map fun scene =>
      (arrival player.programme player.defaults player.scope scene).after player.past :=
  rfl

theorem sameSince_start (programme : Programme) (settings : Settings) :
    SameSince programme settings.repaired ⟨#[], 0⟩ ⟨#[], 0⟩ (start programme settings)
      (start programme settings) := by
  have built : (start programme settings).programme = programme ∧
      (start programme settings).defaults = settings.repaired := by
    unfold start
    dsimp only
    cases loaded : loadScene? _ mainScene with
    | none => exact ⟨rfl, rfl⟩
    | some later =>
      obtain ⟨scene, -, rfl⟩ := Option.map_eq_some_iff.mp loaded
      exact ⟨rfl, rfl⟩
  have same : SameSince programme settings.repaired ⟨#[], 0⟩ ⟨#[], 0⟩
      ((start programme settings).after ⟨#[], 0⟩) ((start programme settings).after ⟨#[], 0⟩) :=
    .intro _ built.1 built.2
  rw [after_nothing] at same
  exact same

/-- No request changes the programme, or the settings that a scene starts with. -/
theorem built_of_run {programme : Programme} {settings : Settings} {depth : Nat}
    {requests : List Request} {answers : List Answer} {player : Player}
    (reached : Request.fulfilAll (Controls.builtin depth) requests (start programme settings) =
      some (answers, player)) :
    player.programme = programme ∧ player.defaults = settings.repaired := by
  obtain ⟨⟨_, other⟩, -, -, ended⟩ := (Request.matches_fulfilAll depth requests
    (sameSince_start programme settings)).of_some reached
  have same : SameSince programme settings.repaired ⟨#[], 0⟩ ⟨#[], 0⟩ player other := ended
  obtain ⟨since, plays, restores⟩ := same
  exact ⟨plays, restores⟩

end Player

namespace Request

/-- Loading a scene erases history. Two hosts have played the same programme with the same settings
in any ways, and the variables are the same. If both load a scene of the programme, all further
requests have the same answers, and both players put out the same and go on in the same way: they
are one player after two different pasts. If the programme has no such scene, loading it changes
nothing. -/
theorem rel_after_loadScene {programme : Programme} {settings : Settings} {depth depth' : Nat}
    {history history' : List Request} {answers answers' : List Answer} {player player' : Player}
    (reached : fulfilAll (Controls.builtin depth) history (Player.start programme settings) =
      some (answers, player))
    (reached' : fulfilAll (Controls.builtin depth') history' (Player.start programme settings) =
      some (answers', player'))
    (sameScope : player.scope = player'.scope) (name : String) :
    (programme.containsScene name = true → ∃ loaded loaded',
      (∀ controls, (loadScene name).fulfil controls player = some (.truth true, loaded)) ∧
      (∀ controls, (loadScene name).fulfil controls player' = some (.truth true, loaded')) ∧
      ∀ depth requests,
        Option.Rel (SameOutcome programme settings.repaired player.past player'.past)
          (fulfilAll (Controls.builtin depth) requests loaded)
          (fulfilAll (Controls.builtin depth) requests loaded')) ∧
    (programme.containsScene name = false → ∀ controls,
      (loadScene name).fulfil controls player = some (.truth false, player)) := by
  obtain ⟨plays, restores⟩ := Player.built_of_run reached
  obtain ⟨plays', restores'⟩ := Player.built_of_run reached'
  have first := player.loadScene?_eq name
  have second := player'.loadScene?_eq name
  rw [plays, restores] at first
  rw [plays', restores', ← sameScope] at second
  unfold Programme.containsScene
  cases found : programme.sceneIndex? name with
  | none =>
    rw [found] at first
    refine ⟨nofun, fun _ controls => ?_⟩
    rw [fulfil, first]
    rfl
  | some scene =>
    rw [found] at first second
    let reached := Player.arrival programme settings.repaired player.scope scene
    have arrival : Player.SameSince programme settings.repaired player.past player'.past
        (reached.after player.past) (reached.after player'.past) := .intro _ rfl rfl
    refine ⟨fun _ => ⟨_, _, fun controls => ?_, fun controls => ?_, fun depth requests =>
      rel_fulfilAll depth requests arrival⟩, nofun⟩
    · rw [fulfil, first]
      rfl
    · rw [fulfil, second]
      rfl

/-- One host has had the play told to its end, and another one has stopped it in the middle of a
text, at another speed and with a pause. Both begin the second scene alike. -/
theorem rel_after_loadScene_differing :
    ∃ first second : List Answer × Player,
      fulfilAll (Controls.builtin 1) [.continueBeat, .confirm] (Player.start
        ⟨[⟨"main", [[.text "three"]]⟩, ⟨"b", [[.text "x"]]⟩]⟩ {}) = some first ∧
      fulfilAll (Controls.builtin 2) [.setSpeed 80, .advance 30, .setInstant true, .pause 5]
        (Player.start ⟨[⟨"main", [[.text "three"]]⟩, ⟨"b", [[.text "x"]]⟩]⟩ {}) = some second ∧
      (first.2.status, first.2.events.size) = (.done, 2) ∧
      (second.2.status, second.2.visit.typing.pending, second.2.instant) =
        (.emitting, ['r', 'e', 'e'], true) ∧
      ∃ loaded loaded',
        (∀ controls, (loadScene "b").fulfil controls first.2 = some (.truth true, loaded)) ∧
        (∀ controls, (loadScene "b").fulfil controls second.2 = some (.truth true, loaded')) ∧
        ∀ depth requests,
          Option.Rel (SameOutcome ⟨[⟨"main", [[.text "three"]]⟩, ⟨"b", [[.text "x"]]⟩]⟩
              (Settings.repaired {}) first.2.past second.2.past)
            (fulfilAll (Controls.builtin depth) requests loaded)
            (fulfilAll (Controls.builtin depth) requests loaded') := by
  have firstShape : (fulfilAll (Controls.builtin 1) [.continueBeat, .confirm] (Player.start
      ⟨[⟨"main", [[.text "three"]]⟩, ⟨"b", [[.text "x"]]⟩]⟩ {})).map (fun outcome =>
        ((outcome.2.status, outcome.2.events.size), outcome.2.scope.entries.length)) =
      some ((.done, 2), 0) := by
    decide +kernel
  have secondShape : (fulfilAll (Controls.builtin 2)
      [.setSpeed 80, .advance 30, .setInstant true, .pause 5] (Player.start
        ⟨[⟨"main", [[.text "three"]]⟩, ⟨"b", [[.text "x"]]⟩]⟩ {})).map (fun outcome =>
          ((outcome.2.status, outcome.2.visit.typing.pending, outcome.2.instant),
            outcome.2.scope.entries.length)) =
      some ((.emitting, ['r', 'e', 'e'], true), 0) := by
    decide +kernel
  obtain ⟨first, firstRun, firstSame⟩ := Option.map_eq_some_iff.mp firstShape
  obtain ⟨second, secondRun, secondSame⟩ := Option.map_eq_some_iff.mp secondShape
  obtain ⟨firstShown, firstScope⟩ := Prod.ext_iff.mp firstSame
  obtain ⟨secondShown, secondScope⟩ := Prod.ext_iff.mp secondSame
  have noVariables {scope : Scope} (none : scope.entries.length = 0) : scope = Table.empty := by
    obtain ⟨entries, ascending⟩ := scope
    obtain rfl : entries = [] := List.eq_nil_of_length_eq_zero none
    rfl
  have sameScope : first.2.scope = second.2.scope :=
    (noVariables firstScope).trans (noVariables secondScope).symm
  exact ⟨first, second, firstRun, secondRun, firstShown, secondShown,
    (rel_after_loadScene firstRun secondRun sameScope "b").1 (by decide)⟩

end Request

end Playscript
