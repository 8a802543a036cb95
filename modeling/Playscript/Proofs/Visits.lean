/-
This file compares a player with an earlier one. Two players may stand at the same place, they may
be at the same visit to a beat, or one of them may have come out of the other by going forward. Each
single change that playing makes is one of these.
-/

import Playscript.Playback.Playing
import Playscript.Proofs.Calls

namespace Playscript

namespace Player

/-! ### Where a player stands -/

theorem nodes_of_beat {player : Player} {nodes : List (Node Expr)}
    (stands : player.programme.beat? player.scene player.beat = some nodes) :
    player.nodes = nodes := by
  unfold Player.nodes
  rw [stands]
  rfl

theorem node?_eq (player : Player) : player.node? = player.nodes[player.visit.node]? := by
  unfold node? Programme.node? nodes
  cases player.programme.beat? player.scene player.beat <;> rfl

theorem length_of_node? {player : Player} {node : Node Expr} (next : player.node? = some node) :
    player.visit.node < player.nodes.length := by
  rw [node?_eq] at next
  exact (List.getElem?_eq_some_iff.mp next).1

/-! ### One player after another -/

/-- Two players stand at the same place: whatever else is different, they are at the same visit,
with the same nodes and deferred expressions behind them. -/
structure StandsWith (player other : Player) : Prop where
  programme : other.programme = player.programme
  status : other.status = player.status
  scene : other.scene = player.scene
  beat : other.beat = player.beat
  node : other.visit.node = player.visit.node
  deferred : other.visit.deferred = player.visit.deferred
  epoch : other.epoch = player.epoch

/-- A player is still at the visit of an earlier one. -/
structure SameVisit (player later : Player) : Prop where
  scene : later.scene = player.scene
  beat : later.beat = player.beat
  node : player.visit.node ≤ later.visit.node
  deferred : player.visit.deferred <+: later.visit.deferred
  status : later.status = player.status ∨ player.status = .emitting ∧ later.status = .waiting

/-- A player has come out of an earlier one by going forward. -/
structure Continues (player later : Player) : Prop where
  programme : later.programme = player.programme
  events : player.events.toList <+: later.events.toList
  epoch : player.epoch ≤ later.epoch
  visit : later.epoch = player.epoch → player.SameVisit later

theorem nodes_of_stands {player other : Player} (stands : player.StandsWith other) :
    other.nodes = player.nodes := by
  unfold nodes
  rw [stands.programme, stands.scene, stands.beat]

theorem rounds_of_stands {player other : Player} (stands : player.StandsWith other) :
    other.rounds = player.rounds := by
  unfold rounds
  rw [nodes_of_stands stands, stands.node]

theorem StandsWith.trans {player middle later : Player} (first : player.StandsWith middle)
    (second : middle.StandsWith later) : player.StandsWith later :=
  ⟨second.programme.trans first.programme, second.status.trans first.status,
    second.scene.trans first.scene, second.beat.trans first.beat, second.node.trans first.node,
    second.deferred.trans first.deferred, second.epoch.trans first.epoch⟩

namespace SameVisit

theorem of_stands {player later : Player} (stands : player.StandsWith later) :
    player.SameVisit later :=
  ⟨stands.scene, stands.beat, stands.node.ge, stands.deferred ▸ List.prefix_rfl,
    Or.inl stands.status⟩

theorem trans {player middle later : Player} (first : player.SameVisit middle)
    (second : middle.SameVisit later) : player.SameVisit later where
  scene := second.scene.trans first.scene
  beat := second.beat.trans first.beat
  node := first.node.trans second.node
  deferred := first.deferred.trans second.deferred
  status := by
    rcases second.status with same | ⟨emitting, waiting⟩
    · rw [same]
      exact first.status
    · rcases first.status with same | ⟨_, alreadyWaiting⟩
      · exact Or.inr ⟨same ▸ emitting, waiting⟩
      · rw [emitting] at alreadyWaiting
        cases alreadyWaiting

end SameVisit

namespace Continues

theorem of_stands {player later : Player} (stands : player.StandsWith later)
    (events : player.events.toList <+: later.events.toList) : player.Continues later :=
  ⟨stands.programme, events, stands.epoch.ge, fun _ => .of_stands stands⟩

theorem refl (player : Player) : player.Continues player :=
  .of_stands ⟨rfl, rfl, rfl, rfl, rfl, rfl, rfl⟩ List.prefix_rfl

theorem trans {player middle later : Player} (first : player.Continues middle)
    (second : middle.Continues later) : player.Continues later where
  programme := second.programme.trans first.programme
  events := first.events.trans second.events
  epoch := first.epoch.trans second.epoch
  visit same := by
    have sameSecond : later.epoch = middle.epoch :=
      le_antisymm (same.trans_le first.epoch) second.epoch
    have sameFirst : middle.epoch = player.epoch := sameSecond.symm.trans same
    exact (first.visit sameFirst).trans (second.visit sameSecond)

/-- Entering another visit is going forward. -/
theorem of_epoch_lt {player later : Player} (programme : later.programme = player.programme)
    (events : player.events.toList <+: later.events.toList) (after : player.epoch < later.epoch) :
    player.Continues later where
  programme := programme
  events := events
  epoch := after.le
  visit same := absurd same after.ne'

/-- A visit that goes on does not end the play. -/
theorem status_ne_done {player later : Player} (continues : player.Continues later)
    (same : later.epoch = player.epoch) (notDone : player.status ≠ .done) :
    later.status ≠ .done := by
  rcases (continues.visit same).status with status | ⟨_, status⟩
  · rw [status]
    exact notDone
  · rw [status]
    decide

/-- Within a visit the beat stays the same. -/
theorem nodes_eq {player later : Player} (continues : player.Continues later)
    (same : later.epoch = player.epoch) : later.nodes = player.nodes := by
  have visit := continues.visit same
  unfold nodes
  rw [continues.programme, visit.scene, visit.beat]

end Continues

/-! ### Single changes -/

theorem events_prefix_emit (player : Player) (event : Event) :
    player.events.toList <+: (player.emit event).events.toList := by
  show player.events.toList <+: (player.events.push event).toList
  rw [Array.toList_push]
  exact List.prefix_append _ _

theorem standsWith_emit (player : Player) (event : Event) : player.StandsWith (player.emit event) :=
  ⟨rfl, rfl, rfl, rfl, rfl, rfl, rfl⟩

theorem standsWith_beginTyping (player : Player) (text : String) :
    player.StandsWith (player.beginTyping text) :=
  ⟨rfl, rfl, rfl, rfl, rfl, rfl, rfl⟩

theorem standsWith_render (player : Player) (atOnce : Bool) (text : String) :
    player.StandsWith (player.render atOnce text) := by
  cases atOnce with
  | true => exact player.standsWith_emit _
  | false => exact player.standsWith_beginTyping text

theorem standsWith_showPending (player : Player) : player.StandsWith player.showPending := by
  unfold showPending
  dsimp only
  split <;> exact ⟨rfl, rfl, rfl, rfl, rfl, rfl, rfl⟩

theorem standsWith_dropTime (player : Player) (epoch : Nat) :
    player.StandsWith (player.dropTime epoch) := by
  unfold dropTime
  split <;> exact ⟨rfl, rfl, rfl, rfl, rfl, rfl, rfl⟩

theorem continues_emit (player : Player) (event : Event) : player.Continues (player.emit event) :=
  .of_stands (player.standsWith_emit event) (player.events_prefix_emit event)

theorem continues_endScene (player : Player) : player.Continues player.endScene :=
  .of_epoch_lt rfl List.prefix_rfl (Nat.lt_succ_self _)

theorem continues_loadScene {player later : Player} {name : String}
    (loaded : player.loadScene? name = some later) : player.Continues later := by
  obtain ⟨scene, -, rfl⟩ := Option.map_eq_some_iff.mp loaded
  exact .of_epoch_lt rfl List.prefix_rfl (Nat.lt_succ_self _)

theorem continues_passNode (player : Player) : player.Continues player.passNode :=
  ⟨rfl, List.prefix_rfl, le_rfl, fun _ => ⟨rfl, rfl, Nat.le_succ _, List.prefix_rfl, Or.inl rfl⟩⟩

theorem continues_defer (player : Player) (expression : Expr) :
    player.Continues (player.defer expression) :=
  ⟨rfl, List.prefix_rfl, le_rfl, fun _ => ⟨rfl, rfl, le_rfl, List.prefix_append _ _, Or.inl rfl⟩⟩

theorem continues_render (player : Player) (atOnce : Bool) (text : String) :
    player.Continues (player.render atOnce text) := by
  cases atOnce with
  | true => exact player.continues_emit _
  | false => exact .of_stands (player.standsWith_beginTyping text) List.prefix_rfl

/-- A value is shown within its visit, or nothing changes. -/
theorem renderValue_cases {property : Player → Prop} {player : Player} {epoch : Nat}
    {atOnce : Bool} (value? : Option Value) (unchanged : property player)
    (rendered : ∀ text, player.epoch = epoch → property (player.render atOnce text)) :
    property (player.renderValue epoch atOnce value?) := by
  cases value? with
  | none => exact unchanged
  | some value =>
    show property (if player.epoch = epoch then player.render atOnce value.text else player)
    by_cases same : player.epoch = epoch
    · rw [if_pos same]
      exact rendered value.text same
    · rw [if_neg same]
      exact unchanged

theorem continues_renderValue (player : Player) (epoch : Nat) (atOnce : Bool)
    (value? : Option Value) : player.Continues (player.renderValue epoch atOnce value?) :=
  renderValue_cases value? (.refl player) fun text _ => player.continues_render atOnce text

theorem continues_showPending (player : Player) : player.Continues player.showPending := by
  refine .of_stands player.standsWith_showPending ?_
  unfold showPending
  dsimp only
  split
  · exact List.prefix_rfl
  · exact player.events_prefix_emit _

theorem continues_dropTime (player : Player) (epoch : Nat) :
    player.Continues (player.dropTime epoch) := by
  refine .of_stands (player.standsWith_dropTime epoch) ?_
  unfold dropTime
  split <;> exact List.prefix_rfl

/-! ### Typing -/

/-- Typing characters changes what has been put out, the text and the time, and nothing else. -/
theorem standsWith_typeWhileTime (interval : Float) (pending : List Char) (player : Player) :
    player.StandsWith (typeWhileTime interval pending player) ∧
      (typeWhileTime interval pending player).settings = player.settings ∧
      (typeWhileTime interval pending player).defaults = player.defaults := by
  induction pending generalizing player with
  | nil => exact ⟨⟨rfl, rfl, rfl, rfl, rfl, rfl, rfl⟩, rfl, rfl⟩
  | cons character rest inductionHypothesis =>
    unfold typeWhileTime
    split
    · exact ⟨⟨rfl, rfl, rfl, rfl, rfl, rfl, rfl⟩, rfl, rfl⟩
    · obtain ⟨stands, settings, defaults⟩ :=
        inductionHypothesis (player.typeCharacter interval character rest)
      exact ⟨⟨stands.programme, stands.status, stands.scene, stands.beat, stands.node,
        stands.deferred, stands.epoch⟩, settings, defaults⟩

theorem standsWith_typePending (player : Player) : player.StandsWith player.typePending :=
  (standsWith_typeWhileTime _ _ player).1

theorem events_prefix_typeWhileTime (interval : Float) (pending : List Char) (player : Player) :
    player.events.toList <+: (typeWhileTime interval pending player).events.toList := by
  induction pending generalizing player with
  | nil => exact List.prefix_rfl
  | cons character rest inductionHypothesis =>
    unfold typeWhileTime
    split
    · exact List.prefix_rfl
    · have typed := player.events_prefix_emit (.character character)
      exact typed.trans (inductionHypothesis (player.typeCharacter interval character rest))

theorem continues_typePending (player : Player) : player.Continues player.typePending :=
  .of_stands player.standsWith_typePending (events_prefix_typeWhileTime _ _ player)

end Player

end Playscript
