/-
This file takes a frame apart. In one call that lets time pass, a player types what is pending, then
loads one node after the other, each when the text of the node before it has been typed to its end,
and stops as soon as an expression has moved it on. Everything that appears in the frame is therefore
the rest of the text that was being typed, or the text of a node of the same beat, and the nodes come
in order, each of them once.

Expressions that show the rest of a beat or skip it play nodes themselves, so this is about
programmes without them. All other operations put out no characters, and they leave the player where
it is, with the text that it types, unless they move it to another visit.
-/

import Playscript.Proofs.Effects
import Playscript.Proofs.Returning
import Playscript.Proofs.Typing

namespace Playscript

/-! ### Steering alone -/

/-- Whether an event makes nothing appear. -/
def Event.isSilent : Event → Bool
  | .clear | .error _ => true
  | .character _ | .text _ => false

namespace Player

/-- A player has been steered and nothing has been played: no characters have appeared, and within
its visit it stays at its node, with the same text. -/
structure Steered (player later : Player) : Prop where
  programme : later.programme = player.programme
  epoch : player.epoch ≤ later.epoch
  events : ∃ silent, later.events.toList = player.events.toList ++ silent ∧
    ∀ event ∈ silent, event.isSilent = true
  scene : later.epoch = player.epoch → later.scene = player.scene
  beat : later.epoch = player.epoch → later.beat = player.beat
  node : later.epoch = player.epoch → later.visit.node = player.visit.node
  typing : later.epoch = player.epoch → later.visit.typing = player.visit.typing

namespace Steered

variable {player middle later : Player}

/-- Nothing has been put out, and what belongs to the visit is as before. -/
theorem of_same (programme : later.programme = player.programme)
    (epoch : later.epoch = player.epoch) (events : later.events = player.events)
    (scene : later.scene = player.scene) (beat : later.beat = player.beat)
    (node : later.visit.node = player.visit.node)
    (typing : later.visit.typing = player.visit.typing) : player.Steered later where
  programme := programme
  epoch := epoch.ge
  events := ⟨[], by rw [events, List.append_nil], List.forall_mem_nil _⟩
  scene _ := scene
  beat _ := beat
  node _ := node
  typing _ := typing

theorem refl (player : Player) : player.Steered player := .of_same rfl rfl rfl rfl rfl rfl rfl

theorem of_epoch_lt (programme : later.programme = player.programme)
    (events : later.events = player.events) (after : player.epoch < later.epoch) :
    player.Steered later where
  programme := programme
  epoch := after.le
  events := ⟨[], by rw [events, List.append_nil], List.forall_mem_nil _⟩
  scene same := absurd same after.ne'
  beat same := absurd same after.ne'
  node same := absurd same after.ne'
  typing same := absurd same after.ne'

theorem emit (player : Player) {event : Event} (silent : event.isSilent = true) :
    player.Steered (player.emit event) where
  programme := rfl
  epoch := le_rfl
  events := ⟨[event], Array.toList_push, List.forall_mem_singleton.mpr silent⟩
  scene _ := rfl
  beat _ := rfl
  node _ := rfl
  typing _ := rfl

theorem trans (first : player.Steered middle) (second : middle.Steered later) :
    player.Steered later := by
  have visits (same : later.epoch = player.epoch) :
      later.epoch = middle.epoch ∧ middle.epoch = player.epoch := by
    have sameSecond := le_antisymm (same.trans_le first.epoch) second.epoch
    exact ⟨sameSecond, sameSecond.symm.trans same⟩
  obtain ⟨before, firstEvents, beforeSilent⟩ := first.events
  obtain ⟨after, secondEvents, afterSilent⟩ := second.events
  refine ⟨second.programme.trans first.programme, first.epoch.trans second.epoch,
    ⟨before ++ after, ?_, List.forall_mem_append.mpr ⟨beforeSilent, afterSilent⟩⟩,
    fun same => ?_, fun same => ?_, fun same => ?_, fun same => ?_⟩
  · rw [secondEvents, firstEvents, List.append_assoc]
  · exact (second.scene (visits same).1).trans (first.scene (visits same).2)
  · exact (second.beat (visits same).1).trans (first.beat (visits same).2)
  · exact (second.node (visits same).1).trans (first.node (visits same).2)
  · exact (second.typing (visits same).1).trans (first.typing (visits same).2)

end Steered

end Player

namespace Builtin

/-- The effect of an operation that does not play nodes steers the player. -/
theorem steered_of_effect {controls : Controls} {builtin : Builtin} {player later : Player}
    (quiet : IsQuiet builtin.name) (effect : Effect controls player builtin later) :
    player.Steered later := by
  cases effect with
  | instant | flushing => exact .of_same rfl rfl rfl rfl rfl rfl rfl
  | speed taken =>
    rw [Player.eq_of_setSpeed taken]
    exact .of_same rfl rfl rfl rfl rfl rfl rfl
  | pause taken =>
    rw [Player.eq_of_pause taken]
    exact .of_same rfl rfl rfl rfl rfl rfl rfl
  | goto loaded =>
    obtain ⟨scene, -, rfl⟩ := Option.map_eq_some_iff.mp loaded
    exact .of_epoch_lt rfl rfl (Nat.lt_succ_self _)
  | skip => exact absurd rfl quiet.1
  | flush => exact absurd rfl quiet.2
  | clear => exact .emit player rfl
  | finish => exact .of_epoch_lt rfl rfl (Nat.lt_succ_self _)

/-- An operation that does not play nodes steers the player, and returns. -/
theorem steered_perform (controls : Controls) {builtin : Builtin} (quiet : IsQuiet builtin.name)
    (arguments : List Value) (player : Player) :
    Ends True (fun outcome : Except Misuse Unit × Player => player.Steered outcome.2)
      (builtin.perform controls arguments player) := by
  refine (failsOrDoes_perform controls (fun _ => quiet) arguments player).imp fun outcome did => ?_
  rcases did with ⟨misuse, -, same⟩ | ⟨-, effect⟩
  · rw [same]
    exact .refl player
  · exact steered_of_effect quiet effect

theorem steered_operation (controls : Controls) {builtin : Builtin} (quiet : IsQuiet builtin.name)
    (arguments : List Value) (player : Player) :
    Ends True (fun outcome : Except String Value × Player => player.Steered outcome.2)
      (builtin.operation controls arguments player) := by
  refine Action.ends_mapError Misuse.message ?_
  exact Action.ends_bind (steered_perform controls quiet arguments player)
    fun _ _ steered => steered

end Builtin

namespace Player

/-- An evaluation without nested playing steers the player, and returns. -/
theorem steered_evaluate (controls : Controls) (player : Player) {expression : Expr}
    (quiet : ∀ name ∈ expression.calls, IsQuiet name) :
    Ends True (fun outcome : Option Value × Player => player.Steered outcome.2)
      (player.evaluate (Builtin.registry controls) expression) := by
  have steers : Ends True
      (fun outcome : Except EvalError Value × Player => player.Steered outcome.2)
      (expression.eval (Builtin.registry controls) player) := by
    refine expression.ends_eval (fun name operand _ middle value steered => ?_)
      (fun name _ operation member found arguments middle steered => ?_) (.refl player)
    · exact steered.trans (.of_same rfl rfl rfl rfl rfl rfl rfl)
    · obtain ⟨builtin, isName, rfl⟩ := Builtin.exists_of_get?_foldl_insert found
      have isQuiet := isName ▸ quiet name (Expr.mem_calls_of_mem_parts member)
      exact (Builtin.steered_operation controls isQuiet arguments middle).imp fun _ further =>
        steered.trans further
  obtain ⟨⟨result, later⟩, ended, steered⟩ := steers.of_certain trivial
  unfold evaluate
  rw [ended]
  cases result with
  | error error => exact steered.trans (.emit later rfl)
  | ok value => exact steered

/-! ### Typing for a while -/

/-- Whether a frame that began during some visit goes on. -/
def Goes (epoch : Nat) (player : Player) : Prop :=
  player.status = .emitting ∧ player.visit.pause ≤ 0 ∧ player.epoch = epoch

instance (epoch : Nat) (player : Player) : Decidable (player.Goes epoch) :=
  inferInstanceAs (Decidable (_ ∧ _ ∧ _))

/-- Types as many characters as there is time for, if the frame goes on. -/
def typeOn (epoch : Nat) (player : Player) : Player :=
  if player.Goes epoch then player.typePending else player

theorem pause_typeWhileTime (interval : Float) (pending : List Char) (player : Player) :
    (typeWhileTime interval pending player).visit.pause = player.visit.pause := by
  induction pending generalizing player with
  | nil => rfl
  | cons character rest inductionHypothesis =>
    unfold typeWhileTime
    split
    · rfl
    · exact inductionHypothesis (player.typeCharacter interval character rest)

theorem goes_typePending_iff (epoch : Nat) (player : Player) :
    player.typePending.Goes epoch ↔ player.Goes epoch := by
  have stands := player.standsWith_typePending
  have pause : player.typePending.visit.pause = player.visit.pause := pause_typeWhileTime _ _ player
  unfold Goes
  rw [stands.status, stands.epoch, pause]

/-- What is typed is the beginning of what was pending, character by character. -/
theorem exists_typed_typeWhileTime (interval : Float) (pending : List Char) (player : Player)
    (begins : player.visit.typing.pending = pending) :
    ∃ typed, pending = typed ++ (typeWhileTime interval pending player).visit.typing.pending ∧
      (typeWhileTime interval pending player).events.toList =
        player.events.toList ++ typed.map .character := by
  induction pending generalizing player with
  | nil => exact ⟨[], begins.symm, (List.append_nil _).symm⟩
  | cons character rest inductionHypothesis =>
    unfold typeWhileTime
    split
    · exact ⟨[], begins.symm, (List.append_nil _).symm⟩
    · obtain ⟨typed, same, events⟩ :=
        inductionHypothesis (player.typeCharacter interval character rest) rfl
      refine ⟨character :: typed, congrArg (character :: ·) same, events.trans ?_⟩
      show (player.events.push (.character character)).toList ++ _ = _
      rw [Array.toList_push, List.append_assoc]
      rfl

theorem standsWith_typeOn (epoch : Nat) (player : Player) :
    player.StandsWith (player.typeOn epoch) := by
  unfold typeOn
  split
  · exact player.standsWith_typePending
  · exact ⟨rfl, rfl, rfl, rfl, rfl, rfl, rfl⟩

theorem exists_typed_typeOn (epoch : Nat) (player : Player) :
    ∃ typed, player.visit.typing.pending = typed ++ (player.typeOn epoch).visit.typing.pending ∧
      (player.typeOn epoch).events.toList = player.events.toList ++ typed.map .character := by
  unfold typeOn
  split
  · exact exists_typed_typeWhileTime _ _ player rfl
  · exact ⟨[], rfl, (List.append_nil _).symm⟩

/-- Without a text nothing is typed. -/
theorem events_typeOn_of_nil {epoch : Nat} {player : Player}
    (nothing : player.visit.typing.pending = []) :
    (player.typeOn epoch).events = player.events := by
  obtain ⟨typed, same, events⟩ := player.exists_typed_typeOn epoch
  rw [nothing] at same
  obtain ⟨rfl, -⟩ := List.append_eq_nil_iff.mp same.symm
  exact Array.toList_inj.mp (events.trans (List.append_nil _))

end Player

/-! ### Frames -/

/-- A node that is loaded: the player that loads it, the node, and the player when as much as there
is time for of what the node brings up has been typed. -/
structure Load where
  before : Player
  node : Node Expr
  after : Player

/-- What is put out because a node is loaded. -/
def Load.sent (load : Load) : List Event :=
  load.after.events.toList.drop load.before.events.size

/-- The nodes that are loaded in a frame, from a player that has typed what it could, to the player
at the end of the frame. -/
inductive Frame (registry : Registry Player) (epoch : Nat) : Player → List Load → Player → Prop
  /-- No further node is loaded. -/
  | stops {player : Player} : Frame registry epoch player [] player
  /-- No node is left, and the beat waits from now on. -/
  | exhausts {player : Player} (goes : player.Goes epoch)
      (nothing : player.visit.typing.pending = []) (noNode : player.node? = none) :
      Frame registry epoch player [] { player with status := .waiting }
  /-- The next node is loaded, and typed as far as possible. -/
  | loads {player later last : Player} {node : Node Expr} {others : List Load}
      (goes : player.Goes epoch) (nothing : player.visit.typing.pending = [])
      (next : player.node? = some node)
      (played : player.passNode.playNode registry false node = some later)
      (further : Frame registry epoch (later.typeOn epoch) others last) :
      Frame registry epoch player (⟨player, node, later.typeOn epoch⟩ :: others) last

namespace Player

theorem playFrame_of_not_goes {registry : Registry Player} {epoch rounds : Nat} {player : Player}
    (ended : ¬ player.Goes epoch) : playFrame registry epoch rounds player = some player := by
  unfold playFrame
  exact if_neg ended

/-- A frame types first. It loads a node if it goes on and nothing is left to type. -/
theorem playFrame_eq (registry : Registry Player) (epoch rounds : Nat) (player : Player) :
    playFrame registry epoch rounds player =
      if (player.typeOn epoch).Goes epoch ∧ (player.typeOn epoch).visit.typing.pending = [] then
        match rounds with
        | 0 => none
        | rounds + 1 =>
          ((player.typeOn epoch).loadNode registry false).bind (playFrame registry epoch rounds)
      else some (player.typeOn epoch) := by
  by_cases goes : player.Goes epoch
  · have typed : player.typeOn epoch = player.typePending := if_pos goes
    have typedGoes := (player.goes_typePending_iff epoch).mpr goes
    rw [typed, playFrame, if_pos (show player.status = .emitting ∧ player.visit.pause ≤ 0 ∧
      player.epoch = epoch from goes)]
    cases rounds <;> simp only [typedGoes, true_and]
  · have untyped : player.typeOn epoch = player := if_neg goes
    rw [playFrame_of_not_goes goes, untyped, if_neg fun both => goes both.1]

/-- What a player does in a frame is a frame. -/
theorem exists_frame_playFrame {registry : Registry Player} {epoch rounds : Nat}
    {player last : Player} (played : playFrame registry epoch rounds player = some last) :
    ∃ loads, Frame registry epoch (player.typeOn epoch) loads last := by
  induction rounds generalizing player with
  | zero =>
    rw [playFrame_eq] at played
    split at played
    · cases played
    · cases played
      exact ⟨[], .stops⟩
  | succ rounds inductionHypothesis =>
    rw [playFrame_eq] at played
    split at played
    · rename_i both
      obtain ⟨later, loaded, rest⟩ := Option.bind_eq_some_iff.mp played
      unfold loadNode at loaded
      split at loaded
      · rename_i noNode
        cases loaded
        have waits : ¬ ({ player.typeOn epoch with status := .waiting } : Player).Goes epoch :=
          fun still => nomatch (still.1 : Status.waiting = .emitting)
        rw [playFrame_of_not_goes waits] at rest
        cases rest
        exact ⟨[], .exhausts both.1 both.2 noNode⟩
      · rename_i node next
        obtain ⟨others, further⟩ := inductionHypothesis rest
        exact ⟨_, .loads both.1 both.2 next loaded further⟩
    · cases played
      exact ⟨[], .stops⟩

/-! ### One node -/

/-- The text that a node brings up: its own, or that of the value of its expression. Nothing is
brought up if the expression fails, or if it moves the player to another visit. -/
def brings? (registry : Registry Player) (player : Player) : Node Expr → Option String
  | .text content | .instantString content | .typewriterString content => some content
  | .inlineExpr _ | .deferredExpr _ => none
  | .instantExpr expression | .typewriterExpr expression =>
    match player.evaluate registry expression with
    | some (some value, later) => if later.epoch = player.epoch then some value.text else none
    | _ => none

/-- A player in a visit shows or begins to type what was brought up; otherwise nothing is done. -/
def Renders (epoch : Nat) (player : Player) (brought : Option String) (after : Player) : Prop :=
  brought = none ∧ after = player ∨
    ∃ text atOnce, brought = some text ∧ player.epoch = epoch ∧ after = player.render atOnce text

/-- A value is shown if it is there and the visit goes on. -/
theorem renders_renderValue {player later : Player} {registry : Registry Player}
    {expression : Expr} {value? : Option Value} {node : Node Expr} (atOnce : Bool)
    (shows : node = .instantExpr expression ∨ node = .typewriterExpr expression)
    (evaluated : player.evaluate registry expression = some (value?, later)) :
    later.Renders player.epoch (player.brings? registry node)
      (later.renderValue player.epoch atOnce value?) := by
  have brings : player.brings? registry node = match some (value?, later) with
      | some (some value, later) => if later.epoch = player.epoch then some value.text else none
      | _ => none := by
    rw [← evaluated]
    rcases shows with rfl | rfl <;> rfl
  rw [brings]
  cases value? with
  | none => exact .inl ⟨rfl, rfl⟩
  | some value =>
    by_cases same : later.epoch = player.epoch
    · exact .inr ⟨value.text, atOnce, if_pos same, same, if_pos same⟩
    · exact .inl ⟨if_neg same, if_neg same⟩

/-- Playing a node steers the player, and then shows or begins to type what the node brings up. -/
theorem exists_steered_playNode {controls : Controls} {node : Node Expr} {player after : Player}
    (quiet : ∀ expression, node.expression? = some expression →
      ∀ name ∈ expression.calls, IsQuiet name)
    (played : player.playNode (Builtin.registry controls) false node = some after) :
    ∃ middle, player.Steered middle ∧
      middle.Renders player.epoch (player.brings? (Builtin.registry controls) node) after := by
  have evaluates (expression : Expr) (holds : node.expression? = some expression) :=
    (player.steered_evaluate controls (quiet expression holds)).of_certain trivial
  cases node with
  | text content | instantString content | typewriterString content =>
    cases played
    exact ⟨player, .refl player, .inr ⟨content, _, rfl, rfl, rfl⟩⟩
  | deferredExpr expression =>
    cases played
    exact ⟨player.defer expression, .of_same rfl rfl rfl rfl rfl rfl rfl, .inl ⟨rfl, rfl⟩⟩
  | inlineExpr expression =>
    obtain ⟨outcome, evaluated, steered⟩ := evaluates expression rfl
    rw [playNode, evaluated] at played
    cases played
    exact ⟨_, steered, .inl ⟨rfl, rfl⟩⟩
  | instantExpr expression =>
    obtain ⟨⟨value?, later⟩, evaluated, steered⟩ := evaluates expression rfl
    rw [playNode, evaluated] at played
    cases played
    exact ⟨later, steered, renders_renderValue true (.inl rfl) evaluated⟩
  | typewriterExpr expression =>
    obtain ⟨⟨value?, later⟩, evaluated, steered⟩ := evaluates expression rfl
    rw [playNode, evaluated] at played
    cases played
    exact ⟨later, steered, renders_renderValue false (.inr rfl) evaluated⟩

end Player

/-- Events that show a text: all of it at once, or its first characters one by one. No character is
left out if the text is shown completely. -/
def ShowsText (completely : Prop) (text : String) (events : List Event) : Prop :=
  events = [.text text] ∨
    ∃ typed, typed <+: text.toList ∧ (completely → typed = text.toList) ∧
      events = typed.map .character

/-- What is put out because a node is loaded: what its expression puts out, of which nothing
appears, and then the text that the node brings up. After a move to another visit nothing
appears. -/
def Load.Sends (registry : Registry Player) (completely : Prop) (load : Load) : Prop :=
  ∃ silent shown, load.sent = silent ++ shown ∧ (∀ event ∈ silent, event.isSilent = true) ∧
    (load.before.passNode.brings? registry load.node = none → shown = []) ∧
    (∀ text, load.before.passNode.brings? registry load.node = some text →
      ShowsText completely text shown) ∧
    (load.after.epoch ≠ load.before.epoch → shown = [])

theorem Load.Sends.imp {registry : Registry Player} {completely completely' : Prop} {load : Load}
    (sends : load.Sends registry completely) (enough : completely' → completely) :
    load.Sends registry completely' := by
  obtain ⟨silent, shown, sent, allSilent, ofNone, ofSome, ofMoved⟩ := sends
  refine ⟨silent, shown, sent, allSilent, ofNone, fun text brings => ?_, ofMoved⟩
  rcases ofSome text brings with atOnce | ⟨typed, begins, all, events⟩
  · exact .inl atOnce
  · exact .inr ⟨typed, begins, fun sure => all (enough sure), events⟩

namespace Player

theorem typeOn_of_epoch_ne {epoch : Nat} {player : Player} (other : player.epoch ≠ epoch) :
    player.typeOn epoch = player :=
  if_neg fun goes => other goes.2.2

/-- What a text that is rendered makes appear until the next node can be loaded. -/
theorem exists_shown_render (epoch : Nat) {player : Player} (atOnce : Bool) (text : String)
    (nothing : player.visit.typing.pending = []) :
    ∃ shown, ((player.render atOnce text).typeOn epoch).events.toList =
        player.events.toList ++ shown ∧
      ShowsText (((player.render atOnce text).typeOn epoch).visit.typing.pending = []) text
        shown := by
  cases atOnce with
  | true =>
    have events : ((player.render true text).typeOn epoch).events =
        (player.emit (.text text)).events :=
      events_typeOn_of_nil (show (player.emit (.text text)).visit.typing.pending = [] from nothing)
    exact ⟨[.text text], by rw [events]; exact Array.toList_push, .inl rfl⟩
  | false =>
    obtain ⟨typed, same, events⟩ := (player.beginTyping text).exists_typed_typeOn epoch
    have whole : text.toList =
        typed ++ ((player.beginTyping text).typeOn epoch).visit.typing.pending := same
    refine ⟨typed.map .character, events, .inr ⟨typed, ⟨_, whole.symm⟩, fun finished => ?_, rfl⟩⟩
    rw [show ((player.beginTyping text).typeOn epoch).visit.typing.pending = [] from finished,
      List.append_nil] at whole
    exact whole.symm

/-- A node that was played during a frame, and the player when it has typed what it could. -/
structure PlaysOn (registry : Registry Player) (player : Player) (node : Node Expr)
    (after : Player) : Prop where
  sends : Load.Sends registry (after.visit.typing.pending = []) ⟨player, node, after⟩
  events : after.events.toList = player.events.toList ++ Load.sent ⟨player, node, after⟩
  programme : after.programme = player.programme
  nodes : after.epoch = player.epoch → after.nodes = player.nodes
  node : after.epoch = player.epoch → after.visit.node = player.visit.node + 1

theorem sent_eq {player after : Player} (node : Node Expr) {sent : List Event}
    (events : after.events.toList = player.events.toList ++ sent) :
    Load.sent ⟨player, node, after⟩ = sent := by
  unfold Load.sent
  rw [events]
  exact List.drop_left' Array.length_toList

namespace Renders

variable {epoch : Nat} {player later : Player} {brought : Option String}
  (renders : player.Renders epoch brought later)

include renders

theorem standsWith : player.StandsWith (later.typeOn epoch) := by
  rcases renders with ⟨-, rfl⟩ | ⟨text, atOnce, -, -, rfl⟩
  · exact later.standsWith_typeOn epoch
  · exact (player.standsWith_render atOnce text).trans (standsWith_typeOn _ _)

/-- What appears until the next node can be loaded is of the text that was brought up. -/
theorem exists_shown (idle : player.epoch = epoch → player.visit.typing.pending = []) :
    ∃ shown, (later.typeOn epoch).events.toList = player.events.toList ++ shown ∧
      (brought = none → shown = []) ∧
      (∀ text, brought = some text →
        ShowsText ((later.typeOn epoch).visit.typing.pending = []) text shown) ∧
      ((later.typeOn epoch).epoch ≠ epoch → shown = []) := by
  have stands := renders.standsWith
  rcases renders with ⟨rfl, rfl⟩ | ⟨text, atOnce, rfl, same, rfl⟩
  · refine ⟨[], ?_, fun _ => rfl, nofun, fun _ => rfl⟩
    rw [List.append_nil]
    by_cases same : later.epoch = epoch
    · rw [events_typeOn_of_nil (idle same)]
    · rw [typeOn_of_epoch_ne same]
  · obtain ⟨shown, events, showsText⟩ := exists_shown_render epoch atOnce text (idle same)
    refine ⟨shown, events, nofun, fun other brings => ?_, fun moved => ?_⟩
    · cases brings
      exact showsText
    · exact absurd (stands.epoch.trans same) moved

end Renders

theorem playsOn_of_played {controls : Controls} {node : Node Expr} {player later : Player}
    (quiet : ∀ expression, node.expression? = some expression →
      ∀ name ∈ expression.calls, IsQuiet name)
    (nothing : player.visit.typing.pending = [])
    (played : player.passNode.playNode (Builtin.registry controls) false node = some later) :
    player.PlaysOn (Builtin.registry controls) node (later.typeOn player.epoch) := by
  have sameVisit : player.passNode.epoch = player.epoch := rfl
  obtain ⟨middle, steered, renders⟩ := exists_steered_playNode quiet played
  rw [sameVisit] at renders
  obtain ⟨silent, middleEvents, allSilent⟩ := steered.events
  have idle (same : middle.epoch = player.epoch) : middle.visit.typing.pending = [] := by
    rw [steered.typing same]
    exact nothing
  -- What the expression put out is followed by what appears of the text.
  obtain ⟨shown, events, ofNone, ofSome, ofMoved⟩ := renders.exists_shown idle
  have allEvents : (later.typeOn player.epoch).events.toList =
      player.events.toList ++ (silent ++ shown) := by
    rw [events, middleEvents, List.append_assoc]
    rfl
  have sent := sent_eq node allEvents
  have stands := renders.standsWith
  refine ⟨⟨silent, shown, sent, allSilent, ofNone, ofSome, ofMoved⟩, ?_, ?_, fun same => ?_,
    fun same => ?_⟩
  · rw [sent, allEvents]
  · exact stands.programme.trans steered.programme
  · have sameMiddle : middle.epoch = player.epoch := stands.epoch.symm.trans same
    rw [nodes_of_stands stands]
    unfold nodes
    rw [steered.programme, steered.scene sameMiddle, steered.beat sameMiddle]
    rfl
  · rw [stands.node, steered.node (stands.epoch.symm.trans same)]
    rfl

end Player

/-! ### Whole frames -/

namespace Frame

variable {controls : Controls} {epoch : Nat} {player last : Player} {loads : List Load}

/-- A node is only loaded while the frame goes on, and when nothing is left to type. -/
theorem goes_of_ne_nil {registry : Registry Player} (frame : Frame registry epoch player loads last)
    (some : loads ≠ []) : player.Goes epoch ∧ player.visit.typing.pending = [] := by
  cases frame with
  | stops | exhausts => exact absurd rfl some
  | loads goes nothing _ _ _ => exact ⟨goes, nothing⟩

theorem playsOn {later : Player} {node : Node Expr}
    (quiet : ∀ name ∈ player.programme.calls, IsQuiet name) (goes : player.Goes epoch)
    (nothing : player.visit.typing.pending = []) (next : player.node? = some node)
    (played : player.passNode.playNode (Builtin.registry controls) false node = some later) :
    player.PlaysOn (Builtin.registry controls) node (later.typeOn epoch) := by
  rw [← goes.2.2]
  exact Player.playsOn_of_played (fun _ holds => Player.calls_of_node quiet next holds) nothing
    played

/-- What is put out in a frame is put out because of its nodes. -/
theorem events_eq (frame : Frame (Builtin.registry controls) epoch player loads last)
    (quiet : ∀ name ∈ player.programme.calls, IsQuiet name) :
    last.events.toList = player.events.toList ++ loads.flatMap Load.sent := by
  induction frame with
  | stops | exhausts => exact (List.append_nil _).symm
  | loads goes nothing next played further inductionHypothesis =>
    have load := playsOn quiet goes nothing next played
    rw [inductionHypothesis (load.programme ▸ quiet), load.events, List.append_assoc,
      List.flatMap_cons]

/-- A load of a frame is the next node in its turn. All of its text appears before another node is
loaded, and after a move to another visit no node is loaded. -/
theorem of_getElem? (frame : Frame (Builtin.registry controls) epoch player loads last)
    (quiet : ∀ name ∈ player.programme.calls, IsQuiet name) {index : Nat} {load : Load}
    (found : loads[index]? = some load) :
    load.before.epoch = epoch ∧ load.before.visit.node = player.visit.node + index ∧
      player.nodes[player.visit.node + index]? = some load.node ∧
      load.Sends (Builtin.registry controls) (index + 1 < loads.length) ∧
      (load.after.epoch ≠ epoch → index + 1 = loads.length) := by
  induction frame generalizing index with
  | stops | exhausts => cases found
  | @loads player later last node others goes nothing next played further inductionHypothesis =>
    have first := playsOn quiet goes nothing next played
    cases index with
    | zero =>
      cases found
      refine ⟨goes.2.2, rfl, ?_, first.sends.imp fun more => ?_, fun moved => ?_⟩
      · rw [← next, player.node?_eq]
        rfl
      · exact (further.goes_of_ne_nil (List.ne_nil_of_length_pos (Nat.lt_of_succ_lt_succ more))).2
      · by_contra more
        refine moved (further.goes_of_ne_nil fun none => more ?_).1.2.2
        rw [none]
        rfl
    | succ index =>
      have some : others ≠ [] := by
        rintro rfl
        cases found
      have same := (further.goes_of_ne_nil some).1.2.2.trans goes.2.2.symm
      obtain ⟨visit, number, place, sends, lastOne⟩ :=
        inductionHypothesis (first.programme ▸ quiet) found
      have count : player.visit.node + 1 + index = player.visit.node + (index + 1) := by omega
      rw [first.node same, count] at number place
      rw [first.nodes same] at place
      refine ⟨visit, number, place, sends.imp Nat.lt_of_succ_lt_succ, fun moved => ?_⟩
      exact congrArg Nat.succ (lastOne moved)

end Frame

/-- Letting time pass returns. What appears is first a part of the text that was being typed at the
start, all of it if a node is loaded. Then it is what the nodes bring up that are loaded in turn,
from the next one on, in the beat at which the player stood; each of these texts appears completely
before another node is loaded. Once an expression has moved the player to another visit, nothing more
appears and no node is loaded. -/
theorem plays_one_beat {programme : Programme} {settings : Settings} {depth : Nat}
    {requests : List Request} {answers : List Answer} {player : Player}
    (quiet : ∀ name ∈ programme.calls, IsQuiet name)
    (run : Request.fulfilAll (Controls.builtin depth) requests (Player.start programme settings) =
      some (answers, player)) (milliseconds : Float) (depth' : Nat) :
    ∃ later start opening loads,
      (Request.advance milliseconds).fulfil (Controls.builtin (depth' + 1)) player =
        some (.status later.status, later) ∧
      player.StandsWith start ∧
      start.events.toList = player.events.toList ++ opening.map .character ∧
      opening <+: player.visit.typing.pending ∧
      (loads ≠ [] → opening = player.visit.typing.pending) ∧
      Frame (Builtin.registry (Controls.builtin depth')) player.epoch start loads later ∧
      later.events.toList = start.events.toList ++ loads.flatMap Load.sent ∧
      ∀ index load, loads[index]? = some load →
        load.before.epoch = player.epoch ∧
        load.before.visit.node = player.visit.node + index ∧
        player.nodes[player.visit.node + index]? = some load.node ∧
        load.Sends (Builtin.registry (Controls.builtin depth')) (index + 1 < loads.length) ∧
        (load.after.epoch ≠ player.epoch → index + 1 = loads.length) := by
  have callsOnly := Request.callsOnly_of_run quiet run
  have sober : Sober IsQuiet := fun _ => ⟨fun quiet => quiet.1 rfl, fun quiet => quiet.2 rfl⟩
  have jumps : IsQuiet Builtin.goto.name := by decide
  have light : player.Light IsQuiet (0 + 1) := ⟨callsOnly, fun noJump => absurd jumps noJump⟩
  obtain ⟨later, advanced, -⟩ := (Player.returns_advance sober (Controls.forward_builtin depth')
    (Controls.return_zero IsQuiet _) milliseconds light).of_certain trivial
  have fulfilled : (Request.advance milliseconds).fulfil (Controls.builtin (depth' + 1)) player =
      some (.status later.status, later) :=
    congrArg (Option.map fun last : Player => (Answer.status last.status, last)) advanced
  rcases player.advance_cases (Builtin.registry (Controls.builtin depth')) milliseconds with
    ⟨pause, elapsed, outcome⟩ | ⟨-, pause, elapsed, outcome⟩
  · cases advanced.symm.trans outcome
    refine ⟨_, player.withTime pause elapsed, [], [], fulfilled,
      player.standsWith_withTime pause elapsed, (List.append_nil _).symm, List.nil_prefix,
      fun some => absurd rfl some, .stops, (List.append_nil _).symm, fun _ _ found => ?_⟩
    cases found
  · obtain ⟨loads, frame⟩ := Player.exists_frame_playFrame (outcome.symm.trans advanced)
    obtain ⟨opening, whole, events⟩ :=
      (player.withTime pause elapsed).exists_typed_typeOn player.epoch
    have stands := (player.standsWith_withTime pause elapsed).trans
      ((player.withTime pause elapsed).standsWith_typeOn player.epoch)
    have quietStart : ∀ name ∈ ((player.withTime pause elapsed).typeOn player.epoch).programme.calls,
        IsQuiet name := by
      rw [stands.programme]
      exact callsOnly.programme
    refine ⟨later, _, opening, loads, fulfilled, stands, events, ⟨_, whole.symm⟩, fun some => ?_,
      frame, frame.events_eq quietStart, fun index load found => ?_⟩
    · rw [(frame.goes_of_ne_nil some).2, List.append_nil] at whole
      exact whole.symm
    · have facts := frame.of_getElem? quietStart found
      rw [stands.node, Player.nodes_of_stands stands] at facts
      exact facts

/-- A beat that begins anew after its first text appears once in a frame, however long. -/
theorem plays_one_beat_jumping :
    ∃ (player later start : Player) (opening : List Char) (loads : List Load),
    Request.fulfilAll (Controls.builtin 0) [] (Player.start ⟨[⟨"main",
        [[.text "a", .instantExpr (.call "goto" [.literal (.string "main")]), .text "b"]]⟩]⟩ {}) =
      some ([], player) ∧
      (Request.advance 1000).fulfil (Controls.builtin 1) player =
        some (.status later.status, later) ∧
      Frame (Builtin.registry (Controls.builtin 0)) player.epoch start loads later ∧
      start.events.toList = player.events.toList ++ opening.map .character ∧
      later.events.toList = start.events.toList ++ loads.flatMap Load.sent ∧
      (later.status, later.epoch, later.events) = (.emitting, 2, #[.character 'a']) := by
  have shape : ((Request.advance 1000).fulfil (Controls.builtin 1) (Player.start ⟨[⟨"main",
      [[.text "a", .instantExpr (.call "goto" [.literal (.string "main")]), .text "b"]]⟩]⟩ {})).map
        (fun outcome => (outcome.2.status, outcome.2.epoch, outcome.2.events)) =
      some (.emitting, 2, #[.character 'a']) := by
    decide +kernel
  have run : Request.fulfilAll (Controls.builtin 0) [] (Player.start ⟨[⟨"main",
      [[.text "a", .instantExpr (.call "goto" [.literal (.string "main")]), .text "b"]]⟩]⟩ {}) =
      some ([], _) := rfl
  obtain ⟨later, start, opening, loads, fulfilled, -, opens, -, -, frame, events, -⟩ :=
    plays_one_beat (by decide) run 1000 0
  rw [fulfilled] at shape
  exact ⟨_, later, start, opening, loads, run, fulfilled, frame, opens, events,
    Option.some.inj shape⟩

end Playscript
