/-
This file says what becomes of a text that is typed. Its characters appear in order, all of them,
and a beat that waits has no text left, whatever the host and the script do meanwhile, with one
exception. The value of an expression is typed after the expression has been evaluated. If the
expression has itself shown the rest of its beat, the beat waits by then, and the value never
appears.

The argument keeps two readings of a player apart. Between two requests a text may be half typed,
and what has appeared together with the rest of the text only grows during a visit. While an
expression is evaluated nothing is typed, since nodes are loaded when a text is at its end; the
player then stays without a text through everything the expression can do.
-/

import Mathlib.Data.List.Infix
import Playscript.Proofs.Finishing
import Playscript.Proofs.Pacing

namespace Playscript

/-! ### What has appeared -/

/-- The characters that an event makes appear. -/
def Event.characters : Event → List Char
  | .character typed => [typed]
  | .text content => content.toList
  | .clear | .error _ => []

namespace Display

theorem transcript_receive (display : Display) (event : Event) :
    (display.receive event).transcript.toList =
      display.transcript.toList ++ event.characters := by
  cases event with
  | character character => exact String.toList_push _
  | text content => exact String.toList_append
  | clear | error => exact (List.append_nil _).symm

theorem transcript_foldl_receive (events : List Event) (display : Display) :
    (events.foldl receive display).transcript.toList =
      display.transcript.toList ++ events.flatMap Event.characters := by
  induction events generalizing display with
  | nil => exact (List.append_nil _).symm
  | cons event rest inductionHypothesis =>
    rw [List.foldl_cons, inductionHypothesis, transcript_receive, List.flatMap_cons,
      List.append_assoc]

end Display

namespace Player

/-- What has ever appeared of a player, on a display that keeps everything. -/
def transcript (player : Player) : List Char :=
  (Display.empty.receiveAll player.events).transcript.toList

theorem transcript_eq (player : Player) :
    player.transcript = player.events.toList.flatMap Event.characters := by
  unfold transcript Display.receiveAll
  rw [← Array.foldl_toList, Display.transcript_foldl_receive]
  rfl

theorem transcript_emit (player : Player) (event : Event) :
    (player.emit event).transcript = player.transcript ++ event.characters := by
  rw [transcript_eq, transcript_eq]
  show (player.events.push event).toList.flatMap Event.characters = _
  rw [Array.toList_push, List.flatMap_append, List.flatMap_singleton]

theorem transcript_prefix_of_continues {player later : Player}
    (continues : player.Continues later) : player.transcript <+: later.transcript := by
  obtain ⟨further, together⟩ := continues.events
  rw [transcript_eq, transcript_eq, ← together, List.flatMap_append]
  exact List.prefix_append _ _

/-- What has appeared, and what is left of the text that is being typed. -/
def told (player : Player) : List Char := player.transcript ++ player.visit.typing.pending

theorem told_of_nil {player : Player} (nothing : player.visit.typing.pending = []) :
    player.told = player.transcript := by
  unfold told
  rw [nothing, List.append_nil]

theorem transcript_prefix_told (player : Player) : player.transcript <+: player.told :=
  List.prefix_append _ _

/-- Typing makes appear what was left, and leaves the text as it is. -/
theorem told_typeWhileTime (interval : Float) (pending : List Char) (player : Player)
    (begins : player.visit.typing.pending = pending) :
    (typeWhileTime interval pending player).told = player.told ∧
      (typeWhileTime interval pending player).visit.typing.text = player.visit.typing.text := by
  induction pending generalizing player with
  | nil => exact ⟨rfl, rfl⟩
  | cons character rest inductionHypothesis =>
    unfold typeWhileTime
    split
    · exact ⟨rfl, rfl⟩
    · obtain ⟨told, text⟩ :=
        inductionHypothesis (player.typeCharacter interval character rest) rfl
      have appeared : (player.typeCharacter interval character rest).transcript =
          player.transcript ++ [character] := player.transcript_emit (.character character)
      refine ⟨told.trans ?_, text.trans ?_⟩
      · show (player.typeCharacter interval character rest).transcript ++ rest = _
        unfold Player.told
        rw [appeared, begins, List.append_assoc, List.singleton_append]
      · show (character :: player.visit.typing.shown).reverse ++ rest = _
        unfold Typing.text
        rw [begins, List.reverse_cons, List.append_assoc, List.singleton_append]

theorem told_typePending (player : Player) :
    player.typePending.told = player.told ∧
      player.typePending.visit.typing.text = player.visit.typing.text :=
  told_typeWhileTime _ _ player rfl

/-- Showing the rest of a text makes all of it appear. -/
theorem told_showPending (player : Player) : player.showPending.told = player.told := by
  rw [told_of_nil player.pending_showPending]
  unfold showPending told
  dsimp only
  by_cases nothing : player.visit.typing.pending = []
  · rw [if_pos nothing, nothing, List.append_nil]
    rfl
  · rw [if_neg nothing]
    show (player.emit (.text (String.ofList player.visit.typing.pending))).transcript = _
    rw [transcript_emit]
    show _ ++ (String.ofList player.visit.typing.pending).toList = _
    rw [String.toList_ofList]

theorem text_showPending (player : Player) :
    player.showPending.visit.typing.text = player.visit.typing.text := by
  have finished : player.showPending.visit.typing = player.visit.typing.finish := by
    unfold showPending
    dsimp only
    split <;> rfl
  rw [finished, Typing.text_finish]

/-! ### Players that type nothing -/

/-- Nothing is left of the text, and all of it has appeared. If `lost` holds, this need not be so of
a beat that waits. -/
def TypedOut (lost : Prop) (player : Player) : Prop :=
  lost ∧ player.status = .waiting ∨
    player.visit.typing.pending = [] ∧ player.visit.typing.text <:+: player.transcript

namespace TypedOut

variable {lost : Prop} {player later : Player}

/-- A player that begins a visit has no text. -/
theorem of_visit (visit : later.visit = {}) : later.TypedOut lost := by
  refine Or.inr ?_
  rw [visit]
  exact ⟨rfl, List.nil_infix⟩

/-- What has appeared stays, so a player with the same text stays as it is. -/
theorem of_typing (typedOut : player.TypedOut lost) (status : later.status = player.status)
    (typing : later.visit.typing = player.visit.typing)
    (appeared : player.transcript <+: later.transcript) : later.TypedOut lost := by
  rcases typedOut with ⟨isLost, waiting⟩ | ⟨nothing, text⟩
  · exact Or.inl ⟨isLost, status.trans waiting⟩
  · refine Or.inr ?_
    rw [typing]
    exact ⟨nothing, text.trans appeared.isInfix⟩

theorem of_not_waiting (typedOut : player.TypedOut lost) (notWaiting : player.status ≠ .waiting) :
    player.TypedOut False := by
  rcases typedOut with ⟨-, waiting⟩ | settled
  · exact absurd waiting notWaiting
  · exact Or.inr settled

theorem pending (typedOut : player.TypedOut False) : player.visit.typing.pending = [] := by
  rcases typedOut with ⟨impossible, -⟩ | settled
  · exact impossible.elim
  · exact settled.1

theorem text_infix (typedOut : player.TypedOut False) :
    player.visit.typing.text <:+: player.transcript := by
  rcases typedOut with ⟨impossible, -⟩ | settled
  · exact impossible.elim
  · exact settled.2

theorem weaken (typedOut : player.TypedOut False) : player.TypedOut lost :=
  typedOut.imp_left fun impossible => impossible.1.elim

theorem emit (typedOut : player.TypedOut lost) (event : Event) :
    (player.emit event).TypedOut lost := by
  refine typedOut.of_typing rfl rfl ?_
  exact transcript_prefix_of_continues (player.continues_emit event)

theorem loadScene {name : String} (loaded : player.loadScene? name = some later) :
    later.TypedOut lost := by
  obtain ⟨scene, -, rfl⟩ := Option.map_eq_some_iff.mp loaded
  exact .of_visit rfl

end TypedOut

/-- Showing the rest of the text leaves nothing of it. -/
theorem typedOut_showPending {player : Player}
    (text : player.visit.typing.text <:+: player.told) : player.showPending.TypedOut False := by
  refine Or.inr ⟨player.pending_showPending, ?_⟩
  rw [text_showPending, ← told_of_nil player.pending_showPending, told_showPending]
  exact text

end Player

/-- Nested calls that type nothing. -/
structure Controls.KeepTypedOut (controls : Controls) : Prop where
  skipBeat : ∀ (lost : Prop) (player : Player), player.TypedOut lost →
    Ends False (Player.TypedOut lost) (controls.skipBeat player)
  continueBeat : ∀ (lost : Prop) (player : Player), player.TypedOut lost →
    Ends False (Player.TypedOut lost) (controls.continueBeat player)

namespace Player

section Nested

variable {controls : Controls} {lost : Prop} (keep : controls.KeepTypedOut)

include keep

theorem lastsThroughSteering_typedOut (lost : Prop) :
    LastsThroughSteering False (fun _ => True) controls (TypedOut lost) where
  assignment _ typedOut := typedOut
  emit event typedOut := typedOut.emit event
  setInstant _ typedOut := typedOut
  setConfirmFlushes _ typedOut := typedOut
  setSpeed _ typedOut _ := typedOut
  setPause _ typedOut := typedOut
  loadScene _ _ loaded := TypedOut.loadScene loaded
  endScene _ := .of_visit rfl
  skipBeat _ typedOut := keep.skipBeat lost _ typedOut
  continueBeat _ typedOut := keep.continueBeat lost _ typedOut

theorem typedOut_evaluate {player : Player} (typedOut : player.TypedOut False)
    (expression : Expr) :
    Ends False (fun outcome : Option Value × Player => outcome.2.TypedOut False)
      (player.evaluate (Builtin.registry controls) expression) :=
  (lastsThroughSteering_typedOut keep False).ends_evaluate expression (fun _ _ => trivial) typedOut

theorem typedOut_evaluate_renderValue {player : Player} (typedOut : player.TypedOut False)
    (expression : Expr) :
    Ends False (TypedOut False)
      ((player.evaluate (Builtin.registry controls) expression).map fun (value?, later) =>
        later.renderValue player.epoch true value?) := by
  refine (typedOut_evaluate keep typedOut expression).map fun outcome typedOut => ?_
  exact renderValue_cases outcome.1 typedOut fun _ _ => typedOut.emit _

/-- A node that is shown at once leaves nothing to type. -/
theorem typedOut_loadNode {player : Player} (typedOut : player.TypedOut False) :
    Ends False (TypedOut False) (player.loadNode (Builtin.registry controls) true) := by
  unfold loadNode
  cases player.node? with
  | none => exact Or.inr ⟨typedOut.pending, typedOut.text_infix⟩
  | some node =>
    have passed : player.passNode.TypedOut False := typedOut
    cases node with
    | text content =>
      show (player.passNode.render (player.passNode.instant || true) content).TypedOut False
      rw [Bool.or_true]
      exact passed.emit _
    | instantString content => exact passed.emit _
    | typewriterString content => exact passed.emit _
    | inlineExpr expression =>
      exact (typedOut_evaluate keep passed expression).map fun _ typedOut => typedOut
    | deferredExpr expression => exact passed
    | instantExpr expression => exact typedOut_evaluate_renderValue keep passed expression
    | typewriterExpr expression => exact typedOut_evaluate_renderValue keep passed expression

variable (forward : controls.Forward)

include forward

/-- Showing the rest of a beat leaves nothing of it to type. -/
theorem typedOut_continueBeat_of_emitting {player : Player} (emitting : player.status = .emitting)
    (text : player.visit.typing.text <:+: player.told) :
    Ends False (TypedOut False) (player.continueBeat (Builtin.registry controls)) := by
  unfold Player.continueBeat
  rw [if_pos emitting]
  refine (ends_flushNodes forward (fun _ typedOut _ => typedOut_loadNode keep typedOut)
    player.rounds (typedOut_showPending text) False.elim).map fun later ended => ?_
  refine ended.1.of_typing (later.standsWith_dropTime _).status ?_ ?_
  · unfold dropTime
    split <;> rfl
  · exact transcript_prefix_of_continues (later.continues_dropTime _)

theorem typedOut_continueBeat {player : Player} (typedOut : player.TypedOut lost) :
    Ends False (TypedOut lost) (player.continueBeat (Builtin.registry controls)) := by
  by_cases emitting : player.status = .emitting
  · have settled := typedOut.of_not_waiting (by rw [emitting]; decide)
    have text := settled.text_infix.trans player.transcript_prefix_told.isInfix
    exact (typedOut_continueBeat_of_emitting keep forward emitting text).imp
      fun _ typedOut => typedOut.weaken
  · unfold Player.continueBeat
    rw [if_neg emitting]
    exact typedOut

omit forward in
/-- Whatever was left of a beat that waited, its end leaves nothing to type. -/
theorem typedOut_finishBeat {player : Player} (waiting : player.status = .waiting) :
    Ends False (TypedOut False) (player.finishBeat (Builtin.registry controls)) := by
  have begins : player.takeDeferred.2.TypedOut True := Or.inl ⟨trivial, waiting⟩
  unfold finishBeat
  have evaluated := (lastsThroughSteering_typedOut keep True).ends_evaluateAll
    player.visit.deferred (fun _ _ _ _ => trivial) begins
  refine evaluated.map fun later typedOut => ?_
  dsimp only
  split
  · exact .of_visit rfl
  · rename_i notWaiting
    exact (typedOut.emit .clear).of_not_waiting notWaiting

theorem typedOut_skipBeat {player : Player} (typedOut : player.TypedOut lost) :
    Ends False (TypedOut lost) (player.skipBeat (Builtin.registry controls)) := by
  unfold Player.skipBeat
  refine (typedOut_continueBeat keep forward typedOut).bind fun middle typedOut => ?_
  split
  · rename_i waiting
    exact (typedOut_finishBeat keep waiting).imp fun _ typedOut => typedOut.weaken
  · exact typedOut

end Nested

end Player

theorem Controls.keepTypedOut_builtin (depth : Nat) : (Controls.builtin depth).KeepTypedOut := by
  induction depth with
  | zero => exact ⟨fun _ _ _ => not_false, fun _ _ _ => not_false⟩
  | succ depth inductionHypothesis =>
    have forward := Controls.forward_builtin depth
    exact ⟨fun _ _ typedOut => Player.typedOut_skipBeat inductionHypothesis forward typedOut,
      fun _ _ typedOut => Player.typedOut_continueBeat inductionHypothesis forward typedOut⟩

/-! ### Players that type -/

namespace Player

/-- An expression of the beat whose value is typed and that shows the rest of a beat. -/
def FlushesWhileTyping (player : Player) : Prop :=
  ∃ expression, Node.typewriterExpr expression ∈ player.nodes ∧
    Builtin.flush.name ∈ expression.calls

/-- The text that is typed is part of what is told. A beat that waits has nothing left of it, unless
an expression of the beat may have shown the rest of the beat before its value was typed. -/
structure Accounted (player : Player) : Prop where
  text : player.visit.typing.text <:+: player.told
  waiting : player.status = .waiting → player.visit.typing.pending ≠ [] →
    player.FlushesWhileTyping

namespace Accounted

variable {player later : Player}

theorem of_typedOut (typedOut : player.TypedOut False) : player.Accounted where
  text := typedOut.text_infix.trans player.transcript_prefix_told.isInfix
  waiting _ some := absurd typedOut.pending some

/-- A player that has nothing left of its text types nothing. -/
theorem typedOut (accounted : player.Accounted) (nothing : player.visit.typing.pending = []) :
    player.TypedOut False := by
  refine Or.inr ⟨nothing, ?_⟩
  rw [← told_of_nil nothing]
  exact accounted.text

/-- Changes of the clocks, the modes and the variables tell nothing. -/
theorem of_stands (accounted : player.Accounted) (stands : player.StandsWith later)
    (typing : later.visit.typing = player.visit.typing)
    (transcript : later.transcript = player.transcript) : later.Accounted where
  text := by
    unfold told
    rw [typing, transcript]
    exact accounted.text
  waiting := by
    unfold FlushesWhileTyping
    rw [stands.status, typing, nodes_of_stands stands]
    exact accounted.waiting

/-- A text may be typed from its beginning, though not where the beat waits already. -/
theorem beginTyping (fits : player.status = .waiting → player.FlushesWhileTyping) (text : String) :
    (player.beginTyping text).Accounted where
  text := (List.suffix_append _ _).isInfix
  waiting waiting _ := fits waiting

theorem typePending (accounted : player.Accounted) (emitting : player.status = .emitting) :
    player.typePending.Accounted where
  text := by
    obtain ⟨told, text⟩ := player.told_typePending
    rw [told, text]
    exact accounted.text
  waiting waiting := by
    rw [player.standsWith_typePending.status, emitting] at waiting
    cases waiting

end Accounted

section Playing

variable {controls : Controls} (keep : controls.KeepTypedOut) (forward : controls.Forward)

include keep forward

/-- The value of an expression is typed at the visit of its node. There the beat waits only if the
expression has shown the rest of it. -/
theorem accounted_evaluate_renderValue {player : Player} {expression : Expr}
    (typedOut : player.TypedOut False) (emitting : player.status = .emitting)
    (member : Node.typewriterExpr expression ∈ player.nodes) :
    Ends False Accounted
      ((player.evaluate (Builtin.registry controls) expression).map fun (value?, later) =>
        later.renderValue player.epoch false value?) := by
  by_cases flushes : Builtin.flush.name ∈ expression.calls
  · have evaluated := (typedOut_evaluate keep typedOut expression).and
      (continues_evaluate forward player expression)
    refine evaluated.map fun outcome both => ?_
    refine renderValue_cases outcome.1 (.of_typedOut both.1) fun text same => ?_
    refine Accounted.beginTyping (fun _ => ⟨expression, ?_, flushes⟩) text
    rw [both.2.nodes_eq same]
    exact member
  · have evaluated := (typedOut_evaluate keep typedOut expression).and
      (emitting_evaluate forward emitting expression flushes)
    refine evaluated.map fun outcome both => ?_
    refine renderValue_cases outcome.1 (.of_typedOut both.1) fun text same => ?_
    refine Accounted.beginTyping (fun waiting => ?_) text
    rw [both.2 same] at waiting
    cases waiting

theorem accounted_loadNode {player : Player} (accounted : player.Accounted)
    (emitting : player.status = .emitting) (nothing : player.visit.typing.pending = []) :
    Ends False Accounted (player.loadNode (Builtin.registry controls) false) := by
  have typedOut := accounted.typedOut nothing
  have passed : player.passNode.TypedOut False := typedOut
  have rendered (atOnce : Bool) (text : String) :
      (player.passNode.render atOnce text).Accounted := by
    cases atOnce with
    | true => exact .of_typedOut (passed.emit _)
    | false =>
      refine Accounted.beginTyping (fun waiting => ?_) text
      rw [show player.status = .waiting from waiting] at emitting
      cases emitting
  unfold loadNode
  cases next : player.node? with
  | none => exact .of_typedOut (Or.inr ⟨nothing, typedOut.text_infix⟩)
  | some node =>
    cases node with
    | text content => exact rendered _ content
    | instantString content => exact rendered true content
    | typewriterString content => exact rendered false content
    | inlineExpr expression =>
      exact (typedOut_evaluate keep passed expression).map fun _ typedOut => .of_typedOut typedOut
    | deferredExpr expression => exact .of_typedOut passed
    | instantExpr expression =>
      exact (typedOut_evaluate_renderValue keep passed expression).imp fun _ => .of_typedOut
    | typewriterExpr expression =>
      rw [node?_eq] at next
      exact accounted_evaluate_renderValue keep forward passed emitting (List.mem_of_getElem? next)

theorem accounted_advance (milliseconds : Float) {player : Player}
    (accounted : player.Accounted) :
    Ends False Accounted (player.advance (Builtin.registry controls) milliseconds) := by
  have timed (pause elapsed : Float) : (player.withTime pause elapsed).Accounted :=
    accounted.of_stands (player.standsWith_withTime pause elapsed) rfl rfl
  rcases player.advance_cases (Builtin.registry controls) milliseconds with
    ⟨pause, elapsed, outcome⟩ | ⟨-, pause, elapsed, outcome⟩
  · rw [outcome]
    exact timed pause elapsed
  · rw [outcome]
    refine ends_playFrame forward (fun middle accounted emitting => ?_)
      (fun middle accounted emitting nothing => ?_) _ (timed pause elapsed) False.elim
    · exact accounted.typePending emitting
    · exact accounted_loadNode keep forward accounted emitting nothing

theorem accounted_continueBeat {player : Player} (accounted : player.Accounted) :
    Ends False Accounted (player.continueBeat (Builtin.registry controls)) := by
  by_cases emitting : player.status = .emitting
  · exact (typedOut_continueBeat_of_emitting keep forward emitting accounted.text).imp
      fun _ => .of_typedOut
  · unfold Player.continueBeat
    rw [if_neg emitting]
    exact accounted

theorem accounted_skipBeat {player : Player} (accounted : player.Accounted) :
    Ends False Accounted (player.skipBeat (Builtin.registry controls)) := by
  unfold Player.skipBeat
  refine (accounted_continueBeat keep forward accounted).bind fun middle accounted => ?_
  split
  · rename_i waiting
    exact (typedOut_finishBeat keep waiting).imp fun _ => .of_typedOut
  · exact accounted

theorem accounted_confirm {player : Player} (accounted : player.Accounted) :
    Ends False Accounted (player.confirm (Builtin.registry controls)) := by
  unfold Player.confirm
  split
  · split
    · exact accounted_continueBeat keep forward accounted
    · exact accounted
  · rename_i waiting
    exact (typedOut_finishBeat keep waiting).imp fun _ => .of_typedOut
  · exact accounted

end Playing

end Player

/-! ### Requests of the host -/

namespace Request

theorem accounted_fulfil (depth : Nat) (request : Request) {player : Player}
    (accounted : player.Accounted) :
    Ends False (fun outcome : Answer × Player => outcome.2.Accounted)
      (request.fulfil (Controls.builtin depth) player) := by
  have keep := Controls.keepTypedOut_builtin
  have forward := Controls.forward_builtin
  cases request with
  | advance milliseconds =>
    cases depth with
    | zero => exact not_false
    | succ depth =>
      exact (Player.accounted_advance (keep depth) (forward depth) milliseconds accounted).map
        fun _ accounted => accounted
  | confirm =>
    cases depth with
    | zero => exact not_false
    | succ depth =>
      exact (Player.accounted_confirm (keep depth) (forward depth) accounted).map
        fun _ accounted => accounted
  | continueBeat =>
    cases depth with
    | zero => exact not_false
    | succ depth =>
      exact (Player.accounted_continueBeat (keep depth) (forward depth) accounted).map
        fun _ accounted => accounted
  | skipBeat =>
    cases depth with
    | zero => exact not_false
    | succ depth =>
      exact (Player.accounted_skipBeat (keep depth) (forward depth) accounted).map
        fun _ accounted => accounted
  | loadScene name =>
    exact ends_fulfil_loadScene accounted fun _ loaded => .of_typedOut (.loadScene loaded)
  | endScene => exact .of_typedOut (.of_visit rfl)
  | clearOutput =>
    refine accounted.of_stands (player.standsWith_emit .clear) rfl ?_
    exact (player.transcript_emit .clear).trans (List.append_nil _)
  | setInstant | setConfirmFlushes => exact ⟨accounted.text, accounted.waiting⟩
  | setSpeed charsPerSecond =>
    exact ends_fulfil_setSpeed accounted fun _ => ⟨accounted.text, accounted.waiting⟩
  | pause milliseconds =>
    exact ends_fulfil_pause accounted ⟨accounted.text, accounted.waiting⟩
  | setVariable | removeVariable => exact ⟨accounted.text, accounted.waiting⟩
  | isDone => exact accounted

end Request

/-! ### What is told of a visit -/

namespace Player

/-- A player has come out of an earlier one by going forward. If it is at the same visit, it has
told at least as much. -/
structure Tells (player later : Player) : Prop where
  continues : player.Continues later
  told : later.epoch = player.epoch → player.told <+: later.told

namespace Tells

variable {player middle later : Player}

theorem refl (player : Player) : player.Tells player := ⟨.refl player, fun _ => List.prefix_rfl⟩

theorem trans (first : player.Tells middle) (second : middle.Tells later) : player.Tells later where
  continues := first.continues.trans second.continues
  told same := by
    have sameSecond : later.epoch = middle.epoch :=
      le_antisymm (same.trans_le first.continues.epoch) second.continues.epoch
    exact (first.told (sameSecond.symm.trans same)).trans (second.told sameSecond)

/-- Where nothing is left of a text, whatever appears comes after it. -/
theorem of_pending (nothing : player.visit.typing.pending = [])
    (continues : player.Continues later) : player.Tells later where
  continues := continues
  told _ := by
    rw [told_of_nil nothing]
    exact (transcript_prefix_of_continues continues).trans later.transcript_prefix_told

theorem of_told_eq (continues : player.Continues later) (told : later.told = player.told) :
    player.Tells later :=
  ⟨continues, fun _ => told ▸ List.prefix_rfl⟩

theorem of_epoch_lt (continues : player.Continues later) (after : player.epoch < later.epoch) :
    player.Tells later :=
  ⟨continues, fun same => absurd same after.ne'⟩

end Tells

variable {controls : Controls} (forward : controls.Forward)

include forward

theorem tells_advance (milliseconds : Float) (player : Player) :
    Ends False player.Tells (player.advance (Builtin.registry controls) milliseconds) := by
  have timed (pause elapsed : Float) : player.Tells (player.withTime pause elapsed) :=
    .of_told_eq (.of_stands (player.standsWith_withTime pause elapsed) List.prefix_rfl) rfl
  rcases player.advance_cases (Builtin.registry controls) milliseconds with
    ⟨pause, elapsed, outcome⟩ | ⟨-, pause, elapsed, outcome⟩
  · rw [outcome]
    exact timed pause elapsed
  · rw [outcome]
    refine ends_playFrame forward (fun middle tells _ => ?_)
      (fun middle tells emitting nothing => ?_) _ (timed pause elapsed) False.elim
    · exact tells.trans (.of_told_eq middle.continues_typePending middle.told_typePending.1)
    · exact (continues_loadNode forward false middle emitting).imp fun _ further =>
        tells.trans (.of_pending nothing further.1)

theorem tells_continueBeat (player : Player) :
    Ends False player.Tells (player.continueBeat (Builtin.registry controls)) := by
  unfold Player.continueBeat
  split
  · refine (continues_flushNodes forward player.epoch player.rounds player.showPending).map ?_
    intro later further
    have shown : player.Tells player.showPending :=
      .of_told_eq player.continues_showPending player.told_showPending
    refine shown.trans (.of_pending player.pending_showPending ?_)
    exact further.1.trans (later.continues_dropTime _)
  · exact .refl player

theorem tells_finishBeat {player : Player} (waiting : player.status = .waiting) :
    Ends False player.Tells (player.finishBeat (Builtin.registry controls)) :=
  (continues_finishBeat forward player waiting).imp fun _ finished =>
    .of_epoch_lt finished.1 finished.2

theorem tells_skipBeat (player : Player) :
    Ends False player.Tells (player.skipBeat (Builtin.registry controls)) := by
  unfold Player.skipBeat
  refine (tells_continueBeat forward player).bind fun middle tells => ?_
  split
  · rename_i waiting
    exact (tells_finishBeat forward waiting).imp fun _ further => tells.trans further
  · exact tells

theorem tells_confirm (player : Player) :
    Ends False player.Tells (player.confirm (Builtin.registry controls)) := by
  unfold Player.confirm
  split
  · split
    · exact tells_continueBeat forward player
    · exact .refl player
  · rename_i waiting
    exact tells_finishBeat forward waiting
  · exact .refl player

end Player

namespace Request

theorem tells_fulfil (depth : Nat) (request : Request) (player : Player) :
    Ends False (fun outcome : Answer × Player => player.Tells outcome.2)
      (request.fulfil (Controls.builtin depth) player) := by
  have forward := Controls.forward_builtin
  have continues := continues_fulfil depth request player
  cases request with
  | advance milliseconds =>
    cases depth with
    | zero => exact not_false
    | succ depth =>
      exact (Player.tells_advance (forward depth) milliseconds player).map fun _ tells => tells
  | confirm =>
    cases depth with
    | zero => exact not_false
    | succ depth => exact (Player.tells_confirm (forward depth) player).map fun _ tells => tells
  | continueBeat =>
    cases depth with
    | zero => exact not_false
    | succ depth =>
      exact (Player.tells_continueBeat (forward depth) player).map fun _ tells => tells
  | skipBeat =>
    cases depth with
    | zero => exact not_false
    | succ depth => exact (Player.tells_skipBeat (forward depth) player).map fun _ tells => tells
  | loadScene name =>
    refine ends_fulfil_loadScene (.refl player) fun later loaded => ?_
    refine .of_epoch_lt (Player.continues_loadScene loaded) ?_
    obtain ⟨scene, -, rfl⟩ := Option.map_eq_some_iff.mp loaded
    exact Nat.lt_succ_self _
  | endScene => exact .of_epoch_lt continues (Nat.lt_succ_self _)
  | clearOutput =>
    refine .of_told_eq continues ?_
    unfold Player.told
    rw [show player.clearOutput.transcript = player.transcript from
      (player.transcript_emit .clear).trans (List.append_nil _)]
    rfl
  | setSpeed charsPerSecond =>
    refine ends_fulfil_setSpeed (.refl player) fun _ => .of_told_eq ?_ rfl
    exact .of_stands ⟨rfl, rfl, rfl, rfl, rfl, rfl, rfl⟩ List.prefix_rfl
  | pause milliseconds =>
    refine ends_fulfil_pause (.refl player) (.of_told_eq ?_ rfl)
    exact .of_stands ⟨rfl, rfl, rfl, rfl, rfl, rfl, rfl⟩ List.prefix_rfl
  | setInstant | setConfirmFlushes | setVariable | removeVariable | isDone =>
    exact .of_told_eq continues rfl

end Request

/-! ### Runs -/

namespace Player

theorem accounted_start (programme : Programme) (settings : Settings) :
    (Player.start programme settings).Accounted := by
  unfold Player.start
  dsimp only
  cases loaded : Player.loadScene? _ mainScene with
  | none => exact .of_typedOut (.of_visit rfl)
  | some later => exact .of_typedOut (.loadScene loaded)

end Player

namespace Request

theorem accounted_fulfilAll (depth : Nat) (requests : List Request) {player : Player}
    (accounted : player.Accounted) :
    Ends False (fun outcome : List Answer × Player => outcome.2.Accounted)
      (fulfilAll (Controls.builtin depth) requests player) :=
  ends_fulfilAll requests (fun request _ _ accounted => accounted_fulfil depth request accounted)
    accounted

theorem tells_fulfilAll (depth : Nat) (requests : List Request) (player : Player) :
    Ends False (fun outcome : List Answer × Player => player.Tells outcome.2)
      (fulfilAll (Controls.builtin depth) requests player) := by
  refine ends_fulfilAll requests (fun request _ middle tells => ?_) (.refl player)
  exact (tells_fulfil depth request middle).imp fun _ further => tells.trans further

end Request

/-- A script whose only value is typed after the rest of its beat was shown. -/
theorem untyped_of_flush : ∃ programme outcome,
    compile "::main\n@\x7bflush(); 'x'\x7d" = .ok programme ∧
      Request.fulfilAll (Controls.builtin 2) [.advance 1000] (Player.start programme {}) =
        some outcome ∧
      outcome.2.status = .waiting ∧ outcome.2.visit.typing.pending = ['x'] ∧
      outcome.2.transcript = [] ∧ outcome.2.nodes.map Node.calls = [[Builtin.flush.name]] := by
  have shape : (compile "::main\n@\x7bflush(); 'x'\x7d").toOption.bind (fun programme =>
      (Request.fulfilAll (Controls.builtin 2) [.advance 1000] (Player.start programme {})).map
        fun outcome => (outcome.2.status, outcome.2.visit.typing.pending, outcome.2.transcript,
          outcome.2.nodes.map Node.calls)) =
      some (.waiting, ['x'], [], [[Builtin.flush.name]]) := by
    decide +kernel
  obtain ⟨programme, compiled, shape⟩ := Option.bind_eq_some_iff.mp shape
  obtain ⟨outcome, run, shape⟩ := Option.map_eq_some_iff.mp shape
  rw [Prod.mk.injEq, Prod.mk.injEq, Prod.mk.injEq] at shape
  exact ⟨programme, outcome, Player.ok_of_toOption compiled, run, shape⟩

/-- For any set of operations, a beat that waits has nothing left to type, and has shown to the end
every text that was being typed at its visit, if the values it types call no others, just if the set
does not allow these values to show the rest of the beat. -/
theorem typed_iff (calls : String → Prop) :
    (∀ source programme, compile source = .ok programme →
      ∀ settings depth depth' earlier answers between answers' before player,
        Request.fulfilAll (Controls.builtin depth) earlier (Player.start programme settings) =
          some (answers, before) →
        Request.fulfilAll (Controls.builtin depth') between before = some (answers', player) →
        player.epoch = before.epoch → player.status = .waiting →
        (∀ expression, Node.typewriterExpr expression ∈ player.nodes →
          ∀ name ∈ expression.calls, calls name) →
        player.visit.typing.pending = [] ∧
          before.visit.typing.text <:+: player.transcript) ↔
    ¬ calls Builtin.flush.name := by
  refine ⟨fun typed flushes => ?_, fun noFlush => ?_⟩
  · obtain ⟨programme, outcome, compiled, run, waiting, pending, -, called⟩ := untyped_of_flush
    have onlyFlush : ∀ expression, Node.typewriterExpr expression ∈ outcome.2.nodes →
        ∀ name ∈ expression.calls, calls name := by
      intro expression member name inside
      have among : expression.calls ∈ outcome.2.nodes.map Node.calls :=
        List.mem_map_of_mem member
      rw [called] at among
      rw [List.mem_singleton.mp among] at inside
      rw [List.mem_singleton.mp inside]
      exact flushes
    have nothing := (typed _ programme compiled {} 2 0 _ _ [] [] _ _ run rfl rfl waiting
      onlyFlush).1
    rw [pending] at nothing
    cases nothing
  · intro source programme _ settings depth depth' earlier answers between answers' before player
      earlierRun run same waiting called
    have accounted := (Request.accounted_fulfilAll depth earlier
      (Player.accounted_start programme settings)).of_some earlierRun
    have accounted' := (Request.accounted_fulfilAll depth' between accounted).of_some run
    have tells := (Request.tells_fulfilAll depth' between before).of_some run
    have nothing : player.visit.typing.pending = [] := by
      by_contra some
      obtain ⟨expression, member, flushes⟩ := accounted'.waiting waiting some
      exact noFlush (called expression member _ flushes)
    refine ⟨nothing, ?_⟩
    rw [← Player.told_of_nil nothing]
    exact accounted.text.trans (tells.told same).isInfix

/-- A value that is typed after the rest of its beat was shown is lost: the beat waits, and the
value has not appeared. -/
theorem not_typed_of_flush : ∃ programme answers player,
    compile "::main\n@\x7bflush(); 'x'\x7d" = .ok programme ∧
      Request.fulfilAll (Controls.builtin 2) [.advance 1000] (Player.start programme {}) =
        some (answers, player) ∧
      player.status = .waiting ∧ player.visit.typing.pending = ['x'] ∧
        player.transcript = [] := by
  obtain ⟨programme, ⟨answers, player⟩, compiled, run, waiting, pending, nothing, -⟩ :=
    untyped_of_flush
  exact ⟨programme, answers, player, compiled, run, waiting, pending, nothing⟩

end Playscript
