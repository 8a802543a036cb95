/-
This file counts the errors that a player puts out. An error comes out only where an expression has
failed: typing and showing text, moving on and being steered put none out.
-/

import Playscript.Proofs.Frames

namespace Playscript

/-! ### Errors that are put out -/

/-- The message of an error. -/
def Event.report? : Event → Option String
  | .error message => some message
  | .character _ | .text _ | .clear => none

namespace Display

theorem errors_receive (display : Display) (event : Event) :
    (display.receive event).errors.toList = display.errors.toList ++ event.report?.toList := by
  cases event with
  | error message => exact Array.toList_push
  | character | text | clear => exact (List.append_nil _).symm

theorem errors_foldl_receive (events : List Event) (display : Display) :
    (events.foldl receive display).errors.toList =
      display.errors.toList ++ events.filterMap Event.report? := by
  induction events generalizing display with
  | nil => exact (List.append_nil _).symm
  | cons event rest inductionHypothesis =>
    rw [List.foldl_cons, inductionHypothesis, errors_receive, List.append_assoc]
    cases event <;> rfl

end Display

namespace Player

/-- The messages of all errors that a player has put out, on a display that keeps everything. -/
def reports (player : Player) : List String :=
  (Display.empty.receiveAll player.events).errors.toList

/-- No error has been put out between a player and a later one. -/
def KeepsReports (player later : Player) : Prop := later.reports = player.reports

theorem reports_eq (player : Player) :
    player.reports = player.events.toList.filterMap Event.report? := by
  unfold reports Display.receiveAll
  rw [← Array.foldl_toList, Display.errors_foldl_receive]
  rfl

theorem reports_emit (player : Player) (event : Event) :
    (player.emit event).reports = player.reports ++ event.report?.toList := by
  rw [reports_eq, reports_eq]
  show (player.events.push event).toList.filterMap Event.report? = _
  rw [Array.toList_push, List.filterMap_append]
  cases event <;> rfl

theorem keepsReports_render (player : Player) (atOnce : Bool) (text : String) :
    player.KeepsReports (player.render atOnce text) := by
  cases atOnce with
  | true => exact (player.reports_emit (.text text)).trans (List.append_nil _)
  | false => rfl

theorem keepsReports_renderValue (player : Player) (epoch : Nat) (atOnce : Bool)
    (value? : Option Value) : player.KeepsReports (player.renderValue epoch atOnce value?) :=
  renderValue_cases value? rfl fun text _ => player.keepsReports_render atOnce text

theorem keepsReports_showPending (player : Player) : player.KeepsReports player.showPending := by
  unfold showPending
  dsimp only
  split
  · rfl
  · exact (player.reports_emit _).trans (List.append_nil _)

theorem keepsReports_dropTime (player : Player) (epoch : Nat) :
    player.KeepsReports (player.dropTime epoch) := by
  unfold dropTime
  split <;> rfl

theorem keepsReports_withTime (player : Player) (pause elapsed : Float) :
    player.KeepsReports (player.withTime pause elapsed) := rfl

theorem keepsReports_elapse (player : Player) (milliseconds : Float) :
    player.KeepsReports (player.elapse milliseconds) := rfl

theorem keepsReports_typePending (player : Player) : player.KeepsReports player.typePending := by
  obtain ⟨typed, -, events⟩ :=
    exists_typed_typeWhileTime player.settings.charInterval _ player rfl
  unfold KeepsReports
  rw [reports_eq, reports_eq]
  unfold typePending
  rw [events, List.filterMap_append, List.filterMap_map]
  simp [Function.comp_def, Event.report?]

theorem keepsReports_of_effect {builtin : Builtin} {player later : Player}
    (effect : Builtin.Effect Controls.stuck player builtin later) : player.KeepsReports later := by
  cases effect with
  | instant | flushing | finish => rfl
  | clear => exact (player.reports_emit .clear).trans (List.append_nil _)
  | speed taken =>
    rw [eq_of_setSpeed taken]
    rfl
  | pause taken =>
    rw [eq_of_pause taken]
    rfl
  | goto loaded =>
    obtain ⟨scene, -, rfl⟩ := Option.map_eq_some_iff.mp loaded
    rfl
  | skip skipped => cases skipped
  | flush continued => cases continued

/-- Answering the host puts no error out. -/
theorem keepsReports_fulfil (request : Request) (player : Player) :
    Ends False (fun outcome : Answer × Player => player.KeepsReports outcome.2)
      (request.fulfil Controls.stuck player) := by
  have unchanged : player.KeepsReports player := rfl
  cases request with
  | advance | confirm | continueBeat | skipBeat => exact not_false
  | loadScene name =>
    exact Request.ends_fulfil_loadScene unchanged fun later loaded =>
      keepsReports_of_effect (.goto loaded)
  | clearOutput => exact keepsReports_of_effect .clear
  | setSpeed charsPerSecond => exact Request.ends_fulfil_setSpeed unchanged fun _ => unchanged
  | pause milliseconds => exact Request.ends_fulfil_pause unchanged unchanged
  | _ => exact unchanged

/-! ### Using a value -/

/-- What is done with the value of an expression. -/
inductive Use where
  | drop
  | render (atOnce : Bool)

/-- Uses the value of an expression that was evaluated during a visit; a failed one has none. -/
def use (use : Use) (epoch : Nat) (value? : Option Value) (player : Player) : Player :=
  match use with
  | .drop => player
  | .render atOnce => player.renderValue epoch atOnce value?

/-- A player after an evaluation, with the value: an error is put out, and there is no value. -/
def conclude (result : Except EvalError Value) (player : Player) : Option Value × Player :=
  match result with
  | .ok value => (some value, player)
  | .error error => (none, player.emit (.error error.message))

theorem evaluate_eq_map_conclude (registry : Registry Player) (expression : Expr)
    (player : Player) : player.evaluate registry expression =
      (expression.eval registry player).map fun outcome => outcome.2.conclude outcome.1 := by
  unfold evaluate
  rcases expression.eval registry player with _ | ⟨error | value, later⟩ <;> rfl

/-- Nothing is done where there is no value. -/
theorem use_none (use : Use) (epoch : Nat) (player : Player) :
    player.use use epoch none = player := by
  cases use <;> rfl

theorem keepsReports_use (use : Use) (epoch : Nat) (value? : Option Value) (player : Player) :
    player.KeepsReports (player.use use epoch value?) := by
  cases use with
  | drop => rfl
  | render atOnce => exact player.keepsReports_renderValue epoch atOnce value?

end Player

end Playscript
