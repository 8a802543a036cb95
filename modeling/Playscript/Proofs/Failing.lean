/-
This file shows that a failure changes nothing by itself. A built-in operation that fails leaves the
player as it was. An expression that fails keeps the effects it has had until then; its error is put
out once, nothing is shown for it, and the play goes on from there.

All this is read off the recording of a run, in which whatever is evaluated is noted when it begins
and when it ends.
-/

import Playscript.Proofs.Accounts

namespace Playscript

/-- The recording of a run in which calls are nested up to a depth below those of the host. -/
def Recording.ofRun (depth : Nat) (requests : List Request) (player : Player) : Recording :=
  fulfilAll depth requests ⟨player, [], []⟩

/-- A built-in operation that returns gives null, or a message for a misuse of it; in this case the
player is as it was. A run leaves the player that its recording comes to, and has ended every
evaluation that it has begun. The errors that it puts out are those of the evaluations that fail, in
order and each of them once, and from a failed expression the play goes on with the player to which
its effects have led, and its error. -/
theorem failures_only_report :
    (∀ (controls : Controls) (builtin : Builtin) (arguments : List Value) (player : Player) result
        later, builtin.operation controls arguments player = some (result, later) →
      result = .ok .null ∨ ∃ misuse : Misuse, result = .error misuse.message ∧ later = player) ∧
    ∀ (depth : Nat) (requests : List Request) (player : Player) answers later,
      Request.fulfilAll (Controls.builtin (depth + 1)) requests player = some (answers, later) →
      (Recording.ofRun depth requests player).player = later ∧
        (Recording.ofRun depth requests player).record.Perm
          ((Recording.ofRun depth requests player).trials.map Trial.evaluation) ∧
        later.reports = player.reports ++
          (Recording.ofRun depth requests player).trials.filterMap Trial.report? ∧
        ∀ trial ∈ (Recording.ofRun depth requests player).trials, (∃ level, trial.Runs level) ∧
          ∀ error, trial.result = .error error →
            trial.after = trial.completed.emit (.error error.message) := by
  refine ⟨fun controls builtin arguments player result later returned => ?_,
    fun depth requests player answers later run => ?_⟩
  · rcases Builtin.operation_cases returned with misused | ⟨null, -⟩
    · exact Or.inr misused
    · exact Or.inl null
  · have comes := Recording.comesTo_fulfilAll depth requests (Recording.Accounts.start player)
    rw [run] at comes
    obtain ⟨rfl, accounts⟩ := comes
    have ended := accounts.ended
    rw [List.append_nil] at ended
    refine ⟨rfl, ended, accounts.reports, fun trial member => ?_⟩
    obtain ⟨runs, settles⟩ := accounts.settled trial member
    exact ⟨runs, settles.failed⟩

/-- An expression shows the rest of its beat and then fails: the text behind it has appeared before
its error is put out. The expression that was put off fails when the beat is finished. A misused
operation changes nothing. -/
theorem failures_only_report_behind_text :
    ∃ (player later : Player),
      player = Player.start ⟨[⟨"main", [[.instantExpr (.list [.assign "x" (.literal (.int 1)),
        .call "flush" [], .reference "y"]), .text "a", .deferredExpr (.reference "z")]]⟩]⟩ {} ∧
      (∃ misuse : Misuse, Builtin.clear.operation (Controls.builtin 2) [.int 1] player =
        some (.error misuse.message, player)) ∧
      Request.fulfilAll (Controls.builtin 2) [.continueBeat, .confirm] player =
        some ([.nothing, .nothing], later) ∧
      (Recording.ofRun 1 [.continueBeat, .confirm] player).player = later ∧
      later.events = #[.text "a", .error "undefined variable 'y'", .error "undefined variable 'z'",
        .clear] ∧
      (Recording.ofRun 1 [.continueBeat, .confirm] player).trials.filterMap Trial.report? =
        ["undefined variable 'y'", "undefined variable 'z'"] ∧
      ∃ trial ∈ (Recording.ofRun 1 [.continueBeat, .confirm] player).trials,
        trial.report? = some "undefined variable 'z'" ∧
          trial.after = trial.completed.emit (.error "undefined variable 'z'") := by
  obtain ⟨player, isStart⟩ : ∃ player, player = Player.start ⟨[⟨"main", [[.instantExpr
    (.list [.assign "x" (.literal (.int 1)), .call "flush" [], .reference "y"]),
      .text "a", .deferredExpr (.reference "z")]]⟩]⟩ {} := ⟨_, rfl⟩
  have shape : (((Controls.builtin 2).continueBeat player).bind fun middle =>
      ((Controls.builtin 2).confirm middle).map Player.events) =
        some #[.text "a", .error "undefined variable 'y'", .error "undefined variable 'z'",
          .clear] := by
    rw [isStart]
    decide +kernel
  obtain ⟨middle, continued, shape⟩ := Option.bind_eq_some_iff.mp shape
  obtain ⟨later, confirmed, events⟩ := Option.map_eq_some_iff.mp shape
  have run : Request.fulfilAll (Controls.builtin 2) [.continueBeat, .confirm] player =
      some ([.nothing, .nothing], later) := by
    simp only [Request.fulfilAll, Request.fulfil, continued, confirmed, Option.map_some]
  have called : Builtin.clear.operation (Controls.builtin 2) [.int 1] player =
      some (.error (Misuse.argumentCount 0 0 1).message, player) := rfl
  obtain ⟨misused, runs⟩ := failures_only_report
  obtain ⟨recorded, -, reports, fails⟩ := runs 1 [.continueBeat, .confirm] player _ later run
  have before : player.reports = [] := by
    rw [isStart]
    rfl
  rw [before, List.nil_append, later.reports_eq, events] at reports
  have told : (Recording.ofRun 1 [.continueBeat, .confirm] player).trials.filterMap Trial.report? =
      ["undefined variable 'y'", "undefined variable 'z'"] := reports.symm
  obtain ⟨trial, member, reported⟩ := List.mem_filterMap.mp
    (told ▸ by decide : "undefined variable 'z'" ∈
      (Recording.ofRun 1 [.continueBeat, .confirm] player).trials.filterMap Trial.report?)
  refine ⟨player, later, isStart, ?_, run, recorded, events, told, trial, member, reported, ?_⟩
  · rcases misused _ _ _ _ _ _ called with null | ⟨misuse, same, -⟩
    · cases null
    · exact ⟨misuse, called.trans (by rw [same])⟩
  · have failed := (fails trial member).2
    unfold Trial.report? at reported
    split at reported
    · cases reported
    · rename_i error result
      rw [← Option.some.inj reported]
      exact failed error result

end Playscript
