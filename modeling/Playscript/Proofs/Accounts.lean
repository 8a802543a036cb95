/-
This file shows that keeping a record changes nothing, and that the record tells all. If a call
returns, the recorded player has come to the same place, every evaluation that was begun has ended,
and the errors that have come out are those of the trials, each of them in its turn.

The argument goes by the depth to which calls are nested: recorded calls that play as the calls of a
player make evaluations that do so, whatever evaluations are still going on around them.
-/

import Playscript.Proofs.Recording

namespace Playscript

/-- An operation does the same whatever the calls are, unless it is one that calls the player. -/
theorem Builtin.perform_of_no_call {builtin : Builtin} {arguments : List Value}
    (notSkip : ¬ (builtin = .skip ∧ arguments = []))
    (notFlush : ¬ (builtin = .flush ∧ arguments = [])) (controls controls' : Controls) :
    builtin.perform controls arguments = builtin.perform controls' arguments := by
  unfold Builtin.perform
  split <;> simp_all

/-! ### Settled trials -/

/-- What becomes of a trial. -/
structure Trial.Settles (trial : Trial) : Prop where
  /-- The error of a failed expression is put out, and nothing else is done. -/
  failed : ∀ error, trial.result = .error error →
    trial.after = trial.completed.emit (.error error.message)
  /-- Whatever is done with a value, no error is put out. -/
  succeeded : ∀ value, trial.result = .ok value → trial.completed.KeepsReports trial.after

namespace Trial

variable {trial : Trial}

/-- A trial puts out its own error, if it has one. -/
theorem Settles.reports_eq (settles : trial.Settles) :
    trial.after.reports = trial.completed.reports ++ trial.report?.toList := by
  unfold report?
  cases result : trial.result with
  | error error =>
    rw [settles.failed error result]
    exact trial.completed.reports_emit (.error error.message)
  | ok value => exact (settles.succeeded value result).trans (List.append_nil _).symm

theorem settles_of_use (use : Player.Use) (epoch : Nat)
    (used : trial.after = (trial.completed.conclude trial.result).2.use use epoch
      (trial.completed.conclude trial.result).1) : trial.Settles := by
  constructor
  · intro error failed
    rw [used, failed]
    exact Player.use_none use epoch _
  · intro value succeeded
    rw [used, succeeded]
    exact trial.completed.keepsReports_use use epoch (some value)

end Trial

namespace Recording

/-! ### Accounts -/

/-- The accounts of a recording are right: the errors that have come out since the beginning are
those of its trials, each of them in its turn, the trials have run and are settled, and what was
begun and is not going on any more has ended. -/
structure Accounts (initial : List String) (ongoing : List Evaluation) (recording : Recording) :
    Prop where
  reports : recording.player.reports = initial ++ recording.trials.filterMap Trial.report?
  settled : ∀ trial ∈ recording.trials, (∃ depth, trial.Runs depth) ∧ trial.Settles
  ended : recording.record.Perm (recording.trials.map Trial.evaluation ++ ongoing)

namespace Accounts

variable {initial : List String} {ongoing : List Evaluation} {recording : Recording}

theorem start (player : Player) : Accounts player.reports [] ⟨player, [], []⟩ where
  reports := (List.append_nil _).symm
  settled := List.forall_mem_nil _
  ended := .nil

theorem withPlayer (accounts : recording.Accounts initial ongoing) {later : Player}
    (keeps : recording.player.KeepsReports later) :
    Accounts initial ongoing { recording with player := later } :=
  ⟨Eq.trans keeps accounts.reports, accounts.settled, accounts.ended⟩

theorem note (accounts : recording.Accounts initial ongoing) (evaluation : Evaluation) :
    (recording.note evaluation).Accounts initial (evaluation :: ongoing) where
  reports := accounts.reports
  settled := accounts.settled
  ended := (List.perm_append_singleton evaluation recording.record).trans
    ((accounts.ended.cons evaluation).trans List.perm_middle.symm)

theorem settle {trial : Trial} (accounts : recording.Accounts initial (trial.evaluation :: ongoing))
    (completed : trial.completed = recording.player) (runs : ∃ depth, trial.Runs depth)
    (settles : trial.Settles) : (recording.settle trial).Accounts initial ongoing where
  reports := by
    have own : [trial].filterMap Trial.report? = trial.report?.toList := by
      rw [List.filterMap_cons]
      cases trial.report? <;> rfl
    show trial.after.reports = initial ++ (recording.trials ++ [trial]).filterMap Trial.report?
    rw [settles.reports_eq, completed, accounts.reports, List.filterMap_append, own,
      List.append_assoc]
  settled := List.forall_mem_append.mpr
    ⟨accounts.settled, List.forall_mem_singleton.mpr ⟨runs, settles⟩⟩
  ended := by
    show recording.record.Perm ((recording.trials ++ [trial]).map Trial.evaluation ++ ongoing)
    rw [List.map_append, List.append_assoc]
    exact accounts.ended

end Accounts

/-! ### Recording changes nothing -/

/-- A recording has come to the player that a call gives, if the call returns, and its accounts are
right. -/
def ComesTo (initial : List String) (ongoing : List Evaluation) (recording : Recording)
    (player? : Option Player) : Prop :=
  Ends False (fun player => recording.player = player ∧ recording.Accounts initial ongoing) player?

namespace ComesTo

variable {initial : List String} {ongoing : List Evaluation} {recording later : Recording}
  {player? : Option Player}

theorem of_accounts (accounts : recording.Accounts initial ongoing) :
    recording.ComesTo initial ongoing (some recording.player) := ⟨rfl, accounts⟩

theorem update (comes : recording.ComesTo initial ongoing player?) {change : Player → Player}
    (keeps : ∀ player : Player, player.KeepsReports (change player)) :
    (recording.update change).ComesTo initial ongoing (player?.map change) :=
  comes.map fun _ same => ⟨congrArg change same.1, same.2.withPlayer (keeps recording.player)⟩

theorem bind {next : Player → Option Player} (comes : recording.ComesTo initial ongoing player?)
    (further : recording.Accounts initial ongoing →
      later.ComesTo initial ongoing (next recording.player)) :
    later.ComesTo initial ongoing (player?.bind next) := by
  cases player? with
  | none => exact not_false
  | some player =>
    obtain ⟨rfl, accounts⟩ := comes
    exact further accounts

end ComesTo

/-- Recorded calls that play as the calls of a player do, whatever they are made from. -/
structure Calls.Play (calls : Calls) (controls : Controls) : Prop where
  skipBeat : ∀ {initial : List String} {ongoing : List Evaluation} {recording : Recording},
    recording.Accounts initial ongoing →
      (calls.skipBeat recording).ComesTo initial ongoing (controls.skipBeat recording.player)
  continueBeat : ∀ {initial : List String} {ongoing : List Evaluation} {recording : Recording},
    recording.Accounts initial ongoing →
      (calls.continueBeat recording).ComesTo initial ongoing
        (controls.continueBeat recording.player)

section Erasing

variable {calls : Calls} {depth : Nat} (play : calls.Play (Controls.builtin depth))
  {initial : List String} {ongoing : List Evaluation}

include play

theorem matches_perform (builtin : Builtin) (arguments : List Value) {recording : Recording}
    (accounts : recording.Accounts initial ongoing) :
    Matches False
      (SameResult fun player recording =>
        recording.player = player ∧ recording.Accounts initial ongoing)
      (builtin.perform (Controls.builtin depth) arguments recording.player)
      (perform calls builtin arguments recording) := by
  have called {player? : Option Player} {later : Recording}
      (comes : later.ComesTo initial ongoing player?) :
      Matches False
        (SameResult fun player recording =>
          recording.player = player ∧ recording.Accounts initial ongoing)
        (player?.map fun player => ((.ok () : Except Misuse Unit), player))
        (some ((.ok () : Except Misuse Unit), later)) := by
    cases player? with
    | none => exact not_false
    | some player => exact ⟨rfl, comes⟩
  unfold perform
  split
  · rename_i skips
    obtain ⟨rfl, rfl⟩ := skips
    exact called (play.skipBeat accounts)
  split
  · rename_i flushes
    obtain ⟨rfl, rfl⟩ := flushes
    exact called (play.continueBeat accounts)
  · rename_i notSkip notFlush
    rw [Builtin.perform_of_no_call notSkip notFlush (Controls.builtin depth) Controls.stuck]
    have performs : Builtin.FailsOrDoes False
        (fun player => Builtin.Effect Controls.stuck player builtin)
        (builtin.perform Controls.stuck arguments) :=
      Builtin.failsOrDoes_perform Controls.stuck False.elim arguments
    cases performed : builtin.perform Controls.stuck arguments recording.player with
    | none => exact not_false
    | some outcome =>
      refine ⟨rfl, rfl, accounts.withPlayer ?_⟩
      rcases (performs recording.player).of_some performed with ⟨-, -, same⟩ | ⟨-, effect⟩
      · exact congrArg Player.reports same
      · exact Player.keepsReports_of_effect effect

theorem keptByCalls_player :
    KeptByCalls False (fun _ => True)
      (fun player recording => recording.player = player ∧ recording.Accounts initial ongoing)
      (Builtin.registry (Controls.builtin depth)) (registry calls) where
  scope := by
    rintro _ recording ⟨rfl, -⟩
    rfl
  assignment := by
    rintro _ recording scope ⟨rfl, accounts⟩
    exact ⟨rfl, accounts.withPlayer rfl⟩
  operations _ _ := by
    refine Builtin.rel_foldl_insert Builtin.all fun builtin _ arguments player recording same => ?_
    obtain ⟨rfl, accounts⟩ := same
    refine Action.matches_mapError _ ?_
    refine Action.matches_bind (matches_perform play builtin arguments accounts) ?_
    intro result later later' holds
    exact ⟨rfl, holds⟩

/-- An evaluation that returns comes to the same as without a record, and is settled. -/
theorem comesTo_evaluate (level : Nat) (occasion : Occasion) (expression : Expr)
    (use : Player.Use) {recording : Recording} (accounts : recording.Accounts initial ongoing) :
    (recording.evaluate calls level occasion expression use).ComesTo initial ongoing
      ((recording.player.evaluate (Builtin.registry (Controls.builtin depth)) expression).map
        fun outcome => outcome.2.use use recording.player.epoch outcome.1) := by
  have noted := accounts.note ⟨level, occasion, expression⟩
  have compared := Expr.eval_matches (keptByCalls_player play) expression (fun _ _ => trivial)
    (⟨rfl, noted⟩ : (recording.note ⟨level, occasion, expression⟩).player = recording.player ∧ _)
  rw [Player.evaluate_eq_map_conclude, Option.map_map]
  unfold evaluate
  cases ended : expression.eval (Builtin.registry (Controls.builtin depth)) recording.player with
  | none => exact not_false
  | some outcome =>
    obtain ⟨result, completed⟩ := outcome
    obtain ⟨⟨result', later⟩, ended', same, rfl, going⟩ := compared.of_some ended
    obtain rfl : result = result' := same
    dsimp only
    rw [ended']
    exact ⟨rfl, going.settle rfl ⟨depth, ended⟩ (Trial.settles_of_use use _ rfl)⟩

theorem comesTo_playNode (level : Nat) (flushing : Bool) (node : Node Expr)
    {recording : Recording} (accounts : recording.Accounts initial ongoing) :
    (recording.playNode calls level flushing node).ComesTo initial ongoing
      (recording.player.playNode (Builtin.registry (Controls.builtin depth)) flushing node) := by
  have shown (atOnce : Bool) (text : String) :
      (recording.update fun player => player.render atOnce text).ComesTo initial ongoing
        (some (recording.player.render atOnce text)) :=
    (ComesTo.of_accounts accounts).update fun player => player.keepsReports_render atOnce text
  cases node with
  | text content => exact shown (recording.player.instant || flushing) content
  | instantString content => exact shown true content
  | typewriterString content => exact shown flushing content
  | deferredExpr expression =>
    exact (ComesTo.of_accounts accounts).update fun _ => rfl
  | inlineExpr expression => exact comesTo_evaluate play level _ expression .drop accounts
  | instantExpr expression =>
    exact comesTo_evaluate play level _ expression (.render true) accounts
  | typewriterExpr expression =>
    exact comesTo_evaluate play level _ expression (.render flushing) accounts

theorem comesTo_loadNode (level : Nat) (flushing : Bool) {recording : Recording}
    (accounts : recording.Accounts initial ongoing) :
    (recording.loadNode calls level flushing).ComesTo initial ongoing
      (recording.player.loadNode (Builtin.registry (Controls.builtin depth)) flushing) := by
  unfold loadNode Player.loadNode
  cases recording.player.node? with
  | none => exact (ComesTo.of_accounts accounts).update fun _ => rfl
  | some node =>
    have passed : (recording.update Player.passNode).Accounts initial ongoing :=
      accounts.withPlayer rfl
    exact comesTo_playNode play level flushing node passed

theorem comesTo_flushNodes (level epoch rounds : Nat) {recording : Recording}
    (accounts : recording.Accounts initial ongoing) :
    (flushNodes calls level epoch rounds recording).ComesTo initial ongoing
      (Player.flushNodes (Builtin.registry (Controls.builtin depth)) epoch rounds
        recording.player) := by
  induction rounds generalizing recording with
  | zero =>
    unfold Player.flushNodes
    split
    · exact not_false
    · exact .of_accounts accounts
  | succ rounds inductionHypothesis =>
    unfold Player.flushNodes flushNodes
    split
    · exact (comesTo_loadNode play level true accounts).bind inductionHypothesis
    · exact .of_accounts accounts

theorem comesTo_continueBeat (level : Nat) {recording : Recording}
    (accounts : recording.Accounts initial ongoing) :
    (recording.continueBeat calls level).ComesTo initial ongoing
      (recording.player.continueBeat (Builtin.registry (Controls.builtin depth))) := by
  have shown : (recording.update Player.showPending).Accounts initial ongoing :=
    accounts.withPlayer recording.player.keepsReports_showPending
  unfold continueBeat Player.continueBeat
  dsimp only
  split
  · exact (comesTo_flushNodes play level _ _ shown).update fun player =>
      player.keepsReports_dropTime _
  · exact .of_accounts accounts

theorem comesTo_fireAll (level : Nat) (expressions : List Expr) {recording : Recording}
    (accounts : recording.Accounts initial ongoing) :
    (fireAll calls level expressions recording).ComesTo initial ongoing
      (Player.evaluateAll (Builtin.registry (Controls.builtin depth)) expressions
        recording.player) := by
  induction expressions generalizing recording with
  | nil => exact .of_accounts accounts
  | cons expression rest inductionHypothesis =>
    have fired := (comesTo_evaluate play level .fired expression .drop accounts).bind
      inductionHypothesis
    rw [Option.bind_map] at fired
    exact fired

theorem comesTo_finishBeat (level : Nat) {recording : Recording}
    (accounts : recording.Accounts initial ongoing) :
    (recording.finishBeat calls level).ComesTo initial ongoing
      (recording.player.finishBeat (Builtin.registry (Controls.builtin depth))) := by
  have taken : (recording.update fun player => player.takeDeferred.2).Accounts initial ongoing :=
    accounts.withPlayer rfl
  refine (comesTo_fireAll play level _ taken).update fun player => ?_
  have wiped : player.KeepsReports player.clearOutput := Player.keepsReports_of_effect .clear
  dsimp only
  split
  · exact wiped
  · exact wiped

theorem comesTo_confirm (level : Nat) {recording : Recording}
    (accounts : recording.Accounts initial ongoing) :
    (recording.confirm calls level).ComesTo initial ongoing
      (recording.player.confirm (Builtin.registry (Controls.builtin depth))) := by
  unfold confirm Player.confirm
  cases recording.player.status with
  | emitting =>
    dsimp only
    split
    · exact comesTo_continueBeat play level accounts
    · exact .of_accounts accounts
  | waiting => exact comesTo_finishBeat play level accounts
  | done => exact .of_accounts accounts

theorem comesTo_skipBeat (level : Nat) {recording : Recording}
    (accounts : recording.Accounts initial ongoing) :
    (recording.skipBeat calls level).ComesTo initial ongoing
      (recording.player.skipBeat (Builtin.registry (Controls.builtin depth))) := by
  unfold skipBeat Player.skipBeat
  refine (comesTo_continueBeat play level accounts).bind fun continued => ?_
  dsimp only
  split
  · exact comesTo_finishBeat play level continued
  · exact .of_accounts continued

theorem comesTo_playFrame (level epoch rounds : Nat) {recording : Recording}
    (accounts : recording.Accounts initial ongoing) :
    (playFrame calls level epoch rounds recording).ComesTo initial ongoing
      (Player.playFrame (Builtin.registry (Controls.builtin depth)) epoch rounds
        recording.player) := by
  have typed {recording : Recording} (accounts : recording.Accounts initial ongoing) :
      (recording.update Player.typePending).Accounts initial ongoing :=
    accounts.withPlayer recording.player.keepsReports_typePending
  induction rounds generalizing recording with
  | zero =>
    unfold playFrame Player.playFrame
    split
    · show ComesTo initial ongoing
        (if recording.player.typePending.visit.typing.pending = [] then _ else _) _
      dsimp only
      split
      · exact not_false
      · exact .of_accounts (typed accounts)
    · exact .of_accounts accounts
  | succ rounds inductionHypothesis =>
    unfold playFrame Player.playFrame
    split
    · show ComesTo initial ongoing
        (if recording.player.typePending.visit.typing.pending = [] then _ else _) _
      dsimp only
      split
      · exact (comesTo_loadNode play level false (typed accounts)).bind inductionHypothesis
      · exact .of_accounts (typed accounts)
    · exact .of_accounts accounts

theorem comesTo_advance (level : Nat) (milliseconds : Float) {recording : Recording}
    (accounts : recording.Accounts initial ongoing) :
    (recording.advance calls level milliseconds).ComesTo initial ongoing
      (recording.player.advance (Builtin.registry (Controls.builtin depth)) milliseconds) := by
  have timed (change : Player → Player)
      (keeps : recording.player.KeepsReports (change recording.player)) :
      (recording.update change).Accounts initial ongoing := accounts.withPlayer keeps
  unfold advance Player.advance
  generalize (if milliseconds.isFinite && 0 < milliseconds then milliseconds else 0) = time
  dsimp only
  split
  · split
    · split
      · exact .of_accounts (timed _ (recording.player.keepsReports_withTime _ _))
      · exact comesTo_playFrame play level _ _
          (timed _ (recording.player.keepsReports_withTime _ _))
    · exact comesTo_playFrame play level _ _ (timed _ (recording.player.keepsReports_elapse time))
  · exact .of_accounts accounts

end Erasing

theorem play_calls (depth level : Nat) : (calls depth level).Play (Controls.builtin depth) := by
  induction depth generalizing level with
  | zero => exact ⟨fun _ => not_false, fun _ => not_false⟩
  | succ depth inductionHypothesis =>
    exact ⟨comesTo_skipBeat (inductionHypothesis (level + 1)) level,
      comesTo_continueBeat (inductionHypothesis (level + 1)) level⟩

/-- A request that returns leaves the player that its recording has come to. -/
theorem comesTo_fulfil (depth : Nat) (request : Request) {initial : List String}
    {recording : Recording} (accounts : recording.Accounts initial []) :
    (recording.fulfil depth request).ComesTo initial []
      ((request.fulfil (Controls.builtin (depth + 1)) recording.player).map Prod.snd) := by
  have returned {player? : Option Player} {answer : Player → Answer}
      (comes : (recording.fulfil depth request).ComesTo initial [] player?) :
      (recording.fulfil depth request).ComesTo initial []
        ((player?.map fun later => (answer later, later)).map Prod.snd) := by
    cases player? with
    | none => exact not_false
    | some later => exact comes
  have answered (other : Request) (alone : other.fulfil (Controls.builtin (depth + 1))
        recording.player = other.fulfil Controls.stuck recording.player) :
      (recording.update fun player =>
        ((other.fulfil Controls.stuck player).map Prod.snd).getD player).ComesTo initial []
          ((other.fulfil (Controls.builtin (depth + 1)) recording.player).map Prod.snd) := by
    have keeps := Player.keepsReports_fulfil other recording.player
    rw [alone]
    unfold update
    dsimp only
    cases fulfilled : other.fulfil Controls.stuck recording.player with
    | none => exact not_false
    | some outcome =>
      have kept := keeps.of_some fulfilled
      exact ⟨rfl, accounts.withPlayer kept⟩
  cases request with
  | advance milliseconds =>
    exact returned (comesTo_advance (play_calls depth 1) 0 milliseconds accounts)
  | confirm => exact returned (comesTo_confirm (play_calls depth 1) 0 accounts)
  | continueBeat => exact returned (comesTo_continueBeat (play_calls depth 1) 0 accounts)
  | skipBeat => exact returned (comesTo_skipBeat (play_calls depth 1) 0 accounts)
  | loadScene name => exact answered (.loadScene name) rfl
  | endScene => exact answered .endScene rfl
  | clearOutput => exact answered .clearOutput rfl
  | setInstant instant => exact answered (.setInstant instant) rfl
  | setConfirmFlushes flushes => exact answered (.setConfirmFlushes flushes) rfl
  | setSpeed charsPerSecond => exact answered (.setSpeed charsPerSecond) rfl
  | pause milliseconds => exact answered (.pause milliseconds) rfl
  | setVariable name value => exact answered (.setVariable name value) rfl
  | removeVariable name => exact answered (.removeVariable name) rfl
  | isDone => exact answered .isDone rfl

/-- A run that returns leaves the player that its recording has come to. -/
theorem comesTo_fulfilAll (depth : Nat) (requests : List Request) {initial : List String}
    {recording : Recording} (accounts : recording.Accounts initial []) :
    (fulfilAll depth requests recording).ComesTo initial []
      ((Request.fulfilAll (Controls.builtin (depth + 1)) requests recording.player).map
        Prod.snd) := by
  induction requests generalizing recording with
  | nil => exact .of_accounts accounts
  | cons request rest inductionHypothesis =>
    have first := comesTo_fulfil depth request accounts
    unfold Request.fulfilAll
    cases fulfilled : request.fulfil (Controls.builtin (depth + 1)) recording.player with
    | none => exact not_false
    | some outcome =>
      rw [fulfilled] at first
      obtain ⟨same, going⟩ := first
      have further := inductionHypothesis going
      rw [same] at further
      dsimp only
      rw [Option.map_map]
      exact further

end Recording

end Playscript
