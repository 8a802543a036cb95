/-
This file keeps a record of what is evaluated. A recorded player plays as any player does, and
before an expression is evaluated it is noted: the expression itself, the node with which it is
played or that it is fired when its beat is finished, and how deeply the call is nested that
evaluates it. The host makes the calls at level zero, and those that expressions make are one level
further down. When an evaluation has ended, what has come of it is noted as well, so the trials of a
record stand in the order in which they end.

A record is kept whether or not the play returns. Where calls are nested more deeply than allowed
they are left out, so each depth gives a record of its own.
-/

import Playscript.Proofs.Errors

namespace Playscript

/-! ### Records -/

/-- On which occasion an expression is evaluated: with its node, or from the queue of its beat. -/
inductive Occasion where
  | played (node : Node Expr)
  | fired

/-- One evaluation of an expression. -/
structure Evaluation where
  /-- How deeply the call is nested that evaluates the expression. -/
  level : Nat
  occasion : Occasion
  expression : Expr

/-- What has come of an evaluation. -/
structure Trial where
  evaluation : Evaluation
  /-- The player that evaluates the expression. -/
  before : Player
  result : Except EvalError Value
  /-- The player with all the effects that the evaluation has had. -/
  completed : Player
  /-- The player from which the play goes on. -/
  after : Player

namespace Trial

/-- The message of the error with which a trial ends. -/
def report? (trial : Trial) : Option String :=
  match trial.result with
  | .ok _ => none
  | .error error => some error.message

/-- A trial has ended as the evaluation does in which calls are nested up to a depth. -/
def Runs (depth : Nat) (trial : Trial) : Prop :=
  trial.evaluation.expression.eval (Builtin.registry (Controls.builtin depth)) trial.before =
    some (trial.result, trial.completed)

end Trial

/-- A player, and all that it has evaluated. -/
structure Recording where
  player : Player
  /-- The evaluations that have begun. -/
  record : List Evaluation := []
  /-- The evaluations that have ended. -/
  trials : List Trial := []

instance : HasScope Recording where
  scope recording := recording.player.scope
  withScope recording scope :=
    { recording with player := HasScope.withScope recording.player scope }

namespace Recording

/-- Changes the player. -/
def update (recording : Recording) (change : Player → Player) : Recording :=
  { recording with player := change recording.player }

/-- Notes an evaluation that begins. -/
def note (recording : Recording) (evaluation : Evaluation) : Recording :=
  { recording with record := recording.record ++ [evaluation] }

/-- Notes an evaluation that has ended, and goes on from there. -/
def settle (recording : Recording) (trial : Trial) : Recording :=
  { recording with player := trial.after, trials := recording.trials ++ [trial] }

/-! ### Operations -/

/-- The calls that operations make to a recorded player. -/
structure Calls where
  skipBeat : Recording → Recording
  continueBeat : Recording → Recording

/-- What an operation does to a recorded player. Two operations call the player again. -/
def perform (calls : Calls) (builtin : Builtin) (arguments : List Value) :
    Action Recording Misuse Unit := fun recording =>
  if builtin = .skip ∧ arguments = [] then some (.ok (), calls.skipBeat recording)
  else if builtin = .flush ∧ arguments = [] then some (.ok (), calls.continueBeat recording)
  else
    (builtin.perform Controls.stuck arguments recording.player).map fun (result, later) =>
      (result, { recording with player := later })

/-- An operation as expressions call it. -/
def operation (calls : Calls) (builtin : Builtin) : Operation Recording := fun arguments =>
  ((do perform calls builtin arguments; pure .null) : Action Recording Misuse Value).mapError
    Misuse.message

/-- The built-in operations under their names. -/
def registry (calls : Calls) : Registry Recording :=
  Builtin.all.foldl (fun table builtin => table.insert builtin.name (operation calls builtin))
    Table.empty

/-! ### Playing -/

section Playing

variable (calls : Calls) (level : Nat)

/-- Notes an expression, evaluates it and uses its value. -/
def evaluate (occasion : Occasion) (expression : Expr) (use : Player.Use) (recording : Recording) :
    Recording :=
  let evaluation : Evaluation := ⟨level, occasion, expression⟩
  let noted := recording.note evaluation
  match expression.eval (registry calls) noted with
  | none => noted
  | some (result, later) =>
    let (value?, concluded) := later.player.conclude result
    let after := concluded.use use recording.player.epoch value?
    later.settle ⟨evaluation, recording.player, result, later.player, after⟩

/-- Plays a node that the player has just gone past. -/
def playNode (flushing : Bool) (node : Node Expr) (recording : Recording) : Recording :=
  match node with
  | .text content =>
    recording.update fun player => player.render (player.instant || flushing) content
  | .instantString content => recording.update fun player => player.render true content
  | .typewriterString content => recording.update fun player => player.render flushing content
  | .inlineExpr expression => recording.evaluate calls level (.played node) expression .drop
  | .deferredExpr expression => recording.update fun player => player.defer expression
  | .instantExpr expression =>
    recording.evaluate calls level (.played node) expression (.render true)
  | .typewriterExpr expression =>
    recording.evaluate calls level (.played node) expression (.render flushing)

/-- Plays the next node. -/
def loadNode (flushing : Bool) (recording : Recording) : Recording :=
  match recording.player.node? with
  | none => recording.update fun player => { player with status := .waiting }
  | some node => (recording.update Player.passNode).playNode calls level flushing node

/-- Plays nodes at once until the visit is over or the beat has been played to its end. -/
def flushNodes (epoch : Nat) : Nat → Recording → Recording
  | 0, recording => recording
  | rounds + 1, recording =>
    if recording.player.status = .emitting ∧ recording.player.epoch = epoch then
      flushNodes epoch rounds (recording.loadNode calls level true)
    else recording

/-- Shows the rest of a beat at once. -/
def continueBeat (recording : Recording) : Recording :=
  let player := recording.player
  if player.status = .emitting then
    (flushNodes calls level player.epoch player.rounds (recording.update Player.showPending)).update
      (Player.dropTime player.epoch)
  else recording

/-- Evaluates the expressions of a queue, one after the other. -/
def fireAll : List Expr → Recording → Recording
  | [], recording => recording
  | expression :: rest, recording =>
    fireAll rest (recording.evaluate calls level .fired expression .drop)

/-- Evaluates the deferred expressions, wipes the display, and goes to the next beat unless an
expression has already moved the player. -/
def finishBeat (recording : Recording) : Recording :=
  let deferred := recording.player.visit.deferred
  let fired := fireAll calls level deferred (recording.update fun player => player.takeDeferred.2)
  fired.update fun player =>
    let wiped := player.clearOutput
    if wiped.status = .waiting then wiped.enterBeat (wiped.beat + 1) else wiped

/-- Takes a confirmation. -/
def confirm (recording : Recording) : Recording :=
  match recording.player.status with
  | .emitting =>
    if recording.player.settings.confirmFlushes then recording.continueBeat calls level
    else recording
  | .waiting => recording.finishBeat calls level
  | .done => recording

/-- Shows the rest of a beat and finishes it. -/
def skipBeat (recording : Recording) : Recording :=
  let later := recording.continueBeat calls level
  if later.player.status = .waiting then later.finishBeat calls level else later

/-- Types and plays nodes until the time is used up, or the visit or the beat is over, or a pause
begins. -/
def playFrame (epoch : Nat) : Nat → Recording → Recording
  | rounds, recording =>
    if recording.player.status = .emitting ∧ recording.player.visit.pause ≤ 0 ∧
        recording.player.epoch = epoch then
      let typed := recording.update Player.typePending
      if typed.player.visit.typing.pending = [] then
        match rounds with
        | 0 => typed
        | rounds + 1 => playFrame epoch rounds (typed.loadNode calls level false)
      else typed
    else recording

/-- Lets time pass. -/
def advance (milliseconds : Float) (recording : Recording) : Recording :=
  let player := recording.player
  if player.status = .emitting then
    let time := if milliseconds.isFinite && 0 < milliseconds then milliseconds else 0
    let pause := player.visit.pause
    if 0 < pause then
      if time < pause then
        recording.update fun player => player.withTime (pause - time) player.visit.elapsed
      else
        playFrame calls level player.epoch player.rounds
          (recording.update fun player =>
            player.withTime 0 (player.visit.elapsed + (time - pause)))
    else
      playFrame calls level player.epoch player.rounds
        (recording.update fun player => player.elapse time)
  else recording

end Playing

/-! ### Requests -/

/-- The calls that are made at a level and nested up to a depth. Those that nest more deeply are
left out. -/
def calls : Nat → Nat → Calls
  | 0, _ => ⟨id, id⟩
  | depth + 1, level =>
    ⟨skipBeat (calls depth (level + 1)) level, continueBeat (calls depth (level + 1)) level⟩

/-- Fulfils a request of the host. -/
def fulfil (depth : Nat) (request : Request) (recording : Recording) : Recording :=
  match request with
  | .advance milliseconds => recording.advance (calls depth 1) 0 milliseconds
  | .confirm => recording.confirm (calls depth 1) 0
  | .continueBeat => recording.continueBeat (calls depth 1) 0
  | .skipBeat => recording.skipBeat (calls depth 1) 0
  | _ => recording.update fun player =>
    ((request.fulfil Controls.stuck player).map Prod.snd).getD player

/-- Fulfils requests, one after the other. -/
def fulfilAll (depth : Nat) (requests : List Request) (recording : Recording) : Recording :=
  requests.foldl (fun recording request => recording.fulfil depth request) recording

end Recording

end Playscript
