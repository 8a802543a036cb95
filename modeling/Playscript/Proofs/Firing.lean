/-
This file shows when deferred expressions are evaluated. A confirmation that finishes a beat
evaluates the deferred expressions of the beat, each once and in their order, whatever the earlier
ones have done to the player; besides them the host's call evaluates nothing. Unless a script skips
beats by itself, no request that leaves the beat open evaluates a deferred expression, however
deeply it nests its calls.

Both are read off what a call records. A call records evaluations of some kind only if each
expression that it evaluates is of the kind and the nested calls record nothing else.
-/

import Playscript.Proofs.Accounts
import Playscript.Proofs.Finishing
import Playscript.Proofs.Returning

namespace Playscript

/-- A player keeps its programme when a value is used. -/
theorem Player.programme_use_conclude (player : Player) (result : Except EvalError Value)
    (use : Player.Use) (epoch : Nat) :
    ((player.conclude result).2.use use epoch (player.conclude result).1).programme =
      player.programme := by
  have concluded : (player.conclude result).2.programme = player.programme := by
    cases result <;> rfl
  cases use with
  | drop => exact concluded
  | render atOnce => exact (Player.continues_renderValue _ _ _ _).programme.trans concluded

/-- An expression is evaluated together with the node in which it stands, which does not put it
off. -/
def Evaluation.IsPlayed (evaluation : Evaluation) : Prop :=
  ∃ node, evaluation.occasion = .played node ∧ node.expression? = some evaluation.expression ∧
    node.deferred? = none

namespace Recording

/-! ### What is recorded -/

/-- A recording goes on with evaluations of one kind, in the same programme. -/
structure Records (kind : Evaluation → Prop) (recording later : Recording) : Prop where
  programme : later.player.programme = recording.player.programme
  record : ∃ further, later.record = recording.record ++ further ∧
    ∀ evaluation ∈ further, kind evaluation

namespace Records

variable {kind kind' : Evaluation → Prop} {recording middle later : Recording}

theorem refl (recording : Recording) : recording.Records kind recording :=
  ⟨rfl, [], (List.append_nil _).symm, fun _ member => by cases member⟩

theorem trans (first : recording.Records kind middle) (second : middle.Records kind later) :
    recording.Records kind later := by
  obtain ⟨further, together, all⟩ := first.record
  obtain ⟨further', together', all'⟩ := second.record
  refine ⟨second.programme.trans first.programme, further ++ further', ?_, ?_⟩
  · rw [together', together, List.append_assoc]
  · intro evaluation member
    rcases List.mem_append.mp member with before | after
    · exact all evaluation before
    · exact all' evaluation after

theorem imp (records : recording.Records kind later)
    (weakens : ∀ evaluation, kind evaluation → kind' evaluation) :
    recording.Records kind' later := by
  obtain ⟨further, together, all⟩ := records.record
  exact ⟨records.programme, further, together, fun evaluation member =>
    weakens evaluation (all evaluation member)⟩

/-- Nothing is recorded where only the player changes. -/
theorem update (records : recording.Records kind later) (change : Player → Player)
    (programme : (change later.player).programme = later.player.programme) :
    recording.Records kind (later.update change) :=
  ⟨programme.trans records.programme, records.record⟩

theorem note (recording : Recording) {evaluation : Evaluation} (holds : kind evaluation) :
    recording.Records kind (recording.note evaluation) := by
  refine ⟨rfl, [evaluation], rfl, fun other member => ?_⟩
  rw [List.mem_singleton.mp member]
  exact holds

end Records

/-- Everything that the programme of a recording calls has a name of some kind. -/
def CallsOnly (named : String → Prop) (recording : Recording) : Prop :=
  ∀ name ∈ recording.player.programme.calls, named name

theorem CallsOnly.of_records {named : String → Prop} {kind : Evaluation → Prop}
    {recording later : Recording} (called : recording.CallsOnly named)
    (records : recording.Records kind later) : later.CallsOnly named := by
  unfold CallsOnly
  rw [records.programme]
  exact called

/-- Nested calls that record evaluations of one kind only, where they are made. -/
structure Calls.Record (kind : Evaluation → Prop) (named : String → Prop) (calls : Calls) :
    Prop where
  skipBeat : named Builtin.skip.name → ∀ recording : Recording, recording.CallsOnly named →
    recording.Records kind (calls.skipBeat recording)
  continueBeat : named Builtin.flush.name → ∀ recording : Recording, recording.CallsOnly named →
    recording.Records kind (calls.continueBeat recording)

/-! ### Evaluations -/

/-- An operation that makes no call leaves the programme as it is. -/
theorem programme_perform_stuck (builtin : Builtin) (arguments : List Value) (player : Player) :
    Ends False (fun outcome : Except Misuse Unit × Player =>
        outcome.2.programme = player.programme)
      (builtin.perform Controls.stuck arguments player) := by
  have compared := (Player.lastsThroughSteering_continues (Controls.forward_builtin 0)
    player).keptBySteering.matches_perform builtin trivial arguments ⟨rfl, .refl player⟩
  exact .of_matches compared fun outcome same => same.2.2.programme

section Recorded

variable {kind : Evaluation → Prop} {named : String → Prop} {calls : Calls}
  (record : calls.Record kind named)

include record

theorem records_perform {recording : Recording} (called : recording.CallsOnly named)
    (builtin : Builtin) (isNamed : named builtin.name) (arguments : List Value) :
    Ends False (fun outcome : Except Misuse Unit × Recording => recording.Records kind outcome.2)
      (perform calls builtin arguments recording) := by
  unfold perform
  split
  · rename_i skips
    exact record.skipBeat (skips.1 ▸ isNamed) recording called
  split
  · rename_i flushes
    exact record.continueBeat (flushes.1 ▸ isNamed) recording called
  · exact (programme_perform_stuck builtin arguments recording.player).map fun outcome same =>
      ⟨same, [], (List.append_nil _).symm, fun _ member => by cases member⟩

theorem records_operation {recording : Recording} (called : recording.CallsOnly named)
    (builtin : Builtin) (isNamed : named builtin.name) (arguments : List Value) :
    Ends False (fun outcome : Except String Value × Recording => recording.Records kind outcome.2)
      (operation calls builtin arguments recording) := by
  refine Action.ends_mapError Misuse.message ?_
  exact Action.ends_bind (records_perform record called builtin isNamed arguments)
    fun _ _ records => records

theorem records_eval {expression : Expr} (calledInside : ∀ name ∈ expression.calls, named name)
    {recording : Recording} (called : recording.CallsOnly named) :
    Ends False (fun outcome : Except EvalError Value × Recording =>
        recording.Records kind outcome.2)
      (expression.eval (registry calls) recording) := by
  refine expression.ends_eval (fun name operand _ later value records => ?_)
    (fun name _ operation member found arguments later records => ?_) (.refl recording)
  · exact ⟨records.programme, records.record⟩
  · obtain ⟨builtin, isName, rfl⟩ := Builtin.exists_of_get?_foldl_insert found
    have isNamed := isName ▸ calledInside name (Expr.mem_calls_of_mem_parts member)
    exact (records_operation record (called.of_records records) builtin isNamed arguments).imp
      fun _ further => records.trans further

/-- Whatever is evaluated besides the expression itself is of the kind. -/
theorem records_evaluate_note (level : Nat) (occasion : Occasion) {expression : Expr}
    (use : Player.Use) (calledInside : ∀ name ∈ expression.calls, named name)
    {recording : Recording} (called : recording.CallsOnly named) :
    (recording.note ⟨level, occasion, expression⟩).Records kind
      (recording.evaluate calls level occasion expression use) := by
  have evaluated := records_eval record calledInside
    (show (recording.note ⟨level, occasion, expression⟩).CallsOnly named from called)
  unfold evaluate
  dsimp only
  cases ended : expression.eval (registry calls) (recording.note ⟨level, occasion, expression⟩) with
  | none => exact .refl _
  | some outcome =>
    obtain ⟨result, later⟩ := outcome
    have records := evaluated.of_some ended
    exact ⟨(later.player.programme_use_conclude result use _).trans records.programme,
      records.record⟩

theorem records_evaluate {level : Nat} {occasion : Occasion} {expression : Expr}
    (use : Player.Use) (ofKind : kind ⟨level, occasion, expression⟩)
    (calledInside : ∀ name ∈ expression.calls, named name) {recording : Recording}
    (called : recording.CallsOnly named) :
    recording.Records kind (recording.evaluate calls level occasion expression use) :=
  (Records.note recording ofKind).trans
    (records_evaluate_note record level occasion use calledInside called)

/-! ### Playing -/

section Playing

variable {level : Nat}
  (plays : ∀ evaluation : Evaluation, evaluation.level = level → evaluation.IsPlayed →
    kind evaluation)

include plays

theorem records_playNode (flushing : Bool) {node : Node Expr}
    (calledInside : ∀ name ∈ node.calls, named name) {recording : Recording}
    (called : recording.CallsOnly named) :
    recording.Records kind (recording.playNode calls level flushing node) := by
  have shown (atOnce : Bool) (text : String) :
      recording.Records kind (recording.update fun player => player.render atOnce text) :=
    (Records.refl recording).update _ (Player.standsWith_render _ atOnce text).programme
  have evaluated (expression : Expr) (holds : node.expression? = some expression)
      (notDeferred : node.deferred? = none) (use : Player.Use) :
      recording.Records kind
        (recording.evaluate calls level (.played node) expression use) :=
    records_evaluate record use (plays _ rfl ⟨node, rfl, holds, notDeferred⟩)
      (fun name inside => calledInside name (Node.mem_calls_of_expression holds inside)) called
  cases node with
  | text content => exact shown (recording.player.instant || flushing) content
  | instantString content => exact shown true content
  | typewriterString content => exact shown flushing content
  | deferredExpr expression => exact ⟨rfl, (Records.refl recording).record⟩
  | inlineExpr expression => exact evaluated expression rfl rfl .drop
  | instantExpr expression => exact evaluated expression rfl rfl (.render true)
  | typewriterExpr expression => exact evaluated expression rfl rfl (.render flushing)

theorem records_loadNode (flushing : Bool) {recording : Recording}
    (called : recording.CallsOnly named) :
    recording.Records kind (recording.loadNode calls level flushing) := by
  unfold loadNode
  cases next : recording.player.node? with
  | none => exact (Records.refl recording).update _ rfl
  | some node =>
    have passed : recording.Records kind (recording.update Player.passNode) :=
      (Records.refl recording).update _ rfl
    refine passed.trans (records_playNode record plays flushing ?_ (called.of_records passed))
    intro name inside
    unfold Player.node? Programme.node? at next
    obtain ⟨nodes, stands, found⟩ := Option.bind_eq_some_iff.mp next
    exact called name (Programme.mem_calls stands (List.mem_of_getElem? found) inside)

theorem records_flushNodes (epoch rounds : Nat) {recording : Recording}
    (called : recording.CallsOnly named) :
    recording.Records kind (flushNodes calls level epoch rounds recording) := by
  induction rounds generalizing recording with
  | zero => exact .refl recording
  | succ rounds inductionHypothesis =>
    unfold flushNodes
    split
    · have loaded := records_loadNode record plays true called
      exact loaded.trans (inductionHypothesis (called.of_records loaded))
    · exact .refl recording

theorem records_continueBeat {recording : Recording} (called : recording.CallsOnly named) :
    recording.Records kind (recording.continueBeat calls level) := by
  unfold continueBeat
  dsimp only
  split
  · have shown : recording.Records kind (recording.update Player.showPending) :=
      (Records.refl recording).update _ (Player.standsWith_showPending _).programme
    have flushed := records_flushNodes record plays recording.player.epoch recording.player.rounds
      (called.of_records shown)
    exact (shown.trans flushed).update _ (Player.standsWith_dropTime _ _).programme
  · exact .refl recording

theorem records_playFrame (epoch rounds : Nat) {recording : Recording}
    (called : recording.CallsOnly named) :
    recording.Records kind (playFrame calls level epoch rounds recording) := by
  have typed (recording : Recording) :
      recording.Records kind (recording.update Player.typePending) :=
    (Records.refl recording).update _ (Player.standsWith_typePending _).programme
  induction rounds generalizing recording with
  | zero =>
    unfold playFrame
    split
    · dsimp only
      split <;> exact typed recording
    · exact .refl recording
  | succ rounds inductionHypothesis =>
    unfold playFrame
    split
    · dsimp only
      split
      · have loaded := (typed recording).trans
          (records_loadNode record plays false (called.of_records (typed recording)))
        exact loaded.trans (inductionHypothesis (called.of_records loaded))
      · exact typed recording
    · exact .refl recording

theorem records_advance (milliseconds : Float) {recording : Recording}
    (called : recording.CallsOnly named) :
    recording.Records kind (recording.advance calls level milliseconds) := by
  have timed (change : Player → Player)
      (programme : (change recording.player).programme = recording.player.programme) :
      recording.Records kind (recording.update change) :=
    (Records.refl recording).update change programme
  have framed (change : Player → Player)
      (programme : (change recording.player).programme = recording.player.programme) :
      recording.Records kind (playFrame calls level recording.player.epoch recording.player.rounds
        (recording.update change)) :=
    (timed change programme).trans
      (records_playFrame record plays _ _ (called.of_records (timed change programme)))
  unfold advance
  generalize (if milliseconds.isFinite && 0 < milliseconds then milliseconds else 0) = time
  dsimp only
  split
  · split
    · split
      · exact timed (fun player => player.withTime _ _) rfl
      · exact framed (fun player => player.withTime _ _) rfl
    · exact framed (fun player => player.elapse time) rfl
  · exact .refl recording

end Playing

end Recorded

/-! ### Finishing beats -/

section Finishing

variable {kind : Evaluation → Prop} {calls : Calls} {level : Nat}
  (record : calls.Record kind fun _ => True)

include record

theorem records_fireAll (fires : ∀ expression, kind ⟨level, .fired, expression⟩)
    (expressions : List Expr) (recording : Recording) :
    recording.Records kind (fireAll calls level expressions recording) := by
  induction expressions generalizing recording with
  | nil => exact .refl recording
  | cons expression rest inductionHypothesis =>
    exact (records_evaluate record .drop (fires expression) (fun _ _ => trivial)
      (fun _ _ => trivial)).trans (inductionHypothesis _)

theorem records_finishBeat (fires : ∀ expression, kind ⟨level, .fired, expression⟩)
    (recording : Recording) : recording.Records kind (recording.finishBeat calls level) := by
  have taken : recording.Records kind
      (recording.update fun player => player.takeDeferred.2) :=
    (Records.refl recording).update (fun player => player.takeDeferred.2) rfl
  have fired := taken.trans
    (records_fireAll record fires recording.player.visit.deferred _)
  unfold finishBeat
  dsimp only
  refine fired.update _ ?_
  split <;> rfl

theorem records_skipBeat
    (plays : ∀ evaluation : Evaluation, evaluation.level = level → evaluation.IsPlayed →
      kind evaluation)
    (fires : ∀ expression, kind ⟨level, .fired, expression⟩) (recording : Recording) :
    recording.Records kind (recording.skipBeat calls level) := by
  have continued := records_continueBeat record plays (fun _ _ => trivial : recording.CallsOnly _)
  unfold skipBeat
  dsimp only
  split
  · exact continued.trans (records_finishBeat record fires _)
  · exact continued

end Finishing

/-- An evaluation is made below a level. -/
def Below (level : Nat) (evaluation : Evaluation) : Prop := level < evaluation.level

/-- Nested calls record nothing at the levels above them. -/
theorem record_calls_below (depth : Nat) {bound level : Nat} (below : bound < level) :
    (calls depth level).Record (Below bound) fun _ => True := by
  induction depth generalizing level with
  | zero => exact ⟨fun _ recording _ => .refl recording, fun _ recording _ => .refl recording⟩
  | succ depth inductionHypothesis =>
    have nested := inductionHypothesis (Nat.lt_succ_of_lt below)
    have plays : ∀ evaluation : Evaluation, evaluation.level = level → evaluation.IsPlayed →
        Below bound evaluation := by
      rintro evaluation rfl -
      exact below
    exact ⟨fun _ recording _ => records_skipBeat nested plays (fun _ => below) recording,
      fun _ recording called => records_continueBeat nested plays called⟩

/-- At its own level, evaluating a queue records the queue. -/
theorem filter_fireAll {calls : Calls} {level : Nat}
    (record : calls.Record (Below level) fun _ => True) (expressions : List Expr)
    (recording : Recording) :
    (fireAll calls level expressions recording).record.filter (·.level = level) =
      recording.record.filter (·.level = level) ++
        expressions.map fun expression => ⟨level, .fired, expression⟩ := by
  induction expressions generalizing recording with
  | nil => exact (List.append_nil _).symm
  | cons expression rest inductionHypothesis =>
    obtain ⟨further, together, below⟩ := (records_evaluate_note record level .fired .drop
      (fun _ _ => trivial : ∀ name ∈ expression.calls, True)
      (fun _ _ => trivial : recording.CallsOnly fun _ => True)).record
    have noneAtLevel : further.filter (·.level = level) = [] := by
      refine List.filter_eq_nil_iff.mpr fun evaluation member => ?_
      have isBelow : level < evaluation.level := below evaluation member
      simpa using isBelow.ne'
    rw [fireAll, inductionHypothesis, together, note, List.filter_append, noneAtLevel,
      List.append_nil, List.filter_append, List.append_assoc]
    simp

/-! ### Requests of the host -/

/-- A script that skips no beat by itself evaluates no deferred expression in a nested call. -/
theorem record_calls_played (depth level : Nat) :
    (calls depth level).Record Evaluation.IsPlayed (· ≠ Builtin.skip.name) := by
  induction depth generalizing level with
  | zero => exact ⟨fun _ recording _ => .refl recording, fun _ recording _ => .refl recording⟩
  | succ depth inductionHypothesis =>
    exact ⟨fun isNamed => absurd rfl isNamed, fun _ recording called =>
      records_continueBeat (inductionHypothesis (level + 1)) (fun _ _ isPlayed => isPlayed) called⟩

end Recording

/-- Requests that do not finish a beat: to let time pass, to show the rest of a beat, to go to a
scene, and to confirm while a beat is being played. -/
def Request.LeavesBeatOpen (request : Request) (player : Player) : Prop :=
  match request with
  | advance _ | continueBeat | loadScene _ => True
  | confirm => player.status = .emitting
  | _ => False

namespace Recording

theorem record_fulfil_of_finishes {player : Player} (waiting : player.status = .waiting)
    {request : Request} (finishing : request.Finishes) (depth : Nat) :
    ((fulfil depth request ⟨player, [], []⟩).record.filter (·.level = 0)) =
      player.visit.deferred.map fun expression => ⟨0, .fired, expression⟩ := by
  have finished : fulfil depth request ⟨player, [], []⟩ =
      finishBeat (calls depth 1) 0 ⟨player, [], []⟩ := by
    rcases finishing with rfl | rfl
    · unfold fulfil confirm
      dsimp only
      rw [waiting]
    · have notEmitting : player.status ≠ .emitting := by
        rw [waiting]
        decide
      unfold fulfil skipBeat continueBeat
      dsimp only
      rw [if_neg notEmitting, if_pos waiting]
  rw [finished]
  exact filter_fireAll (record_calls_below depth Nat.zero_lt_one) player.visit.deferred _

theorem records_fulfil_of_leavesBeatOpen {player : Player} {request : Request}
    (leaves : request.LeavesBeatOpen player)
    (noSkip : Builtin.skip.name ∉ player.programme.calls) (depth : Nat) :
    Records Evaluation.IsPlayed ⟨player, [], []⟩ (fulfil depth request ⟨player, [], []⟩) := by
  have record := record_calls_played depth 1
  have called : CallsOnly (· ≠ Builtin.skip.name) ⟨player, [], []⟩ := by
    rintro name inside rfl
    exact noSkip inside
  have continued : Records Evaluation.IsPlayed ⟨player, [], []⟩
      (continueBeat (calls depth 1) 0 ⟨player, [], []⟩) :=
    records_continueBeat record (fun _ _ isPlayed => isPlayed) called
  cases request with
  | advance milliseconds =>
    exact records_advance record (fun _ _ isPlayed => isPlayed) milliseconds called
  | continueBeat => exact continued
  | loadScene name =>
    have continues := Request.continues_fulfil 0 (.loadScene name) player
    refine (Records.refl _).update _ ?_
    show (((Request.loadScene name).fulfil (Controls.builtin 0) player).map Prod.snd |>.getD
      player).programme = player.programme
    cases loaded : (Request.loadScene name).fulfil (Controls.builtin 0) player with
    | none => rfl
    | some outcome =>
      rw [loaded] at continues
      exact continues.programme
  | confirm =>
    unfold fulfil confirm
    dsimp only
    rw [show player.status = .emitting from leaves]
    dsimp only
    split
    · exact continued
    · exact .refl _
  | _ => cases leaves

end Recording

/-- What a beat that waits has put off stands in its nodes. -/
theorem Player.WellFormed.deferred_of_waiting {player : Player} (wellFormed : player.WellFormed)
    (waiting : player.status = .waiting) :
    player.visit.deferred = player.nodes.filterMap Node.deferred? := by
  have notDone : player.status ≠ .done := by
    rw [waiting]
    decide
  obtain ⟨nodes, stands, -, passed⟩ := wellFormed.placed notDone
  rw [wellFormed.queued notDone, putOff, nodes_of_beat stands, passed waiting, List.take_length]

/-- A player that finishes a beat has evaluated the queue of the beat, and goes on from there. -/
theorem Player.evaluateAll_of_finishes {player later : Player} {depth : Nat} {request : Request}
    {answer : Answer} (waiting : player.status = .waiting) (finishing : request.Finishes)
    (returned : request.fulfil (Controls.builtin (depth + 1)) player = some (answer, later)) :
    ∃ fired,
      evaluateAll (Builtin.registry (Controls.builtin depth)) player.visit.deferred
          player.takeDeferred.2 = some fired ∧
        later = if fired.status = .waiting then fired.clearOutput.enterBeat (fired.beat + 1)
          else fired.clearOutput := by
  obtain ⟨fired, evaluated, ⟨stillWaiting, rfl⟩ | ⟨moved, rfl⟩⟩ :=
    fired_of_finishBeat (finishBeat_of_finishes waiting finishing returned)
  · exact ⟨fired, evaluated, (if_pos stillWaiting).symm⟩
  · exact ⟨fired, evaluated, (if_neg moved).symm⟩

/-- Wherever a run has come, keeping a record changes nothing. If a beat waits, the call that
finishes it evaluates exactly the deferred expressions of its nodes, in their order, and goes on
from where they have led. If the script skips no beats by itself, a call that leaves a beat open
evaluates expressions of nodes that do not put them off, and no others. -/
theorem fired_once_when_finished {programme : Programme} {settings : Settings} {runDepth : Nat}
    {earlier : List Request} {answers : List Answer} {player : Player}
    (reached : Request.fulfilAll (Controls.builtin runDepth) earlier
      (Player.start programme settings) = some (answers, player)) :
    (∀ (depth : Nat) (request : Request) (answer : Answer) (later : Player),
      request.fulfil (Controls.builtin (depth + 1)) player = some (answer, later) →
        (Recording.fulfil depth request ⟨player, [], []⟩).player = later) ∧
    (player.status = .waiting → ∀ (depth : Nat) (request : Request), request.Finishes →
      (Recording.fulfil depth request ⟨player, [], []⟩).record.filter (·.level = 0) =
          (player.nodes.filterMap Node.deferred?).map (fun expression => ⟨0, .fired, expression⟩) ∧
        ∀ (answer : Answer) (later : Player),
          request.fulfil (Controls.builtin (depth + 1)) player = some (answer, later) →
            ∃ fired, Player.evaluateAll (Builtin.registry (Controls.builtin depth))
                (player.nodes.filterMap Node.deferred?) player.takeDeferred.2 = some fired ∧
              later = if fired.status = .waiting then fired.clearOutput.enterBeat (fired.beat + 1)
                else fired.clearOutput) ∧
    (Builtin.skip.name ∉ programme.calls → ∀ (depth : Nat) (request : Request),
      request.LeavesBeatOpen player →
        ∀ evaluation ∈ (Recording.fulfil depth request ⟨player, [], []⟩).record,
          ∃ node, evaluation.occasion = .played node ∧
            node.expression? = some evaluation.expression ∧ node.deferred? = none) := by
  refine ⟨fun depth request answer later returned => ?_, fun waiting depth request finishing => ?_,
    fun noSkip depth request leaves evaluation member => ?_⟩
  · have comes := Recording.comesTo_fulfil depth request (Recording.Accounts.start player)
    rw [returned] at comes
    exact comes.1
  · rw [← (wellFormed_of_run reached).deferred_of_waiting waiting]
    exact ⟨Recording.record_fulfil_of_finishes waiting finishing depth,
      fun answer later returned => Player.evaluateAll_of_finishes waiting finishing returned⟩
  · have continues := Request.continues_fulfilAll runDepth earlier (Player.start programme settings)
    rw [reached] at continues
    have same : player.programme = programme :=
      continues.programme.trans (Player.programme_start programme settings)
    obtain ⟨further, together, played⟩ :=
      (Recording.records_fulfil_of_leavesBeatOpen leaves (same ▸ noSkip) depth).record
    rw [together] at member
    exact played evaluation member

/-- The first deferred expression fails and the second one ends the play, and all three are
evaluated when the beat is finished, but none while its rest is shown. -/
theorem fired_once_when_finished_ending : ∃ player later : Player,
    Request.fulfilAll (Controls.builtin 1) [.continueBeat] (Player.start ⟨[⟨"main",
        [[.deferredExpr (.reference "x"), .deferredExpr (.call "end" []),
          .deferredExpr (.reference "y"), .instantExpr (.reference "z")]]⟩]⟩ {}) =
        some ([.nothing], player) ∧
      Request.confirm.fulfil (Controls.builtin 1) player = some (.nothing, later) ∧
      (Recording.fulfil 0 .confirm ⟨player, [], []⟩).player = later ∧
      (Recording.fulfil 0 .confirm ⟨player, [], []⟩).record.filter (·.level = 0) =
        [⟨0, .fired, .reference "x"⟩, ⟨0, .fired, .call "end" []⟩, ⟨0, .fired, .reference "y"⟩] ∧
      ∀ evaluation ∈ (Recording.fulfil 0 .continueBeat ⟨Player.start ⟨[⟨"main",
          [[.deferredExpr (.reference "x"), .deferredExpr (.call "end" []),
            .deferredExpr (.reference "y"), .instantExpr (.reference "z")]]⟩]⟩ {}, [], []⟩).record,
        ∃ node, evaluation.occasion = .played node ∧
          node.expression? = some evaluation.expression ∧ node.deferred? = none := by
  have shape : ((Controls.builtin 1).continueBeat (Player.start ⟨[⟨"main",
      [[.deferredExpr (.reference "x"), .deferredExpr (.call "end" []),
        .deferredExpr (.reference "y"), .instantExpr (.reference "z")]]⟩]⟩ {})).bind (fun player =>
          ((Controls.builtin 1).confirm player).map fun _ =>
            (player.status, player.scene, player.beat)) = some (.waiting, 0, 0) := by
    decide +kernel
  obtain ⟨player, continued, shape⟩ := Option.bind_eq_some_iff.mp shape
  obtain ⟨later, confirmed, shape⟩ := Option.map_eq_some_iff.mp shape
  rw [Prod.mk.injEq, Prod.mk.injEq] at shape
  obtain ⟨waiting, scene, beat⟩ := shape
  have run : Request.fulfilAll (Controls.builtin 1) [.continueBeat] (Player.start ⟨[⟨"main",
      [[.deferredExpr (.reference "x"), .deferredExpr (.call "end" []),
        .deferredExpr (.reference "y"), .instantExpr (.reference "z")]]⟩]⟩ {}) =
      some ([.nothing], player) := by
    simp only [Request.fulfilAll, Request.fulfil, continued, Option.map_some]
  have returned : Request.confirm.fulfil (Controls.builtin 1) player = some (.nothing, later) :=
    congrArg (Option.map fun later => (Answer.nothing, later)) confirmed
  have continues := (Request.continues_fulfilAll 1 [.continueBeat] _).of_some run
  obtain ⟨keeps, fires, -⟩ := fired_once_when_finished run
  obtain ⟨-, -, plays⟩ := fired_once_when_finished
    (rfl : Request.fulfilAll (Controls.builtin 1) [] (Player.start ⟨[⟨"main",
      [[.deferredExpr (.reference "x"), .deferredExpr (.call "end" []),
        .deferredExpr (.reference "y"), .instantExpr (.reference "z")]]⟩]⟩ {}) = some ([], _))
  refine ⟨player, later, run, returned, keeps 0 .confirm _ _ returned, ?_,
    plays (by decide) 0 .continueBeat trivial⟩
  rw [(fires waiting 0 .confirm (Or.inl rfl)).1, Player.nodes, continues.programme, scene, beat]
  rfl

end Playscript
