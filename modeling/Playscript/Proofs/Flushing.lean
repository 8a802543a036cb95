/-
This file compares two players that show the rest of their beats at once. A relation between players
that is kept by each single change, and holds only between players at the same node of the same
beat, is kept by the whole of it: by the loop over the nodes, by finishing the beat, and by skipping
it. These are also the calls that expressions make, so the relation is kept to any depth, and the
second player may be allowed a greater depth than the first one.
-/

import Playscript.Proofs.Continuing

namespace Playscript

/-! ### Steering without nested calls -/

/-- A relation that is kept by single changes is kept by steering if nested calls keep it. -/
theorem KeptBySteering.between {certain : Prop} {calls : String → Prop}
    {related : Player → Player → Prop}
    (kept : KeptBySteering certain calls Controls.stuck Controls.stuck related)
    {controls controls' : Controls}
    (skipBeat : ∀ {player player' : Player}, calls Builtin.skip.name → related player player' →
      Matches certain related (controls.skipBeat player) (controls'.skipBeat player'))
    (continueBeat : ∀ {player player' : Player}, calls Builtin.flush.name → related player player' →
      Matches certain related (controls.continueBeat player) (controls'.continueBeat player')) :
    KeptBySteering certain calls controls controls' related :=
  { kept with skipBeat := skipBeat, continueBeat := continueBeat }

/-! ### Relations between players that show the rest of their beats -/

/-- What a relation between two players has to satisfy so that showing the rest of a beat keeps it.
The related players are at the same node, and they leave their visits at the same time. -/
structure KeptByFlushing (related : Player → Player → Prop) : Prop where
  steering : KeptBySteering False (fun _ => True) Controls.stuck Controls.stuck related
  status : ∀ {player player' : Player}, related player player' → player.status = player'.status
  nodes : ∀ {player player' : Player}, related player player' → player.nodes = player'.nodes
  node : ∀ {player player' : Player}, related player player' →
    player.visit.node = player'.visit.node
  deferred : ∀ {player player' : Player}, related player player' →
    player.visit.deferred = player'.visit.deferred
  epoch : ∀ {player player' later later' : Player}, related player player' →
    related later later' → (later.epoch = player.epoch ↔ later'.epoch = player'.epoch)
  passNode : ∀ {player player' : Player}, related player player' →
    related player.passNode player'.passNode
  defer : ∀ {player player' : Player} (expression : Expr), related player player' →
    related (player.defer expression) (player'.defer expression)
  wait : ∀ {player player' : Player}, related player player' →
    related { player with status := .waiting } { player' with status := .waiting }
  showPending : ∀ {player player' : Player}, related player player' →
    related player.showPending player'.showPending
  withoutTime : ∀ {player player' : Player}, related player player' →
    related (player.withTime 0 0) (player'.withTime 0 0)
  takeDeferred : ∀ {player player' : Player}, related player player' →
    related player.takeDeferred.2 player'.takeDeferred.2
  enterBeat : ∀ {player player' : Player}, related player player' →
    related (player.enterBeat (player.beat + 1)) (player'.enterBeat (player'.beat + 1))

namespace KeptByFlushing

variable {related : Player → Player → Prop} (kept : KeptByFlushing related)
  {player player' : Player}

include kept

theorem node?_eq (holds : related player player') : player.node? = player'.node? := by
  rw [player.node?_eq, player'.node?_eq, kept.nodes holds, kept.node holds]

theorem rounds_eq (holds : related player player') : player.rounds = player'.rounds := by
  unfold Player.rounds
  rw [kept.nodes holds, kept.node holds]

/-- In both players a value is shown at once, or in neither. -/
theorem renderValue {later later' : Player} (visits : related player player')
    (holds : related later later') (value? : Option Value) :
    related (later.renderValue player.epoch true value?)
      (later'.renderValue player'.epoch true value?) := by
  cases value? with
  | none => exact holds
  | some value =>
    show related (if later.epoch = player.epoch then later.emit (.text value.text) else later)
      (if later'.epoch = player'.epoch then later'.emit (.text value.text) else later')
    by_cases same : later.epoch = player.epoch
    · rw [if_pos same, if_pos ((kept.epoch visits holds).mp same)]
      exact kept.steering.emit _ holds
    · rw [if_neg same, if_neg fun same' => same ((kept.epoch visits holds).mpr same')]
      exact holds

theorem withoutTime_dropTime {epoch epoch' : Nat} (holds : related player player')
    (visits : player.epoch = epoch ↔ player'.epoch = epoch') :
    related (player.dropTime epoch) (player'.dropTime epoch') := by
  unfold Player.dropTime
  by_cases same : player.epoch = epoch
  · rw [if_pos same, if_pos (visits.mp same)]
    exact kept.withoutTime holds
  · rw [if_neg same, if_neg fun same' => same (visits.mpr same')]
    exact holds

variable {controls controls' : Controls}
  (steering : KeptBySteering False (fun _ => True) controls controls' related)

include steering

theorem matches_playNode (node : Node Expr) (holds : related player player') :
    Matches False related (player.playNode (Builtin.registry controls) true node)
      (player'.playNode (Builtin.registry controls') true node) := by
  have shown (text : String) : related (player.emit (.text text)) (player'.emit (.text text)) :=
    steering.emit _ holds
  have evaluated (expression : Expr) :=
    steering.matches_evaluate expression (fun _ _ => trivial) holds
  cases node with
  | text content =>
    show related (player.render (player.instant || true) content)
      (player'.render (player'.instant || true) content)
    rw [Bool.or_true, Bool.or_true]
    exact shown content
  | instantString content => exact shown content
  | typewriterString content => exact shown content
  | inlineExpr expression => exact (evaluated expression).map fun _ _ same => same.2
  | deferredExpr expression => exact kept.defer expression holds
  | instantExpr expression =>
    refine (evaluated expression).map ?_
    rintro ⟨value?, later⟩ ⟨_, later'⟩ ⟨rfl, same⟩
    exact kept.renderValue holds same value?
  | typewriterExpr expression =>
    refine (evaluated expression).map ?_
    rintro ⟨value?, later⟩ ⟨_, later'⟩ ⟨rfl, same⟩
    exact kept.renderValue holds same value?

theorem matches_loadNode (holds : related player player') :
    Matches False related (player.loadNode (Builtin.registry controls) true)
      (player'.loadNode (Builtin.registry controls') true) := by
  unfold Player.loadNode
  rw [kept.node?_eq holds]
  cases player'.node? with
  | none => exact kept.wait holds
  | some node => exact kept.matches_playNode steering node (kept.passNode holds)

theorem matches_flushNodes {epoch epoch' : Nat} (rounds : Nat)
    (visits : ∀ {later later' : Player}, related later later' →
      (later.epoch = epoch ↔ later'.epoch = epoch'))
    (holds : related player player') :
    Matches False related (Player.flushNodes (Builtin.registry controls) epoch rounds player)
      (Player.flushNodes (Builtin.registry controls') epoch' rounds player') := by
  have going : (player.status = .emitting ∧ player.epoch = epoch) ↔
      (player'.status = .emitting ∧ player'.epoch = epoch') := by
    rw [kept.status holds, visits holds]
  induction rounds generalizing player player' with
  | zero =>
    unfold Player.flushNodes
    by_cases goes : player.status = .emitting ∧ player.epoch = epoch
    · rw [if_pos goes]
      exact not_false
    · rw [if_neg goes, if_neg (mt going.mpr goes)]
      exact holds
  | succ rounds inductionHypothesis =>
    unfold Player.flushNodes
    by_cases goes : player.status = .emitting ∧ player.epoch = epoch
    · rw [if_pos goes, if_pos (going.mp goes)]
      refine (kept.matches_loadNode steering holds).bind fun later later' same => ?_
      refine inductionHypothesis same ?_
      rw [kept.status same, visits same]
    · rw [if_neg goes, if_neg (mt going.mpr goes)]
      exact holds

theorem matches_continueBeat (holds : related player player') :
    Matches False related (player.continueBeat (Builtin.registry controls))
      (player'.continueBeat (Builtin.registry controls')) := by
  unfold Player.continueBeat
  by_cases emitting : player.status = .emitting
  · rw [if_pos emitting, if_pos ((kept.status holds).symm.trans emitting), kept.rounds_eq holds]
    refine (kept.matches_flushNodes steering _ (kept.epoch holds)
      (kept.showPending holds)).map fun later later' same => ?_
    exact kept.withoutTime_dropTime same (kept.epoch holds same)
  · rw [if_neg emitting, if_neg fun emitting' => emitting ((kept.status holds).trans emitting')]
    exact holds

theorem matches_finishBeat (holds : related player player') :
    Matches False related (player.finishBeat (Builtin.registry controls))
      (player'.finishBeat (Builtin.registry controls')) := by
  unfold Player.finishBeat
  have evaluated := steering.matches_evaluateAll player.visit.deferred (fun _ _ _ _ => trivial)
    (kept.takeDeferred holds)
  show Matches False related
    ((Player.evaluateAll _ player.visit.deferred player.takeDeferred.2).map _)
    ((Player.evaluateAll _ player'.visit.deferred player'.takeDeferred.2).map _)
  rw [← kept.deferred holds]
  refine evaluated.map fun later later' same => ?_
  have wiped : related later.clearOutput later'.clearOutput := steering.emit .clear same
  dsimp only
  rw [kept.status wiped]
  split
  · exact kept.enterBeat wiped
  · exact wiped

theorem matches_skipBeat (holds : related player player') :
    Matches False related (player.skipBeat (Builtin.registry controls))
      (player'.skipBeat (Builtin.registry controls')) := by
  unfold Player.skipBeat
  refine (kept.matches_continueBeat steering holds).bind fun later later' same => ?_
  rw [kept.status same]
  split
  · exact kept.matches_finishBeat steering same
  · exact same

omit steering

/-- The relation is kept to any depth of nested calls. The second player may nest its calls more
deeply. -/
theorem steering_builtin {depth depth' : Nat} (le : depth ≤ depth') :
    KeptBySteering False (fun _ => True) (Controls.builtin depth) (Controls.builtin depth')
      related := by
  induction depth generalizing depth' with
  | zero => exact kept.steering.between (fun _ _ => not_false) (fun _ _ => not_false)
  | succ depth inductionHypothesis =>
    cases depth' with
    | zero => cases le
    | succ depth' =>
      have nested := inductionHypothesis (Nat.le_of_succ_le_succ le)
      refine kept.steering.between (fun _ holds => ?_) (fun _ holds => ?_)
      · exact kept.matches_skipBeat nested holds
      · exact kept.matches_continueBeat nested holds

end KeptByFlushing

end Playscript
