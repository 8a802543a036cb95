/-
This file shows what the number of a visit is good for. Whatever a player is asked to do, and
whatever expression it evaluates meanwhile, its number does not fall; and while the number stays, the
player stays at its visit, where it only goes on. So a player that finds its number unchanged has
not been moved, not even by a jump to the beat where it stands.

Finishing a beat always gives a new number. Showing the rest of a beat gives one unless the beat is
then over, since a player waits nowhere but at the end of a beat. That is an invariant of its own,
which is carried from nested calls to the calls that nest them.
-/

import Playscript.Proofs.Finishing

namespace Playscript

/-! ### Waiting at the end of a beat -/

namespace Player

/-- If a player waits, no node of its beat is left. -/
def WaitsAtEnd (player : Player) : Prop :=
  player.status = .waiting → player.nodes.length ≤ player.visit.node

namespace WaitsAtEnd

variable {player later : Player}

theorem of_not_waiting (notWaiting : player.status ≠ .waiting) : player.WaitsAtEnd :=
  fun waiting => absurd waiting notWaiting

theorem of_emitting (emitting : player.status = .emitting) : player.WaitsAtEnd :=
  of_not_waiting (by rw [emitting]; decide)

theorem of_stands (waits : player.WaitsAtEnd) (stands : player.StandsWith later) :
    later.WaitsAtEnd := by
  unfold WaitsAtEnd
  rw [stands.status, nodes_of_stands stands, stands.node]
  exact waits

theorem loadScene {name : String} (loaded : player.loadScene? name = some later) :
    later.WaitsAtEnd := by
  obtain ⟨scene, -, rfl⟩ := Option.map_eq_some_iff.mp loaded
  exact of_not_waiting (status_enterBeat_ne_waiting _ _)

/-- A player begins to wait where there is no next node. -/
theorem wait (last : player.node? = none) :
    WaitsAtEnd { player with status := .waiting } := by
  rw [node?_eq] at last
  exact fun _ => List.getElem?_eq_none_iff.mp last

end WaitsAtEnd

/-- A player never waits after a beat has been skipped. -/
theorem waitsAtEnd_skipBeat (depth : Nat) (player : Player) :
    Ends False WaitsAtEnd ((Controls.builtin depth).skipBeat player) := by
  cases depth with
  | zero => exact not_false
  | succ depth =>
    cases skipped : (Controls.builtin (depth + 1)).skipBeat player with
    | none => exact not_false
    | some later => exact .of_not_waiting (status_skipBeat skipped)

section Nested

variable {depth : Nat} (keeps : ∀ player : Player, player.WaitsAtEnd →
  Ends False WaitsAtEnd ((Controls.builtin depth).continueBeat player))

include keeps

theorem lastsThroughSteering_waitsAtEnd :
    LastsThroughSteering False (fun _ => True) (Controls.builtin depth) WaitsAtEnd where
  assignment _ waits := waits
  emit event waits := waits.of_stands (standsWith_emit _ event)
  setInstant _ waits := waits
  setConfirmFlushes _ waits := waits
  setSpeed _ waits _ := waits
  setPause _ waits := waits
  loadScene _ _ loaded := .loadScene loaded
  endScene _ := .of_not_waiting nofun
  skipBeat _ _ := waitsAtEnd_skipBeat depth _
  continueBeat _ waits := keeps _ waits

theorem waitsAtEnd_evaluate {player : Player} (waits : player.WaitsAtEnd) (expression : Expr) :
    Ends False (fun outcome : Option Value × Player => outcome.2.WaitsAtEnd)
      (player.evaluate (Builtin.registry (Controls.builtin depth)) expression) :=
  (lastsThroughSteering_waitsAtEnd keeps).ends_evaluate expression (fun _ _ => trivial) waits

theorem waitsAtEnd_playNode (flushing : Bool) (node : Node Expr) {player : Player}
    (waits : player.WaitsAtEnd) :
    Ends False WaitsAtEnd
      (player.playNode (Builtin.registry (Controls.builtin depth)) flushing node) := by
  have shown (atOnce : Bool) (expression : Expr) : Ends False WaitsAtEnd
      ((player.evaluate (Builtin.registry (Controls.builtin depth)) expression).map
        fun outcome => outcome.2.renderValue player.epoch atOnce outcome.1) := by
    refine (waitsAtEnd_evaluate keeps waits expression).map fun outcome waits => ?_
    exact renderValue_cases outcome.1 waits fun text _ =>
      waits.of_stands (standsWith_render _ atOnce text)
  cases node with
  | text content => exact waits.of_stands (player.standsWith_render _ content)
  | instantString content => exact waits.of_stands (player.standsWith_render true content)
  | typewriterString content => exact waits.of_stands (player.standsWith_render flushing content)
  | inlineExpr expression =>
    exact (waitsAtEnd_evaluate keeps waits expression).map fun _ waits => waits
  | deferredExpr expression => exact waits
  | instantExpr expression => exact shown true expression
  | typewriterExpr expression => exact shown flushing expression

theorem waitsAtEnd_loadNode (flushing : Bool) {player : Player}
    (emitting : player.status = .emitting) :
    Ends False WaitsAtEnd
      (player.loadNode (Builtin.registry (Controls.builtin depth)) flushing) := by
  unfold loadNode
  cases next : player.node? with
  | none => exact WaitsAtEnd.wait next
  | some node =>
    have passed : player.passNode.WaitsAtEnd := .of_emitting emitting
    exact waitsAtEnd_playNode keeps flushing node passed

theorem waitsAtEnd_continueBeat {player : Player} (waits : player.WaitsAtEnd) :
    Ends False WaitsAtEnd
      (player.continueBeat (Builtin.registry (Controls.builtin depth))) := by
  unfold Player.continueBeat
  split
  · refine Ends.map (ends_flushNodes (Controls.forward_builtin depth)
      (fun _ _ emitting => waitsAtEnd_loadNode keeps true emitting) player.rounds
      (waits.of_stands player.standsWith_showPending) False.elim) fun later ended => ?_
    exact ended.1.of_stands (later.standsWith_dropTime player.epoch)
  · exact waits

end Nested

/-- Showing the rest of a beat lets a player wait only at the end of a beat, however deeply the
expressions of the beat nest such calls. -/
theorem waitsAtEnd_builtin (depth : Nat) (player : Player) (waits : player.WaitsAtEnd) :
    Ends False WaitsAtEnd ((Controls.builtin depth).continueBeat player) := by
  induction depth generalizing player with
  | zero => exact not_false
  | succ depth inductionHypothesis => exact waitsAtEnd_continueBeat inductionHypothesis waits

/-! ### What the number tells -/

/-- When the rest of a beat has been shown, the number of the visit is another one, or the player
waits and all nodes of the beat have been loaded. -/
theorem epoch_lt_or_waiting {depth : Nat} {player later : Player}
    (emitting : player.status = .emitting)
    (continued : (Controls.builtin depth).continueBeat player = some later) :
    player.epoch < later.epoch ∨
      later.status = .waiting ∧ player.nodes.length ≤ later.visit.node := by
  cases depth with
  | zero => cases continued
  | succ depth =>
    obtain ⟨continues, moved⟩ := Ends.of_some continued
      (continues_continueBeat (Controls.forward_builtin depth) player)
    have waits := Ends.of_some continued
      (waitsAtEnd_builtin (depth + 1) player (.of_emitting emitting))
    rcases continues.epoch.lt_or_eq with larger | same
    · exact Or.inl larger
    · have waiting : later.status = .waiting := by
        rcases (continues.visit same.symm).status with status | ⟨-, waiting⟩
        · exact absurd same (moved emitting (status.trans emitting)).ne
        · exact waiting
      refine Or.inr ⟨waiting, ?_⟩
      rw [← continues.nodes_eq same.symm]
      exact waits waiting

/-- The number of the visit tells what has become of a player when a call returns. Calls are nested up
to a depth. -/
structure NumbersVisits (depth : Nat) (player : Player) : Prop where
  /-- A single call of the host is a run of one request. -/
  requests : ∀ requests answers later,
    Request.fulfilAll (Controls.builtin depth) requests player = some (answers, later) →
      player.Continues later
  evaluations : ∀ expression value? later,
    player.evaluate (Builtin.registry (Controls.builtin depth)) expression = some (value?, later) →
      player.Continues later
  confirm : player.status = .waiting → ∀ later,
    (Controls.builtin depth).confirm player = some later → player.epoch < later.epoch
  skipBeat : player.status ≠ .done → ∀ later,
    (Controls.builtin depth).skipBeat player = some later → player.epoch < later.epoch
  continueBeat : player.status = .emitting → ∀ later,
    (Controls.builtin depth).continueBeat player = some later →
      player.epoch < later.epoch ∨
        later.status = .waiting ∧ player.nodes.length ≤ later.visit.node

/-- The number of the visit tells it of every player, wherever it stands and whatever its script is.
-/
theorem numbersVisits (depth : Nat) (player : Player) : player.NumbersVisits depth where
  requests requests _ _ run := by
    have told := (Request.continues_fulfilAll depth requests player).of_some run
    exact told
  evaluations expression _ _ evaluated := by
    have told := (continues_evaluate (Controls.forward_builtin depth) player expression).of_some
      evaluated
    exact told
  confirm waiting later confirmed := by
    cases depth with
    | zero => cases confirmed
    | succ depth =>
      have finished := (confirm_of_waiting waiting).symm.trans confirmed
      exact ((continues_finishBeat (Controls.forward_builtin depth) player waiting).of_some
        finished).2
  skipBeat notDone _ skipped :=
    (((Controls.forward_builtin depth).skipBeat player).of_some skipped).2 notDone
  continueBeat emitting _ continued := epoch_lt_or_waiting emitting continued

/-- After a jump to the beat where the player stands, nothing but the number tells of it. -/
example :
    let player := Player.start ⟨[⟨"main", [[.text "one"]]⟩]⟩ {}
    (player.evaluate (Builtin.registry (Controls.builtin 0))
        (.call "goto" [.literal (.string "main")])).map (fun outcome =>
          (outcome.2.scene, outcome.2.beat, outcome.2.visit.node, outcome.2.status,
            outcome.2.epoch)) =
      some (player.scene, player.beat, player.visit.node, player.status, player.epoch + 1) := by
  decide +kernel

end Player

end Playscript
