/-
This file plays without time. In each turn a node is shown at once, or a beat that waits is
finished, and every play can be compared with this one. A player that takes its time shows what it
tells, except for a text that has not been typed to its end; typing that text does not change what
is told.
-/

import Playscript.Proofs.Story

namespace Playscript

namespace Player

/-! ### Turns -/

section Turns

variable (registry : Registry Player)

/-- One turn of the play in which nothing takes time. -/
def turn (player : Player) : Option Player :=
  match player.status with
  | .emitting => player.loadNode registry true
  | .waiting => player.finishBeat registry
  | .done => some player

/-- Some number of turns. -/
def turns : Nat → Player → Option Player
  | 0, player => some player
  | count + 1, player => (player.turn registry).bind (turns count)

theorem turn_of_emitting {player : Player} (emitting : player.status = .emitting) :
    player.turn registry = player.loadNode registry true := by
  unfold turn
  rw [emitting]

theorem turn_of_waiting {player : Player} (waiting : player.status = .waiting) :
    player.turn registry = player.finishBeat registry := by
  unfold turn
  rw [waiting]

theorem turns_one (player : Player) : turns registry 1 player = player.turn registry := by
  show (player.turn registry).bind some = _
  exact Option.bind_fun_some _

theorem turns_add (first second : Nat) (player : Player) :
    turns registry (first + second) player =
      (turns registry first player).bind (turns registry second) := by
  induction first generalizing player with
  | zero =>
    rw [Nat.zero_add]
    rfl
  | succ first inductionHypothesis =>
    rw [Nat.succ_add]
    show (player.turn registry).bind (turns registry (first + second)) =
      ((player.turn registry).bind (turns registry first)).bind (turns registry second)
    rw [Option.bind_assoc, show turns registry (first + second) =
      fun player => (turns registry first player).bind (turns registry second) from
      funext inductionHypothesis]

/-- A play that is over stays as it is. -/
theorem turns_of_done {player : Player} (isDone : player.status = .done) (count : Nat) :
    turns registry count player = some player := by
  induction count with
  | zero => rfl
  | succ count inductionHypothesis =>
    have turned : player.turn registry = some player := by
      unfold turn
      rw [isDone]
    unfold turns
    rw [turned]
    exact inductionHypothesis

end Turns

theorem continues_turns {controls : Controls} (forward : controls.Forward) (count : Nat)
    (player : Player) :
    Ends False player.Continues (turns (Builtin.registry controls) count player) := by
  induction count generalizing player with
  | zero => exact .refl player
  | succ count inductionHypothesis =>
    have turned : Ends False player.Continues (player.turn (Builtin.registry controls)) := by
      cases status : player.status with
      | emitting =>
        rw [turn_of_emitting _ status]
        exact (continues_loadNode forward true player status).imp fun _ further => further.1
      | waiting =>
        rw [turn_of_waiting _ status]
        exact (continues_finishBeat forward player status).imp fun _ further => further.1
      | done =>
        rw [← turns_one, turns_of_done _ status]
        exact .refl player
    exact turned.bind fun middle continues =>
      (inductionHypothesis middle).imp fun _ further => continues.trans further

/-! ### What is shown of a story -/

/-- A player shows what another one tells, up to the text that is being typed. Only a player that
plays a beat has such a text. -/
structure Shows (programme : Programme) (player told : Player) : Prop where
  same : player.showPending.SameStory programme told
  settled : player.status ≠ .emitting → player.visit.typing.pending = []

theorem SameStory.shows {programme : Programme} {player told : Player}
    (same : player.SameStory programme told) : player.Shows programme told where
  same := ⟨(story_showPending_of_nil same.pending).trans same.story,
    player.standsWith_showPending.programme.trans same.programme, player.pending_showPending,
    same.otherPending⟩
  settled _ := same.pending

/-- A player that has begun to type a text shows what another one tells at once. -/
theorem SameStory.beginTyping {programme : Programme} {player told : Player}
    (same : player.SameStory programme told) (emitting : player.status = .emitting)
    (text : String) : (player.beginTyping text).Shows programme (told.emit (.text text)) where
  same := by
    refine ⟨?_, ?_, pending_showPending _, same.otherPending⟩
    · rw [story_showPending, story_emit, ← same.stream_eq, ← same.story]
      rfl
    · exact (standsWith_showPending _).programme.trans same.programme
  settled notEmitting := absurd emitting notEmitting

namespace Shows

variable {programme : Programme} {player told later : Player}

theorem sameStory (shows : player.Shows programme told)
    (nothing : player.visit.typing.pending = []) : player.SameStory programme told where
  story := (story_showPending_of_nil nothing).symm.trans shows.same.story
  programme := player.standsWith_showPending.programme.symm.trans shows.same.programme
  pending := nothing
  otherPending := shows.same.otherPending

theorem status_eq (shows : player.Shows programme told) : player.status = told.status :=
  player.standsWith_showPending.status.symm.trans shows.same.status_eq

theorem programme_eq (shows : player.Shows programme told) : player.programme = programme :=
  player.standsWith_showPending.programme.symm.trans shows.same.programme

theorem stream_prefix (shows : player.Shows programme told) : player.stream <+: told.stream := by
  rw [← shows.same.stream_eq]
  exact stream_prefix_of_continues player.continues_showPending

/-- Changes that are no part of the story change nothing of what is shown. -/
theorem of_story_eq (shows : player.Shows programme told) (story : later.story = player.story)
    (pending : later.visit.typing.pending = player.visit.typing.pending) :
    later.Shows programme told where
  same := by
    have stream : later.stream = player.stream := congrArg Story.stream story
    refine ⟨?_, ?_, pending_showPending _, shows.same.otherPending⟩
    · rw [← shows.same.story, story_showPending, story_showPending, story, stream, pending]
    · exact (standsWith_showPending later).programme.trans
        ((congrArg Story.programme story).trans shows.programme_eq)
  settled notEmitting := by
    rw [pending]
    refine shows.settled fun emitting => notEmitting ?_
    exact (congrArg Story.status story).trans emitting

end Shows

/-- Typing moves characters from what is pending to what has been put out. -/
theorem story_showPending_typeWhileTime (interval : Float) (pending : List Char) {player : Player}
    (begins : player.visit.typing.pending = pending) :
    (typeWhileTime interval pending player).showPending.story = player.showPending.story := by
  induction pending generalizing player with
  | nil => rfl
  | cons character rest inductionHypothesis =>
    unfold typeWhileTime
    split
    · rfl
    · rw [inductionHypothesis rfl, story_showPending, story_showPending, begins, List.map_cons]
      have typed : (player.typeCharacter interval character rest).stream =
          player.stream ++ [.character character] := player.stream_emit (.character character)
      rw [typed, List.append_assoc]
      rfl

theorem Shows.typePending {programme : Programme} {player told : Player}
    (shows : player.Shows programme told) (emitting : player.status = .emitting) :
    player.typePending.Shows programme told where
  same := by
    refine ⟨?_, ?_, pending_showPending _, shows.same.otherPending⟩
    · exact (story_showPending_typeWhileTime _ _ rfl).trans shows.same.story
    · exact (standsWith_showPending _).programme.trans
        (player.standsWith_typePending.programme.trans shows.programme_eq)
  settled notEmitting :=
    absurd (player.standsWith_typePending.status.trans emitting) notEmitting

end Player

end Playscript
