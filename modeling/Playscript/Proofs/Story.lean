/-
This file separates what a play tells from the time it takes. What a player has put out is read as
one stream, in which a text is its characters, and the story of a player is this stream together
with everything that decides how it goes on. Speeds, pauses and modes are no part of it.

Two players with the same story go on telling the same when they show the rest of their beats, since
whatever an expression does to the story depends on the story only.
-/

import Playscript.Proofs.Flushing

namespace Playscript

/-! ### Streams -/

/-- An event in its smallest parts. A text is its characters. -/
def Event.parts : Event → List Event
  | .text content => content.toList.map .character
  | event => [event]

namespace Display

theorem foldl_receive_characters (characters : List Char) (display : Display) :
    (characters.map Event.character).foldl receive display =
      { display with
        text := display.text ++ String.ofList characters
        transcript := display.transcript ++ String.ofList characters } := by
  induction characters generalizing display with
  | nil =>
    show display = { display with
      text := display.text ++ ""
      transcript := display.transcript ++ "" }
    rw [String.append_empty, String.append_empty]
  | cons character rest inductionHypothesis =>
    have longer (before : String) : before.push character ++ String.ofList rest =
        before ++ String.ofList (character :: rest) := by
      apply String.toList_injective
      simp
    rw [List.map_cons, List.foldl_cons, inductionHypothesis]
    show { display with
      text := display.text.push character ++ String.ofList rest
      transcript := display.transcript.push character ++ String.ofList rest } = _
    rw [longer, longer]

/-- A display cannot tell whether it has received an event or its parts. -/
theorem foldl_receive_parts (display : Display) (event : Event) :
    event.parts.foldl receive display = display.receive event := by
  cases event with
  | text content =>
    show (content.toList.map Event.character).foldl receive display = _
    rw [foldl_receive_characters, String.ofList_toList]
    rfl
  | character | clear | error => rfl

theorem receiveAll_eq (display : Display) (events : Array Event) :
    display.receiveAll events = (events.toList.flatMap Event.parts).foldl receive display := by
  unfold receiveAll
  rw [← Array.foldl_toList]
  generalize events.toList = list
  induction list generalizing display with
  | nil => rfl
  | cons event rest inductionHypothesis =>
    rw [List.foldl_cons, inductionHypothesis, List.flatMap_cons, List.foldl_append,
      foldl_receive_parts]

end Display

namespace Player

/-- What a player has put out, in its smallest parts. -/
def stream (player : Player) : List Event := player.events.toList.flatMap Event.parts

theorem stream_emit (player : Player) (event : Event) :
    (player.emit event).stream = player.stream ++ event.parts := by
  show (player.events.push event).toList.flatMap Event.parts = _
  rw [Array.toList_push, List.flatMap_append, List.flatMap_singleton]
  rfl

theorem stream_prefix_of_continues {player later : Player} (continues : player.Continues later) :
    player.stream <+: later.stream := by
  obtain ⟨further, together⟩ := continues.events
  refine ⟨further.flatMap Event.parts, ?_⟩
  unfold stream
  rw [← together, List.flatMap_append]

/-- What a display shows is decided by the stream. -/
theorem receiveAll_of_stream {player other : Player} (same : player.stream = other.stream)
    (display : Display) : display.receiveAll player.events = display.receiveAll other.events := by
  rw [Display.receiveAll_eq, Display.receiveAll_eq]
  exact congrArg (List.foldl Display.receive display) same

end Player

/-! ### Stories -/

/-- What has been told so far, and all that decides how the play goes on. -/
structure Story where
  programme : Programme
  scope : Scope
  status : Status
  scene : Nat
  beat : Nat
  node : Nat
  deferred : List Expr
  epoch : Nat
  stream : List Event

namespace Player

/-- The story of a player. -/
def story (player : Player) : Story where
  programme := player.programme
  scope := player.scope
  status := player.status
  scene := player.scene
  beat := player.beat
  node := player.visit.node
  deferred := player.visit.deferred
  epoch := player.epoch
  stream := player.stream

theorem story_emit (player : Player) (event : Event) :
    (player.emit event).story = { player.story with stream := player.stream ++ event.parts } := by
  rw [← stream_emit]
  rfl

/-- Showing what is pending adds it to the stream. -/
theorem story_showPending (player : Player) :
    player.showPending.story = { player.story with
      stream := player.stream ++ player.visit.typing.pending.map Event.character } := by
  unfold showPending
  dsimp only
  by_cases nothing : player.visit.typing.pending = []
  · rw [if_pos nothing, nothing, List.map_nil, List.append_nil]
    rfl
  · rw [if_neg nothing]
    show (player.emit (.text (String.ofList player.visit.typing.pending))).story = _
    rw [story_emit]
    show { player.story with
      stream := player.stream ++
        (String.ofList player.visit.typing.pending).toList.map Event.character } = _
    rw [String.toList_ofList]

theorem pending_showPending (player : Player) : player.showPending.visit.typing.pending = [] := by
  unfold showPending
  dsimp only
  split <;> rfl

theorem story_showPending_of_nil {player : Player} (nothing : player.visit.typing.pending = []) :
    player.showPending.story = player.story := by
  rw [story_showPending, nothing, List.map_nil, List.append_nil]
  rfl

/-- Two players of a programme have the same story, and nothing is left to be typed. -/
structure SameStory (programme : Programme) (player other : Player) : Prop where
  story : player.story = other.story
  programme : player.programme = programme
  pending : player.visit.typing.pending = []
  otherPending : other.visit.typing.pending = []

namespace SameStory

variable {programme : Programme} {player other : Player}

theorem status_eq (same : player.SameStory programme other) : player.status = other.status :=
  congrArg Story.status same.story

theorem stream_eq (same : player.SameStory programme other) : player.stream = other.stream :=
  congrArg Story.stream same.story

theorem scope_eq (same : player.SameStory programme other) : player.scope = other.scope :=
  congrArg Story.scope same.story

theorem epoch_eq (same : player.SameStory programme other) : player.epoch = other.epoch :=
  congrArg Story.epoch same.story

theorem nodes_eq (same : player.SameStory programme other) : player.nodes = other.nodes :=
  congrArg (fun story => (story.programme.beat? story.scene story.beat).getD []) same.story

theorem emit (same : player.SameStory programme other) (event : Event) :
    (player.emit event).SameStory programme (other.emit event) where
  story := by
    rw [story_emit, story_emit, same.stream_eq, same.story]
  programme := same.programme
  pending := same.pending
  otherPending := same.otherPending

theorem enterBeat (same : player.SameStory programme other) (beat : Nat) :
    (player.enterBeat beat).SameStory programme (other.enterBeat beat) where
  story := congrArg (fun story : Story =>
    { story with
      beat := beat
      node := 0
      deferred := []
      epoch := story.epoch + 1
      status := if (story.programme.beat? story.scene beat).isSome then .emitting else .done })
    same.story
  programme := same.programme
  pending := rfl
  otherPending := rfl

theorem loadScene (same : player.SameStory programme other) (name : String) :
    Option.Rel (SameStory programme) (player.loadScene? name) (other.loadScene? name) := by
  unfold loadScene?
  have found : player.programme.sceneIndex? name = other.programme.sceneIndex? name :=
    congrArg (fun story => story.programme.sceneIndex? name) same.story
  rw [found]
  cases other.programme.sceneIndex? name with
  | none => exact .none
  | some scene =>
    have placed : SameStory programme
        { player with scene := scene, settings := player.defaults, instant := false }
        { other with scene := scene, settings := other.defaults, instant := false } :=
      ⟨congrArg (fun story : Story => { story with scene := scene }) same.story, same.programme,
        same.pending, same.otherPending⟩
    exact .some (placed.enterBeat 0)

theorem showPending (same : player.SameStory programme other) :
    player.showPending.SameStory programme other.showPending where
  story := by
    rw [story_showPending_of_nil same.pending, story_showPending_of_nil same.otherPending]
    exact same.story
  programme := player.standsWith_showPending.programme.trans same.programme
  pending := player.pending_showPending
  otherPending := other.pending_showPending

end SameStory

/-- Every single change keeps two stories the same. -/
theorem steering_sameStory (programme : Programme) :
    KeptBySteering False (fun _ => True) Controls.stuck Controls.stuck (SameStory programme) where
  scope same := same.scope_eq
  assignment scope same := ⟨congrArg (fun story : Story =>
    { story with scope := scope }) same.story, same.programme, same.pending, same.otherPending⟩
  emit event same := same.emit event
  setInstant _ same := ⟨same.story, same.programme, same.pending, same.otherPending⟩
  switchInstant same := ⟨same.story, same.programme, same.pending, same.otherPending⟩
  setConfirmFlushes _ same := ⟨same.story, same.programme, same.pending, same.otherPending⟩
  switchConfirmFlushes same := ⟨same.story, same.programme, same.pending, same.otherPending⟩
  setSpeed _ same _ := ⟨same.story, same.programme, same.pending, same.otherPending⟩
  setPause _ same := ⟨same.story, same.programme, same.pending, same.otherPending⟩
  loadScene name _ same := same.loadScene name
  endScene same := ⟨congrArg (fun story : Story =>
    { story with node := 0, deferred := [], epoch := story.epoch + 1, status := .done }) same.story,
    same.programme, rfl, rfl⟩
  skipBeat _ _ := not_false
  continueBeat _ _ := not_false

theorem keptByFlushing_sameStory (programme : Programme) :
    KeptByFlushing (SameStory programme) where
  steering := steering_sameStory programme
  status same := same.status_eq
  nodes same := same.nodes_eq
  node same := congrArg Story.node same.story
  deferred same := congrArg Story.deferred same.story
  epoch visits same := by rw [visits.epoch_eq, same.epoch_eq]
  passNode same := ⟨congrArg (fun story : Story =>
    { story with node := story.node + 1 }) same.story, same.programme, same.pending,
    same.otherPending⟩
  defer expression same := ⟨congrArg (fun story : Story =>
    { story with deferred := story.deferred ++ [expression] }) same.story, same.programme,
    same.pending, same.otherPending⟩
  wait same := ⟨congrArg (fun story : Story => { story with status := .waiting }) same.story,
    same.programme, same.pending, same.otherPending⟩
  showPending same := same.showPending
  withoutTime same := ⟨same.story, same.programme, same.pending, same.otherPending⟩
  takeDeferred same := ⟨congrArg (fun story : Story => { story with deferred := [] }) same.story,
    same.programme, same.pending, same.otherPending⟩
  enterBeat {player other} same := by
    rw [show player.beat = other.beat from congrArg Story.beat same.story]
    exact same.enterBeat _

end Player

end Playscript
