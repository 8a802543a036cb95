/-
This file follows two cursors that count bytes. One goes over a script: it passes byte after byte
and counts a position for each. When it has passed the bytes of a piece it stands at the place
behind the piece, so a place needs no cursor to know its position.

The other is in the text that is being typed. It is set to the start when a text begins, goes on by
the bytes of each character that is typed, and goes to the end when the rest is shown at once. So it
never stands inside a character, and what is read from it on is what the player has pending.
-/

import Mathlib.Logic.Relation
import Playscript.Proofs.Locating
import Playscript.Proofs.WellFormed

namespace Playscript

/-! ### A cursor in a script -/

/-- The position behind a piece is counted over its bytes, from the place before it. -/
theorem Place.position_behind (place : Place) (piece : Piece) :
    (place.behind piece).position =
      (encoded piece.taken).foldl Position.afterByte place.position :=
  (Position.foldl_afterByte_encoded place.position piece.taken).symm

/-- The position of a mistake or a token. -/
def findingPosition : Except Mistake Token → Position
  | .error mistake => mistake.position
  | .ok token => token.position

/-- Pieces in turn are the front of the text. -/
theorem InTurn.exists_whole {before rest : List Char}
    {front later : List (List Char × Except Mistake Token)}
    (inTurn : InTurn before rest (front ++ later)) :
    ∃ after, rest = front.flatMap Prod.fst ++ after := by
  induction front generalizing before rest with
  | nil => exact ⟨rest, rfl⟩
  | cons first front inductionHypothesis =>
    obtain ⟨after, rfl, -, others⟩ := inTurn
    obtain ⟨last, rfl⟩ := inductionHypothesis others
    exact ⟨last, by rw [List.flatMap_cons, List.append_assoc]⟩

/-- A cursor in the bytes of a text: the bytes that it has passed, those ahead of it, and the
position, which counts every byte that was passed. -/
structure ByteCursor where
  passed : List UInt8
  ahead : List UInt8
  position : Position
  counted : position = passed.foldl Position.afterByte .start

namespace ByteCursor

/-- The cursor before a whole text. -/
def start (text : List Char) : ByteCursor := ⟨[], encoded text, .start, rfl⟩

/-- Passes one byte, if there is one. -/
def advance (cursor : ByteCursor) : ByteCursor :=
  match cursor.ahead with
  | [] => cursor
  | byte :: rest =>
    { passed := cursor.passed ++ [byte]
      ahead := rest
      position := cursor.position.afterByte byte
      counted := by rw [List.foldl_append, ← cursor.counted]; rfl }

/-- Passes so many bytes, or all that are left. -/
def advanceBy : Nat → ByteCursor → ByteCursor
  | 0, cursor => cursor
  | count + 1, cursor => advanceBy count cursor.advance

/-- Whether a line starts here: nothing was passed, or a newline just before. -/
def atLineStart (cursor : ByteCursor) : Bool :=
  match cursor.passed.getLast? with
  | none => true
  | some byte => byte == '\n'.toUInt8

/-- A cursor stands at a place behind some text: what it has passed are the bytes of that text, and
what is ahead of it are those of the text that the place has still to read. -/
structure StandsAt (before : List Char) (place : Place) (cursor : ByteCursor) : Prop where
  passed : cursor.passed = encoded before
  ahead : cursor.ahead = encoded place.rest

variable {before : List Char} {place : Place} {cursor : ByteCursor}

theorem standsAt_start (text : List Char) : (start text).StandsAt [] (.start text) := ⟨rfl, rfl⟩

theorem passed_advanceBy {bytes rest : List UInt8} (ahead : cursor.ahead = bytes ++ rest) :
    (cursor.advanceBy bytes.length).passed = cursor.passed ++ bytes ∧
      (cursor.advanceBy bytes.length).ahead = rest := by
  induction bytes generalizing cursor with
  | nil => exact ⟨(List.append_nil _).symm, ahead⟩
  | cons byte others inductionHypothesis =>
    have passes : cursor.advance.passed = cursor.passed ++ [byte] ∧
        cursor.advance.ahead = others ++ rest := by
      unfold advance
      split
      · rename_i atEnd
        rw [atEnd] at ahead
        cases ahead
      · rename_i same
        rw [same] at ahead
        cases ahead
        exact ⟨rfl, rfl⟩
    obtain ⟨passed, ahead⟩ := inductionHypothesis passes.2
    refine ⟨?_, ahead⟩
    rw [List.length_cons, advanceBy, passed, passes.1, List.append_assoc]
    rfl

/-- The position that was counted byte by byte is that of the place. -/
theorem StandsAt.position_eq (stands : cursor.StandsAt before place)
    (behind : place.Behind before) : cursor.position = place.position := by
  rw [cursor.counted, stands.passed, behind.position_eq]
  exact Position.foldl_afterByte before

/-- The byte before the cursor tells whether a line starts at the place. -/
theorem StandsAt.atLineStart_eq (stands : cursor.StandsAt before place)
    (behind : place.Behind before) : cursor.atLineStart = place.atLineStart := by
  rw [Bool.eq_iff_iff, behind.atLineStart, AtLineStart, atLineStart, stands.passed]
  rcases List.eq_nil_or_concat before with rfl | ⟨front, character, rfl⟩
  · exact iff_of_true rfl (.inl rfl)
  · have lineStart : (front.concat character = [] ∨
        ∃ line, front.concat character = line ++ ['\n']) ↔ character = '\n' := by
      simp
    rw [lineStart, List.concat_eq_append, encoded_append, encoded_cons, encoded_nil,
      List.append_nil, List.getLast?_append_of_ne_nil _ String.utf8EncodeChar_ne_nil]
    by_cases newline : character = '\n'
    · subst newline
      exact iff_of_true rfl rfl
    · obtain ⟨first, others, spells⟩ := exists_spells character
      rw [List.getLast?_eq_some_getLast String.utf8EncodeChar_ne_nil]
      refine iff_of_false ?_ newline
      exact fun same => spells.ne_newline newline _ (List.getLast_mem _) (eq_of_beq same)

/-- Passing the bytes of a piece takes the cursor to the place behind it. -/
theorem StandsAt.next (stands : cursor.StandsAt before place) (behind : place.Behind before) :
    ∃ piece, place.rest = piece ++ place.next.2.rest ∧ place.next.2.Behind (before ++ piece) ∧
      (cursor.advanceBy (encoded piece).length).StandsAt (before ++ piece) place.next.2 := by
  obtain ⟨piece, whole, -, further⟩ := Place.finds_next behind
  have ahead : cursor.ahead = encoded piece ++ encoded place.next.2.rest := by
    rw [stands.ahead, whole, encoded_append]
  obtain ⟨passed, left⟩ := passed_advanceBy ahead
  refine ⟨piece, whole, further, ?_, left⟩
  rw [passed, stands.passed, encoded_append]

theorem advanceBy_add (first second : Nat) (cursor : ByteCursor) :
    cursor.advanceBy (first + second) = (cursor.advanceBy first).advanceBy second := by
  induction first generalizing cursor with
  | zero => rw [Nat.zero_add, advanceBy]
  | succ first inductionHypothesis =>
    rw [Nat.succ_add, advanceBy, advanceBy, inductionHypothesis]

theorem StandsAt.nextPlace (stands : cursor.StandsAt before place) (behind : place.Behind before)
    (count : Nat) : ∃ passed bytes,
      ((fun place : Place => place.next.2)^[count] place).Behind passed ∧
        (cursor.advanceBy bytes).StandsAt passed ((fun place => place.next.2)^[count] place) := by
  induction count generalizing cursor before place with
  | zero => exact ⟨before, 0, behind, stands⟩
  | succ count inductionHypothesis =>
    obtain ⟨piece, -, nextBehind, nextStands⟩ := stands.next behind
    obtain ⟨passed, bytes, further⟩ := inductionHypothesis nextStands nextBehind
    rw [← advanceBy_add] at further
    exact ⟨passed, _, further⟩

/-- However often the next token has been asked for, the cursor can stand at the place: what is left
of the text, the position and whether a line starts are read off the bytes. -/
theorem reads_every_place (text : List Char) (count : Nat) : ∃ bytes,
    ((start text).advanceBy bytes).ahead =
        encoded ((fun place => place.next.2)^[count] (Place.start text)).rest ∧
      ((start text).advanceBy bytes).position =
        ((fun place => place.next.2)^[count] (Place.start text)).position ∧
      ((start text).advanceBy bytes).atLineStart =
        ((fun place => place.next.2)^[count] (Place.start text)).atLineStart := by
  obtain ⟨passed, bytes, behind, stands⟩ :=
    (standsAt_start text).nextPlace (Place.behind_start text) count
  exact ⟨bytes, stands.ahead, stands.position_eq behind, stands.atLineStart_eq behind⟩

/-- The position of whatever is found is what the cursor has counted when it has passed the bytes of
all pieces before. -/
theorem position_of_inTurn {text piece : List Char} {finding : Except Mistake Token}
    {front later : List (List Char × Except Mistake Token)}
    (inTurn : InTurn [] text (front ++ (piece, finding) :: later)) :
    findingPosition finding =
      ((start text).advanceBy (encoded (front.flatMap Prod.fst)).length).position := by
  obtain ⟨after, whole⟩ := inTurn.exists_whole
  have ahead : (start text).ahead = encoded (front.flatMap Prod.fst) ++ encoded after := by
    rw [← encoded_append, ← whole]
    rfl
  obtain ⟨-, later, finds⟩ := inTurn.of_append
  rw [ByteCursor.counted, (passed_advanceBy ahead).1]
  refine Eq.trans ?_ (Position.foldl_afterByte _).symm
  rcases finding with mistake | token
  · exact finds.of_mistake.1
  · exact finds.position_of_token

end ByteCursor

/-! ### A cursor in a text that is typed -/

/-- What stands in a text behind so many bytes. None if these end inside a character, or if the text
is shorter. -/
def dropBytes : Nat → List Char → Option (List Char)
  | 0, text => some text
  | _ + 1, [] => none
  | count + 1, character :: rest =>
    if character.utf8Size ≤ count + 1 then dropBytes (count + 1 - character.utf8Size) rest
    else none

theorem dropBytes_append (front rest : List Char) :
    dropBytes (encoded front).length (front ++ rest) = some rest := by
  induction front with
  | nil => cases rest <;> rfl
  | cons character front inductionHypothesis =>
    obtain ⟨size, isSize⟩ : ∃ size, character.utf8Size = size + 1 :=
      Nat.exists_eq_add_one.mpr character.utf8Size_pos
    have length : (encoded (character :: front)).length = size + (encoded front).length + 1 := by
      rw [encoded_cons, List.length_append, String.length_utf8EncodeChar, isSize]
      omega
    rw [length, List.cons_append, dropBytes, isSize, if_pos (by omega)]
    convert inductionHypothesis using 2
    omega

/-- A text, and how many of its bytes have been typed. -/
structure TextCursor where
  text : List Char := []
  count : Nat := 0

namespace TextCursor

/-- The cursor before a text. -/
def start (text : String) : TextCursor := ⟨text.toList, 0⟩

/-- The text behind the cursor. -/
def rest? (cursor : TextCursor) : Option (List Char) := dropBytes cursor.count cursor.text

/-- The next character, and the cursor behind it. -/
def next? (cursor : TextCursor) : Option (Char × TextCursor) :=
  cursor.rest?.bind fun rest => rest.head?.map fun character =>
    (character, { cursor with count := cursor.count + character.utf8Size })

/-- The cursor at the end of its text. -/
def finish (cursor : TextCursor) : TextCursor :=
  { cursor with count := (encoded cursor.text).length }

/-- How a cursor moves: the text is dropped, another text begins, the next character is passed, or
all that is left. -/
inductive Moves : TextCursor → TextCursor → Prop
  | drop {cursor : TextCursor} : Moves cursor {}
  | start {cursor : TextCursor} (text : String) : Moves cursor (.start text)
  | next {cursor later : TextCursor} {character : Char}
      (next : cursor.next? = some (character, later)) : Moves cursor later
  | finish {cursor : TextCursor} : Moves cursor cursor.finish

end TextCursor

/-! ### The characters that a player holds -/

namespace Typing

/-- The text that is being typed, and the count of the bytes that have been typed. -/
def textCursor (typing : Typing) : TextCursor :=
  ⟨typing.text, (encoded typing.shown.reverse).length⟩

variable (typing : Typing)

theorem count_textCursor : typing.textCursor.count = typing.cursor.byteIdx := by
  show _ = (String.ofList typing.shown.reverse).utf8ByteSize
  rw [← String.size_toByteArray, String.toByteArray_ofList]
  exact List.size_toByteArray.symm

theorem textCursor_start (text : String) : (start text).textCursor = .start text := rfl

/-- The count never ends inside a character. -/
theorem rest?_textCursor : typing.textCursor.rest? = some typing.pending :=
  dropBytes_append typing.shown.reverse typing.pending

theorem next?_textCursor {character : Char} {rest : List Char}
    (pending : typing.pending = character :: rest) : typing.textCursor.next? =
      some (character, textCursor ⟨character :: typing.shown, rest⟩) := by
  unfold TextCursor.next?
  rw [rest?_textCursor, pending]
  have text : typing.text = text ⟨character :: typing.shown, rest⟩ := by
    simp [Typing.text, pending]
  have count : (encoded typing.shown.reverse).length + character.utf8Size =
      (encoded (character :: typing.shown).reverse).length := by
    simp
  exact congrArg some (Prod.ext rfl (congrArg₂ TextCursor.mk text count))

theorem next?_textCursor_eq_none (nothing : typing.pending = []) :
    typing.textCursor.next? = none := by
  unfold TextCursor.next?
  rw [rest?_textCursor, nothing]
  rfl

theorem textCursor_finish : typing.finish.textCursor = typing.textCursor.finish := by
  have typed : typing.finish.shown.reverse = typing.text := by
    simp [finish, text]
  show TextCursor.mk _ (encoded typing.finish.shown.reverse).length = _
  rw [text_finish, typed]
  rfl

end Typing

namespace Player

/-- The cursor in the text that a player is typing. -/
def textCursor (player : Player) : TextCursor := player.visit.typing.textCursor

theorem textCursor_beginTyping (player : Player) (text : String) :
    (player.beginTyping text).textCursor = .start text := rfl

theorem textCursor_enterBeat (player : Player) (beat : Nat) :
    (player.enterBeat beat).textCursor = {} := rfl

/-- Typing a character takes the cursor behind it. -/
theorem textCursor_typeCharacter {player : Player} {character : Char} {rest : List Char}
    (pending : player.visit.typing.pending = character :: rest) (interval : Float) :
    player.textCursor.next? =
      some (character, (player.typeCharacter interval character rest).textCursor) :=
  player.visit.typing.next?_textCursor pending

/-- Typing goes by the character at the cursor. -/
theorem typePending_eq (player : Player) :
    player.typePending =
      match player.textCursor.next? with
      | none => player
      | some (character, _) =>
        if player.visit.elapsed < player.settings.charInterval then player
        else (player.typeCharacter player.settings.charInterval character
          player.visit.typing.pending.tail).typePending := by
  rcases pending : player.visit.typing.pending with _ | ⟨character, rest⟩
  · rw [textCursor, player.visit.typing.next?_textCursor_eq_none pending, typePending, pending]
    rfl
  · rw [textCursor, player.visit.typing.next?_textCursor pending, typePending, pending]
    rfl

/-- What is shown at once is the text behind the cursor, unless nothing is left of it. -/
theorem showPending_events (player : Player) : player.textCursor.rest?.map (fun rest =>
      if rest = [] then player.events else player.events.push (.text (String.ofList rest))) =
    some player.showPending.events := by
  rw [textCursor, Typing.rest?_textCursor]
  unfold showPending
  dsimp only [Option.map_some]
  split <;> rfl

theorem textCursor_showPending (player : Player) :
    player.showPending.textCursor = player.textCursor.finish := by
  refine Eq.trans ?_ player.visit.typing.textCursor_finish
  unfold showPending textCursor
  dsimp only
  split <;> rfl

/-! ### Moves along a run -/

/-- The cursor of a later player is where moves have taken it. -/
def MovesTo (player later : Player) : Prop :=
  Relation.ReflTransGen TextCursor.Moves player.textCursor later.textCursor

theorem MovesTo.trans {player middle later : Player} (first : player.MovesTo middle)
    (second : middle.MovesTo later) : player.MovesTo later :=
  Relation.ReflTransGen.trans first second

theorem movesTo_of_typing_eq {player later : Player}
    (same : later.visit.typing = player.visit.typing) : player.MovesTo later := by
  unfold MovesTo textCursor
  rw [same]

theorem movesTo_of_drop {player later : Player} (dropped : later.textCursor = {}) :
    player.MovesTo later := by
  unfold MovesTo
  rw [dropped]
  exact .single .drop

theorem movesTo_render (player : Player) (atOnce : Bool) (text : String) :
    player.MovesTo (player.render atOnce text) := by
  cases atOnce with
  | true => exact movesTo_of_typing_eq rfl
  | false => exact .single (.start text)

theorem movesTo_renderValue (player : Player) (epoch : Nat) (atOnce : Bool)
    (value? : Option Value) : player.MovesTo (player.renderValue epoch atOnce value?) :=
  renderValue_cases value? .refl fun text _ => player.movesTo_render atOnce text

theorem movesTo_loadScene {player later : Player} {name : String}
    (loaded : player.loadScene? name = some later) : player.MovesTo later := by
  obtain ⟨scene, -, rfl⟩ := Option.map_eq_some_iff.mp loaded
  exact movesTo_of_drop rfl

theorem movesTo_showPending (player : Player) : player.MovesTo player.showPending := by
  unfold MovesTo
  rw [textCursor_showPending]
  exact .single .finish

theorem movesTo_dropTime (player : Player) (epoch : Nat) :
    player.MovesTo (player.dropTime epoch) := by
  unfold dropTime
  split
  · exact movesTo_of_typing_eq rfl
  · exact .refl

theorem movesTo_typeWhileTime (interval : Float) (pending : List Char) (player : Player)
    (isPending : player.visit.typing.pending = pending) :
    player.MovesTo (typeWhileTime interval pending player) := by
  induction pending generalizing player with
  | nil => exact .refl
  | cons character rest inductionHypothesis =>
    unfold typeWhileTime
    split
    · exact .refl
    · have typed : player.MovesTo (player.typeCharacter interval character rest) :=
        .single (.next (textCursor_typeCharacter isPending interval))
      exact typed.trans (inductionHypothesis _ rfl)

end Player

/-- Nested calls that only move the cursor. -/
structure Controls.KeepMoves (controls : Controls) : Prop where
  skipBeat : ∀ player : Player, Ends False player.MovesTo (controls.skipBeat player)
  continueBeat : ∀ player : Player, Ends False player.MovesTo (controls.continueBeat player)

namespace Player

variable {controls : Controls} (keep : controls.KeepMoves)

include keep

theorem lastsThroughSteering_movesTo (player : Player) :
    LastsThroughSteering False (fun _ => True) controls player.MovesTo where
  assignment _ moves := moves
  emit _ moves := moves
  setInstant _ moves := moves
  setConfirmFlushes _ moves := moves
  setSpeed _ moves _ := moves
  setPause _ moves := moves
  loadScene _ moves loaded := moves.trans (movesTo_loadScene loaded)
  endScene moves := moves.trans (movesTo_of_drop rfl)
  skipBeat _ moves := (keep.skipBeat _).imp fun _ further => moves.trans further
  continueBeat _ moves := (keep.continueBeat _).imp fun _ further => moves.trans further

theorem movesTo_evaluate (player : Player) (expression : Expr) :
    Ends False (fun outcome : Option Value × Player => player.MovesTo outcome.2)
      (player.evaluate (Builtin.registry controls) expression) :=
  (lastsThroughSteering_movesTo keep player).ends_evaluate expression (fun _ _ => trivial) .refl

theorem movesTo_loadNode (flushing : Bool) (player : Player) :
    Ends False player.MovesTo (player.loadNode (Builtin.registry controls) flushing) := by
  have passed : player.MovesTo player.passNode := movesTo_of_typing_eq rfl
  unfold loadNode
  cases player.node? with
  | none => exact movesTo_of_typing_eq rfl
  | some node =>
    refine Ends.imp ?_ fun later (moves : player.passNode.MovesTo later) => passed.trans moves
    cases node with
    | text content => exact movesTo_render _ _ content
    | instantString content => exact movesTo_render _ true content
    | typewriterString content => exact movesTo_render _ flushing content
    | inlineExpr expression =>
      exact (movesTo_evaluate keep _ expression).map fun _ moves => moves
    | deferredExpr expression => exact movesTo_of_typing_eq rfl
    | instantExpr expression | typewriterExpr expression =>
      exact (movesTo_evaluate keep _ expression).map fun outcome moves =>
        moves.trans (outcome.2.movesTo_renderValue _ _ _)

theorem movesTo_finishBeat (player : Player) :
    Ends False player.MovesTo (player.finishBeat (Builtin.registry controls)) := by
  unfold finishBeat
  have evaluated := (lastsThroughSteering_movesTo keep player).ends_evaluateAll
    player.visit.deferred (fun _ _ _ _ => trivial)
    (movesTo_of_typing_eq (rfl : player.takeDeferred.2.visit.typing = player.visit.typing))
  refine evaluated.map fun later moves => ?_
  dsimp only
  split
  · exact moves.trans (movesTo_of_drop rfl)
  · exact moves

variable (forward : controls.Forward)

include forward

theorem movesTo_flushNodes (epoch rounds : Nat) {player middle : Player}
    (moves : player.MovesTo middle) :
    Ends False player.MovesTo (flushNodes (Builtin.registry controls) epoch rounds middle) :=
  (ends_flushNodes forward (fun other moves _ =>
    (movesTo_loadNode keep true other).imp fun _ further => moves.trans further)
    rounds moves False.elim).imp fun _ ended => ended.1

theorem movesTo_continueBeat (player : Player) :
    Ends False player.MovesTo (player.continueBeat (Builtin.registry controls)) := by
  unfold Player.continueBeat
  split
  · exact (movesTo_flushNodes keep forward _ _ player.movesTo_showPending).map
      fun later moves => moves.trans (later.movesTo_dropTime _)
  · exact Relation.ReflTransGen.refl

theorem movesTo_skipBeat (player : Player) :
    Ends False player.MovesTo (player.skipBeat (Builtin.registry controls)) := by
  unfold Player.skipBeat
  refine (movesTo_continueBeat keep forward player).bind fun middle moves => ?_
  split
  · exact (movesTo_finishBeat keep middle).imp fun _ further => moves.trans further
  · exact moves

theorem movesTo_confirm (player : Player) :
    Ends False player.MovesTo (player.confirm (Builtin.registry controls)) := by
  unfold Player.confirm
  split
  · split
    · exact movesTo_continueBeat keep forward player
    · exact Relation.ReflTransGen.refl
  · exact movesTo_finishBeat keep player
  · exact Relation.ReflTransGen.refl

theorem movesTo_advance (milliseconds : Float) (player : Player) :
    Ends False player.MovesTo (player.advance (Builtin.registry controls) milliseconds) := by
  have timed (pause elapsed : Float) : player.MovesTo (player.withTime pause elapsed) :=
    movesTo_of_typing_eq rfl
  rcases player.advance_cases (Builtin.registry controls) milliseconds with
    ⟨pause, elapsed, outcome⟩ | ⟨-, pause, elapsed, outcome⟩
  · rw [outcome]
    exact timed pause elapsed
  · rw [outcome]
    exact ends_playFrame forward
      (fun middle moves _ => moves.trans (movesTo_typeWhileTime _ _ middle rfl))
      (fun middle moves _ _ =>
        (movesTo_loadNode keep false middle).imp fun _ further => moves.trans further)
      _ (timed pause elapsed) False.elim

end Player

theorem Controls.keepMoves_builtin (depth : Nat) : (Controls.builtin depth).KeepMoves := by
  induction depth with
  | zero => exact ⟨fun _ => not_false, fun _ => not_false⟩
  | succ depth inductionHypothesis =>
    have forward := Controls.forward_builtin depth
    exact ⟨Player.movesTo_skipBeat inductionHypothesis forward,
      Player.movesTo_continueBeat inductionHypothesis forward⟩

namespace Request

theorem movesTo_fulfil (depth : Nat) (request : Request) (player : Player) :
    Ends False (fun outcome : Answer × Player => player.MovesTo outcome.2)
      (request.fulfil (Controls.builtin depth) player) := by
  have stays : player.MovesTo player := .refl
  cases request with
  | advance milliseconds =>
    cases depth with
    | zero => exact not_false
    | succ depth =>
      exact (Player.movesTo_advance (Controls.keepMoves_builtin depth)
        (Controls.forward_builtin depth) milliseconds player).map fun _ moves => moves
  | confirm =>
    cases depth with
    | zero => exact not_false
    | succ depth =>
      exact (Player.movesTo_confirm (Controls.keepMoves_builtin depth)
        (Controls.forward_builtin depth) player).map fun _ moves => moves
  | continueBeat =>
    exact ((Controls.keepMoves_builtin depth).continueBeat player).map fun _ moves => moves
  | skipBeat => exact ((Controls.keepMoves_builtin depth).skipBeat player).map fun _ moves => moves
  | loadScene name =>
    exact ends_fulfil_loadScene stays fun _ loaded => Player.movesTo_loadScene loaded
  | endScene => exact Player.movesTo_of_drop rfl
  | setSpeed charsPerSecond => exact ends_fulfil_setSpeed stays fun _ => stays
  | pause milliseconds => exact ends_fulfil_pause stays stays
  | _ => exact stays

/-- Whatever a host asks for, the text and the count of bytes change by the moves of a cursor
only. -/
theorem movesTo_of_run {depth : Nat} {requests : List Request} {player later : Player}
    {answers : List Answer}
    (run : fulfilAll (Controls.builtin depth) requests player = some (answers, later)) :
    player.MovesTo later := by
  have ends : Ends False (fun outcome : List Answer × Player => player.MovesTo outcome.2)
      (fulfilAll (Controls.builtin depth) requests player) :=
    ends_fulfilAll requests (fun request _ middle moves =>
      (movesTo_fulfil depth request middle).imp fun _ further => moves.trans further) .refl
  rw [run] at ends
  exact ends

end Request

end Playscript
