/-
This file plays beats. Time lets a player type and load nodes; a confirmation shows the rest of a
beat at once, or finishes a beat that waits. Expressions are evaluated against the player itself and
may move it on, and work that was begun in a beat is dropped when the player has left that beat.

The operations in the registry may call the player again. An answer "none" means that one of them
did not return.
-/

import Playscript.Expr.Evaluation
import Playscript.Playback.Player

namespace Playscript.Player

/-! ### Nodes -/

/-- Begins to type a text. -/
def beginTyping (player : Player) (text : String) : Player :=
  { player with visit := { player.visit with typing := .start text } }

/-- Shows a text at once, or begins to type it. -/
def render (player : Player) (atOnce : Bool) (text : String) : Player :=
  if atOnce then player.emit (.text text) else player.beginTyping text

/-- Shows a value that an expression gave during a visit. A failed expression has no value, and
after the visit nothing is shown. -/
def renderValue (player : Player) (epoch : Nat) (atOnce : Bool) : Option Value → Player
  | none => player
  | some value => if player.epoch = epoch then player.render atOnce value.text else player

/-- Puts an expression off until the beat is confirmed. -/
def defer (player : Player) (expression : Expr) : Player :=
  { player with visit := { player.visit with deferred := player.visit.deferred ++ [expression] } }

/-- Goes past the next node. -/
def passNode (player : Player) : Player :=
  { player with visit := { player.visit with node := player.visit.node + 1 } }

variable (registry : Registry Player)

/-- Evaluates an expression. Its value comes with the player after it; an error is put out, and
there is no value. -/
def evaluate (expression : Expr) (player : Player) : Option (Option Value × Player) :=
  match expression.eval registry player with
  | none => none
  | some (.ok value, later) => some (some value, later)
  | some (.error error, later) => some (none, later.emit (.error error.message))

/-- Plays a node that the player has just gone past. -/
def playNode (flushing : Bool) (node : Node Expr) (player : Player) : Option Player :=
  match node with
  | .text content => some (player.render (player.instant || flushing) content)
  | .instantString content => some (player.render true content)
  | .typewriterString content => some (player.render flushing content)
  | .inlineExpr expression => (player.evaluate registry expression).map Prod.snd
  | .deferredExpr expression => some (player.defer expression)
  | .instantExpr expression =>
    (player.evaluate registry expression).map fun (value?, later) =>
      later.renderValue player.epoch true value?
  | .typewriterExpr expression =>
    (player.evaluate registry expression).map fun (value?, later) =>
      later.renderValue player.epoch flushing value?

/-- Plays the next node. If there is none, the beat has been played to its end. -/
def loadNode (flushing : Bool) (player : Player) : Option Player :=
  match player.node? with
  | none => some { player with status := .waiting }
  | some node => player.passNode.playNode registry flushing node

/-- How often a node is loaded at most: once for each node that is left, and once to find that there
is none. -/
def rounds (player : Player) : Nat := player.nodes.length - player.visit.node + 1

/-! ### Showing the rest -/

/-- Shows what is left of the text that is being typed. -/
def showPending (player : Player) : Player :=
  let pending := player.visit.typing.pending
  let shown := if pending = [] then player else player.emit (.text (String.ofList pending))
  { shown with visit := { shown.visit with typing := shown.visit.typing.finish } }

/-- Plays nodes at once until the visit is over or the beat has been played to its end. Nodes are
loaded so often at most. -/
def flushNodes (epoch rounds : Nat) (player : Player) : Option Player :=
  if player.status = .emitting ∧ player.epoch = epoch then
    match rounds with
    | 0 => none
    | rounds + 1 => (player.loadNode registry true).bind (flushNodes epoch rounds)
  else some player

/-- Drops the time that has elapsed and the pause, unless the visit is over. -/
def dropTime (epoch : Nat) (player : Player) : Player :=
  if player.epoch = epoch then
    { player with visit := { player.visit with pause := 0, elapsed := 0 } }
  else player

/-- Shows the rest of a beat at once. -/
def continueBeat (player : Player) : Option Player :=
  if player.status = .emitting then
    (flushNodes registry player.epoch player.rounds player.showPending).map (dropTime player.epoch)
  else some player

/-! ### Finishing a beat -/

/-- Evaluates expressions, one after the other, for what they do. -/
def evaluateAll : List Expr → Player → Option Player
  | [], player => some player
  | expression :: rest, player =>
    (player.evaluate registry expression).bind fun (_, later) => evaluateAll rest later

/-- Takes the deferred expressions off the player. -/
def takeDeferred (player : Player) : List Expr × Player :=
  (player.visit.deferred, { player with visit := { player.visit with deferred := [] } })

/-- Evaluates the deferred expressions, wipes the display, and goes to the next beat unless an
expression has already moved the player. -/
def finishBeat (player : Player) : Option Player :=
  let (deferred, player) := player.takeDeferred
  (evaluateAll registry deferred player).map fun later =>
    let wiped := later.clearOutput
    if wiped.status = .waiting then wiped.enterBeat (wiped.beat + 1) else wiped

/-- Takes a confirmation: it shows the rest of a beat, where the settings allow that, or finishes a
beat that waits. -/
def confirm (player : Player) : Option Player :=
  match player.status with
  | .emitting =>
    if player.settings.confirmFlushes then player.continueBeat registry else some player
  | .waiting => player.finishBeat registry
  | .done => some player

/-- Shows the rest of a beat and finishes it. -/
def skipBeat (player : Player) : Option Player :=
  (player.continueBeat registry).bind fun later =>
    if later.status = .waiting then later.finishBeat registry else some later

/-! ### Letting time pass -/

/-- Types the next character, which is given together with those after it. -/
def typeCharacter (player : Player) (interval : Float) (character : Char) (rest : List Char) :
    Player :=
  let typing : Typing := ⟨character :: player.visit.typing.shown, rest⟩
  { player with
    events := player.events.push (.character character)
    visit := { player.visit with typing := typing, elapsed := player.visit.elapsed - interval } }

/-- Types the given characters, which are the pending ones, as long as there is time for the next
one. -/
def typeWhileTime (interval : Float) : List Char → Player → Player
  | [], player => player
  | character :: rest, player =>
    if player.visit.elapsed < interval then player
    else typeWhileTime interval rest (player.typeCharacter interval character rest)

/-- Types pending characters as long as there is time for the next one. -/
def typePending (player : Player) : Player :=
  typeWhileTime player.settings.charInterval player.visit.typing.pending player

/-- Types and plays nodes until the time is used up, or the visit or the beat is over, or a pause
begins. Nodes are loaded so often at most. -/
def playFrame (epoch rounds : Nat) (player : Player) : Option Player :=
  if player.status = .emitting ∧ player.visit.pause ≤ 0 ∧ player.epoch = epoch then
    let typed := player.typePending
    if typed.visit.typing.pending = [] then
      match rounds with
      | 0 => none
      | rounds + 1 => (typed.loadNode registry false).bind (playFrame epoch rounds)
    else some typed
  else some player

/-- Adds to the time that has elapsed. -/
def elapse (player : Player) (milliseconds : Float) : Player :=
  { player with visit := { player.visit with elapsed := player.visit.elapsed + milliseconds } }

/-- Lets time pass; what is no positive number of milliseconds counts as no time. A pause uses time
up before anything is played. -/
def advance (player : Player) (milliseconds : Float) : Option Player :=
  if player.status = .emitting then
    let time := if milliseconds.isFinite && 0 < milliseconds then milliseconds else 0
    let pause := player.visit.pause
    if 0 < pause then
      if time < pause then
        some { player with visit := { player.visit with pause := pause - time } }
      else
        let resumed := { player with visit := { player.visit with pause := 0 } }
        playFrame registry player.epoch player.rounds (resumed.elapse (time - pause))
    else playFrame registry player.epoch player.rounds (player.elapse time)
  else some player

end Playscript.Player
