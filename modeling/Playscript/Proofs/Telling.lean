/-
This file tells scenes. To tell a scene is to say what it says, and there is neither time nor a
player in it: the nodes of a beat come one after the other, then the expressions that the beat has
put off, then the display is wiped, and the next beat follows. What has been told is a stream, in
which a text is its characters.

Nothing can be steered here. The operations that set the pace of a play look at their arguments and
do nothing else, and those that decide where a play goes on are unknown. A player is held against
this, where a scene calls none of the latter.
-/

import Playscript.Playback.Builtin
import Playscript.Proofs.Calls
import Playscript.Proofs.Steering
import Playscript.Proofs.Story

namespace Playscript

/-! ### Operations -/

namespace Builtin

/-- Whether an operation decides where a play goes on. -/
def steers : Builtin → Bool
  | goto | skip | flush | finish => true
  | instant | flushing | speed | pause | clear => false

/-- What is wrong with the arguments of an operation that does not steer. -/
def misuse? (builtin : Builtin) (arguments : List Value) : Option Misuse :=
  match builtin, arguments with
  | speed, [argument] =>
    match speedArgument argument with
    | .ok charsPerSecond =>
      if Settings.isSpeed charsPerSecond then none else some (.refused (.speed charsPerSecond))
    | .error misuse => some misuse
  | pause, [argument] =>
    match pauseArgument argument with
    | .ok milliseconds =>
      if milliseconds.isFinite && 0 ≤ milliseconds then none
      else some (.refused (.pause milliseconds))
    | .error misuse => some misuse
  | _, _ =>
    let (least, greatest) := builtin.argumentBounds
    if least ≤ arguments.length ∧ arguments.length ≤ greatest then none
    else some (.argumentCount least greatest arguments.length)

end Builtin

/-! ### Scenes that stay -/

/-- An expression calls nothing that decides where a play goes on. -/
def Expr.Stays (expression : Expr) : Prop :=
  ∀ builtin : Builtin, builtin.steers = true → builtin.name ∉ expression.calls

/-- No expression of a scene calls anything that decides where a play goes on. -/
def Scene.Stays (scene : Scene) : Prop :=
  ∀ nodes ∈ scene.beats, ∀ node ∈ nodes, ∀ builtin : Builtin, builtin.steers = true →
    builtin.name ∉ node.calls

instance (scene : Scene) : Decidable scene.Stays :=
  decidable_of_iff (∀ nodes ∈ scene.beats, ∀ node ∈ nodes, ∀ builtin ∈ Builtin.all,
      builtin.steers = true → builtin.name ∉ node.calls)
    ⟨fun stays nodes beat node member builtin =>
      stays nodes beat node member builtin builtin.mem_all,
    fun stays nodes beat node member builtin _ => stays nodes beat node member builtin⟩

theorem Scene.Stays.expression {scene : Scene} (stays : scene.Stays) {nodes : List (Node Expr)}
    {node : Node Expr} {expression : Expr} (beat : nodes ∈ scene.beats) (member : node ∈ nodes)
    (holds : node.expression? = some expression) : expression.Stays := by
  intro builtin steers called
  exact stays nodes beat node member builtin steers (Node.mem_calls_of_expression holds called)

/-! ### Tellings -/

/-- How far a scene has been told: the variables as they are, and the stream of what has been
told. -/
structure Telling where
  scope : Scope
  stream : List Event

instance : HasScope Telling where
  scope telling := telling.scope
  withScope telling scope := { telling with scope := scope }

namespace Telling

/-- Tells one thing more. -/
def tell (telling : Telling) (event : Event) : Telling :=
  { telling with stream := telling.stream ++ event.parts }

/-- An operation that does not steer refuses its arguments or gives null. Only wiping the display
can be told. -/
def operation (builtin : Builtin) : Operation Telling := fun arguments telling =>
  match builtin.misuse? arguments with
  | some misuse => some (.error misuse.message, telling)
  | none => some (.ok .null, if builtin = .clear then telling.tell .clear else telling)

/-- The operations that do not steer under their names. -/
def registry : Registry Telling :=
  (Builtin.all.filter fun builtin => !builtin.steers).foldl
    (fun table builtin => table.insert builtin.name (operation builtin)) Table.empty

/-- Evaluates an expression. An error is told, and there is no value. -/
def evaluate (telling : Telling) (expression : Expr) : Option (Option Value × Telling) :=
  match expression.eval registry telling with
  | none => none
  | some (.ok value, later) => some (some value, later)
  | some (.error error, later) => some (none, later.tell (.error error.message))

/-- Tells a value, if there is one. -/
def tellValue (telling : Telling) : Option Value → Telling
  | none => telling
  | some value => telling.tell (.text value.text)

/-- Tells a node. A text is told as it is, an expression is evaluated once, and its value is told
where it is to be seen. An expression that is put off is not looked at yet. -/
def tellNode (telling : Telling) : Node Expr → Option Telling
  | .text content | .instantString content | .typewriterString content =>
    some (telling.tell (.text content))
  | .inlineExpr expression => (telling.evaluate expression).map Prod.snd
  | .deferredExpr _ => some telling
  | .instantExpr expression | .typewriterExpr expression =>
    (telling.evaluate expression).map fun (value?, later) => later.tellValue value?

/-- Evaluates an expression that has been put off, for what it does. -/
def fire (telling : Telling) (expression : Expr) : Option Telling :=
  (telling.evaluate expression).map Prod.snd

/-- Tells a beat: its nodes, then the expressions that it has put off; then the display is wiped. -/
def tellBeat (telling : Telling) (nodes : List (Node Expr)) : Option Telling := do
  let played ← nodes.foldlM tellNode telling
  let fired ← (nodes.filterMap Node.deferred?).foldlM fire played
  pure (fired.tell .clear)

/-- Tells a scene, one beat after the other. -/
def tellScene (telling : Telling) (scene : Scene) : Option Telling :=
  scene.beats.foldlM tellBeat telling

/-! ### The rest of a beat -/

/-- Tells the nodes that are left of a beat. Some expressions have been put off before. -/
def tellRest (telling : Telling) (deferred : List Expr) (nodes : List (Node Expr)) :
    Option Telling := do
  let played ← nodes.foldlM tellNode telling
  let fired ← (deferred ++ nodes.filterMap Node.deferred?).foldlM fire played
  pure (fired.tell .clear)

/-- A node is told, and what it puts off is put off. -/
theorem tellRest_cons (telling : Telling) (deferred : List Expr) (node : Node Expr)
    (rest : List (Node Expr)) :
    telling.tellRest deferred (node :: rest) =
      (telling.tellNode node).bind fun later =>
        later.tellRest (deferred ++ node.deferred?.toList) rest := by
  have putOff : deferred ++ (node :: rest).filterMap Node.deferred? =
      deferred ++ node.deferred?.toList ++ rest.filterMap Node.deferred? := by
    rw [List.append_assoc]
    cases putsOff : node.deferred? with
    | none => rw [List.filterMap_cons_none putsOff]; rfl
    | some expression => rw [List.filterMap_cons_some putsOff]; rfl
  unfold tellRest
  rw [putOff, List.foldlM_cons]
  exact Option.bind_assoc _ _ _

/-- Where no node is left, what has been put off is evaluated. -/
theorem tellRest_of_no_nodes (telling : Telling) (deferred : List Expr) :
    telling.tellRest deferred [] =
      (deferred.foldlM fire telling).bind fun fired => some (fired.tell .clear) := by
  unfold tellRest
  rw [List.filterMap_nil, List.append_nil]
  rfl

end Telling

end Playscript
