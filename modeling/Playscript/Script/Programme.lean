/-
This file holds programmes: scripts that can be played. Their strings are resolved and their
expressions can be evaluated. Scenes, beats and nodes are counted from zero.
-/

import Playscript.Expr.Basic
import Playscript.Script.Scene

namespace Playscript

namespace Node

/-- Whether two nodes are of the same kind and hold the same. -/
def same {Expression : Type} [BEq Expression] : Node Expression → Node Expression → Bool
  | text first, text second => first == second
  | instantString first, instantString second => first == second
  | typewriterString first, typewriterString second => first == second
  | inlineExpr first, inlineExpr second => first == second
  | deferredExpr first, deferredExpr second => first == second
  | instantExpr first, instantExpr second => first == second
  | typewriterExpr first, typewriterExpr second => first == second
  | _, _ => false

instance {Expression : Type} [BEq Expression] : BEq (Node Expression) := ⟨same⟩

end Node

/-- A scene that can be played: its name and its beats. -/
structure Scene where
  name : String
  beats : List (List (Node Expr))
  deriving BEq

/-- A script that can be played: its scenes, in order. -/
structure Programme where
  scenes : List Scene
  deriving BEq

namespace Programme

/-- The programme without scenes. -/
def empty : Programme := ⟨[]⟩

/-- The number of the scene of a name. -/
def sceneIndex? (programme : Programme) (name : String) : Option Nat :=
  programme.scenes.findIdx? (·.name = name)

/-- The scene of a name. -/
def scene? (programme : Programme) (name : String) : Option Scene :=
  (programme.sceneIndex? name).bind fun index => programme.scenes[index]?

/-- Whether there is a scene of a name. -/
def containsScene (programme : Programme) (name : String) : Bool :=
  (programme.sceneIndex? name).isSome

/-- The names of the scenes. -/
def sceneNames (programme : Programme) : List String := programme.scenes.map (·.name)

/-- How many beats the scene of a name has. -/
def beatCount? (programme : Programme) (name : String) : Option Nat :=
  (programme.scene? name).map (·.beats.length)

/-- How many nodes a beat of the scene of a name has. -/
def nodeCount? (programme : Programme) (name : String) (beat : Nat) : Option Nat :=
  (programme.scene? name).bind fun scene => scene.beats[beat]?.map (·.length)

/-- The nodes of a beat. -/
def beat? (programme : Programme) (scene beat : Nat) : Option (List (Node Expr)) :=
  programme.scenes[scene]?.bind fun content => content.beats[beat]?

/-- The node at three numbers. -/
def node? (programme : Programme) (scene beat node : Nat) : Option (Node Expr) :=
  (programme.beat? scene beat).bind fun nodes => nodes[node]?

end Programme

end Playscript
