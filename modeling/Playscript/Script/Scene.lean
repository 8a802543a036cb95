/-
This file groups the tokens of a script into scenes, and the content of a scene into beats. What
stands before the first scene is left out, a beat has no newlines at its ends, and a scene that is
declared again replaces the earlier one at its place. Every script has a scene that plays first by
default.
-/

import Playscript.Expr.Grammar
import Playscript.Script.Token

namespace Playscript

/-! ### Nodes, beats and scenes -/

/-- A node of a beat. Strings and texts are shown; expressions are evaluated, at once or when the
beat is confirmed, and the value of some of them is shown. -/
inductive Node (Expression : Type) where
  | text (content : String)
  | instantString (content : String)
  | typewriterString (content : String)
  | inlineExpr (expression : Expression)
  | deferredExpr (expression : Expression)
  | instantExpr (expression : Expression)
  | typewriterExpr (expression : Expression)

/-- A node as it is written, and the position where it begins. -/
structure PlacedNode where
  node : Node Draft
  position : Position

namespace PlacedNode

/-- Whether a node is exactly one newline of plain text. -/
def isNewline (placed : PlacedNode) : Bool :=
  match placed.node with
  | .text content => content == "\n"
  | _ => false

/-- The node that a token stands for, if it is the content of a beat. -/
def ofToken? (token : Token) : Option PlacedNode :=
  let node? : Option (Node Draft) :=
    match token.kind with
    | .text => some (.text token.text)
    | .instantString => some (.instantString token.text)
    | .typewriterString => some (.typewriterString token.text)
    | .inlineExpr => some (.inlineExpr (.read token.text))
    | .deferredExpr => some (.deferredExpr (.read token.text))
    | .instantExpr => some (.instantExpr (.read token.text))
    | .typewriterExpr => some (.typewriterExpr (.read token.text))
    | .sceneDeclaration | .beatSeparator | .finish => none
  node?.map fun node => ⟨node, token.position⟩

/-- Nodes without the newlines at both ends. -/
def trimmed (nodes : List PlacedNode) : List PlacedNode :=
  ((nodes.reverse.dropWhile isNewline).reverse).dropWhile isNewline

end PlacedNode

/-- A scene as it is written: its name, the position of its declaration, and its beats. -/
structure SceneDraft where
  name : String
  position : Position
  beats : List (List PlacedNode)

/-- The name of the scene that every script declares. -/
def mainScene : String := "main"

/-- What keeps a text from being a script. -/
inductive ScriptError where
  | mistake (mistake : Mistake)
  | missingMain
  deriving DecidableEq, Repr

/-- The error in words. -/
def ScriptError.message : ScriptError → String
  | mistake found => found.message
  | missingMain => "script has no '" ++ mainScene ++ "' scene"

/-! ### Scripts -/

/-- A script: its scenes, in the order in which their names first appear. -/
structure Script where
  scenes : List SceneDraft

namespace Script

/-- The scene of a name. -/
def scene? (script : Script) (name : String) : Option SceneDraft :=
  script.scenes.find? (·.name = name)

/-- The names of the scenes. -/
def sceneNames (script : Script) : List String := script.scenes.map (·.name)

/-- Puts a scene in place of the earlier scene of its name, or at the end. -/
def addScene (scene : SceneDraft) : List SceneDraft → List SceneDraft
  | [] => [scene]
  | earlier :: rest =>
    if earlier.name = scene.name then scene :: rest else earlier :: addScene scene rest

end Script

/-! ### Grouping -/

/-- The scene that is being put together: its declaration, the beats that are closed, and the nodes
after them. -/
structure OpenScene where
  name : String
  position : Position
  beats : List (List PlacedNode)
  nodes : List PlacedNode

namespace OpenScene

/-- Closes the beat that the last nodes belong to, even if it is empty. -/
def closeBeat (scene : OpenScene) : OpenScene :=
  { scene with beats := scene.beats ++ [PlacedNode.trimmed scene.nodes], nodes := [] }

/-- Adds a node to the open beat. -/
def addNode (scene : OpenScene) (placed : PlacedNode) : OpenScene :=
  { scene with nodes := scene.nodes ++ [placed] }

/-- The finished scene. The nodes after the last separator are a beat only if something is left of
them. -/
def finish (scene : OpenScene) : SceneDraft :=
  let last := PlacedNode.trimmed scene.nodes
  { name := scene.name
    position := scene.position
    beats := if last.isEmpty then scene.beats else scene.beats ++ [last] }

end OpenScene

/-- A script that is being put together: the finished scenes, and the open one if a scene has been
declared. -/
structure OpenScript where
  finished : List SceneDraft := []
  current : Option OpenScene := none

namespace OpenScript

/-- Finishes the open scene. -/
def close (script : OpenScript) : List SceneDraft :=
  match script.current with
  | none => script.finished
  | some scene => Script.addScene scene.finish script.finished

/-- Takes one token in. Without an open scene only a declaration counts. -/
def take (script : OpenScript) (token : Token) : OpenScript :=
  match token.kind, script.current with
  | .sceneDeclaration, _ => ⟨script.close, some ⟨token.text, token.position, [], []⟩⟩
  | _, none => script
  | .beatSeparator, some scene => { script with current := some scene.closeBeat }
  | _, some scene =>
    match PlacedNode.ofToken? token with
    | some placed => { script with current := some (scene.addNode placed) }
    | none => script

end OpenScript

namespace Script

/-- The script that tokens stand for, up to the first token for the end of the text. -/
def ofTokens (tokens : List Token) : Except ScriptError Script :=
  let content := tokens.takeWhile (·.kind ≠ .finish)
  let script : Script := ⟨(content.foldl OpenScript.take {}).close⟩
  if (script.scene? mainScene).isSome then .ok script else .error .missingMain

/-- The script that a text stands for. -/
def read (source : String) : Except ScriptError Script :=
  match Token.scan source with
  | .error mistake => .error (.mistake mistake)
  | .ok tokens => ofTokens tokens

end Script

end Playscript
