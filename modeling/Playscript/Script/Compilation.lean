/-
This file turns scripts into programmes. Escapes are resolved and expressions validated, node by
node; a script with defects gives no programme, and a report with one entry for each node that has
any.
-/

import Playscript.Expr.Validation
import Playscript.Script.Programme

namespace Playscript

/-! ### Reports -/

/-- One thing that is wrong with a node. -/
inductive NodeProblem where
  | escape (flaw : EscapeFlaw)
  /-- A problem of an expression, with the text of the expression. -/
  | inExpression (source : String) (diagnostic : Diagnostic)
  deriving DecidableEq, Repr

/-- A problem of a node in words. -/
def NodeProblem.message : NodeProblem → String
  | escape flaw => flaw.message
  | inExpression source diagnostic => "in '" ++ source ++ "': " ++ diagnostic.text

/-- A node that cannot be played: the name of its scene, the numbers of its beat and of the node
itself, its position, and all that is wrong with it. -/
structure Defect where
  scene : String
  beat : Nat
  node : Nat
  position : Position
  problems : List NodeProblem
  deriving DecidableEq, Repr

namespace Defect

/-- All that is wrong with a node, in words. -/
def message (defect : Defect) : String :=
  "; ".intercalate (defect.problems.map (·.message))

/-- A defect in words: where it is, and what is wrong. -/
def text (defect : Defect) : String :=
  defect.scene ++ ":" ++ toString defect.beat ++ ":" ++ toString defect.node ++
    " [" ++ defect.position.text ++ "] " ++ defect.message

end Defect

/-- The defects of a script, in the order of its nodes. -/
structure Report where
  defects : List Defect
  deriving DecidableEq, Repr

/-- A report in words: its defects under each other. -/
def Report.text (report : Report) : String :=
  "\n".intercalate (report.defects.map (·.text))

/-! ### Nodes -/

/-- The text of a quoted string, or what is wrong with its escapes. -/
def resolveString (raw : String) : Except (List NodeProblem) String :=
  match unescape raw.toList with
  | .ok text => .ok (String.ofList text)
  | .error flaws => .error (flaws.map .escape)

/-- The expression that was written, or what is wrong with it. -/
def resolveExpr (draft : Draft) : Except (List NodeProblem) Expr :=
  match draft.validate with
  | .ok expression => .ok expression
  | .error diagnostics => .error (diagnostics.map (.inExpression draft.source))

/-- The node that can be played, or what is wrong with the one that was written. -/
def Node.compile : Node Draft → Except (List NodeProblem) (Node Expr)
  | text content => .ok (.text content)
  | instantString raw => (resolveString raw).map .instantString
  | typewriterString raw => (resolveString raw).map .typewriterString
  | inlineExpr draft => (resolveExpr draft).map .inlineExpr
  | deferredExpr draft => (resolveExpr draft).map .deferredExpr
  | instantExpr draft => (resolveExpr draft).map .instantExpr
  | typewriterExpr draft => (resolveExpr draft).map .typewriterExpr

/-! ### Scripts -/

/-- The nodes of a beat that can be played, and the defects of the others. The first node has a
given number. -/
def compileNodes (scene : String) (beat : Nat) :
    Nat → List PlacedNode → List (Node Expr) × List Defect
  | _, [] => ([], [])
  | number, placed :: rest =>
    let (nodes, defects) := compileNodes scene beat (number + 1) rest
    match placed.node.compile with
    | .ok node => (node :: nodes, defects)
    | .error problems => (nodes, ⟨scene, beat, number, placed.position, problems⟩ :: defects)

/-- The beats of a scene, and the defects of their nodes. The first beat has a given number. -/
def compileBeats (scene : String) :
    Nat → List (List PlacedNode) → List (List (Node Expr)) × List Defect
  | _, [] => ([], [])
  | number, beat :: rest =>
    let (nodes, defects) := compileNodes scene number 0 beat
    let (beats, others) := compileBeats scene (number + 1) rest
    (nodes :: beats, defects ++ others)

/-- The scenes of a script, and the defects of their nodes. -/
def compileScenes : List SceneDraft → List Scene × List Defect
  | [] => ([], [])
  | scene :: rest =>
    let (beats, defects) := compileBeats scene.name 0 scene.beats
    let (scenes, others) := compileScenes rest
    (⟨scene.name, beats⟩ :: scenes, defects ++ others)

/-- The programme of a script, or a report of all its defects. -/
def Script.compile (script : Script) : Except Report Programme :=
  match compileScenes script.scenes with
  | (scenes, []) => .ok ⟨scenes⟩
  | (_, defects) => .error ⟨defects⟩

end Playscript
