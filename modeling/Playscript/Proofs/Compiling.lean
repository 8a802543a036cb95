/-
This file says what a whole script compiles to, apart from how it is compiled. A node is compiled on
its own: it has a counterpart that can be played, or there is something wrong with it. A script whose
nodes all have counterparts gives the programme of these, and any other script gives a report with
one entry for each of the other nodes, under the key that the node has in the script.

Two facts carry this. Nothing is refused without a reason, so a node without a counterpart has a
problem to be told. And the defects of a list of nodes are those of its parts one after the other,
with the numbers that the nodes have before any of them is left out.
-/

import Playscript.Failure
import Playscript.Proofs.Grouping
import Playscript.Proofs.Literals

namespace Playscript

/-! ### Nodes and their keys -/

namespace Node

/-- A node that is written and the node that is played in its place. -/
inductive Resolves : Node Draft → Node Expr → Prop
  | text {content : String} : Resolves (.text content) (.text content)
  | instantString {raw : String} {content : List Char} (means : unescape raw.toList = .ok content) :
      Resolves (.instantString raw) (.instantString (.ofList content))
  | typewriterString {raw : String} {content : List Char}
      (means : unescape raw.toList = .ok content) :
      Resolves (.typewriterString raw) (.typewriterString (.ofList content))
  | inlineExpr {draft : Draft} {expression : Expr} (valid : draft.validate = .ok expression) :
      Resolves (.inlineExpr draft) (.inlineExpr expression)
  | deferredExpr {draft : Draft} {expression : Expr} (valid : draft.validate = .ok expression) :
      Resolves (.deferredExpr draft) (.deferredExpr expression)
  | instantExpr {draft : Draft} {expression : Expr} (valid : draft.validate = .ok expression) :
      Resolves (.instantExpr draft) (.instantExpr expression)
  | typewriterExpr {draft : Draft} {expression : Expr} (valid : draft.validate = .ok expression) :
      Resolves (.typewriterExpr draft) (.typewriterExpr expression)

/-- All that is wrong with a quoted string: the flaws of its escapes. -/
def stringProblems (raw : String) : List NodeProblem := (escapeFlaws raw.toList).map .escape

/-- All that is wrong with an expression: its diagnostics. -/
def exprProblems (draft : Draft) : List NodeProblem :=
  draft.validate.diagnostics.map (.inExpression draft.source)

/-- All that is wrong with a node. -/
def problems : Node Draft → List NodeProblem
  | text _ => []
  | instantString raw | typewriterString raw => stringProblems raw
  | inlineExpr draft | deferredExpr draft | instantExpr draft | typewriterExpr draft =>
    exprProblems draft

end Node

/-- A node of a script and its key: the name of its scene, and the numbers of its beat and of the
node itself. -/
structure KeyedNode where
  scene : String
  beat : Nat
  node : Nat
  placed : PlacedNode

namespace KeyedNode

/-- Whether something is wrong with a node. -/
def fails (keyed : KeyedNode) : Bool := !keyed.placed.node.problems.isEmpty

/-- The entry of a node: its key, its position, and all that is wrong with it. -/
def defect (keyed : KeyedNode) : Defect :=
  ⟨keyed.scene, keyed.beat, keyed.node, keyed.placed.position, keyed.placed.node.problems⟩

/-- The entries of the nodes that something is wrong with. -/
def defects (keyed : List KeyedNode) : List Defect := (keyed.filter (·.fails)).map (·.defect)

/-- The nodes of a beat with their keys. -/
def ofBeat (scene : String) (beat : Nat) (nodes : List PlacedNode) (first : Nat) : List KeyedNode :=
  (nodes.zipIdx first).map fun (placed, node) => ⟨scene, beat, node, placed⟩

/-- The nodes of beats with their keys. -/
def ofBeats (scene : String) (beats : List (List PlacedNode)) (first : Nat) : List KeyedNode :=
  (beats.zipIdx first).flatMap fun (nodes, beat) => ofBeat scene beat nodes 0

end KeyedNode

/-- The nodes of a script with their keys, in order. -/
def Script.keyedNodes (script : Script) : List KeyedNode :=
  script.scenes.flatMap fun scene => KeyedNode.ofBeats scene.name scene.beats 0

/-- A scene that can be played has the name of the one that is written, and a node in the place of
each of its nodes. -/
structure SceneDraft.Resolves (draft : SceneDraft) (scene : Scene) : Prop where
  name : scene.name = draft.name
  beats : List.Forall₂ (List.Forall₂ fun placed node => placed.node.Resolves node)
    draft.beats scene.beats

/-- A programme has the scenes of a script, in the same order, and their names find them. -/
structure Script.Resolves (script : Script) (programme : Programme) : Prop where
  names : programme.sceneNames = script.sceneNames
  lookup : ∀ name index,
    programme.sceneIndex? name = some index ↔ script.sceneNames[index]? = some name
  scenes : List.Forall₂ SceneDraft.Resolves script.scenes programme.scenes

/-- A record tells the key and the position of an entry. -/
structure Record.Tells (defect : Defect) (record : Record) : Prop where
  scene : record.scene = some defect.scene
  beat : record.beat = some defect.beat
  node : record.node = some defect.node
  position : record.position = some defect.position

/-- A report has one entry for each node that has no counterpart, and each entry tells something. -/
structure Script.Reports (script : Script) (report : Report) : Prop where
  entries : report.defects = KeyedNode.defects script.keyedNodes
  nonempty : report.defects ≠ []
  failing : ∀ keyed ∈ script.keyedNodes, keyed.fails ↔ ¬ ∃ node, keyed.placed.node.Resolves node
  told : ∀ defect ∈ report.defects, defect.problems ≠ []
  records : List.Forall₂ Record.Tells report.defects (Failure.defects report).records

/-! ### Nothing is refused without a reason -/

theorem unescape_ne_error_nil (text : List Char) : unescape text ≠ .error [] := by
  fun_induction unescape text with
  | case1 => nofun
  | case2 => nofun
  | case3 character rest meaning flaws fails _ inductionHypothesis =>
    exact fails ▸ inductionHypothesis
  | case4 => nofun
  | case5 => nofun
  | case6 => nofun
  | case7 character rest _ _ inductionHypothesis =>
    cases read : unescape rest with
    | ok content => nofun
    | error flaws => exact fun same => inductionHypothesis (read.trans same)

namespace Validated

variable {First Second Result : Type}

theorem both_ne_error_nil {combine : First → Second → Result} {first : Validated First}
    {second : Validated Second} (firstTells : first ≠ .error []) (secondTells : second ≠ .error []) :
    both combine first second ≠ .error [] := by
  rcases first with diagnostics | value <;> rcases second with others | other
  · exact fun same => firstTells
      (congrArg _ (List.append_eq_nil_iff.mp (Except.error.inj same)).1)
  · exact fun same => firstTells (congrArg _ (Except.error.inj same))
  · exact fun same => secondTells (congrArg _ (Except.error.inj same))
  · nofun

theorem map_ne_error_nil {change : First → Result} {validated : Validated First}
    (tells : validated ≠ .error []) : Except.map change validated ≠ .error [] := by
  rcases validated with diagnostics | value
  · exact fun same => tells (congrArg _ (Except.error.inj same))
  · nofun

theorem nameOf_ne_error_nil (problem : Problem) (tree : Tree) : nameOf problem tree ≠ .error [] := by
  unfold nameOf
  split <;> nofun

end Validated

namespace Tree

mutual

theorem validate_ne_error_nil : (tree : Tree) → tree.validate ≠ .error []
  | .int column text => by
    rw [validate]
    split <;> nofun
  | .float column text => by
    rw [validate]
    split <;> nofun
  | .string column raw => by
    have tells := unescape_ne_error_nil raw.toList
    rw [validate]
    rcases read : unescape raw.toList with flaws | content
    · intro same
      rw [read] at tells
      exact tells (congrArg _ (List.map_eq_nil_iff.mp (Except.error.inj same)))
    · nofun
  | .bool _ _ | .null _ | .name _ _ => by
    rw [validate]
    nofun
  | .list _ items => by
    rw [validate]
    exact Validated.map_ne_error_nil (validateAll_ne_error_nil items)
  | .unary _ _ operand => by
    rw [validate]
    exact Validated.map_ne_error_nil (validate_ne_error_nil operand)
  | .binary _ _ left right => by
    rw [validate]
    exact Validated.both_ne_error_nil (validate_ne_error_nil left) (validate_ne_error_nil right)
  | .assign _ target value => by
    rw [validate]
    exact Validated.both_ne_error_nil (validate_ne_error_nil value)
      (Validated.nameOf_ne_error_nil _ target)
  | .call _ callee arguments => by
    rw [validate]
    exact Validated.both_ne_error_nil (validateAll_ne_error_nil arguments)
      (Validated.nameOf_ne_error_nil _ callee)
  | .sequence _ items => by
    rw [validate]
    exact Validated.map_ne_error_nil (validateAll_ne_error_nil items)

theorem validateAll_ne_error_nil : (trees : List Tree) → validateAll trees ≠ .error []
  | [] => by
    rw [validateAll]
    nofun
  | item :: rest => by
    rw [validateAll]
    exact Validated.both_ne_error_nil (validate_ne_error_nil item) (validateAll_ne_error_nil rest)

end

end Tree

theorem Draft.validate_ne_error_nil (draft : Draft) : draft.validate ≠ .error [] := by
  unfold validate
  split
  · nofun
  · nofun
  · exact Tree.validate_ne_error_nil _

/-! ### One node -/

namespace Node

theorem resolveString_cases (raw : String) :
    (∃ content, unescape raw.toList = .ok content ∧ stringProblems raw = []) ∨
      resolveString raw = .error (stringProblems raw) ∧ stringProblems raw ≠ [] := by
  have tells := unescape_ne_error_nil raw.toList
  unfold resolveString stringProblems escapeFlaws
  rcases read : unescape raw.toList with flaws | content
  · rw [read] at tells
    exact .inr ⟨rfl, fun none => tells (congrArg _ (List.map_eq_nil_iff.mp none))⟩
  · exact .inl ⟨content, rfl, rfl⟩

theorem resolveExpr_cases (draft : Draft) :
    (∃ expression, draft.validate = .ok expression ∧ exprProblems draft = []) ∨
      resolveExpr draft = .error (exprProblems draft) ∧ exprProblems draft ≠ [] := by
  have tells := draft.validate_ne_error_nil
  unfold resolveExpr exprProblems
  rcases read : draft.validate with diagnostics | expression
  · rw [read] at tells
    exact .inr ⟨rfl, fun none => tells (congrArg _ (List.map_eq_nil_iff.mp none))⟩
  · exact .inl ⟨expression, rfl, rfl⟩

theorem compile_of_resolves {node : Node Draft} {resolved : Node Expr}
    (resolves : node.Resolves resolved) : node.compile = .ok resolved := by
  cases resolves with
  | text => rfl
  | instantString means | typewriterString means =>
    rw [compile, resolveString, means]
    rfl
  | inlineExpr valid | deferredExpr valid | instantExpr valid | typewriterExpr valid =>
    rw [compile, resolveExpr, valid]
    rfl

/-- A node has a counterpart and nothing is wrong with it, or something is wrong with it and that is
what compiling it tells. -/
theorem resolves_or_fails (node : Node Draft) :
    (∃ resolved, node.Resolves resolved ∧ node.problems = []) ∨
      node.compile = .error node.problems ∧ node.problems ≠ [] := by
  cases node with
  | text content => exact .inl ⟨_, .text, rfl⟩
  | instantString raw =>
    obtain ⟨_, means, none⟩ | ⟨fails, some⟩ := resolveString_cases raw
    · exact .inl ⟨_, .instantString means, none⟩
    · exact .inr ⟨congrArg (Except.map _) fails, some⟩
  | typewriterString raw =>
    obtain ⟨_, means, none⟩ | ⟨fails, some⟩ := resolveString_cases raw
    · exact .inl ⟨_, .typewriterString means, none⟩
    · exact .inr ⟨congrArg (Except.map _) fails, some⟩
  | inlineExpr draft =>
    obtain ⟨_, valid, none⟩ | ⟨fails, some⟩ := resolveExpr_cases draft
    · exact .inl ⟨_, .inlineExpr valid, none⟩
    · exact .inr ⟨congrArg (Except.map _) fails, some⟩
  | deferredExpr draft =>
    obtain ⟨_, valid, none⟩ | ⟨fails, some⟩ := resolveExpr_cases draft
    · exact .inl ⟨_, .deferredExpr valid, none⟩
    · exact .inr ⟨congrArg (Except.map _) fails, some⟩
  | instantExpr draft =>
    obtain ⟨_, valid, none⟩ | ⟨fails, some⟩ := resolveExpr_cases draft
    · exact .inl ⟨_, .instantExpr valid, none⟩
    · exact .inr ⟨congrArg (Except.map _) fails, some⟩
  | typewriterExpr draft =>
    obtain ⟨_, valid, none⟩ | ⟨fails, some⟩ := resolveExpr_cases draft
    · exact .inl ⟨_, .typewriterExpr valid, none⟩
    · exact .inr ⟨congrArg (Except.map _) fails, some⟩

theorem rightUnique_resolves : Relator.RightUnique Resolves :=
  fun _ _ _ resolves others =>
    Except.ok.inj ((compile_of_resolves resolves).symm.trans (compile_of_resolves others))

theorem exists_resolves_iff {node : Node Draft} :
    (∃ resolved, node.Resolves resolved) ↔ node.problems = [] := by
  rcases node.resolves_or_fails with ⟨resolved, resolves, none⟩ | ⟨fails, some⟩
  · exact iff_of_true ⟨resolved, resolves⟩ none
  · refine iff_of_false ?_ some
    rintro ⟨resolved, resolves⟩
    cases fails.symm.trans (compile_of_resolves resolves)

end Node

/-! ### Lists of nodes -/

namespace KeyedNode

theorem fails_iff {keyed : KeyedNode} : keyed.fails ↔ keyed.placed.node.problems ≠ [] := by
  rw [fails, Bool.not_eq_true', List.isEmpty_eq_false_iff]

theorem defects_append (first second : List KeyedNode) :
    defects (first ++ second) = defects first ++ defects second := by
  rw [defects, List.filter_append, List.map_append]
  rfl

theorem ofBeat_cons (scene : String) (beat first : Nat) (placed : PlacedNode)
    (rest : List PlacedNode) :
    ofBeat scene beat (placed :: rest) first =
      ⟨scene, beat, first, placed⟩ :: ofBeat scene beat rest (first + 1) :=
  rfl

theorem ofBeats_cons (scene : String) (first : Nat) (beat : List PlacedNode)
    (rest : List (List PlacedNode)) :
    ofBeats scene (beat :: rest) first =
      ofBeat scene first beat 0 ++ ofBeats scene rest (first + 1) :=
  rfl

end KeyedNode

theorem defects_compileNodes (scene : String) (beat first : Nat) (nodes : List PlacedNode) :
    (compileNodes scene beat first nodes).2 =
      KeyedNode.defects (KeyedNode.ofBeat scene beat nodes first) := by
  induction nodes generalizing first with
  | nil => rfl
  | cons placed rest inductionHypothesis =>
    rw [KeyedNode.ofBeat_cons, KeyedNode.defects, compileNodes]
    dsimp only
    rcases placed.node.resolves_or_fails with ⟨resolved, resolves, none⟩ | ⟨fails, some⟩
    · rw [Node.compile_of_resolves resolves, List.filter_cons_of_neg
        (mt KeyedNode.fails_iff.mp (not_not_intro none))]
      exact inductionHypothesis (first + 1)
    · rw [fails, List.filter_cons_of_pos (KeyedNode.fails_iff.mpr some)]
      exact congrArg (List.cons _) (inductionHypothesis (first + 1))

theorem defects_compileBeats (scene : String) (first : Nat) (beats : List (List PlacedNode)) :
    (compileBeats scene first beats).2 =
      KeyedNode.defects (KeyedNode.ofBeats scene beats first) := by
  induction beats generalizing first with
  | nil => rfl
  | cons beat rest inductionHypothesis =>
    rw [KeyedNode.ofBeats_cons, KeyedNode.defects_append, ← defects_compileNodes,
      ← inductionHypothesis]
    rfl

theorem defects_compileScenes (scenes : List SceneDraft) :
    (compileScenes scenes).2 = KeyedNode.defects (Script.keyedNodes ⟨scenes⟩) := by
  induction scenes with
  | nil => rfl
  | cons scene rest inductionHypothesis =>
    have keyed : Script.keyedNodes ⟨scene :: rest⟩ =
        KeyedNode.ofBeats scene.name scene.beats 0 ++ Script.keyedNodes ⟨rest⟩ := rfl
    rw [keyed, KeyedNode.defects_append, ← defects_compileBeats, ← inductionHypothesis]
    rfl

/-- If something is wrong with none of the nodes, then each of them has its counterpart. -/
theorem resolves_compileNodes {scene : String} {beat first : Nat} {nodes : List PlacedNode}
    (none : (compileNodes scene beat first nodes).2 = []) :
    List.Forall₂ (fun placed node => placed.node.Resolves node) nodes
      (compileNodes scene beat first nodes).1 := by
  induction nodes generalizing first with
  | nil => exact .nil
  | cons placed rest inductionHypothesis =>
    rw [compileNodes] at none ⊢
    dsimp only at none ⊢
    rcases placed.node.resolves_or_fails with ⟨resolved, resolves, -⟩ | ⟨fails, -⟩
    · rw [Node.compile_of_resolves resolves] at none ⊢
      exact .cons resolves (inductionHypothesis none)
    · rw [fails] at none
      cases none

theorem resolves_compileBeats {scene : String} {first : Nat} {beats : List (List PlacedNode)}
    (none : (compileBeats scene first beats).2 = []) :
    List.Forall₂ (List.Forall₂ fun placed node => placed.node.Resolves node) beats
      (compileBeats scene first beats).1 := by
  induction beats generalizing first with
  | nil => exact .nil
  | cons beat rest inductionHypothesis =>
    obtain ⟨ofBeat, ofRest⟩ := List.append_eq_nil_iff.mp none
    exact .cons (resolves_compileNodes ofBeat) (inductionHypothesis ofRest)

theorem resolves_compileScenes {scenes : List SceneDraft} (none : (compileScenes scenes).2 = []) :
    List.Forall₂ SceneDraft.Resolves scenes (compileScenes scenes).1 := by
  induction scenes with
  | nil => exact .nil
  | cons scene rest inductionHypothesis =>
    obtain ⟨ofScene, ofRest⟩ := List.append_eq_nil_iff.mp none
    exact .cons ⟨rfl, resolves_compileBeats ofScene⟩ (inductionHypothesis ofRest)

/-! ### Scripts -/

theorem exists_of_mem_forall₂ {First Second : Type} {related : First → Second → Prop}
    {first : List First} {second : List Second} (all : List.Forall₂ related first second) :
    ∀ item ∈ first, ∃ other, related item other := by
  induction all with
  | nil => exact List.forall_mem_nil _
  | cons head _ inductionHypothesis =>
    exact List.forall_mem_cons.mpr ⟨⟨_, head⟩, inductionHypothesis⟩

theorem SceneDraft.rightUnique_resolves : Relator.RightUnique SceneDraft.Resolves := by
  rintro draft ⟨name, beats⟩ ⟨name', beats'⟩ resolves resolves'
  have nodes : Relator.RightUnique fun (placed : PlacedNode) node => placed.node.Resolves node :=
    fun _ _ _ first second => Node.rightUnique_resolves first second
  obtain rfl : name = name' := resolves.name.trans resolves'.name.symm
  obtain rfl : beats = beats' := nodes.forall₂.forall₂ resolves.beats resolves'.beats
  rfl

/-- Names that are all different find exactly the scenes that have them. -/
theorem Programme.sceneIndex?_eq_some_iff {programme : Programme}
    (different : programme.sceneNames.Nodup) {name : String} {index : Nat} :
    programme.sceneIndex? name = some index ↔ programme.sceneNames[index]? = some name := by
  have asNames : programme.sceneIndex? name = programme.sceneNames.findIdx? (· = name) := by
    rw [sceneNames, List.findIdx?_map]
    rfl
  rw [asNames, List.findIdx?_eq_some_iff_getElem, List.getElem?_eq_some_iff]
  refine exists_congr fun within => ?_
  simp only [decide_eq_true_eq]
  refine and_iff_left_of_imp fun found earlier before sameName => ?_
  have same := different.getElem_inj_iff.mp (sameName.trans found.symm)
  exact Nat.ne_of_lt before same

theorem KeyedNode.defects_eq_nil_iff {keyed : List KeyedNode} :
    defects keyed = [] ↔ ∀ each ∈ keyed, ∃ node, each.placed.node.Resolves node := by
  rw [defects, List.map_eq_nil_iff, List.filter_eq_nil_iff]
  simp only [fails_iff, not_not, Node.exists_resolves_iff]

namespace Script

theorem placed_keyedNodes (script : Script) :
    script.keyedNodes.map (·.placed) = script.scenes.flatMap fun scene => scene.beats.flatten := by
  have ofBeat (scene : String) (beat : Nat) (nodes : List PlacedNode) (first : Nat) :
      (KeyedNode.ofBeat scene beat nodes first).map (·.placed) = nodes := by
    rw [KeyedNode.ofBeat, List.map_map]
    exact List.zipIdx_map_fst first nodes
  have ofBeats (scene : String) (beats : List (List PlacedNode)) (first : Nat) :
      (KeyedNode.ofBeats scene beats first).map (·.placed) = beats.flatten := by
    induction beats generalizing first with
    | nil => rfl
    | cons beat rest inductionHypothesis =>
      rw [KeyedNode.ofBeats_cons, List.map_append, ofBeat, inductionHypothesis, List.flatten_cons]
  rw [keyedNodes, List.map_flatMap]
  simp only [ofBeats]

/-- What holds of all nodes with keys holds of all nodes of all beats of all scenes. -/
theorem forall_mem_keyedNodes_iff {script : Script} (property : PlacedNode → Prop) :
    (∀ keyed ∈ script.keyedNodes, property keyed.placed) ↔
      ∀ scene ∈ script.scenes, ∀ beat ∈ scene.beats, ∀ placed ∈ beat, property placed := by
  rw [← List.forall_mem_map, placed_keyedNodes, List.forall_mem_flatMap]
  simp only [List.forall_mem_flatten]

theorem exists_of_mem_scenes {drafts : List SceneDraft} {scenes : List Scene}
    (all : List.Forall₂ SceneDraft.Resolves drafts scenes) :
    ∀ scene ∈ drafts, ∀ beat ∈ scene.beats, ∀ placed ∈ beat,
      ∃ node, placed.node.Resolves node := by
  intro scene sceneMember beat beatMember placed placedMember
  obtain ⟨_, sceneResolves⟩ := exists_of_mem_forall₂ all scene sceneMember
  obtain ⟨_, beatResolves⟩ := exists_of_mem_forall₂ sceneResolves.beats beat beatMember
  exact exists_of_mem_forall₂ beatResolves placed placedMember

theorem Resolves.exists_resolves {script : Script} {programme : Programme}
    (resolves : script.Resolves programme) :
    ∀ scene ∈ script.scenes, ∀ beat ∈ scene.beats, ∀ placed ∈ beat,
      ∃ node, placed.node.Resolves node :=
  exists_of_mem_scenes resolves.scenes

theorem compile_eq (script : Script) :
    script.compile =
      if KeyedNode.defects script.keyedNodes = [] then .ok ⟨(compileScenes script.scenes).1⟩
      else .error ⟨KeyedNode.defects script.keyedNodes⟩ := by
  have same := defects_compileScenes script.scenes
  unfold compile
  split
  · rename_i scenes all
    rw [all] at same
    rw [if_pos same.symm, all]
  · rename_i scenes defects some all
    rw [all] at same
    rw [if_neg (same ▸ some), ← same]

/-- A script gives the programme of the counterparts of its scenes, and no other one. -/
theorem compile_eq_ok_iff {script : Script} {programme : Programme} :
    script.compile = .ok programme ↔
      List.Forall₂ SceneDraft.Resolves script.scenes programme.scenes := by
  have resolved (none : KeyedNode.defects script.keyedNodes = []) :
      List.Forall₂ SceneDraft.Resolves script.scenes (compileScenes script.scenes).1 :=
    resolves_compileScenes ((defects_compileScenes _).trans none)
  rw [compile_eq]
  constructor
  · intro compiled
    by_cases none : KeyedNode.defects script.keyedNodes = []
    · rw [if_pos none] at compiled
      exact Except.ok.inj compiled ▸ resolved none
    · rw [if_neg none] at compiled
      cases compiled
  · intro others
    have none : KeyedNode.defects script.keyedNodes = [] := by
      rw [KeyedNode.defects_eq_nil_iff,
        forall_mem_keyedNodes_iff fun placed => ∃ node, placed.node.Resolves node]
      exact exists_of_mem_scenes others
    have scenes : (compileScenes script.scenes).1 = programme.scenes :=
      List.right_unique_forall₂' SceneDraft.rightUnique_resolves (resolved none) others
    rw [if_pos none, scenes]

/-- Every entry of a report is the entry of a node of the script, and tells what compiling it
tells. -/
theorem exists_keyed_of_mem_defects {script : Script} {report : Report}
    (fails : script.compile = .error report) :
    ∀ defect ∈ report.defects, ∃ keyed ∈ script.keyedNodes, defect = keyed.defect ∧
      keyed.placed.node.compile = .error defect.problems := by
  rw [compile_eq] at fails
  split at fails
  · cases fails
  · cases fails
    refine List.forall_mem_map.mpr fun keyed member => ?_
    obtain ⟨keyedMember, isFailing⟩ := List.mem_filter.mp member
    refine ⟨keyed, keyedMember, rfl, ?_⟩
    rcases keyed.placed.node.resolves_or_fails with ⟨_, _, none⟩ | ⟨nodeFails, _⟩
    · exact absurd none (KeyedNode.fails_iff.mp isFailing)
    · exact nodeFails

theorem resolves_of_defects_eq_nil {script : Script} (different : script.sceneNames.Nodup)
    (none : KeyedNode.defects script.keyedNodes = []) :
    script.Resolves ⟨(compileScenes script.scenes).1⟩ := by
  have scenes : List.Forall₂ SceneDraft.Resolves script.scenes (compileScenes script.scenes).1 :=
    resolves_compileScenes ((defects_compileScenes _).trans none)
  have names : Programme.sceneNames ⟨(compileScenes script.scenes).1⟩ = script.sceneNames := by
    rw [Programme.sceneNames, sceneNames, ← List.forall₂_eq_eq_eq, List.forall₂_map_left_iff,
      List.forall₂_map_right_iff]
    exact scenes.flip.imp fun _ _ resolves => resolves.name
  refine ⟨names, fun name index => ?_, scenes⟩
  rw [Programme.sceneIndex?_eq_some_iff (names ▸ different), names]

theorem reports_of_defects_ne_nil {script : Script}
    (some : KeyedNode.defects script.keyedNodes ≠ []) :
    script.Reports ⟨KeyedNode.defects script.keyedNodes⟩ where
  entries := rfl
  nonempty := some
  failing keyed _ := by rw [KeyedNode.fails_iff, Node.exists_resolves_iff]
  told := by
    refine List.forall_mem_map.mpr fun keyed member => ?_
    exact KeyedNode.fails_iff.mp (List.mem_filter.mp member).2
  records := List.forall₂_map_right_iff.mpr
    (List.forall₂_same.mpr fun _ _ => ⟨rfl, rfl, rfl, rfl⟩)

/-- A script that was put together from tokens gives a programme if each of its nodes has a
counterpart, and this is the programme of all the counterparts. If some have none, it gives the
report of exactly these. -/
theorem compile_iff {tokens : List Token} {script : Script}
    (built : Script.ofTokens tokens = .ok script) :
    ((∃ programme, script.compile = .ok programme) ↔
        ∀ scene ∈ script.scenes, ∀ beat ∈ scene.beats, ∀ placed ∈ beat,
          ∃ node, placed.node.Resolves node) ∧
      (∀ programme, script.compile = .ok programme ↔ script.Resolves programme) ∧
      ∀ report, script.compile = .error report ↔ script.Reports report := by
  have different : script.sceneNames.Nodup := nodup_sceneNames built
  have all : KeyedNode.defects script.keyedNodes = [] ↔
      ∀ scene ∈ script.scenes, ∀ beat ∈ scene.beats, ∀ placed ∈ beat,
        ∃ node, placed.node.Resolves node :=
    KeyedNode.defects_eq_nil_iff.trans
      (forall_mem_keyedNodes_iff fun placed => ∃ node, placed.node.Resolves node)
  rw [← all, compile_eq]
  by_cases none : KeyedNode.defects script.keyedNodes = []
  · have resolves := resolves_of_defects_eq_nil different none
    simp only [if_pos none]
    refine ⟨iff_of_true ⟨_, rfl⟩ none, fun programme => ?_, fun report => ?_⟩
    · refine ⟨fun same => Except.ok.inj same ▸ resolves, fun others => ?_⟩
      have scenes : (compileScenes script.scenes).1 = programme.scenes :=
        List.right_unique_forall₂' SceneDraft.rightUnique_resolves resolves.scenes others.scenes
      rw [scenes]
    · refine iff_of_false nofun fun reports => reports.nonempty ?_
      exact reports.entries.trans none
  · simp only [if_neg none]
    refine ⟨iff_of_false nofun none, fun programme => ?_, fun report => ?_⟩
    · exact iff_of_false nofun fun resolves => none (all.mpr resolves.exists_resolves)
    · refine ⟨fun same => Except.error.inj same ▸ reports_of_defects_ne_nil none, fun reports => ?_⟩
      rw [← reports.entries]

/-- A script with two nodes that have counterparts and two that have none. -/
theorem compile_iff_two_fail : ∃ tokens script, Script.ofTokens tokens = .ok script ∧
    script.Reports ⟨[⟨"main", 0, 1, ⟨2, 4⟩, [.escape (.unknown 'q')]⟩,
      ⟨"main", 1, 0, ⟨4, 1⟩, [.escape (.unknown 'z'), .escape (.unknown 'y')]⟩]⟩ := by
  have built : Script.ofTokens [⟨.sceneDeclaration, "main", ⟨1, 1⟩⟩, ⟨.text, "one", ⟨2, 1⟩⟩,
      ⟨.instantString, "\\q", ⟨2, 4⟩⟩, ⟨.beatSeparator, ";;", ⟨3, 1⟩⟩,
      ⟨.typewriterString, "\\z\\n\\y", ⟨4, 1⟩⟩, ⟨.text, "two", ⟨4, 10⟩⟩,
      ⟨.finish, "", ⟨4, 13⟩⟩] =
      .ok ⟨[⟨"main", ⟨1, 1⟩, [[⟨.text "one", ⟨2, 1⟩⟩, ⟨.instantString "\\q", ⟨2, 4⟩⟩],
        [⟨.typewriterString "\\z\\n\\y", ⟨4, 1⟩⟩, ⟨.text "two", ⟨4, 10⟩⟩]]⟩]⟩ := rfl
  exact ⟨_, _, built, ((compile_iff built).2.2 _).mp rfl⟩

end Script

end Playscript
