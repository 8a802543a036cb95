/-
This file follows the opening beat of a script from its text to the display. A script that begins
with the declaration of the main scene and goes on with nothing but texts, strings and expressions
has this scene and at most one beat, whose nodes are those of its tokens without the newlines at
both ends.

A node may show a text that is known before it is played. If all nodes of the opening beat do, then
showing the beat at once shows these texts, one after the other, whatever the host has decided.
-/

import Playscript.Proofs.Decomposition
import Playscript.Proofs.Grouping
import Playscript.Proofs.Typing
import Playscript.Script.Compilation

namespace Playscript

/-! ### From tokens to a programme -/

/-- The line that declares the main scene. -/
def mainLine : String := "::main\n"

/-- The tokens of a script whose main scene is declared first. -/
theorem scan_mainLine {body : String} {pieces : List (List Char × Token)}
    (decomposes : Decomposes mainLine.toList body.toList pieces) :
    ∃ finish : Token, finish.kind = .finish ∧ Token.scan (mainLine ++ body) =
      .ok (⟨.sceneDeclaration, mainScene, .start⟩ :: (pieces.map Prod.snd ++ [finish])) := by
  have named : trim mainScene.toList = mainScene.toList := by
    decide
  have declares : IsPiece [] (':' :: ':' :: (mainScene.toList ++ ['\n'])) body.toList
      .sceneDeclaration (trim mainScene.toList) :=
    .sceneDeclaration (.inl rfl) ⟨by decide, .inl rfl⟩ (by decide)
  rw [named] at declares
  have whole : Decomposes [] (mainLine ++ body).toList
      ((mainLine.toList, ⟨.sceneDeclaration, mainScene, .start⟩) :: pieces) := by
    rw [String.toList_append]
    exact .cons declares decomposes
  exact ⟨_, rfl, Place.tokens_complete (Place.behind_start _) whole⟩

namespace OpenScript

theorem take_node {token : Token} {placed : PlacedNode}
    (stands : PlacedNode.ofToken? token = some placed) (finished : List SceneDraft)
    (scene : OpenScene) :
    (⟨finished, some scene⟩ : OpenScript).take token = ⟨finished, some (scene.addNode placed)⟩ := by
  have notScene := (PlacedNode.kind_of_ofToken? stands).1
  rw [take_other finished (some scene) notScene, Option.map_some, scene.take_node stands]

/-- Tokens that stand for nodes add these to the open scene. -/
theorem foldl_take_nodes {tokens : List Token} {nodes : List PlacedNode}
    (stand : tokens.map PlacedNode.ofToken? = nodes.map some) (finished : List SceneDraft)
    (scene : OpenScene) :
    tokens.foldl take ⟨finished, some scene⟩ =
      ⟨finished, some { scene with nodes := scene.nodes ++ nodes }⟩ := by
  induction tokens generalizing scene nodes with
  | nil =>
    rw [List.map_nil] at stand
    rw [List.map_eq_nil_iff.mp stand.symm, List.append_nil]
    rfl
  | cons token rest inductionHypothesis =>
    obtain ⟨placed, others, rfl, first, later⟩ := List.map_eq_cons_iff.mp stand.symm
    rw [List.foldl_cons, take_node first.symm, inductionHypothesis later.symm, OpenScene.addNode,
      List.append_assoc]
    rfl

end OpenScript

/-- The main scene of a script that declares nothing else and separates nothing. -/
theorem ofTokens_mainScene {tokens : List Token} {nodes : List PlacedNode} {position : Position}
    {finish : Token} (isFinish : finish.kind = .finish)
    (stand : tokens.map PlacedNode.ofToken? = nodes.map some) :
    Script.ofTokens (⟨.sceneDeclaration, mainScene, position⟩ :: (tokens ++ [finish])) =
      .ok ⟨[(⟨mainScene, position, [], nodes⟩ : OpenScene).finish]⟩ := by
  have noFinish : ∀ token ∈ tokens, decide (token.kind ≠ .finish) = true := by
    intro token member
    have found : PlacedNode.ofToken? token ∈ nodes.map some := stand ▸ List.mem_map_of_mem member
    obtain ⟨placed, -, same⟩ := List.mem_map.mp found
    exact decide_eq_true (PlacedNode.kind_of_ofToken? same.symm).2.2
  have content : (⟨.sceneDeclaration, mainScene, position⟩ :: (tokens ++ [finish])).takeWhile
      (·.kind ≠ .finish) = ⟨.sceneDeclaration, mainScene, position⟩ :: tokens := by
    rw [List.takeWhile_cons_of_pos rfl, List.takeWhile_append_of_pos noFinish,
      List.takeWhile_cons_of_neg (by simp [isFinish]), List.append_nil]
  have folded : (⟨.sceneDeclaration, mainScene, position⟩ :: tokens).foldl OpenScript.take {} =
      ⟨[], some ⟨mainScene, position, [], nodes⟩⟩ :=
    OpenScript.foldl_take_nodes stand [] ⟨mainScene, position, [], []⟩
  unfold Script.ofTokens
  rw [content]
  dsimp only
  rw [folded]
  rfl

/-! ### Compiling the opening beat -/

theorem compileNodes_ok {placed : List PlacedNode} {nodes : List (Node Expr)}
    (compiled : placed.map (·.node.compile) = nodes.map .ok) (scene : String) (beat number : Nat) :
    compileNodes scene beat number placed = (nodes, []) := by
  induction placed generalizing nodes number with
  | nil =>
    rw [List.map_nil] at compiled
    rw [List.map_eq_nil_iff.mp compiled.symm]
    rfl
  | cons first rest inductionHypothesis =>
    obtain ⟨node, others, rfl, ok, later⟩ := List.map_eq_cons_iff.mp compiled.symm
    have firstOk : first.node.compile = .ok node := ok.symm
    rw [compileNodes, inductionHypothesis later.symm, firstOk]

/-- The main scene with a beat of some nodes, or without a beat if there are none. -/
def Programme.opening (nodes : List (Node Expr)) : Programme :=
  ⟨[⟨mainScene, if nodes = [] then [] else [nodes]⟩]⟩

/-- A script whose tokens stand for nodes is compiled to these nodes, without the newlines at both
ends. -/
theorem compile_mainLine {body : String} {pieces : List (List Char × Token)}
    {placed : List PlacedNode} {nodes : List (Node Expr)}
    (decomposes : Decomposes mainLine.toList body.toList pieces)
    (stand : pieces.map (fun piece => PlacedNode.ofToken? piece.2) = placed.map some)
    (compiled : (PlacedNode.trimmed placed).map (·.node.compile) = nodes.map .ok) :
    compile (mainLine ++ body) = .ok (.opening nodes) := by
  obtain ⟨finish, isFinish, scanned⟩ := scan_mainLine decomposes
  have tokens : (pieces.map Prod.snd).map PlacedNode.ofToken? = placed.map some := by
    rw [List.map_map]
    exact stand
  have read : Script.read (mainLine ++ body) =
      .ok ⟨[(⟨mainScene, .start, [], placed⟩ : OpenScene).finish]⟩ := by
    unfold Script.read
    rw [scanned]
    exact ofTokens_mainScene isFinish tokens
  have scenes : compileScenes [(⟨mainScene, .start, [], placed⟩ : OpenScene).finish] =
      ((Programme.opening nodes).scenes, []) := by
    unfold OpenScene.finish Programme.opening
    by_cases nothing : PlacedNode.trimmed placed = []
    · rw [nothing, List.map_nil] at compiled
      rw [nothing, List.map_eq_nil_iff.mp compiled.symm]
      rfl
    · have some : nodes ≠ [] := by
        rintro rfl
        exact nothing (List.map_eq_nil_iff.mp compiled)
      have beat := compileNodes_ok compiled mainScene 0 0
      simp [compileScenes, compileBeats, beat, nothing, some]
  unfold compile Script.compile
  rw [read]
  dsimp only
  rw [scenes]
  rfl

/-! ### Showing the opening beat -/

/-- The text that a node shows, where it is known before the node is played. -/
def Node.shown? : Node Expr → Option String
  | .text content | .instantString content | .typewriterString content => some content
  | .instantExpr (.literal value) | .typewriterExpr (.literal value) => some value.text
  | _ => none

namespace Player

variable {registry : Registry Player}

theorem playNode_of_shown {node : Node Expr} {text : String} (shown : node.shown? = some text)
    (player : Player) : player.playNode registry true node = some (player.emit (.text text)) := by
  unfold Node.shown? at shown
  split at shown
  · cases shown
    show some (player.render (player.instant || true) text) = _
    rw [Bool.or_true]
    rfl
  · cases shown
    rfl
  · cases shown
    rfl
  · cases shown
    show some (if player.epoch = player.epoch then _ else _) = _
    rw [if_pos rfl]
    rfl
  · cases shown
    show some (if player.epoch = player.epoch then _ else _) = _
    rw [if_pos rfl]
    rfl
  · cases shown

/-- If the texts of the nodes that are left are known, showing the nodes makes them appear. -/
theorem flushNodes_of_shown {epoch : Nat} {texts : List String} {player : Player}
    (emitting : player.status = .emitting) (visit : player.epoch = epoch)
    (shown : (player.nodes.drop player.visit.node).map Node.shown? = texts.map some) :
    ∃ later, flushNodes registry epoch (texts.length + 1) player = some later ∧
      later.transcript = player.transcript ++ texts.flatMap String.toList := by
  induction texts generalizing player with
  | nil =>
    have none : player.node? = none := by
      rw [node?_eq]
      exact List.getElem?_eq_none_iff.mpr (List.drop_eq_nil_iff.mp (List.map_eq_nil_iff.mp shown))
    refine ⟨{ player with status := .waiting }, ?_, (List.append_nil _).symm⟩
    unfold flushNodes loadNode
    rw [if_pos ⟨emitting, visit⟩, none]
    rfl
  | cons text others inductionHypothesis =>
    obtain ⟨node, rest, left, nodeShown, restShown⟩ := List.map_eq_cons_iff.mp shown
    have next : player.node? = some node := by
      rw [node?_eq, ← List.head?_drop, left]
      rfl
    have following : ((player.passNode.emit (.text text)).nodes.drop
        (player.passNode.emit (.text text)).visit.node).map Node.shown? = others.map some := by
      show (player.nodes.drop (player.visit.node + 1)).map Node.shown? = _
      rw [← List.tail_drop, left]
      exact restShown
    have loaded : player.loadNode registry true = some (player.passNode.emit (.text text)) := by
      unfold loadNode
      rw [next]
      exact playNode_of_shown nodeShown player.passNode
    have goesOn : (player.passNode.emit (.text text)).status = .emitting := emitting
    obtain ⟨later, flushed, transcript⟩ := inductionHypothesis goesOn visit following
    refine ⟨later, ?_, ?_⟩
    · unfold flushNodes
      rw [if_pos ⟨emitting, visit⟩]
      dsimp only
      rw [loaded]
      exact flushed
    · rw [transcript, transcript_emit, List.flatMap_cons, List.append_assoc]
      rfl

/-- Showing a beat at once makes the text in progress and the texts of the nodes that are left
appear. -/
theorem continueBeat_of_shown {texts : List String} {player : Player}
    (emitting : player.status = .emitting)
    (shown : (player.nodes.drop player.visit.node).map Node.shown? = texts.map some) :
    ∃ later, player.continueBeat registry = some later ∧
      later.transcript = player.told ++ texts.flatMap String.toList := by
  have stands := player.standsWith_showPending
  have left : (player.showPending.nodes.drop player.showPending.visit.node).map Node.shown? =
      texts.map some := by
    rw [nodes_of_stands stands, stands.node]
    exact shown
  have rounds : player.rounds = texts.length + 1 := by
    have lengths := congrArg List.length shown
    rw [List.length_map, List.length_map, List.length_drop] at lengths
    rw [rounds, lengths]
  have transcriptShown : player.showPending.transcript = player.told := by
    rw [← told_showPending, told_of_nil player.pending_showPending]
  obtain ⟨later, flushed, transcript⟩ :=
    flushNodes_of_shown (stands.status.trans emitting) stands.epoch left
  have sameEvents : (later.dropTime player.epoch).events = later.events := by
    unfold dropTime
    split <;> rfl
  refine ⟨later.dropTime player.epoch, ?_, ?_⟩
  · unfold continueBeat
    rw [if_pos emitting, rounds, flushed]
    rfl
  · rw [transcript_eq, sameEvents, ← transcript_eq, transcript, transcriptShown]

end Player

/-- Showing the first beat of a programme at once makes a text appear, whatever the settings are and
however deeply calls may be nested. -/
def Programme.ShowsAtOnce (programme : Programme) (text : String) : Prop :=
  ∀ (settings : Settings) (depth : Nat), ∃ later,
    Request.continueBeat.fulfil (Controls.builtin (depth + 1)) (Player.start programme settings) =
        some (.nothing, later) ∧
      (Display.empty.receiveAll later.events).transcript = text

theorem Player.status_start_opening_nil (settings : Settings) :
    (Player.start (.opening []) settings).status = .done := rfl

/-- Where the opening beat has nodes, a player begins with them and has shown nothing. -/
theorem Player.start_opening {nodes : List (Node Expr)} (some : nodes ≠ []) (settings : Settings) :
    (Player.start (.opening nodes) settings).status = .emitting ∧
      (Player.start (.opening nodes) settings).nodes = nodes ∧
      (Player.start (.opening nodes) settings).visit = {} ∧
      (Player.start (.opening nodes) settings).events = #[] := by
  unfold Programme.opening
  rw [if_neg some]
  exact ⟨rfl, rfl, rfl, rfl⟩

theorem showsAtOnce_opening {nodes : List (Node Expr)} {texts : List String}
    (shown : nodes.map Node.shown? = texts.map some) :
    (Programme.opening nodes).ShowsAtOnce (String.ofList (texts.flatMap String.toList)) := by
  intro settings depth
  suffices plays : ∃ later, (Player.start (.opening nodes) settings).continueBeat
      (Builtin.registry (Controls.builtin depth)) = some later ∧
        later.transcript = texts.flatMap String.toList by
    obtain ⟨later, played, transcript⟩ := plays
    refine ⟨later, congrArg (Option.map fun later => (Answer.nothing, later)) played, ?_⟩
    rw [← transcript]
    exact (String.ofList_toList).symm
  by_cases nothing : nodes = []
  · subst nothing
    rw [List.map_eq_nil_iff.mp shown.symm]
    exact ⟨_, rfl, rfl⟩
  · obtain ⟨emitting, isNodes, visit, events⟩ := Player.start_opening nothing settings
    generalize Player.start (.opening nodes) settings = player at *
    have left : (player.nodes.drop player.visit.node).map Node.shown? = texts.map some := by
      rw [visit, isNodes]
      exact shown
    have blank : player.told = [] := by
      rw [Player.told, Player.transcript_eq, events, visit]
      rfl
    obtain ⟨later, played, transcript⟩ := Player.continueBeat_of_shown emitting left
    rw [blank] at transcript
    exact ⟨later, played, transcript⟩

end Playscript
