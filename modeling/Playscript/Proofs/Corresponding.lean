/-
This file compares the scenes that two lists of tokens stand for. If the tokens correspond one by
one, in their kinds, in the names that they declare and in the nodes that they stand for, then so do
the scenes, beat by beat and node by node. When nodes correspond is left open. All that grouping asks
of a node is whether it is a newline, so corresponding nodes have to agree on that.

Grouping takes in one token after the other, and keeps what corresponds so.
-/

import Mathlib.Data.List.Forall2
import Playscript.Proofs.Grouping

namespace Playscript

/-- The scenes that tokens declare, whether or not the main scene is one of them. -/
def Script.scenesOf (tokens : List Token) : List SceneDraft :=
  ((Token.body tokens).foldl OpenScript.take {}).close

theorem Script.ofTokens_eq_scenesOf (tokens : List Token) :
    ofTokens tokens =
      if mainScene ∈ (scenesOf tokens).map (·.name) then .ok ⟨scenesOf tokens⟩
      else .error .missingMain := by
  show (if ((mk (scenesOf tokens)).scene? mainScene).isSome then _ else _) = _
  simp only [isSome_scene?_iff]
  rfl

/-! ### What corresponds -/

variable (nodes : PlacedNode → PlacedNode → Prop) (positions : Position → Position → Prop)

/-- Two tokens are of one kind and declare the same, and what they stand for corresponds. -/
structure Token.Corresponds (first second : Token) : Prop where
  kind : first.kind = second.kind
  declared : first.kind = .sceneDeclaration → first.text = second.text
  position : positions first.position second.position
  node : Option.Rel nodes (PlacedNode.ofToken? first) (PlacedNode.ofToken? second)

/-- Two scenes have one name, and their nodes correspond. -/
structure SceneDraft.Corresponds (first second : SceneDraft) : Prop where
  name : first.name = second.name
  position : positions first.position second.position
  beats : List.Forall₂ (List.Forall₂ nodes) first.beats second.beats

/-- The same while the scenes are being put together. -/
structure OpenScene.Corresponds (first second : OpenScene) : Prop where
  name : first.name = second.name
  position : positions first.position second.position
  beats : List.Forall₂ (List.Forall₂ nodes) first.beats second.beats
  nodes : List.Forall₂ nodes first.nodes second.nodes

/-- Two scripts that are being put together correspond scene by scene. -/
structure OpenScript.Corresponds (first second : OpenScript) : Prop where
  finished : List.Forall₂ (SceneDraft.Corresponds nodes positions) first.finished second.finished
  current : Option.Rel (OpenScene.Corresponds nodes positions) first.current second.current

/-! ### Grouping -/

section Walks

variable {First Second : Type} {related : First → Second → Prop} {firsts : List First}
  {seconds : List Second} {test : First → Bool} {test' : Second → Bool}

theorem forall₂_dropWhile (agree : ∀ first second, related first second → test first = test' second)
    (each : List.Forall₂ related firsts seconds) :
    List.Forall₂ related (firsts.dropWhile test) (seconds.dropWhile test') := by
  induction each with
  | nil => exact .nil
  | cons pair others inductionHypothesis =>
    rw [List.dropWhile_cons, List.dropWhile_cons, agree _ _ pair]
    split
    · exact inductionHypothesis
    · exact .cons pair others

theorem forall₂_takeWhile (agree : ∀ first second, related first second → test first = test' second)
    (each : List.Forall₂ related firsts seconds) :
    List.Forall₂ related (firsts.takeWhile test) (seconds.takeWhile test') := by
  induction each with
  | nil => exact .nil
  | cons pair others inductionHypothesis =>
    rw [List.takeWhile_cons, List.takeWhile_cons, agree _ _ pair]
    split
    · exact .cons pair inductionHypothesis
    · exact .nil

end Walks

variable {nodes positions}

theorem Script.corresponds_addScene {first second : SceneDraft} {firsts seconds : List SceneDraft}
    (scene : first.Corresponds nodes positions second)
    (earlier : List.Forall₂ (SceneDraft.Corresponds nodes positions) firsts seconds) :
    List.Forall₂ (SceneDraft.Corresponds nodes positions) (addScene first firsts)
      (addScene second seconds) := by
  induction earlier with
  | nil => exact .cons scene .nil
  | cons pair others inductionHypothesis =>
    unfold addScene
    rw [pair.name, scene.name]
    split
    · exact .cons scene others
    · exact .cons pair inductionHypothesis

section Grouping

variable (newlines : ∀ first second, nodes first second → first.isNewline = second.isNewline)

include newlines

theorem PlacedNode.forall₂_trimmed {firsts seconds : List PlacedNode}
    (each : List.Forall₂ nodes firsts seconds) :
    List.Forall₂ nodes (trimmed firsts) (trimmed seconds) :=
  forall₂_dropWhile newlines
    (List.rel_reverse (forall₂_dropWhile newlines (List.rel_reverse each)))

namespace OpenScene.Corresponds

variable {first second : OpenScene}

theorem closeBeat (scene : first.Corresponds nodes positions second) :
    first.closeBeat.Corresponds nodes positions second.closeBeat where
  name := scene.name
  position := scene.position
  beats := List.rel_append scene.beats
    (.cons (PlacedNode.forall₂_trimmed newlines scene.nodes) .nil)
  nodes := .nil

theorem finish (scene : first.Corresponds nodes positions second) :
    first.finish.Corresponds nodes positions second.finish where
  name := scene.name
  position := scene.position
  beats := by
    rw [finish_beats, finish_beats]
    have last := PlacedNode.forall₂_trimmed newlines scene.nodes
    refine List.rel_append scene.beats ?_
    generalize PlacedNode.trimmed first.nodes = left, PlacedNode.trimmed second.nodes = right at last
    cases last with
    | nil => exact .nil
    | cons pair others => exact .cons (.cons pair others) .nil

theorem take {token token' : Token} (scene : first.Corresponds nodes positions second)
    (tokens : token.Corresponds nodes positions token') :
    (first.take token).Corresponds nodes positions (second.take token') := by
  unfold OpenScene.take
  rw [tokens.kind]
  by_cases separates : token'.kind = .beatSeparator
  · rw [if_pos separates, if_pos separates]
    exact scene.closeBeat newlines
  · rw [if_neg separates, if_neg separates]
    have node := tokens.node
    generalize PlacedNode.ofToken? token = left, PlacedNode.ofToken? token' = right at node
    cases node with
    | none => exact scene
    | some pair =>
      exact ⟨scene.name, scene.position, scene.beats, List.rel_append scene.nodes (.cons pair .nil)⟩

end OpenScene.Corresponds

namespace OpenScript.Corresponds

variable {first second : OpenScript}

theorem close (script : first.Corresponds nodes positions second) :
    List.Forall₂ (SceneDraft.Corresponds nodes positions) first.close second.close := by
  obtain ⟨finished, current⟩ := first
  obtain ⟨finished', current'⟩ := second
  obtain ⟨scenes, openScene⟩ := script
  cases openScene with
  | none => exact scenes
  | some scene => exact Script.corresponds_addScene (scene.finish newlines) scenes

theorem take {token token' : Token} (script : first.Corresponds nodes positions second)
    (tokens : token.Corresponds nodes positions token') :
    (first.take token).Corresponds nodes positions (second.take token') := by
  by_cases declares : token.kind = .sceneDeclaration
  · rw [take_declaration first declares, take_declaration second (tokens.kind ▸ declares)]
    exact ⟨script.close newlines, .some ⟨tokens.declared declares, tokens.position, .nil, .nil⟩⟩
  · obtain ⟨finished, current⟩ := first
    obtain ⟨finished', current'⟩ := second
    obtain ⟨scenes, openScene⟩ := script
    rw [take_other _ _ declares, take_other _ _ (tokens.kind ▸ declares)]
    refine ⟨scenes, ?_⟩
    cases openScene with
    | none => exact .none
    | some scene => exact .some (scene.take newlines tokens)

end OpenScript.Corresponds

/-- Tokens that correspond one by one stand for scenes that do. -/
theorem Script.corresponds_scenesOf {firsts seconds : List Token}
    (each : List.Forall₂ (Token.Corresponds nodes positions) firsts seconds) :
    List.Forall₂ (SceneDraft.Corresponds nodes positions) (scenesOf firsts) (scenesOf seconds) := by
  have bodies : List.Forall₂ (Token.Corresponds nodes positions) (Token.body firsts)
      (Token.body seconds) :=
    forall₂_takeWhile (fun _ _ pair => by rw [pair.kind]) each
  exact OpenScript.Corresponds.close newlines
    (List.rel_foldl (fun _ _ script _ _ tokens => script.take newlines tokens)
      (⟨.nil, .none⟩ : OpenScript.Corresponds nodes positions {} {}) bodies)

end Grouping

theorem Script.names_of_corresponds {firsts seconds : List SceneDraft}
    (each : List.Forall₂ (SceneDraft.Corresponds nodes positions) firsts seconds) :
    firsts.map (·.name) = seconds.map (·.name) := by
  rw [← List.forall₂_eq_eq_eq, List.forall₂_map_left_iff, List.forall₂_map_right_iff]
  exact each.imp fun _ _ scene => scene.name

end Playscript
