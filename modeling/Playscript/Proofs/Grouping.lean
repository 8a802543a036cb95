/-
This file says what script a list of tokens stands for, apart from how it is put together. The
tokens up to the end of the text are cut at the declarations of scenes, and what follows a
declaration is cut at the separators of beats; a beat is the nodes of its tokens without the
newlines at both ends. Of several declarations of one name the first gives the scene its place and
the last one its content.

The grouping takes in one token after the other and keeps one scene open. Two facts carry the
comparison: what an open scene has taken in stands for the beats that are closed and the tokens after
them, and adding scenes one after the other finds the last one of a name.
-/

import Mathlib.Data.List.DropRight
import Mathlib.Data.List.Forall2
import Mathlib.Data.List.Nodup
import Playscript.Script.Scene

namespace Playscript

/-! ### What tokens stand for -/

namespace Token

/-- The tokens before the end of the text. -/
def body (tokens : List Token) : List Token := tokens.takeWhile (·.kind ≠ .finish)

/-- The declarations of scenes, each with the tokens that stand between it and the next one. -/
def declarations : List Token → List (Token × List Token)
  | [] => []
  | token :: rest =>
    if token.kind = .sceneDeclaration then
      (token, rest.takeWhile (·.kind ≠ .sceneDeclaration)) :: declarations rest
    else declarations rest

/-- The names that tokens declare, one for each declaration. -/
def declaredNames (tokens : List Token) : List String :=
  (declarations (body tokens)).map (·.1.text)

/-- The last declaration of a name. -/
def lastDeclaration? (tokens : List Token) (name : String) : Option (Token × List Token) :=
  (declarations (body tokens)).findRev? (·.1.text = name)

/-- A token stands for a node at its position. The text of an expression is read. -/
inductive Denotes : Token → PlacedNode → Prop
  | text {content : String} {position : Position} :
      Denotes ⟨.text, content, position⟩ ⟨.text content, position⟩
  | instantString {raw : String} {position : Position} :
      Denotes ⟨.instantString, raw, position⟩ ⟨.instantString raw, position⟩
  | typewriterString {raw : String} {position : Position} :
      Denotes ⟨.typewriterString, raw, position⟩ ⟨.typewriterString raw, position⟩
  | inlineExpr {source : String} {position : Position} :
      Denotes ⟨.inlineExpr, source, position⟩ ⟨.inlineExpr (.read source), position⟩
  | deferredExpr {source : String} {position : Position} :
      Denotes ⟨.deferredExpr, source, position⟩ ⟨.deferredExpr (.read source), position⟩
  | instantExpr {source : String} {position : Position} :
      Denotes ⟨.instantExpr, source, position⟩ ⟨.instantExpr (.read source), position⟩
  | typewriterExpr {source : String} {position : Position} :
      Denotes ⟨.typewriterExpr, source, position⟩ ⟨.typewriterExpr (.read source), position⟩

end Token

/-- The beat of some tokens: their nodes, without the newlines at both ends. -/
structure IsBeat (tokens : List Token) (beat : List PlacedNode) : Prop where
  nodes : ∃ leading trailing, List.Forall₂ Token.Denotes tokens (leading ++ (beat ++ trailing)) ∧
    (∀ placed ∈ leading, placed.node = .text "\n") ∧ ∀ placed ∈ trailing, placed.node = .text "\n"
  first : ∀ placed, beat.head? = some placed → placed.node ≠ .text "\n"
  last : ∀ placed, beat.getLast? = some placed → placed.node ≠ .text "\n"

/-- A scene is what its declaration says, with the beats of the tokens after it. What follows the
last separator is a beat only if it is not empty. -/
structure SceneDraft.Follows (declared : Token × List Token) (scene : SceneDraft) : Prop where
  name : scene.name = declared.1.text
  position : scene.position = declared.1.position
  beats : ∃ closed last,
    List.Forall₂ IsBeat (declared.2.splitOnP (·.kind = .beatSeparator)) (closed ++ [last]) ∧
      scene.beats = if last = [] then closed else closed ++ [last]

/-- A script has a scene for each name that is declared, in the order of the first declarations, and
the scene of a name follows its last declaration. -/
structure Script.Groups (script : Script) (tokens : List Token) : Prop where
  names : script.sceneNames = (Token.declaredNames tokens).eraseDups
  scenes : ∀ name, Option.Rel SceneDraft.Follows (Token.lastDeclaration? tokens name)
    (script.scene? name)

/-! ### Nodes -/

theorem Token.denotes_iff {token : Token} {placed : PlacedNode} :
    token.Denotes placed ↔ PlacedNode.ofToken? token = some placed := by
  constructor
  · intro denotes
    cases denotes <;> rfl
  · intro stands
    obtain ⟨kind, text, position⟩ := token
    cases kind <;> cases stands <;> constructor

theorem Token.forall₂_denotes_iff {tokens : List Token} {nodes : List PlacedNode} :
    List.Forall₂ Token.Denotes tokens nodes ↔
      tokens.map PlacedNode.ofToken? = nodes.map some := by
  have same : Token.Denotes = fun token placed => PlacedNode.ofToken? token = some placed :=
    funext fun _ => funext fun _ => propext denotes_iff
  rw [same, ← List.forall₂_eq_eq_eq, List.forall₂_map_left_iff, List.forall₂_map_right_iff]

namespace PlacedNode

/-- A token that stands for a node is nothing else. -/
theorem kind_of_ofToken? {token : Token} {placed : PlacedNode}
    (stands : ofToken? token = some placed) :
    token.kind ≠ .sceneDeclaration ∧ token.kind ≠ .beatSeparator ∧ token.kind ≠ .finish := by
  refine ⟨?_, ?_, ?_⟩ <;> intro kind <;> simp [ofToken?, kind] at stands

theorem isNewline_iff {placed : PlacedNode} : placed.isNewline = true ↔ placed.node = .text "\n" := by
  unfold isNewline
  split
  · rename_i content same
    rw [same, beq_iff_eq, Node.text.injEq]
  · rename_i notText
    exact iff_of_false nofun (notText "\n")

/-- A list that does not begin with a newline has none to drop. -/
theorem dropWhile_isNewline_eq {nodes : List PlacedNode}
    (first : ∀ placed, nodes.head? = some placed → placed.node ≠ .text "\n") :
    nodes.dropWhile isNewline = nodes := by
  cases nodes with
  | nil => rfl
  | cons placed rest => exact List.dropWhile_cons_of_neg (mt isNewline_iff.mp (first placed rfl))

/-- Trimming leaves what stands between newlines, if no newline stands at its ends. -/
theorem trimmed_append {leading beat trailing : List PlacedNode}
    (leads : ∀ placed ∈ leading, placed.node = .text "\n")
    (trails : ∀ placed ∈ trailing, placed.node = .text "\n")
    (first : ∀ placed, beat.head? = some placed → placed.node ≠ .text "\n")
    (last : ∀ placed, beat.getLast? = some placed → placed.node ≠ .text "\n") :
    trimmed (leading ++ (beat ++ trailing)) = beat := by
  have drops {nodes others : List PlacedNode} (all : ∀ placed ∈ nodes, placed.node = .text "\n") :
      (nodes ++ others).dropWhile isNewline = others.dropWhile isNewline :=
    List.dropWhile_append_of_pos fun placed member => isNewline_iff.mpr (all placed member)
  have backwards : ∀ placed ∈ trailing.reverse, placed.node = .text "\n" :=
    fun placed member => trails placed (List.mem_reverse.mp member)
  unfold trimmed
  rw [List.reverse_append, List.reverse_append, List.append_assoc, drops backwards]
  -- Without a beat the newlines of both ends run together, and all of them go with the last ones.
  by_cases nothing : beat = []
  · subst nothing
    have all : leading.reverse.dropWhile isNewline = [] := List.dropWhile_eq_nil_iff.mpr
      fun placed member => isNewline_iff.mpr (leads placed (List.mem_reverse.mp member))
    rw [List.reverse_nil, List.nil_append, all]
    rfl
  · have lastStays : ∀ placed, (beat.reverse ++ leading.reverse).head? = some placed →
        placed.node ≠ .text "\n" := by
      intro placed found
      rw [List.head?_append_of_ne_nil _ (mt List.reverse_eq_nil_iff.mp nothing),
        List.head?_reverse] at found
      exact last placed found
    rw [dropWhile_isNewline_eq lastStays, List.reverse_append, List.reverse_reverse,
      List.reverse_reverse, drops leads, dropWhile_isNewline_eq first]

/-- Trimming cuts nodes between the newlines at both ends. -/
theorem exists_trimmed (nodes : List PlacedNode) : ∃ leading trailing,
    nodes = leading ++ (trimmed nodes ++ trailing) ∧
      (∀ placed ∈ leading, placed.node = .text "\n") ∧
      (∀ placed ∈ trailing, placed.node = .text "\n") := by
  refine ⟨(nodes.rdropWhile isNewline).takeWhile isNewline, nodes.rtakeWhile isNewline, ?_, ?_, ?_⟩
  · show nodes = _ ++ ((nodes.rdropWhile isNewline).dropWhile isNewline ++ _)
    rw [← List.append_assoc, List.takeWhile_append_dropWhile, List.rdropWhile_append_rtakeWhile]
  · exact fun placed member => isNewline_iff.mp (List.mem_takeWhile_imp member)
  · exact fun placed member => isNewline_iff.mp (List.mem_rtakeWhile_imp member)

theorem not_newline_of_dropWhile {nodes : List PlacedNode} {placed : PlacedNode}
    (found : (nodes.dropWhile isNewline).head? = some placed) : placed.node ≠ .text "\n" := by
  have first := List.head?_dropWhile_not isNewline nodes
  rw [found] at first
  exact fun newline => Bool.false_ne_true (first.symm.trans (isNewline_iff.mpr newline))

/-- What is left at the end when nodes are trimmed is the end of what is left when only their end is.
-/
theorem getLast?_trimmed {nodes : List PlacedNode} {placed : PlacedNode}
    (found : (trimmed nodes).getLast? = some placed) : placed.node ≠ .text "\n" := by
  obtain ⟨front, ends⟩ := List.getLast?_eq_some_iff.mp found
  obtain ⟨before, whole⟩ : trimmed nodes <:+ (nodes.reverse.dropWhile isNewline).reverse :=
    List.dropWhile_suffix _
  have last : (nodes.reverse.dropWhile isNewline).head? = some placed := by
    rw [← List.getLast?_reverse, ← whole, ends, ← List.append_assoc, List.getLast?_concat]
  exact not_newline_of_dropWhile last

end PlacedNode

/-! ### Beats -/

/-- The beat of some tokens is what is left of their nodes when these are trimmed. -/
theorem isBeat_iff {tokens : List Token} {beat : List PlacedNode} :
    IsBeat tokens beat ↔ ∃ nodes, tokens.map PlacedNode.ofToken? = nodes.map some ∧
      beat = PlacedNode.trimmed nodes := by
  constructor
  · rintro ⟨⟨leading, trailing, denote, leads, trails⟩, first, last⟩
    exact ⟨_, Token.forall₂_denotes_iff.mp denote,
      (PlacedNode.trimmed_append leads trails first last).symm⟩
  · rintro ⟨nodes, stand, rfl⟩
    obtain ⟨leading, trailing, same, leads, trails⟩ := PlacedNode.exists_trimmed nodes
    refine ⟨⟨leading, trailing, ?_, leads, trails⟩,
      fun _ found => PlacedNode.not_newline_of_dropWhile found,
      fun _ found => PlacedNode.getLast?_trimmed found⟩
    rw [← same]
    exact Token.forall₂_denotes_iff.mpr stand

theorem rightUnique_isBeat : Relator.RightUnique IsBeat := by
  intro tokens beat other isBeat isOther
  obtain ⟨nodes, stand, rfl⟩ := isBeat_iff.mp isBeat
  obtain ⟨others, otherStand, rfl⟩ := isBeat_iff.mp isOther
  have same := List.map_injective_iff.mpr (fun _ _ => Option.some.inj)
    (stand.symm.trans otherStand)
  rw [same]

/-! ### One scene -/

/-- A token that stands for a node or separates beats. -/
def Token.IsContent (token : Token) : Prop :=
  token.kind ≠ .sceneDeclaration ∧ token.kind ≠ .finish

theorem Token.IsContent.exists_placed {token : Token} (isContent : token.IsContent)
    (notSeparator : token.kind ≠ .beatSeparator) :
    ∃ placed, PlacedNode.ofToken? token = some placed := by
  obtain ⟨kind, text, position⟩ := token
  cases kind with
  | sceneDeclaration => exact absurd rfl isContent.1
  | finish => exact absurd rfl isContent.2
  | beatSeparator => exact absurd rfl notSeparator
  | _ => exact ⟨_, rfl⟩

namespace OpenScene

/-- Takes one token in: it closes a beat, or adds a node. -/
def take (scene : OpenScene) (token : Token) : OpenScene :=
  if token.kind = .beatSeparator then scene.closeBeat
  else
    match PlacedNode.ofToken? token with
    | some placed => scene.addNode placed
    | none => scene

theorem take_separator (scene : OpenScene) {token : Token} (separates : token.kind = .beatSeparator) :
    scene.take token = scene.closeBeat :=
  if_pos separates

theorem take_node (scene : OpenScene) {token : Token} {placed : PlacedNode}
    (stands : PlacedNode.ofToken? token = some placed) :
    scene.take token = scene.addNode placed := by
  rw [take, if_neg (PlacedNode.kind_of_ofToken? stands).2.1, stands]

theorem finish_beats (scene : OpenScene) : scene.finish.beats =
    scene.beats ++ if PlacedNode.trimmed scene.nodes = [] then []
      else [PlacedNode.trimmed scene.nodes] := by
  unfold finish
  dsimp only
  by_cases nothing : PlacedNode.trimmed scene.nodes = []
  · rw [nothing, if_pos rfl, List.append_nil]
    rfl
  · rw [if_neg nothing, if_neg (mt List.isEmpty_iff.mp nothing)]

/-- An open scene keeps its declaration, whatever it takes in. -/
theorem foldl_take_declared (tokens : List Token) (scene : OpenScene) :
    (tokens.foldl take scene).finish.name = scene.name ∧
      (tokens.foldl take scene).finish.position = scene.position := by
  induction tokens generalizing scene with
  | nil => exact ⟨rfl, rfl⟩
  | cons token rest inductionHypothesis =>
    obtain ⟨name, position⟩ := inductionHypothesis (scene.take token)
    have same : (scene.take token).name = scene.name ∧
        (scene.take token).position = scene.position := by
      unfold take
      split
      · exact ⟨rfl, rfl⟩
      · split <;> exact ⟨rfl, rfl⟩
    exact ⟨name.trans same.1, position.trans same.2⟩

theorem modifyHead_nil_append (parts : List (List Token)) : parts.modifyHead ([] ++ ·) = parts :=
  congrFun List.modifyHead_id parts

/-- The beats of an open scene after some more tokens. The nodes after its last separator, which
some earlier tokens stand for, belong to the first of the further beats. -/
theorem beats_foldl_take {tokens earlier : List Token} (content : ∀ token ∈ tokens, token.IsContent)
    (scene : OpenScene) (stand : earlier.map PlacedNode.ofToken? = scene.nodes.map some) :
    ∃ closed last,
      List.Forall₂ IsBeat
          ((tokens.splitOnP (·.kind = .beatSeparator)).modifyHead (earlier ++ ·))
          (closed ++ [last]) ∧
        (tokens.foldl take scene).finish.beats =
          scene.beats ++ if last = [] then closed else closed ++ [last] := by
  -- The tokens before the next separator belong to the open beat, so the earlier tokens go in front
  -- of the first part only; after a separator there are none.
  induction tokens generalizing scene earlier with
  | nil =>
    refine ⟨[], PlacedNode.trimmed scene.nodes, ?_, scene.finish_beats⟩
    rw [List.splitOnP_nil, List.modifyHead_cons, List.append_nil]
    exact .cons (isBeat_iff.mpr ⟨_, stand, rfl⟩) .nil
  | cons token rest inductionHypothesis =>
    obtain ⟨isContent, others⟩ := List.forall_mem_cons.mp content
    by_cases separates : token.kind = .beatSeparator
    · have nothing : ([] : List Token).map PlacedNode.ofToken? = scene.closeBeat.nodes.map some := rfl
      obtain ⟨closed, last, beats, finished⟩ := inductionHypothesis others scene.closeBeat nothing
      refine ⟨PlacedNode.trimmed scene.nodes :: closed, last, ?_, ?_⟩
      · rw [modifyHead_nil_append] at beats
        rw [List.splitOnP_cons_eq_if_modifyHead, if_pos (by simpa using separates),
          List.modifyHead_cons, List.append_nil]
        exact .cons (isBeat_iff.mpr ⟨_, stand, rfl⟩) beats
      · rw [List.foldl_cons, take_separator scene separates, finished]
        show scene.beats ++ [PlacedNode.trimmed scene.nodes] ++ _ = _
        rw [List.append_assoc]
        split <;> rfl
    · obtain ⟨placed, stands⟩ := isContent.exists_placed separates
      have further : (earlier ++ [token]).map PlacedNode.ofToken? =
          (scene.addNode placed).nodes.map some := by
        rw [List.map_append, stand, addNode, List.map_append, List.map_singleton, stands]
        rfl
      obtain ⟨closed, last, beats, finished⟩ :=
        inductionHypothesis others (scene.addNode placed) further
      refine ⟨closed, last, ?_, ?_⟩
      · have together : (earlier ++ ·) ∘ List.cons token = (earlier ++ [token] ++ ·) :=
          funext fun part => List.append_cons earlier token part
        rw [List.splitOnP_cons_eq_if_modifyHead, if_neg (by simpa using separates),
          List.modifyHead_modifyHead, together]
        exact beats
      · rw [List.foldl_cons, take_node scene stands]
        exact finished

end OpenScene

/-- The scene of a declaration and the tokens after it. -/
def SceneDraft.ofDeclaration (declared : Token × List Token) : SceneDraft :=
  (declared.2.foldl OpenScene.take ⟨declared.1.text, declared.1.position, [], []⟩).finish

theorem SceneDraft.follows_ofDeclaration {declared : Token × List Token}
    (content : ∀ token ∈ declared.2, token.IsContent) :
    SceneDraft.Follows declared (.ofDeclaration declared) := by
  obtain ⟨name, position⟩ := OpenScene.foldl_take_declared declared.2
    ⟨declared.1.text, declared.1.position, [], []⟩
  have nothing : ([] : List Token).map PlacedNode.ofToken? = ([] : List PlacedNode).map some := rfl
  obtain ⟨closed, last, beats, finished⟩ := OpenScene.beats_foldl_take content
    ⟨declared.1.text, declared.1.position, [], []⟩ nothing
  refine ⟨name, position, closed, last, ?_, finished⟩
  rw [OpenScene.modifyHead_nil_append] at beats
  exact beats

/-- A declaration and the tokens after it tell all of a scene. -/
theorem SceneDraft.rightUnique_follows : Relator.RightUnique SceneDraft.Follows := by
  rintro declared ⟨name, position, beats⟩ ⟨name', position', beats'⟩ follows follows'
  obtain ⟨closed, last, areBeats, same⟩ := follows.beats
  obtain ⟨closed', last', areBeats', same'⟩ := follows'.beats
  have parts := List.right_unique_forall₂' rightUnique_isBeat areBeats areBeats'
  obtain ⟨rfl, ends⟩ := List.append_inj' parts rfl
  obtain rfl := List.singleton_inj.mp ends
  obtain rfl : name = name' := follows.name.trans follows'.name.symm
  obtain rfl : position = position' := follows.position.trans follows'.position.symm
  obtain rfl : beats = beats' := same.trans same'.symm
  rfl

/-! ### Adding scenes -/

namespace Script

/-- Adds scenes one after the other. -/
def addScenes (finished scenes : List SceneDraft) : List SceneDraft :=
  scenes.foldl (fun finished scene => addScene scene finished) finished

theorem addScenes_concat (finished scenes : List SceneDraft) (scene : SceneDraft) :
    addScenes finished (scenes ++ [scene]) = addScene scene (addScenes finished scenes) :=
  List.foldl_concat ..

theorem names_addScene (scene : SceneDraft) (finished : List SceneDraft) :
    (addScene scene finished).map (·.name) =
      if scene.name ∈ finished.map (·.name) then finished.map (·.name)
      else finished.map (·.name) ++ [scene.name] := by
  induction finished with
  | nil => rfl
  | cons earlier rest inductionHypothesis =>
    unfold addScene
    by_cases same : earlier.name = scene.name
    · rw [if_pos same, List.map_cons, List.map_cons, same, if_pos List.mem_cons_self]
    · have notFirst : scene.name ≠ earlier.name := Ne.symm same
      rw [if_neg same, List.map_cons, inductionHypothesis]
      simp only [List.map_cons, List.mem_cons, notFirst, false_or]
      split <;> rfl

theorem find?_addScene (scene : SceneDraft) (finished : List SceneDraft) (name : String) :
    (addScene scene finished).find? (·.name = name) =
      if scene.name = name then some scene else finished.find? (·.name = name) := by
  induction finished with
  | nil =>
    by_cases found : scene.name = name <;> simp [addScene, found]
  | cons earlier rest inductionHypothesis =>
    unfold addScene
    by_cases same : earlier.name = scene.name
    · by_cases found : scene.name = name <;> simp [same, found]
    · by_cases found : scene.name = name
      · have further : earlier.name ≠ name := fun other => same (other.trans found.symm)
        rw [if_neg same, List.find?_cons_of_neg (by simpa using further), inductionHypothesis,
          if_pos found, if_pos found]
      · rw [if_neg same, List.find?_cons, List.find?_cons, inductionHypothesis, if_neg found,
          if_neg found]

/-- The names of added scenes, each where it first appears. -/
theorem names_addScenes (scenes : List SceneDraft) :
    (addScenes [] scenes).map (·.name) = (scenes.map (·.name)).eraseDups := by
  induction scenes using List.reverseRecOn with
  | nil => rfl
  | append_singleton scenes scene inductionHypothesis =>
    rw [addScenes_concat, names_addScene, inductionHypothesis, List.map_append, List.map_singleton,
      List.eraseDups_append]
    simp only [List.mem_eraseDups]
    by_cases earlier : scene.name ∈ scenes.map (·.name)
    · have nothing : [scene.name].removeAll (scenes.map (·.name)) = [] := by
        simpa [List.removeAll] using earlier
      rw [if_pos earlier, nothing, List.eraseDups_nil, List.append_nil]
    · have kept : [scene.name].removeAll (scenes.map (·.name)) = [scene.name] := by
        simpa [List.removeAll] using earlier
      rw [if_neg earlier, kept]
      rfl

/-- Among added scenes a name finds the last one that has it. -/
theorem find?_addScenes (scenes : List SceneDraft) (name : String) :
    (addScenes [] scenes).find? (·.name = name) = scenes.findRev? (·.name = name) := by
  induction scenes using List.reverseRecOn with
  | nil => rfl
  | append_singleton scenes scene inductionHypothesis =>
    rw [addScenes_concat, find?_addScene, inductionHypothesis, List.findRev?_eq_find?_reverse,
      List.findRev?_eq_find?_reverse, List.reverse_concat, List.find?_cons]
    split <;> simp [*]

theorem nodup_addScenes (scenes : List SceneDraft) :
    ((addScenes [] scenes).map (·.name)).Nodup := by
  induction scenes using List.reverseRecOn with
  | nil => exact .nil
  | append_singleton scenes scene inductionHypothesis =>
    rw [addScenes_concat, names_addScene]
    split
    · exact inductionHypothesis
    · rename_i new
      rw [← List.concat_eq_append]
      exact List.Nodup.concat new inductionHypothesis

/-- Scenes with different names are what their names find. -/
theorem scenes_eq_filterMap {scenes : List SceneDraft} (different : (scenes.map (·.name)).Nodup) :
    scenes = (scenes.map (·.name)).filterMap fun name => scenes.find? (·.name = name) := by
  induction scenes with
  | nil => rfl
  | cons scene rest inductionHypothesis =>
    rw [List.map_cons, List.nodup_cons] at different
    obtain ⟨new, different⟩ := different
    have further : ∀ name ∈ rest.map (·.name),
        (scene :: rest).find? (·.name = name) = rest.find? (·.name = name) := by
      intro name member
      have other : scene.name ≠ name := fun same => new (same ▸ member)
      exact List.find?_cons_of_neg (by simpa using other)
    have first : (scene :: rest).find? (·.name = scene.name) = some scene :=
      List.find?_cons_of_pos (by simp)
    calc scene :: rest
        = scene :: (rest.map (·.name)).filterMap fun name => rest.find? (·.name = name) :=
          congrArg _ (inductionHypothesis different)
      _ = scene :: (rest.map (·.name)).filterMap fun name =>
            (scene :: rest).find? (·.name = name) := by rw [List.filterMap_congr further]
      _ = ((scene :: rest).map (·.name)).filterMap fun name =>
            (scene :: rest).find? (·.name = name) := by rw [List.map_cons, List.filterMap_cons, first]

end Script

/-! ### The whole script -/

namespace OpenScript

theorem take_declaration (script : OpenScript) {token : Token}
    (declares : token.kind = .sceneDeclaration) :
    script.take token = ⟨script.close, some ⟨token.text, token.position, [], []⟩⟩ := by
  rw [take, declares]

/-- A token that declares no scene is taken in by the open one, if there is one. -/
theorem take_other (finished : List SceneDraft) (current : Option OpenScene) {token : Token}
    (other : token.kind ≠ .sceneDeclaration) :
    take ⟨finished, current⟩ token = ⟨finished, current.map (·.take token)⟩ := by
  obtain ⟨kind, text, position⟩ := token
  cases kind with
  | sceneDeclaration => exact absurd rfl other
  | _ => cases current <;> rfl

/-- The open scene takes in the tokens before the next declaration, and each declaration adds its
scene. -/
theorem close_foldl_take (tokens : List Token) (finished : List SceneDraft)
    (current : Option OpenScene) :
    (tokens.foldl take ⟨finished, current⟩).close =
      Script.addScenes
        (close ⟨finished, current.map fun scene =>
          (tokens.takeWhile (·.kind ≠ .sceneDeclaration)).foldl OpenScene.take scene⟩)
        ((Token.declarations tokens).map .ofDeclaration) := by
  induction tokens generalizing finished current with
  | nil => cases current <;> rfl
  | cons token rest inductionHypothesis =>
    by_cases declares : token.kind = .sceneDeclaration
    · rw [List.foldl_cons, take_declaration _ declares, inductionHypothesis, Token.declarations,
        if_pos declares, List.takeWhile_cons_of_neg (by simpa using declares)]
      cases current <;> rfl
    · rw [List.foldl_cons, take_other _ _ declares, inductionHypothesis, Token.declarations,
        if_neg declares, List.takeWhile_cons_of_pos (by simpa using declares), Option.map_map]
      rfl

end OpenScript

namespace Token

theorem isContent_of_mem_declarations {tokens : List Token} {declared : Token × List Token}
    (member : declared ∈ declarations tokens) (within : ∀ token ∈ tokens, token.kind ≠ .finish) :
    ∀ token ∈ declared.2, token.IsContent := by
  induction tokens with
  | nil => exact absurd member List.not_mem_nil
  | cons first rest inductionHypothesis =>
    obtain ⟨-, others⟩ := List.forall_mem_cons.mp within
    unfold declarations at member
    split at member
    · rcases List.mem_cons.mp member with rfl | later
      · intro token taken
        exact ⟨by simpa using List.mem_takeWhile_imp taken,
          others token (List.takeWhile_subset _ taken)⟩
      · exact inductionHypothesis later others
    · exact inductionHypothesis member others

theorem kind_of_mem_body {tokens : List Token} : ∀ token ∈ body tokens, token.kind ≠ .finish :=
  fun _ member => by simpa using List.mem_takeWhile_imp member

theorem mem_of_lastDeclaration? {tokens : List Token} {name : String}
    {declared : Token × List Token} (last : lastDeclaration? tokens name = some declared) :
    declared ∈ declarations (body tokens) := by
  rw [lastDeclaration?, List.findRev?_eq_find?_reverse] at last
  exact List.mem_reverse.mp (List.mem_of_find?_eq_some last)

end Token

namespace Script

/-- The scenes of the declarations among some tokens, added one after the other. -/
def assembled (tokens : List Token) : Script :=
  ⟨addScenes [] ((Token.declarations (Token.body tokens)).map .ofDeclaration)⟩

theorem ofTokens_eq (tokens : List Token) :
    ofTokens tokens = if ((assembled tokens).scene? mainScene).isSome then .ok (assembled tokens)
      else .error .missingMain := by
  have scenes : (⟨((Token.body tokens).foldl OpenScript.take {}).close⟩ : Script) =
      assembled tokens := congrArg mk (OpenScript.close_foldl_take _ [] none)
  rw [← scenes]
  rfl

theorem eq_assembled_of_ofTokens {tokens : List Token} {script : Script}
    (built : ofTokens tokens = .ok script) : script = assembled tokens := by
  rw [ofTokens_eq] at built
  split at built
  · exact (Except.ok.inj built).symm
  · cases built

/-- The scenes of a script that was put together from tokens have different names. -/
theorem nodup_sceneNames {tokens : List Token} {script : Script}
    (built : ofTokens tokens = .ok script) : script.sceneNames.Nodup :=
  eq_assembled_of_ofTokens built ▸ nodup_addScenes _

theorem scene?_assembled (tokens : List Token) (name : String) :
    (assembled tokens).scene? name =
      (Token.lastDeclaration? tokens name).map SceneDraft.ofDeclaration := by
  have named : (fun scene : SceneDraft => decide (scene.name = name)) ∘ SceneDraft.ofDeclaration =
      fun declared => decide (declared.1.text = name) := by
    funext declared
    have same : (SceneDraft.ofDeclaration declared).name = declared.1.text :=
      (OpenScene.foldl_take_declared ..).1
    rw [Function.comp_apply, same]
  rw [scene?, assembled, find?_addScenes, Token.lastDeclaration?, List.findRev?_eq_find?_reverse,
    List.findRev?_eq_find?_reverse, ← List.map_reverse, List.find?_map, named]

theorem sceneNames_assembled (tokens : List Token) :
    (assembled tokens).sceneNames = (Token.declaredNames tokens).eraseDups := by
  have named : (fun scene : SceneDraft => scene.name) ∘ SceneDraft.ofDeclaration =
      fun declared => declared.1.text :=
    funext fun _ => (OpenScene.foldl_take_declared ..).1
  rw [sceneNames, assembled, names_addScenes, List.map_map, named]
  rfl

theorem groups_assembled (tokens : List Token) : (assembled tokens).Groups tokens where
  names := sceneNames_assembled tokens
  scenes name := by
    rw [scene?_assembled]
    cases last : Token.lastDeclaration? tokens name with
    | none => exact .none
    | some declared =>
      exact .some (SceneDraft.follows_ofDeclaration (Token.isContent_of_mem_declarations
        (Token.mem_of_lastDeclaration? last) Token.kind_of_mem_body))

/-- The tokens tell all of a script. -/
theorem groups_iff {script : Script} {tokens : List Token} :
    script.Groups tokens ↔ script = assembled tokens := by
  refine ⟨fun groups => ?_, fun same => same ▸ groups_assembled tokens⟩
  have names : script.sceneNames = (assembled tokens).sceneNames :=
    groups.names.trans (sceneNames_assembled tokens).symm
  have found : script.scene? = (assembled tokens).scene? := by
    funext name
    have rightUnique : Relator.RightUnique (Option.Rel SceneDraft.Follows) := by
      rintro declared scene other (follows | _) (follows' | _)
      · exact congrArg some (SceneDraft.rightUnique_follows follows follows')
      · rfl
    exact rightUnique (groups.scenes name) ((groups_assembled tokens).scenes name)
  have different : (assembled tokens).sceneNames.Nodup := nodup_addScenes _
  have alsoDifferent : script.sceneNames.Nodup := names ▸ different
  have scenes : script.scenes = (assembled tokens).scenes := by
    calc script.scenes
        = script.sceneNames.filterMap script.scene? := scenes_eq_filterMap alsoDifferent
      _ = (assembled tokens).sceneNames.filterMap (assembled tokens).scene? := by rw [names, found]
      _ = (assembled tokens).scenes := (scenes_eq_filterMap different).symm
  exact congrArg mk scenes

theorem isSome_scene?_iff {script : Script} {name : String} :
    (script.scene? name).isSome ↔ name ∈ script.sceneNames := by
  rw [scene?, List.find?_isSome, sceneNames, List.mem_map]
  simp only [decide_eq_true_eq]

/-- Tokens make a script if one of them declares the main scene, and it is the one that they tell:
a scene for each declared name, with the content that follows its last declaration. -/
theorem ofTokens_iff_groups (tokens : List Token) :
    (∀ script, ofTokens tokens = .ok script ↔
        mainScene ∈ Token.declaredNames tokens ∧ script.Groups tokens) ∧
      ∀ error, ofTokens tokens = .error error ↔
        mainScene ∉ Token.declaredNames tokens ∧ error = .missingMain := by
  have declared : ((assembled tokens).scene? mainScene).isSome ↔
      mainScene ∈ Token.declaredNames tokens := by
    rw [isSome_scene?_iff, sceneNames_assembled, List.mem_eraseDups]
  rw [ofTokens_eq]
  simp only [declared, groups_iff]
  by_cases present : mainScene ∈ Token.declaredNames tokens
  · simp [present, eq_comm]
  · simp [present, eq_comm]

/-- A scene that is declared again keeps its place, and what comes before all scenes is left out. -/
example :
    ofTokens [⟨.text, "before", ⟨1, 1⟩⟩, ⟨.sceneDeclaration, "main", ⟨2, 1⟩⟩,
        ⟨.text, "old", ⟨3, 1⟩⟩, ⟨.sceneDeclaration, "other", ⟨4, 1⟩⟩,
        ⟨.sceneDeclaration, "main", ⟨5, 1⟩⟩, ⟨.beatSeparator, ";;", ⟨6, 1⟩⟩,
        ⟨.text, "\n", ⟨7, 1⟩⟩, ⟨.text, "new", ⟨8, 1⟩⟩, ⟨.finish, "", ⟨8, 4⟩⟩] =
      .ok ⟨[⟨"main", ⟨5, 1⟩, [[], [⟨.text "new", ⟨8, 1⟩⟩]]⟩, ⟨"other", ⟨4, 1⟩, []⟩]⟩ :=
  rfl

end Script

end Playscript
