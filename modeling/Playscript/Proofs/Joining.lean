/-
This file says what two texts one after the other stand for, if the first one ends with a newline.
Their tokens follow each other, those of the second text as many lines further down as the first one
has newlines, and a mistake of the second text moves down in the same way. If the second text begins
with a declaration, its scenes are added to those of the first one, and a scene that is declared in
both has its later content at its earlier place.

A piece is the same before a longer rest, unless it goes on up to the end of what it was cut off. A
newline at the end rules that out: lines end with it, and plain text ends before it. From there on
the second text is read as by itself, since a line starts there, only from another position.
-/

import Playscript.Proofs.Corresponding
import Playscript.Proofs.Locating

namespace Playscript

/-! ### Further down -/

/-- The position so many lines further down. -/
def Position.down (lines : Nat) (position : Position) : Position :=
  ⟨position.line + lines, position.column⟩

/-- The token so many lines further down. -/
def Token.down (lines : Nat) (token : Token) : Token :=
  { token with position := token.position.down lines }

/-- The mistake so many lines further down. -/
def Mistake.down (lines : Nat) (mistake : Mistake) : Mistake :=
  { mistake with position := mistake.position.down lines }

/-- The node so many lines further down. -/
def PlacedNode.down (lines : Nat) (placed : PlacedNode) : PlacedNode :=
  { placed with position := placed.position.down lines }

/-- The scene so many lines further down, with its nodes. -/
def SceneDraft.down (lines : Nat) (scene : SceneDraft) : SceneDraft :=
  { scene with
    position := scene.position.down lines
    beats := scene.beats.map (·.map (·.down lines)) }

/-- The place with the same text before it, so many lines further down. -/
def Place.down (lines : Nat) (place : Place) : Place :=
  { place with position := place.position.down lines }

/-- Earlier scenes, each with the later content of its name if there is any, and then the later
scenes with new names. -/
def Script.joined (earlier later : List SceneDraft) : List SceneDraft :=
  earlier.map (fun scene => (later.find? (·.name = scene.name)).getD scene) ++
    later.filter (·.name ∉ earlier.map (·.name))

theorem Position.after_down (lines : Nat) (position : Position) (character : Char) :
    (position.down lines).after character = (position.after character).down lines := by
  unfold after
  split
  · rw [down, down, Nat.add_right_comm]
  · rfl

theorem Position.afterAll_down (lines : Nat) (position : Position) (text : List Char) :
    (position.down lines).afterAll text = (position.afterAll text).down lines := by
  induction text generalizing position with
  | nil => rfl
  | cons character rest inductionHypothesis =>
    rw [afterAll_cons, afterAll_cons, after_down, inductionHypothesis]

/-- From a place further down the same is found, further down. -/
theorem Place.tokens_down (lines : Nat) (place : Place) :
    (place.down lines).tokens =
      (place.tokens.mapError (·.down lines)).map (List.map (·.down lines)) := by
  rcases more : place.rest with _ | ⟨character, rest⟩
  · have same : (place.down lines).rest = [] := more
    rw [tokens_of_nil more, tokens_of_nil same]
    rfl
  · have same : (place.down lines).rest = character :: rest := more
    have atLineStart : (place.down lines).atLineStart = place.atLineStart := rfl
    rw [tokens_of_cons more, tokens_of_cons same, atLineStart]
    have shorter : (place.behind (Piece.first place.atLineStart character rest)).rest.length <
        place.rest.length := more ▸ Piece.length_rest_first place.atLineStart character rest
    have later := tokens_down lines (place.behind (Piece.first place.atLineStart character rest))
    generalize Piece.first place.atLineStart character rest = piece at later ⊢
    have moved : (place.down lines).behind piece = (place.behind piece).down lines := by
      unfold behind
      rw [down, down, Position.afterAll_down]
    rw [moved, later]
    rcases piece.finding with fault | ⟨kind, text⟩
    · rfl
    · cases (place.behind piece).tokens <;> rfl
termination_by place.rest.length

/-! ### A longer rest -/

/-- Two characters decide whether plain text ends. -/
theorem interrupts_of_append {text further : List Char} (atLeastTwo : 2 ≤ text.length)
    (interrupts : Interrupts (text ++ further)) : Interrupts text := by
  obtain ⟨first, second, rest, rfl⟩ : ∃ first second rest, text = first :: second :: rest := by
    rcases text with _ | ⟨first, _ | ⟨second, rest⟩⟩
    · exact absurd atLeastTwo (Nat.not_succ_le_zero 1)
    · exact absurd atLeastTwo (Nat.not_succ_le_self 1)
    · exact ⟨first, second, rest, rfl⟩
  generalize same : first :: second :: rest ++ further = whole at interrupts
  cases interrupts with
  | newline =>
    cases same
    exact .newline
  | carriageReturn =>
    cases same
    exact .carriageReturn
  | expression member =>
    rcases mem_expressionSigils_iff.mp member with ⟨rfl, _⟩ | ⟨rfl, _⟩ | ⟨rfl, _⟩ | ⟨rfl, _⟩ <;>
      cases same <;> exact .expression member
  | string member opens =>
    cases same
    exact .string member opens

theorem Interrupts.append {text : List Char} (interrupts : Interrupts text) (further : List Char) :
    Interrupts (text ++ further) := by
  cases interrupts with
  | newline => exact .newline
  | carriageReturn => exact .carriageReturn
  | expression member =>
    rw [List.append_assoc, List.cons_append]
    exact .expression member
  | string member opens => exact .string member opens

/-- Two characters decide whether a line begins with a mark. -/
theorem beginsMark_of_append {text further : List Char} (atLeastTwo : 2 ≤ text.length)
    (begins : BeginsMark (text ++ further)) : BeginsMark text := by
  have front (mark : List Char) (two : mark.length = 2) (starts : mark <+: text ++ further) :
      mark <+: text :=
    List.prefix_of_prefix_length_le starts (List.prefix_append _ _) (two ▸ atLeastTwo)
  exact begins.imp (front _ rfl) (front _ rfl)

namespace IsPiece

variable {before piece after content : List Char} {kind : TokenKind}

/-- Plain text does not end with a newline, so something follows it if the text does. -/
theorem ne_nil_of_uninterrupted (uninterrupted : Uninterrupted content after)
    (ends : ['\n'] <:+ content ++ after) : after ≠ [] := by
  rintro rfl
  rw [List.append_nil] at ends
  exact uninterrupted ['\n'] ends (List.cons_ne_nil _ _) .newline

/-- Before a longer rest a piece is the same, if a newline ends what the rest begins with. -/
theorem append (isPiece : IsPiece before piece after kind content)
    (ends : ['\n'] <:+ piece ++ after) (further : List Char) :
    IsPiece before piece (after ++ further) kind content := by
  have longer {inside ending : List Char} {mark : Char} (line : IsLine inside ending after)
      (notNewline : mark ≠ '\n')
      (ends : ['\n'] <:+ mark :: mark :: (inside ++ ending) ++ after) :
      IsLine inside ending (after ++ further) := by
    refine ⟨line.noNewline, line.ends.imp_right ?_⟩
    -- A line that ends with the text has no newline, neither inside nor in its mark.
    rintro ⟨rfl, rfl⟩
    have last : '\n' ∈ mark :: mark :: inside := by
      rw [List.append_nil, List.append_nil] at ends
      exact ends.subset (List.mem_singleton_self _)
    simp [notNewline.symm, line.noNewline] at last
  cases isPiece with
  | sceneDeclaration starts line named =>
    exact .sceneDeclaration starts (longer line (by decide) ends) named
  | beatSeparator starts line => exact .beatSeparator starts (longer line (by decide) ends)
  | newline => exact .newline
  | carriageReturn => exact .carriageReturn
  | string member opens quoted => exact .string member opens quoted
  | expression member enclosed => exact .expression member enclosed
  | plain notEmpty noMark uninterrupted interrupts =>
    have more := ne_nil_of_uninterrupted uninterrupted ends
    have two {back : List Char} (some : back ≠ []) : 2 ≤ (back ++ after).length := by
      have first := List.length_pos_iff.mpr some
      have second := List.length_pos_iff.mpr more
      rw [List.length_append]
      omega
    refine .plain notEmpty ?_ ?_ ?_
    · intro starts begins
      rw [← List.append_assoc] at begins
      exact noMark starts (beginsMark_of_append (two notEmpty) begins)
    · intro back suffix some stops
      rw [← List.append_assoc] at stops
      exact uninterrupted back suffix some (interrupts_of_append (two some) stops)
    · exact .inr ((interrupts.resolve_left more).append further)

end IsPiece

/-! ### Tokens -/

namespace Place

/-- What stands before a place and behind it tells all of it. -/
theorem Behind.eq {place other : Place} {before : List Char} (behind : place.Behind before)
    (otherBehind : other.Behind before) (same : place.rest = other.rest) : place = other := by
  obtain ⟨rest, position, atLineStart⟩ := place
  obtain ⟨rest', position', atLineStart'⟩ := other
  obtain rfl : position = position' := behind.position.trans otherBehind.position.symm
  obtain rfl : atLineStart = atLineStart' :=
    Bool.eq_iff_iff.mpr (behind.atLineStart.trans otherBehind.atLineStart.symm)
  rw [show rest = rest' from same]

/-- Pieces up to a newline are found before any further text, and what is found after them is found
from the place there. -/
theorem tokens_of_consecutive {place further : Place} {before : List Char}
    {pieces : List (List Char × Token)} (behind : place.Behind before)
    (consecutive : Consecutive before pieces)
    (whole : place.rest = pieces.flatMap Prod.fst ++ further.rest)
    (ends : pieces ≠ [] → ['\n'] <:+ pieces.flatMap Prod.fst)
    (furtherBehind : further.Behind (before ++ pieces.flatMap Prod.fst)) :
    place.tokens = further.tokens.map (pieces.map Prod.snd ++ ·) := by
  induction pieces generalizing place before with
  | nil =>
    rw [List.flatMap_nil, List.append_nil] at furtherBehind
    rw [behind.eq furtherBehind whole]
    cases further.tokens <;> rfl
  | cons first later inductionHypothesis =>
    obtain ⟨piece, token⟩ := first
    obtain ⟨isPiece, position, others⟩ := consecutive
    rw [List.flatMap_cons] at whole ends furtherBehind
    rw [List.append_assoc] at whole
    rw [← List.append_assoc] at furtherBehind
    have endsHere := ends (List.cons_ne_nil _ _)
    have endsLater : later ≠ [] → ['\n'] <:+ later.flatMap Prod.fst := by
      intro some
      obtain ⟨next, rest, rfl⟩ := List.exists_cons_of_ne_nil some
      have notEmpty : (next :: rest).flatMap Prod.fst ≠ [] :=
        List.append_ne_nil_of_left_ne_nil others.1.ne_nil _
      exact List.suffix_of_suffix_length_le endsHere (List.suffix_append _ _)
        (List.length_pos_iff.mpr notEmpty)
    obtain ⟨character, rest, more⟩ : ∃ character rest, place.rest = character :: rest :=
      List.exists_cons_of_ne_nil (whole ▸ List.append_ne_nil_of_left_ne_nil isPiece.ne_nil _)
    have found := Piece.first_of_isPiece behind.atLineStart
      (isPiece.append endsHere further.rest) (more.symm.trans whole)
    have next := behind.further
      ⟨.ok (token.kind, token.text.toList), piece, later.flatMap Prod.fst ++ further.rest⟩
      isPiece.ne_nil
    rw [tokens_of_cons more, found]
    dsimp only
    rw [inductionHypothesis next others rfl endsLater furtherBehind, behind.position, ← position,
      String.ofList_toList]
    cases further.tokens <;> rfl

end Place

theorem Position.behind_of_newline {before : List Char} (ends : ['\n'] <:+ before) :
    behind before = start.down (before.count '\n') := by
  obtain ⟨front, rfl⟩ := ends
  rw [behind, List.rtakeWhile_concat_neg _ _ _ (by decide)]
  exact congrArg (Position.mk · 1) (Nat.add_comm _ _)

/-- Behind a newline the tokens of a further text are its own, further down. -/
theorem Token.scan_append {first : String} {tokens : List Token} (second : String)
    (ends : ['\n'] <:+ first.toList) (scanned : scan first = .ok tokens) :
    scan (first ++ second) =
      ((scan second).mapError (·.down (first.toList.count '\n'))).map
        (tokens.dropLast ++ ·.map (·.down (first.toList.count '\n'))) := by
  obtain ⟨pieces, ⟨whole, consecutive⟩, rfl⟩ :=
    Place.tokens_sound (Place.behind_start first.toList) scanned
  have further : ((Place.start second.toList).down (first.toList.count '\n')).Behind
      first.toList := by
    refine ⟨?_, iff_of_true rfl (.inr ?_)⟩
    · rw [Position.afterAll_start, Position.behind_of_newline ends]
      rfl
    · obtain ⟨front, same⟩ := ends
      exact ⟨front, same.symm⟩
  have taken : pieces.flatMap Prod.fst = first.toList := whole.symm
  have both : (Place.start (first ++ second).toList).rest =
      pieces.flatMap Prod.fst ++ second.toList := by
    rw [taken]
    exact String.toList_append
  rw [← taken] at further ends
  rw [scan, List.dropLast_concat, Place.tokens_of_consecutive (Place.behind_start _) consecutive both
    (fun _ => ends) further, Place.tokens_down, scan, taken]
  cases (Place.start second.toList).tokens <;> rfl

/-! ### Scenes -/

theorem eq_map_of_forall₂ {First Second : Type} {change : First → Second} {firsts : List First}
    {seconds : List Second}
    (each : List.Forall₂ (fun first second => change first = second) firsts seconds) :
    firsts.map change = seconds := by
  rw [← List.forall₂_eq_eq_eq, List.forall₂_map_left_iff]
  exact each

namespace Script

section Adding

variable {scene : SceneDraft} {earlier later : List SceneDraft}

theorem addScene_append_of_mem (member : scene.name ∈ earlier.map (·.name)) :
    addScene scene (earlier ++ later) = addScene scene earlier ++ later := by
  induction earlier with
  | nil => exact absurd member List.not_mem_nil
  | cons first rest inductionHypothesis =>
    rw [List.cons_append, addScene, addScene]
    by_cases same : first.name = scene.name
    · rw [if_pos same, if_pos same, List.cons_append]
    · rcases List.mem_cons.mp member with here | further
      · exact absurd here.symm same
      · rw [if_neg same, if_neg same, inductionHypothesis further, List.cons_append]

theorem addScene_append_of_not_mem (new : scene.name ∉ earlier.map (·.name)) :
    addScene scene (earlier ++ later) = earlier ++ addScene scene later := by
  induction earlier with
  | nil => rfl
  | cons first rest inductionHypothesis =>
    obtain ⟨other, further⟩ := not_or.mp (mt List.mem_cons.mpr new)
    rw [List.cons_append, addScene, if_neg (Ne.symm other), inductionHypothesis further,
      List.cons_append]

theorem addScene_eq_map (different : (earlier.map (·.name)).Nodup)
    (member : scene.name ∈ earlier.map (·.name)) :
    addScene scene earlier =
      earlier.map fun other => if scene.name = other.name then scene else other := by
  induction earlier with
  | nil => exact absurd member List.not_mem_nil
  | cons first rest inductionHypothesis =>
    obtain ⟨new, others⟩ := List.nodup_cons.mp different
    rw [addScene, List.map_cons]
    by_cases same : first.name = scene.name
    · have unchanged : ∀ other ∈ rest, (if scene.name = other.name then scene else other) = other :=
        fun other isOther => if_neg fun found =>
          new (List.mem_map.mpr ⟨other, isOther, (same.trans found).symm⟩)
      rw [if_pos same, if_pos same.symm, List.map_congr_left unchanged, List.map_id']
    · rcases List.mem_cons.mp member with here | further
      · exact absurd here.symm same
      · rw [if_neg same, if_neg (Ne.symm same), inductionHypothesis others further]

/-- Adding a scene and leaving scenes out by their names can change places. -/
theorem filter_addScene (scene : SceneDraft) (kept : String → Bool) (scenes : List SceneDraft) :
    (addScene scene scenes).filter (fun other => kept other.name) =
      if kept scene.name then addScene scene (scenes.filter fun other => kept other.name)
      else scenes.filter fun other => kept other.name := by
  induction scenes with
  | nil => cases stays : kept scene.name <;> simp [addScene, stays]
  | cons first rest inductionHypothesis =>
    rw [addScene]
    by_cases same : first.name = scene.name
    · cases stays : kept scene.name <;> simp [addScene, same, stays]
    · rw [if_neg same, List.filter_cons, List.filter_cons, inductionHypothesis]
      cases stays : kept scene.name <;> cases first_stays : kept first.name <;>
        simp [addScene, same]

end Adding

theorem names_map_getD (earlier later : List SceneDraft) :
    (earlier.map fun scene => (later.find? (·.name = scene.name)).getD scene).map (·.name) =
      earlier.map (·.name) := by
  rw [List.map_map]
  refine List.map_congr_left fun scene _ => ?_
  rw [Function.comp_apply]
  cases found : later.find? (·.name = scene.name) with
  | none => rfl
  | some other => simpa using List.find?_some found

theorem addScene_joined {earlier : List SceneDraft} (different : (earlier.map (·.name)).Nodup)
    (later : List SceneDraft) (scene : SceneDraft) :
    addScene scene (joined earlier later) = joined earlier (addScene scene later) := by
  have names := names_map_getD earlier later
  have filtered := filter_addScene scene (· ∉ earlier.map (·.name)) later
  unfold joined
  rw [filtered]
  simp only [find?_addScene]
  by_cases member : scene.name ∈ earlier.map (·.name)
  · rw [addScene_append_of_mem (names ▸ member), addScene_eq_map (names ▸ different) (names ▸ member),
      if_neg (by simpa using member), List.map_map]
    refine congrArg (· ++ _) (List.map_congr_left fun other _ => ?_)
    have name : ((later.find? (·.name = other.name)).getD other).name = other.name := by
      cases found : later.find? (·.name = other.name) with
      | none => rfl
      | some _ => simpa using List.find?_some found
    rw [Function.comp_apply, name]
    split <;> rfl
  · have others : ∀ other ∈ earlier, scene.name ≠ other.name :=
      fun other isOther same => member (same ▸ List.mem_map_of_mem isOther)
    rw [addScene_append_of_not_mem (names ▸ member), if_pos (by simpa using member)]
    refine congrArg (· ++ _) (List.map_congr_left fun other isOther => ?_)
    rw [if_neg (others other isOther)]

/-- Scenes that are added to earlier ones come to what they are by themselves, joined to them. -/
theorem addScenes_eq_joined {earlier : List SceneDraft} (different : (earlier.map (·.name)).Nodup)
    (scenes : List SceneDraft) :
    addScenes earlier scenes = joined earlier (addScenes [] scenes) := by
  induction scenes using List.reverseRecOn with
  | nil => simp [addScenes, joined]
  | append_singleton scenes scene inductionHypothesis =>
    rw [addScenes_concat, inductionHypothesis, addScene_joined different, addScenes_concat]

theorem scenesOf_eq (tokens : List Token) :
    scenesOf tokens =
      addScenes [] ((Token.declarations (Token.body tokens)).map .ofDeclaration) :=
  OpenScript.close_foldl_take _ [] none

theorem nodup_scenesOf (tokens : List Token) : ((scenesOf tokens).map (·.name)).Nodup := by
  rw [scenesOf_eq]
  exact nodup_addScenes _

/-- Tokens before the end of the text are taken in first. -/
theorem scenesOf_append {tokens others : List Token}
    (noFinish : ∀ token ∈ tokens, token.kind ≠ .finish) :
    scenesOf (tokens ++ others) =
      ((Token.body others).foldl OpenScript.take (tokens.foldl OpenScript.take {})).close := by
  have body : Token.body (tokens ++ others) = tokens ++ Token.body others :=
    List.takeWhile_append_of_pos fun token member => by simpa using noFinish token member
  rw [scenesOf, body, List.foldl_append]

/-- Tokens that begin with a declaration close what stands before them, and add their scenes. -/
theorem scenesOf_append_declaration {tokens others : List Token} {declaration finish : Token}
    (noFinish : ∀ token ∈ tokens, token.kind ≠ .finish) (isFinish : finish.kind = .finish)
    (declares : declaration.kind = .sceneDeclaration) :
    scenesOf (tokens ++ declaration :: others) =
      joined (scenesOf (tokens ++ [finish])) (scenesOf (declaration :: others)) := by
  have notFinish : declaration.kind ≠ .finish := by
    rw [declares]
    decide
  have atEnd : Token.body [finish] = [] := List.takeWhile_cons_of_neg (by simpa using isFinish)
  have atStart : Token.body (declaration :: others) = declaration :: Token.body others :=
    List.takeWhile_cons_of_pos (by simpa using notFinish)
  have earlier : scenesOf (tokens ++ [finish]) = (tokens.foldl OpenScript.take {}).close := by
    rw [scenesOf_append noFinish, atEnd, List.foldl_nil]
  have different := nodup_scenesOf (tokens ++ [finish])
  rw [earlier] at different ⊢
  rw [scenesOf_append noFinish, scenesOf_eq, ← addScenes_eq_joined different]
  obtain ⟨finished, current⟩ := tokens.foldl OpenScript.take {}
  rw [OpenScript.close_foldl_take, atStart, List.takeWhile_cons_of_neg (by simpa using declares)]
  cases current <;> rfl

/-- Tokens further down stand for scenes further down. -/
theorem scenesOf_down (lines : Nat) (tokens : List Token) :
    scenesOf (tokens.map (·.down lines)) = (scenesOf tokens).map (·.down lines) := by
  have moved : List.Forall₂ (Token.Corresponds (fun placed placed' => placed.down lines = placed')
      (fun position position' => position.down lines = position')) tokens
      (tokens.map (·.down lines)) := by
    refine List.forall₂_map_right_iff.mpr (List.forall₂_same.mpr fun token _ => ?_)
    refine ⟨rfl, fun _ => rfl, rfl, ?_⟩
    obtain ⟨kind, text, position⟩ := token
    cases kind <;> constructor <;> rfl
  have scenes := corresponds_scenesOf (by rintro placed _ rfl; rfl) moved
  refine (eq_map_of_forall₂ (scenes.imp ?_)).symm
  rintro ⟨name, position, beats⟩ ⟨_, _, _⟩ ⟨rfl, rfl, nodes⟩
  rw [SceneDraft.down, eq_map_of_forall₂ (nodes.imp fun _ _ => eq_map_of_forall₂)]

end Script

/-! ### Both texts -/

theorem Token.exists_of_scan {source : String} {tokens : List Token}
    (scanned : scan source = .ok tokens) :
    ∃ others finish, tokens = others ++ [finish] ∧ finish.kind = .finish ∧
      ∀ token ∈ others, token.kind ≠ .finish := by
  obtain ⟨pieces, ⟨-, consecutive⟩, rfl⟩ :=
    Place.tokens_sound (Place.behind_start source.toList) scanned
  refine ⟨_, _, rfl, rfl, List.forall_mem_map.mpr fun piece member => ?_⟩
  obtain ⟨_, _, isPiece⟩ := consecutive.forall_isPiece piece member
  exact isPiece.kind_ne_finish

theorem Token.exists_declaration_of_scan {source : String} {tokens : List Token}
    (begins : [':', ':'] <+: source.toList) (scanned : scan source = .ok tokens) :
    ∃ declaration others, tokens = declaration :: others ∧
      declaration.kind = .sceneDeclaration := by
  obtain ⟨after, same⟩ := begins
  have more : (Place.start source.toList).rest = ':' :: ':' :: after := same.symm
  have declares : Piece.first (Place.start source.toList).atLineStart ':' (':' :: after) =
      Piece.sceneDeclaration after := rfl
  rw [scan, Place.tokens_of_cons more, declares] at scanned
  unfold Piece.sceneDeclaration at scanned
  dsimp only at scanned
  by_cases nameless : trim (Piece.line after).1 = []
  · rw [if_pos nameless] at scanned
    cases scanned
  · simp only [if_neg nameless] at scanned
    generalize Place.tokens _ = later at scanned
    cases later with
    | error mistake => cases scanned
    | ok others =>
      cases scanned
      exact ⟨_, others, rfl, rfl⟩

/-- Behind a text that can be cut into tokens and ends with a newline, a further text has its own
tokens and its own first mistake, as many lines further down as the first text has newlines. If it
begins with a declaration, its scenes are added to those of the first text, in the place of earlier
scenes with the same names or else at the end. -/
theorem joins_behind_newline {first : String} {tokens : List Token} (second : String)
    (ends : ['\n'] <:+ first.toList) (scanned : Token.scan first = .ok tokens) :
    let lines := first.toList.count '\n'
    (Token.scan (first ++ second) = ((Token.scan second).mapError (·.down lines)).map
        (tokens.dropLast ++ ·.map (·.down lines))) ∧
      ([':', ':'] <+: second.toList → ∀ others, Token.scan second = .ok others →
        let scenes := Script.joined (Script.scenesOf tokens)
          ((Script.scenesOf others).map (·.down lines))
        Script.read (first ++ second) =
          if mainScene ∈ scenes.map (·.name) then .ok ⟨scenes⟩ else .error .missingMain) := by
  intro lines
  have whole := Token.scan_append second ends scanned
  refine ⟨whole, fun begins others otherScanned => ?_⟩
  obtain ⟨earlier, finish, rfl, isFinish, noFinish⟩ := Token.exists_of_scan scanned
  obtain ⟨declaration, later, rfl, declares⟩ :=
    Token.exists_declaration_of_scan begins otherScanned
  have scenes : Script.scenesOf (earlier ++ (declaration :: later).map (·.down lines)) =
      Script.joined (Script.scenesOf (earlier ++ [finish]))
        (Script.scenesOf ((declaration :: later).map (·.down lines))) :=
    Script.scenesOf_append_declaration noFinish isFinish declares
  rw [Script.scenesOf_down] at scenes
  rw [otherScanned, List.dropLast_concat] at whole
  rw [Script.read_of_scan whole, Script.ofTokens_eq_scenesOf, scenes]

/-- A scene that is declared again in the second text, with a string that goes over two lines. -/
theorem joins_behind_newline_redeclared :
    ∃ first second tokens others, ['\n'] <:+ first.toList ∧ [':', ':'] <+: second.toList ∧
      Token.scan first = .ok tokens ∧ Token.scan second = .ok others ∧
      Script.read (first ++ second) =
        .ok ⟨[⟨"b", ⟨6, 1⟩, [[⟨.instantString "x\ny", ⟨7, 1⟩⟩]]⟩,
          ⟨"main", ⟨3, 1⟩, [[⟨.text "a", ⟨5, 1⟩⟩]]⟩, ⟨"c", ⟨9, 1⟩, []⟩]⟩ := by
  have scanned : Token.scan "::b\r\nold\n::main\n\na\n" =
      .ok [⟨.sceneDeclaration, "b", ⟨1, 1⟩⟩, ⟨.text, "old", ⟨2, 1⟩⟩, ⟨.text, "\n", ⟨2, 4⟩⟩,
        ⟨.sceneDeclaration, "main", ⟨3, 1⟩⟩, ⟨.text, "\n", ⟨4, 1⟩⟩, ⟨.text, "a", ⟨5, 1⟩⟩,
        ⟨.text, "\n", ⟨5, 2⟩⟩, ⟨.finish, "", ⟨6, 1⟩⟩] := by
    with_unfolding_all rfl
  have otherScanned : Token.scan "::b\n#'x\ny'\n::c" =
      .ok [⟨.sceneDeclaration, "b", ⟨1, 1⟩⟩, ⟨.instantString, "x\ny", ⟨2, 1⟩⟩,
        ⟨.text, "\n", ⟨3, 3⟩⟩, ⟨.sceneDeclaration, "c", ⟨4, 1⟩⟩, ⟨.finish, "", ⟨4, 4⟩⟩] := by
    with_unfolding_all rfl
  have ends : ['\n'] <:+ "::b\r\nold\n::main\n\na\n".toList := by decide
  have begins : [':', ':'] <+: "::b\n#'x\ny'\n::c".toList := by decide
  obtain ⟨-, read⟩ := joins_behind_newline "::b\n#'x\ny'\n::c" ends scanned
  exact ⟨_, _, _, _, ends, begins, scanned, otherScanned, read begins _ otherScanned⟩

end Playscript
