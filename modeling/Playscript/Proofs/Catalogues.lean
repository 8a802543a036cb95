/-
This file keeps scenes together with a table that leads from their names to their numbers. A script
looks its scenes up by going through them; the table gives the same answers, since it stays in step
with the scenes: while a script is put together, where a scene that is declared again takes the
place of the earlier one, and while a programme is made of a script, where no scene has the name of
another.
-/

import Playscript.Proofs.Grouping
import Playscript.Script.Compilation
import Playscript.Table

namespace Playscript

/-! ### Entries with a table -/

/-- Entries in order, and a table from their names to their numbers. -/
structure Catalogue (Entry : Type) where
  entries : List Entry := []
  numbers : Table Nat := .empty

namespace Catalogue

variable {Entry : Type}

/-- The entry of a name, which the table leads to. -/
def get? (catalogue : Catalogue Entry) (key : String) : Option Entry :=
  (catalogue.numbers.get? key).bind fun number => catalogue.entries[number]?

variable (name : Entry → String)

/-- Adds an entry behind the others. -/
def append (catalogue : Catalogue Entry) (entry : Entry) : Catalogue Entry :=
  { entries := catalogue.entries ++ [entry]
    numbers := catalogue.numbers.insert (name entry) catalogue.entries.length }

/-- Puts an entry in place of the one that the table leads to, or behind the others. -/
def put (catalogue : Catalogue Entry) (entry : Entry) : Catalogue Entry :=
  match catalogue.numbers.get? (name entry) with
  | some number => { catalogue with entries := catalogue.entries.set number entry }
  | none => catalogue.append name entry

/-- The table leads from each name to the first entry that has it. -/
def InStep (catalogue : Catalogue Entry) : Prop :=
  ∀ key, catalogue.numbers.get? key = catalogue.entries.findIdx? (name · = key)

variable {name} {catalogue : Catalogue Entry} {entry : Entry}

theorem inStep_empty : InStep name {} := fun _ => rfl

/-- Where the table is in step, it finds what a search finds. -/
theorem InStep.get?_eq (inStep : catalogue.InStep name) (key : String) :
    catalogue.get? key = catalogue.entries.find? (name · = key) := by
  rw [get?, inStep key, List.find?_eq_bind_findIdx?_getElem?]

/-- The number of a new name is that of the entry behind all others. -/
theorem InStep.append (inStep : catalogue.InStep name)
    (new : name entry ∉ catalogue.entries.map name) :
    (catalogue.append name entry).InStep name := by
  intro key
  show (catalogue.numbers.insert (name entry) catalogue.entries.length).get? key =
    (catalogue.entries ++ [entry]).findIdx? (name · = key)
  rw [Table.get?_insert, inStep key, List.findIdx?_append, List.findIdx?_singleton]
  by_cases same : name entry = key
  · have absent : catalogue.entries.findIdx? (name · = key) = none := by
      refine List.findIdx?_eq_none_iff.mpr fun other member => decide_eq_false fun isKey => ?_
      exact new (List.mem_map.mpr ⟨other, member, isKey.trans same.symm⟩)
    simp [same, absent]
  · simp [same]

/-- Names stay where they are if an entry takes the place of one of its name. -/
theorem map_set_eq {entries : List Entry} {number : Nat} (within : number < entries.length)
    (same : name entries[number] = name entry) :
    (entries.set number entry).map name = entries.map name := by
  rw [List.map_set, ← same, ← List.getElem_map name (h := by rwa [List.length_map])]
  exact List.set_getElem_self _

theorem InStep.put (inStep : catalogue.InStep name) (entry : Entry) :
    (catalogue.put name entry).InStep name := by
  unfold Catalogue.put
  split
  · rename_i number found
    rw [inStep, List.findIdx?_eq_some_iff_getElem] at found
    obtain ⟨within, same, -⟩ := found
    intro key
    show catalogue.numbers.get? key = _
    have names := map_set_eq within (of_decide_eq_true same)
    have byNames (entries : List Entry) :
        entries.findIdx? (name · = key) = (entries.map name).findIdx? (· = key) := by
      rw [List.findIdx?_map]
      rfl
    rw [inStep key, byNames, byNames, names]
  · rename_i absent
    rw [inStep, List.findIdx?_eq_none_iff] at absent
    refine inStep.append fun member => ?_
    obtain ⟨other, otherMember, same⟩ := List.mem_map.mp member
    exact of_decide_eq_false (absent other otherMember) same

/-- Scenes are put where a search for their name puts them. -/
theorem entries_put {catalogue : Catalogue SceneDraft} (inStep : catalogue.InStep (·.name))
    (scene : SceneDraft) :
    (catalogue.put (·.name) scene).entries = Script.addScene scene catalogue.entries := by
  have searched (scenes : List SceneDraft) : Script.addScene scene scenes =
      match scenes.findIdx? (·.name = scene.name) with
      | some number => scenes.set number scene
      | none => scenes ++ [scene] := by
    induction scenes with
    | nil => rfl
    | cons earlier rest inductionHypothesis =>
      rw [Script.addScene, List.findIdx?_cons]
      by_cases same : earlier.name = scene.name
      · simp [same]
      · rw [if_neg same, inductionHypothesis, if_neg (by simpa using same)]
        cases rest.findIdx? (·.name = scene.name) <;> rfl
  rw [searched, ← inStep scene.name]
  unfold put
  dsimp only
  cases catalogue.numbers.get? scene.name <;> rfl

end Catalogue

/-! ### While a script is put together -/

/-- A script that is being put together, with a table of its finished scenes. -/
structure Builder where
  finished : Catalogue SceneDraft := {}
  current : Option OpenScene := none

namespace Builder

/-- Finishes the open scene. -/
def close (builder : Builder) : Catalogue SceneDraft :=
  match builder.current with
  | none => builder.finished
  | some scene => builder.finished.put (·.name) scene.finish

/-- Takes one token in. -/
def take (builder : Builder) (token : Token) : Builder :=
  match token.kind, builder.current with
  | .sceneDeclaration, _ => ⟨builder.close, some ⟨token.text, token.position, [], []⟩⟩
  | _, none => builder
  | .beatSeparator, some scene => { builder with current := some scene.closeBeat }
  | _, some scene =>
    match PlacedNode.ofToken? token with
    | some placed => { builder with current := some (scene.addNode placed) }
    | none => builder

/-- The script without the table. -/
def forget (builder : Builder) : OpenScript := ⟨builder.finished.entries, builder.current⟩

variable {builder : Builder} (inStep : builder.finished.InStep (·.name))

include inStep

theorem inStep_close : builder.close.InStep (·.name) := by
  unfold close
  split
  · exact inStep
  · exact inStep.put _

theorem entries_close : builder.close.entries = builder.forget.close := by
  rcases builder with ⟨finished, current | scene⟩
  · rfl
  · exact Catalogue.entries_put inStep scene.finish

/-- A token is taken in alike, and the table stays in step. -/
theorem inStep_take (token : Token) : (builder.take token).finished.InStep (·.name) ∧
    (builder.take token).forget = builder.forget.take token := by
  have closes := inStep_close inStep
  have closed := entries_close inStep
  obtain ⟨kind, text, position⟩ := token
  obtain ⟨finished, current⟩ := builder
  cases kind with
  | sceneDeclaration => exact ⟨closes, congrArg (OpenScript.mk · _) closed⟩
  | beatSeparator | finish => cases current <;> exact ⟨inStep, rfl⟩
  | text | instantString | typewriterString | inlineExpr | deferredExpr | instantExpr
  | typewriterExpr => cases current <;> exact ⟨inStep, rfl⟩

theorem inStep_foldl_take (tokens : List Token) :
    (tokens.foldl take builder).finished.InStep (·.name) ∧
      (tokens.foldl take builder).forget = tokens.foldl OpenScript.take builder.forget := by
  induction tokens generalizing builder with
  | nil => exact ⟨inStep, rfl⟩
  | cons token rest inductionHypothesis =>
    obtain ⟨stillInStep, same⟩ := inStep_take inStep token
    obtain ⟨inStep, others⟩ := inductionHypothesis stillInStep
    exact ⟨inStep, others.trans (congrArg (rest.foldl OpenScript.take) same)⟩

end Builder

/-- The scenes that tokens stand for, with a table. -/
def Script.catalogue (tokens : List Token) : Catalogue SceneDraft :=
  ((tokens.takeWhile (·.kind ≠ .finish)).foldl Builder.take {}).close

/-- The table of a script answers as the script does. -/
theorem Script.get?_catalogue {tokens : List Token} {script : Script}
    (built : Script.ofTokens tokens = .ok script) :
    (catalogue tokens).entries = script.scenes ∧
      ∀ name, (catalogue tokens).get? name = script.scene? name := by
  have start : Builder.finished {} |>.InStep SceneDraft.name := Catalogue.inStep_empty
  obtain ⟨inStep, same⟩ := Builder.inStep_foldl_take start (tokens.takeWhile (·.kind ≠ .finish))
  have entries : (catalogue tokens).entries = script.scenes := by
    rw [catalogue, Builder.entries_close inStep, same, eq_assembled_of_ofTokens built]
    exact OpenScript.close_foldl_take _ [] none
  refine ⟨entries, fun name => ?_⟩
  rw [scene?, ← entries]
  exact (Builder.inStep_close inStep).get?_eq name

/-! ### When a programme is made -/

namespace Programme

/-- The scenes of a programme with a table, each added behind those before it. -/
def catalogue (programme : Programme) : Catalogue Scene :=
  programme.scenes.foldl (·.append (·.name)) {}

theorem inStep_foldl_append {scenes : List Scene} {catalogue : Catalogue Scene}
    (inStep : catalogue.InStep (·.name))
    (different : ((catalogue.entries ++ scenes).map (·.name)).Nodup) :
    (scenes.foldl (·.append (·.name)) catalogue).InStep (·.name) ∧
      (scenes.foldl (·.append (·.name)) catalogue).entries = catalogue.entries ++ scenes := by
  induction scenes generalizing catalogue with
  | nil => exact ⟨inStep, (List.append_nil _).symm⟩
  | cons scene rest inductionHypothesis =>
    have whole : catalogue.entries ++ scene :: rest =
        (catalogue.append (·.name) scene).entries ++ rest := List.append_cons ..
    have new : scene.name ∉ catalogue.entries.map (·.name) := by
      rw [List.map_append, List.map_cons] at different
      exact fun member => (List.nodup_append.mp different).2.2 _ member _ List.mem_cons_self rfl
    rw [whole] at different ⊢
    exact inductionHypothesis (inStep.append new) different

/-- The table of a programme answers as the programme does. -/
theorem get?_catalogue {programme : Programme} (different : programme.sceneNames.Nodup) :
    programme.catalogue.entries = programme.scenes ∧
      ∀ name, programme.catalogue.numbers.get? name = programme.sceneIndex? name ∧
        programme.catalogue.get? name = programme.scene? name ∧
        programme.catalogue.numbers.contains name = programme.containsScene name := by
  obtain ⟨inStep, entries⟩ : programme.catalogue.InStep (·.name) ∧
      programme.catalogue.entries = programme.scenes :=
    inStep_foldl_append Catalogue.inStep_empty different
  have numbers (name : String) :
      programme.catalogue.numbers.get? name = programme.sceneIndex? name := by
    rw [inStep name, entries]
    rfl
  refine ⟨entries, fun name => ⟨numbers name, ?_, congrArg Option.isSome (numbers name)⟩⟩
  rw [Catalogue.get?, numbers name, entries]
  rfl

theorem names_compileScenes (scenes : List SceneDraft) :
    (compileScenes scenes).1.map (·.name) = scenes.map (·.name) := by
  induction scenes with
  | nil => rfl
  | cons scene rest inductionHypothesis => exact congrArg (scene.name :: ·) inductionHypothesis

/-- The scenes of a programme that was made of tokens have different names. -/
theorem nodup_sceneNames {tokens : List Token} {script : Script} {programme : Programme}
    (built : Script.ofTokens tokens = .ok script) (compiled : script.compile = .ok programme) :
    programme.sceneNames.Nodup := by
  have names : programme.sceneNames = script.sceneNames := by
    rw [sceneNames, Script.sceneNames, ← names_compileScenes]
    unfold Script.compile at compiled
    split at compiled
    · rename_i scenes whole
      cases compiled
      rw [whole]
    · cases compiled
  rw [names]
  exact Script.nodup_sceneNames built

end Programme

end Playscript
