/-
This file says what a reader sees of a value. Nested lists leave no trace: the text of a value is made
of the texts of its leaves, in order, with single spaces between those that show anything.

Texts form a monoid in this way, with the empty text as its unit. All that grouping and empty items
could do to a text is ruled out by the laws of that monoid, so the separators need not be looked at
again.
-/

import Mathlib.Data.List.Chain
import Mathlib.Logic.Relation
import Playscript.Expr.Value

namespace Playscript

/-! ### Texts beside each other -/

/-- Two texts with a space between them, unless one of them is empty. -/
def beside (first second : String) : String :=
  if first = "" then second else if second = "" then first else first ++ " " ++ second

@[simp] theorem beside_empty_left (text : String) : beside "" text = text := rfl

@[simp] theorem beside_empty_right (text : String) : beside text "" = text := by
  unfold beside
  split
  · rename_i empty
    exact empty.symm
  · rfl

theorem beside_of_ne_empty {first second : String} (firstShows : first ≠ "")
    (secondShows : second ≠ "") : beside first second = first ++ " " ++ second := by
  rw [beside, if_neg firstShows, if_neg secondShows]

theorem beside_eq_empty_iff {first second : String} :
    beside first second = "" ↔ first = "" ∧ second = "" := by
  unfold beside
  split
  · simp [*]
  · split <;> simp [*]

theorem beside_assoc (first second third : String) :
    beside (beside first second) third = beside first (beside second third) := by
  by_cases firstShows : first = ""
  · rw [firstShows, beside_empty_left, beside_empty_left]
  by_cases secondShows : second = ""
  · rw [secondShows, beside_empty_right, beside_empty_left]
  by_cases thirdShows : third = ""
  · rw [thirdShows, beside_empty_right, beside_empty_right]
  have front : beside first second ≠ "" := mt beside_eq_empty_iff.mp (firstShows ·.1)
  have back : beside second third ≠ "" := mt beside_eq_empty_iff.mp (secondShows ·.1)
  rw [beside_of_ne_empty front thirdShows, beside_of_ne_empty firstShows back,
    beside_of_ne_empty firstShows secondShows, beside_of_ne_empty secondShows thirdShows]
  simp only [String.append_assoc]

/-- Texts one beside the other. -/
def besideAll (texts : List String) : String := texts.foldr beside ""

@[simp] theorem besideAll_cons (text : String) (rest : List String) :
    besideAll (text :: rest) = beside text (besideAll rest) := rfl

theorem besideAll_append (first second : List String) :
    besideAll (first ++ second) = beside (besideAll first) (besideAll second) := by
  induction first with
  | nil => rfl
  | cons text rest inductionHypothesis =>
    rw [List.cons_append, besideAll_cons, besideAll_cons, inductionHypothesis, beside_assoc]

/-- Empty texts may be left out. -/
theorem besideAll_filter (texts : List String) :
    besideAll (texts.filter (· ≠ "")) = besideAll texts := by
  induction texts with
  | nil => rfl
  | cons text rest inductionHypothesis =>
    by_cases empty : text = ""
    · rw [List.filter_cons_of_neg (by simpa using empty), inductionHypothesis, empty,
        besideAll_cons, beside_empty_left]
    · rw [List.filter_cons_of_pos (by simpa using empty), besideAll_cons, besideAll_cons,
        inductionHypothesis]

theorem besideAll_eq_empty_iff {texts : List String} :
    besideAll texts = "" ↔ ∀ text ∈ texts, text = "" := by
  induction texts with
  | nil => simp [besideAll]
  | cons text rest inductionHypothesis =>
    rw [besideAll_cons, beside_eq_empty_iff, inductionHypothesis, List.forall_mem_cons]

/-- Texts that are not empty have single spaces between them. -/
theorem intercalate_eq_besideAll {texts : List String} (notEmpty : ∀ text ∈ texts, text ≠ "") :
    " ".intercalate texts = besideAll texts := by
  induction texts with
  | nil => exact String.intercalate_nil
  | cons text rest inductionHypothesis =>
    obtain ⟨first, others⟩ := List.forall_mem_cons.mp notEmpty
    rcases rest with _ | ⟨next, rest⟩
    · rw [String.intercalate_singleton, besideAll_cons]
      exact (beside_empty_right text).symm
    · have restShows : besideAll (next :: rest) ≠ "" := fun empty =>
        others next List.mem_cons_self
          (besideAll_eq_empty_iff.mp empty next List.mem_cons_self)
      rw [String.intercalate_cons_cons, inductionHypothesis others, besideAll_cons text,
        beside_of_ne_empty first restShows]

namespace Value

/-! ### Leaves -/

mutual

/-- The values other than lists that a value is made up of, in order. -/
def leaves : Value → List Value
  | list items => leavesOfAll items
  | leaf => [leaf]

/-- The values other than lists that some values are made up of, in order. -/
def leavesOfAll : List Value → List Value
  | [] => []
  | item :: rest => item.leaves ++ leavesOfAll rest

end

/-- The texts of the leaves that have one, in order. -/
def shown (value : Value) : List String := (value.leaves.map text).filter (· ≠ "")

mutual

/-- Whether a value is nothing, the empty string, or a list of such values. -/
def showsNothing : Value → Bool
  | null => true
  | string content => content == ""
  | list items => allShowNothing items
  | _ => false

/-- Whether all of some values are nothing, the empty string, or lists of such values. -/
def allShowNothing : List Value → Bool
  | [] => true
  | item :: rest => item.showsNothing && allShowNothing rest

end

theorem itemsText_cons (item : Value) (rest : List Value) :
    itemsText (item :: rest) = beside item.text (itemsText rest) := by
  rw [itemsText, beside]

theorem itemsText_append (first second : List Value) :
    itemsText (first ++ second) = beside (itemsText first) (itemsText second) := by
  induction first with
  | nil => rfl
  | cons item rest inductionHypothesis =>
    rw [List.cons_append, itemsText_cons, itemsText_cons, inductionHypothesis, beside_assoc]

/-- Items are put one by one behind what is there already. -/
theorem itemsText_eq_foldl (items : List Value) :
    itemsText items = items.foldl (fun sofar item => beside sofar item.text) "" := by
  induction items using List.reverseRecOn with
  | nil => rfl
  | append_singleton items item inductionHypothesis =>
    rw [itemsText_append, List.foldl_append, ← inductionHypothesis, itemsText_cons]
    exact congrArg _ (beside_empty_right item.text)

mutual

theorem text_eq_besideAll (value : Value) : value.text = besideAll (value.leaves.map text) := by
  cases value with
  | list items => exact itemsText_eq_besideAll items
  | _ => exact (beside_empty_right _).symm

theorem itemsText_eq_besideAll (items : List Value) :
    itemsText items = besideAll ((leavesOfAll items).map text) := by
  cases items with
  | nil => rfl
  | cons item rest =>
    rw [itemsText_cons, text_eq_besideAll item, itemsText_eq_besideAll rest, leavesOfAll,
      List.map_append, besideAll_append]

end

theorem text_eq_intercalate (value : Value) : value.text = " ".intercalate value.shown := by
  have notEmpty : ∀ text ∈ value.shown, text ≠ "" := fun text member => by
    simpa using (List.mem_filter.mp member).2
  rw [intercalate_eq_besideAll notEmpty, shown, besideAll_filter, text_eq_besideAll]

/-! ### What shows nothing -/

theorem positional_ne_nil (decimal : Decimal) : decimal.positional ≠ [] := by
  have digits : Nat.toDigits 10 decimal.digits ≠ [] := Nat.toDigits_ne_nil
  unfold Decimal.positional
  dsimp only
  split
  · exact List.append_ne_nil_of_left_ne_nil digits _
  · split
    · exact List.append_ne_nil_of_right_ne_nil _ (List.cons_ne_nil _ _)
    · exact List.cons_ne_nil _ _

theorem floatText_ne_empty (number : Float) : floatText number ≠ "" := by
  unfold floatText
  split
  · decide
  · dsimp only
    rw [Ne, String.ofList_eq_empty_iff]
    split
    · exact List.cons_ne_nil _ _
    · split
      · exact List.cons_ne_nil _ _
      · split
        · exact List.cons_ne_nil _ _
        · exact positional_ne_nil _

theorem toString_int_ne_empty (number : Int) : toString number ≠ "" := by
  rw [Int.toString_eq_repr, Int.repr_eq_if]
  split
  · exact Nat.repr_ne_empty
  · simp

mutual

/-- Only nothing, the empty string and lists of these have no text. -/
theorem text_eq_empty_iff (value : Value) : value.text = "" ↔ value.showsNothing = true := by
  cases value with
  | null => exact iff_of_true rfl rfl
  | bool truth => cases truth <;> exact iff_of_false (by decide) nofun
  | int number => exact iff_of_false (toString_int_ne_empty _) nofun
  | float number => exact iff_of_false (floatText_ne_empty number) nofun
  | string content => rw [text, showsNothing, beq_iff_eq]
  | list items => exact itemsText_eq_empty_iff items

theorem itemsText_eq_empty_iff (items : List Value) :
    itemsText items = "" ↔ allShowNothing items = true := by
  cases items with
  | nil => exact iff_of_true rfl rfl
  | cons item rest =>
    rw [itemsText_cons, beside_eq_empty_iff, text_eq_empty_iff item, itemsText_eq_empty_iff rest,
      allShowNothing, Bool.and_eq_true]

end

/-! ### Grouping -/

/-- One value becomes the other when items are grouped in another way, or something that shows
nothing is left out, at any depth. -/
inductive Regroups : Value → Value → Prop
  /-- The items of an inner list take its place. -/
  | flattens (before items after : List Value) :
      Regroups (list (before ++ list items :: after)) (list (before ++ items ++ after))
  /-- A list is cut into consecutive lists. -/
  | splits (parts : List (List Value)) : Regroups (list parts.flatten) (list (parts.map list))
  | drops (before : List Value) {item : Value} (after : List Value)
      (hidden : item.showsNothing = true) :
      Regroups (list (before ++ item :: after)) (list (before ++ after))
  | inside (before : List Value) {first second : Value} (after : List Value)
      (regroups : Regroups first second) :
      Regroups (list (before ++ first :: after)) (list (before ++ second :: after))

theorem itemsText_map_list (parts : List (List Value)) :
    itemsText (parts.map list) = itemsText parts.flatten := by
  induction parts with
  | nil => rfl
  | cons part rest inductionHypothesis =>
    rw [List.map_cons, itemsText_cons, inductionHypothesis, List.flatten_cons, itemsText_append,
      text]

theorem Regroups.text_eq {first second : Value} (regroups : Regroups first second) :
    first.text = second.text := by
  induction regroups with
  | flattens before items after =>
    simp only [text, itemsText_append, itemsText_cons, beside_assoc]
  | splits parts => exact (itemsText_map_list parts).symm
  | drops before after hidden =>
    simp only [text, itemsText_append, itemsText_cons, (text_eq_empty_iff _).mpr hidden,
      beside_empty_left]
  | inside before after _ inductionHypothesis =>
    simp only [text, itemsText_append, itemsText_cons, inductionHypothesis]

theorem text_eq_of_eqvGen {first second : Value} (same : Relation.EqvGen Regroups first second) :
    first.text = second.text := by
  induction same with
  | rel _ _ regroups => exact regroups.text_eq
  | refl => rfl
  | symm _ _ _ inductionHypothesis => exact inductionHypothesis.symm
  | trans _ _ _ _ _ firstHypothesis secondHypothesis =>
    exact firstHypothesis.trans secondHypothesis

end Value

/-! ### Spaces -/

/-- A text has no space at its ends, and nowhere two spaces in a row. -/
structure IsTidy (text : String) : Prop where
  begins : text.toList.head? ≠ some ' '
  ends : text.toList.getLast? ≠ some ' '
  single : ¬ [' ', ' '] <:+: text.toList

theorem isTidy_empty : IsTidy "" := ⟨by decide, by decide, by decide⟩

theorem not_twice_infix_iff {character : Char} {text : List Char} :
    ¬ [character, character] <:+: text ↔
      text.IsChain fun first second => ¬ (first = character ∧ second = character) := by
  rw [List.isChain_iff_forall_rel_of_append_cons_cons]
  constructor
  · rintro apart first second front back rfl ⟨rfl, rfl⟩
    exact apart ⟨front, back, by simp⟩
  · rintro apart ⟨front, back, rfl⟩
    have split : front ++ [character, character] ++ back =
        front ++ character :: character :: back := by
      simp
    exact apart split ⟨rfl, rfl⟩

/-- A space between two tidy texts has no other space next to it. -/
theorem IsTidy.beside {first second : String} (firstTidy : IsTidy first)
    (secondTidy : IsTidy second) : IsTidy (beside first second) := by
  unfold Playscript.beside
  split
  · exact secondTidy
  split
  · exact firstTidy
  rename_i firstShows secondShows
  have firstSome : first.toList ≠ [] := mt String.toList_eq_nil_iff.mp firstShows
  have secondSome : second.toList ≠ [] := mt String.toList_eq_nil_iff.mp secondShows
  have whole : (first ++ " " ++ second).toList = first.toList ++ (' ' :: second.toList) := by
    simp
  constructor
  · rw [whole, List.head?_append_of_ne_nil _ firstSome]
    exact firstTidy.begins
  · rw [whole, List.getLast?_append_of_ne_nil _ (List.cons_ne_nil _ _),
      List.getLast?_cons_of_ne_nil secondSome]
    exact secondTidy.ends
  · rw [whole, not_twice_infix_iff, List.isChain_append, List.isChain_cons]
    refine ⟨not_twice_infix_iff.mp firstTidy.single,
      ⟨?_, not_twice_infix_iff.mp secondTidy.single⟩, ?_⟩
    · rintro next isNext ⟨-, rfl⟩
      exact secondTidy.begins isNext
    · rintro last isLast - - ⟨rfl, -⟩
      exact firstTidy.ends isLast

theorem isTidy_besideAll {texts : List String} (tidy : ∀ text ∈ texts, IsTidy text) :
    IsTidy (besideAll texts) := by
  induction texts with
  | nil => exact isTidy_empty
  | cons text rest inductionHypothesis =>
    obtain ⟨first, others⟩ := List.forall_mem_cons.mp tidy
    exact first.beside (inductionHypothesis others)

/-- The text of a value is that of its leaves that show anything, in order, with single spaces
between them; nothing, empty strings and lists of these are the values without a text. So a text does
not change when nested lists are flattened, lists are cut into lists, or what shows nothing is left
out, at any depth and as often as one likes; and if no leaf has a space at its ends or two in a row,
neither has the text. -/
theorem text_of_leaves :
    (∀ value : Value, value.text = " ".intercalate value.shown) ∧
    (∀ value : Value, value.text = "" ↔ value.showsNothing = true) ∧
    (∀ first second, Relation.EqvGen Value.Regroups first second → first.text = second.text) ∧
    ∀ value : Value, (∀ leaf ∈ value.leaves, IsTidy leaf.text) → IsTidy value.text := by
  refine ⟨Value.text_eq_intercalate, Value.text_eq_empty_iff,
    fun _ _ same => Value.text_eq_of_eqvGen same, fun value tidy => ?_⟩
  rw [value.text_eq_besideAll]
  exact isTidy_besideAll (List.forall_mem_map.mpr tidy)

/-- Empty items at all places of a nested list leave no space behind. -/
theorem text_of_leaves_nested :
    Relation.EqvGen Value.Regroups
        (.list [.null, .list [.int 1, .string ""], .list [.list []], .string "two"])
        (.list [.int 1, .string "two"]) ∧
      (Value.list [.null, .list [.int 1, .string ""], .list [.list []], .string "two"]).text =
        "1 two" ∧
      IsTidy (Value.list [.int 1, .string "two"]).text := by
  have one : (Value.int 1).text = "1" := by decide
  obtain ⟨-, -, regrouped, tidy⟩ := text_of_leaves
  have same : Relation.EqvGen Value.Regroups
      (.list [.null, .list [.int 1, .string ""], .list [.list []], .string "two"])
      (.list [.int 1, .string "two"]) :=
    .trans _ _ _ (.rel _ _ (.drops [] _ rfl)) <|
      .trans _ _ _ (.rel _ _ (.flattens [] _ _)) <|
      .trans _ _ _ (.rel _ _ (.drops [.int 1] _ rfl)) (.rel _ _ (.drops [.int 1] _ rfl))
  refine ⟨same, (regrouped _ _ same).trans (by decide), tidy _ ?_⟩
  refine List.forall_mem_cons.mpr ⟨?_, List.forall_mem_singleton.mpr ?_⟩
  · rw [one]
    exact ⟨by decide, by decide, by decide⟩
  · exact ⟨by decide, by decide, by decide⟩

end Playscript
