/-
This file holds classes of characters that are given by ranges of code points. The ranges of a class
ascend, and so a look-up that stops at the first range above a character misses nothing. White space
is such a class; larger ones stand in modules of their own.
-/

namespace Playscript

/-- Whether closed ranges begin at a bound or later, ascend and stand apart. -/
def ascendFrom (bound : Nat) : List (Nat × Nat) → Bool
  | [] => true
  | (first, last) :: rest => bound ≤ first && first ≤ last && ascendFrom (last + 2) rest

/-- A class of characters: closed ranges of code points, ascending and apart. -/
structure CharClass where
  ranges : List (Nat × Nat)
  ascending : ascendFrom 0 ranges = true := by decide +kernel

namespace CharClass

/-- Looks a code point up in ascending ranges; the search ends at the first range above it. -/
def inRanges (code : Nat) : List (Nat × Nat) → Bool
  | [] => false
  | (first, last) :: rest =>
    if code < first then false else code ≤ last || inRanges code rest

/-- Whether a character belongs to the class. -/
def contains (charClass : CharClass) (character : Char) : Bool :=
  inRanges character.toNat charClass.ranges

/-- Nothing below the bound is in ranges that ascend from it. -/
theorem bound_le_of_ascendFrom {bound : Nat} {ranges : List (Nat × Nat)}
    (ascending : ascendFrom bound ranges = true) {range : Nat × Nat} (member : range ∈ ranges) :
    bound ≤ range.1 := by
  induction ranges generalizing bound with
  | nil => simp at member
  | cons head rest inductionHypothesis =>
    simp only [ascendFrom, Bool.and_eq_true, decide_eq_true_eq] at ascending
    rcases List.mem_cons.mp member with rfl | later
    · exact ascending.1.1
    · have := inductionHypothesis ascending.2 later
      omega

/-- The look-up in ascending ranges finds just the code points that lie in one of them. -/
theorem inRanges_iff {bound : Nat} {ranges : List (Nat × Nat)}
    (ascending : ascendFrom bound ranges = true) (code : Nat) :
    inRanges code ranges = true ↔ ∃ range ∈ ranges, range.1 ≤ code ∧ code ≤ range.2 := by
  induction ranges generalizing bound with
  | nil => simp [inRanges]
  | cons head rest inductionHypothesis =>
    have later : ∀ range ∈ rest, head.2 + 2 ≤ range.1 := by
      simp only [ascendFrom, Bool.and_eq_true] at ascending
      exact fun range member => bound_le_of_ascendFrom ascending.2 member
    simp only [ascendFrom, Bool.and_eq_true, decide_eq_true_eq] at ascending
    unfold inRanges
    by_cases below : code < head.1
    · rw [if_pos below]
      constructor
      · simp
      · rintro ⟨range, member, reached, _⟩
        rcases List.mem_cons.mp member with rfl | member
        · omega
        · have := later range member
          omega
    · rw [if_neg below, Bool.or_eq_true, decide_eq_true_eq, inductionHypothesis ascending.2]
      constructor
      · rintro (within | ⟨range, member, between⟩)
        · exact ⟨head, List.mem_cons_self, by omega, within⟩
        · exact ⟨range, List.mem_cons_of_mem head member, between⟩
      · rintro ⟨range, member, between⟩
        rcases List.mem_cons.mp member with rfl | member
        · exact Or.inl between.2
        · exact Or.inr ⟨range, member, between⟩

/-- A character belongs to a class just if its code point lies in one of the ranges. -/
theorem contains_iff (charClass : CharClass) (character : Char) :
    charClass.contains character = true ↔
      ∃ range ∈ charClass.ranges, range.1 ≤ character.toNat ∧ character.toNat ≤ range.2 :=
  inRanges_iff charClass.ascending character.toNat

/-! ### White space -/

/-- The characters with the Unicode property White_Space (version 17.0), which is what scripts and
expressions skip and trim. -/
def blank : CharClass where
  ranges := [
    (0x9, 0xD), (0x20, 0x20), (0x85, 0x85), (0xA0, 0xA0), (0x1680, 0x1680), (0x2000, 0x200A),
    (0x2028, 0x2029), (0x202F, 0x202F), (0x205F, 0x205F), (0x3000, 0x3000)]

end CharClass

/-- Whether a character is white space. -/
def isBlank (character : Char) : Bool := CharClass.blank.contains character

/-- Takes white space away at the start of a text. -/
def trimStart (text : List Char) : List Char := text.dropWhile isBlank

/-- Takes white space away at both ends of a text. -/
def trim (text : List Char) : List Char := (trimStart (trimStart text).reverse).reverse

end Playscript
