/-
This file reads texts with escapes unit by unit. A unit is a character that is no backslash, a
backslash with the character after it, or a backslash with nothing after it; a text can be cut into
units in one way only. What a text stands for, and what is wrong with it, can be told from each of its
units alone, and so from each of two texts that are put together, unless the first one ends in a
backslash that would take the next character along.
-/

import Playscript.Proofs.Literals

namespace Playscript

/-! ### Units -/

/-- The characters with a meaning after a backslash, and what they stand for. -/
def escapes : List (Char × Char) := [
  ('n', '\n'), ('r', '\r'), ('t', '\t'), ('b', '\x08'), ('f', '\x0c'), ('v', '\x0b'), ('0', '\x00'),
  ('a', '\x07'), ('e', '\x1b'), ('\\', '\\'), ('"', '"'), ('\'', '\'')]

/-- What a text with escapes is made up of. -/
inductive EscapeUnit where
  /-- A character other than a backslash. -/
  | plain (character : Char)
  /-- A backslash and the character after it. -/
  | escaped (character : Char)
  /-- A backslash at the end of the text. -/
  | lone
  deriving DecidableEq, Repr

namespace EscapeUnit

/-- The characters of a unit. -/
def written : EscapeUnit → List Char
  | plain character => [character]
  | escaped character => ['\\', character]
  | lone => ['\\']

/-- What a unit stands for, if it stands for anything. -/
def meaning? : EscapeUnit → Option Char
  | plain character => some character
  | escaped character => escapes.lookup character
  | lone => none

/-- Whether a unit stands for nothing. -/
def isBad (unit : EscapeUnit) : Bool := unit.meaning?.isNone

/-- What is said of a unit that stands for nothing. -/
def complaint : EscapeUnit → String
  | lone => "incomplete escape sequence '" ++ String.ofList lone.written ++ "' at end of string"
  | unit => "unknown escape sequence '" ++ String.ofList unit.written ++ "'"

/-- What is wrong with a unit. -/
def flaw? : EscapeUnit → Option EscapeFlaw
  | plain _ => none
  | escaped character =>
    match escapes.lookup character with
    | none => some (.unknown character)
    | some _ => none
  | lone => some .incomplete

end EscapeUnit

/-- A text is cut into units from the left. -/
inductive InUnits : List Char → List EscapeUnit → Prop
  | nil : InUnits [] []
  | plain {character : Char} {rest : List Char} {units : List EscapeUnit}
      (notBackslash : character ≠ '\\') (others : InUnits rest units) :
      InUnits (character :: rest) (.plain character :: units)
  | escaped {character : Char} {rest : List Char} {units : List EscapeUnit}
      (others : InUnits rest units) :
      InUnits ('\\' :: character :: rest) (.escaped character :: units)
  | lone : InUnits ['\\'] [.lone]

theorem exists_inUnits : (raw : List Char) → ∃ units, InUnits raw units
  | [] => ⟨[], .nil⟩
  | [character] => by
    by_cases backslash : character = '\\'
    · exact ⟨[.lone], backslash ▸ .lone⟩
    · exact ⟨[.plain character], .plain backslash .nil⟩
  | character :: next :: rest => by
    by_cases backslash : character = '\\'
    · obtain ⟨units, others⟩ := exists_inUnits rest
      exact ⟨.escaped next :: units, backslash ▸ .escaped others⟩
    · obtain ⟨units, others⟩ := exists_inUnits (next :: rest)
      exact ⟨.plain character :: units, .plain backslash others⟩

namespace InUnits

variable {raw first second : List Char} {units others : List EscapeUnit}

theorem unique (inUnits : InUnits raw units) (inOthers : InUnits raw others) : others = units := by
  induction inUnits generalizing others with
  | nil =>
    cases inOthers
    rfl
  | plain notBackslash _ inductionHypothesis =>
    cases inOthers with
    | plain _ rest => rw [inductionHypothesis rest]
    | escaped | lone => exact absurd rfl notBackslash
  | escaped _ inductionHypothesis =>
    cases inOthers with
    | plain notBackslash => exact absurd rfl notBackslash
    | escaped rest => rw [inductionHypothesis rest]
  | lone =>
    cases inOthers with
    | plain notBackslash => exact absurd rfl notBackslash
    | lone => rfl

theorem flatMap_written (inUnits : InUnits raw units) :
    units.flatMap EscapeUnit.written = raw := by
  induction inUnits with
  | nil | lone => rfl
  | plain _ _ inductionHypothesis | escaped _ inductionHypothesis =>
    rw [List.flatMap_cons, inductionHypothesis]
    rfl

/-- The units of two texts are those of both, if the first one does not end within a unit. -/
theorem append (inUnits : InUnits first units) (whole : .lone ∉ units)
    (inOthers : InUnits second others) : InUnits (first ++ second) (units ++ others) := by
  induction inUnits with
  | nil => exact inOthers
  | plain notBackslash _ inductionHypothesis =>
    exact .plain notBackslash (inductionHypothesis (List.not_mem_of_not_mem_cons whole))
  | escaped _ inductionHypothesis =>
    exact .escaped (inductionHypothesis (List.not_mem_of_not_mem_cons whole))
  | lone => exact absurd List.mem_cons_self whole

end InUnits

/-! ### One unit -/

theorem escapeMeaning_eq_lookup (character : Char) :
    escapeMeaning character = escapes.lookup character := by
  unfold escapeMeaning
  split
  all_goals first | rfl | skip
  rw [eq_comm, List.lookup_eq_none_iff]
  simp_all [escapes]

namespace EscapeUnit

/-- A unit stands for something, or there is something wrong with it. -/
theorem meaning_or_flaw (unit : EscapeUnit) :
    (∃ meaning, unit.meaning? = some meaning ∧ unit.flaw? = none) ∨
      ∃ flaw, unit.meaning? = none ∧ unit.flaw? = some flaw := by
  cases unit with
  | plain character => exact .inl ⟨character, rfl, rfl⟩
  | escaped character =>
    rcases found : escapes.lookup character with _ | meaning
    · exact .inr ⟨.unknown character, found, by rw [flaw?, found]⟩
    · exact .inl ⟨meaning, found, by rw [flaw?, found]⟩
  | lone => exact .inr ⟨.incomplete, rfl, rfl⟩

theorem isBad_escaped_iff {character : Char} :
    (escaped character).isBad = true ↔ character ∉ escapes.map Prod.fst := by
  rw [isBad, meaning?, Option.isNone_iff_eq_none, List.lookup_eq_none_iff, List.mem_map]
  simp only [bne_iff_ne, not_exists, not_and]
  exact forall₂_congr fun _ _ => ne_comm

/-- All units stand for something exactly if no backslash is left over, and after each of the others
there is a character that has a meaning there. -/
theorem forall_isBad_eq_false_iff {units : List EscapeUnit} :
    (∀ unit ∈ units, unit.isBad = false) ↔ .lone ∉ units ∧
      ∀ character, .escaped character ∈ units → character ∈ escapes.map Prod.fst := by
  constructor
  · intro good
    refine ⟨fun member => absurd (good _ member) nofun, fun character member => ?_⟩
    by_contra unknown
    exact absurd (isBad_escaped_iff.mpr unknown) (Bool.not_eq_true _ ▸ good _ member)
  · rintro ⟨noLone, known⟩ unit member
    cases unit with
    | plain character => rfl
    | escaped character =>
      rw [← Bool.not_eq_true, isBad_escaped_iff, not_not]
      exact known character member
    | lone => exact absurd member noLone

theorem complaint_escaped (character : Char) :
    (escaped character).complaint = (EscapeFlaw.unknown character).message := by
  have sequence : String.ofList ['\\', character] = "\\" ++ String.singleton character := by
    rw [← String.toList_inj]
    simp
  have opening : "unknown escape sequence '" ++ "\\" = "unknown escape sequence '\\" := by decide
  calc "unknown escape sequence '" ++ String.ofList ['\\', character] ++ "'"
      = "unknown escape sequence '" ++ ("\\" ++ String.singleton character) ++ "'" :=
        congrArg ("unknown escape sequence '" ++ · ++ "'") sequence
    _ = "unknown escape sequence '" ++ "\\" ++ String.singleton character ++ "'" :=
        congrArg (· ++ "'") (String.append_assoc ..).symm
    _ = (EscapeFlaw.unknown character).message :=
        congrArg (· ++ String.singleton character ++ "'") opening

theorem message_of_flaw? {unit : EscapeUnit} {flaw : EscapeFlaw} (has : unit.flaw? = some flaw) :
    flaw.message = unit.complaint := by
  cases unit with
  | plain character => cases has
  | escaped character =>
    rw [flaw?] at has
    rcases found : escapes.lookup character with _ | meaning
    · rw [found] at has
      rw [← Option.some.inj has, complaint_escaped]
    · rw [found] at has
      cases has
  | lone =>
    rw [← Option.some.inj has]
    decide

end EscapeUnit

/-! ### All units -/

/-- What units stand for together, or what is wrong with them. -/
def resolveUnits (units : List EscapeUnit) : Except (List EscapeFlaw) (List Char) :=
  match units.filterMap EscapeUnit.flaw? with
  | [] => .ok (units.filterMap EscapeUnit.meaning?)
  | flaw :: others => .error (flaw :: others)

/-- Two texts in a row, or what is wrong with either of them. -/
def inARow :
    Except (List EscapeFlaw) (List Char) → Except (List EscapeFlaw) (List Char) →
      Except (List EscapeFlaw) (List Char)
  | .ok first, .ok second => .ok (first ++ second)
  | .ok _, .error flaws => .error flaws
  | .error flaws, .ok _ => .error flaws
  | .error flaws, .error others => .error (flaws ++ others)

theorem resolveUnits_append (first second : List EscapeUnit) :
    resolveUnits (first ++ second) = inARow (resolveUnits first) (resolveUnits second) := by
  unfold resolveUnits
  rw [List.filterMap_append, List.filterMap_append]
  rcases first.filterMap EscapeUnit.flaw? with _ | ⟨flaw, flaws⟩ <;>
    rcases second.filterMap EscapeUnit.flaw? with _ | ⟨other, others⟩ <;> simp [inARow]

theorem InUnits.unescape_eq {raw : List Char} {units : List EscapeUnit}
    (inUnits : InUnits raw units) : unescape raw = resolveUnits units := by
  induction inUnits with
  | nil | lone => rfl
  | @plain character rest units notBackslash _ inductionHypothesis =>
    rw [unescape_plain notBackslash, inductionHypothesis]
    show _ = resolveUnits ([.plain character] ++ units)
    rw [resolveUnits_append]
    cases resolveUnits units <;> rfl
  | @escaped character rest units _ inductionHypothesis =>
    show _ = resolveUnits ([.escaped character] ++ units)
    rw [unescape, inductionHypothesis, escapeMeaning_eq_lookup, resolveUnits_append]
    rcases found : escapes.lookup character with _ | meaning
    · have alone : resolveUnits [.escaped character] = .error [.unknown character] := by
        simp [resolveUnits, EscapeUnit.flaw?, found]
      rw [alone]
      cases resolveUnits units <;> rfl
    · have alone : resolveUnits [.escaped character] = .ok [meaning] := by
        simp [resolveUnits, EscapeUnit.flaw?, EscapeUnit.meaning?, found]
      rw [alone]
      cases resolveUnits units <;> rfl

theorem filterMap_flaw?_of_resolveUnits {units : List EscapeUnit} {flaws : List EscapeFlaw}
    (fails : resolveUnits units = .error flaws) : units.filterMap EscapeUnit.flaw? = flaws := by
  unfold resolveUnits at fails
  split at fails
  · cases fails
  · rename_i flaw others same
    rw [same]
    exact Except.error.inj fails

/-- Units stand for a text if each of them stands for a character of it. -/
theorem resolveUnits_eq_ok_iff {units : List EscapeUnit} {text : List Char} :
    resolveUnits units = .ok text ↔ units.map EscapeUnit.meaning? = text.map some := by
  induction units generalizing text with
  | nil => cases text <;> simp [resolveUnits]
  | cons unit rest inductionHypothesis =>
    show resolveUnits ([unit] ++ rest) = _ ↔ _
    rw [resolveUnits_append]
    rcases unit.meaning_or_flaw with ⟨meaning, means, noFlaw⟩ | ⟨flaw, nothing, has⟩
    · have alone : resolveUnits [unit] = .ok [meaning] := by simp [resolveUnits, means, noFlaw]
      rw [alone, List.map_cons, means]
      rcases text with _ | ⟨character, text⟩
      · cases resolveUnits rest <;> simp [inARow]
      · rw [List.map_cons, List.cons.injEq, ← inductionHypothesis]
        cases resolveUnits rest <;> simp [inARow]
    · have alone : resolveUnits [unit] = .error [flaw] := by simp [resolveUnits, has]
      rw [alone, List.map_cons, nothing]
      cases text <;> cases resolveUnits rest <;> simp [inARow]

/-- The flaws of units are told in the words for those that stand for nothing, in order. -/
theorem messages_filterMap_flaw? (units : List EscapeUnit) :
    (units.filterMap EscapeUnit.flaw?).map EscapeFlaw.message =
      (units.filter EscapeUnit.isBad).map EscapeUnit.complaint := by
  induction units with
  | nil => rfl
  | cons unit rest inductionHypothesis =>
    rcases unit.meaning_or_flaw with ⟨meaning, means, noFlaw⟩ | ⟨flaw, nothing, has⟩
    · have good : ¬ unit.isBad = true := by simp [EscapeUnit.isBad, means]
      rw [List.filterMap_cons_none noFlaw, List.filter_cons_of_neg good, inductionHypothesis]
    · have bad : unit.isBad = true := by simp [EscapeUnit.isBad, nothing]
      rw [List.filterMap_cons_some has, List.filter_cons_of_pos bad, List.map_cons, List.map_cons,
        inductionHypothesis, EscapeUnit.message_of_flaw? has]

/-- Units stand for some text exactly if each of them stands for something. -/
theorem exists_resolveUnits_iff {units : List EscapeUnit} :
    (∃ text, resolveUnits units = .ok text) ↔ ∀ unit ∈ units, unit.isBad = false := by
  simp only [resolveUnits_eq_ok_iff]
  constructor
  · rintro ⟨text, same⟩ unit member
    have image := List.mem_map_of_mem (f := EscapeUnit.meaning?) member
    rw [same] at image
    obtain ⟨meaning, -, means⟩ := List.mem_map.mp image
    rw [EscapeUnit.isBad, ← means]
    rfl
  · intro good
    induction units with
    | nil => exact ⟨[], rfl⟩
    | cons unit rest inductionHypothesis =>
      obtain ⟨first, others⟩ := List.forall_mem_cons.mp good
      obtain ⟨text, same⟩ := inductionHypothesis others
      obtain ⟨meaning, means⟩ := Option.isSome_iff_exists.mp
        (Option.isNone_eq_false_iff.mp first)
      exact ⟨meaning :: text, by rw [List.map_cons, List.map_cons, means, same]⟩

/-- A text can be cut into units in exactly one way. It stands for a text exactly if every backslash
in its units is followed by one of the characters that have a meaning there, and then for the meanings
of the units, one after the other; otherwise every other unit is reported in order, as it is written.
So what two texts stand for together, or what is wrong with them, is what each of them gives in turn,
unless the first one ends in a backslash of its own. -/
theorem unescape_unit_by_unit :
    (∀ raw, ∃ units, InUnits raw units ∧ (∀ others, InUnits raw others → others = units) ∧
      units.flatMap EscapeUnit.written = raw ∧
      ((∃ text, unescape raw = .ok text) ↔ .lone ∉ units ∧
        ∀ character, .escaped character ∈ units → character ∈ escapes.map Prod.fst) ∧
      (∀ text, unescape raw = .ok text ↔ units.map EscapeUnit.meaning? = text.map some) ∧
      ∀ flaws, unescape raw = .error flaws →
        flaws.map EscapeFlaw.message =
          (units.filter EscapeUnit.isBad).map EscapeUnit.complaint) ∧
    ∀ first units, InUnits first units → .lone ∉ units → ∀ second,
      unescape (first ++ second) = inARow (unescape first) (unescape second) := by
  refine ⟨fun raw => ?_, fun first units inUnits whole second => ?_⟩
  · obtain ⟨units, inUnits⟩ := exists_inUnits raw
    refine ⟨units, inUnits, fun others => inUnits.unique, inUnits.flatMap_written, ?_, ?_, ?_⟩
    · rw [inUnits.unescape_eq, exists_resolveUnits_iff, EscapeUnit.forall_isBad_eq_false_iff]
    · intro text
      rw [inUnits.unescape_eq, resolveUnits_eq_ok_iff]
    · intro flaws fails
      rw [inUnits.unescape_eq] at fails
      rw [← messages_filterMap_flaw?, filterMap_flaw?_of_resolveUnits fails]
  · obtain ⟨others, inOthers⟩ := exists_inUnits second
    rw [(inUnits.append whole inOthers).unescape_eq, resolveUnits_append, inUnits.unescape_eq,
      inOthers.unescape_eq]

/-- An escaped backslash does not take the character along that comes after it, and good escapes do
not hide the bad ones among them. -/
theorem unescape_unit_by_unit_between_backslashes :
    InUnits ['\\', '\\'] [.escaped '\\'] ∧
      unescape (['\\', '\\'] ++ ['q', '\\', 'q', '\\', 'n', '\\']) =
        inARow (.ok ['\\']) (.error [.unknown 'q', .incomplete]) := by
  have inUnits : InUnits ['\\', '\\'] [.escaped '\\'] := .escaped .nil
  obtain ⟨-, together⟩ := unescape_unit_by_unit
  exact ⟨inUnits, together _ _ inUnits (by decide) _⟩

end Playscript
