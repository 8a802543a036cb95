/-
This file reads a script byte by byte. The pieces of a script are cut off its characters; but all
that ends a piece -- newlines, quotes, braces, sigils -- and the backslash is a character of one
byte, and no byte of a longer character is any of these. So a scan of the bytes stops where the scan
of the characters stops, also if it skips two bytes behind a backslash, where the second may be the
first of several. And a count of positions that passes over the later bytes of a character counts
characters.
-/

import Mathlib.Logic.Basic
import Playscript.Proofs.Quotations
import Playscript.Text.Position

namespace Playscript

/-- The bytes of a text in UTF-8. -/
def encoded (text : List Char) : List UInt8 := text.flatMap String.utf8EncodeChar

/-! ### Scanning bytes -/

/-- Reads up to the byte of a closing quote: what stands before it, and what follows it. A backslash
takes the byte after it along. None if there is no closing quote. -/
def quotedBytes (quote : UInt8) : List UInt8 → Option (List UInt8 × List UInt8)
  | [] => none
  | byte :: rest =>
    if byte = '\\'.toUInt8 then
      match rest with
      | [] => none
      | escaped :: later =>
        (quotedBytes quote later).map fun (content, after) => (byte :: escaped :: content, after)
    else if byte = quote then some ([], rest)
    else (quotedBytes quote rest).map fun (content, after) => (byte :: content, after)

theorem length_lt_of_quotedBytes {quote : UInt8} {bytes content after : List UInt8}
    (read : quotedBytes quote bytes = some (content, after)) : after.length < bytes.length := by
  fun_induction quotedBytes quote bytes generalizing content after with
  | case1 => cases read
  | case2 => cases read
  | case3 escaped later inductionHypothesis =>
    obtain ⟨⟨inner, last⟩, found, same⟩ := Option.map_eq_some_iff.mp read
    cases same
    exact Nat.lt_add_right 2 (inductionHypothesis found)
  | case4 =>
    cases read
    exact Nat.lt_add_one _
  | case5 byte rest _ _ inductionHypothesis =>
    obtain ⟨⟨inner, last⟩, found, same⟩ := Option.map_eq_some_iff.mp read
    cases same
    exact Nat.lt_add_right 1 (inductionHypothesis found)

/-- Reads up to the byte of the closing brace that belongs to an opening one, when so many braces
inside are still open. -/
def bracedBytes (depth : Nat) (bytes : List UInt8) : Option (List UInt8 × List UInt8) :=
  match bytes with
  | [] => none
  | byte :: rest =>
    if byte = '{'.toUInt8 then
      (bracedBytes (depth + 1) rest).map fun (content, after) => (byte :: content, after)
    else if byte = '}'.toUInt8 then
      match depth with
      | 0 => some ([], rest)
      | depth + 1 =>
        (bracedBytes depth rest).map fun (content, after) => (byte :: content, after)
    else if byte = '"'.toUInt8 ∨ byte = '\''.toUInt8 then
      match _read : quotedBytes byte rest with
      | none => none
      | some (quoted, later) =>
        (bracedBytes depth later).map fun (content, after) =>
          (byte :: (quoted ++ byte :: content), after)
    else (bracedBytes depth rest).map fun (content, after) => (byte :: content, after)
termination_by bytes.length
decreasing_by
  all_goals first
    | exact Nat.lt_succ_self _
    | exact Nat.lt_succ_of_lt (length_lt_of_quotedBytes (by assumption))

/-- Whether the bytes begin with those of some characters of one byte each. -/
def startsBytes (marks : List Char) (bytes : List UInt8) : Bool :=
  (marks.map Char.toUInt8).isPrefixOf bytes

/-- Whether the bytes begin with a newline, with or without a carriage return before it. -/
def newlineBytes (bytes : List UInt8) : Bool :=
  startsBytes ['\n'] bytes || startsBytes ['\r', '\n'] bytes

/-- The kind of the string or expression that the bytes begin with, if they do. -/
def openingBytes (bytes : List UInt8) : Option TokenKind :=
  if startsBytes ['{'] bytes then some .inlineExpr
  else if startsBytes ['%', '{'] bytes then some .deferredExpr
  else if startsBytes ['#', '{'] bytes then some .instantExpr
  else if startsBytes ['@', '{'] bytes then some .typewriterExpr
  else if startsBytes ['#', '"'] bytes || startsBytes ['#', '\''] bytes then some .instantString
  else if startsBytes ['@', '"'] bytes || startsBytes ['@', '\''] bytes then
    some .typewriterString
  else none

/-- Plain text goes on until the bytes of a newline, a string or an expression. -/
def plainBytes : List UInt8 → List UInt8 × List UInt8
  | [] => ([], [])
  | byte :: rest =>
    if newlineBytes (byte :: rest) || (openingBytes (byte :: rest)).isSome then ([], byte :: rest)
    else
      let (content, after) := plainBytes rest
      (byte :: content, after)

/-! ### The bytes of a character -/

@[simp] theorem encoded_nil : encoded [] = [] := rfl

@[simp] theorem encoded_cons (character : Char) (rest : List Char) :
    encoded (character :: rest) = String.utf8EncodeChar character ++ encoded rest :=
  List.flatMap_cons

@[simp] theorem encoded_append (first second : List Char) :
    encoded (first ++ second) = encoded first ++ encoded second :=
  List.flatMap_append

theorem toNat_toUInt8 {character : Char} (small : character.toNat < 128) :
    character.toUInt8.toNat = character.toNat := by
  show character.toNat % 256 = character.toNat
  omega

theorem toUInt8_eq_iff {character other : Char} (small : character.toNat < 128)
    (otherSmall : other.toNat < 128) : character.toUInt8 = other.toUInt8 ↔ character = other := by
  rw [← UInt8.toNat_inj, toNat_toUInt8 small, toNat_toUInt8 otherSmall]
  exact Char.toNat_inj

theorem utf8EncodeChar_of_small {character : Char} (small : character.toNat < 128) :
    String.utf8EncodeChar character = [character.toUInt8] :=
  String.utf8EncodeChar_eq_singleton
    (Char.utf8Size_eq_one_iff.mpr (UInt32.le_iff_toNat_le.mpr (Nat.le_of_lt_succ small)))

/-- A byte that goes on with a character: it begins with the bits 1 and 0. -/
def IsFurther (byte : UInt8) : Prop := byte &&& 0xC0 = 0x80

instance (byte : UInt8) : Decidable (IsFurther byte) := inferInstanceAs (Decidable (_ = _))

/-- The first byte of a character and the others, which go on with it. Only the first can be a
character of its own, and then it is this character. -/
structure Spells (first : UInt8) (others : List UInt8) (character : Char) : Prop where
  bytes : String.utf8EncodeChar character = first :: others
  begins : ¬ IsFurther first
  further : ∀ byte ∈ others, IsFurther byte
  first_eq_iff : ∀ {mark : Char}, mark.toNat < 128 → (first = mark.toUInt8 ↔ character = mark)
  single : character.toNat < 128 → others = []

theorem not_isFurther_ofNat {number : Nat} (isByte : number < 256)
    (first : number < 128 ∨ 192 ≤ number) : ¬ IsFurther (.ofNat number) := by
  have table : ∀ number < 256, (number < 128 ∨ 192 ≤ number) → ¬ IsFurther (.ofNat number) := by
    decide +kernel
  exact table number isByte first

/-- The last six bits of a byte that goes on with a character are free. -/
theorem isFurther_ofNat (number : Nat) : IsFurther (.ofNat (number % 64 + 128)) := by
  have table : ∀ bits < 64, IsFurther (.ofNat (bits + 128)) := by decide +kernel
  exact table _ (Nat.mod_lt number (by decide))

theorem not_isFurther_toUInt8 {mark : Char} (small : mark.toNat < 128) :
    ¬ IsFurther mark.toUInt8 :=
  not_isFurther_ofNat (Nat.lt_trans small (by decide)) (.inl small)

theorem ne_toUInt8_of_isFurther {byte : UInt8} (further : IsFurther byte) {mark : Char}
    (small : mark.toNat < 128) : byte ≠ mark.toUInt8 := by
  rintro rfl
  exact not_isFurther_toUInt8 small further

theorem Spells.of_large {lead : Nat} {others : List UInt8} {character : Char}
    (large : 128 ≤ character.toNat)
    (bytes : String.utf8EncodeChar character = .ofNat lead :: others)
    (leads : 192 ≤ lead ∧ lead < 256) (further : ∀ byte ∈ others, IsFurther byte) :
    Spells (.ofNat lead) others character where
  bytes := bytes
  begins := not_isFurther_ofNat leads.2 (.inr leads.1)
  further := further
  first_eq_iff {mark} small := by
    refine iff_of_false (fun same => ?_) ?_
    · have asNumbers := congrArg UInt8.toNat same
      rw [toNat_toUInt8 small, UInt8.toNat_ofNat_of_lt' leads.2] at asNumbers
      omega
    · rintro rfl
      omega
  single small := absurd large (Nat.not_le_of_lt small)

theorem exists_spells (character : Char) : ∃ first others, Spells first others character := by
  by_cases small : character.toNat < 128
  · exact ⟨_, _, utf8EncodeChar_of_small small, not_isFurther_toUInt8 small,
      List.forall_mem_nil _, toUInt8_eq_iff small, fun _ => rfl⟩
  · have large : 128 ≤ character.toNat := Nat.le_of_not_lt small
    have bytes : String.utf8EncodeChar character = _ := String.utf8EncodeChar.eq_1 character
    have notSmall : ¬ character.val.toNat ≤ 127 := fun most => small (Nat.lt_succ_of_le most)
    rw [if_neg notSmall] at bytes
    split at bytes
    · refine ⟨_, _, .of_large large bytes (by omega) ?_⟩
      exact List.forall_mem_singleton.mpr (isFurther_ofNat _)
    · split at bytes
      · refine ⟨_, _, .of_large large bytes (by omega) ?_⟩
        exact List.forall_mem_cons.mpr
          ⟨isFurther_ofNat _, List.forall_mem_singleton.mpr (isFurther_ofNat _)⟩
      · refine ⟨_, _, .of_large large bytes (by omega) ?_⟩
        exact List.forall_mem_cons.mpr ⟨isFurther_ofNat _, List.forall_mem_cons.mpr
          ⟨isFurther_ofNat _, List.forall_mem_singleton.mpr (isFurther_ofNat _)⟩⟩

/-- The first byte of another character is no mark. -/
theorem Spells.first_ne {first : UInt8} {others : List UInt8} {character mark : Char}
    (spells : Spells first others character) (small : mark.toNat < 128)
    (isOther : character ≠ mark) : first ≠ mark.toUInt8 :=
  (spells.first_eq_iff small).not.mpr isOther

/-! ### The same spans -/

theorem quotedBytes_backslash (quote escaped : UInt8) (rest : List UInt8) :
    quotedBytes quote ('\\'.toUInt8 :: escaped :: rest) =
      (quotedBytes quote rest).map fun (content, after) =>
        ('\\'.toUInt8 :: escaped :: content, after) := by
  rw [quotedBytes, if_pos rfl]

theorem quotedBytes_cons {quote byte : UInt8} (notBackslash : byte ≠ '\\'.toUInt8)
    (rest : List UInt8) :
    quotedBytes quote (byte :: rest) =
      if byte = quote then some ([], rest)
      else (quotedBytes quote rest).map fun (content, after) => (byte :: content, after) := by
  rw [quotedBytes.eq_def]
  dsimp only
  rw [if_neg notBackslash]

/-- Bytes of longer characters are passed over on the way to a quote. -/
theorem quotedBytes_append {quote : Char} (small : quote.toNat < 128) {bytes : List UInt8}
    (further : ∀ byte ∈ bytes, IsFurther byte) (rest : List UInt8) :
    quotedBytes quote.toUInt8 (bytes ++ rest) =
      (quotedBytes quote.toUInt8 rest).map fun (content, after) => (bytes ++ content, after) := by
  induction bytes with
  | nil => exact Option.map_id'.symm
  | cons byte others inductionHypothesis =>
    obtain ⟨isFurther, othersFurther⟩ := List.forall_mem_cons.mp further
    rw [List.cons_append, quotedBytes_cons (ne_toUInt8_of_isFurther isFurther (by decide)),
      if_neg (ne_toUInt8_of_isFurther isFurther small), inductionHypothesis othersFurther,
      Option.map_map]
    rfl

theorem small_of_isQuote {quote : Char} (opens : isQuote quote = true) : quote.toNat < 128 := by
  rcases isQuote_iff.mp opens with rfl | rfl <;> decide

/-- A scan for a quote takes the same from the bytes as from the characters. -/
theorem quotedBytes_encoded {quote : Char} (opens : isQuote quote = true) (text : List Char) :
    quotedBytes quote.toUInt8 (encoded text) =
      (quotedSpan quote text).map (Prod.map encoded encoded) := by
  have small := small_of_isQuote opens
  fun_induction quotedSpan quote text with
  | case1 => rfl
  | case2 escaped rest inductionHypothesis =>
    -- One byte of the character behind the backslash is skipped; the others end nothing.
    obtain ⟨first, others, spells⟩ := exists_spells escaped
    have bytes (rest : List Char) : encoded ('\\' :: escaped :: rest) =
        '\\'.toUInt8 :: first :: (others ++ encoded rest) := by
      rw [encoded_cons, encoded_cons, spells.bytes]
      rfl
    rw [bytes, quotedBytes_backslash, quotedBytes_append small spells.further, inductionHypothesis]
    rcases quotedSpan quote rest with _ | ⟨content, after⟩
    · rfl
    · simp [bytes]
  | case3 rest noEscaped =>
    cases rest with
    | nil => rfl
    | cons escaped rest => exact absurd rfl (noEscaped escaped rest rfl)
  | case4 =>
    have bytes := utf8EncodeChar_of_small small
    have notByte : quote.toUInt8 ≠ '\\'.toUInt8 := by
      rw [Ne, toUInt8_eq_iff small (by decide)]
      exact ne_backslash_of_isQuote opens
    rw [encoded_cons, bytes, List.singleton_append, quotedBytes_cons notByte, if_pos rfl]
    rfl
  | case5 character rest _ notBackslash notQuote inductionHypothesis =>
    obtain ⟨first, others, spells⟩ := exists_spells character
    rw [encoded_cons, spells.bytes, List.cons_append,
      quotedBytes_cons (spells.first_ne (by decide) notBackslash),
      if_neg (spells.first_ne small notQuote), quotedBytes_append small spells.further,
      inductionHypothesis]
    rcases quotedSpan quote rest with _ | ⟨content, after⟩
    · rfl
    · simp [spells.bytes]

theorem bracedBytes_other {depth : Nat} {byte : UInt8} (notOpening : byte ≠ '{'.toUInt8)
    (notClosing : byte ≠ '}'.toUInt8) (notQuote : ¬ (byte = '"'.toUInt8 ∨ byte = '\''.toUInt8))
    (rest : List UInt8) :
    bracedBytes depth (byte :: rest) =
      (bracedBytes depth rest).map fun (content, after) => (byte :: content, after) := by
  rw [bracedBytes.eq_def]
  simp only [if_neg notOpening, if_neg notClosing, if_neg notQuote]

theorem bracedBytes_opening (depth : Nat) (rest : List UInt8) :
    bracedBytes depth ('{'.toUInt8 :: rest) =
      (bracedBytes (depth + 1) rest).map fun (content, after) =>
        ('{'.toUInt8 :: content, after) := by
  rw [bracedBytes.eq_def]
  exact if_pos rfl

theorem bracedBytes_closing (depth : Nat) (rest : List UInt8) :
    bracedBytes (depth + 1) ('}'.toUInt8 :: rest) =
      (bracedBytes depth rest).map fun (content, after) => ('}'.toUInt8 :: content, after) := by
  rw [bracedBytes, if_neg (by decide), if_pos rfl]

theorem bracedBytes_quote {quote : Char} (opens : isQuote quote = true) (depth : Nat)
    (rest : List UInt8) :
    bracedBytes depth (quote.toUInt8 :: rest) =
      (quotedBytes quote.toUInt8 rest).bind fun (quoted, later) =>
        (bracedBytes depth later).map fun (content, after) =>
          (quote.toUInt8 :: (quoted ++ quote.toUInt8 :: content), after) := by
  rcases isQuote_iff.mp opens with rfl | rfl
  all_goals
    rw [bracedBytes.eq_def]
    dsimp only
    rw [if_neg (by decide), if_neg (by decide), if_pos (by decide)]
    split
    · rename_i unread
      rw [unread]
      rfl
    · rename_i read
      rw [read]
      rfl

/-- Bytes of longer characters are passed over on the way to a brace. -/
theorem bracedBytes_append {bytes : List UInt8} (further : ∀ byte ∈ bytes, IsFurther byte)
    (depth : Nat) (rest : List UInt8) :
    bracedBytes depth (bytes ++ rest) =
      (bracedBytes depth rest).map fun (content, after) => (bytes ++ content, after) := by
  induction bytes with
  | nil => exact Option.map_id'.symm
  | cons byte others inductionHypothesis =>
    obtain ⟨isFurther, othersFurther⟩ := List.forall_mem_cons.mp further
    have differs {mark : Char} (small : mark.toNat < 128) : byte ≠ mark.toUInt8 :=
      ne_toUInt8_of_isFurther isFurther small
    rw [List.cons_append, bracedBytes_other (differs (by decide)) (differs (by decide))
      (not_or.mpr ⟨differs (by decide), differs (by decide)⟩), inductionHypothesis othersFurther,
      Option.map_map]
    rfl

/-- A scan for a brace takes the same from the bytes as from the characters. -/
theorem bracedBytes_encoded (depth : Nat) (text : List Char) :
    bracedBytes depth (encoded text) =
      (bracedSpan depth text).map (Prod.map encoded encoded) := by
  fun_induction bracedSpan depth text with
  | case1 depth =>
    rw [encoded_nil, bracedBytes]
    rfl
  | case2 depth rest inductionHypothesis =>
    have bytes (rest : List Char) : encoded ('{' :: rest) = '{'.toUInt8 :: encoded rest := rfl
    rw [bytes, bracedBytes_opening, inductionHypothesis, Option.map_map, Option.map_map]
    rfl
  | case3 rest =>
    have bytes (rest : List Char) : encoded ('}' :: rest) = '}'.toUInt8 :: encoded rest := rfl
    rw [bytes, bracedBytes]
    rfl
  | case4 rest _ depth inductionHypothesis =>
    have bytes (rest : List Char) : encoded ('}' :: rest) = '}'.toUInt8 :: encoded rest := rfl
    rw [bytes, bracedBytes_closing, inductionHypothesis, Option.map_map, Option.map_map]
    rfl
  | case5 depth quote rest _ _ opens unread =>
    rw [encoded_cons, utf8EncodeChar_of_small (small_of_isQuote opens), List.singleton_append,
      bracedBytes_quote opens, quotedBytes_encoded opens, unread]
    rfl
  | case6 depth quote rest _ _ opens quoted later read inductionHypothesis =>
    have bytes (rest : List Char) : encoded (quote :: rest) = quote.toUInt8 :: encoded rest := by
      rw [encoded_cons, utf8EncodeChar_of_small (small_of_isQuote opens)]
      rfl
    rw [bytes, bracedBytes_quote opens, quotedBytes_encoded opens, read]
    show (bracedBytes depth (encoded later)).map _ = _
    rw [inductionHypothesis, Option.map_map, Option.map_map]
    rcases bracedSpan depth later with _ | ⟨content, after⟩
    · rfl
    · simp [bytes]
  | case7 depth character rest notOpening notClosing notQuote inductionHypothesis =>
    obtain ⟨first, others, spells⟩ := exists_spells character
    have differs {mark : Char} (small : mark.toNat < 128) (isNot : character ≠ mark) :
        first ≠ mark.toUInt8 := spells.first_ne small isNot
    obtain ⟨notDouble, notSingle⟩ := not_or.mp (isQuote_iff.not.mp notQuote)
    rw [encoded_cons, spells.bytes, List.cons_append,
      bracedBytes_other (differs (by decide) notOpening) (differs (by decide) notClosing)
        (not_or.mpr ⟨differs (by decide) notDouble, differs (by decide) notSingle⟩),
      bracedBytes_append spells.further, inductionHypothesis]
    rcases bracedSpan depth rest with _ | ⟨content, after⟩
    · rfl
    · simp [spells.bytes]

/-- The bytes of a text begin with characters of one byte each if the text does. -/
theorem startsBytes_encoded {marks : List Char} (small : marks.all (·.toNat < 128) = true)
    (text : List Char) : startsBytes marks (encoded text) = marks.isPrefixOf text := by
  induction marks generalizing text with
  | nil => rfl
  | cons mark marks inductionHypothesis =>
    rw [List.all_cons, Bool.and_eq_true, decide_eq_true_eq] at small
    obtain ⟨markSmall, othersSmall⟩ := small
    cases text with
    | nil => rfl
    | cons character rest =>
      obtain ⟨first, others, spells⟩ := exists_spells character
      rw [encoded_cons, spells.bytes, startsBytes, List.map_cons, List.cons_append,
        List.isPrefixOf_cons_cons, List.isPrefixOf_cons_cons]
      by_cases same : character = mark
      · subst same
        rw [spells.single markSmall, (spells.first_eq_iff markSmall).mpr rfl, beq_self_eq_true,
          beq_self_eq_true]
        exact congrArg _ (inductionHypothesis othersSmall rest)
      · rw [beq_false_of_ne (Ne.symm same),
          beq_false_of_ne (Ne.symm (spells.first_ne markSmall same))]
        rfl

theorem isPrefixOf_eq_false {marks text : List Char}
    (never : ∀ rest, text = marks ++ rest → False) : marks.isPrefixOf text = false := by
  refine Bool.eq_false_iff.mpr fun front => ?_
  obtain ⟨rest, whole⟩ := List.isPrefixOf_iff_prefix.mp front
  exact never rest whole.symm

theorem newlineBytes_encoded (text : List Char) :
    newlineBytes (encoded text) = atNewline text := by
  simp (disch := decide) only [newlineBytes, startsBytes_encoded]
  fun_cases atNewline text with
  | case1 => rfl
  | case2 => rfl
  | case3 _ noNewline noReturn =>
    rw [isPrefixOf_eq_false noNewline, isPrefixOf_eq_false noReturn]
    rfl

theorem openingBytes_encoded (text : List Char) : openingBytes (encoded text) = opening text := by
  simp (disch := decide) only [openingBytes, startsBytes_encoded]
  fun_cases opening text with
  | case1 => rfl
  | case2 => rfl
  | case3 => rfl
  | case4 => rfl
  | case5 quote rest noBrace opens =>
    rcases isQuote_iff.mp opens with rfl | rfl <;> rfl
  | case6 quote rest noBrace notQuote =>
    obtain ⟨notDouble, notSingle⟩ := not_or.mp (isQuote_iff.not.mp notQuote)
    grind [List.isPrefixOf]
  | case7 quote rest noBrace opens =>
    rcases isQuote_iff.mp opens with rfl | rfl <;> rfl
  | case8 quote rest noBrace notQuote =>
    obtain ⟨notDouble, notSingle⟩ := not_or.mp (isQuote_iff.not.mp notQuote)
    grind [List.isPrefixOf]
  | case9 _ noInline noDeferred noInstant noTypewriter noInstantQuote noTypewriterQuote =>
    rw [isPrefixOf_eq_false noInline, isPrefixOf_eq_false noDeferred,
      isPrefixOf_eq_false noInstant, isPrefixOf_eq_false noTypewriter,
      isPrefixOf_eq_false (noInstantQuote _), isPrefixOf_eq_false (noInstantQuote _),
      isPrefixOf_eq_false (noTypewriterQuote _), isPrefixOf_eq_false (noTypewriterQuote _)]
    rfl

theorem startsBytes_of_isFurther {byte : UInt8} (further : IsFurther byte) {mark : Char}
    (small : mark.toNat < 128) (marks : List Char) (rest : List UInt8) :
    startsBytes (mark :: marks) (byte :: rest) = false := by
  rw [startsBytes, List.map_cons, List.isPrefixOf_cons_cons,
    beq_false_of_ne (Ne.symm (ne_toUInt8_of_isFurther further small))]
  rfl

/-- Bytes of longer characters belong to plain text. -/
theorem plainBytes_append {bytes : List UInt8} (further : ∀ byte ∈ bytes, IsFurther byte)
    (rest : List UInt8) :
    plainBytes (bytes ++ rest) = (bytes ++ (plainBytes rest).1, (plainBytes rest).2) := by
  induction bytes with
  | nil => rfl
  | cons byte others inductionHypothesis =>
    obtain ⟨isFurther, othersFurther⟩ := List.forall_mem_cons.mp further
    have ends : (newlineBytes (byte :: (others ++ rest)) ||
        (openingBytes (byte :: (others ++ rest))).isSome) = false := by
      simp (disch := decide) [newlineBytes, openingBytes, startsBytes_of_isFurther isFurther]
    rw [List.cons_append, plainBytes, ends, inductionHypothesis othersFurther]
    rfl

/-- A scan over plain text takes the same from the bytes as from the characters. -/
theorem plainBytes_encoded (text : List Char) :
    plainBytes (encoded text) = Prod.map encoded encoded (plainSpan text) := by
  induction text with
  | nil => rfl
  | cons character rest inductionHypothesis =>
    have newline := newlineBytes_encoded (character :: rest)
    have opens := openingBytes_encoded (character :: rest)
    obtain ⟨first, others, spells⟩ := exists_spells character
    have bytes (rest : List Char) :
        encoded (character :: rest) = first :: (others ++ encoded rest) := by
      rw [encoded_cons, spells.bytes]
      rfl
    rw [bytes] at newline opens ⊢
    rw [plainBytes, newline, opens, plainSpan]
    split
    · rw [← bytes]
      rfl
    · rw [plainBytes_append spells.further, inductionHypothesis]
      simp [bytes]

theorem Spells.ne_newline {first : UInt8} {others : List UInt8} {character : Char}
    (spells : Spells first others character) (noNewline : character ≠ '\n') :
    ∀ byte ∈ String.utf8EncodeChar character, byte ≠ '\n'.toUInt8 := by
  rw [spells.bytes]
  exact List.forall_mem_cons.mpr ⟨spells.first_ne (by decide) noNewline,
    fun byte member => ne_toUInt8_of_isFurther (spells.further byte member) (by decide)⟩

/-- A scan for the end of a line takes the same from the bytes as from the characters. -/
theorem lineBytes_encoded (text : List Char) :
    (encoded text).takeWhile (· ≠ '\n'.toUInt8) = encoded (text.takeWhile (· ≠ '\n')) ∧
      (encoded text).dropWhile (· ≠ '\n'.toUInt8) = encoded (text.dropWhile (· ≠ '\n')) := by
  induction text with
  | nil => exact ⟨rfl, rfl⟩
  | cons character rest inductionHypothesis =>
    by_cases newline : character = '\n'
    · subst newline
      exact ⟨rfl, rfl⟩
    · obtain ⟨first, others, spells⟩ := exists_spells character
      have passes : ∀ byte ∈ String.utf8EncodeChar character,
          decide (byte ≠ '\n'.toUInt8) = true := fun byte member =>
        decide_eq_true (spells.ne_newline newline byte member)
      have goesOn : decide (character ≠ '\n') = true := decide_eq_true newline
      rw [encoded_cons, List.takeWhile_append_of_pos passes, List.dropWhile_append_of_pos passes,
        List.takeWhile_cons, List.dropWhile_cons, if_pos goesOn, if_pos goesOn, encoded_cons]
      exact ⟨congrArg _ inductionHypothesis.1, inductionHypothesis.2⟩

/-! ### The same positions -/

namespace Position

/-- The later bytes of a character do not count. -/
theorem foldl_afterByte_further {bytes : List UInt8} (further : ∀ byte ∈ bytes, IsFurther byte)
    (position : Position) : bytes.foldl afterByte position = position := by
  induction bytes with
  | nil => rfl
  | cons byte others inductionHypothesis =>
    obtain ⟨isFurther, othersFurther⟩ := List.forall_mem_cons.mp further
    have notNewline : byte ≠ 0x0A :=
      ne_toUInt8_of_isFurther isFurther (by decide : '\n'.toNat < 128)
    have skips : byte &&& 0xC0 = 0x80 := isFurther
    rw [List.foldl_cons, afterByte, if_neg notNewline, if_pos skips,
      inductionHypothesis othersFurther]

theorem foldl_afterByte_character (position : Position) (character : Char) :
    (String.utf8EncodeChar character).foldl afterByte position = position.after character := by
  by_cases newline : character = '\n'
  · subst newline
    rfl
  · obtain ⟨first, others, spells⟩ := exists_spells character
    have notNewline : first ≠ 0x0A := spells.first_ne (by decide : '\n'.toNat < 128) newline
    have counts : ¬ first &&& 0xC0 = 0x80 := spells.begins
    rw [spells.bytes, List.foldl_cons, foldl_afterByte_further spells.further, afterByte,
      if_neg notNewline, if_neg counts, after, if_neg newline]

/-- Counting byte by byte comes to the same as counting characters. -/
theorem foldl_afterByte_encoded (position : Position) (text : List Char) :
    (encoded text).foldl afterByte position = position.afterAll text := by
  rw [encoded, List.foldl_flatMap]
  exact congrArg (fun step => text.foldl step position)
    (funext fun place => funext fun character => foldl_afterByte_character place character)

end Position

end Playscript
