/-
This file shows that plain text is played as it stands. Plain text is cut into runs, each with a
token for the newline after it, and a line may as well end with a carriage return and a newline.
Apart from such carriage returns, and from the newlines at both ends of the beat, no character is
lost: sigils, marks, closing braces and backslashes that stand alone are characters like all
others.

What the tokens say together is the text with its line endings folded. The newlines at its ends are
those of the tokens at its ends, since no other token holds a newline and none is empty.
-/

import Mathlib.Data.List.DropRight
import Playscript.Proofs.Opening

namespace Playscript

/-! ### Plain text -/

/-- A text without expressions, strings and lines that begin with a mark. -/
structure IsPlainText (text : List Char) : Prop where
  noBrace : '{' ∉ text
  noString : ∀ pair ∈ [['#', '"'], ['#', '\''], ['@', '"'], ['@', '\'']], ¬ pair <:+: text
  noMark : ∀ mark ∈ [[':', ':'], [';', ';']], ¬ mark <+: text ∧ ¬ '\n' :: mark <:+: text

/-- The ways to end a line. -/
def lineEndings : List (List Char) := [['\n'], ['\r', '\n']]

/-- What is left of plain text behind some piece of it: nothing but newlines interrupts it, and no
mark follows a newline. -/
structure IsPlainRest (text : List Char) : Prop where
  endsLine : ∀ back, back <:+ text → Interrupts back →
    ∃ ending ∈ lineEndings, ∃ rest, back = ending ++ rest
  noMark : ∀ back, '\n' :: back <:+ text → ¬ BeginsMark back

theorem IsPlainRest.of_suffix {text back : List Char} (plain : IsPlainRest text)
    (suffix : back <:+ text) : IsPlainRest back :=
  ⟨fun other otherSuffix => plain.endsLine other (otherSuffix.trans suffix),
    fun other otherSuffix => plain.noMark other (otherSuffix.trans suffix)⟩

namespace IsPlainText

variable {text : List Char} (plain : IsPlainText text)

include plain

theorem not_beginsMark : ¬ BeginsMark text := by
  rintro (scene | separator)
  · exact (plain.noMark _ List.mem_cons_self).1 scene
  · exact (plain.noMark _ (List.mem_cons_of_mem _ List.mem_cons_self)).1 separator

theorem isPlainRest : IsPlainRest text := by
  constructor
  · intro back suffix interrupts
    cases interrupts with
    | newline => exact ⟨['\n'], by decide, _, rfl⟩
    | carriageReturn => exact ⟨['\r', '\n'], by decide, _, rfl⟩
    | expression =>
      exact absurd (suffix.mem (List.mem_append_right _ List.mem_cons_self)) plain.noBrace
    | @string sigil quote rest _ member opens =>
      have isPair : [sigil, quote] ∈ [['#', '"'], ['#', '\''], ['@', '"'], ['@', '\'']] := by
        rcases mem_stringSigils_iff.mp member with ⟨rfl, _⟩ | ⟨rfl, _⟩ <;>
          rcases isQuote_iff.mp opens with rfl | rfl <;> decide
      have front : [sigil, quote] <:+: sigil :: quote :: rest :=
        (List.prefix_append [sigil, quote] rest).isInfix
      exact absurd (front.trans suffix.isInfix) (plain.noString _ isPair)
  · intro back suffix begins
    have absent {mark : List Char} (member : mark ∈ [[':', ':'], [';', ';']])
        (front : mark <+: back) : False := by
      have marked : '\n' :: mark <:+: '\n' :: back :=
        (List.cons_prefix_cons.mpr ⟨rfl, front⟩).isInfix
      exact (plain.noMark mark member).2 (marked.trans suffix.isInfix)
    rcases begins with scene | separator
    · exact absent List.mem_cons_self scene
    · exact absent (List.mem_cons_of_mem _ List.mem_cons_self) separator

end IsPlainText

/-! ### Line endings -/

/-- A text with a newline in place of every carriage return that is followed by a newline, and of
this newline. -/
def foldNewlines : List Char → List Char
  | '\r' :: '\n' :: rest => '\n' :: foldNewlines rest
  | character :: rest => character :: foldNewlines rest
  | [] => []

section LineEndings

variable {ending : List Char} (isEnding : ending ∈ lineEndings)

include isEnding

theorem eq_of_mem_lineEndings : ending = ['\n'] ∨ ending = ['\r', '\n'] := by
  simpa only [lineEndings, List.mem_cons, List.not_mem_nil, or_false] using isEnding

theorem isPiece_lineEnding (before after : List Char) :
    IsPiece before ending after .text ['\n'] := by
  rcases eq_of_mem_lineEndings isEnding with rfl | rfl
  · exact .newline
  · exact .carriageReturn

theorem newline_suffix_lineEnding (rest : List Char) : '\n' :: rest <:+ ending ++ rest := by
  rcases eq_of_mem_lineEndings isEnding with rfl | rfl
  · exact List.suffix_rfl
  · exact List.suffix_cons _ _

theorem not_beginsMark_lineEnding (rest : List Char) : ¬ BeginsMark (ending ++ rest) := by
  rcases eq_of_mem_lineEndings isEnding with rfl | rfl <;> simp [BeginsMark]

theorem foldNewlines_lineEnding (rest : List Char) :
    foldNewlines (ending ++ rest) = '\n' :: foldNewlines rest := by
  rcases eq_of_mem_lineEndings isEnding with rfl | rfl <;> rfl

end LineEndings

theorem foldNewlines_cons {character : Char} {rest : List Char}
    (uninterrupted : ¬ Interrupts (character :: rest)) :
    foldNewlines (character :: rest) = character :: foldNewlines rest := by
  rw [foldNewlines]
  rintro after rfl rfl
  exact uninterrupted .carriageReturn

theorem foldNewlines_append {content after : List Char}
    (uninterrupted : Uninterrupted content after) :
    foldNewlines (content ++ after) = content ++ foldNewlines after := by
  induction content with
  | nil => rfl
  | cons character content inductionHypothesis =>
    obtain ⟨first, others⟩ := uninterrupted_cons_iff.mp uninterrupted
    rw [List.cons_append, foldNewlines_cons first, inductionHypothesis others, List.cons_append]

theorem newline_not_mem_of_uninterrupted {content after : List Char}
    (uninterrupted : Uninterrupted content after) : '\n' ∉ content := by
  intro member
  obtain ⟨front, back, rfl⟩ := List.append_of_mem member
  exact uninterrupted ('\n' :: back) (List.suffix_append _ _) (List.cons_ne_nil _ _) .newline

/-! ### Cutting plain text -/

/-- What one token of plain text says: a newline, or something without newlines. -/
structure IsRun (content : List Char) : Prop where
  notEmpty : content ≠ []
  noNewline : content ≠ ['\n'] → '\n' ∉ content

theorem isRun_newline : IsRun ['\n'] := ⟨List.cons_ne_nil _ _, fun other => absurd rfl other⟩

/-- Where plain text is not interrupted, it goes on with a run up to its end or a newline. -/
theorem IsPlainRest.exists_run {character : Char} {rest : List Char}
    (plain : IsPlainRest (character :: rest)) (goesOn : ¬ Interrupts (character :: rest)) :
    ∃ content after, character :: rest = content ++ after ∧ IsRun content ∧
      Uninterrupted content after ∧ (after = [] ∨ Interrupts after) ∧ ¬ BeginsMark after := by
  obtain ⟨others, ends⟩ := uninterrupted_plainSpan rest
  have whole : character :: rest = (character :: (plainSpan rest).1) ++ (plainSpan rest).2 := by
    rw [List.cons_append, plainSpan_append]
  have uninterrupted : Uninterrupted (character :: (plainSpan rest).1) (plainSpan rest).2 := by
    refine uninterrupted_cons_iff.mpr ⟨?_, others⟩
    rw [plainSpan_append]
    exact goesOn
  have isRun : IsRun (character :: (plainSpan rest).1) :=
    ⟨List.cons_ne_nil _ _, fun _ => newline_not_mem_of_uninterrupted uninterrupted⟩
  refine ⟨_, _, whole, isRun, uninterrupted, ends, ?_⟩
  rcases ends with atEnd | interrupts
  · rw [atEnd]
    simp [BeginsMark]
  · obtain ⟨ending, isEnding, later, same⟩ :=
      plain.endsLine _ (whole ▸ List.suffix_append _ _) interrupts
    rw [same]
    exact not_beginsMark_lineEnding isEnding later

/-- A text is cut into tokens of plain text which together say another text. -/
def ReadsAs (before text said : List Char) : Prop :=
  ∃ pieces, Decomposes before text pieces ∧
    (∀ piece ∈ pieces, piece.2.kind = .text ∧ IsRun piece.2.text.toList) ∧
    pieces.flatMap (·.2.text.toList) = said

theorem ReadsAs.cons {before piece after content said : List Char}
    (isPiece : IsPiece before piece after .text content) (isRun : IsRun content)
    (later : ReadsAs (before ++ piece) after said) :
    ReadsAs before (piece ++ after) (content ++ said) := by
  obtain ⟨pieces, decomposes, runs, rfl⟩ := later
  have same : (String.ofList content).toList = content := String.toList_ofList
  refine ⟨_, .cons isPiece decomposes, List.forall_mem_cons.mpr ⟨⟨rfl, ?_⟩, runs⟩, ?_⟩
  · rw [same]
    exact isRun
  · rw [List.flatMap_cons, same]

/-- Plain text is read as the text with its line endings folded. -/
theorem readsAs_foldNewlines {before text : List Char} (plain : IsPlainRest text)
    (noMark : AtLineStart before → ¬ BeginsMark text) :
    ReadsAs before text (foldNewlines text) := by
  -- A piece is not empty, so what is behind it is shorter.
  induction size : text.length using Nat.strong_induction_on generalizing before text with
  | h bound inductionHypothesis =>
    rcases text with _ | ⟨character, rest⟩
    · exact ⟨[], .nil, nofun, rfl⟩
    by_cases interrupts : Interrupts (character :: rest)
    · obtain ⟨ending, isEnding, after, same⟩ := plain.endsLine _ List.suffix_rfl interrupts
      rw [same] at plain size ⊢
      have suffix := newline_suffix_lineEnding isEnding after
      have shorter : after.length < bound := size ▸ suffix.length_le
      have later : ReadsAs (before ++ ending) after (foldNewlines after) :=
        inductionHypothesis _ shorter (plain.of_suffix (List.suffix_append ending after))
          (fun _ => plain.noMark after suffix) rfl
      rw [foldNewlines_lineEnding isEnding]
      exact .cons (isPiece_lineEnding isEnding before after) isRun_newline later
    · obtain ⟨content, after, same, isRun, uninterrupted, ends, afterNoMark⟩ :=
        plain.exists_run interrupts
      rw [same] at plain noMark size ⊢
      have shorter : after.length < bound := by
        rw [← size, List.length_append]
        exact Nat.lt_add_of_pos_left (List.length_pos_of_ne_nil isRun.notEmpty)
      have later : ReadsAs (before ++ content) after (foldNewlines after) :=
        inductionHypothesis _ shorter (plain.of_suffix (List.suffix_append content after))
          (fun _ => afterNoMark) rfl
      rw [foldNewlines_append uninterrupted]
      exact .cons (.plain isRun.notEmpty noMark uninterrupted ends) isRun later

/-! ### The newlines at both ends -/

section Ends

variable {Item Part : Type} {items : List Item} {parts : Item → List Part}
  {dropsItem : Item → Bool} {dropsPart : Part → Bool}

/-- Dropping items from the front drops their parts, where an item is dropped if all of its parts
are, and stays if none of them is. -/
theorem flatMap_dropWhile
    (dropped : ∀ item ∈ items, dropsItem item = true → ∀ part ∈ parts item, dropsPart part = true)
    (kept : ∀ item ∈ items, ¬ dropsItem item = true →
      parts item ≠ [] ∧ ∀ part ∈ parts item, ¬ dropsPart part = true) :
    (items.dropWhile dropsItem).flatMap parts = (items.flatMap parts).dropWhile dropsPart := by
  induction items with
  | nil => rfl
  | cons first rest inductionHypothesis =>
    obtain ⟨firstDropped, restDropped⟩ := List.forall_mem_cons.mp dropped
    obtain ⟨firstKept, restKept⟩ := List.forall_mem_cons.mp kept
    by_cases drops : dropsItem first = true
    · rw [List.dropWhile_cons_of_pos drops, inductionHypothesis restDropped restKept,
        List.flatMap_cons, List.dropWhile_append_of_pos (firstDropped drops)]
    · obtain ⟨notEmpty, stays⟩ := firstKept drops
      obtain ⟨part, others, split⟩ := List.exists_cons_of_ne_nil notEmpty
      have partStays : ¬ dropsPart part = true := stays part (split ▸ List.mem_cons_self)
      rw [List.dropWhile_cons_of_neg drops, List.flatMap_cons, split, List.cons_append,
        List.dropWhile_cons_of_neg partStays]

/-- Dropping items from the end drops their parts in the same way. -/
theorem flatMap_rdropWhile
    (dropped : ∀ item ∈ items, dropsItem item = true → ∀ part ∈ parts item, dropsPart part = true)
    (kept : ∀ item ∈ items, ¬ dropsItem item = true →
      parts item ≠ [] ∧ ∀ part ∈ parts item, ¬ dropsPart part = true) :
    (items.rdropWhile dropsItem).flatMap parts = (items.flatMap parts).rdropWhile dropsPart := by
  have backwards : (items.reverse.dropWhile dropsItem).flatMap (List.reverse ∘ parts) =
      (items.reverse.flatMap (List.reverse ∘ parts)).dropWhile dropsPart := by
    apply flatMap_dropWhile
    · intro item member drops part partMember
      exact dropped item (List.mem_reverse.mp member) drops part (List.mem_reverse.mp partMember)
    · intro item member keeps
      obtain ⟨notEmpty, stays⟩ := kept item (List.mem_reverse.mp member) keeps
      exact ⟨mt List.reverse_eq_nil_iff.mp notEmpty,
        fun part partMember => stays part (List.mem_reverse.mp partMember)⟩
  unfold List.rdropWhile
  rw [List.flatMap_reverse, backwards, ← List.reverse_flatMap]

end Ends

/-- A text without the newlines at both ends. -/
def stripNewlines (text : List Char) : List Char :=
  (text.rdropWhile (· = '\n')).dropWhile (· = '\n')

/-- Tokens without those at both ends that say a newline. -/
def Token.stripped (tokens : List Token) : List Token :=
  (tokens.rdropWhile (·.text == "\n")).dropWhile (·.text == "\n")

theorem Token.mem_of_mem_stripped {tokens : List Token} {token : Token}
    (member : token ∈ stripped tokens) : token ∈ tokens := by
  have unstripped := (List.dropWhile_suffix _).mem member
  exact (List.rdropWhile_prefix _ tokens).mem unstripped

/-- The tokens at the ends that say a newline are the newlines at the ends of what they say. -/
theorem Token.flatMap_stripped {tokens : List Token}
    (runs : ∀ token ∈ tokens, IsRun token.text.toList) :
    (stripped tokens).flatMap (·.text.toList) = stripNewlines (tokens.flatMap (·.text.toList)) := by
  have dropped : ∀ token ∈ tokens, (token.text == "\n") = true →
      ∀ character ∈ token.text.toList, decide (character = '\n') = true := by
    intro token _ newline character member
    rw [eq_of_beq newline] at member
    exact decide_eq_true (List.mem_singleton.mp member)
  have kept : ∀ token ∈ tokens, ¬ (token.text == "\n") = true → token.text.toList ≠ [] ∧
      ∀ character ∈ token.text.toList, ¬ decide (character = '\n') = true := by
    intro token tokenMember other
    have run := runs token tokenMember
    have noNewline : '\n' ∉ token.text.toList :=
      run.noNewline fun same => other (beq_iff_eq.mpr (String.toList_injective same))
    refine ⟨run.notEmpty, fun character member same => noNewline ?_⟩
    rw [← of_decide_eq_true same]
    exact member
  have sublist : ∀ token ∈ tokens.rdropWhile (·.text == "\n"), token ∈ tokens :=
    fun token member => (List.rdropWhile_prefix _ tokens).mem member
  unfold stripped stripNewlines
  rw [← flatMap_rdropWhile dropped kept]
  exact flatMap_dropWhile (fun token member => dropped token (sublist token member))
    fun token member => kept token (sublist token member)

/-! ### From plain text to the display -/

namespace PlacedNode

/-- The node of a token of plain text. -/
def ofText (token : Token) : PlacedNode := ⟨.text token.text, token.position⟩

theorem trimmed_map_ofText (tokens : List Token) :
    trimmed (tokens.map ofText) = (Token.stripped tokens).map ofText := by
  unfold trimmed Token.stripped List.rdropWhile
  rw [← List.map_reverse, List.dropWhile_map, ← List.map_reverse, List.dropWhile_map]
  rfl

end PlacedNode

/-- The nodes of tokens of plain text. -/
def Token.textNodes (tokens : List Token) : List (Node Expr) :=
  tokens.map fun token => .text token.text

/-- A script of plain text after the declaration of the main scene. -/
theorem compile_texts {body : String} {pieces : List (List Char × Token)}
    (decomposes : Decomposes mainLine.toList body.toList pieces)
    (texts : ∀ piece ∈ pieces, piece.2.kind = .text) :
    compile (mainLine ++ body) =
      .ok (.opening (Token.textNodes (Token.stripped (pieces.map Prod.snd)))) := by
  have kinds : ∀ piece ∈ pieces, PlacedNode.ofToken? piece.2 = some (.ofText piece.2) := by
    intro piece member
    unfold PlacedNode.ofToken?
    rw [texts piece member]
    rfl
  have stand : pieces.map (fun piece => PlacedNode.ofToken? piece.2) =
      ((pieces.map Prod.snd).map PlacedNode.ofText).map some := by
    rw [List.map_map, List.map_map]
    exact List.map_congr_left kinds
  refine compile_mainLine decomposes stand ?_
  rw [PlacedNode.trimmed_map_ofText, Token.textNodes, List.map_map, List.map_map]
  rfl

theorem showsAtOnce_textNodes (tokens : List Token) :
    (Programme.opening (Token.textNodes tokens)).ShowsAtOnce
      (String.ofList (tokens.flatMap (·.text.toList))) := by
  have shown : (Token.textNodes tokens).map Node.shown? = (tokens.map (·.text)).map some := by
    rw [Token.textNodes, List.map_map, List.map_map]
    rfl
  rw [← List.flatMap_map Token.text String.toList]
  exact showsAtOnce_opening shown

/-- What appears when plain text is played. -/
def verbatim (text : String) : String :=
  String.ofList (stripNewlines (foldNewlines text.toList))

/-- Plain text is played as it stands, with its line endings folded and without the newlines at both
ends. If nothing else stands there, the scene has no beat and is done from the start. -/
theorem compile_plainText {text : String} (plain : IsPlainText text.toList) :
    ∃ programme, compile ("::main\n" ++ text) = .ok programme ∧
      programme.ShowsAtOnce (verbatim text) ∧
      (verbatim text = "" → programme = ⟨[⟨"main", []⟩]⟩ ∧
        ∀ settings, (Player.start programme settings).status = .done) := by
  obtain ⟨pieces, decomposes, runs, said⟩ : ReadsAs mainLine.toList text.toList _ :=
    readsAs_foldNewlines plain.isPlainRest fun _ => plain.not_beginsMark
  have tokenRuns : ∀ token ∈ pieces.map Prod.snd, IsRun token.text.toList :=
    List.forall_mem_map.mpr fun piece member => (runs piece member).2
  have left : (Token.stripped (pieces.map Prod.snd)).flatMap (·.text.toList) =
      stripNewlines (foldNewlines text.toList) := by
    rw [Token.flatMap_stripped tokenRuns, List.flatMap_map, said]
  refine ⟨_, compile_texts decomposes fun piece member => (runs piece member).1, ?_, ?_⟩
  · unfold verbatim
    rw [← left]
    exact showsAtOnce_textNodes _
  · intro nothing
    have silent : (Token.stripped (pieces.map Prod.snd)).flatMap (·.text.toList) = [] :=
      left.trans (String.ofList_eq_empty_iff.mp nothing)
    have none : Token.stripped (pieces.map Prod.snd) = [] := by
      refine List.eq_nil_iff_forall_not_mem.mpr fun token member => ?_
      have run := tokenRuns token (Token.mem_of_mem_stripped member)
      exact run.notEmpty (List.flatMap_eq_nil_iff.mp silent token member)
    rw [none]
    exact ⟨rfl, Player.status_start_opening_nil⟩

/-- Sigils, marks, a backslash and a carriage return that stand alone, between line endings. -/
theorem compile_plainText_lone_characters :
    IsPlainText "\r\n #:\\::\r\n%\r@;\n\n".toList ∧
      ∃ programme, compile "::main\n\r\n #:\\::\r\n%\r@;\n\n" = .ok programme ∧
        programme.ShowsAtOnce " #:\\::\n%\r@;" := by
  have plain : IsPlainText "\r\n #:\\::\r\n%\r@;\n\n".toList :=
    ⟨by decide, by decide, by decide⟩
  have source : "::main\n" ++ "\r\n #:\\::\r\n%\r@;\n\n" = "::main\n\r\n #:\\::\r\n%\r@;\n\n" := by
    decide
  have shows : verbatim "\r\n #:\\::\r\n%\r@;\n\n" = " #:\\::\n%\r@;" := by
    decide
  obtain ⟨programme, compiled, shown, _⟩ := compile_plainText plain
  rw [source] at compiled
  rw [shows] at shown
  exact ⟨plain, programme, compiled, shown⟩

end Playscript
