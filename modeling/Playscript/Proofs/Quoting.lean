/-
This file shows that any text can be quoted and comes back unchanged. Quoting puts a backslash
before every backslash and every quote, and nothing else has to be done: newlines, braces and sigils
may stand in a quotation as they are.

The quoted text passes the reader of tokens, the reader of lexemes, the grammar and the resolution
of escapes, and the text that appears in the end is the one that was quoted.
-/

import Playscript.Proofs.Opening
import Playscript.Proofs.Parsing

namespace Playscript

/-! ### Escaping -/

/-- A text with a backslash before every backslash and every quote of a kind. -/
def escaped (quote : Char) (text : List Char) : List Char :=
  text.flatMap fun character =>
    if character = '\\' ∨ character = quote then ['\\', character] else [character]

/-- A text between quotes. -/
def enquoted (quote : Char) (text : String) : String :=
  String.ofList (quote :: (escaped quote text.toList ++ [quote]))

section Escaping

variable {quote : Char}

theorem escaped_cons_of_special {character : Char}
    (special : character = '\\' ∨ character = quote) (rest : List Char) :
    escaped quote (character :: rest) = '\\' :: character :: escaped quote rest := by
  unfold escaped
  rw [List.flatMap_cons, if_pos special]
  rfl

theorem escaped_cons_of_plain {character : Char}
    (plain : ¬ (character = '\\' ∨ character = quote)) (rest : List Char) :
    escaped quote (character :: rest) = character :: escaped quote rest := by
  unfold escaped
  rw [List.flatMap_cons, if_neg plain]
  rfl

/-- No quote of an escaped text closes the quotation. -/
theorem quoted_escaped (quote : Char) (text : List Char) : Quoted quote (escaped quote text) := by
  induction text with
  | nil => exact .nil
  | cons character rest inductionHypothesis =>
    by_cases special : character = '\\' ∨ character = quote
    · rw [escaped_cons_of_special special]
      exact .escaped inductionHypothesis
    · rw [escaped_cons_of_plain special]
      obtain ⟨notBackslash, notQuote⟩ := not_or.mp special
      exact .plain notQuote notBackslash inductionHypothesis

theorem escapeMeaning_of_special (opens : isQuote quote = true) {character : Char}
    (special : character = '\\' ∨ character = quote) :
    escapeMeaning character = some character := by
  rcases special with rfl | rfl
  · rfl
  · rcases isQuote_iff.mp opens with rfl | rfl <;> rfl

/-- Resolving the escapes gives the text back. -/
theorem unescape_escaped (opens : isQuote quote = true) (text : List Char) :
    unescape (escaped quote text) = .ok text := by
  induction text with
  | nil => rfl
  | cons character rest inductionHypothesis =>
    by_cases special : character = '\\' ∨ character = quote
    · rw [escaped_cons_of_special special, unescape, escapeMeaning_of_special opens special,
        inductionHypothesis]
    · rw [escaped_cons_of_plain special, unescape, if_neg (not_or.mp special).1,
        inductionHypothesis]
      · rfl
      · exact fun _ _ same _ => (not_or.mp special).1 same

end Escaping

/-! ### The quotation as an expression -/

section Literal

variable {quote : Char} (opens : isQuote quote = true)

include opens

theorem trim_quotation (content : List Char) :
    trim (quote :: (content ++ [quote])) = quote :: (content ++ [quote]) := by
  have notBlank : ¬ isBlank quote = true := fun blank => not_isQuote_of_isBlank blank opens
  have start (rest : List Char) : trimStart (quote :: rest) = quote :: rest :=
    List.dropWhile_cons_of_neg notBlank
  unfold trim
  rw [start, List.reverse_cons, List.reverse_append, List.reverse_singleton,
    List.singleton_append, List.cons_append, start, List.reverse_cons, List.reverse_append,
    List.reverse_reverse]
  rfl

/-- A quotation has one lexeme. -/
theorem scanFrom_quotation {content : List Char} (quoted : Quoted quote content) (column : Nat) :
    Lexeme.scanFrom column (quote :: (content ++ [quote])) =
      [⟨.string, String.ofList content, column⟩, ⟨.finish, "", column + (content.length + 2)⟩] := by
  have notBlank : ¬ isBlank quote = true := fun blank => not_isQuote_of_isBlank blank opens
  rw [Lexeme.scanFrom, if_neg notBlank, LexemeCut.first_of_quoted opens quoted []]
  dsimp only
  rw [Lexeme.scanFrom]

/-- A quotation is read as one string. -/
theorem reading_quotation {content : List Char} (quoted : Quoted quote content) :
    (Draft.read (String.ofList (quote :: (content ++ [quote])))).reading =
      .ok (some (.string 1 (String.ofList content))) := by
  have scanned : Lexeme.scan (String.ofList (quote :: (content ++ [quote]))) =
      [⟨.string, String.ofList content, 1⟩] ++ [⟨.finish, "", 1 + (content.length + 2)⟩] := by
    rw [Lexeme.scan, String.toList_ofList]
    exact scanFrom_quotation opens quoted 1
  exact reading_of_phrase scanned (.leaf rfl)

/-- An escaped text between quotes is an expression whose value is the text. -/
theorem resolveExpr_enquoted (text : String) :
    resolveExpr (.read (enquoted quote text)) = .ok (.literal (.string text)) := by
  have reading := reading_quotation opens (quoted_escaped quote text.toList)
  unfold resolveExpr Draft.validate enquoted
  rw [reading]
  dsimp only
  rw [Tree.validate, String.toList_ofList, unescape_escaped opens]
  dsimp only
  rw [String.ofList_toList]

end Literal

/-! ### From a quotation to the display -/

/-- A script of one piece after the declaration of the main scene. -/
theorem compile_piece {piece text : List Char} {kind : TokenKind} {draft : Node Draft}
    {node : Node Expr} (compiled : draft.compile = .ok node)
    (notText : ∀ content, draft ≠ .text content)
    (isPiece : IsPiece mainLine.toList piece [] kind text)
    (stands : ∀ position, PlacedNode.ofToken? ⟨kind, String.ofList text, position⟩ =
      some ⟨draft, position⟩) :
    compile (mainLine ++ String.ofList piece) = .ok (.opening [node]) := by
  have decomposes : Decomposes mainLine.toList (String.ofList piece).toList
      [(piece, ⟨kind, String.ofList text, Position.start.afterAll mainLine.toList⟩)] := by
    have alone := Decomposes.cons isPiece .nil
    rw [List.append_nil] at alone
    rw [String.toList_ofList]
    exact alone
  generalize Position.start.afterAll mainLine.toList = position at decomposes
  have trimmed : PlacedNode.trimmed [⟨draft, position⟩] = [⟨draft, position⟩] := by
    cases draft with
    | text content => exact absurd rfl (notText content)
    | _ => rfl
  have stand : [PlacedNode.ofToken? ⟨kind, String.ofList text, position⟩] =
      [(⟨draft, position⟩ : PlacedNode)].map some :=
    congrArg (fun found => [found]) (stands position)
  refine compile_mainLine decomposes stand ?_
  rw [trimmed]
  exact congrArg (fun outcome => [outcome]) compiled

theorem resolveString_escaped {quote : Char} (opens : isQuote quote = true) (text : String) :
    resolveString (String.ofList (escaped quote text.toList)) = .ok text := by
  unfold resolveString
  rw [String.toList_ofList, unescape_escaped opens]
  dsimp only
  rw [String.ofList_toList]

/-- A script of one string, which is shown as its sigil says. -/
theorem compile_string {sigil : Char} {kind : TokenKind} (member : (sigil, kind) ∈ stringSigils)
    (draft : String → Node Draft) (node : String → Node Expr)
    (compiled : ∀ content, (draft content).compile = (resolveString content).map node)
    (notText : ∀ content other, draft content ≠ .text other)
    (stands : ∀ content position,
      PlacedNode.ofToken? ⟨kind, content, position⟩ = some ⟨draft content, position⟩)
    {quote : Char} (opens : isQuote quote = true) (text : String) :
    compile (mainLine ++ String.singleton sigil ++ enquoted quote text) =
      .ok (.opening [node text]) := by
  have source : mainLine ++ String.singleton sigil ++ enquoted quote text = mainLine ++
      String.ofList (sigil :: quote :: (escaped quote text.toList ++ [quote])) := by
    apply String.toList_injective
    simp [enquoted]
  have resolved : (draft (String.ofList (escaped quote text.toList))).compile =
      .ok (node text) := by
    rw [compiled, resolveString_escaped opens]
    rfl
  rw [source]
  exact compile_piece resolved (notText _)
    (.string member opens (quoted_escaped quote text.toList)) (stands _)

/-- A script of one expression, which is a quotation. -/
theorem compile_instantExpr_enquoted {quote : Char} (opens : isQuote quote = true)
    (text : String) :
    compile (mainLine ++ "#\x7b" ++ enquoted quote text ++ "\x7d") =
      .ok (.opening [.instantExpr (.literal (.string text))]) := by
  have source : mainLine ++ "#\x7b" ++ enquoted quote text ++ "\x7d" = mainLine ++ String.ofList
      (['#'] ++ '{' :: (quote :: (escaped quote text.toList ++ [quote]) ++ ['}'])) := by
    apply String.toList_injective
    simp [enquoted]
  have resolved : Node.compile (.instantExpr (.read (enquoted quote text))) =
      .ok (.instantExpr (.literal (.string text))) := by
    rw [Node.compile, resolveExpr_enquoted opens]
    rfl
  have isPiece : IsPiece mainLine.toList
      (['#'] ++ '{' :: (quote :: (escaped quote text.toList ++ [quote]) ++ ['}'])) []
      .instantExpr (trim (quote :: (escaped quote text.toList ++ [quote]))) :=
    .expression (mem_expressionSigils_iff.mpr (.inr (.inr (.inl ⟨rfl, rfl⟩))))
      (.quotation opens (quoted_escaped quote text.toList) .nil)
  rw [trim_quotation opens] at isPiece
  rw [source]
  exact compile_piece resolved (fun _ => nofun) isPiece fun _ => rfl

/-- Where the opening beat shows one text, this text appears. -/
theorem showsAtOnce_singleton {node : Node Expr} {text : String} (shown : node.shown? = some text) :
    (Programme.opening [node]).ShowsAtOnce text := by
  have appears : (Programme.opening [node]).ShowsAtOnce
      (String.ofList ([text].flatMap String.toList)) :=
    showsAtOnce_opening (congrArg (fun found => [found]) shown)
  rw [List.flatMap_singleton, String.ofList_toList] at appears
  exact appears

theorem opening_singleton (node : Node Expr) :
    Programme.opening [node] = ⟨[⟨"main", [[node]]⟩]⟩ := by
  unfold Programme.opening
  rw [if_neg (List.cons_ne_nil node [])]
  rfl

/-- Any text can be quoted, with either quote, as a string that is shown at once or typed and as an
expression. The script has the text in its only node, and the text appears when it is played. -/
theorem compile_enquoted (text : String) {quote : Char} (opens : isQuote quote = true) :
    (compile ("::main\n#" ++ enquoted quote text) =
        .ok ⟨[⟨"main", [[.instantString text]]⟩]⟩ ∧
      Programme.ShowsAtOnce ⟨[⟨"main", [[.instantString text]]⟩]⟩ text) ∧
    (compile ("::main\n@" ++ enquoted quote text) =
        .ok ⟨[⟨"main", [[.typewriterString text]]⟩]⟩ ∧
      Programme.ShowsAtOnce ⟨[⟨"main", [[.typewriterString text]]⟩]⟩ text) ∧
    (compile ("::main\n#\x7b" ++ enquoted quote text ++ "\x7d") =
        .ok ⟨[⟨"main", [[.instantExpr (.literal (.string text))]]⟩]⟩ ∧
      Programme.ShowsAtOnce ⟨[⟨"main", [[.instantExpr (.literal (.string text))]]⟩]⟩ text) := by
  have instantSource : "::main\n#" = mainLine ++ String.singleton '#' := by decide
  have typewriterSource : "::main\n@" = mainLine ++ String.singleton '@' := by decide
  have exprSource : "::main\n#\x7b" = mainLine ++ "#\x7b" := by decide
  rw [← opening_singleton, ← opening_singleton, ← opening_singleton]
  refine ⟨⟨?_, showsAtOnce_singleton rfl⟩, ⟨?_, showsAtOnce_singleton rfl⟩,
    ?_, showsAtOnce_singleton rfl⟩
  · rw [instantSource]
    exact compile_string (mem_stringSigils_iff.mpr (.inl ⟨rfl, rfl⟩)) .instantString .instantString
      (fun _ => rfl) (fun _ _ => nofun) (fun _ _ => rfl) opens text
  · rw [typewriterSource]
    exact compile_string (mem_stringSigils_iff.mpr (.inr ⟨rfl, rfl⟩)) .typewriterString
      .typewriterString (fun _ => rfl) (fun _ _ => nofun) (fun _ _ => rfl) opens text
  · rw [exprSource]
    exact compile_instantExpr_enquoted opens text

/-- An apostrophe, a brace and a newline in a quotation with apostrophes. -/
theorem compile_enquoted_apostrophe :
    isQuote '\'' = true ∧
      (compile "::main\n#'it\\'s \x7b\n'" = .ok ⟨[⟨"main", [[.instantString "it's \x7b\n"]]⟩]⟩ ∧
        Programme.ShowsAtOnce ⟨[⟨"main", [[.instantString "it's \x7b\n"]]⟩]⟩ "it's \x7b\n") := by
  have source : "::main\n#" ++ enquoted '\'' "it's \x7b\n" = "::main\n#'it\\'s \x7b\n'" := by
    decide
  refine ⟨rfl, ?_⟩
  rw [← source]
  exact (compile_enquoted "it's \x7b\n" (rfl : isQuote '\'' = true)).1

end Playscript
