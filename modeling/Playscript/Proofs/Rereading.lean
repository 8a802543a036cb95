/-
This file shows that the diagnostic form of a value can be read back. As an expression it has no
issue, it is accepted, and it gives the value again, wherever it is evaluated and whatever
operations there are. This holds of values without floating-point numbers, whose texts are plain and
whose lists are not nested too deep; the least integer is left out, since it is written as the
negative of an integer that does not fit.

A value inside a list is followed by a comma or by the closing bracket, and neither of them can
continue what stands before it. So every value is read by itself, whatever follows, and the lists
are put together from their items.
-/

import Playscript.Proofs.LineEndings
import Playscript.Proofs.Quoting
import Playscript.Proofs.Spelling

namespace Playscript

/-! ### Plain values -/

/-- Whether a character is visible in ASCII, or a space, a tab, a line ending or NUL. -/
def isPlainCharacter (character : Char) : Bool :=
  (0x20 ≤ character.toNat && character.toNat ≤ 0x7E) ||
    character ∈ ['\t', '\n', '\r', '\x00']

namespace Value

mutual

/-- Whether a value is made up of nothing, truth values, integers but the least one, texts of plain
characters, and lists of such values. -/
def isPlain : Value → Bool
  | null | bool _ => true
  | int number => number ≠ Int64.minValue
  | float _ => false
  | string text => text.toList.all isPlainCharacter
  | list items => allPlain items

/-- Whether values are all plain. -/
def allPlain : List Value → Bool
  | [] => true
  | item :: rest => item.isPlain && allPlain rest

end

mutual

/-- How many lists stand around the deepest part of a value. -/
def nesting : Value → Nat
  | list items => nestingOfAll items + 1
  | _ => 0

/-- How many lists stand around the deepest part of some values. -/
def nestingOfAll : List Value → Nat
  | [] => 0
  | item :: rest => max item.nesting (nestingOfAll rest)

end

end Value

/-! ### Expressions for values -/

namespace Expr

/-- An expression gives a value wherever it is evaluated, and changes nothing there. -/
def Gives (expr : Expr) (value : Value) : Prop :=
  ∀ (Context : Type) [HasScope Context] (registry : Registry Context) (context : Context),
    expr.eval registry context = some (.ok value, context)

/-- Expressions give values in order, wherever they are evaluated, and change nothing there. -/
def GiveAll (exprs : List Expr) (values : List Value) : Prop :=
  ∀ (Context : Type) [HasScope Context] (registry : Registry Context) (context : Context),
    evalAll registry exprs context = some (.ok values, context)

theorem gives_literal (value : Value) : (literal value).Gives value := fun _ _ _ _ => rfl

theorem giveAll_nil : GiveAll [] [] := fun _ _ _ _ => rfl

theorem GiveAll.cons {expr : Expr} {exprs : List Expr} {value : Value} {values : List Value}
    (first : expr.Gives value) (others : GiveAll exprs values) :
    GiveAll (expr :: exprs) (value :: values) := by
  intro Context _ registry context
  rw [evalAll, Action.bind_of_ok (first Context registry context),
    Action.bind_of_ok (others Context registry context), Action.pure_apply]

theorem GiveAll.list {exprs : List Expr} {values : List Value} (all : GiveAll exprs values) :
    (Expr.list exprs).Gives (.list values) := by
  intro Context _ registry context
  rw [eval, Action.bind_of_ok (all Context registry context), Action.pure_apply]

theorem Gives.unary {operator : UnaryOperator} {expr : Expr} {operand value : Value}
    (inside : expr.Gives operand) (applied : operator.apply operand = .ok value) :
    (Expr.unary operator expr).Gives value := by
  intro Context _ registry context
  rw [eval, Action.bind_of_ok (inside Context registry context), applied, Action.ofExcept_apply]

end Expr

/-- A tree is accepted, and its expression gives a value everywhere. -/
def Tree.Gives (tree : Tree) (value : Value) : Prop :=
  ∃ expr, tree.validate = .ok expr ∧ expr.Gives value

/-! ### What follows an item -/

/-- An item is followed by nothing, by a comma, or by the bracket that closes the list. -/
def EndsItem : List Char → Prop
  | [] => True
  | next :: _ => next = ',' ∨ next = ']'

namespace EndsItem

variable {rest : List Char} (ends : EndsItem rest) (test : Char → Bool)
  (stops : test ',' = false ∧ test ']' = false)

include ends stops

theorem takeWhile_eq_nil : rest.takeWhile test = [] := by
  cases rest with
  | nil => rfl
  | cons next after =>
    rcases ends with rfl | rfl
    · exact List.takeWhile_cons_of_neg (by rw [stops.1]; exact Bool.false_ne_true)
    · exact List.takeWhile_cons_of_neg (by rw [stops.2]; exact Bool.false_ne_true)

/-- What goes on to the end of an item is taken up as a whole, and nothing more. -/
theorem span_append {taken : List Char} (all : ∀ character ∈ taken, test character = true) :
    (taken ++ rest).takeWhile test = taken ∧ (taken ++ rest).dropWhile test = rest := by
  have nothing := ends.takeWhile_eq_nil test stops
  constructor
  · rw [List.takeWhile_append_of_pos all, nothing, List.append_nil]
  · rw [List.dropWhile_append_of_pos all]
    have whole := List.takeWhile_append_dropWhile (p := test) (l := rest)
    rwa [nothing] at whole

end EndsItem

/-- Wherever an item stands, its text is read as an expression for its value over so many levels. -/
def RereadsAs (levels : Nat) (text : List Char) (value : Value) : Prop :=
  ∀ column rest, EndsItem rest → ∃ lexemes after tree,
    Lexeme.scanFrom column (text ++ rest) = lexemes ++ Lexeme.scanFrom after rest ∧
    Phrase levels .unary lexemes tree ∧ tree.Gives value

/-- A text with one lexeme, which stands for itself, is read as the value of this lexeme. -/
theorem rereadsAs_of_leaf {levels : Nat} {text content : List Char} {kind : LexemeKind}
    {value : Value} (atLeastOne : 1 ≤ levels)
    (scanned : ∀ column rest, EndsItem rest → ∃ after, Lexeme.scanFrom column (text ++ rest) =
      ⟨kind, String.ofList content, column⟩ :: Lexeme.scanFrom after rest)
    (stands : ∀ column, ∃ tree, Lexeme.leaf? ⟨kind, String.ofList content, column⟩ = some tree ∧
      tree.Gives value) : RereadsAs levels text value := by
  intro column rest ends
  obtain ⟨after, same⟩ := scanned column rest ends
  obtain ⟨tree, isLeaf, gives⟩ := stands column
  obtain ⟨count, rfl⟩ := Nat.exists_eq_add_of_le' atLeastOne
  have leaf : Phrase (count + 1) .primary [⟨kind, String.ofList content, column⟩] tree :=
    .leaf isLeaf
  exact ⟨_, after, tree, same, leaf.widen (by decide), gives⟩

/-! ### Words -/

/-- A word is cut off as a name. -/
theorem Lexeme.scanFrom_word (first : Char) (others : List Char)
    (begins : ∀ rest, LexemeCut.first first rest = LexemeCut.name first rest)
    (notBlank : isBlank first = false) (continues : others.all continuesName = true) (column : Nat)
    (rest : List Char) (ends : EndsItem rest) :
    ∃ after, scanFrom column (first :: others ++ rest) =
      ⟨LexemeCut.nameKind (first :: others), String.ofList (first :: others), column⟩ ::
        scanFrom after rest := by
  obtain ⟨taken, dropped⟩ :=
    ends.span_append continuesName (by decide) (List.all_eq_true.mp continues)
  rw [List.cons_append, scanFrom, if_neg (by rw [notBlank]; exact Bool.false_ne_true), begins,
    LexemeCut.name, taken, dropped]
  exact ⟨_, rfl⟩

theorem rereadsAs_null {levels : Nat} (atLeastOne : 1 ≤ levels) :
    RereadsAs levels Value.null.diagnostic.toList .null :=
  rereadsAs_of_leaf atLeastOne
    (Lexeme.scanFrom_word 'n' ['u', 'l', 'l'] (fun _ => rfl) rfl rfl)
    fun _ => ⟨_, rfl, _, rfl, Expr.gives_literal _⟩

theorem rereadsAs_bool {levels : Nat} (atLeastOne : 1 ≤ levels) (truth : Bool) :
    RereadsAs levels (Value.bool truth).diagnostic.toList (.bool truth) := by
  cases truth with
  | true =>
    exact rereadsAs_of_leaf atLeastOne
      (Lexeme.scanFrom_word 't' ['r', 'u', 'e'] (fun _ => rfl) rfl rfl)
      fun _ => ⟨_, rfl, _, rfl, Expr.gives_literal _⟩
  | false =>
    exact rereadsAs_of_leaf atLeastOne
      (Lexeme.scanFrom_word 'f' ['a', 'l', 's', 'e'] (fun _ => rfl) rfl rfl)
      fun _ => ⟨_, rfl, _, rfl, Expr.gives_literal _⟩

/-! ### Integers -/

theorem LexemeCut.first_of_isDigit {character : Char} (isDigit : character.isDigit = true)
    (rest : List Char) : first character rest = number character rest := by
  unfold first
  split
  all_goals first
    | exact absurd isDigit (by decide)
    | skip
  rw [if_neg, if_pos isDigit]
  intro opens
  rcases isQuote_iff.mp opens with rfl | rfl <;> exact absurd isDigit (by decide)

theorem not_isBlank_of_isDigit {character : Char} (isDigit : character.isDigit = true) :
    ¬ isBlank character = true := by
  have notBlank : ∀ code ≤ '9'.toNat, '0'.toNat ≤ code →
      CharClass.inRanges code CharClass.blank.ranges = false := by decide
  obtain ⟨least, greatest⟩ := Char.isDigit_iff_toNat.mp isDigit
  rw [isBlank, CharClass.contains, notBlank character.toNat greatest least]
  exact Bool.false_ne_true

/-- Digits are cut off as an integer. -/
theorem Lexeme.scanFrom_digits {digits : List Char} (notEmpty : digits ≠ [])
    (allDigits : ∀ digit ∈ digits, digit.isDigit = true) (column : Nat) (rest : List Char)
    (ends : EndsItem rest) :
    ∃ after, scanFrom column (digits ++ rest) =
      ⟨.int, String.ofList digits, column⟩ :: scanFrom after rest := by
  obtain ⟨first, others, rfl⟩ := List.exists_cons_of_ne_nil notEmpty
  obtain ⟨firstDigit, otherDigits⟩ := List.forall_mem_cons.mp allDigits
  obtain ⟨taken, dropped⟩ := ends.span_append LexemeCut.isDigitOrGap (by decide)
    fun digit member => LexemeCut.isDigitOrGap_of_isDigit (otherDigits digit member)
  have noPoint : ∀ digit after,
      (others ++ rest).dropWhile LexemeCut.isDigitOrGap = '.' :: digit :: after →
        ¬ digit.isDigit = true := by
    rintro digit after point -
    rw [dropped] at point
    rw [point] at ends
    rcases ends with same | same <;> exact absurd same (by decide)
  have cut := LexemeCut.number_of_no_fraction first noPoint
  rw [taken, dropped] at cut
  rw [List.cons_append, scanFrom, if_neg (not_isBlank_of_isDigit firstDigit),
    LexemeCut.first_of_isDigit firstDigit, cut]
  exact ⟨_, rfl⟩

/-- A number in base ten is the literal of this number, if it fits. -/
theorem Tree.validate_toDigits {number : Nat} {word : Int64} (same : word.toInt = number)
    (column : Nat) :
    (int column (String.ofList (Nat.toDigits 10 number))).validate =
      .ok (.literal (.int word)) := by
  have allDigits : ∀ digit ∈ Nat.toDigits 10 number, digit.isDigit = true := fun digit member =>
    Nat.isDigit_of_mem_toDigits (by decide) (by decide) member
  have noGaps : withoutGaps (String.ofList (Nat.toDigits 10 number)) = Nat.toDigits 10 number := by
    rw [withoutGaps, String.toList_ofList, List.filter_eq_self]
    refine fun digit member => decide_eq_true fun isGap => ?_
    exact absurd (allDigits digit member) (isGap ▸ by decide)
  have read : readInt? (Nat.toDigits 10 number) = int64? number := by
    rw [readInt?, digitsValue?_of_digits allDigits, Nat.ofDigitChars_ten_toDigits]
    rfl
  rw [validate, noGaps, read, int64?_eq_some_iff.mpr same]

theorem rereadsAs_natCast {levels : Nat} (atLeastOne : 1 ≤ levels) {number : Nat} {word : Int64}
    (same : word.toInt = number) : RereadsAs levels (Nat.toDigits 10 number) (.int word) := by
  refine rereadsAs_of_leaf atLeastOne (Lexeme.scanFrom_digits Nat.toDigits_ne_nil fun _ member =>
    Nat.isDigit_of_mem_toDigits (by decide) (by decide) member) fun column => ?_
  exact ⟨_, rfl, _, Tree.validate_toDigits same column, Expr.gives_literal _⟩

/-- A minus before an item negates its value. -/
theorem RereadsAs.negate {levels : Nat} {text : List Char} {operand value : Value}
    (rereads : RereadsAs levels text operand)
    (negated : UnaryOperator.negate.apply operand = .ok value) :
    RereadsAs (levels + 1) ('-' :: text) value := by
  intro column rest ends
  obtain ⟨lexemes, after, tree, scanned, phrase, expr, valid, gives⟩ :=
    rereads (column + 1) rest ends
  refine ⟨⟨.minus, "-", column⟩ :: lexemes, after, .unary column .negate tree, ?_, ?_,
    .unary .negate expr, ?_, gives.unary negated⟩
  · rw [List.cons_append, Lexeme.scanFrom, if_neg (by decide)]
    exact congrArg (_ :: ·) scanned
  · exact .prefixed List.mem_cons_self phrase
  · rw [Tree.validate, valid]
    rfl

/-- Every integer but the least one has a negative that fits. -/
theorem exists_toInt_eq_neg {word : Int64} (notLeast : word ≠ Int64.minValue) :
    ∃ opposite : Int64, opposite.toInt = -word.toInt := by
  have least : Int64.minValue.toInt = -9223372036854775808 := rfl
  have other : word.toInt ≠ -9223372036854775808 := fun same => notLeast (Int64.toInt_inj.mp same)
  have atLeast := word.minValue_le_toInt
  have atMost := word.toInt_lt
  rw [least] at atLeast
  refine ⟨Int64.ofInt (-word.toInt), Int64.toInt_ofInt_of_le ?_ ?_⟩ <;> omega

theorem rereadsAs_int {levels : Nat} (atLeastTwo : 2 ≤ levels) {word : Int64}
    (notLeast : word ≠ Int64.minValue) :
    RereadsAs levels (Value.int word).diagnostic.toList (.int word) := by
  rw [Value.diagnostic, Value.text, Int.toString_eq_repr, Int.repr_eq_if]
  split
  · rename_i notNegative
    rw [Nat.repr_eq_ofList_toDigits, String.toList_ofList]
    exact rereadsAs_natCast (Nat.le_of_succ_le atLeastTwo) (Int.toNat_of_nonneg notNegative).symm
  · rename_i negative
    obtain ⟨opposite, same⟩ := exists_toInt_eq_neg notLeast
    obtain ⟨count, rfl⟩ := Nat.exists_eq_add_of_le' (Nat.le_of_succ_le atLeastTwo)
    rw [String.toList_append, Nat.repr_eq_ofList_toDigits, String.toList_ofList,
      String.toList_ofList, List.singleton_append]
    have positive : opposite.toInt = ((-word.toInt).toNat : Int) := by omega
    have negated : UnaryOperator.negate.apply (.int opposite) = .ok (.int word) := by
      rw [UnaryOperator.apply, same, Int.neg_neg, int64?_eq_some_iff.mpr rfl]
    exact (rereadsAs_natCast (Nat.le_of_succ_le_succ atLeastTwo) positive).negate negated

/-! ### Texts -/

theorem isPlainCharacter_iff {character : Char} :
    isPlainCharacter character = true ↔
      (0x20 ≤ character.toNat ∧ character.toNat ≤ 0x7E) ∨
        character = '\t' ∨ character = '\n' ∨ character = '\r' ∨ character = '\x00' := by
  simp [isPlainCharacter]

/-- A plain character stands in a quotation as it is, or as an escape that means it. -/
theorem quotedCharacter_of_isPlainCharacter {character : Char}
    (isPlain : isPlainCharacter character = true) :
    (quotedCharacter character = [character] ∧ character ≠ '\\' ∧ character ≠ '"') ∨
      ∃ letter, quotedCharacter character = ['\\', letter] ∧
        escapeMeaning letter = some character := by
  have visible : ∀ code < 0x7F, 0x20 ≤ code →
      (CharClass.inRanges code CharClass.extending.ranges ||
        CharClass.inRanges code CharClass.hidden.ranges) = false := by decide +kernel
  unfold quotedCharacter
  split
  · exact .inr ⟨'0', rfl, rfl⟩
  · exact .inr ⟨'t', rfl, rfl⟩
  · exact .inr ⟨'r', rfl, rfl⟩
  · exact .inr ⟨'n', rfl, rfl⟩
  · exact .inr ⟨'\\', rfl, rfl⟩
  · exact .inr ⟨'"', rfl, rfl⟩
  · rename_i notNul notTab notReturn notNewline notBackslash notQuote
    refine .inl ⟨?_, notBackslash, notQuote⟩
    have inAscii : 0x20 ≤ character.toNat ∧ character.toNat ≤ 0x7E := by
      rcases isPlainCharacter_iff.mp isPlain with inAscii | same | same | same | same
      · exact inAscii
      · exact absurd same notTab
      · exact absurd same notNewline
      · exact absurd same notReturn
      · exact absurd same notNul
    rw [CharClass.contains, CharClass.contains,
      visible character.toNat (Nat.lt_succ_of_le inAscii.2) inAscii.1]
    rfl

/-- The quotation of a plain text closes where it should, and means the text. -/
theorem quoted_and_unescape {text : List Char}
    (isPlain : ∀ character ∈ text, isPlainCharacter character = true) :
    Quoted '"' (text.flatMap quotedCharacter) ∧
      unescape (text.flatMap quotedCharacter) = .ok text := by
  induction text with
  | nil => exact ⟨.nil, rfl⟩
  | cons character rest inductionHypothesis =>
    obtain ⟨first, others⟩ := List.forall_mem_cons.mp isPlain
    obtain ⟨quoted, resolved⟩ := inductionHypothesis others
    rw [List.flatMap_cons]
    rcases quotedCharacter_of_isPlainCharacter first with
      ⟨same, notBackslash, notQuote⟩ | ⟨letter, same, means⟩
    · rw [same]
      refine ⟨.plain notQuote notBackslash quoted, ?_⟩
      rw [List.singleton_append, unescape_plain notBackslash, resolved]
      rfl
    · rw [same]
      refine ⟨.escaped quoted, ?_⟩
      show unescape ('\\' :: letter :: rest.flatMap quotedCharacter) = _
      rw [unescape, means, resolved]

theorem rereadsAs_string {levels : Nat} (atLeastOne : 1 ≤ levels) {text : String}
    (isPlain : text.toList.all isPlainCharacter = true) :
    RereadsAs levels (Value.string text).diagnostic.toList (.string text) := by
  obtain ⟨quoted, resolved⟩ := quoted_and_unescape (List.all_eq_true.mp isPlain)
  have stands (column : Nat) : ∃ tree,
      Lexeme.leaf? ⟨.string, String.ofList (text.toList.flatMap quotedCharacter), column⟩ =
        some tree ∧ tree.Gives (.string text) := by
    refine ⟨_, rfl, .literal (.string text), ?_, Expr.gives_literal _⟩
    rw [Tree.validate, String.toList_ofList, resolved]
    dsimp only
    rw [String.ofList_toList]
  rw [Value.diagnostic, quotation, String.toList_ofList]
  refine rereadsAs_of_leaf atLeastOne (fun column rest _ => ?_) stands
  rw [List.append_assoc, List.cons_append, List.singleton_append, Lexeme.scanFrom,
    if_neg (by decide), LexemeCut.first_of_quoted rfl quoted]
  exact ⟨_, rfl⟩

/-! ### Lists -/

/-- Wherever a list stands, its items and the commas between them are read as expressions for
them. -/
def RereadAs (levels : Nat) (text : List Char) (items : List Value) : Prop :=
  ∀ column rest, ∃ lexemes after, ∃ elements : List (List Lexeme × Tree), ∃ exprs,
    Lexeme.scanFrom column (text ++ ']' :: rest) = lexemes ++ Lexeme.scanFrom after (']' :: rest) ∧
    (∀ element ∈ elements, Phrase levels .expression element.1 element.2) ∧
    Separated .comma (elements.map Prod.fst) lexemes ∧
    Tree.validateAll (elements.map Prod.snd) = .ok exprs ∧ Expr.GiveAll exprs items

theorem rereadAs_nil (levels : Nat) : RereadAs levels [] [] := fun _ _ =>
  ⟨[], _, [], [], rfl, List.forall_mem_nil _, .none, rfl, Expr.giveAll_nil⟩

theorem RereadsAs.singleton {levels : Nat} {text : List Char} {item : Value}
    (rereads : RereadsAs levels text item) : RereadAs levels text [item] := by
  intro column rest
  obtain ⟨lexemes, after, tree, scanned, phrase, expr, valid, gives⟩ :=
    rereads column (']' :: rest) (.inr rfl)
  refine ⟨lexemes, after, [(lexemes, tree)], [expr], scanned, ?_, .last _, ?_,
    .cons gives Expr.giveAll_nil⟩
  · exact List.forall_mem_singleton.mpr (phrase.widen (by decide))
  · show Tree.validateAll [tree] = _
    rw [Tree.validateAll, valid]
    rfl

theorem RereadsAs.cons {levels : Nat} {text others : List Char} {item : Value} {items : List Value}
    (rereads : RereadsAs levels text item) (reread : RereadAs levels others items) :
    RereadAs levels (text ++ ',' :: ' ' :: others) (item :: items) := by
  intro column rest
  obtain ⟨first, middle, tree, firstScanned, phrase, expr, valid, gives⟩ :=
    rereads column (',' :: ' ' :: (others ++ ']' :: rest)) (.inl rfl)
  obtain ⟨lexemes, after, elements, exprs, scanned, phrases, separated, allValid, giveAll⟩ :=
    reread (middle + 1 + 1) rest
  refine ⟨first ++ ⟨.comma, ",", middle⟩ :: lexemes, after, (first, tree) :: elements,
    expr :: exprs, ?_, List.forall_mem_cons.mpr ⟨phrase.widen (by decide), phrases⟩,
    .more first rfl separated, ?_, .cons gives giveAll⟩
  · have comma : Lexeme.scanFrom middle (',' :: ' ' :: (others ++ ']' :: rest)) =
        ⟨.comma, ",", middle⟩ :: Lexeme.scanFrom (middle + 1 + 1) (others ++ ']' :: rest) := by
      rw [Lexeme.scanFrom, if_neg (by decide)]
      exact congrArg (_ :: ·) (Lexeme.scanFrom_of_isBlank (by decide) _ _)
    rw [List.append_assoc, List.cons_append, List.cons_append, firstScanned, comma, scanned,
      List.append_assoc, List.cons_append]
  · show Tree.validateAll (tree :: elements.map Prod.snd) = _
    rw [Tree.validateAll, valid, allValid]
    rfl

/-- A list is read back if its items are, with one level more. -/
theorem RereadAs.list {levels : Nat} {text : List Char} {items : List Value}
    (reread : RereadAs levels text items) :
    RereadsAs (levels + 1) ('[' :: (text ++ [']'])) (.list items) := by
  intro column rest _
  obtain ⟨lexemes, after, elements, exprs, scanned, phrases, separated, valid, giveAll⟩ :=
    reread (column + 1) rest
  have brackets : Phrase (levels + 1) .primary
      (⟨.leftBracket, "[", column⟩ :: (lexemes ++ [⟨.rightBracket, "]", after⟩]))
      (.list column (elements.map Prod.snd)) := .list rfl phrases separated rfl
  have closing : Lexeme.scanFrom after (']' :: rest) =
      ⟨.rightBracket, "]", after⟩ :: Lexeme.scanFrom (after + 1) rest := by
    rw [Lexeme.scanFrom, if_neg (by decide)]
    rfl
  refine ⟨_, after + 1, _, ?_, brackets.widen (by decide), .list exprs, ?_, giveAll.list⟩
  · rw [List.cons_append, Lexeme.scanFrom, if_neg (by decide), List.append_assoc,
      List.singleton_append, List.cons_append, List.append_assoc, List.singleton_append, ← closing]
    exact congrArg (_ :: ·) scanned
  · rw [Tree.validate, valid]
    rfl

/-! ### All values -/

namespace Value

mutual

/-- The diagnostic form of a plain value is read as an expression for it. Every list takes a level,
and so do an integer and the minus before it. -/
theorem rereadsAs_diagnostic (value : Value) (isPlain : value.isPlain = true) {levels : Nat}
    (enough : value.nesting + 2 ≤ levels) : RereadsAs levels value.diagnostic.toList value := by
  cases value with
  | null => exact rereadsAs_null (Nat.le_of_succ_le enough)
  | bool truth => exact rereadsAs_bool (Nat.le_of_succ_le enough) truth
  | int number => exact rereadsAs_int enough (of_decide_eq_true isPlain)
  | float number => cases isPlain
  | string text => exact rereadsAs_string (Nat.le_of_succ_le enough) isPlain
  | list items =>
    obtain ⟨count, rfl⟩ := Nat.exists_eq_add_of_le' (Nat.le_of_add_left_le enough)
    have inside : nestingOfAll items + 2 ≤ count + 1 := by
      rw [nesting] at enough
      omega
    have form : (list items).diagnostic.toList =
        '[' :: ((itemsDiagnostic items).toList ++ [']']) := by
      rw [diagnostic, String.toList_append, String.toList_append]
      rfl
    rw [form]
    exact (rereadAs_itemsDiagnostic items isPlain inside).list

theorem rereadAs_itemsDiagnostic (items : List Value) (allPlain : allPlain items = true)
    {levels : Nat} (enough : nestingOfAll items + 2 ≤ levels) :
    RereadAs levels (itemsDiagnostic items).toList items := by
  cases items with
  | nil => exact rereadAs_nil levels
  | cons item rest =>
    obtain ⟨firstPlain, othersPlain⟩ := Bool.and_eq_true_iff.mp allPlain
    have firstEnough : item.nesting + 2 ≤ levels :=
      Nat.le_trans (Nat.add_le_add_right (Nat.le_max_left _ _) 2) enough
    have othersEnough : nestingOfAll rest + 2 ≤ levels :=
      Nat.le_trans (Nat.add_le_add_right (Nat.le_max_right _ _) 2) enough
    have first := rereadsAs_diagnostic item firstPlain firstEnough
    have others := rereadAs_itemsDiagnostic rest othersPlain othersEnough
    cases rest with
    | nil => exact first.singleton
    | cons next further =>
      have form : (itemsDiagnostic (item :: next :: further)).toList = item.diagnostic.toList ++
          ',' :: ' ' :: (itemsDiagnostic (next :: further)).toList := by
        rw [itemsDiagnostic, String.toList_append, String.toList_append, List.append_assoc]
        rfl
      rw [form]
      exact first.cons others

end

end Value

/-- The diagnostic form of a plain value whose lists are nested at most 250 deep can be read back:
it has no issue, it is accepted, and the expression that it becomes gives the value again, wherever
it is evaluated and whatever operations there are. -/
theorem rereads_diagnostic {value : Value} (isPlain : value.isPlain = true)
    (notTooDeep : value.nesting ≤ 250) :
    (Draft.read value.diagnostic).issues = [] ∧
      ∃ expr, (Draft.read value.diagnostic).validate = .ok expr ∧
        ∀ (Context : Type) [HasScope Context] (registry : Registry Context) (context : Context),
          expr.eval registry context = some (.ok value, context) := by
  have enough : value.nesting + 2 ≤ nestingLimit :=
    Nat.le_trans (Nat.add_le_add_right notTooDeep 2) (by decide)
  obtain ⟨lexemes, after, tree, scanned, phrase, expr, valid, gives⟩ :=
    value.rereadsAs_diagnostic isPlain enough 1 [] trivial
  rw [List.append_nil, Lexeme.scanFrom] at scanned
  have reading := reading_of_phrase scanned phrase
  refine ⟨?_, expr, ?_, gives⟩
  · rw [Draft.issues, reading]
  · rw [Draft.validate, reading]
    exact valid

/-- A list of an integer below zero, a text with a line ending, a quote and a backslash, and a list
can be read back. -/
theorem rereads_mixed_list :
    let value := Value.list
      [.int (-5), .string "a\n\"\\", .list [.null, .bool true], .list []]
    value.isPlain = true ∧ value.nesting ≤ 250 ∧
      value.diagnostic = "[-5, \"a\\n\\\"\\\\\", [null, true], []]" ∧
      (Draft.read value.diagnostic).issues = [] ∧
      ∃ expr, (Draft.read value.diagnostic).validate = .ok expr ∧
        ∀ (Context : Type) [HasScope Context] (registry : Registry Context) (context : Context),
          expr.eval registry context = some (.ok value, context) :=
  ⟨by decide +kernel, by decide +kernel, by decide +kernel,
    rereads_diagnostic (by decide +kernel) (by decide +kernel)⟩

/-- The least integer cannot: its digits alone do not fit. -/
example : (Draft.read (Value.int Int64.minValue).diagnostic).validate.toOption.isNone := by
  decide +kernel

end Playscript
