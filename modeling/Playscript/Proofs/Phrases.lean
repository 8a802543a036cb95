/-
This file gives the grammar of expressions. It says which lexemes are a phrase of which category and
with which tree, without saying how to find that out: every category has its operators and the next
tighter category, and a phrase of the tighter category is one of the wider category as well.

Operators between operands group to the left, since their left operand is of the same category and
their right operand of the next tighter one; assignment is the other way round. What is nested is
one level deeper, and a phrase comes with the number of levels that it may take up, its own
included.
-/

import Mathlib.Data.List.Basic
import Playscript.Expr.Grammar

namespace Playscript

/-! ### Categories -/

/-- The categories of phrases, from the widest to the tightest. -/
inductive Category where
  | expression
  | disjunction
  | conjunction
  | equality
  | comparison
  | term
  | factor
  | unary
  | application
  | primary
  deriving DecidableEq, Repr

namespace Category

/-- The next tighter category. -/
def tighter : Category → Category
  | expression => disjunction
  | disjunction => conjunction
  | conjunction => equality
  | equality => comparison
  | comparison => term
  | term => factor
  | factor => unary
  | unary => application
  | application | primary => primary

/-- The operators that join operands to a phrase of a category, and how they are written. -/
def operators : Category → List (LexemeKind × BinaryOperator)
  | disjunction => [(.doubleBar, .or)]
  | conjunction => [(.doubleAnd, .and)]
  | equality => [(.doubleEqual, .equal), (.bangEqual, .notEqual)]
  | comparison =>
    [(.less, .less), (.lessEqual, .lessEqual), (.greater, .greater), (.greaterEqual, .greaterEqual)]
  | term => [(.plus, .add), (.minus, .subtract)]
  | factor => [(.star, .multiply), (.slash, .divide), (.percent, .modulo)]
  | expression | unary | application | primary => []

end Category

/-- The operators before one operand, and how they are written. -/
def unaryOperators : List (LexemeKind × UnaryOperator) := [(.minus, .negate), (.bang, .not)]

/-- The tree of a lexeme that stands for itself: a literal or a name. -/
def Lexeme.leaf? (lexeme : Lexeme) : Option Tree :=
  match lexeme.kind with
  | .int => some (.int lexeme.column lexeme.text)
  | .float => some (.float lexeme.column lexeme.text)
  | .string => some (.string lexeme.column lexeme.text)
  | .trueWord => some (.bool lexeme.column true)
  | .falseWord => some (.bool lexeme.column false)
  | .nullWord => some (.null lexeme.column)
  | .name => some (.name lexeme.column lexeme.text)
  | _ => none

/-! ### Phrases -/

/-- Lexemes are made up of parts with separators between them. A separator may stand after the last
part. -/
inductive Separated (separator : LexemeKind) : List (List Lexeme) → List Lexeme → Prop
  | none : Separated separator [] []
  | last (part : List Lexeme) : Separated separator [part] part
  | more (part : List Lexeme) {parts : List (List Lexeme)} {mark : Lexeme} {lexemes : List Lexeme}
      (isSeparator : mark.kind = separator) (others : Separated separator parts lexemes) :
      Separated separator (part :: parts) (part ++ mark :: lexemes)

namespace Separated

variable {separator : LexemeKind} {part lexemes : List Lexeme} {parts : List (List Lexeme)}

theorem eq_nil (separated : Separated separator [] lexemes) : lexemes = [] := by
  cases separated
  rfl

/-- After the first part there is nothing, or a separator and the other parts. -/
theorem cons_inv (separated : Separated separator (part :: parts) lexemes) :
    (parts = [] ∧ lexemes = part) ∨
      ∃ mark others, mark.kind = separator ∧ lexemes = part ++ mark :: others ∧
        Separated separator parts others := by
  cases separated with
  | last => exact .inl ⟨rfl, rfl⟩
  | more _ isSeparator others => exact .inr ⟨_, _, isSeparator, rfl, others⟩

theorem exists_eq_append (separated : Separated separator (part :: parts) lexemes) :
    ∃ others, lexemes = part ++ others := by
  rcases separated.cons_inv with ⟨_, rfl⟩ | ⟨mark, others, _, rfl, _⟩
  · exact ⟨[], (List.append_nil _).symm⟩
  · exact ⟨mark :: others, rfl⟩

end Separated

/-- Lexemes are a phrase of a category with some tree, nested over at most so many levels. -/
inductive Phrase : Nat → Category → List Lexeme → Tree → Prop
  /-- A tighter phrase. -/
  | wider {levels : Nat} {category : Category} {lexemes : List Lexeme} {tree : Tree}
      (phrase : Phrase levels category.tighter lexemes tree) : Phrase levels category lexemes tree
  /-- A target and its value. -/
  | assignment {levels : Nat} {target value : List Lexeme} {mark : Lexeme}
      {targetTree valueTree : Tree} (left : Phrase (levels + 1) .disjunction target targetTree)
      (isMark : mark.kind = .equal) (right : Phrase levels .expression value valueTree) :
      Phrase (levels + 1) .expression (target ++ mark :: value)
        (.assign targetTree.column targetTree valueTree)
  /-- Two operands and the operator between them. -/
  | operation {levels : Nat} {category : Category} {first second : List Lexeme} {mark : Lexeme}
      {operator : BinaryOperator} {firstTree secondTree : Tree}
      (left : Phrase (levels + 1) category first firstTree)
      (isMark : (mark.kind, operator) ∈ category.operators)
      (right : Phrase levels category.tighter second secondTree) :
      Phrase (levels + 1) category (first ++ mark :: second)
        (.binary firstTree.column operator firstTree secondTree)
  /-- An operand and the operator before it. -/
  | prefixed {levels : Nat} {lexemes : List Lexeme} {mark : Lexeme} {operator : UnaryOperator}
      {tree : Tree} (isMark : (mark.kind, operator) ∈ unaryOperators)
      (operand : Phrase levels .unary lexemes tree) :
      Phrase (levels + 1) .unary (mark :: lexemes) (.unary mark.column operator tree)
  /-- A callee and its arguments. -/
  | call {levels : Nat} {callee items : List Lexeme} {opening closing : Lexeme} {tree : Tree}
      {arguments : List (List Lexeme × Tree)}
      (called : Phrase (levels + 1) .application callee tree) (opens : opening.kind = .leftParen)
      (each : ∀ argument ∈ arguments, Phrase levels .expression argument.1 argument.2)
      (separated : Separated .comma (arguments.map Prod.fst) items)
      (closes : closing.kind = .rightParen) :
      Phrase (levels + 1) .application (callee ++ opening :: (items ++ [closing]))
        (.call tree.column tree (arguments.map Prod.snd))
  /-- A literal or a name. -/
  | leaf {levels : Nat} {lexeme : Lexeme} {tree : Tree} (stands : lexeme.leaf? = some tree) :
      Phrase (levels + 1) .primary [lexeme] tree
  /-- A list of items. -/
  | list {levels : Nat} {items : List Lexeme} {opening closing : Lexeme}
      {elements : List (List Lexeme × Tree)} (opens : opening.kind = .leftBracket)
      (each : ∀ element ∈ elements, Phrase levels .expression element.1 element.2)
      (separated : Separated .comma (elements.map Prod.fst) items)
      (closes : closing.kind = .rightBracket) :
      Phrase (levels + 1) .primary (opening :: (items ++ [closing]))
        (.list opening.column (elements.map Prod.snd))
  /-- An expression in parentheses, which leave no trace. -/
  | parenthesized {levels : Nat} {lexemes : List Lexeme} {opening closing : Lexeme} {tree : Tree}
      (opens : opening.kind = .leftParen) (inner : Phrase levels .expression lexemes tree)
      (closes : closing.kind = .rightParen) :
      Phrase (levels + 1) .primary (opening :: (lexemes ++ [closing])) tree

/-- Lexemes are one expression, or several with semicolons between them, which are a sequence. No
expression is nested deeper than allowed. -/
inductive Statements : List Lexeme → Tree → Prop
  | one {lexemes expression : List Lexeme} {tree : Tree}
      (phrase : Phrase nestingLimit .expression expression tree)
      (separated : Separated .semicolon [expression] lexemes) : Statements lexemes tree
  | several {first : Lexeme} {lexemes : List Lexeme} {parts : List (List Lexeme × Tree)}
      (each : ∀ part ∈ parts, Phrase nestingLimit .expression part.1 part.2)
      (atLeastTwo : 2 ≤ parts.length)
      (separated : Separated .semicolon (parts.map Prod.fst) (first :: lexemes)) :
      Statements (first :: lexemes) (.sequence first.column (parts.map Prod.snd))

/-! ### Precedence -/

namespace Category

/-- How tightly the operators of a category bind. A category without operators binds more tightly
than all operators. -/
def precedence : Category → Nat
  | expression => 50
  | disjunction => 60
  | conjunction => 80
  | equality => 100
  | comparison => 150
  | term => 200
  | factor => 300
  | unary => 301
  | application => 302
  | primary => 303

theorem precedence_injective : Function.Injective precedence := by
  intro first second same
  revert same
  cases first <;> cases second <;> decide

theorem precedence_tighter_le {category other : Category}
    (lt : category.precedence < other.precedence) :
    category.tighter.precedence ≤ other.precedence := by
  revert lt
  cases category <;> cases other <;> decide

theorem precedence_lt_tighter {category other : Category}
    (lt : category.precedence < other.precedence) :
    category.precedence < category.tighter.precedence := by
  revert lt
  cases category <;> cases other <;> decide

/-- The operators of a category are those of its precedence. -/
theorem mem_operators_iff {category : Category} {kind : LexemeKind} {operator : BinaryOperator} :
    (kind, operator) ∈ category.operators ↔
      kind.binaryOperator? = some operator ∧ kind.precedence = category.precedence := by
  cases category <;> cases kind <;> simp [operators, LexemeKind.binaryOperator?,
    LexemeKind.precedence, precedence, eq_comm]

end Category

/-- A tight phrase is a phrase of all wider categories. -/
theorem Phrase.widen {levels : Nat} {category wide : Category} {lexemes : List Lexeme} {tree : Tree}
    (phrase : Phrase levels category lexemes tree) (le : wide.precedence ≤ category.precedence) :
    Phrase levels wide lexemes tree := by
  rcases Nat.eq_or_lt_of_le le with same | lt
  · rw [Category.precedence_injective same]
    exact phrase
  · have closer := Category.precedence_tighter_le lt
    have further := Category.precedence_lt_tighter lt
    exact .wider (phrase.widen closer)
termination_by category.precedence - wide.precedence

/-! ### The lexemes of a phrase -/

/-- Whether a phrase can begin with a lexeme of a kind. -/
def LexemeKind.beginsPhrase : LexemeKind → Bool
  | int | float | string | trueWord | falseWord | nullWord | name | leftParen | leftBracket | minus
  | bang => true
  | _ => false

theorem Lexeme.beginsPhrase_of_leaf? {lexeme : Lexeme} {tree : Tree}
    (stands : lexeme.leaf? = some tree) : lexeme.kind.beginsPhrase = true := by
  unfold Lexeme.leaf? at stands
  split at stands <;> simp_all [LexemeKind.beginsPhrase]

theorem beginsPhrase_of_mem_unaryOperators {kind : LexemeKind} {operator : UnaryOperator}
    (isMark : (kind, operator) ∈ unaryOperators) : kind.beginsPhrase = true := by
  simp only [unaryOperators, List.mem_cons, List.not_mem_nil, or_false, Prod.mk.injEq] at isMark
  rcases isMark with ⟨rfl, _⟩ | ⟨rfl, _⟩ <;> rfl

theorem Phrase.begins {levels : Nat} {category : Category} {lexemes : List Lexeme} {tree : Tree}
    (phrase : Phrase levels category lexemes tree) :
    ∃ first others, lexemes = first :: others ∧ first.kind.beginsPhrase = true := by
  induction phrase with
  | wider _ inductionHypothesis => exact inductionHypothesis
  | assignment _ _ _ inductionHypothesis _ | operation _ _ _ inductionHypothesis _
  | call _ _ _ _ _ inductionHypothesis _ =>
    obtain ⟨first, others, rfl, begins⟩ := inductionHypothesis
    exact ⟨first, _, rfl, begins⟩
  | prefixed isMark _ _ => exact ⟨_, _, rfl, beginsPhrase_of_mem_unaryOperators isMark⟩
  | leaf stands => exact ⟨_, _, rfl, Lexeme.beginsPhrase_of_leaf? stands⟩
  | list opens _ _ _ _ | parenthesized opens _ _ _ =>
    exact ⟨_, _, rfl, by rw [opens]; rfl⟩

/-- Whether a lexeme of a kind can be part of a phrase. -/
def LexemeKind.inPhrase : LexemeKind → Bool
  | semicolon | stray | openString | finish => false
  | _ => true

theorem LexemeKind.inPhrase_of_beginsPhrase {kind : LexemeKind}
    (begins : kind.beginsPhrase = true) : kind.inPhrase = true := by
  cases kind <;> first | rfl | cases begins

theorem LexemeKind.inPhrase_of_mem_operators {category : Category} {kind : LexemeKind}
    {operator : BinaryOperator} (isMark : (kind, operator) ∈ category.operators) :
    kind.inPhrase = true := by
  obtain ⟨written, _⟩ := Category.mem_operators_iff.mp isMark
  cases kind <;> first | rfl | cases written

theorem Separated.forall_mem {property : Lexeme → Prop} {separator : LexemeKind}
    {parts : List (List Lexeme)} {lexemes : List Lexeme}
    (separated : Separated separator parts lexemes)
    (ofSeparator : ∀ mark : Lexeme, mark.kind = separator → property mark)
    (ofPart : ∀ part ∈ parts, ∀ lexeme ∈ part, property lexeme) :
    ∀ lexeme ∈ lexemes, property lexeme := by
  induction separated with
  | none => exact List.forall_mem_nil _
  | last part => exact ofPart part (List.mem_singleton_self part)
  | more part isSeparator _ inductionHypothesis =>
    have others := inductionHypothesis
      fun part member => ofPart part (List.mem_cons_of_mem _ member)
    simp only [List.mem_append, List.mem_cons]
    rintro lexeme (inPart | rfl | after)
    · exact ofPart part List.mem_cons_self lexeme inPart
    · exact ofSeparator lexeme isSeparator
    · exact others lexeme after

/-- What cannot be read, semicolons, and the end of a text are not part of any phrase. -/
theorem Phrase.inPhrase_of_mem {levels : Nat} {category : Category} {lexemes : List Lexeme}
    {tree : Tree} (phrase : Phrase levels category lexemes tree) :
    ∀ lexeme ∈ lexemes, lexeme.kind.inPhrase = true := by
  have ofComma : ∀ mark : Lexeme, mark.kind = .comma → mark.kind.inPhrase = true := by
    intro mark isComma
    rw [isComma]
    rfl
  have ofPart {parts : List (List Lexeme × Tree)}
      (each : ∀ part ∈ parts, ∀ lexeme ∈ part.1, lexeme.kind.inPhrase = true) :
      ∀ part ∈ parts.map Prod.fst, ∀ lexeme ∈ part, lexeme.kind.inPhrase = true :=
    List.forall_mem_map.mpr each
  induction phrase with
  | wider _ inductionHypothesis => exact inductionHypothesis
  | assignment _ isMark _ target value =>
    refine List.forall_mem_append.mpr ⟨target, List.forall_mem_cons.mpr ⟨?_, value⟩⟩
    rw [isMark]
    rfl
  | operation _ isMark _ first second =>
    exact List.forall_mem_append.mpr
      ⟨first, List.forall_mem_cons.mpr ⟨LexemeKind.inPhrase_of_mem_operators isMark, second⟩⟩
  | prefixed isMark _ operand =>
    exact List.forall_mem_cons.mpr
      ⟨LexemeKind.inPhrase_of_beginsPhrase (beginsPhrase_of_mem_unaryOperators isMark), operand⟩
  | call _ opens _ separated closes callee arguments =>
    have inside := separated.forall_mem ofComma (ofPart arguments)
    refine List.forall_mem_append.mpr ⟨callee, List.forall_mem_cons.mpr
      ⟨?_, List.forall_mem_append.mpr ⟨inside, List.forall_mem_singleton.mpr ?_⟩⟩⟩
    · rw [opens]
      rfl
    · rw [closes]
      rfl
  | leaf stands =>
    exact List.forall_mem_singleton.mpr
      (LexemeKind.inPhrase_of_beginsPhrase (Lexeme.beginsPhrase_of_leaf? stands))
  | list opens _ separated closes elements =>
    have inside := separated.forall_mem ofComma (ofPart elements)
    refine List.forall_mem_cons.mpr
      ⟨?_, List.forall_mem_append.mpr ⟨inside, List.forall_mem_singleton.mpr ?_⟩⟩
    · rw [opens]
      rfl
    · rw [closes]
      rfl
  | parenthesized opens _ closes inside =>
    refine List.forall_mem_cons.mpr
      ⟨?_, List.forall_mem_append.mpr ⟨inside, List.forall_mem_singleton.mpr ?_⟩⟩
    · rw [opens]
      rfl
    · rw [closes]
      rfl

theorem Phrase.ne_finish_of_mem {levels : Nat} {category : Category} {lexemes : List Lexeme}
    {tree : Tree} (phrase : Phrase levels category lexemes tree) :
    ∀ lexeme ∈ lexemes, lexeme.kind ≠ .finish := by
  intro lexeme member isFinish
  have inPhrase := phrase.inPhrase_of_mem lexeme member
  rw [isFinish] at inPhrase
  cases inPhrase

end Playscript
