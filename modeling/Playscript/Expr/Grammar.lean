/-
This file reads lexemes as trees. Operators bind by their precedence: a reader is given the least
precedence that it leaves to its surroundings, and takes what binds more tightly. Each reader hands
back the lexemes that it leaves, with a proof that it took at least one, so every loop ends. What is
nested is read one level deeper, and the levels are limited.
-/

import Playscript.Expr.Tree

namespace Playscript

/-! ### Operators -/

/-- How tightly an operator binds; zero for what is no operator between operands. -/
def LexemeKind.precedence : LexemeKind → Nat
  | equal => 50
  | doubleBar => 60
  | doubleAnd => 80
  | doubleEqual | bangEqual => 100
  | less | lessEqual | greater | greaterEqual => 150
  | plus | minus => 200
  | star | slash | percent => 300
  | _ => 0

/-- The operator between two operands that is written like this. -/
def LexemeKind.binaryOperator? : LexemeKind → Option BinaryOperator
  | plus => some .add
  | minus => some .subtract
  | star => some .multiply
  | slash => some .divide
  | percent => some .modulo
  | doubleEqual => some .equal
  | bangEqual => some .notEqual
  | less => some .less
  | lessEqual => some .lessEqual
  | greater => some .greater
  | greaterEqual => some .greaterEqual
  | doubleAnd => some .and
  | doubleBar => some .or
  | _ => none

/-- The operator before one operand that is written like this. -/
def LexemeKind.unaryOperator? : LexemeKind → Option UnaryOperator
  | minus => some .negate
  | bang => some .not
  | _ => none

/-- The least precedence that the right operand leaves to its surroundings. Assignment takes another
assignment as its right operand; all other operators group to the left. -/
def LexemeKind.rightPrecedence (kind : LexemeKind) : Nat :=
  if kind = .equal then kind.precedence - 1 else kind.precedence

/-- Two expressions joined by an operator. -/
def Tree.join (kind : LexemeKind) (left right : Tree) : Tree :=
  match kind.binaryOperator? with
  | some operator => .binary left.column operator left right
  | none => .assign left.column left right

namespace Grammar

/-! ### Readers -/

/-- What was read from the front of some lexemes, and the lexemes that are left, fewer than a
bound. -/
structure Taken (bound : Nat) (Result : Type) where
  result : Result
  rest : List Lexeme
  fewer : rest.length < bound

/-- Reads something from the front of lexemes, of which it takes at least one. -/
abbrev Reader (Result : Type) :=
  (lexemes : List Lexeme) → Except Issue (Taken lexemes.length Result)

/-- What reads the parts of an expression that stand one level deeper. -/
structure Inner where
  /-- Reads an expression, and leaves operators up to a precedence alone. -/
  expression : Nat → Reader Tree
  /-- Reads the operand of an operator before it. -/
  operand : Reader Tree

/-- The lexeme that stands next. -/
def next (lexemes : List Lexeme) : Lexeme := lexemes.headD ⟨.finish, "", 0⟩

/-- The issue that the next lexeme is not what is expected. -/
def unexpected (expectation : Expectation) (lexemes : List Lexeme) : Issue :=
  ⟨(next lexemes).column, .unexpected expectation (next lexemes)⟩

/-- Reads items with commas between them up to a closing bracket, and the bracket. A comma may stand
before the bracket. -/
def items (inner : Inner) (closing : LexemeKind) (expectation : Expectation)
    (lexemes : List Lexeme) : Except Issue (Taken lexemes.length (List Tree)) :=
  if closed : lexemes ≠ [] ∧ (next lexemes).kind = closing then
    .ok ⟨[], lexemes.tail, by cases lexemes <;> simp_all⟩
  else
    match inner.expression 0 lexemes with
    | .error issue => .error issue
    | .ok ⟨item, [], _⟩ => .error (unexpected expectation [])
    | .ok ⟨item, lexeme :: rest, fewer⟩ =>
      if lexeme.kind = .comma then
        match items inner closing expectation rest with
        | .error issue => .error issue
        | .ok ⟨others, left, fewer'⟩ =>
          .ok ⟨item :: others, left, by simp only [List.length_cons] at fewer; omega⟩
      else if lexeme.kind = closing then
        .ok ⟨[item], rest, by simp only [List.length_cons] at fewer; omega⟩
      else .error (unexpected expectation (lexeme :: rest))
termination_by lexemes.length
decreasing_by simp only [List.length_cons] at fewer; omega

/-- Reads what can stand on its own: a literal, a name, a list, or an expression in parentheses,
which leave no trace. -/
def primary (inner : Inner) : Reader Tree
  | [] => .error (unexpected .expression [])
  | lexeme :: rest =>
    let leaf (tree : Tree) : Except Issue (Taken (lexeme :: rest).length Tree) :=
      .ok ⟨tree, rest, Nat.lt_succ_self _⟩
    match lexeme.kind with
    | .int => leaf (.int lexeme.column lexeme.text)
    | .float => leaf (.float lexeme.column lexeme.text)
    | .string => leaf (.string lexeme.column lexeme.text)
    | .trueWord => leaf (.bool lexeme.column true)
    | .falseWord => leaf (.bool lexeme.column false)
    | .nullWord => leaf (.null lexeme.column)
    | .name => leaf (.name lexeme.column lexeme.text)
    | .leftBracket =>
      match items inner .rightBracket .commaOrClosingBracket rest with
      | .error issue => .error issue
      | .ok ⟨trees, left, fewer⟩ => .ok ⟨.list lexeme.column trees, left, Nat.lt_succ_of_lt fewer⟩
    | .leftParen =>
      match inner.expression 0 rest with
      | .error issue => .error issue
      | .ok ⟨tree, [], _⟩ => .error (unexpected .closingParen [])
      | .ok ⟨tree, after :: left, fewer⟩ =>
        if after.kind = .rightParen then
          .ok ⟨tree, left, by simp only [List.length_cons] at fewer ⊢; omega⟩
        else .error (unexpected .closingParen (after :: left))
    | .openString => .error ⟨lexeme.column, .openString⟩
    | _ => .error (unexpected .expression (lexeme :: rest))

/-- Reads the arguments of calls after a callee, as long as parentheses follow. -/
def calls (inner : Inner) (callee : Tree) (lexemes : List Lexeme) :
    Except Issue (Taken (lexemes.length + 1) Tree) :=
  match lexemes with
  | [] => .ok ⟨callee, [], Nat.lt_succ_self _⟩
  | lexeme :: rest =>
    if lexeme.kind = .leftParen then
      match items inner .rightParen .commaOrClosingParen rest with
      | .error issue => .error issue
      | .ok ⟨arguments, after, fewer⟩ =>
        match calls inner (.call callee.column callee arguments) after with
        | .error issue => .error issue
        | .ok ⟨tree, left, fewer'⟩ =>
          .ok ⟨tree, left, by simp only [List.length_cons]; omega⟩
    else .ok ⟨callee, lexeme :: rest, Nat.lt_succ_self _⟩
termination_by lexemes.length
decreasing_by simp only [List.length_cons]; omega

/-- Reads a primary expression and the calls after it. -/
def postfixed (inner : Inner) : Reader Tree := fun lexemes =>
  match primary inner lexemes with
  | .error issue => .error issue
  | .ok ⟨callee, after, fewer⟩ =>
    match calls inner callee after with
    | .error issue => .error issue
    | .ok ⟨tree, left, fewer'⟩ => .ok ⟨tree, left, by omega⟩

/-- Reads an expression that may begin with operators of one operand. -/
def unary (inner : Inner) : Reader Tree
  | [] => postfixed inner []
  | lexeme :: rest =>
    match lexeme.kind.unaryOperator? with
    | none => postfixed inner (lexeme :: rest)
    | some operator =>
      match inner.operand rest with
      | .error issue => .error issue
      | .ok ⟨operand, left, fewer⟩ =>
        .ok ⟨.unary lexeme.column operator operand, left, Nat.lt_succ_of_lt fewer⟩

/-- Reads operators that bind more tightly than a given precedence, and their right operands, after
a left operand. -/
def operations (inner : Inner) (minimum : Nat) (left : Tree) (lexemes : List Lexeme) :
    Except Issue (Taken (lexemes.length + 1) Tree) :=
  match lexemes with
  | [] => .ok ⟨left, [], Nat.lt_succ_self _⟩
  | lexeme :: rest =>
    if lexeme.kind.precedence ≤ minimum then .ok ⟨left, lexeme :: rest, Nat.lt_succ_self _⟩
    else
      match inner.expression lexeme.kind.rightPrecedence rest with
      | .error issue => .error issue
      | .ok ⟨right, after, fewer⟩ =>
        match operations inner minimum (.join lexeme.kind left right) after with
        | .error issue => .error issue
        | .ok ⟨tree, others, fewer'⟩ =>
          .ok ⟨tree, others, by simp only [List.length_cons]; omega⟩
termination_by lexemes.length
decreasing_by simp only [List.length_cons]; omega

/-- Reads an expression, and leaves operators up to a precedence alone. -/
def binary (inner : Inner) (minimum : Nat) : Reader Tree := fun lexemes =>
  match unary inner lexemes with
  | .error issue => .error issue
  | .ok ⟨left, after, fewer⟩ =>
    match operations inner minimum left after with
    | .error issue => .error issue
    | .ok ⟨tree, others, fewer'⟩ => .ok ⟨tree, others, by omega⟩

/-! ### Levels -/

/-- The issue that an expression is nested deeper than allowed. -/
def tooDeep : Reader Tree := fun lexemes => .error ⟨(next lexemes).column, .tooDeep⟩

/-- The readers for parts that may be nested over so many levels, their own included. -/
def levels : Nat → Inner
  | 0 => ⟨fun _ => tooDeep, tooDeep⟩
  | count + 1 =>
    { expression := fun minimum lexemes => binary (levels count) minimum lexemes
      operand := fun lexemes => unary (levels count) lexemes }

/-- Reads a whole expression. -/
def expression : Reader Tree := fun lexemes => (levels nestingLimit).expression 0 lexemes

/-- Reads expressions with semicolons between them, up to the end of the lexemes. A semicolon may
stand at the end. -/
def statements (lexemes : List Lexeme) : Except Issue (List Tree) :=
  match expression lexemes with
  | .error issue => .error issue
  | .ok ⟨first, rest, _⟩ =>
    if (next rest).kind = .finish then .ok [first]
    else if (next rest).kind = .semicolon then
      if (next rest.tail).kind = .finish then .ok [first]
      else (statements rest.tail).map (first :: ·)
    else .error (unexpected .semicolonOrEnd rest)
termination_by lexemes.length
decreasing_by simp only [List.length_tail]; omega

/-- Several expressions are a sequence, which begins where the first one does; one stands for
itself. -/
def program (lexemes : List Lexeme) : Except Issue (Option Tree) :=
  if (next lexemes).kind = .finish then .ok none
  else
    (statements lexemes).map fun
      | [tree] => some tree
      | trees => some (.sequence (next lexemes).column trees)

end Grammar

/-- Reads the text of an expression. -/
def Draft.read (source : String) : Draft := ⟨source, Grammar.program (Lexeme.scan source)⟩

end Playscript
