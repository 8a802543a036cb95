/-
This file follows the string literals of an expression from its lexemes to its diagnostics. The
literals of the tree are the strings among the lexemes, in order, so an escape can only be reported
if it stands in one of these; and an open string is only reported if it is among the lexemes.

A text of which a backslash at the end is left over is the only one whose last escape is incomplete.
Text between two quotes is not of this kind.
-/

import Playscript.Expr.Validation
import Playscript.Proofs.Issues
import Playscript.Proofs.Lexing

namespace Playscript

/-! ### Escapes -/

/-- A backslash at the end of a text has no character to take along. -/
inductive Dangling : List Char → Prop
  | last : Dangling ['\\']
  | plain {character : Char} {rest : List Char} (notBackslash : character ≠ '\\')
      (others : Dangling rest) : Dangling (character :: rest)
  | escaped {character : Char} {rest : List Char} (others : Dangling rest) :
      Dangling ('\\' :: character :: rest)

theorem dangling_plain_iff {character : Char} {rest : List Char} (notBackslash : character ≠ '\\') :
    Dangling (character :: rest) ↔ Dangling rest := by
  constructor
  · intro dangling
    cases dangling with
    | last => exact absurd rfl notBackslash
    | plain _ others => exact others
    | escaped => exact absurd rfl notBackslash
  · exact .plain notBackslash

theorem dangling_escaped_iff {character : Char} {rest : List Char} :
    Dangling ('\\' :: character :: rest) ↔ Dangling rest := by
  constructor
  · intro dangling
    cases dangling with
    | plain notBackslash => exact absurd rfl notBackslash
    | escaped others => exact others
  · exact .escaped

theorem not_dangling_of_quoted {quote : Char} {content : List Char}
    (quoted : Quoted quote content) : ¬ Dangling content := by
  induction quoted with
  | nil => exact nofun
  | plain _ notBackslash _ inductionHypothesis =>
    exact mt (dangling_plain_iff notBackslash).mp inductionHypothesis
  | escaped _ inductionHypothesis => exact mt dangling_escaped_iff.mp inductionHypothesis

/-- The flaws of the escapes of a text. -/
def escapeFlaws (text : List Char) : List EscapeFlaw :=
  match unescape text with
  | .ok _ => []
  | .error flaws => flaws

theorem unescape_plain {character : Char} {rest : List Char} (notBackslash : character ≠ '\\') :
    unescape (character :: rest) = (unescape rest).map (character :: ·) := by
  rw [unescape, if_neg notBackslash]
  exact fun _ _ same _ => notBackslash same

theorem escapeFlaws_plain {character : Char} {rest : List Char} (notBackslash : character ≠ '\\') :
    escapeFlaws (character :: rest) = escapeFlaws rest := by
  unfold escapeFlaws
  rw [unescape_plain notBackslash]
  cases unescape rest <;> rfl

theorem incomplete_mem_escapeFlaws_escaped {character : Char} {rest : List Char} :
    .incomplete ∈ escapeFlaws ('\\' :: character :: rest) ↔ .incomplete ∈ escapeFlaws rest := by
  unfold escapeFlaws
  rw [unescape]
  cases escapeMeaning character <;> cases unescape rest <;> simp

/-- An escape of a text is incomplete exactly if a backslash is left over at its end. -/
theorem incomplete_mem_escapeFlaws_iff : (text : List Char) →
    (.incomplete ∈ escapeFlaws text ↔ Dangling text)
  | [] => ⟨nofun, nofun⟩
  | [character] => by
    by_cases backslash : character = '\\'
    · rw [backslash]
      exact iff_of_true List.mem_cons_self .last
    · rw [escapeFlaws_plain backslash, dangling_plain_iff backslash]
      exact ⟨nofun, nofun⟩
  | character :: next :: rest => by
    by_cases backslash : character = '\\'
    · rw [backslash, incomplete_mem_escapeFlaws_escaped, dangling_escaped_iff]
      exact incomplete_mem_escapeFlaws_iff rest
    · rw [escapeFlaws_plain backslash, dangling_plain_iff backslash]
      exact incomplete_mem_escapeFlaws_iff (next :: rest)

/-! ### The literals of a tree -/

namespace Tree

mutual

/-- The texts of the string literals of a tree, in order. -/
def strings : Tree → List String
  | string _ text => [text]
  | int _ _ | float _ _ | bool _ _ | null _ | name _ _ => []
  | list _ items => stringsOfAll items
  | unary _ _ operand => operand.strings
  | binary _ _ left right => left.strings ++ right.strings
  | assign _ target value => target.strings ++ value.strings
  | call _ callee arguments => callee.strings ++ stringsOfAll arguments
  | sequence _ items => stringsOfAll items

/-- The texts of the string literals of trees, in order. -/
def stringsOfAll : List Tree → List String
  | [] => []
  | item :: rest => item.strings ++ stringsOfAll rest

end

theorem stringsOfAll_eq (trees : List Tree) : stringsOfAll trees = trees.flatMap strings := by
  induction trees with
  | nil => rfl
  | cons item rest inductionHypothesis =>
    rw [stringsOfAll, inductionHypothesis, List.flatMap_cons]

end Tree

theorem LexemeKind.ne_string_of_mem_operators {category : Category} {kind : LexemeKind}
    {operator : BinaryOperator} (isMark : (kind, operator) ∈ category.operators) :
    kind ≠ .string := by
  rintro rfl
  cases (Category.mem_operators_iff.mp isMark).1

theorem LexemeKind.ne_string_of_mem_unaryOperators {kind : LexemeKind} {operator : UnaryOperator}
    (isMark : (kind, operator) ∈ unaryOperators) : kind ≠ .string := by
  rintro rfl
  cases mem_unaryOperators_iff.mp isMark

theorem Lexeme.strings_append (first second : List Lexeme) :
    Lexeme.strings (first ++ second) = Lexeme.strings first ++ Lexeme.strings second := by
  unfold Lexeme.strings
  rw [List.filter_append, List.map_append]

theorem Separated.strings_eq {separator : LexemeKind} {parts : List (List Lexeme)}
    {lexemes : List Lexeme} (separated : Separated separator parts lexemes)
    (notString : separator ≠ .string) : Lexeme.strings lexemes = parts.flatMap Lexeme.strings := by
  induction separated with
  | none => rfl
  | last part => exact (List.flatMap_singleton ..).symm
  | more part isSeparator _ inductionHypothesis =>
    rw [Lexeme.strings_append, Lexeme.strings_cons_of_ne (isSeparator ▸ notString),
      inductionHypothesis, List.flatMap_cons]

theorem Lexeme.strings_of_leaf? {lexeme : Lexeme} {tree : Tree}
    (stands : lexeme.leaf? = some tree) : tree.strings = Lexeme.strings [lexeme] := by
  unfold Lexeme.leaf? at stands
  unfold Lexeme.strings
  cases kind : lexeme.kind <;> simp only [kind, reduceCtorEq, Option.some.injEq] at stands
  all_goals
    subst stands
    simp [Tree.strings, kind]

/-- The literals of parts with commas between them are those of the parts. -/
theorem strings_of_separated {separator : LexemeKind} {parts : List (List Lexeme × Tree)}
    {lexemes : List Lexeme} (separated : Separated separator (parts.map Prod.fst) lexemes)
    (notString : separator ≠ .string)
    (each : ∀ part ∈ parts, part.2.strings = Lexeme.strings part.1) :
    Tree.stringsOfAll (parts.map Prod.snd) = Lexeme.strings lexemes := by
  rw [Tree.stringsOfAll_eq, separated.strings_eq notString, List.flatMap_map, List.flatMap_map]
  exact List.flatMap_congr each

theorem Lexeme.strings_enclosed {opening closing : Lexeme} {inside : List Lexeme}
    (opens : opening.kind ≠ .string) (closes : closing.kind ≠ .string) :
    Lexeme.strings (opening :: (inside ++ [closing])) = Lexeme.strings inside := by
  have nothing : Lexeme.strings [closing] = [] := Lexeme.strings_cons_of_ne closes
  rw [Lexeme.strings_cons_of_ne opens, Lexeme.strings_append, nothing, List.append_nil]

/-- The literals of a tree are the strings among its lexemes, in order. -/
theorem Phrase.strings_eq {levels : Nat} {category : Category} {lexemes : List Lexeme} {tree : Tree}
    (phrase : Phrase levels category lexemes tree) : tree.strings = Lexeme.strings lexemes := by
  induction phrase with
  | wider _ inductionHypothesis => exact inductionHypothesis
  | assignment _ isMark _ target value =>
    rw [Tree.strings, target, value, Lexeme.strings_append,
      Lexeme.strings_cons_of_ne (isMark ▸ nofun)]
  | operation _ isMark _ first second =>
    have notString := LexemeKind.ne_string_of_mem_operators isMark
    rw [Tree.strings, first, second, Lexeme.strings_append, Lexeme.strings_cons_of_ne notString]
  | prefixed isMark _ operand =>
    have notString := LexemeKind.ne_string_of_mem_unaryOperators isMark
    rw [Tree.strings, operand, Lexeme.strings_cons_of_ne notString]
  | call _ opens _ separated closes callee arguments =>
    rw [Tree.strings, callee, strings_of_separated separated nofun arguments,
      Lexeme.strings_append, Lexeme.strings_enclosed (opens ▸ nofun) (closes ▸ nofun)]
  | leaf stands => exact Lexeme.strings_of_leaf? stands
  | list opens _ separated closes elements =>
    rw [Tree.strings, strings_of_separated separated nofun elements,
      Lexeme.strings_enclosed (opens ▸ nofun) (closes ▸ nofun)]
  | parenthesized opens _ closes inside =>
    rw [Lexeme.strings_enclosed (opens ▸ nofun) (closes ▸ nofun), inside]

theorem Statements.strings_eq {lexemes : List Lexeme} {tree : Tree}
    (statements : Statements lexemes tree) : tree.strings = Lexeme.strings lexemes := by
  cases statements with
  | one phrase separated =>
    rw [phrase.strings_eq, separated.strings_eq nofun, List.flatMap_singleton]
  | several each _ separated =>
    exact strings_of_separated separated nofun fun part member => (each part member).strings_eq

/-- The end of a text is no string. -/
theorem strings_dropLast_scan (source : String) :
    Lexeme.strings (Lexeme.scan source).dropLast = Lexeme.strings (Lexeme.scan source) := by
  obtain ⟨body, last, same, _⟩ := Lexeme.exists_scanFrom_eq 1 source.toList
  have scan_eq : Lexeme.scan source = body ++ [⟨.finish, "", last⟩] := same
  have nothing : Lexeme.strings [⟨.finish, "", last⟩] = [] := Lexeme.strings_cons_of_ne nofun
  rw [scan_eq, List.dropLast_concat, Lexeme.strings_append, nothing, List.append_nil]

/-! ### The diagnostics of a tree -/

/-- The diagnostics of a result. -/
def Validated.diagnostics {Result : Type} : Validated Result → List Diagnostic
  | .ok _ => []
  | .error diagnostics => diagnostics

theorem Validated.diagnostics_both {First Second Result : Type} (combine : First → Second → Result)
    (first : Validated First) (second : Validated Second) :
    (Validated.both combine first second).diagnostics =
      first.diagnostics ++ second.diagnostics := by
  rcases first with diagnostics | value <;> rcases second with others | other <;>
    simp [Validated.both, Validated.diagnostics]

theorem Validated.diagnostics_map {First Result : Type} (change : First → Result)
    (validated : Validated First) :
    Validated.diagnostics (Except.map change validated) = validated.diagnostics := by
  cases validated <;> rfl

/-- A diagnostic is about a tree that was read: it is not about reading, and the flaws that it tells
are those of some literals. -/
structure Diagnostic.IsAbout (literals : List String) (diagnostic : Diagnostic) : Prop where
  read (obstacle : Obstacle) : diagnostic.problem ≠ .unreadable obstacle
  escape (flaw : EscapeFlaw) (isFlaw : diagnostic.problem = .escape flaw) :
    ∃ text ∈ literals, flaw ∈ escapeFlaws text.toList

/-- Whether a problem is neither about reading nor about an escape. -/
def Problem.isOther : Problem → Bool
  | unreadable _ | escape _ => false
  | _ => true

namespace Diagnostic

variable {literals others : List String} {diagnostic : Diagnostic}

theorem IsAbout.append_right (about : diagnostic.IsAbout literals) :
    diagnostic.IsAbout (literals ++ others) := by
  refine ⟨about.read, fun flaw isFlaw => ?_⟩
  obtain ⟨text, member, flawMember⟩ := about.escape flaw isFlaw
  exact ⟨text, List.mem_append_left _ member, flawMember⟩

theorem IsAbout.append_left (about : diagnostic.IsAbout literals) :
    diagnostic.IsAbout (others ++ literals) := by
  refine ⟨about.read, fun flaw isFlaw => ?_⟩
  obtain ⟨text, member, flawMember⟩ := about.escape flaw isFlaw
  exact ⟨text, List.mem_append_right _ member, flawMember⟩

/-- Escapes apart, nothing depends on the literals. -/
theorem isAbout_singleton {column : Nat} {problem : Problem} (other : problem.isOther = true) :
    ∀ diagnostic ∈ [(⟨column, problem⟩ : Diagnostic)], diagnostic.IsAbout literals := by
  refine List.forall_mem_singleton.mpr ⟨fun obstacle same => ?_, fun flaw same => ?_⟩
  · rw [show problem = .unreadable obstacle from same] at other
    cases other
  · rw [show problem = .escape flaw from same] at other
    cases other

end Diagnostic

theorem Tree.isAbout_of_string (column : Nat) (text : String) :
    ∀ diagnostic ∈ (Tree.string column text).validate.diagnostics,
      diagnostic.IsAbout [text] := by
  intro diagnostic member
  rw [Tree.validate] at member
  rcases read : unescape text.toList with flaws | resolved
  · rw [read] at member
    obtain ⟨flaw, flawMember, rfl⟩ := List.mem_map.mp member
    refine ⟨nofun, fun other same => ⟨text, List.mem_singleton_self text, ?_⟩⟩
    cases same
    rw [escapeFlaws, read]
    exact flawMember
  · rw [read] at member
    cases member

theorem Validated.isAbout_of_nameOf {literals : List String} {problem : Problem} {tree : Tree}
    (other : problem.isOther = true) :
    ∀ diagnostic ∈ (Validated.nameOf problem tree).diagnostics, diagnostic.IsAbout literals := by
  unfold Validated.nameOf
  split
  · exact List.forall_mem_nil _
  · exact Diagnostic.isAbout_singleton other

mutual

/-- Every diagnostic of a tree is about this tree. -/
theorem Tree.isAbout_of_mem_diagnostics : (tree : Tree) →
    ∀ diagnostic ∈ tree.validate.diagnostics, diagnostic.IsAbout tree.strings
  | .int column text => by
    rw [Tree.validate]
    cases readInt? (withoutGaps text) with
    | none => exact Diagnostic.isAbout_singleton rfl
    | some number => exact List.forall_mem_nil _
  | .float column text => by
    rw [Tree.validate]
    cases readFloat? (withoutGaps text) with
    | none => exact Diagnostic.isAbout_singleton rfl
    | some number => exact List.forall_mem_nil _
  | .string column text => Tree.isAbout_of_string column text
  | .bool _ _ | .null _ | .name _ _ => List.forall_mem_nil _
  | .list _ items => by
    rw [Tree.validate, Validated.diagnostics_map]
    exact Tree.isAbout_of_mem_diagnosticsOfAll items
  | .unary _ _ operand => by
    rw [Tree.validate, Validated.diagnostics_map]
    exact Tree.isAbout_of_mem_diagnostics operand
  | .binary _ _ left right => by
    rw [Tree.validate, Validated.diagnostics_both]
    exact List.forall_mem_append.mpr
      ⟨fun _ member => (Tree.isAbout_of_mem_diagnostics left _ member).append_right,
        fun _ member => (Tree.isAbout_of_mem_diagnostics right _ member).append_left⟩
  | .assign _ _ value => by
    rw [Tree.validate, Validated.diagnostics_both]
    exact List.forall_mem_append.mpr
      ⟨fun _ member => (Tree.isAbout_of_mem_diagnostics value _ member).append_left,
        Validated.isAbout_of_nameOf rfl⟩
  | .call _ _ arguments => by
    rw [Tree.validate, Validated.diagnostics_both]
    exact List.forall_mem_append.mpr
      ⟨fun _ member => (Tree.isAbout_of_mem_diagnosticsOfAll arguments _ member).append_left,
        Validated.isAbout_of_nameOf rfl⟩
  | .sequence _ items => by
    rw [Tree.validate, Validated.diagnostics_map]
    exact Tree.isAbout_of_mem_diagnosticsOfAll items

/-- Every diagnostic of several trees is about these trees. -/
theorem Tree.isAbout_of_mem_diagnosticsOfAll : (trees : List Tree) →
    ∀ diagnostic ∈ (Tree.validateAll trees).diagnostics,
      diagnostic.IsAbout (Tree.stringsOfAll trees)
  | [] => List.forall_mem_nil _
  | item :: rest => by
    rw [Tree.validateAll, Validated.diagnostics_both]
    exact List.forall_mem_append.mpr
      ⟨fun _ member => (Tree.isAbout_of_mem_diagnostics item _ member).append_right,
        fun _ member => (Tree.isAbout_of_mem_diagnosticsOfAll rest _ member).append_left⟩

end

/-! ### Open strings -/

namespace Grammar

/-- No string is left open. -/
def AllClosed (lexemes : List Lexeme) : Prop := ∀ lexeme ∈ lexemes, lexeme.kind ≠ .openString

end Grammar

/-- If the strings of a text are all closed, the diagnostics of its expression are not about an open
string, and the flaws that they tell are those of the strings. -/
theorem isAbout_of_mem_validate {source : String}
    (closed : Grammar.AllClosed (Lexeme.scan source)) :
    ∀ diagnostic ∈ (Draft.read source).validate.diagnostics,
      diagnostic.problem ≠ .unreadable .openString ∧
        ∀ flaw, diagnostic.problem = .escape flaw →
          ∃ text ∈ Lexeme.strings (Lexeme.scan source), flaw ∈ escapeFlaws text.toList := by
  unfold Draft.validate
  rcases reading : (Draft.read source).reading with issue | _ | root
  · refine List.forall_mem_singleton.mpr ⟨fun same => ?_, nofun⟩
    cases isAt_of_reading_eq_error reading with
    | openString among isOpen => exact closed _ among isOpen
    | unexpected | tooDeep => cases same
  · exact List.forall_mem_singleton.mpr ⟨nofun, nofun⟩
  · have derived := (reading_eq_iff source root).mp reading
    intro diagnostic member
    have about := Tree.isAbout_of_mem_diagnostics root diagnostic member
    rw [derived.strings_eq, strings_dropLast_scan] at about
    exact ⟨about.read _, about.escape⟩

end Playscript
