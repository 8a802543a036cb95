/-
This file says which expressions are accepted and what they become. An expression stands for a tree
node by node: numbers are read in base ten, escapes are resolved, names are kept, and a target or a
callee is a name. Validation gives the expression that stands for the tree, if there is one.

There is one exactly if no node of the tree offends. Validation does not look into targets and
callees, but if nothing that it sees offends, these are names, and nothing is hidden in them.
-/

import Playscript.Proofs.Compiling
import Playscript.Proofs.Offences

namespace Playscript

/-! ### What a tree stands for -/

/-- A text with escapes stands for a text: every escape for its meaning, and every other character
for itself. -/
inductive Unescapes : List Char → List Char → Prop
  | nil : Unescapes [] []
  | plain {character : Char} {rest text : List Char} (notBackslash : character ≠ '\\')
      (others : Unescapes rest text) : Unescapes (character :: rest) (character :: text)
  | escaped {character meaning : Char} {rest text : List Char}
      (means : escapeMeaning character = some meaning) (others : Unescapes rest text) :
      Unescapes ('\\' :: character :: rest) (meaning :: text)

/-- A tree stands for an expression, node by node. Only a null that is written stands for null. -/
inductive Tree.Means : Tree → Expr → Prop
  | int {column : Nat} {text : String} {number : Int64} (value : number.toInt = decimal text) :
      Means (.int column text) (.literal (.int number))
  | float {column : Nat} {text : String} {number : Float}
      (value : readFloat? (withoutGaps text) = some number) :
      Means (.float column text) (.literal (.float number))
  | string {column : Nat} {raw text : String} (content : Unescapes raw.toList text.toList) :
      Means (.string column raw) (.literal (.string text))
  | bool {column : Nat} {truth : Bool} : Means (.bool column truth) (.literal (.bool truth))
  | null {column : Nat} : Means (.null column) (.literal .null)
  | name {column : Nat} {text : String} : Means (.name column text) (.reference text)
  | list {column : Nat} {items : List Tree} {exprs : List Expr}
      (each : List.Forall₂ Means items exprs) : Means (.list column items) (.list exprs)
  | unary {column : Nat} {operator : UnaryOperator} {operand : Tree} {expr : Expr}
      (inside : Means operand expr) :
      Means (.unary column operator operand) (.unary operator expr)
  | binary {column : Nat} {operator : BinaryOperator} {left right : Tree} {first second : Expr}
      (before : Means left first) (after : Means right second) :
      Means (.binary column operator left right) (.binary operator first second)
  | assign {column nameColumn : Nat} {name : String} {value : Tree} {expr : Expr}
      (inside : Means value expr) :
      Means (.assign column (.name nameColumn name) value) (.assign name expr)
  | call {column nameColumn : Nat} {name : String} {arguments : List Tree} {exprs : List Expr}
      (each : List.Forall₂ Means arguments exprs) :
      Means (.call column (.name nameColumn name) arguments) (.call name exprs)
  | sequence {column : Nat} {items : List Tree} {exprs : List Expr}
      (each : List.Forall₂ Means items exprs) : Means (.sequence column items) (.sequence exprs)

/-! ### Escapes -/

theorem map_eq_ok_iff {Error First Result : Type} {change : First → Result}
    {outcome : Except Error First} {result : Result} :
    outcome.map change = .ok result ↔ ∃ first, outcome = .ok first ∧ change first = result := by
  cases outcome <;> simp [Except.map]

theorem unescape_of_unescapes {raw text : List Char} (unescapes : Unescapes raw text) :
    unescape raw = .ok text := by
  induction unescapes with
  | nil => rfl
  | plain notBackslash _ inductionHypothesis =>
    rw [unescape_plain notBackslash, inductionHypothesis]
    rfl
  | escaped means _ inductionHypothesis => rw [unescape, means, inductionHypothesis]

/-- Resolving escapes gives what a text stands for. -/
theorem unescape_eq_ok_iff {raw text : List Char} :
    unescape raw = .ok text ↔ Unescapes raw text := by
  refine ⟨fun resolved => ?_, unescape_of_unescapes⟩
  fun_induction unescape raw generalizing text with
  | case1 =>
    cases resolved
    exact .nil
  | case2 character rest meaning content resolvedRest means inductionHypothesis =>
    cases resolved
    exact .escaped means (inductionHypothesis resolvedRest)
  | case3 | case4 | case5 | case6 => cases resolved
  | case7 character rest _ notBackslash inductionHypothesis =>
    obtain ⟨content, resolvedRest, rfl⟩ := map_eq_ok_iff.mp resolved
    exact .plain notBackslash (inductionHypothesis resolvedRest)

/-! ### Trees -/

namespace Validated

variable {First Second Result : Type}

theorem both_eq_ok_iff {combine : First → Second → Result} {first : Validated First}
    {second : Validated Second} {result : Result} :
    both combine first second = .ok result ↔
      ∃ one other, first = .ok one ∧ second = .ok other ∧ combine one other = result := by
  rcases first with diagnostics | one <;> rcases second with others | other <;> simp [both]

theorem nameOf_eq_ok_iff {problem : Problem} {tree : Tree} {text : String} :
    nameOf problem tree = .ok text ↔ ∃ column, tree = .name column text := by
  cases tree <;> simp [nameOf]

end Validated

namespace Tree

theorem validate_int_eq_ok_iff {column : Nat} {text : String} {expr : Expr}
    (spelled : LexemeKind.int.Spells text.toList) :
    (int column text).validate = .ok expr ↔ (int column text).Means expr := by
  rw [validate, readInt?_withoutGaps spelled]
  constructor
  · intro valid
    rcases fits : int64? (decimal text) with _ | number
    · rw [fits] at valid
      cases valid
    · rw [fits] at valid
      cases valid
      exact .int (int64?_eq_some_iff.mp fits)
  · intro means
    cases means with
    | int value => rw [int64?_eq_some_iff.mpr value]

theorem validate_float_eq_ok_iff {column : Nat} {text : String} {expr : Expr} :
    (float column text).validate = .ok expr ↔ (float column text).Means expr := by
  rw [validate]
  constructor
  · intro valid
    rcases read : readFloat? (withoutGaps text) with _ | number
    · rw [read] at valid
      cases valid
    · rw [read] at valid
      cases valid
      exact .float read
  · intro means
    cases means with
    | float value => rw [value]

theorem validate_string_eq_ok_iff {column : Nat} {text : String} {expr : Expr} :
    (string column text).validate = .ok expr ↔ (string column text).Means expr := by
  rw [validate]
  constructor
  · intro valid
    rcases read : unescape text.toList with _ | content
    · rw [read] at valid
      cases valid
    · rw [read] at valid
      cases valid
      refine .string ?_
      rw [String.toList_ofList]
      exact unescape_eq_ok_iff.mp read
  · intro means
    cases means with
    | string content =>
      rw [unescape_eq_ok_iff.mpr content]
      dsimp only
      rw [String.ofList_toList]

mutual

/-- Validation gives the expression that a tree stands for. -/
theorem validate_eq_ok_iff (tree : Tree) (expr : Expr)
    (spelled : ∀ part ∈ tree.seen, part.IsSpelled) :
    tree.validate = .ok expr ↔ tree.Means expr := by
  cases tree with
  | int column text => exact validate_int_eq_ok_iff (spelled _ (List.mem_singleton_self _))
  | float column text => exact validate_float_eq_ok_iff
  | string column text => exact validate_string_eq_ok_iff
  | bool column truth | null column | name column text =>
    rw [validate]
    constructor
    · rintro ⟨⟩
      constructor
    · rintro ⟨⟩
      rfl
  | list column items =>
    have inside (exprs : List Expr) :=
      validateAll_eq_ok_iff items exprs (List.forall_mem_append.mp spelled).1
    rw [validate, map_eq_ok_iff]
    constructor
    · rintro ⟨exprs, valid, rfl⟩
      exact .list ((inside exprs).mp valid)
    · rintro ⟨⟩
      exact ⟨_, (inside _).mpr ‹_›, rfl⟩
  | sequence column items =>
    have inside (exprs : List Expr) :=
      validateAll_eq_ok_iff items exprs (List.forall_mem_append.mp spelled).1
    rw [validate, map_eq_ok_iff]
    constructor
    · rintro ⟨exprs, valid, rfl⟩
      exact .sequence ((inside exprs).mp valid)
    · rintro ⟨⟩
      exact ⟨_, (inside _).mpr ‹_›, rfl⟩
  | unary column operator operand =>
    have inside (expr : Expr) :=
      validate_eq_ok_iff operand expr (List.forall_mem_append.mp spelled).1
    rw [validate, map_eq_ok_iff]
    constructor
    · rintro ⟨expr, valid, rfl⟩
      exact .unary ((inside expr).mp valid)
    · rintro ⟨⟩
      exact ⟨_, (inside _).mpr ‹_›, rfl⟩
  | binary column operator left right =>
    obtain ⟨before, after⟩ := List.forall_mem_append.mp (List.forall_mem_append.mp spelled).1
    rw [validate, Validated.both_eq_ok_iff]
    constructor
    · rintro ⟨first, second, firstValid, secondValid, rfl⟩
      exact .binary ((validate_eq_ok_iff left first before).mp firstValid)
        ((validate_eq_ok_iff right second after).mp secondValid)
    · intro means
      cases means with
      | binary firstMeans secondMeans =>
        exact ⟨_, _, (validate_eq_ok_iff left _ before).mpr firstMeans,
          (validate_eq_ok_iff right _ after).mpr secondMeans, rfl⟩
  | assign column target value =>
    have inside (expr : Expr) :=
      validate_eq_ok_iff value expr (List.forall_mem_append.mp spelled).1
    rw [validate, Validated.both_eq_ok_iff]
    constructor
    · rintro ⟨expr, name, valid, isName, rfl⟩
      obtain ⟨nameColumn, rfl⟩ := Validated.nameOf_eq_ok_iff.mp isName
      exact .assign ((inside expr).mp valid)
    · rintro ⟨⟩
      exact ⟨_, _, (inside _).mpr ‹_›, rfl, rfl⟩
  | call column callee arguments =>
    have inside (exprs : List Expr) :=
      validateAll_eq_ok_iff arguments exprs (List.forall_mem_append.mp spelled).1
    rw [validate, Validated.both_eq_ok_iff]
    constructor
    · rintro ⟨exprs, name, valid, isName, rfl⟩
      obtain ⟨nameColumn, rfl⟩ := Validated.nameOf_eq_ok_iff.mp isName
      exact .call ((inside exprs).mp valid)
    · rintro ⟨⟩
      exact ⟨_, _, (inside _).mpr ‹_›, rfl, rfl⟩

theorem validateAll_eq_ok_iff (items : List Tree) (exprs : List Expr)
    (spelled : ∀ part ∈ seenOfAll items, part.IsSpelled) :
    validateAll items = .ok exprs ↔ List.Forall₂ Means items exprs := by
  cases items with
  | nil =>
    rw [validateAll]
    constructor <;> rintro ⟨⟩
    · exact .nil
    · rfl
  | cons item rest =>
    obtain ⟨first, others⟩ := List.forall_mem_append.mp spelled
    rw [validateAll, Validated.both_eq_ok_iff]
    constructor
    · rintro ⟨expr, more, valid, allValid, rfl⟩
      exact .cons ((validate_eq_ok_iff item expr first).mp valid)
        ((validateAll_eq_ok_iff rest more others).mp allValid)
    · intro means
      cases means with
      | cons itemMeans restMeans =>
        exact ⟨_, _, (validate_eq_ok_iff item _ first).mpr itemMeans,
          (validateAll_eq_ok_iff rest _ others).mpr restMeans, rfl⟩

end

/-! ### Clean trees -/

theorem offences_of_mem_parts_of_isName {tree : Tree} (isName : tree.isName = true) :
    ∀ part ∈ tree.parts, part.offences = [] := by
  cases tree with
  | name _ _ => exact List.forall_mem_singleton.mpr rfl
  | _ => cases isName

theorem isName_of_no_offence {problem : Problem} {tree : Tree}
    (none : (if tree.isName then [] else [(⟨tree.column, problem⟩ : Diagnostic)]) = []) :
    tree.isName = true := by
  by_contra other
  rw [if_neg other] at none
  cases none

mutual

/-- If nothing that is seen offends, nothing that is hidden does: targets and callees are names. -/
theorem offences_of_mem_hidden (tree : Tree) (clean : ∀ part ∈ tree.seen, part.offences = []) :
    ∀ part ∈ tree.hidden, part.offences = [] := by
  cases tree with
  | list _ items | sequence _ items =>
    exact offences_of_mem_hiddenOfAll items (List.forall_mem_append.mp clean).1
  | unary _ _ operand => exact offences_of_mem_hidden operand (List.forall_mem_append.mp clean).1
  | binary _ _ left right =>
    obtain ⟨before, after⟩ := List.forall_mem_append.mp (List.forall_mem_append.mp clean).1
    exact List.forall_mem_append.mpr
      ⟨offences_of_mem_hidden left before, offences_of_mem_hidden right after⟩
  | assign _ target value =>
    obtain ⟨inside, itself⟩ := List.forall_mem_append.mp clean
    have isName := isName_of_no_offence (itself _ (List.mem_singleton_self _))
    exact List.forall_mem_append.mpr
      ⟨offences_of_mem_parts_of_isName isName, offences_of_mem_hidden value inside⟩
  | call _ callee arguments =>
    obtain ⟨inside, itself⟩ := List.forall_mem_append.mp clean
    have isName := isName_of_no_offence (itself _ (List.mem_singleton_self _))
    exact List.forall_mem_append.mpr
      ⟨offences_of_mem_parts_of_isName isName, offences_of_mem_hiddenOfAll arguments inside⟩
  | _ => exact List.forall_mem_nil _

theorem offences_of_mem_hiddenOfAll (items : List Tree)
    (clean : ∀ part ∈ seenOfAll items, part.offences = []) :
    ∀ part ∈ hiddenOfAll items, part.offences = [] := by
  cases items with
  | nil => exact List.forall_mem_nil _
  | cons item rest =>
    obtain ⟨first, others⟩ := List.forall_mem_append.mp clean
    exact List.forall_mem_append.mpr
      ⟨offences_of_mem_hidden item first, offences_of_mem_hiddenOfAll rest others⟩

end

end Tree

theorem Validated.exists_eq_ok_iff {Result : Type} {validated : Validated Result}
    (tells : validated ≠ .error []) :
    (∃ result, validated = .ok result) ↔ validated.diagnostics = [] := by
  cases validated with
  | ok result => exact iff_of_true ⟨result, rfl⟩ rfl
  | error diagnostics =>
    exact iff_of_false nofun fun none => tells (congrArg Except.error none)

/-- A tree is accepted exactly if no part of it offends. -/
theorem exists_validate_iff_of_root? {source : String} {root : Tree}
    (read : (Draft.read source).root? = some root) :
    (∃ expr, root.validate = .ok expr) ↔ ∀ part ∈ root.parts, part.offences = [] := by
  have seenDiagnostics := diagnostics_of_root? read
  rw [Draft.validate_of_root? read] at seenDiagnostics
  rw [Validated.exists_eq_ok_iff root.validate_ne_error_nil, seenDiagnostics,
    List.flatMap_eq_nil_iff]
  constructor
  · intro clean part isPart
    rcases Tree.mem_parts_iff.mp isPart with isSeen | isHidden
    · exact clean part isSeen
    · exact root.offences_of_mem_hidden clean part isHidden
  · exact fun clean part isSeen => clean part (Tree.mem_parts_iff.mpr (.inl isSeen))

theorem Draft.exists_root?_of_validate {draft : Draft} {expr : Expr}
    (valid : draft.validate = .ok expr) : ∃ root, draft.root? = some root := by
  unfold validate at valid
  unfold root?
  split at valid
  · cases valid
  · cases valid
  · rename_i root found
    exact ⟨root, by rw [found]⟩

/-- A text is accepted exactly if it is read as a tree without a part that offends: an integer that
is too large, a string with a bad escape, an assignment to or a call of what is no name. It then
becomes the expression that stands for the tree node by node, and nothing else. -/
theorem accepts_exactly_clean (source : String) :
    ((∃ expr, (Draft.read source).validate = .ok expr) ↔
      ∃ root, (Draft.read source).root? = some root ∧ ∀ part ∈ root.parts, part.offences = []) ∧
    ∀ expr, (Draft.read source).validate = .ok expr ↔
      ∃ root, (Draft.read source).root? = some root ∧
        (∀ part ∈ root.parts, part.offences = []) ∧ root.Means expr := by
  have valid_iff (root : Tree) (expr : Expr) (read : (Draft.read source).root? = some root) :
      (Draft.read source).validate = .ok expr ↔ root.Means expr := by
    rw [Draft.validate_of_root? read]
    exact root.validate_eq_ok_iff expr fun part isSeen =>
      isSpelled_of_mem_parts read part (Tree.mem_parts_iff.mpr (.inl isSeen))
  have clean_iff (root : Tree) (read : (Draft.read source).root? = some root) :
      (∃ expr, (Draft.read source).validate = .ok expr) ↔
        ∀ part ∈ root.parts, part.offences = [] := by
    rw [Draft.validate_of_root? read]
    exact exists_validate_iff_of_root? read
  refine ⟨⟨?_, ?_⟩, fun expr => ⟨fun valid => ?_, ?_⟩⟩
  · rintro ⟨expr, valid⟩
    obtain ⟨root, read⟩ := Draft.exists_root?_of_validate valid
    exact ⟨root, read, (clean_iff root read).mp ⟨expr, valid⟩⟩
  · rintro ⟨root, read, clean⟩
    exact (clean_iff root read).mpr clean
  · obtain ⟨root, read⟩ := Draft.exists_root?_of_validate valid
    exact ⟨root, read, (clean_iff root read).mp ⟨expr, valid⟩, (valid_iff root expr read).mp valid⟩
  · rintro ⟨root, read, -, means⟩
    exact (valid_iff root expr read).mpr means

end Playscript
