/-
This file shows that the readers of expressions take exactly the phrases of the grammar, with the
trees that the grammar gives them.

One loop over operators serves all categories, so both directions are about what the loop is given.
A phrase is read as such if what follows binds no more tightly than the operators of its category,
for then the loop that reads it stops where it ends, and goes on with it as a left operand. The
other way round, the loop keeps a left operand of some category whose operators bind at least as
tightly as the operator that comes next.
-/

import Playscript.Proofs.Lexing
import Playscript.Proofs.Phrases

namespace Playscript

/-! ### Precedence -/

theorem Category.precedence_expression_le (category : Category) :
    expression.precedence ≤ category.precedence := by
  cases category <;> decide

/-- The precedence up to which an operator may follow a phrase. What follows an operator binds more
tightly; an assignment alone takes another assignment that follows as its own. -/
def Category.following (category : Category) : Nat :=
  if category = .expression then category.precedence - 1 else category.precedence

theorem LexemeKind.precedence_le (kind : LexemeKind) : kind.precedence ≤ 300 := by
  cases kind <;> decide

theorem LexemeKind.rightPrecedence_le (kind : LexemeKind) : kind.rightPrecedence ≤ 300 := by
  cases kind <;> decide

theorem LexemeKind.rightPrecedence_of_binaryOperator? {kind : LexemeKind}
    {operator : BinaryOperator} (written : kind.binaryOperator? = some operator) :
    kind.rightPrecedence = kind.precedence := by
  refine if_neg ?_
  rintro rfl
  cases written

theorem mem_unaryOperators_iff {kind : LexemeKind} {operator : UnaryOperator} :
    (kind, operator) ∈ unaryOperators ↔ kind.unaryOperator? = some operator := by
  cases kind <;> simp [unaryOperators, LexemeKind.unaryOperator?, eq_comm]

/-- Each operator between operands belongs to a category, assignment apart. -/
theorem exists_mem_operators {kind : LexemeKind} (isMark : 0 < kind.precedence)
    (notEqual : kind ≠ .equal) :
    ∃ (category : Category) (operator : BinaryOperator), (kind, operator) ∈ category.operators := by
  cases kind with
  | equal => exact absurd rfl notEqual
  | doubleBar => exact ⟨.disjunction, _, List.mem_cons_self⟩
  | doubleAnd => exact ⟨.conjunction, _, List.mem_cons_self⟩
  | doubleEqual => exact ⟨.equality, .equal, by decide⟩
  | bangEqual => exact ⟨.equality, .notEqual, by decide⟩
  | less => exact ⟨.comparison, .less, by decide⟩
  | lessEqual => exact ⟨.comparison, .lessEqual, by decide⟩
  | greater => exact ⟨.comparison, .greater, by decide⟩
  | greaterEqual => exact ⟨.comparison, .greaterEqual, by decide⟩
  | plus => exact ⟨.term, .add, by decide⟩
  | minus => exact ⟨.term, .subtract, by decide⟩
  | star => exact ⟨.factor, .multiply, by decide⟩
  | slash => exact ⟨.factor, .divide, by decide⟩
  | percent => exact ⟨.factor, .modulo, by decide⟩
  | _ => exact absurd isMark (Nat.lt_irrefl 0)

namespace Category

theorem following_of_ne {category : Category} (other : category ≠ .expression) :
    category.following = category.precedence := if_neg other

theorem following_of_mem_operators {category : Category} {mark : LexemeKind × BinaryOperator}
    (isMark : mark ∈ category.operators) : category.following = category.precedence := by
  refine following_of_ne ?_
  rintro rfl
  cases isMark

theorem precedence_lt_unary {category : Category} {mark : LexemeKind × BinaryOperator}
    (isMark : mark ∈ category.operators) : category.precedence < unary.precedence := by
  cases category <;> first | decide | cases isMark

theorem precedence_disjunction_le {category : Category}
    (le : LexemeKind.equal.precedence ≤ category.following) :
    disjunction.precedence ≤ category.precedence := by
  revert le
  cases category <;> decide

theorem following_le_tighter (category : Category) :
    category.following ≤ category.tighter.following := by
  cases category <;> decide

theorem le_following {category : Category} {minimum : Nat} (lt : minimum < category.precedence) :
    minimum ≤ category.following := by
  unfold following
  split <;> omega

theorem following_le (category : Category) : category.following ≤ category.precedence := by
  cases category <;> decide

end Category

theorem Tree.join_of_equal {kind : LexemeKind} {left right : Tree} (isEqual : kind = .equal) :
    Tree.join kind left right = .assign left.column left right := by
  rw [isEqual]
  rfl

theorem Tree.join_of_binaryOperator? {kind : LexemeKind} {operator : BinaryOperator}
    {left right : Tree} (written : kind.binaryOperator? = some operator) :
    Tree.join kind left right = .binary left.column operator left right := by
  rw [Tree.join, written]

/-- An operator joins what binds at least as tightly. -/
theorem exists_phrase_join {levels : Nat} {category tighter : Category} {first second : List Lexeme}
    {mark : Lexeme} {left right : Tree} (isMark : 0 < mark.kind.precedence)
    (derived : Phrase (levels + 1) category first left)
    (le : mark.kind.precedence ≤ category.following)
    (above : mark.kind.rightPrecedence < tighter.precedence)
    (operand : Phrase levels tighter second right) :
    ∃ wide : Category, wide.precedence = mark.kind.precedence ∧
      wide.following = mark.kind.rightPrecedence ∧
      Phrase (levels + 1) wide (first ++ mark :: second) (.join mark.kind left right) := by
  by_cases equal : mark.kind = .equal
  · rw [equal] at le ⊢
    have target := derived.widen (Category.precedence_disjunction_le le)
    have value := operand.widen tighter.precedence_expression_le
    exact ⟨.expression, rfl, rfl, .assignment target equal value⟩
  · obtain ⟨wide, operator, member⟩ := exists_mem_operators isMark equal
    obtain ⟨written, same⟩ := Category.mem_operators_iff.mp member
    have right_eq : mark.kind.rightPrecedence = wide.precedence :=
      (LexemeKind.rightPrecedence_of_binaryOperator? written).trans same
    rw [right_eq] at above
    have first' := derived.widen (same ▸ Nat.le_trans le category.following_le)
    have second' := operand.widen (Category.precedence_tighter_le above)
    rw [Tree.join_of_binaryOperator? written, right_eq]
    exact ⟨wide, same.symm, Category.following_of_mem_operators member,
      .operation first' member second'⟩

namespace Grammar

/-! ### What the readers read -/

theorem next_cons (first : Lexeme) (others : List Lexeme) : next (first :: others) = first := rfl

/-- An outcome is that something was read and some lexemes are left. -/
def Reads {bound : Nat} {Result : Type} (outcome : Except Issue (Taken bound Result))
    (result : Result) (rest : List Lexeme) : Prop :=
  ∃ fewer, outcome = .ok ⟨result, rest, fewer⟩

theorem not_reads_error {bound : Nat} {Result : Type} {issue : Issue} {result : Result}
    {rest : List Lexeme} :
    ¬ Reads (.error issue : Except Issue (Taken bound Result)) result rest := by
  rintro ⟨_, same⟩
  cases same

theorem reads_ok_iff {bound : Nat} {Result : Type} {taken : Taken bound Result} {result : Result}
    {rest : List Lexeme} :
    Reads (.ok taken) result rest ↔ result = taken.result ∧ rest = taken.rest := by
  constructor
  · rintro ⟨_, same⟩
    cases same
    exact ⟨rfl, rfl⟩
  · rintro ⟨rfl, rfl⟩
    exact ⟨taken.fewer, rfl⟩

variable {inner : Inner} {minimum : Nat} {lexemes rest : List Lexeme} {tree callee left : Tree}

theorem reads_postfixed_iff :
    Reads (postfixed inner lexemes) tree rest ↔
      ∃ callee after, Reads (primary inner lexemes) callee after ∧
        Reads (calls inner callee after) tree rest := by
  unfold postfixed
  cases first : primary inner lexemes with
  | error issue => simp [not_reads_error]
  | ok taken =>
    cases second : calls inner taken.result taken.rest with
    | error issue => simp [not_reads_error, reads_ok_iff, second]
    | ok further => simp [reads_ok_iff, second]

theorem reads_binary_iff :
    Reads (binary inner minimum lexemes) tree rest ↔
      ∃ left after, Reads (unary inner lexemes) left after ∧
        Reads (operations inner minimum left after) tree rest := by
  unfold binary
  cases first : unary inner lexemes with
  | error issue => simp [not_reads_error]
  | ok taken =>
    cases second : operations inner minimum taken.result taken.rest with
    | error issue => simp [not_reads_error, reads_ok_iff, second]
    | ok further => simp [reads_ok_iff, second]

theorem reads_operations_stop (le : (next lexemes).kind.precedence ≤ minimum) :
    Reads (operations inner minimum left lexemes) tree rest ↔ tree = left ∧ rest = lexemes := by
  unfold operations
  cases lexemes with
  | nil => simp [reads_ok_iff]
  | cons lexeme after =>
    simp only [next, List.headD_cons] at le
    simp [le, reads_ok_iff]

theorem reads_operations_cons {mark : Lexeme} {after : List Lexeme}
    (lt : minimum < mark.kind.precedence) :
    Reads (operations inner minimum left (mark :: after)) tree rest ↔
      ∃ right further, Reads (inner.expression mark.kind.rightPrecedence after) right further ∧
        Reads (operations inner minimum (.join mark.kind left right) further) tree rest := by
  rw [operations]
  simp only [if_neg (Nat.not_le.mpr lt)]
  cases first : inner.expression mark.kind.rightPrecedence after with
  | error issue => simp [not_reads_error]
  | ok taken =>
    cases second : operations inner minimum (.join mark.kind left taken.result) taken.rest with
    | error issue => simp [not_reads_error, reads_ok_iff, second]
    | ok further => simp [reads_ok_iff, second]

theorem reads_calls_stop (other : (next lexemes).kind ≠ .leftParen) :
    Reads (calls inner callee lexemes) tree rest ↔ tree = callee ∧ rest = lexemes := by
  unfold calls
  cases lexemes with
  | nil => simp [reads_ok_iff]
  | cons lexeme after =>
    simp only [next, List.headD_cons] at other
    simp [other, reads_ok_iff]

theorem reads_calls_cons {opening : Lexeme} {after : List Lexeme}
    (opens : opening.kind = .leftParen) :
    Reads (calls inner callee (opening :: after)) tree rest ↔
      ∃ arguments further,
        Reads (items inner .rightParen .commaOrClosingParen after) arguments further ∧
        Reads (calls inner (.call callee.column callee arguments) further) tree rest := by
  rw [calls]
  simp only [if_pos opens]
  cases first : items inner .rightParen .commaOrClosingParen after with
  | error issue => simp [not_reads_error]
  | ok taken =>
    cases second : calls inner (.call callee.column callee taken.result) taken.rest with
    | error issue => simp [not_reads_error, reads_ok_iff, second]
    | ok further => simp [reads_ok_iff, second]

theorem reads_unary_other (other : (next lexemes).kind.unaryOperator? = none) :
    Reads (unary inner lexemes) tree rest ↔ Reads (postfixed inner lexemes) tree rest := by
  unfold unary
  cases lexemes with
  | nil => rfl
  | cons lexeme after =>
    simp only [next, List.headD_cons] at other
    simp only [other]

theorem reads_unary_cons {lexeme : Lexeme} {after : List Lexeme} {operator : UnaryOperator}
    (written : lexeme.kind.unaryOperator? = some operator) :
    Reads (unary inner (lexeme :: after)) tree rest ↔
      ∃ operand, Reads (inner.operand after) operand rest ∧
        tree = .unary lexeme.column operator operand := by
  unfold unary
  simp only [written]
  cases first : inner.operand after with
  | error issue => simp [not_reads_error]
  | ok taken => simp [reads_ok_iff, and_comm]

theorem reads_items_closed {closing : LexemeKind} {expectation : Expectation} {mark : Lexeme}
    {after : List Lexeme} {trees : List Tree} (closes : mark.kind = closing) :
    Reads (items inner closing expectation (mark :: after)) trees rest ↔
      trees = [] ∧ rest = after := by
  have closed : mark :: after ≠ [] ∧ (next (mark :: after)).kind = closing :=
    ⟨List.cons_ne_nil _ _, closes⟩
  rw [items]
  simp [closed, reads_ok_iff]

theorem reads_items_open {closing : LexemeKind} {expectation : Expectation} {trees : List Tree}
    (notClosed : ¬ (lexemes ≠ [] ∧ (next lexemes).kind = closing)) :
    Reads (items inner closing expectation lexemes) trees rest ↔
      ∃ item mark after, Reads (inner.expression 0 lexemes) item (mark :: after) ∧
        ((mark.kind = .comma ∧ ∃ others,
            Reads (items inner closing expectation after) others rest ∧ trees = item :: others) ∨
          (mark.kind ≠ .comma ∧ mark.kind = closing ∧ trees = [item] ∧ rest = after)) := by
  rw [items]
  simp only [dif_neg notClosed]
  rcases first : inner.expression 0 lexemes with issue | ⟨item, _ | ⟨mark, after⟩, fewer⟩
  · simp [not_reads_error]
  · simp [not_reads_error, reads_ok_iff]
  · by_cases comma : mark.kind = .comma
    · cases second : items inner closing expectation after with
      | error issue => simp [comma, not_reads_error, reads_ok_iff, second]
      | ok further => simp [comma, reads_ok_iff, second, and_comm]
    · by_cases closes : mark.kind = closing
      · subst closes
        simp [comma, reads_ok_iff]
      · simp [comma, closes, not_reads_error, reads_ok_iff]

theorem reads_primary_leaf {mark : Lexeme} {after : List Lexeme} {leaf : Tree}
    (stands : mark.leaf? = some leaf) :
    Reads (primary inner (mark :: after)) tree rest ↔ tree = leaf ∧ rest = after := by
  unfold Lexeme.leaf? at stands
  unfold primary
  cases kind : mark.kind <;> simp only [kind, reduceCtorEq, Option.some.injEq] at stands
  all_goals simp [kind, stands, reads_ok_iff]

theorem reads_primary_list {mark : Lexeme} {after : List Lexeme}
    (opens : mark.kind = .leftBracket) :
    Reads (primary inner (mark :: after)) tree rest ↔
      ∃ elements, Reads (items inner .rightBracket .commaOrClosingBracket after) elements rest ∧
        tree = .list mark.column elements := by
  simp only [primary, opens]
  cases first : items inner .rightBracket .commaOrClosingBracket after with
  | error issue => simp [not_reads_error]
  | ok taken => simp [reads_ok_iff, and_comm]

theorem reads_primary_parenthesized {mark : Lexeme} {after : List Lexeme}
    (opens : mark.kind = .leftParen) :
    Reads (primary inner (mark :: after)) tree rest ↔
      ∃ closing, Reads (inner.expression 0 after) tree (closing :: rest) ∧
        closing.kind = .rightParen := by
  simp only [primary, opens]
  rcases first : inner.expression 0 after with issue | ⟨inside, _ | ⟨closing, others⟩, fewer⟩
  · simp [not_reads_error]
  · simp [not_reads_error, reads_ok_iff]
  · by_cases closes : closing.kind = .rightParen
    · simp [closes, reads_ok_iff]
    · simp [closes, not_reads_error, reads_ok_iff]

/-- Nothing else is read as a primary expression. -/
theorem exists_of_reads_primary (reads : Reads (primary inner lexemes) tree rest) :
    ∃ mark after, lexemes = mark :: after ∧
      ((∃ leaf, mark.leaf? = some leaf) ∨ mark.kind = .leftBracket ∨ mark.kind = .leftParen) := by
  cases lexemes with
  | nil => exact absurd reads not_reads_error
  | cons mark after =>
    refine ⟨mark, after, rfl, ?_⟩
    unfold primary at reads
    unfold Lexeme.leaf?
    cases kind : mark.kind <;> simp [kind, not_reads_error] at reads ⊢

/-! ### What is read is a phrase -/

/-- What is read one level deeper is a phrase over so many levels, and no operator that it leaves to
its surroundings is taken. -/
structure Inner.Sound (inner : Inner) (levels : Nat) : Prop where
  expression {minimum : Nat} {lexemes rest : List Lexeme} {tree : Tree} (le : minimum ≤ 300)
    (reads : Reads (inner.expression minimum lexemes) tree rest) :
    ∃ category phrase, lexemes = phrase ++ rest ∧ minimum < category.precedence ∧
      (next rest).kind.precedence ≤ minimum ∧ Phrase levels category phrase tree
  operand {lexemes rest : List Lexeme} {tree : Tree}
    (reads : Reads (inner.operand lexemes) tree rest) :
    ∃ phrase, lexemes = phrase ++ rest ∧ Phrase levels .unary phrase tree

theorem Reads.fewer {bound : Nat} {Result : Type} {outcome : Except Issue (Taken bound Result)}
    {result : Result} {rest : List Lexeme} (reads : Reads outcome result rest) :
    rest.length < bound :=
  reads.1

theorem ne_nil_of_next (more : (next lexemes).kind ≠ .finish) : lexemes ≠ [] := by
  rintro rfl
  exact more rfl

section Sound

variable {levels : Nat} (sound : inner.Sound levels)

include sound

theorem Inner.Sound.whole (reads : Reads (inner.expression 0 lexemes) tree rest) :
    ∃ phrase, lexemes = phrase ++ rest ∧ (next rest).kind.precedence = 0 ∧
      Phrase levels .expression phrase tree := by
  obtain ⟨category, phrase, same, _, loose, derived⟩ := sound.expression (Nat.zero_le _) reads
  exact ⟨phrase, same, Nat.le_zero.mp loose, derived.widen category.precedence_expression_le⟩

theorem items_sound {closing : LexemeKind} {expectation : Expectation}
    {lexemes rest : List Lexeme} {trees : List Tree}
    (reads : Reads (items inner closing expectation lexemes) trees rest) :
    ∃ (parts : List (List Lexeme × Tree)) (phrase : List Lexeme) (mark : Lexeme),
      lexemes = phrase ++ mark :: rest ∧ mark.kind = closing ∧ trees = parts.map Prod.snd ∧
      (∀ part ∈ parts, Phrase levels .expression part.1 part.2) ∧
      Separated .comma (parts.map Prod.fst) phrase := by
  by_cases closed : lexemes ≠ [] ∧ (next lexemes).kind = closing
  · obtain ⟨notEmpty, closes⟩ := closed
    obtain ⟨mark, after, rfl⟩ := List.exists_cons_of_ne_nil notEmpty
    obtain ⟨rfl, rfl⟩ := (reads_items_closed closes).mp reads
    exact ⟨[], [], mark, rfl, closes, rfl, List.forall_mem_nil _, .none⟩
  · obtain ⟨item, mark, after, first, others⟩ := (reads_items_open closed).mp reads
    have fewer := first.fewer
    obtain ⟨phrase, same, _, derived⟩ := sound.whole first
    rcases others with ⟨comma, trees, others, rfl⟩ | ⟨_, closes, rfl, rfl⟩
    · obtain ⟨parts, phrases, last, rfl, closes, rfl, each, separated⟩ := items_sound others
      refine ⟨(phrase, item) :: parts, phrase ++ mark :: phrases, last, ?_, closes, rfl, ?_,
        .more phrase comma separated⟩
      · rw [same, List.append_assoc, List.cons_append]
      · exact List.forall_mem_cons.mpr ⟨derived, each⟩
    · exact ⟨[(phrase, item)], phrase, mark, same, closes, rfl,
        List.forall_mem_singleton.mpr derived, .last phrase⟩
termination_by lexemes.length
decreasing_by simp only [List.length_cons] at fewer; omega

theorem primary_sound (reads : Reads (primary inner lexemes) tree rest) :
    ∃ phrase, lexemes = phrase ++ rest ∧ Phrase (levels + 1) .primary phrase tree := by
  obtain ⟨mark, after, rfl, ⟨leaf, stands⟩ | opens | opens⟩ := exists_of_reads_primary reads
  · obtain ⟨rfl, rfl⟩ := (reads_primary_leaf stands).mp reads
    exact ⟨[mark], rfl, .leaf stands⟩
  · obtain ⟨elements, inside, rfl⟩ := (reads_primary_list opens).mp reads
    obtain ⟨parts, phrase, closing, rfl, closes, rfl, each, separated⟩ := items_sound sound inside
    refine ⟨mark :: (phrase ++ [closing]), ?_, .list opens each separated closes⟩
    rw [List.cons_append, List.append_assoc, List.singleton_append]
  · obtain ⟨closing, inside, closes⟩ := (reads_primary_parenthesized opens).mp reads
    obtain ⟨phrase, rfl, _, derived⟩ := sound.whole inside
    refine ⟨mark :: (phrase ++ [closing]), ?_, .parenthesized opens derived closes⟩
    rw [List.cons_append, List.append_assoc, List.singleton_append]

theorem calls_sound {phrase lexemes rest : List Lexeme} {callee tree : Tree}
    (derived : Phrase (levels + 1) .application phrase callee)
    (reads : Reads (calls inner callee lexemes) tree rest) :
    ∃ further, lexemes = further ++ rest ∧
      Phrase (levels + 1) .application (phrase ++ further) tree := by
  by_cases opens : (next lexemes).kind = .leftParen
  · have notEmpty : lexemes ≠ [] := ne_nil_of_next (by rw [opens]; decide)
    obtain ⟨opening, after, shape⟩ := List.exists_cons_of_ne_nil notEmpty
    rw [shape] at reads opens
    change opening.kind = .leftParen at opens
    obtain ⟨arguments, left, inside, others⟩ := (reads_calls_cons opens).mp reads
    have shorter : left.length < lexemes.length := shape ▸ Nat.lt_succ_of_lt inside.fewer
    obtain ⟨parts, items, closing, rfl, closes, rfl, each, separated⟩ := items_sound sound inside
    obtain ⟨further, same, whole⟩ :=
      calls_sound (.call derived opens each separated closes) others
    refine ⟨opening :: (items ++ closing :: further), ?_, ?_⟩
    · rw [shape, same, List.cons_append, List.append_assoc, List.cons_append]
    · simpa using whole
  · obtain ⟨rfl, rfl⟩ := (reads_calls_stop opens).mp reads
    refine ⟨[], rfl, ?_⟩
    rw [List.append_nil]
    exact derived
termination_by lexemes.length

theorem unary_sound (reads : Reads (unary inner lexemes) tree rest) :
    ∃ phrase, lexemes = phrase ++ rest ∧ Phrase (levels + 1) .unary phrase tree := by
  rcases written : (next lexemes).kind.unaryOperator? with _ | operator
  · obtain ⟨callee, after, first, others⟩ :=
      reads_postfixed_iff.mp ((reads_unary_other written).mp reads)
    obtain ⟨phrase, rfl, derived⟩ := primary_sound sound first
    obtain ⟨further, rfl, whole⟩ := calls_sound sound (.wider derived) others
    exact ⟨phrase ++ further, (List.append_assoc ..).symm, .wider whole⟩
  · cases lexemes with
    | nil => cases written
    | cons mark after =>
      obtain ⟨operand, inside, rfl⟩ := (reads_unary_cons written).mp reads
      obtain ⟨phrase, rfl, derived⟩ := sound.operand inside
      exact ⟨mark :: phrase, rfl, .prefixed (mem_unaryOperators_iff.mpr written) derived⟩

/-- The left operand is a phrase of some category. What comes next does not bind more tightly than
the operators of this category, so that all of it is one operand of the next operator. -/
theorem operations_sound {minimum : Nat} {category : Category} {phrase lexemes rest : List Lexeme}
    {left tree : Tree} (derived : Phrase (levels + 1) category phrase left)
    (lt : minimum < category.precedence)
    (next_le : (next lexemes).kind.precedence ≤ category.following)
    (reads : Reads (operations inner minimum left lexemes) tree rest) :
    ∃ wide further, lexemes = further ++ rest ∧ minimum < wide.precedence ∧
      (next rest).kind.precedence ≤ minimum ∧
      Phrase (levels + 1) wide (phrase ++ further) tree := by
  by_cases stop : (next lexemes).kind.precedence ≤ minimum
  · obtain ⟨rfl, rfl⟩ := (reads_operations_stop stop).mp reads
    refine ⟨category, [], rfl, lt, stop, ?_⟩
    rw [List.append_nil]
    exact derived
  · have tight : minimum < (next lexemes).kind.precedence := Nat.lt_of_not_le stop
    have notEmpty : lexemes ≠ [] := ne_nil_of_next fun finish => by
      rw [finish] at tight
      exact absurd tight (Nat.not_lt_zero _)
    obtain ⟨mark, after, shape⟩ := List.exists_cons_of_ne_nil notEmpty
    rw [shape] at reads next_le tight
    obtain ⟨right, left', inside, others⟩ := (reads_operations_cons tight).mp reads
    have shorter : left'.length < lexemes.length := shape ▸ Nat.lt_succ_of_lt inside.fewer
    obtain ⟨tighter, second, rfl, above, loose, operand⟩ :=
      sound.expression mark.kind.rightPrecedence_le inside
    obtain ⟨wide, precedence_eq, following_eq, joined⟩ :=
      exists_phrase_join (Nat.zero_lt_of_lt tight) derived next_le above operand
    obtain ⟨outer, further, same, lt', stop', whole⟩ :=
      operations_sound joined (precedence_eq ▸ tight) (following_eq ▸ loose) others
    refine ⟨outer, mark :: (second ++ further), ?_, lt', stop', ?_⟩
    · rw [shape, same, List.cons_append, List.append_assoc]
    · rwa [List.append_assoc] at whole
termination_by lexemes.length

theorem binary_sound (le : minimum ≤ 300) (reads : Reads (binary inner minimum lexemes) tree rest) :
    ∃ category phrase, lexemes = phrase ++ rest ∧ minimum < category.precedence ∧
      (next rest).kind.precedence ≤ minimum ∧ Phrase (levels + 1) category phrase tree := by
  obtain ⟨left, after, first, others⟩ := reads_binary_iff.mp reads
  obtain ⟨phrase, rfl, derived⟩ := unary_sound sound first
  have tight : minimum < Category.unary.precedence := Nat.lt_succ_of_le le
  have next_le : (next after).kind.precedence ≤ Category.unary.following :=
    Nat.le_succ_of_le (LexemeKind.precedence_le _)
  obtain ⟨category, further, rfl, lt, stop, whole⟩ :=
    operations_sound sound derived tight next_le others
  exact ⟨category, phrase ++ further, (List.append_assoc ..).symm, lt, stop, whole⟩

end Sound

/-- What is read at any level is a phrase over the levels from there on. -/
theorem sound_levels (count : Nat) : (levels count).Sound count := by
  induction count with
  | zero =>
    exact ⟨fun _ reads => absurd reads not_reads_error, fun reads => absurd reads not_reads_error⟩
  | succ count inductionHypothesis =>
    exact ⟨fun le reads => binary_sound inductionHypothesis le reads,
      fun reads => unary_sound inductionHypothesis reads⟩

/-! ### Phrases are read -/

/-- A phrase is taken as the left operand of what follows it, if no arguments follow, and no
operators that bind more tightly than those of its category. -/
def TakesOperand (inner : Inner) (category : Category) (phrase : List Lexeme)
    (tree : Tree) : Prop :=
  ∀ minimum rest whole left, minimum < category.precedence → (next rest).kind ≠ .leftParen →
    (next rest).kind.precedence ≤ category.following →
    Reads (operations inner minimum tree rest) whole left →
    Reads (binary inner minimum (phrase ++ rest)) whole left

/-- The reader for a category takes a phrase as such. -/
def Takes (inner : Inner) (category : Category) (phrase : List Lexeme) (tree : Tree) : Prop :=
  match category with
  | .primary => ∀ rest, Reads (primary inner (phrase ++ rest)) tree rest
  | .application => ∀ rest whole left, Reads (calls inner tree rest) whole left →
      Reads (postfixed inner (phrase ++ rest)) whole left
  | .unary => ∀ rest, (next rest).kind ≠ .leftParen →
      Reads (unary inner (phrase ++ rest)) tree rest
  | wide => TakesOperand inner wide phrase tree

section Takes

variable {category : Category} {phrase : List Lexeme}

theorem takes_iff_takesOperand (lt : category.precedence < Category.unary.precedence) :
    Takes inner category phrase tree ↔ TakesOperand inner category phrase tree := by
  cases category <;> first | rfl | exact absurd lt (by decide)

theorem Takes.operand (takes : Takes inner category phrase tree)
    (le : category.precedence ≤ Category.unary.precedence) :
    TakesOperand inner category phrase tree := by
  rcases Nat.eq_or_lt_of_le le with same | lt
  · obtain rfl := Category.precedence_injective same
    intro minimum rest whole left _ notParen _ others
    exact reads_binary_iff.mpr ⟨tree, rest, takes rest notParen, others⟩
  · exact (takes_iff_takesOperand lt).mp takes

/-- What a call begins with is no operator. -/
theorem unaryOperator?_of_reads_postfixed (reads : Reads (postfixed inner lexemes) tree rest) :
    (next lexemes).kind.unaryOperator? = none := by
  obtain ⟨callee, after, first, _⟩ := reads_postfixed_iff.mp reads
  obtain ⟨mark, others, rfl, ⟨leaf, stands⟩ | opens | opens⟩ := exists_of_reads_primary first
  · show mark.kind.unaryOperator? = none
    unfold Lexeme.leaf? at stands
    cases kind : mark.kind <;> simp [kind] at stands <;> rfl
  · show mark.kind.unaryOperator? = none
    rw [opens]
    rfl
  · show mark.kind.unaryOperator? = none
    rw [opens]
    rfl

theorem Takes.wider (takes : Takes inner category.tighter phrase tree) :
    Takes inner category phrase tree := by
  have operand (lt : category.precedence < Category.unary.precedence) :
      Takes inner category phrase tree := by
    have closer := Category.precedence_lt_tighter lt
    refine (takes_iff_takesOperand lt).mpr
      fun minimum rest whole left small notParen le others => ?_
    exact takes.operand (Category.precedence_tighter_le lt) minimum rest whole left
      (Nat.lt_trans small closer) notParen (Nat.le_trans le category.following_le_tighter) others
  cases category with
  | primary => exact takes
  | application =>
    intro rest whole left others
    exact reads_postfixed_iff.mpr ⟨tree, rest, takes rest, others⟩
  | unary =>
    intro rest notParen
    have whole : Reads (postfixed inner (phrase ++ rest)) tree rest :=
      takes rest tree rest ((reads_calls_stop notParen).mpr ⟨rfl, rfl⟩)
    exact (reads_unary_other (unaryOperator?_of_reads_postfixed whole)).mpr whole
  | _ => exact operand (by decide)

/-- The readers for so many levels, at least one, take a phrase. -/
def TakesAt (count : Nat) (category : Category) (phrase : List Lexeme) (tree : Tree) : Prop :=
  ∃ fewer, count = fewer + 1 ∧ Takes (levels fewer) category phrase tree

theorem takesAt_succ_iff {count : Nat} :
    TakesAt (count + 1) category phrase tree ↔ Takes (levels count) category phrase tree := by
  constructor
  · rintro ⟨fewer, same, takes⟩
    rw [Nat.succ.inj same]
    exact takes
  · exact fun takes => ⟨count, rfl, takes⟩

theorem TakesAt.reads_expression {count : Nat} (takes : TakesAt count category phrase tree)
    (le : category.precedence ≤ Category.unary.precedence) (lt : minimum < category.precedence)
    (notParen : (next rest).kind ≠ .leftParen) (stop : (next rest).kind.precedence ≤ minimum) :
    Reads ((levels count).expression minimum (phrase ++ rest)) tree rest := by
  obtain ⟨fewer, rfl, takes⟩ := takes
  exact takes.operand le minimum rest tree rest lt notParen
    (Nat.le_trans stop (Category.le_following lt)) ((reads_operations_stop stop).mpr ⟨rfl, rfl⟩)

/-- An operator is taken with the operands on both sides. -/
theorem TakesOperand.join {count : Nat} {wide tighter : Category} {second : List Lexeme}
    {mark : Lexeme} {right : Tree}
    (first : TakesOperand (levels count) category phrase left)
    (precedence_eq : wide.precedence = mark.kind.precedence)
    (following_eq : wide.following = mark.kind.rightPrecedence)
    (notTighter : wide.precedence ≤ category.following)
    (value : TakesAt count tighter second right)
    (above : mark.kind.rightPrecedence < tighter.precedence)
    (le : tighter.precedence ≤ Category.unary.precedence) :
    TakesOperand (levels count) wide (phrase ++ mark :: second) (.join mark.kind left right) := by
  intro minimum rest whole other lt notParen stop others
  rw [List.append_assoc, List.cons_append]
  have tight : minimum < mark.kind.precedence := precedence_eq ▸ lt
  have markNotParen : mark.kind ≠ .leftParen := by
    intro isParen
    rw [isParen] at tight
    exact absurd tight (Nat.not_lt_zero _)
  have small := Nat.lt_of_lt_of_le lt (Nat.le_trans notTighter category.following_le)
  refine first minimum _ whole other small
    markNotParen (precedence_eq ▸ notTighter) ((reads_operations_cons tight).mpr ?_)
  exact ⟨right, rest, value.reads_expression le above notParen (following_eq ▸ stop), others⟩

/-- Items are taken with the commas between them and the bracket after them. -/
theorem reads_items {count : Nat} {parts : List (List Lexeme × Tree)} {closing : LexemeKind}
    {expectation : Expectation} {mark : Lexeme}
    (bracket : closing = .rightParen ∨ closing = .rightBracket)
    (each : ∀ part ∈ parts, Phrase count .expression part.1 part.2)
    (takes : ∀ part ∈ parts, TakesAt count .expression part.1 part.2)
    (separated : Separated .comma (parts.map Prod.fst) phrase) (closes : mark.kind = closing) :
    Reads (items (levels count) closing expectation (phrase ++ mark :: rest))
      (parts.map Prod.snd) rest := by
  induction parts generalizing phrase with
  | nil =>
    obtain rfl := separated.eq_nil
    exact (reads_items_closed closes).mpr ⟨rfl, rfl⟩
  | cons part others inductionHypothesis =>
    obtain ⟨phraseOf, eachOther⟩ := List.forall_mem_cons.mp each
    obtain ⟨takesPart, takesOther⟩ := List.forall_mem_cons.mp takes
    obtain ⟨first, following, same, begins⟩ := phraseOf.begins
    have notClosed (after : List Lexeme) :
        ¬ (part.1 ++ after ≠ [] ∧ (next (part.1 ++ after)).kind = closing) := by
      rintro ⟨_, isClosing⟩
      rw [same] at isClosing
      change first.kind = closing at isClosing
      rw [isClosing] at begins
      rcases bracket with rfl | rfl <;> cases begins
    have reads {separator : Lexeme} {after : List Lexeme}
        (isSeparator : separator.kind = .comma ∨ separator.kind = closing) :
        Reads ((levels count).expression 0 (part.1 ++ separator :: after)) part.2
          (separator :: after) := by
      refine takesPart.reads_expression (by decide) (by decide) ?_ ?_
      · show separator.kind ≠ .leftParen
        rcases isSeparator with isComma | isClosing
        · rw [isComma]; decide
        · rw [isClosing]; rcases bracket with rfl | rfl <;> decide
      · show separator.kind.precedence ≤ 0
        rcases isSeparator with isComma | isClosing
        · rw [isComma]; decide
        · rw [isClosing]; rcases bracket with rfl | rfl <;> decide
    rcases separated.cons_inv with ⟨nothing, rfl⟩ | ⟨separator, further, isComma, rfl, remaining⟩
    · obtain rfl := List.map_eq_nil_iff.mp nothing
      refine (reads_items_open (notClosed _)).mpr
        ⟨part.2, mark, rest, reads (.inr closes), .inr ⟨?_, closes, rfl, rfl⟩⟩
      rw [closes]
      rcases bracket with rfl | rfl <;> decide
    · rw [List.append_assoc, List.cons_append]
      exact (reads_items_open (notClosed _)).mpr ⟨part.2, separator, _, reads (.inl isComma),
        .inl ⟨isComma, _, inductionHypothesis eachOther takesOther remaining, rfl⟩⟩

/-- All phrases are taken, whatever they are made up of. -/
theorem takes_of_phrase {count : Nat} (derived : Phrase count category phrase tree) :
    TakesAt count category phrase tree := by
  induction derived with
  | wider _ inductionHypothesis =>
    obtain ⟨fewer, rfl, takes⟩ := inductionHypothesis
    exact ⟨fewer, rfl, takes.wider⟩
  | @assignment count _ _ mark targetTree valueTree _ isMark _ first value =>
    have takes := takesAt_succ_iff.mp first
    rw [← Tree.join_of_equal isMark]
    refine takesAt_succ_iff.mpr (TakesOperand.join (takes.operand (by decide)) ?_ ?_ ?_ value ?_ ?_)
    · rw [isMark]
      rfl
    · rw [isMark]
      rfl
    · decide
    · rw [isMark]
      decide
    · decide
  | @operation count category _ _ mark operator firstTree secondTree _ isMark _ first value =>
    have takes := takesAt_succ_iff.mp first
    obtain ⟨written, same⟩ := Category.mem_operators_iff.mp isMark
    have following_eq := Category.following_of_mem_operators isMark
    have right_eq := LexemeKind.rightPrecedence_of_binaryOperator? written
    have lt := Category.precedence_lt_unary isMark
    rw [← Tree.join_of_binaryOperator? written]
    refine takesAt_succ_iff.mpr ((takes_iff_takesOperand lt).mpr
      (TakesOperand.join ((takes_iff_takesOperand lt).mp takes) ?_ ?_ ?_ value ?_ ?_))
    · exact same.symm
    · rw [following_eq, right_eq, same]
    · exact Nat.le_of_eq following_eq.symm
    · rw [right_eq, same]
      exact Category.precedence_lt_tighter lt
    · exact Category.precedence_tighter_le lt
  | @prefixed count _ mark _ _ isMark _ operand =>
    refine takesAt_succ_iff.mpr fun rest notParen => ?_
    have written := mem_unaryOperators_iff.mp isMark
    obtain ⟨_, rfl, takes⟩ := operand
    exact (reads_unary_cons written).mpr ⟨_, takes rest notParen, rfl⟩
  | @call count _ _ _ _ _ _ _ opens each separated closes callee arguments =>
    have takes := takesAt_succ_iff.mp callee
    refine takesAt_succ_iff.mpr fun rest whole left others => ?_
    rw [List.append_assoc, List.cons_append, List.append_assoc, List.singleton_append]
    exact takes _ _ _ ((reads_calls_cons opens).mpr
      ⟨_, rest, reads_items (.inl rfl) each arguments separated closes, others⟩)
  | @leaf count _ _ stands =>
    exact takesAt_succ_iff.mpr fun rest => (reads_primary_leaf stands).mpr ⟨rfl, rfl⟩
  | @list count _ _ _ _ opens each separated closes elements =>
    refine takesAt_succ_iff.mpr fun rest => ?_
    rw [List.cons_append, List.append_assoc, List.singleton_append]
    exact (reads_primary_list opens).mpr
      ⟨_, reads_items (.inr rfl) each elements separated closes, rfl⟩
  | @parenthesized count _ _ closing _ opens _ closes inside =>
    refine takesAt_succ_iff.mpr fun rest => ?_
    rw [List.cons_append, List.append_assoc, List.singleton_append]
    refine (reads_primary_parenthesized opens).mpr
      ⟨closing, inside.reads_expression (by decide) (by decide) ?_ ?_, closes⟩
    · show closing.kind ≠ .leftParen
      rw [closes]; decide
    · show closing.kind.precedence ≤ 0
      rw [closes]; decide

end Takes

/-! ### Whole texts -/

section Whole

variable {body : List Lexeme} {finish : Lexeme} {trees : List Tree}

/-- The end of the text is not taken for part of an expression. -/
theorem exists_rest_of_reads_expression (isFinish : finish.kind = .finish)
    (reads : Reads (expression (body ++ [finish])) tree rest) :
    ∃ phrase others, body = phrase ++ others ∧ rest = others ++ [finish] ∧
      Phrase nestingLimit .expression phrase tree := by
  obtain ⟨phrase, same, _, derived⟩ := (sound_levels nestingLimit).whole reads
  rcases List.append_eq_append_iff.mp same with
    ⟨further, phraseEq, finishEq⟩ | ⟨others, bodyEq, restEq⟩
  · rcases further with _ | ⟨last, further⟩
    · exact ⟨phrase, [], by simpa using phraseEq.symm, finishEq.symm, derived⟩
    · obtain rfl := (List.cons.inj finishEq).1
      have member : finish ∈ phrase := phraseEq ▸ List.mem_append_right body List.mem_cons_self
      exact absurd isFinish (derived.ne_finish_of_mem finish member)
  · exact ⟨phrase, others, bodyEq, restEq, derived⟩

theorem statements_of_reads (reads : Reads (expression lexemes) tree rest) :
    statements lexemes =
      if (next rest).kind = .finish then .ok [tree]
      else if (next rest).kind = .semicolon then
        if (next rest.tail).kind = .finish then .ok [tree]
        else (statements rest.tail).map (tree :: ·)
      else .error (unexpected .semicolonOrEnd rest) := by
  obtain ⟨_, same⟩ := reads
  rw [statements]
  simp only [same]

theorem statements_last (reads : Reads (expression lexemes) tree rest)
    (atEnd : (next rest).kind = .finish) : statements lexemes = .ok [tree] := by
  rw [statements_of_reads reads, if_pos atEnd]

theorem statements_other (reads : Reads (expression lexemes) tree rest)
    (notEnd : (next rest).kind ≠ .finish) (notSemicolon : (next rest).kind ≠ .semicolon) :
    statements lexemes = .error (unexpected .semicolonOrEnd rest) := by
  rw [statements_of_reads reads, if_neg notEnd, if_neg notSemicolon]

/-- After a semicolon there is the end or another expression. -/
theorem statements_semicolon {mark : Lexeme}
    (reads : Reads (expression lexemes) tree (mark :: rest))
    (isSemicolon : mark.kind = .semicolon) :
    statements lexemes =
      if (next rest).kind = .finish then .ok [tree] else (statements rest).map (tree :: ·) := by
  have notEnd : (next (mark :: rest)).kind ≠ .finish := by
    rw [next_cons, isSemicolon]
    decide
  rw [statements_of_reads reads, if_neg notEnd]
  exact if_pos isSemicolon

theorem next_append_finish (isFinish : finish.kind = .finish)
    (noFinish : ∀ lexeme ∈ body, lexeme.kind ≠ .finish) :
    (next (body ++ [finish])).kind = .finish ↔ body = [] := by
  cases body with
  | nil => exact ⟨fun _ => rfl, fun _ => isFinish⟩
  | cons first others =>
    exact ⟨fun same => absurd same (noFinish first List.mem_cons_self), nofun⟩

theorem statements_sound {body : List Lexeme} {trees : List Tree} (isFinish : finish.kind = .finish)
    (noFinish : ∀ lexeme ∈ body, lexeme.kind ≠ .finish)
    (read : statements (body ++ [finish]) = .ok trees) :
    ∃ parts : List (List Lexeme × Tree), trees = parts.map Prod.snd ∧ parts ≠ [] ∧
      (∀ part ∈ parts, Phrase nestingLimit .expression part.1 part.2) ∧
      Separated .semicolon (parts.map Prod.fst) body := by
  rcases first : expression (body ++ [finish]) with issue | ⟨tree, rest, fewer⟩
  · rw [statements] at read
    simp only [first] at read
    cases read
  · have reads : Reads (expression (body ++ [finish])) tree rest := ⟨fewer, first⟩
    obtain ⟨phrase, others, shape, rfl, derived⟩ := exists_rest_of_reads_expression isFinish reads
    have alone : ∀ part ∈ [(phrase, tree)], Phrase nestingLimit .expression part.1 part.2 :=
      List.forall_mem_singleton.mpr derived
    rcases others with _ | ⟨mark, others⟩
    · rw [statements_last reads isFinish] at read
      cases read
      refine ⟨[(phrase, tree)], rfl, List.cons_ne_nil _ _, alone, ?_⟩
      rw [shape, List.append_nil]
      exact .last phrase
    · rw [shape, List.forall_mem_append, List.forall_mem_cons] at noFinish
      obtain ⟨_, markNotFinish, othersNoFinish⟩ := noFinish
      rw [List.cons_append] at reads
      by_cases isSemicolon : mark.kind = .semicolon
      · rw [statements_semicolon reads isSemicolon] at read
        by_cases atEnd : (next (others ++ [finish])).kind = .finish
        · rw [if_pos atEnd] at read
          cases read
          obtain rfl := (next_append_finish isFinish othersNoFinish).mp atEnd
          refine ⟨[(phrase, tree)], rfl, List.cons_ne_nil _ _, alone, ?_⟩
          rw [shape]
          exact .more phrase isSemicolon .none
        · rw [if_neg atEnd] at read
          cases second : statements (others ++ [finish]) with
          | error issue =>
            rw [second] at read
            cases read
          | ok further =>
            rw [second] at read
            cases read
            have shorter : others.length < body.length := by
              rw [shape, List.length_append, List.length_cons]
              omega
            obtain ⟨parts, rfl, _, each, separated⟩ :=
              statements_sound isFinish othersNoFinish second
            refine ⟨(phrase, tree) :: parts, rfl, List.cons_ne_nil _ _,
              List.forall_mem_cons.mpr ⟨derived, each⟩, ?_⟩
            rw [shape]
            exact .more phrase isSemicolon separated
      · rw [statements_other reads markNotFinish isSemicolon] at read
        cases read
termination_by body.length

theorem next_ne_finish {count : Nat} {category : Category} {separator : LexemeKind}
    {phrase : List Lexeme} {parts : List (List Lexeme)}
    (derived : Phrase count category phrase tree)
    (separated : Separated separator (phrase :: parts) body) :
    (next (body ++ [finish])).kind ≠ .finish := by
  obtain ⟨first, following, rfl, begins⟩ := derived.begins
  obtain ⟨after, rfl⟩ := separated.exists_eq_append
  rw [List.cons_append, List.cons_append, next_cons]
  intro isEnd
  rw [isEnd] at begins
  cases begins

theorem statements_complete {parts : List (List Lexeme × Tree)} (isFinish : finish.kind = .finish)
    (some : parts ≠ [])
    (each : ∀ part ∈ parts, Phrase nestingLimit .expression part.1 part.2)
    (separated : Separated .semicolon (parts.map Prod.fst) body) :
    statements (body ++ [finish]) = .ok (parts.map Prod.snd) := by
  induction parts generalizing body with
  | nil => exact absurd rfl some
  | cons part others inductionHypothesis =>
    obtain ⟨derived, eachOther⟩ := List.forall_mem_cons.mp each
    have reads {mark : Lexeme} {rest : List Lexeme}
        (ends : mark.kind = .finish ∨ mark.kind = .semicolon) :
        Reads (expression (part.1 ++ mark :: rest)) part.2 (mark :: rest) := by
      refine (takes_of_phrase derived).reads_expression (by decide) (by decide) ?_ ?_
      · rw [next_cons]
        rcases ends with same | same <;> rw [same] <;> decide
      · rw [next_cons]
        rcases ends with same | same <;> rw [same] <;> decide
    rcases separated.cons_inv with ⟨nothing, rfl⟩ | ⟨mark, further, isSemicolon, rfl, remaining⟩
    · obtain rfl := List.map_eq_nil_iff.mp nothing
      exact statements_last (reads (.inl isFinish)) isFinish
    · rw [List.append_assoc, List.cons_append,
        statements_semicolon (reads (.inr isSemicolon)) isSemicolon]
      rcases others with _ | ⟨second, others⟩
      · obtain rfl := remaining.eq_nil
        exact if_pos isFinish
      · have notEnd : (next (further ++ [finish])).kind ≠ .finish := by
          obtain ⟨phraseOf, _⟩ := List.forall_mem_cons.mp eachOther
          exact next_ne_finish phraseOf remaining
        rw [if_neg notEnd, inductionHypothesis (List.cons_ne_nil _ _) eachOther remaining]
        rfl

theorem program_of_next (notEnd : (next lexemes).kind ≠ .finish) :
    program lexemes = (statements lexemes).map fun
      | [tree] => some tree
      | trees => some (.sequence (next lexemes).column trees) :=
  if_neg notEnd

theorem derived_of_program (isFinish : finish.kind = .finish)
    (noFinish : ∀ lexeme ∈ body, lexeme.kind ≠ .finish)
    (read : program (body ++ [finish]) = .ok (some tree)) : Statements body tree := by
  have notEnd : (next (body ++ [finish])).kind ≠ .finish := by
    intro atEnd
    rw [program, if_pos atEnd] at read
    cases read
  rw [program_of_next notEnd] at read
  cases inside : statements (body ++ [finish]) with
  | error issue =>
    rw [inside] at read
    cases read
  | ok trees =>
    rw [inside] at read
    obtain ⟨parts, rfl, notEmpty, each, separated⟩ := statements_sound isFinish noFinish inside
    rcases parts with _ | ⟨part, _ | ⟨second, parts⟩⟩
    · exact absurd rfl notEmpty
    · cases read
      exact .one (each part List.mem_cons_self) separated
    · rcases body with _ | ⟨first, others⟩
      · exact absurd isFinish notEnd
      · cases read
        exact .several each (Nat.le_add_left _ _) separated

theorem program_of_derived (isFinish : finish.kind = .finish)
    (derived : Statements body tree) : program (body ++ [finish]) = .ok (some tree) := by
  cases derived with
  | @one _ expression _ phrase separated =>
    have each : ∀ part ∈ [(expression, tree)], Phrase nestingLimit .expression part.1 part.2 :=
      List.forall_mem_singleton.mpr phrase
    rw [program_of_next (next_ne_finish phrase separated),
      statements_complete isFinish (List.cons_ne_nil _ _) each separated]
    rfl
  | @several first others parts each atLeastTwo separated =>
    rcases parts with _ | ⟨part, _ | ⟨second, parts⟩⟩
    · exact absurd atLeastTwo (Nat.not_succ_le_zero 1)
    · exact absurd atLeastTwo (Nat.not_succ_le_self 1)
    · have phrase := each part List.mem_cons_self
      rw [program_of_next (next_ne_finish phrase separated),
        statements_complete isFinish (List.cons_ne_nil _ _) each separated]
      rfl

end Whole

end Grammar

theorem reading_eq_iff (source : String) (tree : Tree) :
    (Draft.read source).reading = .ok (some tree) ↔
      Statements (Lexeme.scan source).dropLast tree := by
  obtain ⟨body, last, same, noFinish⟩ := Lexeme.exists_scanFrom_eq 1 source.toList
  have scan_eq : Lexeme.scan source = body ++ [⟨.finish, "", last⟩] := same
  rw [scan_eq, List.dropLast_concat]
  show Grammar.program (Lexeme.scan source) = _ ↔ _
  rw [scan_eq]
  exact ⟨Grammar.derived_of_program rfl noFinish, Grammar.program_of_derived rfl⟩

/-- A text whose lexemes before its end are a phrase is read as the tree of the phrase. -/
theorem reading_of_phrase {source : String} {lexemes : List Lexeme} {last : Nat}
    {category : Category} {tree : Tree}
    (scanned : Lexeme.scan source = lexemes ++ [⟨.finish, "", last⟩])
    (phrase : Phrase nestingLimit category lexemes tree) :
    (Draft.read source).reading = .ok (some tree) := by
  rw [reading_eq_iff, scanned, List.dropLast_concat]
  exact .one (phrase.widen category.precedence_expression_le) (.last _)

/-- Reading an expression succeeds exactly if its lexemes are an expression, or expressions with
semicolons between them, that the grammar derives, and the tree is the one of the grammar. -/
theorem read_eq_iff_statements (source : String) (tree : Tree) :
    ((Draft.read source).root? = some tree ∧ (Draft.read source).issues = []) ↔
      Statements (Lexeme.scan source).dropLast tree := by
  rw [← reading_eq_iff]
  unfold Draft.root? Draft.issues
  cases reading : (Draft.read source).reading with
  | error issue => exact ⟨nofun, nofun⟩
  | ok root => simp

end Playscript
