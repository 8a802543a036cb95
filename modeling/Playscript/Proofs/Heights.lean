/-
This file says how high the trees of expressions are. The limit on nesting counts the levels at which
reading begins anew: in parentheses and brackets, among arguments, and behind an operator. What was
read so far becomes a left operand or a callee on the same level, as often as the text goes on, so a
long sum is a high tree although nothing in it is nested.

The limit bounds how often a way down a tree leaves a chain of left operands and callees. Between two
of these steps the way can be as long as a chain, so the trees of some texts have bounded heights
exactly if their chains have bounded lengths. The trees of all texts do not.
-/

import Playscript.Expr.Validation
import Playscript.Proofs.Parsing

namespace Playscript

/-! ### Measures -/

namespace Tree

mutual

/-- The number of nodes on the longest way down a tree. -/
def height : Tree → Nat
  | list _ items | sequence _ items => heightAll items + 1
  | unary _ _ operand => operand.height + 1
  | binary _ _ left right => max left.height right.height + 1
  | assign _ target value => max target.height value.height + 1
  | call _ callee arguments => max callee.height (heightAll arguments) + 1
  | _ => 1

/-- The height of the highest of some trees. -/
def heightAll : List Tree → Nat
  | [] => 0
  | item :: rest => max item.height (heightAll rest)

end

mutual

/-- How often a way down a tree leaves a chain at most: with every step but those to the operand
before an operator, to the target of an assignment and to the callee of a call. -/
def nesting : Tree → Nat
  | list _ items | sequence _ items => nestingAll items
  | unary _ _ operand => operand.nesting + 1
  | binary _ _ left right => max left.nesting (right.nesting + 1)
  | assign _ target value => max target.nesting (value.nesting + 1)
  | call _ callee arguments => max callee.nesting (nestingAll arguments)
  | _ => 0

/-- The same on the way from a tree down through its items. -/
def nestingAll : List Tree → Nat
  | [] => 0
  | item :: rest => max (item.nesting + 1) (nestingAll rest)

end

/-- The length of the chain of left operands and callees that begins at the root. -/
def spine : Tree → Nat
  | binary _ _ left _ => left.spine + 1
  | assign _ target _ => target.spine + 1
  | call _ callee _ => callee.spine + 1
  | _ => 0

mutual

/-- The length of the longest chain of left operands and callees in a tree. -/
def chain : Tree → Nat
  | list _ items | sequence _ items => chainAll items
  | unary _ _ operand => operand.chain
  | binary _ _ left right => max (left.spine + 1) (max left.chain right.chain)
  | assign _ target value => max (target.spine + 1) (max target.chain value.chain)
  | call _ callee arguments => max (callee.spine + 1) (max callee.chain (chainAll arguments))
  | _ => 0

/-- The length of the longest chain in some trees. -/
def chainAll : List Tree → Nat
  | [] => 0
  | item :: rest => max item.chain (chainAll rest)

end

/-! ### Heights and chains -/

theorem spine_le_chain (tree : Tree) : tree.spine ≤ tree.chain := by
  cases tree with
  | binary | assign | call => exact Nat.le_max_left ..
  | _ => exact Nat.zero_le _

mutual

/-- A chain is part of a way down. -/
theorem chain_lt_height (tree : Tree) : tree.chain < tree.height := by
  cases tree with
  | list _ items | sequence _ items => exact Nat.lt_succ_of_le (chainAll_le_heightAll items)
  | unary _ _ operand => exact Nat.lt_succ_of_lt operand.chain_lt_height
  | binary _ _ left right | assign _ left right =>
    have first := left.chain_lt_height
    have second := right.chain_lt_height
    have along := left.spine_le_chain
    simp only [chain, height]
    omega
  | call _ callee arguments =>
    have first := callee.chain_lt_height
    have others := chainAll_le_heightAll arguments
    have along := callee.spine_le_chain
    simp only [chain, height]
    omega
  | _ => exact Nat.zero_lt_one

theorem chainAll_le_heightAll (items : List Tree) : chainAll items ≤ heightAll items := by
  cases items with
  | nil => exact Nat.le_refl 0
  | cons item rest =>
    have first := item.chain_lt_height
    have others := chainAll_le_heightAll rest
    simp only [chainAll, heightAll]
    omega

end

mutual

/-- A way down goes along the first chain, and each time that it leaves a chain it goes along one
more. -/
theorem height_le_of_chain_le {bound : Nat} (tree : Tree) (within : tree.chain ≤ bound) :
    tree.height ≤ tree.spine + 1 + tree.nesting * (bound + 1) := by
  cases tree with
  | list _ items | sequence _ items =>
    have inside := heightAll_le_of_chainAll_le items within
    simp only [height, spine, nesting]
    omega
  | unary _ _ operand =>
    have below := operand.height_le_of_chain_le within
    have along := operand.spine_le_chain.trans within
    simp only [height, spine, nesting, Nat.succ_mul]
    omega
  | binary _ _ left right | assign _ left right =>
    obtain ⟨-, inBoth⟩ := Nat.max_le.mp within
    obtain ⟨inFirst, inSecond⟩ := Nat.max_le.mp inBoth
    have first := left.height_le_of_chain_le inFirst
    have second := right.height_le_of_chain_le inSecond
    have along := right.spine_le_chain.trans inSecond
    simp only [height, spine, nesting, ← Nat.mul_max_mul_right, Nat.succ_mul]
    omega
  | call _ callee arguments =>
    obtain ⟨-, inBoth⟩ := Nat.max_le.mp within
    obtain ⟨inFirst, inOthers⟩ := Nat.max_le.mp inBoth
    have first := callee.height_le_of_chain_le inFirst
    have others := heightAll_le_of_chainAll_le arguments inOthers
    simp only [height, spine, nesting, ← Nat.mul_max_mul_right]
    omega
  | _ => exact Nat.le_add_right 1 _

theorem heightAll_le_of_chainAll_le {bound : Nat} (items : List Tree)
    (within : chainAll items ≤ bound) : heightAll items ≤ nestingAll items * (bound + 1) := by
  cases items with
  | nil => exact Nat.zero_le _
  | cons item rest =>
    obtain ⟨inFirst, inOthers⟩ := Nat.max_le.mp within
    have first := item.height_le_of_chain_le inFirst
    have others := heightAll_le_of_chainAll_le rest inOthers
    have along := item.spine_le_chain.trans inFirst
    simp only [heightAll, nestingAll, ← Nat.mul_max_mul_right, Nat.succ_mul]
    omega

end

/-! ### The limit on nesting -/

theorem nestingAll_le {levels : Nat} {items : List Tree}
    (each : ∀ item ∈ items, item.nesting < levels) : nestingAll items ≤ levels := by
  induction items with
  | nil => exact Nat.zero_le _
  | cons item rest inductionHypothesis =>
    obtain ⟨first, others⟩ := List.forall_mem_cons.mp each
    exact Nat.max_le.mpr ⟨first, inductionHypothesis others⟩

end Tree

theorem Lexeme.nesting_of_leaf? {lexeme : Lexeme} {tree : Tree}
    (stands : lexeme.leaf? = some tree) : tree.nesting = 0 := by
  unfold leaf? at stands
  split at stands <;> cases stands <;> rfl

/-- Each level of a phrase can be left once. -/
theorem Phrase.nesting_lt {levels : Nat} {category : Category} {lexemes : List Lexeme} {tree : Tree}
    (phrase : Phrase levels category lexemes tree) : tree.nesting < levels := by
  have all {levels : Nat} {parts : List (List Lexeme × Tree)}
      (each : ∀ part ∈ parts, part.2.nesting < levels) :
      Tree.nestingAll (parts.map Prod.snd) ≤ levels :=
    Tree.nestingAll_le (List.forall_mem_map.mpr each)
  induction phrase with
  | wider _ inductionHypothesis => exact inductionHypothesis
  | assignment _ _ _ target value => exact Nat.max_lt.mpr ⟨target, Nat.succ_lt_succ value⟩
  | operation _ _ _ left right => exact Nat.max_lt.mpr ⟨left, Nat.succ_lt_succ right⟩
  | prefixed _ _ operand => exact Nat.succ_lt_succ operand
  | call _ _ _ _ _ callee arguments =>
    exact Nat.max_lt.mpr ⟨callee, Nat.lt_succ_of_le (all arguments)⟩
  | leaf stands =>
    rw [Lexeme.nesting_of_leaf? stands]
    exact Nat.zero_lt_succ _
  | list _ _ _ _ elements => exact Nat.lt_succ_of_le (all elements)
  | parenthesized _ _ _ inside => exact Nat.lt_succ_of_lt inside

theorem Statements.nesting_le {lexemes : List Lexeme} {tree : Tree}
    (statements : Statements lexemes tree) : tree.nesting ≤ nestingLimit := by
  cases statements with
  | one phrase _ => exact Nat.le_of_lt phrase.nesting_lt
  | several each _ _ =>
    exact Tree.nestingAll_le (List.forall_mem_map.mpr fun part member =>
      (each part member).nesting_lt)

theorem Draft.root?_read_eq_iff {source : String} {tree : Tree} :
    (read source).root? = some tree ↔ Statements (Lexeme.scan source).dropLast tree := by
  rw [← reading_eq_iff, root?]
  cases (read source).reading with
  | error issue => exact ⟨nofun, nofun⟩
  | ok root => exact ⟨congrArg Except.ok, Except.ok.inj⟩

/-- The height of an expression lies between the length of its longest chain and a multiple of
it. -/
theorem height_bounds {source : String} {tree : Tree}
    (read : (Draft.read source).root? = some tree) :
    tree.chain < tree.height ∧ tree.height ≤ (nestingLimit + 1) * (tree.chain + 1) := by
  have nested := (Draft.root?_read_eq_iff.mp read).nesting_le
  refine ⟨tree.chain_lt_height, ?_⟩
  calc tree.height
      ≤ tree.spine + 1 + tree.nesting * (tree.chain + 1) :=
        tree.height_le_of_chain_le (Nat.le_refl _)
    _ ≤ (tree.chain + 1) + nestingLimit * (tree.chain + 1) :=
        Nat.add_le_add (Nat.succ_le_succ tree.spine_le_chain) (Nat.mul_le_mul_right _ nested)
    _ = (nestingLimit + 1) * (tree.chain + 1) := by rw [Nat.succ_mul, Nat.add_comm]

/-- The trees of some texts have bounded heights exactly if the chains of left operands and callees
in them have bounded lengths. -/
theorem heights_bounded_iff (accepted : String → Prop) :
    (∃ bound, ∀ source tree, accepted source → (Draft.read source).root? = some tree →
        tree.height ≤ bound) ↔
      ∃ bound, ∀ source tree, accepted source → (Draft.read source).root? = some tree →
        tree.chain ≤ bound := by
  constructor
  · rintro ⟨bound, within⟩
    exact ⟨bound, fun source tree isAccepted read =>
      Nat.le_of_lt (Nat.lt_of_lt_of_le (height_bounds read).1 (within source tree isAccepted read))⟩
  · rintro ⟨bound, within⟩
    refine ⟨(nestingLimit + 1) * (bound + 1), fun source tree isAccepted read => ?_⟩
    exact (height_bounds read).2.trans
      (Nat.mul_le_mul_left _ (Nat.succ_le_succ (within source tree isAccepted read)))

/-! ### Sums -/

/-- So many ones added to what stands before. -/
def onesAdded (count : Nat) : List Char := (List.replicate count ['+', '1']).flatten

theorem Lexeme.scanFrom_one (column count : Nat) :
    scanFrom column ('1' :: onesAdded count) =
      ⟨.int, "1", column⟩ :: scanFrom (column + 1) (onesAdded count) := by
  have number : LexemeCut.first '1' (onesAdded count) = ⟨.int, ['1'], 1, onesAdded count⟩ := by
    cases count <;> rfl
  rw [scanFrom, if_neg (by decide), number]

theorem Lexeme.scanFrom_plus_one (column count : Nat) :
    scanFrom column (onesAdded (count + 1)) =
      ⟨.plus, "+", column⟩ :: ⟨.int, "1", column + 1⟩ :: scanFrom (column + 2) (onesAdded count) := by
  have shape : onesAdded (count + 1) = '+' :: '1' :: onesAdded count := rfl
  rw [shape, scanFrom, if_neg (by decide)]
  exact congrArg (_ :: ·) (scanFrom_one (column + 1) count)

/-- Every added one makes the tree higher, and takes no further level. -/
theorem exists_sum {levels : Nat} (count column : Nat) (lexemes : List Lexeme) (tree : Tree)
    (phrase : Phrase (levels + 2) .term lexemes tree) (valid : ∃ expr, tree.validate = .ok expr) :
    ∃ others last sum, Lexeme.scanFrom column (onesAdded count) = others ++ [⟨.finish, "", last⟩] ∧
      Phrase (levels + 2) .term (lexemes ++ others) sum ∧ (∃ expr, sum.validate = .ok expr) ∧
      tree.height + count ≤ sum.height := by
  induction count generalizing column lexemes tree with
  | zero =>
    refine ⟨[], column, tree, ?_, ?_, valid, Nat.le_refl _⟩
    · rw [onesAdded, List.replicate_zero, List.flatten_nil, Lexeme.scanFrom, List.nil_append]
    · rw [List.append_nil]
      exact phrase
  | succ count inductionHypothesis =>
    let plus : Lexeme := ⟨.plus, "+", column⟩
    let one : Lexeme := ⟨.int, "1", column + 1⟩
    have leaf : Phrase (levels + 1) .primary [one] (.int (column + 1) "1") := .leaf rfl
    have longer : Phrase (levels + 2) .term (lexemes ++ [plus, one])
        (.binary tree.column .add tree (.int (column + 1) "1")) :=
      .operation phrase List.mem_cons_self (leaf.widen (by decide))
    have stillValid : ∃ expr,
        (Tree.binary tree.column .add tree (.int (column + 1) "1")).validate = .ok expr := by
      obtain ⟨expr, same⟩ := valid
      exact ⟨.binary .add expr (.literal (.int 1)), by rw [Tree.validate, same]; rfl⟩
    obtain ⟨others, last, sum, scanned, whole, sumValid, higher⟩ :=
      inductionHypothesis (column + 2) _ _ longer stillValid
    refine ⟨plus :: one :: others, last, sum, ?_, ?_, sumValid, ?_⟩
    · rw [Lexeme.scanFrom_plus_one, scanned]
      rfl
    · simpa using whole
    · simp only [Tree.height] at higher
      omega

/-- There are sums of any height, all of them valid. -/
theorem exists_height_lt (bound : Nat) :
    ∃ source tree, (Draft.read source).root? = some tree ∧
      (∃ expr, (Draft.read source).validate = .ok expr) ∧ bound < tree.height := by
  have leaf : Phrase nestingLimit .primary [⟨.int, "1", 1⟩] (.int 1 "1") := .leaf rfl
  obtain ⟨others, last, sum, scanned, whole, ⟨expr, valid⟩, higher⟩ :=
    exists_sum bound 2 [⟨.int, "1", 1⟩] _ (leaf.widen (by decide)) ⟨_, rfl⟩
  have lexemes : Lexeme.scan (String.ofList ('1' :: onesAdded bound)) =
      (⟨.int, "1", 1⟩ :: others) ++ [⟨.finish, "", last⟩] := by
    rw [Lexeme.scan, String.toList_ofList, Lexeme.scanFrom_one, scanned]
    rfl
  have reading := reading_of_phrase lexemes whole
  refine ⟨String.ofList ('1' :: onesAdded bound), sum, ?_, ⟨expr, ?_⟩, ?_⟩
  · rw [Draft.root?, reading]
  · rw [Draft.validate, reading]
    exact valid
  · simp only [Tree.height] at higher
    omega

/-- No number bounds the heights of all trees. -/
theorem not_heights_bounded :
    ¬ ∃ bound, ∀ source tree, (Draft.read source).root? = some tree → tree.height ≤ bound := by
  rintro ⟨bound, within⟩
  obtain ⟨source, tree, read, -, higher⟩ := exists_height_lt bound
  exact Nat.not_lt.mpr (within source tree read) higher

end Playscript
