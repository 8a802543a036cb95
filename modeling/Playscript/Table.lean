/-
This file holds tables from names to entries. A table keeps its entries in the
order of their names, each name at most once, so two tables that answer every
look-up alike are the same table, and its list of names is always sorted.
-/

namespace Playscript

/-! ### Entries in order -/

/-- Entries stand in ascending order of their names. -/
def Ascending {α : Type} (entries : List (String × α)) : Prop :=
  entries.Pairwise (fun earlier later => earlier.1 < later.1)

/-- Puts an entry at its place in an ascending list; an entry of the same name is replaced. -/
def insertEntry {α : Type} (name : String) (entry : α) :
    List (String × α) → List (String × α)
  | [] => [(name, entry)]
  | head :: rest =>
    if name < head.1 then (name, entry) :: head :: rest
    else if head.1 = name then (name, entry) :: rest
    else head :: insertEntry name entry rest

theorem mem_of_mem_insertEntry {α : Type} {name : String} {entry : α}
    {entries : List (String × α)} {pair : String × α}
    (member : pair ∈ insertEntry name entry entries) :
    pair = (name, entry) ∨ pair ∈ entries := by
  induction entries with
  | nil => exact Or.inl (List.mem_singleton.mp member)
  | cons head rest inductionHypothesis =>
    unfold insertEntry at member
    split at member
    · exact List.mem_cons.mp member
    · split at member
      · rcases List.mem_cons.mp member with same | inRest
        · exact Or.inl same
        · exact Or.inr (List.mem_cons_of_mem _ inRest)
      · rcases List.mem_cons.mp member with same | inRest
        · exact Or.inr (same ▸ List.mem_cons_self)
        · exact (inductionHypothesis inRest).imp id (List.mem_cons_of_mem _)

theorem Ascending.insertEntry {α : Type} (name : String) (entry : α)
    {entries : List (String × α)} (ascending : Ascending entries) :
    Ascending (insertEntry name entry entries) := by
  induction entries with
  | nil => exact List.pairwise_singleton _ _
  | cons head rest inductionHypothesis =>
    obtain ⟨first, others⟩ := List.pairwise_cons.mp ascending
    unfold Playscript.insertEntry
    split
    · rename_i before
      refine List.pairwise_cons.mpr ⟨fun pair member => ?_, ascending⟩
      rcases List.mem_cons.mp member with rfl | inRest
      · exact before
      · exact String.lt_trans before (first pair inRest)
    · rename_i notBefore
      split
      · rename_i same
        exact List.pairwise_cons.mpr ⟨fun pair member => same ▸ first pair member, others⟩
      · rename_i different
        refine List.pairwise_cons.mpr ⟨fun pair member => ?_, inductionHypothesis others⟩
        rcases mem_of_mem_insertEntry member with rfl | inRest
        · exact Std.lt_of_le_of_ne (String.not_lt.mp notBefore) different
        · exact first pair inRest

/-! ### Looking entries up -/

/-- The first entry of a name. -/
def entryOf? {α : Type} (entries : List (String × α)) (name : String) : Option α :=
  (entries.find? (fun entry => entry.1 = name)).map Prod.snd

@[simp] theorem entryOf?_nil {α : Type} (name : String) :
    entryOf? ([] : List (String × α)) name = none := rfl

theorem entryOf?_cons {α : Type} (head : String × α) (rest : List (String × α)) (name : String) :
    entryOf? (head :: rest) name = if head.1 = name then some head.2 else entryOf? rest name := by
  unfold entryOf?
  rw [List.find?_cons]
  split <;> simp_all

theorem entryOf?_insertEntry {α : Type} (name other : String) (entry : α)
    (entries : List (String × α)) :
    entryOf? (insertEntry name entry entries) other =
      if name = other then some entry else entryOf? entries other := by
  induction entries with
  | nil => exact entryOf?_cons ..
  | cons head rest inductionHypothesis =>
    unfold insertEntry
    split
    · exact entryOf?_cons ..
    · split
      · rename_i same
        rw [entryOf?_cons, entryOf?_cons, same]
        split <;> rfl
      · rename_i different
        rw [entryOf?_cons, entryOf?_cons, inductionHypothesis]
        by_cases isOther : name = other
        · rw [if_pos isOther, if_pos isOther, if_neg (isOther ▸ different)]
        · rw [if_neg isOther, if_neg isOther]

theorem entryOf?_eq_none {α : Type} {name : String} {entries : List (String × α)}
    (absent : ∀ entry ∈ entries, entry.1 ≠ name) : entryOf? entries name = none := by
  unfold entryOf?
  rw [Option.map_eq_none_iff, List.find?_eq_none]
  intro entry member
  simpa using absent entry member

/-- Where entries stand in ascending order, the names after the first entry are others. -/
theorem Ascending.entryOf?_head {α : Type} {head : String × α} {rest : List (String × α)}
    {name : String} (ascending : Ascending (head :: rest)) (notAfter : name ≤ head.1) :
    entryOf? rest name = none := by
  refine entryOf?_eq_none fun entry member same => ?_
  have later := (List.pairwise_cons.mp ascending).1 entry member
  exact String.not_lt.mpr notAfter (same ▸ later)

/-- Ascending lists in which every name has the same entry are the same list. -/
theorem Ascending.eq_of_entryOf? {α : Type} {first second : List (String × α)}
    (firstAscending : Ascending first) (secondAscending : Ascending second)
    (alike : ∀ name, entryOf? first name = entryOf? second name) : first = second := by
  induction first generalizing second with
  | nil =>
    cases second with
    | nil => rfl
    | cons head rest =>
      have found := alike head.1
      rw [entryOf?_cons, if_pos rfl] at found
      cases found
  | cons head rest inductionHypothesis =>
    cases second with
    | nil =>
      have found := alike head.1
      rw [entryOf?_cons, if_pos rfl] at found
      cases found
    | cons head' rest' =>
      have headsNotAfter : ∀ {entry entry' : String × α} {others others' : List (String × α)},
          Ascending (entry' :: others') →
          entryOf? (entry :: others) entry.1 = entryOf? (entry' :: others') entry.1 →
          entry'.1 ≤ entry.1 := by
        intro entry entry' others others' ascending same
        refine String.not_lt.mp fun before => ?_
        rw [entryOf?_cons, if_pos rfl, entryOf?_cons, if_neg (String.ne_of_lt before).symm,
          ascending.entryOf?_head (Std.le_of_lt before)] at same
        cases same
      have sameName : head.1 = head'.1 :=
        String.le_antisymm (headsNotAfter firstAscending (alike head'.1).symm)
          (headsNotAfter secondAscending (alike head.1))
      have sameEntry := alike head.1
      rw [entryOf?_cons, if_pos rfl, entryOf?_cons, if_pos sameName.symm] at sameEntry
      have sameRest : rest = rest' := by
        refine inductionHypothesis (List.pairwise_cons.mp firstAscending).2
          (List.pairwise_cons.mp secondAscending).2 fun name => ?_
        by_cases isHead : head.1 = name
        · subst isHead
          rw [firstAscending.entryOf?_head (String.le_refl _),
            secondAscending.entryOf?_head (sameName ▸ String.le_refl _)]
        · have same := alike name
          rwa [entryOf?_cons, if_neg isHead, entryOf?_cons, if_neg (sameName ▸ isHead)] at same
      rw [Prod.ext sameName (Option.some.inj sameEntry), sameRest]

/-! ### Tables -/

/-- Entries under names, in ascending order of the names. -/
structure Table (α : Type) where
  entries : List (String × α)
  ascending : Ascending entries

namespace Table

variable {α : Type}

/-- The table without entries. -/
def empty : Table α := ⟨[], List.Pairwise.nil⟩

instance : Inhabited (Table α) := ⟨empty⟩

/-- The entry under a name. -/
def get? (table : Table α) (name : String) : Option α := entryOf? table.entries name

/-- Puts an entry under a name, in place of an earlier one. -/
def insert (table : Table α) (name : String) (entry : α) : Table α :=
  ⟨insertEntry name entry table.entries, table.ascending.insertEntry name entry⟩

/-- Takes the entry under a name away. -/
def erase (table : Table α) (name : String) : Table α :=
  ⟨table.entries.filter (fun entry => entry.1 ≠ name), table.ascending.filter _⟩

/-- Whether there is an entry under a name. -/
def contains (table : Table α) (name : String) : Bool := (table.get? name).isSome

/-- The names with an entry, ascending. -/
def names (table : Table α) : List String := table.entries.map Prod.fst

/-- The number of entries. -/
def size (table : Table α) : Nat := table.entries.length

/-- Whether there are no entries. -/
def isEmpty (table : Table α) : Bool := table.entries.isEmpty

@[simp] theorem get?_empty (name : String) : (empty : Table α).get? name = none := rfl

theorem get?_insert (table : Table α) (name other : String) (entry : α) :
    (table.insert name entry).get? other = if name = other then some entry else table.get? other :=
  entryOf?_insertEntry name other entry table.entries

theorem get?_erase (table : Table α) (name other : String) :
    (table.erase name).get? other = if name = other then none else table.get? other := by
  show entryOf? (table.entries.filter fun entry => entry.1 ≠ name) other =
    if name = other then none else entryOf? table.entries other
  induction table.entries with
  | nil => simp
  | cons head rest inductionHypothesis =>
    rw [List.filter_cons, entryOf?_cons]
    split
    · rename_i kept
      rw [entryOf?_cons, inductionHypothesis]
      have different : head.1 ≠ name := by simpa using kept
      by_cases isOther : name = other
      · rw [if_pos isOther, if_pos isOther, if_neg (isOther ▸ different)]
      · rw [if_neg isOther, if_neg isOther]
    · rename_i dropped
      have same : head.1 = name := by simpa using dropped
      rw [inductionHypothesis, same]
      split <;> rfl

/-- Tables that answer every look-up alike are the same table. -/
theorem eq_of_get? {first second : Table α} (alike : ∀ name, first.get? name = second.get? name) :
    first = second := by
  have same := first.ascending.eq_of_entryOf? second.ascending alike
  cases first
  cases second
  cases same
  rfl

end Table

end Playscript
