/-
This file compares two evaluations of one expression. They start from contexts that stand in some
relation, which may be of different kinds, and their registries may differ; if the operations that
the expression calls keep the relation, so does the evaluation, and its results are the same.

Two uses are made of this. With two different runs it says that they stay in step. With one run
beside itself it says what an evaluation preserves. In both, a run may be required to end.
-/

import Playscript.Expr.Evaluation
import Playscript.Proofs.Calls

namespace Playscript

/-! ### Outcomes -/

/-- The second outcome matches the first: what ended in the first run ended in the second one, with
something related. If `certain` holds, the first run is required to end. -/
def Matches {First Second : Type} (certain : Prop) (related : First → Second → Prop) :
    Option First → Option Second → Prop
  | none, _ => ¬ certain
  | some _, none => False
  | some first, some second => related first second

namespace Matches

variable {First Second First' Second' : Type} {certain : Prop} {related : First → Second → Prop}
  {related' : First' → Second' → Prop} {first? : Option First} {second? : Option Second}

theorem of_some {first : First} (found : first? = some first)
    (compared : Matches certain related first? second?) :
    ∃ second, second? = some second ∧ related first second := by
  subst found
  cases second? with
  | none => exact compared.elim
  | some second => exact ⟨second, rfl, compared⟩

theorem of_certain (holds : certain) (compared : Matches certain related first? second?) :
    ∃ first second, first? = some first ∧ second? = some second ∧ related first second := by
  cases first? with
  | none => exact absurd holds compared
  | some first =>
    obtain ⟨second, found, holds⟩ := compared.of_some rfl
    exact ⟨first, second, rfl, found, holds⟩

/-- What comes after matching outcomes matches if it does so after related ones. -/
theorem bind {next : First → Option First'} {next' : Second → Option Second'}
    (compared : Matches certain related first? second?)
    (nexts : ∀ first second, related first second →
      Matches certain related' (next first) (next' second)) :
    Matches certain related' (first?.bind next) (second?.bind next') := by
  cases first? with
  | none => exact compared
  | some first =>
    obtain ⟨second, rfl, holds⟩ := compared.of_some rfl
    exact nexts first second holds

theorem map {update : First → First'} {update' : Second → Second'}
    (compared : Matches certain related first? second?)
    (updates : ∀ first second, related first second → related' (update first) (update' second)) :
    Matches certain related' (first?.map update) (second?.map update') := by
  cases first? with
  | none => exact compared
  | some first =>
    obtain ⟨second, rfl, holds⟩ := compared.of_some rfl
    exact updates first second holds

end Matches

/-- A run ends with something that has a property, if it ends. If `certain` holds, it is required to
end. -/
def Ends {State : Type} (certain : Prop) (property : State → Prop) : Option State → Prop
  | none => ¬ certain
  | some last => property last

namespace Ends

variable {State State' : Type} {certain : Prop} {property : State → Prop}
  {property' : State' → Prop} {last? : Option State}

theorem of_some {last : State} (found : last? = some last) (ends : Ends certain property last?) :
    property last := by
  subst found
  exact ends

theorem of_certain (holds : certain) (ends : Ends certain property last?) :
    ∃ last, last? = some last ∧ property last := by
  cases last? with
  | none => exact absurd holds ends
  | some last => exact ⟨last, rfl, ends⟩

theorem imp {weaker : State → Prop} (ends : Ends certain property last?)
    (weakens : ∀ last, property last → weaker last) : Ends certain weaker last? := by
  cases last? with
  | none => exact ends
  | some last => exact weakens last ends

/-- Whether a run is required to end has to be known from one of its properties only. -/
theorem and {certain' : Prop} {other : State → Prop} (ends : Ends certain property last?)
    (ends' : Ends certain' other last?) :
    Ends certain (fun last => property last ∧ other last) last? := by
  cases last? with
  | none => exact ends
  | some last => exact ⟨ends, ends'⟩

theorem bind {next : State → Option State'} (ends : Ends certain property last?)
    (nexts : ∀ last, property last → Ends certain property' (next last)) :
    Ends certain property' (last?.bind next) := by
  cases last? with
  | none => exact ends
  | some last => exact nexts last ends

theorem map {update : State → State'} (ends : Ends certain property last?)
    (updates : ∀ last, property last → property' (update last)) :
    Ends certain property' (last?.map update) := by
  cases last? with
  | none => exact ends
  | some last => exact updates last ends

/-- A run beside itself says what it ends with. -/
theorem of_matches {related : State → State → Prop}
    (compared : Matches certain related last? last?)
    (holds : ∀ last, related last last → property last) : Ends certain property last? := by
  cases last? with
  | none => exact compared
  | some last => exact holds last compared

theorem beside (ends : Ends certain property last?) :
    Matches certain (fun first second => first = second ∧ property first) last? last? := by
  cases last? with
  | none => exact ends
  | some last => exact ⟨rfl, ends⟩

end Ends

/-- What is known of the first run may be used when two runs are compared. -/
theorem Matches.with_ends {First Second : Type} {certain certain' : Prop}
    {related : First → Second → Prop} {property : First → Prop} {first? : Option First}
    {second? : Option Second} (compared : Matches certain related first? second?)
    (ends : Ends certain' property first?) :
    Matches certain (fun first second => related first second ∧ property first) first? second? := by
  cases first? with
  | none => exact compared
  | some first =>
    obtain ⟨second, rfl, holds⟩ := compared.of_some rfl
    exact ⟨holds, ends⟩

/-! ### Actions -/

/-- Two ends of an action have the same result and related contexts. -/
def SameResult {Context Context' Result : Type} (related : Context → Context' → Prop)
    (first : Result × Context) (second : Result × Context') : Prop :=
  first.1 = second.1 ∧ related first.2 second.2

namespace Action

variable {Context Context' Error Error' Result Next : Type} {certain : Prop}
  {related : Context → Context' → Prop} {context : Context} {context' : Context'}

theorem matches_bind {first : Action Context Error Result} {first' : Action Context' Error Result}
    {next : Result → Action Context Error Next} {next' : Result → Action Context' Error Next}
    (compared : Matches certain (SameResult related) (first context) (first' context'))
    (nexts : ∀ result later later', related later later' →
      Matches certain (SameResult related) (next result later) (next' result later')) :
    Matches certain (SameResult related) ((first >>= next) context)
      ((first' >>= next') context') := by
  rw [bind_apply, bind_apply]
  unfold andThen
  cases ended : first context with
  | none =>
    rw [ended] at compared
    exact compared
  | some outcome =>
    obtain ⟨result, later⟩ := outcome
    obtain ⟨⟨result', later'⟩, ended', same, holds⟩ := compared.of_some ended
    obtain rfl : result = result' := same
    rw [ended']
    cases result with
    | error error => exact ⟨rfl, holds⟩
    | ok result => exact nexts result later later' holds

theorem matches_mapError {action : Action Context Error Result}
    {action' : Action Context' Error Result} (report : Error → Error')
    (compared : Matches certain (SameResult related) (action context) (action' context')) :
    Matches certain (SameResult related) (action.mapError report context)
      (action'.mapError report context') := by
  unfold mapError
  cases ended : action context with
  | none =>
    rw [ended] at compared
    exact compared
  | some outcome =>
    obtain ⟨result, later⟩ := outcome
    obtain ⟨⟨result', later'⟩, ended', same, holds⟩ := compared.of_some ended
    obtain rfl : result = result' := same
    rw [ended']
    cases result with
    | error error => exact ⟨rfl, holds⟩
    | ok result => exact ⟨rfl, holds⟩

theorem matches_ofExcept (outcome : Except Error Result) (holds : related context context') :
    Matches certain (SameResult related) (ofExcept outcome context)
      (ofExcept outcome context') := by
  cases outcome with
  | error error => exact ⟨rfl, holds⟩
  | ok result => exact ⟨rfl, holds⟩

theorem matches_run {update : Context → Option Context} {update' : Context' → Option Context'}
    (compared : Matches certain related (update context) (update' context')) :
    Matches certain (SameResult related) ((run update : Action Context Error Unit) context)
      (run update' context') :=
  compared.map fun _ _ holds => ⟨rfl, holds⟩

section Ends

variable {property : Context → Prop}

theorem ends_bind {first : Action Context Error Result} {next : Result → Action Context Error Next}
    (ends : Ends certain (fun outcome : Except Error Result × Context => property outcome.2)
      (first context))
    (nexts : ∀ result later, property later →
      Ends certain (fun outcome : Except Error Next × Context => property outcome.2)
        (next result later)) :
    Ends certain (fun outcome : Except Error Next × Context => property outcome.2)
      ((first >>= next) context) := by
  rw [bind_apply]
  unfold andThen
  cases ended : first context with
  | none =>
    rw [ended] at ends
    exact ends
  | some outcome =>
    obtain ⟨result, later⟩ := outcome
    rw [ended] at ends
    cases result with
    | error error => exact ends
    | ok result => exact nexts result later ends

theorem ends_mapError {action : Action Context Error Result} (report : Error → Error')
    (ends : Ends certain (fun outcome : Except Error Result × Context => property outcome.2)
      (action context)) :
    Ends certain (fun outcome : Except Error' Result × Context => property outcome.2)
      (action.mapError report context) := by
  unfold mapError
  cases ended : action context with
  | none =>
    rw [ended] at ends
    exact ends
  | some outcome =>
    obtain ⟨result, later⟩ := outcome
    rw [ended] at ends
    cases result <;> exact ends

end Ends

end Action

/-! ### Evaluation -/

variable {Context Context' : Type} [HasScope Context] [HasScope Context']

/-- Two operations keep a relation between contexts: from related ones they come to related ones,
with the same result. -/
def KeepInStep (certain : Prop) (related : Context → Context' → Prop)
    (operation : Operation Context) (operation' : Operation Context') : Prop :=
  ∀ arguments context context', related context context' →
    Matches certain (SameResult related) (operation arguments context)
      (operation' arguments context')

namespace Expr

/-- What an expression does by itself, when its operands have been evaluated, keeps a relation
between contexts: a variable has the same value in both, assignments of the same value keep the
relation, and so do the operations that are called. -/
def Keeps (certain : Prop) (related : Context → Context' → Prop) (registry : Registry Context)
    (registry' : Registry Context') : Expr → Prop
  | reference name => ∀ context context', related context context' →
    (HasScope.scope context).get? name = (HasScope.scope context').get? name
  | assign name _ => ∀ value context context', related context context' →
    related (HasScope.withScope context ((HasScope.scope context).insert name value))
      (HasScope.withScope context' ((HasScope.scope context').insert name value))
  | call name _ =>
    Option.Rel (KeepInStep certain related) (registry.get? name) (registry'.get? name)
  | _ => True

section Parts

variable {certain : Prop} {related : Context → Context' → Prop} {registry : Registry Context}
  {registry' : Registry Context'}

mutual

/-- Evaluations from related contexts keep in step if each part of the expression keeps the
relation. -/
theorem eval_matches_of_parts (expression : Expr)
    (keep : ∀ part ∈ expression.parts, part.Keeps certain related registry registry')
    {context : Context} {context' : Context'} (holds : related context context') :
    Matches certain (SameResult related) (expression.eval registry context)
      (expression.eval registry' context') := by
  have keeps := keep expression expression.self_mem_parts
  cases expression with
  | literal value => exact ⟨rfl, holds⟩
  | reference name =>
    have found : (HasScope.scope context).get? name = (HasScope.scope context').get? name :=
      keeps context context' holds
    simp only [eval, Action.bind_apply, Action.andThen, Action.look, found]
    cases (HasScope.scope context').get? name with
    | none => exact ⟨rfl, holds⟩
    | some value => exact ⟨rfl, holds⟩
  | list items =>
    rw [eval, eval]
    refine Action.matches_bind (evalAll_matches_of_parts items ?_ holds) ?_
    · exact fun part member => keep part (List.mem_append_left _ member)
    · exact fun values later later' holds => ⟨rfl, holds⟩
  | unary operator operand =>
    rw [eval, eval]
    refine Action.matches_bind (eval_matches_of_parts operand ?_ holds) ?_
    · exact fun part member => keep part (List.mem_append_left _ member)
    · exact fun value later later' holds => Action.matches_ofExcept _ holds
  | binary operator left right =>
    have leftKeep : ∀ part ∈ left.parts, part.Keeps certain related registry registry' :=
      fun part member => keep part (List.mem_append_left _ member)
    have rightKeep : ∀ part ∈ right.parts, part.Keeps certain related registry registry' :=
      fun part member =>
        keep part (List.mem_append_right _ (List.mem_append_left _ member))
    rw [eval, eval]
    refine Action.matches_bind (eval_matches_of_parts left leftKeep holds) ?_
    intro first later later' holds
    have rightMatches {Next : Type} (next : Value → Action Context EvalError Next)
        (next' : Value → Action Context' EvalError Next)
        (nexts : ∀ value last last', related last last' →
          Matches certain (SameResult related) (next value last) (next' value last')) :
        Matches certain (SameResult related) ((right.eval registry >>= next) later)
          ((right.eval registry' >>= next') later') :=
      Action.matches_bind (eval_matches_of_parts right rightKeep holds) nexts
    split
    · split
      · exact rightMatches _ _ fun _ _ _ holds => ⟨rfl, holds⟩
      · exact ⟨rfl, holds⟩
    · split
      · exact ⟨rfl, holds⟩
      · exact rightMatches _ _ fun _ _ _ holds => ⟨rfl, holds⟩
    · exact rightMatches _ _ fun _ _ _ holds => Action.matches_ofExcept _ holds
  | assign name expression =>
    rw [eval, eval]
    refine Action.matches_bind (eval_matches_of_parts expression ?_ holds) ?_
    · exact fun part member => keep part (List.mem_append_left _ member)
    intro value later later' holds
    have assigned : related (HasScope.withScope later ((HasScope.scope later).insert name value))
        (HasScope.withScope later' ((HasScope.scope later').insert name value)) :=
      keeps value later later' holds
    exact Action.matches_bind ⟨rfl, assigned⟩ fun _ _ _ holds => ⟨rfl, holds⟩
  | call name arguments =>
    rw [eval, eval]
    refine Action.matches_bind (evalAll_matches_of_parts arguments ?_ holds) ?_
    · exact fun part member => keep part (List.mem_append_left _ member)
    intro values later later' holds
    have operations : Option.Rel (KeepInStep certain related) (registry.get? name)
        (registry'.get? name) := keeps
    generalize registry.get? name = operation? at operations ⊢
    generalize registry'.get? name = operation?' at operations ⊢
    cases operations with
    | none => exact ⟨rfl, holds⟩
    | some keeps => exact Action.matches_mapError _ (keeps values later later' holds)
  | sequence items =>
    rw [eval, eval]
    exact evalLast_matches_of_parts items .null
      (fun part member => keep part (List.mem_append_left _ member)) holds
termination_by structural expression

theorem evalAll_matches_of_parts (items : List Expr)
    (keep : ∀ part ∈ partsOfAll items, part.Keeps certain related registry registry')
    {context : Context} {context' : Context'} (holds : related context context') :
    Matches certain (SameResult related) (evalAll registry items context)
      (evalAll registry' items context') := by
  cases items with
  | nil => exact ⟨rfl, holds⟩
  | cons item rest =>
    rw [evalAll, evalAll]
    refine Action.matches_bind (eval_matches_of_parts item ?_ holds) ?_
    · exact fun part member => keep part (List.mem_append_left _ member)
    intro value later later' holds
    refine Action.matches_bind (evalAll_matches_of_parts rest ?_ holds) ?_
    · exact fun part member => keep part (List.mem_append_right _ member)
    intro values last last' holds
    exact ⟨rfl, holds⟩
termination_by structural items

theorem evalLast_matches_of_parts (items : List Expr) (last : Value)
    (keep : ∀ part ∈ partsOfAll items, part.Keeps certain related registry registry')
    {context : Context} {context' : Context'} (holds : related context context') :
    Matches certain (SameResult related) (evalLast registry last items context)
      (evalLast registry' last items context') := by
  cases items with
  | nil => exact ⟨rfl, holds⟩
  | cons item rest =>
    rw [evalLast, evalLast]
    refine Action.matches_bind (eval_matches_of_parts item ?_ holds) ?_
    · exact fun part member => keep part (List.mem_append_left _ member)
    intro value later later' holds
    exact evalLast_matches_of_parts rest value
      (fun part member => keep part (List.mem_append_right _ member)) holds
termination_by structural items

end

end Parts

end Expr

/-- What a relation has to satisfy so that evaluations with two registries keep it, as long as only
some operations are called: the variables are the same, assignments keep the relation, and so do
the operations. -/
structure KeptByCalls (certain : Prop) (calls : String → Prop)
    (related : Context → Context' → Prop) (registry : Registry Context)
    (registry' : Registry Context') : Prop where
  scope : ∀ {context : Context} {context' : Context'}, related context context' →
    HasScope.scope context = HasScope.scope context'
  assignment : ∀ {context : Context} {context' : Context'} (scope : Scope),
    related context context' →
    related (HasScope.withScope context scope) (HasScope.withScope context' scope)
  operations : ∀ name, calls name → Option.Rel
    (fun (operation : Operation Context) (operation' : Operation Context') =>
      ∀ arguments context context', related context context' →
      Matches certain (SameResult related) (operation arguments context)
        (operation' arguments context'))
    (registry.get? name) (registry'.get? name)

/-- Evaluations from related contexts keep in step if the operations that are called do. -/
theorem Expr.eval_matches {certain : Prop} {calls : String → Prop}
    {related : Context → Context' → Prop} {registry : Registry Context}
    {registry' : Registry Context'}
    (kept : KeptByCalls certain calls related registry registry')
    (expression : Expr) (called : ∀ name ∈ expression.calls, calls name)
    {context : Context} {context' : Context'} (holds : related context context') :
    Matches certain (SameResult related) (expression.eval registry context)
      (expression.eval registry' context') := by
  refine eval_matches_of_parts expression (fun part member => ?_) holds
  cases part with
  | reference name =>
    intro context context' holds
    rw [kept.scope holds]
  | assign name expression =>
    intro value context context' holds
    rw [kept.scope holds]
    exact kept.assignment _ holds
  | call name arguments => exact kept.operations name (called name (mem_calls_of_mem_parts member))
  | literal | list | unary | binary | sequence => exact trivial

/-- What every part of an expression keeps of a context is kept by the evaluation. -/
theorem Expr.ends_eval {certain : Prop} {property : Context → Prop} {registry : Registry Context}
    (expression : Expr)
    (assigns : ∀ name operand, assign name operand ∈ expression.parts → ∀ context value,
      property context →
        property (HasScope.withScope context ((HasScope.scope context).insert name value)))
    (operates : ∀ name arguments operation, call name arguments ∈ expression.parts →
      registry.get? name = some operation → ∀ values context, property context →
        Ends certain (fun outcome : Except String Value × Context => property outcome.2)
          (operation values context))
    {context : Context} (holds : property context) :
    Ends certain (fun outcome : Except EvalError Value × Context => property outcome.2)
      (expression.eval registry context) := by
  have compared : Matches certain
      (SameResult fun later later' : Context => later = later' ∧ property later)
      (expression.eval registry context) (expression.eval registry context) := by
    refine eval_matches_of_parts expression (fun part member => ?_) ⟨rfl, holds⟩
    cases part with
    | reference name =>
      rintro context _ ⟨rfl, -⟩
      rfl
    | assign name operand =>
      rintro value context _ ⟨rfl, holds⟩
      exact ⟨rfl, assigns name operand member context value holds⟩
    | call name arguments =>
      show Option.Rel _ (registry.get? name) (registry.get? name)
      cases found : registry.get? name with
      | none => exact .none
      | some operation =>
        refine .some ?_
        rintro values context _ ⟨rfl, holds⟩
        have ends := operates name arguments operation member found values context holds
        cases ended : operation values context with
        | none =>
          rw [ended] at ends
          exact ends
        | some outcome =>
          rw [ended] at ends
          exact ⟨rfl, rfl, ends⟩
    | literal | list | unary | binary | sequence => exact trivial
  exact Ends.of_matches compared fun outcome related => related.2.2

end Playscript
