/-
This file says what built-in operations can do to a player. Each of them fails and changes nothing,
or makes one change, or calls the player again. A relation between two players that the changes and
the nested calls keep is therefore kept by every evaluation, and so is a property of one player.

Which operations matter is left open: only those that an expression calls have to keep anything.
-/

import Playscript.Playback.Builtin
import Playscript.Proofs.Comparison

namespace Playscript

/-! ### The operations in the registry -/

namespace Builtin

theorem name_injective : Function.Injective Builtin.name := by
  intro first second same
  revert same
  cases first <;> cases second <;> decide

/-- Where a table is filled with an entry for each of some operations, a name finds the entry of the
operation that has it. -/
theorem get?_foldl_insert {Entry : Type} (entry : Builtin → Entry) (builtins : List Builtin)
    (table : Table Entry) (name : String) :
    (builtins.foldl (fun table builtin => table.insert builtin.name (entry builtin)) table).get?
        name =
      ((builtins.find? fun builtin => builtin.name = name).map entry).or (table.get? name) := by
  induction builtins generalizing table with
  | nil => rfl
  | cons builtin rest inductionHypothesis =>
    rw [List.foldl_cons, inductionHypothesis, Table.get?_insert]
    by_cases isName : builtin.name = name
    · rw [List.find?_cons_of_pos (by simpa using isName), if_pos isName]
      cases later : rest.find? fun other => other.name = name with
      | none => rfl
      | some other =>
        have otherIsName : other.name = name := by simpa using List.find?_some later
        rw [name_injective (isName.trans otherIsName.symm)]
        rfl
    · rw [List.find?_cons_of_neg (by simpa using isName), if_neg isName]

theorem mem_all (builtin : Builtin) : builtin ∈ all := by
  cases builtin <;> decide

/-- Every operation is in the registry under its name. -/
theorem get?_registry (controls : Controls) (builtin : Builtin) :
    (registry controls).get? builtin.name = some (builtin.operation controls) := by
  unfold registry
  rw [get?_foldl_insert]
  cases builtin <;> rfl

/-- Where a table is filled for some operations, each of its entries is that of an operation. -/
theorem exists_of_get?_foldl_insert {Entry : Type} {entry : Builtin → Entry}
    {builtins : List Builtin} {name : String} {found : Entry}
    (isEntry : (builtins.foldl (fun table builtin => table.insert builtin.name (entry builtin))
      Table.empty).get? name = some found) :
    ∃ builtin : Builtin, builtin.name = name ∧ entry builtin = found := by
  rw [get?_foldl_insert, Table.get?_empty, Option.or_none] at isEntry
  obtain ⟨builtin, isNamed, same⟩ := Option.map_eq_some_iff.mp isEntry
  exact ⟨builtin, by simpa using List.find?_some isNamed, same⟩

/-- Tables that are filled for the same operations have matching entries if each operation has. -/
theorem rel_foldl_insert {First Second : Type} {first : Builtin → First} {second : Builtin → Second}
    {name : String} {related : First → Second → Prop} (builtins : List Builtin)
    (each : ∀ builtin : Builtin, builtin.name = name → related (first builtin) (second builtin)) :
    Option.Rel related
      ((builtins.foldl (fun table builtin => table.insert builtin.name (first builtin))
        Table.empty).get? name)
      ((builtins.foldl (fun table builtin => table.insert builtin.name (second builtin))
        Table.empty).get? name) := by
  rw [get?_foldl_insert, get?_foldl_insert]
  cases found : builtins.find? fun builtin => builtin.name = name with
  | none => exact .none
  | some builtin => exact .some (each builtin (by simpa using List.find?_some found))

end Builtin

/-! ### Relations between players -/

/-- What a relation between two players has to satisfy so that evaluations keep it, as long as only
some operations are called. The nested calls of the two players may be different. -/
structure KeptBySteering (certain : Prop) (calls : String → Prop) (controls controls' : Controls)
    (related : Player → Player → Prop) : Prop where
  scope : ∀ {player player' : Player}, related player player' → player.scope = player'.scope
  assignment : ∀ {player player' : Player} (scope : Scope), related player player' →
    related { player with scope := scope } { player' with scope := scope }
  emit : ∀ {player player' : Player} (event : Event), related player player' →
    related (player.emit event) (player'.emit event)
  setInstant : ∀ {player player' : Player} (instant : Bool), related player player' →
    related (player.setInstant instant) (player'.setInstant instant)
  switchInstant : ∀ {player player' : Player}, related player player' →
    related (player.setInstant !player.instant) (player'.setInstant !player'.instant)
  setConfirmFlushes : ∀ {player player' : Player} (flushes : Bool), related player player' →
    related (player.setConfirmFlushes flushes) (player'.setConfirmFlushes flushes)
  switchConfirmFlushes : ∀ {player player' : Player}, related player player' →
    related (player.setConfirmFlushes !player.settings.confirmFlushes)
      (player'.setConfirmFlushes !player'.settings.confirmFlushes)
  setSpeed : ∀ {player player' : Player} (charsPerSecond : Float), related player player' →
    Settings.isSpeed charsPerSecond →
    related { player with settings := { player.settings with charsPerSecond := charsPerSecond } }
      { player' with settings := { player'.settings with charsPerSecond := charsPerSecond } }
  setPause : ∀ {player player' : Player} (milliseconds : Float), related player player' →
    related { player with visit := { player.visit with pause := milliseconds } }
      { player' with visit := { player'.visit with pause := milliseconds } }
  loadScene : ∀ {player player' : Player} (name : String), calls Builtin.goto.name →
    related player player' → Option.Rel related (player.loadScene? name) (player'.loadScene? name)
  endScene : ∀ {player player' : Player}, related player player' →
    related player.endScene player'.endScene
  skipBeat : ∀ {player player' : Player}, calls Builtin.skip.name → related player player' →
    Matches certain related (controls.skipBeat player) (controls'.skipBeat player')
  continueBeat : ∀ {player player' : Player}, calls Builtin.flush.name → related player player' →
    Matches certain related (controls.continueBeat player) (controls'.continueBeat player')

namespace KeptBySteering

variable {certain : Prop} {calls : String → Prop} {controls controls' : Controls}
  {related : Player → Player → Prop} {player player' : Player}

variable (kept : KeptBySteering certain calls controls controls' related)

include kept

theorem matches_setSpeed (charsPerSecond : Float) (holds : related player player') :
    Matches certain (SameResult related)
      (Builtin.attempt (fun player => (player.setSpeed charsPerSecond).mapError .refused) player)
      (Builtin.attempt (fun player => (player.setSpeed charsPerSecond).mapError .refused)
        player') := by
  by_cases isSpeed : Settings.isSpeed charsPerSecond
  · simp only [Builtin.attempt, Player.setSpeed, if_pos isSpeed]
    exact ⟨rfl, kept.setSpeed charsPerSecond holds isSpeed⟩
  · simp only [Builtin.attempt, Player.setSpeed, if_neg isSpeed]
    exact ⟨rfl, holds⟩

theorem matches_pause (milliseconds : Float) (holds : related player player') :
    Matches certain (SameResult related)
      (Builtin.attempt (fun player => (player.pause milliseconds).mapError .refused) player)
      (Builtin.attempt (fun player => (player.pause milliseconds).mapError .refused) player') := by
  by_cases isPause : milliseconds.isFinite && 0 ≤ milliseconds
  · simp only [Builtin.attempt, Player.pause, if_pos isPause]
    exact ⟨rfl, kept.setPause milliseconds holds⟩
  · simp only [Builtin.attempt, Player.pause, if_neg isPause]
    exact ⟨rfl, holds⟩

theorem matches_loadScene (name : String) (called : calls Builtin.goto.name)
    (holds : related player player') :
    Matches certain (SameResult related) (Builtin.attempt (Builtin.loadScene name) player)
      (Builtin.attempt (Builtin.loadScene name) player') := by
  have loaded := kept.loadScene name called holds
  unfold Builtin.attempt Builtin.loadScene
  generalize player.loadScene? name = later? at loaded ⊢
  generalize player'.loadScene? name = later?' at loaded ⊢
  cases loaded with
  | none => exact ⟨rfl, holds⟩
  | some holds => exact ⟨rfl, holds⟩

/-- What an operation does keeps the relation. Wrong arguments change nothing. -/
theorem matches_perform (builtin : Builtin) (called : calls builtin.name) (arguments : List Value)
    (holds : related player player') :
    Matches certain (SameResult related) (builtin.perform controls arguments player)
      (builtin.perform controls' arguments player') := by
  cases builtin with
  | instant =>
    match arguments with
    | [] => exact ⟨rfl, kept.switchInstant holds⟩
    | [value] => exact ⟨rfl, kept.setInstant _ holds⟩
    | _ :: _ :: _ => exact ⟨rfl, holds⟩
  | flushing =>
    match arguments with
    | [] => exact ⟨rfl, kept.switchConfirmFlushes holds⟩
    | [value] => exact ⟨rfl, kept.setConfirmFlushes _ holds⟩
    | _ :: _ :: _ => exact ⟨rfl, holds⟩
  | speed =>
    match arguments with
    | [] => exact ⟨rfl, holds⟩
    | [argument] =>
      refine Action.matches_bind (Action.matches_ofExcept _ holds) ?_
      intro charsPerSecond later later' holds
      exact kept.matches_setSpeed charsPerSecond holds
    | _ :: _ :: _ => exact ⟨rfl, holds⟩
  | pause =>
    match arguments with
    | [] => exact ⟨rfl, holds⟩
    | [argument] =>
      refine Action.matches_bind (Action.matches_ofExcept _ holds) ?_
      intro milliseconds later later' holds
      exact kept.matches_pause milliseconds holds
    | _ :: _ :: _ => exact ⟨rfl, holds⟩
  | goto =>
    match arguments with
    | [] => exact ⟨rfl, holds⟩
    | [.string name] => exact kept.matches_loadScene name called holds
    | [.null] | [.bool _] | [.int _] | [.float _] | [.list _] => exact ⟨rfl, holds⟩
    | first :: _ :: _ => cases first <;> exact ⟨rfl, holds⟩
  | skip =>
    match arguments with
    | [] => exact Action.matches_run (kept.skipBeat called holds)
    | _ :: _ => exact ⟨rfl, holds⟩
  | flush =>
    match arguments with
    | [] => exact Action.matches_run (kept.continueBeat called holds)
    | _ :: _ => exact ⟨rfl, holds⟩
  | clear =>
    match arguments with
    | [] => exact ⟨rfl, kept.emit .clear holds⟩
    | _ :: _ => exact ⟨rfl, holds⟩
  | finish =>
    match arguments with
    | [] => exact ⟨rfl, kept.endScene holds⟩
    | _ :: _ => exact ⟨rfl, holds⟩

theorem matches_operation (builtin : Builtin) (called : calls builtin.name)
    (arguments : List Value) (holds : related player player') :
    Matches certain (SameResult related) (builtin.operation controls arguments player)
      (builtin.operation controls' arguments player') := by
  refine Action.matches_mapError _ ?_
  refine Action.matches_bind (kept.matches_perform builtin called arguments holds) ?_
  intro result later later' holds
  exact ⟨rfl, holds⟩

theorem keptByCalls :
    KeptByCalls certain calls related (Builtin.registry controls) (Builtin.registry controls') where
  scope := kept.scope
  assignment := kept.assignment
  operations _ called :=
    Builtin.rel_foldl_insert Builtin.all fun builtin isName arguments _ _ holds =>
      kept.matches_operation builtin (isName ▸ called) arguments holds

/-- Evaluations against the built-in operations keep the relation, and errors are put out alike. -/
theorem matches_evaluate (expression : Expr) (called : ∀ name ∈ expression.calls, calls name)
    (holds : related player player') :
    Matches certain (SameResult related)
      (player.evaluate (Builtin.registry controls) expression)
      (player'.evaluate (Builtin.registry controls') expression) := by
  have compared := Expr.eval_matches kept.keptByCalls expression called holds
  unfold Player.evaluate
  cases ended : expression.eval (Builtin.registry controls) player with
  | none =>
    rw [ended] at compared
    exact compared
  | some outcome =>
    obtain ⟨result, later⟩ := outcome
    obtain ⟨⟨result', later'⟩, ended', same, holds⟩ := compared.of_some ended
    obtain rfl : result = result' := same
    rw [ended']
    cases result with
    | error error => exact ⟨rfl, kept.emit _ holds⟩
    | ok value => exact ⟨rfl, holds⟩

theorem matches_evaluateAll (expressions : List Expr)
    (called : ∀ expression ∈ expressions, ∀ name ∈ expression.calls, calls name)
    (holds : related player player') :
    Matches certain related
      (Player.evaluateAll (Builtin.registry controls) expressions player)
      (Player.evaluateAll (Builtin.registry controls') expressions player') := by
  induction expressions generalizing player player' with
  | nil => exact holds
  | cons expression rest inductionHypothesis =>
    refine (kept.matches_evaluate expression (called expression List.mem_cons_self) holds).bind ?_
    intro first second same
    exact inductionHypothesis
      (fun other member => called other (List.mem_cons_of_mem _ member)) same.2

end KeptBySteering

/-! ### Properties of a player -/

/-- What a property of a player has to satisfy so that evaluations keep it, as long as only some
operations are called. -/
structure LastsThroughSteering (certain : Prop) (calls : String → Prop) (controls : Controls)
    (property : Player → Prop) : Prop where
  assignment : ∀ {player : Player} (scope : Scope), property player →
    property { player with scope := scope }
  emit : ∀ {player : Player} (event : Event), property player → property (player.emit event)
  setInstant : ∀ {player : Player} (instant : Bool), property player →
    property (player.setInstant instant)
  setConfirmFlushes : ∀ {player : Player} (flushes : Bool), property player →
    property (player.setConfirmFlushes flushes)
  setSpeed : ∀ {player : Player} (charsPerSecond : Float), property player →
    Settings.isSpeed charsPerSecond →
    property { player with settings := { player.settings with charsPerSecond := charsPerSecond } }
  setPause : ∀ {player : Player} (milliseconds : Float), property player →
    property { player with visit := { player.visit with pause := milliseconds } }
  loadScene : ∀ {player later : Player} {name : String}, calls Builtin.goto.name →
    property player → player.loadScene? name = some later → property later
  endScene : ∀ {player : Player}, property player → property player.endScene
  skipBeat : ∀ {player : Player}, calls Builtin.skip.name → property player →
    Ends certain property (controls.skipBeat player)
  continueBeat : ∀ {player : Player}, calls Builtin.flush.name → property player →
    Ends certain property (controls.continueBeat player)

namespace LastsThroughSteering

variable {certain : Prop} {calls : String → Prop} {controls : Controls} {property : Player → Prop}
  {player : Player} (lasts : LastsThroughSteering certain calls controls property)

include lasts

/-- A player beside itself keeps the property. -/
theorem keptBySteering :
    KeptBySteering certain calls controls controls
      fun player player' => player = player' ∧ property player where
  scope := by
    rintro player _ ⟨rfl, -⟩
    rfl
  assignment := by
    rintro player _ scope ⟨rfl, holds⟩
    exact ⟨rfl, lasts.assignment scope holds⟩
  emit := by
    rintro player _ event ⟨rfl, holds⟩
    exact ⟨rfl, lasts.emit event holds⟩
  setInstant := by
    rintro player _ instant ⟨rfl, holds⟩
    exact ⟨rfl, lasts.setInstant instant holds⟩
  switchInstant := by
    rintro player _ ⟨rfl, holds⟩
    exact ⟨rfl, lasts.setInstant _ holds⟩
  setConfirmFlushes := by
    rintro player _ flushes ⟨rfl, holds⟩
    exact ⟨rfl, lasts.setConfirmFlushes flushes holds⟩
  switchConfirmFlushes := by
    rintro player _ ⟨rfl, holds⟩
    exact ⟨rfl, lasts.setConfirmFlushes _ holds⟩
  setSpeed := by
    rintro player _ charsPerSecond ⟨rfl, holds⟩ isSpeed
    exact ⟨rfl, lasts.setSpeed charsPerSecond holds isSpeed⟩
  setPause := by
    rintro player _ milliseconds ⟨rfl, holds⟩
    exact ⟨rfl, lasts.setPause milliseconds holds⟩
  loadScene := by
    rintro player _ name called ⟨rfl, holds⟩
    cases loaded : player.loadScene? name with
    | none => exact .none
    | some later => exact .some ⟨rfl, lasts.loadScene called holds loaded⟩
  endScene := by
    rintro player _ ⟨rfl, holds⟩
    exact ⟨rfl, lasts.endScene holds⟩
  skipBeat := by
    rintro player _ called ⟨rfl, holds⟩
    exact (lasts.skipBeat called holds).beside
  continueBeat := by
    rintro player _ called ⟨rfl, holds⟩
    exact (lasts.continueBeat called holds).beside

theorem ends_evaluate (expression : Expr) (called : ∀ name ∈ expression.calls, calls name)
    (holds : property player) :
    Ends certain (fun outcome : Option Value × Player => property outcome.2)
      (player.evaluate (Builtin.registry controls) expression) := by
  have compared := lasts.keptBySteering.matches_evaluate expression called ⟨rfl, holds⟩
  exact .of_matches compared fun outcome same => same.2.2

theorem ends_evaluateAll (expressions : List Expr)
    (called : ∀ expression ∈ expressions, ∀ name ∈ expression.calls, calls name)
    (holds : property player) :
    Ends certain property
      (Player.evaluateAll (Builtin.registry controls) expressions player) := by
  have compared := lasts.keptBySteering.matches_evaluateAll expressions called ⟨rfl, holds⟩
  exact .of_matches compared fun later same => same.2

end LastsThroughSteering

end Playscript
