/-
This file holds actions. An action works on a context and ends with a result or with an error; in
both cases it leaves a context behind, so effects made before an error stay. An action that calls
itself again and again may never end, and the answer "none" says that it did not end within the
depth of calls that it was given.
-/

namespace Playscript

/-- An action on a context that ends, if it does, with a result or an error. -/
def Action (Context Error Result : Type) : Type :=
  Context → Option (Except Error Result × Context)

namespace Action

variable {Context Error Result Next : Type}

/-- The action that only gives a result. -/
def give (result : Result) : Action Context Error Result :=
  fun context => some (.ok result, context)

/-- The action that only fails. -/
def fail (error : Error) : Action Context Error Result :=
  fun context => some (.error error, context)

/-- One action after another. An error ends both. -/
def andThen (first : Action Context Error Result) (next : Result → Action Context Error Next) :
    Action Context Error Next := fun context =>
  match first context with
  | none => none
  | some (.ok result, later) => next result later
  | some (.error error, later) => some (.error error, later)

instance : Monad (Action Context Error) where
  pure := give
  bind := andThen

/-- The action that gives a result which has already been worked out, or fails. -/
def ofExcept : Except Error Result → Action Context Error Result
  | .ok result => give result
  | .error error => fail error

/-- The action that gives the context as it stands. -/
def look : Action Context Error Context := fun context => some (.ok context, context)

/-- The action that changes the context. -/
def change (update : Context → Context) : Action Context Error Unit :=
  fun context => some (.ok (), update context)

/-- The action that hands the context to a function that may not end. -/
def run (update : Context → Option Context) : Action Context Error Unit := fun context =>
  (update context).map fun later => (.ok (), later)

/-- The same action, whose errors are reported in other terms. -/
def mapError {Other : Type} (action : Action Context Error Result) (report : Error → Other) :
    Action Context Other Result := fun context =>
  match action context with
  | none => none
  | some (.ok result, later) => some (.ok result, later)
  | some (.error error, later) => some (.error (report error), later)

@[simp] theorem pure_apply (result : Result) (context : Context) :
    (pure result : Action Context Error Result) context = some (.ok result, context) := rfl

@[simp] theorem bind_apply (first : Action Context Error Result)
    (next : Result → Action Context Error Next) (context : Context) :
    (first >>= next) context = first.andThen next context := rfl

theorem bind_of_ok {first : Action Context Error Result} {context later : Context}
    {result : Result} (ended : first context = some (.ok result, later))
    (next : Result → Action Context Error Next) : (first >>= next) context = next result later := by
  rw [bind_apply, andThen, ended]

theorem bind_of_error {first : Action Context Error Result} {context later : Context}
    {error : Error} (ended : first context = some (.error error, later))
    (next : Result → Action Context Error Next) :
    (first >>= next) context = some (.error error, later) := by
  rw [bind_apply, andThen, ended]

theorem ofExcept_apply (outcome : Except Error Result) (context : Context) :
    ofExcept outcome context = some (outcome, context) := by
  cases outcome <;> rfl

end Action

end Playscript
