/-
This file holds what expressions are evaluated against: variables in a scope, and named operations
in a registry. An operation works on the context of the evaluation, so it can do whatever the
context allows, such as steering the playback that evaluates it.
-/

import Playscript.Expr.Action
import Playscript.Expr.Value
import Playscript.Table

namespace Playscript

/-- The variables and their values. -/
abbrev Scope := Table Value

/-- Anything that expressions can be evaluated against: it has variables. -/
class HasScope (Context : Type) where
  scope : Context → Scope
  withScope : Context → Scope → Context

instance : HasScope Scope where
  scope := id
  withScope _ scope := scope

/-- A named operation takes values that are already computed; it gives a value or fails with a
message. -/
abbrev Operation (Context : Type) := List Value → Action Context String Value

/-- Operations under their names. -/
abbrev Registry (Context : Type) := Table (Operation Context)

namespace Scope

/-- Binds a variable; gives its earlier value as well. -/
def set (scope : Scope) (name : String) (value : Value) : Option Value × Scope :=
  (scope.get? name, scope.insert name value)

/-- Unbinds a variable; gives its earlier value as well. -/
def remove (scope : Scope) (name : String) : Option Value × Scope :=
  (scope.get? name, scope.erase name)

end Scope

namespace Registry

/-- The diagnostic form of a registry lists the names of its operations. -/
def diagnostic {Context : Type} (registry : Registry Context) : String :=
  "Registry \x7b operations: [" ++ ", ".intercalate (registry.names.map quotation) ++ "] \x7d"

end Registry

end Playscript
