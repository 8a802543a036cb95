/-
This file holds the phases that a script goes through on its way to the player.
-/

namespace Playscript

/-- A phase of the work on a script. -/
inductive Phase where
  | tokenizer
  | parser
  | compiler
  | runner
  deriving DecidableEq, Repr

namespace Phase

/-- All phases, in the order in which a script meets them. -/
def all : List Phase := [tokenizer, parser, compiler, runner]

/-- The name of a phase. -/
def name : Phase → String
  | tokenizer => "tokenizer"
  | parser => "parser"
  | compiler => "compiler"
  | runner => "runner"

/-- The target under which a phase writes to the log. -/
def target : Phase → String
  | tokenizer => "patter::tokenizer"
  | parser => "patter::parser"
  | compiler => "patter::compiler"
  | runner => "patter::runner"

/-- The phase of a name. -/
def ofName? (name : String) : Option Phase := all.find? (·.name = name)

end Phase

end Playscript
