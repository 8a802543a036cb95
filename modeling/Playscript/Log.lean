/-
This file says how much of the work on scripts goes to a log. There is a level for everything and,
where wanted, another level for a single phase; a filter made of these decides about each message by
the target that it is written to.
-/

import Playscript.Phase

namespace Playscript

/-! ### Levels -/

/-- How much a message matters, and how much of the messages is wanted; the later levels are the
more talkative ones. -/
inductive LogLevel where
  | error
  | warn
  | info
  | debug
  | trace
  deriving DecidableEq, Repr

namespace LogLevel

/-- All levels, the most talkative last. -/
def all : List LogLevel := [error, warn, info, debug, trace]

/-- The name of a level. -/
def name : LogLevel → String
  | error => "ERROR"
  | warn => "WARN"
  | info => "INFO"
  | debug => "DEBUG"
  | trace => "TRACE"

/-- The level of a name. -/
def ofName? (name : String) : Option LogLevel := all.find? (·.name = name)

/-- Whether messages of another level are wanted at a level. -/
def lets (level other : LogLevel) : Bool := all.idxOf other ≤ all.idxOf level

end LogLevel

/-! ### Settings -/

/-- The levels for everything and for single phases. -/
structure LogSettings where
  everything : LogLevel := .info
  tokenizer : Option LogLevel := none
  parser : Option LogLevel := none
  compiler : Option LogLevel := none
  runner : Option LogLevel := none
  deriving DecidableEq, Repr

namespace LogSettings

/-- The same level for everything. -/
def all (level : LogLevel) : LogSettings := { everything := level }

/-- The level for a phase. -/
def levelFor (settings : LogSettings) (phase : Phase) : LogLevel :=
  let own :=
    match phase with
    | .tokenizer => settings.tokenizer
    | .parser => settings.parser
    | .compiler => settings.compiler
    | .runner => settings.runner
  own.getD settings.everything

end LogSettings

/-! ### Filters -/

/-- A filter for messages: a level for each of some targets, and one for all other targets. -/
structure LogFilter where
  targets : List (String × LogLevel)
  others : LogLevel
  deriving DecidableEq, Repr

namespace LogFilter

/-- The filter of some settings has the targets of all phases. -/
def ofSettings (settings : LogSettings) : LogFilter where
  targets := Phase.all.map fun phase => (phase.target, settings.levelFor phase)
  others := settings.everything

/-- The level for a target. Of the targets that it begins with the longest decides. -/
def levelFor (filter : LogFilter) (target : String) : LogLevel :=
  let longer (best : Option (String × LogLevel)) (candidate : String × LogLevel) :=
    match best with
    | none => some candidate
    | some found => if found.1.length < candidate.1.length then some candidate else best
  let matching := filter.targets.filter fun candidate =>
    candidate.1.toList.isPrefixOf target.toList
  match matching.foldl longer none with
  | some (_, level) => level
  | none => filter.others

/-- Whether a message of some level passes. -/
def passes (filter : LogFilter) (target : String) (level : LogLevel) : Bool :=
  (filter.levelFor target).lets level

end LogFilter

/-! ### Formats -/

/-- How messages are laid out. -/
inductive LogFormat where
  | pretty
  | compact
  | json
  deriving DecidableEq, Repr

namespace LogFormat

/-- All formats. -/
def all : List LogFormat := [pretty, compact, json]

/-- The name of a format. -/
def name : LogFormat → String
  | pretty => "pretty"
  | compact => "compact"
  | json => "json"

/-- The format of a name. -/
def ofName? (name : String) : Option LogFormat := all.find? (·.name = name)

end LogFormat

end Playscript
