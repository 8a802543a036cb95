/-
This file holds what can go wrong before a script plays: the text is no script, the script has
defects, or the scene to start from does not exist. A failure can be shown to a reader as it is, or
as records that a tool can work on, one for each place that is at fault.
-/

import Playscript.Json.Writing
import Playscript.Phase
import Playscript.Script.Compilation

namespace Playscript

/-! ### Failures -/

/-- Why a text gives nothing that could be played. -/
inductive Failure where
  | noScript (error : ScriptError)
  | defects (report : Report)
  | unknownScene (name : String)
  deriving DecidableEq, Repr

namespace Failure

/-- The phase in which a failure arises. -/
def phase : Failure → Phase
  | noScript (.mistake _) => .tokenizer
  | noScript .missingMain => .parser
  | defects _ => .compiler
  | unknownScene _ => .runner

/-- A failure in words. -/
def message : Failure → String
  | noScript error => error.message
  | defects report => "Compile error:\n" ++ report.text
  | unknownScene name => "unknown scene '" ++ name ++ "'"

end Failure

/-! ### Records -/

/-- A failure at one place, with as much of the place as is known. -/
structure Record where
  phase : Phase
  scene : Option String := none
  beat : Option Nat := none
  node : Option Nat := none
  position : Option Position := none
  /-- What kind of error it is, as programs know it. -/
  errorKind : String
  message : String
  deriving DecidableEq, Repr

namespace Record

/-- A record in a few words. -/
def short (record : Record) : String := record.phase.name ++ ": " ++ record.message

/-- A record with its position, or with its phase where there is no position. -/
def text (record : Record) : String :=
  let place :=
    match record.position with
    | some position => position.text
    | none => record.phase.name
  "[" ++ place ++ "] " ++ record.phase.name ++ " error: " ++ record.message

/-- A record as a JSON object. All fields are written, the absent ones as null. -/
def json (record : Record) : String :=
  Json.object [
    ("phase", Json.string record.phase.name),
    ("scene", Json.orNull Json.string record.scene),
    ("beat", Json.orNull Json.natural record.beat),
    ("node", Json.orNull Json.natural record.node),
    ("line", Json.orNull Json.natural (record.position.map (·.line))),
    ("column", Json.orNull Json.natural (record.position.map (·.column))),
    ("error_kind", Json.string record.errorKind),
    ("message", Json.string record.message)]

/-- Records as a JSON list. -/
def listJson (records : List Record) : String := Json.list (records.map json)

/-- The record of a defect. -/
def ofDefect (defect : Defect) : Record where
  phase := .compiler
  scene := some defect.scene
  beat := some defect.beat
  node := some defect.node
  position := some defect.position
  errorKind := "CompileError"
  message := defect.message

end Record

namespace Failure

/-- The records of a failure: one for each defect, and exactly one for any other failure. -/
def records (failure : Failure) : List Record :=
  match failure with
  | noScript (.mistake mistake) =>
    [{ phase := failure.phase
       position := some mistake.position
       errorKind := mistake.fault.name
       message := failure.message }]
  | noScript .missingMain =>
    [{ phase := failure.phase
       errorKind := "MissingMain"
       message := failure.message }]
  | defects report => report.defects.map Record.ofDefect
  | unknownScene name =>
    [{ phase := failure.phase
       scene := some name
       errorKind := "UnknownScene"
       message := failure.message }]

end Failure

end Playscript
