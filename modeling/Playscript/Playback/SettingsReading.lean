/-
This file reads the settings of a player from JSON. Settings are an object, whose fields may be
missing, or the list of the fields in order, which may be cut short. Fields of other names are
passed over, but a known field must not occur twice.
-/

import Playscript.Json.Number
import Playscript.Json.Skipping
import Playscript.Playback.Settings

namespace Playscript

namespace Json.Reader

/-- Ends with the fault of a value that is something else than is asked for. The value is read
first, if it is neither a list nor an object, so a malformed one is found. -/
def mismatch {Result : Type} (first : Char) : Reader Result := do
  if first.isDigit ∨ first = '-' then
    let _ ← number
  else
    match first with
    | '"' =>
      drop
      let _ ← string
    | 'n' => word ['n', 'u', 'l', 'l']
    | 't' => word ['t', 'r', 'u', 'e']
    | 'f' => word ['f', 'a', 'l', 's', 'e']
    | '[' | '{' => pure ()
    | _ => throw .malformed
  throw .misshapen

/-- A number and nothing else. -/
def numberField : Reader Float := do
  let first ← visible
  if first.isDigit ∨ first = '-' then number else mismatch first

/-- A truth value and nothing else. -/
def boolField : Reader Bool := do
  match ← visible with
  | 't' => word ['t', 'r', 'u', 'e']; return true
  | 'f' => word ['f', 'a', 'l', 's', 'e']; return false
  | first => mismatch first

end Json.Reader

namespace Settings

open Json Json.Reader

/-- The fields that have been read so far. -/
structure Fields where
  charsPerSecond : Option Float := none
  confirmFlushes : Option Bool := none

/-- The settings with the usual values where fields are missing. -/
def Fields.settings (fields : Fields) : Settings where
  charsPerSecond := fields.charsPerSecond.getD ({} : Settings).charsPerSecond
  confirmFlushes := fields.confirmFlushes.getD ({} : Settings).confirmFlushes

/-- The colon between a name and a value. -/
def colon : Reader Unit := do
  if (← visible) ≠ ':' then throw .malformed
  drop

/-- The colon and value of a field. That a known field occurs again is found before its value is
looked at. -/
def field (name : String) (fields : Fields) : Reader Fields := do
  match name with
  | "chars_per_sec" =>
    if fields.charsPerSecond.isSome then throw .misshapen
    colon
    return { fields with charsPerSecond := some (← numberField) }
  | "confirm_flushes" =>
    if fields.confirmFlushes.isSome then throw .misshapen
    colon
    return { fields with confirmFlushes := some (← boolField) }
  | _ =>
    colon
    skipValue
    return fields

/-- The fields of an object and its closing brace, so many fields at most. -/
def members : Nat → Spot → Fields → Reader Fields
  | 0, _, _ => throw .ended
  | fuel + 1, spot, fields => do
    let character ← visible
    if character = '}' then
      drop
      return fields
    if spot = .filled then
      if character ≠ ',' then throw .malformed
      drop
    if (← visible) ≠ '"' then throw .malformed
    drop
    let later ← field (← string) fields
    members fuel .filled later

/-- Whether a list goes on; the comma before the next item is taken. -/
def goesOn (spot : Spot) : Reader Bool := do
  let character ← visible
  if character = ']' then return false
  if spot = .filled then
    if character ≠ ',' then throw .malformed
    drop
    if (← visible) = ']' then throw .malformed
  return true

/-- The fields in a list and its closing bracket. -/
def items : Reader Fields := do
  let mut fields : Fields := {}
  if ← goesOn .opened then
    fields := { fields with charsPerSecond := some (← numberField) }
    if ← goesOn .filled then
      fields := { fields with confirmFlushes := some (← boolField) }
  if (← visible) ≠ ']' then throw .malformed
  drop
  return fields

/-- Settings, as an object or a list. -/
def reader : Reader Settings := do
  let length := (← get).length
  let fields ← match ← visible with
    | '{' =>
      drop
      members (length + 1) .opened {}
    | '[' =>
      drop
      items
    | first => mismatch first
  return fields.settings

/-- The settings that a JSON text holds. -/
def ofJson (text : String) : Except Fault Settings :=
  ((do let settings ← reader; finish; return settings : Reader Settings).run text.toList).map
    Prod.fst

end Settings

end Playscript
