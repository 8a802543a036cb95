/-
This file holds the values that expressions compute with. A value has two written forms: its text is
what a reader of the script sees, and its diagnostic form shows the structure as well.
-/

import Playscript.Number.Text
import Playscript.Text.Quotation

namespace Playscript

/-- A value: nothing, a truth value, a 64-bit integer, a floating-point number, a text, or a list of
values. -/
inductive Value where
  | null
  | bool (truth : Bool)
  | int (number : Int64)
  | float (number : Float)
  | string (text : String)
  | list (items : List Value)
  deriving Inhabited

/-- The six kinds of values. -/
inductive ValueKind where
  | null
  | bool
  | int
  | float
  | string
  | list
  deriving DecidableEq, Repr

/-- A kind of value as it is called in messages. -/
def ValueKind.name : ValueKind → String
  | null => "null"
  | bool => "bool"
  | int => "int"
  | float => "float"
  | string => "string"
  | list => "list"

namespace Value

/-- The kind of a value. -/
def kind : Value → ValueKind
  | null => .null
  | bool _ => .bool
  | int _ => .int
  | float _ => .float
  | string _ => .string
  | list _ => .list

/-- Only nothing and the truth value false fail a test. -/
def isTruthy : Value → Bool
  | null => false
  | bool truth => truth
  | _ => true

/-- Whether a value is nothing. -/
def isNull : Value → Bool
  | null => true
  | _ => false

/-- A number as a floating-point number. -/
def number? : Value → Option Float
  | int number => some (Float.ofInt number.toInt)
  | float number => some number
  | _ => none

/-- The text of a string. -/
def string? : Value → Option String
  | string text => some text
  | _ => none

/-! ### Text -/

mutual

/-- What a reader sees of a value: a string is itself, numbers are in base ten, nothing is empty,
and a list is the texts of its items with single spaces between them, where empty texts drop out. -/
def text : Value → String
  | null => ""
  | bool true => "true"
  | bool false => "false"
  | int number => toString number.toInt
  | float number => floatText number
  | string content => content
  | list items => itemsText items

/-- The texts that are not empty, with single spaces between them. -/
def itemsText : List Value → String
  | [] => ""
  | item :: rest =>
    if item.text = "" then itemsText rest
    else if itemsText rest = "" then item.text
    else item.text ++ " " ++ itemsText rest

end

mutual

/-- The diagnostic form of a value: strings are quoted, and lists stand in brackets. -/
def diagnostic : Value → String
  | null => "null"
  | string content => quotation content
  | list items => "[" ++ itemsDiagnostic items ++ "]"
  | bool truth => (bool truth).text
  | int number => (int number).text
  | float number => (float number).text

/-- The diagnostic forms of values with commas between them. -/
def itemsDiagnostic : List Value → String
  | [] => ""
  | [item] => item.diagnostic
  | item :: next :: rest => item.diagnostic ++ ", " ++ itemsDiagnostic (next :: rest)

end

/-! ### Sameness -/

mutual

/-- Whether two values are of the same kind and equal. Floating-point numbers are compared as
numbers, so zero equals minus zero, and what is not a number equals nothing. -/
def same : Value → Value → Bool
  | null, null => true
  | bool first, bool second => first == second
  | int first, int second => first == second
  | float first, float second => first == second
  | string first, string second => first == second
  | list first, list second => sameItems first second
  | _, _ => false

/-- Whether two lists have the same items. -/
def sameItems : List Value → List Value → Bool
  | [], [] => true
  | first :: firsts, second :: seconds => first.same second && sameItems firsts seconds
  | _, _ => false

end

instance : BEq Value := ⟨same⟩

end Value

end Playscript
