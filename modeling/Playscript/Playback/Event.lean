/-
This file holds what a player puts out. Whoever shows the play receives the events one by one; a
display keeps what has been received so far.
-/

namespace Playscript

/-- One thing that a player puts out: a typed character, a text that appears at once, a wiped
display, or the message of an expression that failed. -/
inductive Event where
  | character (character : Char)
  | text (content : String)
  | clear
  | error (message : String)
  deriving DecidableEq, Repr

/-- A display that keeps everything. -/
structure Display where
  /-- What has appeared since the display was wiped. -/
  text : String := ""
  /-- What has ever appeared. -/
  transcript : String := ""
  /-- How many times the display was wiped. -/
  clears : Nat := 0
  /-- The messages of failed expressions. -/
  errors : Array String := #[]
  deriving DecidableEq, Repr

namespace Display

/-- The display before the first event. -/
def empty : Display := {}

/-- Takes an event in. -/
def receive (display : Display) : Event → Display
  | .character character =>
    { display with
      text := display.text.push character
      transcript := display.transcript.push character }
  | .text content =>
    { display with
      text := display.text ++ content
      transcript := display.transcript ++ content }
  | .clear => { display with text := "", clears := display.clears + 1 }
  | .error message => { display with errors := display.errors.push message }

/-- Takes events in, one after the other. -/
def receiveAll (display : Display) (events : Array Event) : Display :=
  events.foldl receive display

end Display

end Playscript
