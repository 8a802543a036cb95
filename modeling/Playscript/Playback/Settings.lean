/-
This file holds the settings of a player: how fast it types, and whether a confirmation may cut the
typing short. Speeds and pauses that scripts use often have names.
-/

namespace Playscript

/-- Settings of a player. -/
structure Settings where
  /-- How many characters are typed in a second. -/
  charsPerSecond : Float := 40
  /-- Whether a confirmation during the typing shows the rest of the beat at once. -/
  confirmFlushes : Bool := true

namespace Settings

instance : Inhabited Settings := ⟨{}⟩

/-- How many milliseconds are spent on a character. -/
def charInterval (settings : Settings) : Float := 1000 / settings.charsPerSecond

/-- Only a finite, positive speed makes progress. -/
def isSpeed (charsPerSecond : Float) : Bool := charsPerSecond.isFinite && 0 < charsPerSecond

/-- The settings, with the usual speed in place of one that makes no progress. -/
def repaired (settings : Settings) : Settings :=
  if isSpeed settings.charsPerSecond then settings
  else { settings with charsPerSecond := ({} : Settings).charsPerSecond }

end Settings

/-! ### Named speeds -/

/-- The speeds with names. -/
inductive SpeedPreset where
  | slow
  | normal
  | fast
  deriving DecidableEq, Repr

namespace SpeedPreset

/-- All named speeds, from slow to fast. -/
def all : List SpeedPreset := [slow, normal, fast]

/-- The name of a speed. -/
def name : SpeedPreset → String
  | slow => "slow"
  | normal => "normal"
  | fast => "fast"

/-- How many characters are typed in a second. -/
def charsPerSecond : SpeedPreset → Float
  | slow => 15
  | normal => ({} : Settings).charsPerSecond
  | fast => 80

/-- The speed of a name. -/
def ofName? (name : String) : Option SpeedPreset := all.find? (·.name = name)

end SpeedPreset

/-! ### Named pauses -/

/-- The pauses with names. -/
inductive PausePreset where
  | short
  | medium
  | long
  deriving DecidableEq, Repr

namespace PausePreset

/-- All named pauses, from short to long. -/
def all : List PausePreset := [short, medium, long]

/-- The name of a pause. -/
def name : PausePreset → String
  | short => "short"
  | medium => "medium"
  | long => "long"

/-- How many milliseconds a pause lasts. -/
def milliseconds : PausePreset → Float
  | short => 250
  | medium => 500
  | long => 1000

/-- The pause of a name. -/
def ofName? (name : String) : Option PausePreset := all.find? (·.name = name)

end PausePreset

end Playscript
