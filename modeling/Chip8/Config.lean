import Chip8.Text.Quoted

set_option autoImplicit false

/-! # Machine configuration

A machine runs one of two instruction profiles and follows one of two sets of conventions where
historic machines disagree. The configuration never changes while a machine runs, so it is a plain
value carried by the state. -/

namespace Chip8

/-- The instruction profiles. `core` is the minimal subset (clear, jump, skip-if-equal, load, add,
    load index, draw); `extended` is the whole instruction set. -/
inductive InstructionSet where
  | core
  | extended
deriving DecidableEq

namespace InstructionSet

/-- Every profile, in the order in which they are listed to a user. -/
def all : List InstructionSet := [core, extended]

/-- The symbolic name of a profile. -/
def name : InstructionSet → String
  | core => "CORE"
  | extended => "EXTENDED"

/-- The value that stands for a profile in data. -/
def value : InstructionSet → String
  | core => "core"
  | extended => "extended"

/-- The profile with a given symbolic name. -/
def ofName? (text : String) : Option InstructionSet := all.find? (·.name == text)

/-- The profile with a given value. -/
def ofValue? (text : String) : Option InstructionSet := all.find? (·.value == text)

/-- What is said of a text that is no value of a profile. -/
def unknownValue (text : String) : String :=
  Text.Quoted.encode text ++ " is not a valid InstructionSet"

theorem ofName?_name (p : InstructionSet) : ofName? p.name = some p := by cases p <;> rfl

end InstructionSet

/-- What a machine is set up to do. `modern` selects the later conventions for shifts, logic
    flags, indexed jumps and register blocks; only extended instructions look at it. -/
structure Config where
  instructionSet : InstructionSet := .core
  modern : Bool := true
deriving DecidableEq

/-- Whether the whole instruction set is available. -/
def Config.extended (c : Config) : Bool := c.instructionSet = .extended

end Chip8
