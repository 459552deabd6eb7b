import Chip8.Config
import Chip8.Instruction

set_option autoImplicit false

/-! # What a configuration executes

The profile of a configuration decides which operations it supports. Within the miscellaneous
family, the words with an unassigned last byte are never executed. -/

namespace Chip8

/-- The operations of the core profile. -/
def Operation.isCore : Operation → Bool
  | .clearScreen | .jump | .skipIfEqual | .loadImmediate | .addImmediate | .loadIndex
  | .drawSprite => true
  | _ => false

namespace Config

/-- Whether an operation belongs to the profile. -/
def supports (c : Config) (op : Operation) : Bool :=
  if c.extended then op ≠ .unknown else op.isCore

/-- The operations of the profile, by number. -/
def operations (c : Config) : List Operation := Operation.all.filter c.supports

/-- Whether an instruction is executed; all others leave the machine as it is. -/
def executes (c : Config) (i : Instruction) : Bool :=
  c.supports i.operation && i ≠ .unassigned

theorem supports_unknown (c : Config) : c.supports .unknown = false := by
  unfold supports; split <;> rfl

end Config

end Chip8
