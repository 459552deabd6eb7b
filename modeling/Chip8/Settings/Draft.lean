import Chip8.Settings.Fault

set_option autoImplicit false

/-! # Drafts

A configuration in the making. Each field holds a value already, or a text whose term gives it a
value in the end, when all other settings are known. -/

namespace Chip8.Settings

/-- What a field holds. -/
inductive Slot (α : Type) where
  | value (x : α)
  /-- A text with an interpolation. -/
  | term (source : String)
deriving DecidableEq

/-- What a field holds, as content. -/
def Slot.toContent {α : Type} (content : α → Content) : Slot α → Content
  | .value x => content x
  | .term source => .text source

/-- A configuration in the making. -/
structure Draft where
  instructionSet : Slot InstructionSet := .value .core
  modern : Slot Bool := .value true
deriving DecidableEq

namespace Draft

/-- What a draft holds. -/
def toContent (d : Draft) : Content :=
  .map [(.text Field.instructionSet.name, d.instructionSet.toContent .profile),
    (.text Field.modern.name, d.modern.toContent fun b => .atom (.bool b))]

/-- What a field holds after it has been given something. -/
def slotFor {α : Type} (read : Content → Except Rejection α) (c : Content) :
    Except Rejection (Slot α) :=
  match c.source? with
  | some s => .ok (.term s)
  | none => (read c).map .value

/-- Give a field something. A missing value leaves it as it is. -/
def assign (d : Draft) (f : Field) (c : Content) : Except Rejection Draft :=
  if c.isMissing then .ok d
  else match f with
    | .instructionSet => (slotFor toInstructionSet c).map fun s => { d with instructionSet := s }
    | .modern => (slotFor toBool c).map fun s => { d with modern := s }

end Draft

end Chip8.Settings
