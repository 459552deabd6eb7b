import Chip8.Cycle
import Chip8.Text.Hex

set_option autoImplicit false

/-! # Reports of skipped instructions

An event says which word was skipped and where. Observers take events of any numbers, so address
and word are integers here. -/

namespace Chip8

/-- A word that was skipped, the address it was fetched from and its operation. -/
structure Event where
  address : Int
  opcode : Int
  operation : Operation
deriving DecidableEq

/-- What observers are told: a skipped word, or that the machine starts afresh. -/
inductive Notice where
  | unsupported (event : Event)
  | reset
deriving DecidableEq

namespace Event

/-- The family of the skipped operation. -/
def family (e : Event) : String := e.operation.family

/-- The report of an event in one line. -/
def text (e : Event) : String :=
  let opcode := "0x" ++ Text.Hex.padded 4 e.opcode
  let place := " at 0x" ++ Text.Hex.padded 4 e.address
  match e.operation with
  | .unknown => "unknown opcode " ++ opcode ++ place
  | _ => "unsupported " ++ e.family ++ " (" ++ opcode ++ ")" ++ place

/-- The event of a cycle. -/
def ofCycle (c : Cycle) : Event :=
  ⟨(c.address.toNat : Int), (c.word.toNat : Int), c.operation⟩

end Event

/-- The events of a run, in order. -/
def Run.events (r : Run) : List Event := r.unsupported.map Event.ofCycle

end Chip8
