import Chip8.CallStack
import Chip8.Config
import Chip8.Font
import Chip8.Keypad
import Chip8.Memory
import Chip8.Random
import Chip8.Screen

set_option autoImplicit false

/-! # Machine states

Everything that a running program can see or change, together with the configuration under which
it runs. Besides creation this module has the operations of the host: resetting, loading a program,
clearing the screen, pressing keys and counting the timers down. -/

namespace Chip8

/-- The complete state of a machine. -/
structure State where
  config : Config
  rng : RandomKey
  memory : Memory
  registers : Vector UInt8 16
  index : UInt16
  pc : UInt16
  screen : Screen
  stack : CallStack
  delay : UInt8
  sound : UInt8
  keypad : Keypad
deriving DecidableEq

/-- Why a program is refused. -/
inductive LoadError where
  /-- The requested size is negative or larger than the program. -/
  | invalidSize (size : Int) (length : Nat)
  /-- The program is larger than the memory above the program start. -/
  | tooLarge (size : Int)
deriving DecidableEq

/-- A key number outside 0 … 15. -/
structure UnknownKey where
  key : Int
deriving DecidableEq

namespace State

/-- Where programs are loaded. -/
def programStart : Nat := 0x200

/-- The largest program that fits between the program start and the end of memory. -/
def maxProgramSize : Nat := Memory.size - programStart

/-- How many registers there are. -/
def registerCount : Nat := 16

/-- The register that receives carries, borrows and collisions. -/
def flagRegister : Fin 16 := 0xF

/-- Memory that holds the font and nothing else. -/
def initialMemory : Memory := Memory.zero.writeBlock Font.start Font.data

/-- A freshly made machine. -/
def initial (config : Config) (rng : RandomKey) : State where
  config := config
  rng := rng
  memory := initialMemory
  registers := Vector.replicate 16 0
  index := 0
  pc := 0x200
  screen := Screen.blank
  stack := CallStack.empty
  delay := 0
  sound := 0
  keypad := Keypad.released

/-- Back to a fresh machine of the same configuration; the random stream goes on. -/
def reset (s : State) : State := initial s.config s.rng

/-- The part of a program that is to be loaded: its first `size?` bytes, or all of them. -/
def loadedPart (program : List UInt8) (size? : Option Int) : Except LoadError (List UInt8) :=
  let size := size?.getD program.length
  if size < 0 ∨ program.length < size then .error (.invalidSize size program.length)
  else if maxProgramSize < size then .error (.tooLarge size)
  else .ok (program.take size.toNat)

/-- Reset, then copy a program (or its first `size?` bytes) to the program start. -/
def load (s : State) (program : List UInt8) (size? : Option Int) : Except LoadError State := do
  let image ← loadedPart program size?
  return { s.reset with memory := s.reset.memory.writeBlock programStart image }

/-- Make every pixel dark. -/
def clearScreen (s : State) : State := { s with screen := Screen.blank }

/-- Press or release a key. -/
def setKey (s : State) (key : Int) (pressed : Bool) : Except UnknownKey State :=
  match Keypad.key? key with
  | some k => .ok { s with keypad := s.keypad.set k pressed }
  | none => .error ⟨key⟩

/-- One tick of the 60 Hz clock: both timers go down by one, to zero at the lowest. -/
def tick (s : State) : State :=
  { s with
    delay := if s.delay = 0 then 0 else s.delay - 1
    sound := if s.sound = 0 then 0 else s.sound - 1 }

/-- The contents of a register. -/
def reg (s : State) (r : Fin 16) : UInt8 := s.registers.get r

/-- Replace the contents of a register. -/
def setReg (s : State) (r : Fin 16) (byte : UInt8) : State :=
  { s with registers := s.registers.set r.val byte (Digit.lt r) }

theorem reg_setReg (s : State) (r q : Fin 16) (byte : UInt8) :
    (s.setReg r byte).reg q = if r = q then byte else s.reg q :=
  Digit.get_set s.registers r q byte

end State

namespace LoadError

/-- What is said of a refused program. -/
def message : LoadError → String
  | invalidSize size length =>
    "Invalid program size " ++ toString size ++ " for a buffer of " ++ toString length ++ " bytes"
  | tooLarge size =>
    "Program of " ++ toString size ++ " bytes does not fit in memory (at most "
      ++ toString State.maxProgramSize ++ " bytes fit from 0x200)"

end LoadError

/-- What is said of an unknown key. -/
def UnknownKey.message (e : UnknownKey) : String :=
  "Unknown key " ++ toString e.key ++ ". Keys are 0x0-0xF"

end Chip8
