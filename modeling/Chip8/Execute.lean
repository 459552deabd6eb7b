import Chip8.Alu
import Chip8.Profile
import Chip8.Sprite
import Chip8.State

set_option autoImplicit false

/-! # Execution

What each instruction does to a state. Executing neither fetches nor moves the program counter past
the instruction: jumps, calls and skips work on the counter as they find it, which during a cycle
is already that of the next instruction. -/

namespace Chip8.State

/-- Step over the next word if a condition holds. -/
def skipIf (s : State) (holds : Bool) : State := if holds then { s with pc := s.pc + 2 } else s

/-- The key that a register names by its last digit. -/
def keyIn (s : State) (x : Fin 16) : Fin 16 := Fin.ofNat 16 (s.reg x).toNat

/-- Apply an arithmetic operation. The flag is written last, so that it wins when X is F. -/
def applyAlu (s : State) (op : AluOp) (x y : Fin 16) : State :=
  let result := op.evaluate s.config.modern (s.reg x) (s.reg y)
  let s := s.setReg x result.value
  match result.flag? with
  | some flag => s.setReg flagRegister flag
  | none => s

/-- The layer of the sprite at the index, drawn at the position in two registers. -/
def spriteLayer (s : State) (x y height : Fin 16) : Screen :=
  Sprite.layer s.memory s.index.toNat height.val (s.reg x).toNat (s.reg y).toNat

/-- Flip the pixels of a sprite. The extended profile reports a collision in the flag register. -/
def draw (s : State) (x y height : Fin 16) : State :=
  let layer := s.spriteLayer x y height
  let drawn := { s with screen := s.screen.flip layer }
  if s.config.extended then
    drawn.setReg flagRegister (AluOp.flagOf (s.screen.overlaps layer))
  else drawn

/-- Draw a random byte and go on with the next key. -/
def drawRandom (s : State) (x : Fin 16) (mask : UInt8) : State :=
  { s.setReg x (s.rng.byte &&& mask) with rng := s.rng.next }

/-- Take the lowest held key, or go back to the instruction while no key is held. -/
def awaitKey (s : State) (x : Fin 16) : State :=
  match s.keypad.lowest? with
  | some key => s.setReg x (UInt8.ofNat key.val)
  | none => { s with pc := s.pc - 2 }

/-- The three decimal digits of a byte, hundreds first. -/
def decimalDigits (byte : UInt8) : List UInt8 := [byte / 100, byte / 10 % 10, byte % 10]

/-- Registers V0 to VX. -/
def registersUpTo (s : State) (x : Fin 16) : List UInt8 := s.registers.toList.take (x.val + 1)

theorem length_registersUpTo (s : State) (x : Fin 16) :
    (s.registersUpTo x).length = x.val + 1 := by
  rw [registersUpTo, List.length_take, Vector.length_toList]
  omega

theorem getElem_registersUpTo (s : State) (x k : Fin 16)
    (hk : k.val < (s.registersUpTo x).length) : (s.registersUpTo x)[k.val] = s.reg k := by
  simp only [registersUpTo, List.getElem_take, Vector.getElem_toList]
  rfl

/-- Classic machines leave the index just past a block of registers. -/
def indexPast (s : State) (x : Fin 16) : UInt16 :=
  if s.config.modern then s.index else s.index + UInt16.ofNat (x.val + 1)

/-- Store V0 to VX in memory from the index upwards. -/
def storeBlock (s : State) (x : Fin 16) : State :=
  { s with
    memory := s.memory.writeBlock s.index.toNat (s.registersUpTo x)
    index := s.indexPast x }

theorem read_storeBlock (s : State) {x k : Fin 16} (hk : k ≤ x) :
    (s.storeBlock x).memory.read (s.index.toNat + k.val) = s.reg k := by
  have hlength := s.length_registersUpTo x
  have hk' : k.val < (s.registersUpTo x).length := by omega
  show (s.memory.writeBlock s.index.toNat (s.registersUpTo x)).read _ = s.reg k
  rw [s.memory.read_writeBlock s.index.toNat (by omega) hk', getElem_registersUpTo]

theorem read_storeBlock_of_ne (s : State) (x : Fin 16) {address : Nat}
    (h : ∀ k < x.val + 1, address % 4096 ≠ (s.index.toNat + k) % 4096) :
    (s.storeBlock x).memory.read address = s.memory.read address := by
  apply s.memory.read_writeBlock_of_ne
  rwa [length_registersUpTo]

/-- Fill V0 to VX from memory. -/
def loadBlock (s : State) (x : Fin 16) : State :=
  { s with
    registers := Vector.ofFn fun r =>
      if r ≤ x then s.memory.read (s.index.toNat + r.val) else s.reg r
    index := s.indexPast x }

/-- What an instruction does, in every profile that executes it. -/
def perform (s : State) : Instruction → State
  | .clearScreen => s.clearScreen
  | .ret =>
    let (stack, address) := s.stack.pop
    { s with stack := stack, pc := address }
  | .jump target => { s with pc := target }
  | .call target => { s with stack := s.stack.push s.pc, pc := target }
  | .skipIfEqual x byte => s.skipIf (s.reg x = byte)
  | .skipIfNotEqual x byte => s.skipIf (s.reg x ≠ byte)
  | .skipIfRegistersEqual x y => s.skipIf (s.reg x = s.reg y)
  | .loadImmediate x byte => s.setReg x byte
  | .addImmediate x byte => s.setReg x (s.reg x + byte)
  | .alu op x y => s.applyAlu op x y
  | .skipIfRegistersNotEqual x y => s.skipIf (s.reg x ≠ s.reg y)
  | .loadIndex address => { s with index := address }
  | .jumpWithOffset x target =>
    let register := if s.config.modern then x else 0
    { s with pc := (target + (s.reg register).toUInt16) &&& 0xFFF }
  | .random x mask => s.drawRandom x mask
  | .drawSprite x y height => s.draw x y height
  | .skipIfHeld x => s.skipIf (s.keypad.isHeld (s.keyIn x))
  | .skipIfReleased x => s.skipIf (!s.keypad.isHeld (s.keyIn x))
  | .readDelay x => s.setReg x s.delay
  | .waitForKey x => s.awaitKey x
  | .setDelay x => { s with delay := s.reg x }
  | .setSound x => { s with sound := s.reg x }
  | .addToIndex x => { s with index := (s.index + (s.reg x).toUInt16) &&& 0xFFF }
  | .selectGlyph x =>
    { s with index := UInt16.ofNat (Font.start + (s.keyIn x).val * Font.glyphSize) }
  | .storeDecimal x =>
    { s with memory := s.memory.writeBlock s.index.toNat (decimalDigits (s.reg x)) }
  | .storeRegisters x => s.storeBlock x
  | .loadRegisters x => s.loadBlock x
  | .unassigned => s
  | .unknown => s

/-- Execute an instruction if the configuration does so; else change nothing. -/
def execute (s : State) (i : Instruction) : State :=
  if s.config.executes i then s.perform i else s

/-- Execute the instruction that a word encodes. -/
def executeWord (s : State) (w : Word) : State := s.execute (Instruction.decode w)

/-- Execute the word that an integer is read as. -/
def executeInt? (s : State) (k : Int) : Option State := (Word.ofInt? k).map s.executeWord

end Chip8.State
