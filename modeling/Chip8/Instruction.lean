import Chip8.Operation
import Chip8.Word

set_option autoImplicit false

/-! # Instructions and their decoding

An `Instruction` is what a word means, with exactly the operands that matter for it. Decoding is a
function of the word alone; whether a machine executes the result depends on its configuration.
Words that mean nothing decode to `unknown`. Words `FXNN` whose last byte is not assigned decode
to `unassigned`: they belong to the miscellaneous family and do nothing. -/

namespace Chip8

/-- The arithmetic and logic variants of `8XYN`. -/
inductive AluOp where
  | set
  | or
  | and
  | xor
  | add
  | sub
  | shiftRight
  | subFrom
  | shiftLeft
deriving DecidableEq

/-- The variant that the last digit of `8XYN` selects. -/
def AluOp.ofDigit? : Fin 16 → Option AluOp
  | 0x0 => some .set
  | 0x1 => some .or
  | 0x2 => some .and
  | 0x3 => some .xor
  | 0x4 => some .add
  | 0x5 => some .sub
  | 0x6 => some .shiftRight
  | 0x7 => some .subFrom
  | 0xE => some .shiftLeft
  | _ => none

/-- What an instruction word means. -/
inductive Instruction where
  /-- `00E0` -/
  | clearScreen
  /-- `00EE` -/
  | ret
  /-- `1NNN` -/
  | jump (target : UInt16)
  /-- `2NNN` -/
  | call (target : UInt16)
  /-- `3XNN` -/
  | skipIfEqual (x : Fin 16) (byte : UInt8)
  /-- `4XNN` -/
  | skipIfNotEqual (x : Fin 16) (byte : UInt8)
  /-- `5XY0` -/
  | skipIfRegistersEqual (x y : Fin 16)
  /-- `6XNN` -/
  | loadImmediate (x : Fin 16) (byte : UInt8)
  /-- `7XNN` -/
  | addImmediate (x : Fin 16) (byte : UInt8)
  /-- `8XYN` -/
  | alu (op : AluOp) (x y : Fin 16)
  /-- `9XY0` -/
  | skipIfRegistersNotEqual (x y : Fin 16)
  /-- `ANNN` -/
  | loadIndex (address : UInt16)
  /-- `BNNN`, with the digit `X` of the target beside it -/
  | jumpWithOffset (x : Fin 16) (target : UInt16)
  /-- `CXNN` -/
  | random (x : Fin 16) (mask : UInt8)
  /-- `DXYN` -/
  | drawSprite (x y height : Fin 16)
  /-- `EX9E` -/
  | skipIfHeld (x : Fin 16)
  /-- `EXA1` -/
  | skipIfReleased (x : Fin 16)
  /-- `FX07` -/
  | readDelay (x : Fin 16)
  /-- `FX0A` -/
  | waitForKey (x : Fin 16)
  /-- `FX15` -/
  | setDelay (x : Fin 16)
  /-- `FX18` -/
  | setSound (x : Fin 16)
  /-- `FX1E` -/
  | addToIndex (x : Fin 16)
  /-- `FX29` -/
  | selectGlyph (x : Fin 16)
  /-- `FX33` -/
  | storeDecimal (x : Fin 16)
  /-- `FX55` -/
  | storeRegisters (x : Fin 16)
  /-- `FX65` -/
  | loadRegisters (x : Fin 16)
  /-- `FXNN` with any other last byte -/
  | unassigned
  /-- any other word -/
  | unknown
deriving DecidableEq

namespace Instruction

/-- The meaning of `FXNN` by its last byte. -/
def ofMisc (x : Fin 16) (byte : UInt8) : Instruction :=
  match byte.toNat with
  | 0x07 => readDelay x
  | 0x0A => waitForKey x
  | 0x15 => setDelay x
  | 0x18 => setSound x
  | 0x1E => addToIndex x
  | 0x29 => selectGlyph x
  | 0x33 => storeDecimal x
  | 0x55 => storeRegisters x
  | 0x65 => loadRegisters x
  | _ => unassigned

/-- The meaning of a word. -/
def decode (w : Word) : Instruction :=
  let x := Word.x w
  let y := Word.y w
  let n := Word.n w
  let nn := Word.nn w
  let nnn := Word.nnn w
  match Word.opcode w with
  | 0x0 => if w = 0x00E0 then clearScreen else if w = 0x00EE then ret else unknown
  | 0x1 => jump nnn
  | 0x2 => call nnn
  | 0x3 => skipIfEqual x nn
  | 0x4 => skipIfNotEqual x nn
  | 0x5 => if n = 0 then skipIfRegistersEqual x y else unknown
  | 0x6 => loadImmediate x nn
  | 0x7 => addImmediate x nn
  | 0x8 => match AluOp.ofDigit? n with
    | some op => alu op x y
    | none => unknown
  | 0x9 => if n = 0 then skipIfRegistersNotEqual x y else unknown
  | 0xA => loadIndex nnn
  | 0xB => jumpWithOffset x nnn
  | 0xC => random x nn
  | 0xD => drawSprite x y n
  | 0xE => if nn = 0x9E then skipIfHeld x else if nn = 0xA1 then skipIfReleased x else unknown
  -- the one digit left is F
  | _ => ofMisc x nn

/-- The operation that an instruction is a case of. -/
def operation : Instruction → Operation
  | clearScreen => .clearScreen
  | ret => .ret
  | jump _ => .jump
  | call _ => .call
  | skipIfEqual _ _ => .skipIfEqual
  | skipIfNotEqual _ _ => .skipIfNotEqual
  | skipIfRegistersEqual _ _ => .skipIfRegistersEqual
  | loadImmediate _ _ => .loadImmediate
  | addImmediate _ _ => .addImmediate
  | alu _ _ _ => .alu
  | skipIfRegistersNotEqual _ _ => .skipIfRegistersNotEqual
  | loadIndex _ => .loadIndex
  | jumpWithOffset _ _ => .jumpWithOffset
  | random _ _ => .random
  | drawSprite _ _ _ => .drawSprite
  | skipIfHeld _ | skipIfReleased _ => .skipIfKey
  | readDelay _ | waitForKey _ | setDelay _ | setSound _ | addToIndex _ | selectGlyph _
  | storeDecimal _ | storeRegisters _ | loadRegisters _ | unassigned => .misc
  | unknown => .unknown

end Instruction

/-- The operation that a word encodes. -/
def Operation.ofWord (w : Word) : Operation := (Instruction.decode w).operation

/-- A word with its fields and its operation side by side, as decoding reports it. -/
structure Decoded where
  raw : Word
  opcode : Fin 16
  x : Fin 16
  y : Fin 16
  n : Fin 16
  nn : UInt8
  nnn : UInt16
  operation : Operation
deriving DecidableEq

/-- The fields and the operation of a word. -/
def Decoded.ofWord (w : Word) : Decoded where
  raw := w
  opcode := Word.opcode w
  x := Word.x w
  y := Word.y w
  n := Word.n w
  nn := Word.nn w
  nnn := Word.nnn w
  operation := Operation.ofWord w

/-- Decoding of an integer: there is no answer outside the signed 32-bit range. -/
def Decoded.ofInt? (k : Int) : Option Decoded := (Word.ofInt? k).map Decoded.ofWord

end Chip8
