import Chip8.Instruction

set_option autoImplicit false

/-! # Arithmetic and logic

Each variant of `8XYN` maps the old contents of the two registers to a result and, where the
variant has one, a flag. Two conventions differ: shifts work on VX in modern machines and on VY in
classic ones, and the classic logic operations clear the flag. -/

namespace Chip8

/-- What an arithmetic operation yields: the new VX and the new flag, if it sets one. -/
structure AluResult where
  value : UInt8
  flag? : Option UInt8
deriving DecidableEq

namespace AluOp

/-- The flag of a condition. -/
def flagOf (holds : Bool) : UInt8 := if holds then 1 else 0

/-- Logic operations touch the flag only on classic machines. -/
def logicFlag? (modern : Bool) : Option UInt8 := if modern then none else some 0

/-- The result of a variant on the old contents `a` of VX and `b` of VY. -/
def evaluate (op : AluOp) (modern : Bool) (a b : UInt8) : AluResult :=
  let source := if modern then a else b
  match op with
  | set => ⟨b, none⟩
  | or => ⟨a ||| b, logicFlag? modern⟩
  | and => ⟨a &&& b, logicFlag? modern⟩
  | xor => ⟨a ^^^ b, logicFlag? modern⟩
  | add => ⟨a + b, some (flagOf (255 < a.toNat + b.toNat))⟩
  | sub => ⟨a - b, some (flagOf (b ≤ a))⟩
  | shiftRight => ⟨source >>> 1, some (source &&& 1)⟩
  | subFrom => ⟨b - a, some (flagOf (a ≤ b))⟩
  | shiftLeft => ⟨source <<< 1, some (source >>> 7)⟩

end AluOp

end Chip8
