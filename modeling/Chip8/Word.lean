import Chip8.Digit

set_option autoImplicit false

/-! # Instruction words and their fields

An instruction is one 16-bit word. Its four hexadecimal digits are, from the left, the opcode and
the operands `x`, `y` and `n`; the last two digits together are `nn`, the last three are `nnn`.
The fields are defined by division and remainder, so that facts about them are facts of
arithmetic. -/

namespace Chip8

/-- A 16-bit instruction word. -/
abbrev Word := UInt16

namespace Word

/-- The hexadecimal digit of a word at a place, counted from the right. -/
def digit (w : Word) (place : Nat) : Fin 16 := Fin.ofNat 16 (w.toNat / Nat.pow 16 place)

/-- The leading digit, which selects the family of the instruction. -/
def opcode (w : Word) : Fin 16 := digit w 3

/-- The second digit, usually a register. -/
def x (w : Word) : Fin 16 := digit w 2

/-- The third digit, usually a register. -/
def y (w : Word) : Fin 16 := digit w 1

/-- The last digit. -/
def n (w : Word) : Fin 16 := digit w 0

/-- The last two digits. -/
def nn (w : Word) : UInt8 := UInt8.ofNat w.toNat

/-- The last three digits, an address. -/
def nnn (w : Word) : UInt16 := UInt16.ofNat (w.toNat % 4096)

/-- The word with the given bytes, the high byte first. -/
def ofBytes (high low : UInt8) : Word := UInt16.ofNat (high.toNat * 256 + low.toNat)

/-- An integer is read as a word modulo 65536, provided that it fits 32 signed bits. -/
def ofInt? (k : Int) : Option Word :=
  if -2147483648 ≤ k ∧ k < 2147483648 then some (UInt16.ofNat (k % 65536).toNat) else none

/-! ## The fields in arithmetic -/

theorem toNat_digit (w : Word) (place : Nat) :
    (digit w place).val = w.toNat / Nat.pow 16 place % 16 := rfl

theorem toNat_nn (w : Word) : (nn w).toNat = w.toNat % 256 := by
  simp [nn]

theorem toNat_nnn (w : Word) : (nnn w).toNat = w.toNat % 4096 := by
  have h : w.toNat % 4096 < 65536 := by omega
  simp only [nnn, UInt16.toNat_ofNat']
  omega

theorem toNat_ofBytes (high low : UInt8) :
    (ofBytes high low).toNat = high.toNat * 256 + low.toNat := by
  have h₁ := high.toNat_lt
  have h₂ := low.toNat_lt
  simp only [ofBytes, UInt16.toNat_ofNat']
  omega

/-- Masking with the largest address leaves the remainder modulo the size of the address space. -/
theorem toNat_and_mask (a : UInt16) : (a &&& 0xFFF).toNat = a.toNat % 4096 := by
  rw [UInt16.toNat_and]
  exact Nat.and_two_pow_sub_one_eq_mod a.toNat 12

theorem and_mask_eq_mod (a : UInt16) : a &&& 0xFFF = a % 4096 := by
  apply UInt16.toNat.inj
  rw [toNat_and_mask, UInt16.toNat_mod]
  rfl

end Word

end Chip8
