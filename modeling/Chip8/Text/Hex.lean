set_option autoImplicit false

/-! # Hexadecimal numbers in reports

Upper-case digits, filled with zeros on the left to a least width. The sign of a negative number
comes first and counts towards the width; wider numbers take more room. -/

namespace Chip8.Text.Hex

/-- The upper-case digits of a natural number, at least one. -/
def digits (n : Nat) : List Char := (Nat.toDigits 16 n).map Char.toUpper

/-- Digits filled with zeros on the left. -/
def fill (width : Nat) (ds : List Char) : List Char :=
  List.replicate (width - ds.length) '0' ++ ds

/-- A number with sign and fill. -/
def padded (width : Nat) (k : Int) : String :=
  if k < 0 then String.ofList ('-' :: fill (width - 1) (digits k.natAbs))
  else String.ofList (fill width (digits k.natAbs))

example : padded 4 0xA = "000A" ∧ padded 4 (-1) = "-001" ∧ padded 4 0x12345 = "12345" := by
  decide +kernel

end Chip8.Text.Hex
