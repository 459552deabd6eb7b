import Chip8.Memory
import Chip8.Screen

set_option autoImplicit false

/-! # Sprites

A sprite is up to fifteen rows of eight pixels, one byte a row, the highest bit on the left. Drawn
at a position it wraps around both edges of the screen. A layer is a whole screen that is lit
exactly where the sprite is; it is given by a formula for each pixel, so that no pixel can be met
twice. -/

namespace Chip8.Sprite

/-- Pixels in a row of a sprite. -/
def width : Nat := 8

/-- Rows of the largest sprite. -/
def maxHeight : Nat := 15

/-- The pixel in a column of a sprite row. -/
def bit (byte : UInt8) (col : Nat) : UInt8 := UInt8.ofNat (byte.toNat / Nat.pow 2 (7 - col) % 2)

/-- How far a position lies behind a start on a ring of a given length. -/
def offset (length start position : Nat) : Nat := (position + (length - start % length)) % length

/-- The layer of a sprite of `height` rows stored at `address`, its corner at `left` and `top`. -/
def layer (memory : Memory) (address height left top : Nat) : Screen :=
  Screen.ofPixels fun row col =>
    let r := offset 32 top row
    let c := offset 64 left col
    if r < height ∧ c < 8 then bit (memory.read (address + r)) c else 0

theorem bit_eq (byte : UInt8) (col : Nat) : bit byte col = 0 ∨ bit byte col = 1 := by
  have h := Nat.mod_two_eq_zero_or_one (byte.toNat / Nat.pow 2 (7 - col))
  rcases h with h | h
  · left; rw [bit, h]; rfl
  · right; rw [bit, h]; rfl

theorem layer_congr (memory : Memory) {a b : Nat} (h : a % 4096 = b % 4096)
    (height left top : Nat) : layer memory a height left top = layer memory b height left top := by
  have hread : ∀ r, memory.read (a + r) = memory.read (b + r) := by
    intro r
    apply memory.read_congr
    omega
  simp only [layer, hread]

end Chip8.Sprite
