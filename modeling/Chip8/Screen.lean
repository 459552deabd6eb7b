set_option autoImplicit false

/-! # The screen

A frame of 64 by 32 pixels, row by row, one byte a pixel: 1 is lit and 0 is dark. -/

namespace Chip8

/-- The pixels of a frame, row by row. -/
structure Screen where
  pixels : Vector UInt8 2048
deriving DecidableEq

namespace Screen

/-- Pixels in a row. -/
def width : Nat := 64

/-- Rows on the screen. -/
def height : Nat := 32

/-- The pixel of a row and a column, each modulo the size of the screen. -/
def pixel (s : Screen) (row col : Nat) : UInt8 :=
  have : row % 32 * 64 + col % 64 < 2048 := by omega
  s.pixels[row % 32 * 64 + col % 64]

/-- The screen whose pixels a function of row and column gives. -/
def ofPixels (f : Nat → Nat → UInt8) : Screen :=
  ⟨Vector.ofFn fun i => f (i.val / 64) (i.val % 64)⟩

/-- Every pixel is dark. -/
def blank : Screen := ⟨Vector.replicate 2048 0⟩

/-- Flip the pixels that are lit in a layer. -/
def flip (s layer : Screen) : Screen := ⟨s.pixels.zipWith (· ^^^ ·) layer.pixels⟩

/-- Whether some pixel is lit both on the screen and in a layer. -/
def overlaps (s layer : Screen) : Bool :=
  (s.pixels.zipWith (· &&& ·) layer.pixels).any (· ≠ 0)

/-- How many pixels are lit. -/
def lit (s : Screen) : Nat := s.pixels.toList.countP (· ≠ 0)

/-- The pixels of one row, from the left. -/
def row (s : Screen) (y : Nat) : List UInt8 := (List.range 64).map (s.pixel y)

/-! ## Pixels of composed screens -/

theorem pixel_ofPixels (f : Nat → Nat → UInt8) (row col : Nat) :
    (ofPixels f).pixel row col = f (row % 32) (col % 64) := by
  simp only [pixel, ofPixels, Vector.getElem_ofFn]
  have h₁ : (row % 32 * 64 + col % 64) / 64 = row % 32 := by omega
  have h₂ : (row % 32 * 64 + col % 64) % 64 = col % 64 := by omega
  rw [h₁, h₂]

theorem pixel_flip (s layer : Screen) (row col : Nat) :
    (s.flip layer).pixel row col = s.pixel row col ^^^ layer.pixel row col := by
  simp [pixel, flip]

theorem pixel_blank (row col : Nat) : blank.pixel row col = 0 := by
  simp [pixel, blank]

theorem ext_pixel {s t : Screen} (h : ∀ row col, s.pixel row col = t.pixel row col) : s = t := by
  cases s with | mk p => cases t with | mk q =>
  congr 1
  apply Vector.ext
  intro i hi
  have hp := h (i / 64) (i % 64)
  have e : i / 64 % 32 * 64 + i % 64 % 64 = i := by omega
  simpa only [pixel, e] using hp

end Screen

end Chip8
