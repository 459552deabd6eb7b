import Chip8.State

set_option autoImplicit false

/-! # Screens as text

A buffer of pixels, one byte each, becomes lines of text, one character (or one text) a pixel. The
width must be positive and divide the length of the buffer; every width divides the length of an
empty one, but the size of a row in bytes is a signed word of 64 bits. -/

namespace Chip8.Screen

/-- The full rows of a buffer: row `y` is the stretch of `width` pixels that starts at
    `y * width`. -/
def rowsOf (width : Nat) (pixels : List UInt8) : List (List UInt8) :=
  (List.range (pixels.length / width)).map fun y => (pixels.drop (y * width)).take width

/-- One row as a line of text. -/
def lineText (on off : String) (row : List UInt8) : String :=
  String.join (row.map fun pixel => if pixel ≠ 0 then on else off)

/-- The largest width of rows of bytes. Rows of wider elements would reach the largest size
    earlier. -/
def maxWidth : Int := 0x7FFFFFFFFFFFFFFF

/-- A buffer as lines of text; there is no answer when the width does not fit. -/
def toText? (pixels : List UInt8) (width : Int) (on off : String) : Option String :=
  if width ≤ 0 ∨ maxWidth < width ∨ (pixels.length : Int) % width ≠ 0 then none
  else some ("\n".intercalate ((rowsOf width.toNat pixels).map (lineText on off)))

/-- All pixels of a screen, row by row. -/
def buffer (s : Screen) : List UInt8 := s.pixels.toList

/-- The screen as 32 lines, `#` for a lit pixel and `.` for a dark one. -/
def text (s : Screen) : String :=
  "\n".intercalate ((rowsOf width s.buffer).map (lineText "#" "."))

end Chip8.Screen
