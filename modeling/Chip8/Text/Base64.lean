set_option autoImplicit false

/-! # Base 64

Bytes written with 64 characters of six bits each. Reading is lenient: foreign characters are left
out, and so is what follows the padding of the last group. -/

namespace Chip8.Text.Base64

/-- The six bits of a character. -/
def sextet? (c : Char) : Option Nat :=
  if c.isUpper then some (c.toNat - 65)
  else if c.isLower then some (c.toNat - 71)
  else if c.isDigit then some (c.toNat + 4)
  else if c = '+' then some 62
  else if c = '/' then some 63
  else none

/-- Read characters from a place in a group of four on: `left` holds the bits of the last character
    that have made no byte yet, `pads` counts the padding since then. There is no answer if the
    last group is not complete. -/
def decodeFrom (place left pads : Nat) : List Char → Option (List UInt8)
  | [] => if place = 0 then some [] else none
  | c :: rest =>
    if c = '=' then
      if place < 2 then decodeFrom place left pads rest
      else if 4 ≤ place + pads + 1 then some []
      else decodeFrom place left (pads + 1) rest
    else match sextet? c, place with
      | none, _ => decodeFrom place left pads rest
      | some v, 0 => decodeFrom 1 v 0 rest
      | some v, 1 => (decodeFrom 2 (v % 16) 0 rest).map (UInt8.ofNat (4 * left + v / 16) :: ·)
      | some v, 2 => (decodeFrom 3 (v % 4) 0 rest).map (UInt8.ofNat (16 * left + v / 4) :: ·)
      | some v, _ => (decodeFrom 0 0 0 rest).map (UInt8.ofNat (64 * left + v) :: ·)

/-- The bytes that characters denote. -/
def decode? (cs : List Char) : Option (List UInt8) := decodeFrom 0 0 0 cs

example : decode? ['a', 'G', 'k', '='] = some [0x68, 0x69] ∧ decode? ['a'] = none := by
  decide +kernel

/-- How many characters of a text hold bits. -/
def dataCount (cs : List Char) : Nat := cs.countP fun c => (sextet? c).isSome

end Chip8.Text.Base64
