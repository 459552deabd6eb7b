import Chip8.Decimal.Binary

set_option autoImplicit false

/-! # Numbers with a fixed count of decimal places

The exact binary value is rounded once, a half to the even neighbour. The sign of zero is kept. -/

namespace Chip8.Decimal.Fixed

/-- Digits filled with zeros on the left to a least count. -/
def zeroFilled (least : Nat) (n : Nat) : List Char :=
  let ds := Nat.toDigits 10 n
  List.replicate (least - ds.length) '0' ++ ds

/-- `m · 2 ^ q` in units of the last decimal place. -/
def scaled (places : Nat) (m : Nat) (q : Int) : Nat :=
  roundQuotient (m * Nat.pow 10 places * Nat.pow 2 q.toNat) (Nat.pow 2 (-q).toNat)

/-- The text of a number with a count of places. -/
def text (places : Nat) : Binary → List Char
  | .finite negative m q =>
    let ds := zeroFilled (places + 1) (scaled places m q)
    let whole := ds.take (ds.length - places)
    let point := if places = 0 then [] else '.' :: ds.drop (ds.length - places)
    (if negative then ['-'] else []) ++ whole ++ point
  | .infinite negative => (if negative then ['-'] else []) ++ ['i', 'n', 'f']
  | .nan => ['n', 'a', 'n']

-- an eighth is a tie between two texts
example : text 2 (.finite true 1 (-3)) = ['-', '0', '.', '1', '2'] := by decide +kernel

/-- A text moved to the right end of a field; longer texts take more room. -/
def rightAligned (width : Nat) (cs : List Char) : List Char :=
  List.replicate (width - cs.length) ' ' ++ cs

end Chip8.Decimal.Fixed
