import Chip8.Decimal.Binary

set_option autoImplicit false

/-! # The shortest text of a floating-point number

Among the decimals that read back to a number, the ones with the fewest digits are taken, and of
these the nearest; an exact tie goes to the even last digit. They are found by trying grids of one,
two, … seventeen digits: if a point of a grid reads back, so does one of the two neighbours of the
number on it. -/

namespace Chip8.Decimal

/-- The decimal `digits · 10 ^ exponent`. -/
structure Scaled where
  digits : Nat
  exponent : Int
deriving DecidableEq

namespace Shortest

/-- Compare `a · 10 ^ i` with `n · 2 ^ j`, exactly. -/
def compareScaled (a : Nat) (i : Int) (n : Nat) (j : Int) : Ordering :=
  compare (a * Nat.pow 10 i.toNat * Nat.pow 2 (-j).toNat)
    (n * Nat.pow 2 j.toNat * Nat.pow 10 (-i).toNat)

/-- Whether a decimal is among the reals that round to `m · 2 ^ q`. They reach halfway to the two
    neighbours, ends included when `m` is even; below a power of two the lower neighbour is at
    half the distance. -/
def readsBack (m : Nat) (q : Int) (d : Scaled) : Bool :=
  let narrow := m == Nat.pow 2 52 && q != -1074
  let low := if narrow then 4 * m - 1 else 4 * m - 2
  let high := 4 * m + 2
  let ends := m % 2 == 0
  let below := compareScaled d.digits d.exponent low (q - 2)
  let above := compareScaled d.digits d.exponent high (q - 2)
  (below == .gt || (ends && below == .eq)) && (above == .lt || (ends && above == .eq))

/-- The least `k` at or above a start with `m · 2 ^ q < 10 ^ k`. -/
def leastAbove (m : Nat) (q : Int) : Nat → Int → Int
  | 0, k => k
  | fuel + 1, k => if compareScaled 1 k m q == .gt then k else leastAbove m q fuel (k + 1)

/-- The count of digits before the point of `m · 2 ^ q`; zero or less for numbers below one. -/
def scale (m : Nat) (q : Int) : Int :=
  let log := (m.log2 : Int) + q
  leastAbove m q 8 ((log * 30103).fdiv 100000 - 2)

/-- The number on the grid `10 ^ exponent`, rounded down. -/
def floorOn (m : Nat) (q exponent : Int) : Nat :=
  (m * Nat.pow 2 q.toNat * Nat.pow 10 (-exponent).toNat)
    / (Nat.pow 2 (-q).toNat * Nat.pow 10 exponent.toNat)

/-- The better of the two neighbours on a grid, if one of them reads back. -/
def onGrid (m : Nat) (q exponent : Int) : Option Scaled :=
  let k := floorOn m q exponent
  let lower : Scaled := ⟨k, exponent⟩
  let upper : Scaled := ⟨k + 1, exponent⟩
  match readsBack m q lower, readsBack m q upper with
  | true, true => match compareScaled (2 * k + 1) exponent (2 * m) q with
    | .gt => some lower
    | .lt => some upper
    | .eq => some (if k % 2 == 0 then lower else upper)
  | true, false => some lower
  | false, true => some upper
  | false, false => none

/-- The exact value as a decimal. -/
def exact (m : Nat) (q : Int) : Scaled :=
  if q < 0 then ⟨m * Nat.pow 5 (-q).toNat, q⟩ else ⟨m * Nat.pow 2 q.toNat, 0⟩

/-- Move trailing zeros of the digits into the exponent. -/
def strip : Nat → Scaled → Scaled
  | 0, d => d
  | fuel + 1, d =>
    if d.digits % 10 = 0 ∧ d.digits ≠ 0 then strip fuel ⟨d.digits / 10, d.exponent + 1⟩ else d

/-- The shortest decimal that reads back to a positive `m · 2 ^ q`. -/
def select (m : Nat) (q : Int) : Scaled :=
  let k := scale m q
  let found := (List.range 17).findSome? fun n => onGrid m q (k - (n + 1 : Nat))
  strip 400 (found.getD (exact m q))

/-- Digits with a point, or with an exponent where the leading digit is worth less than `10 ^ -4`
    or at least `10 ^ 16`. -/
def layout (d : Scaled) : List Char :=
  let ds := Nat.toDigits 10 d.digits
  let leading := d.exponent + ds.length - 1
  if -4 ≤ leading ∧ leading < 16 then
    if leading < 0 then
      ['0', '.'] ++ List.replicate (-leading - 1).toNat '0' ++ ds
    else
      let whole := leading.toNat + 1
      let ds := ds ++ List.replicate (whole - ds.length) '0'
      let fraction := ds.drop whole
      ds.take whole ++ ['.'] ++ (if fraction.isEmpty then ['0'] else fraction)
  else
    let rest := ds.drop 1
    let sign := if leading < 0 then '-' else '+'
    let power := Nat.toDigits 10 leading.natAbs
    ds.take 1 ++ (if rest.isEmpty then [] else '.' :: rest)
      ++ ['e', sign] ++ List.replicate (2 - power.length) '0' ++ power

/-- The text of a number. -/
def text : Binary → String
  | .finite negative m q =>
    let body := if m = 0 then ['0', '.', '0'] else layout (select m q)
    String.ofList ((if negative then ['-'] else []) ++ body)
  | .infinite negative => if negative then "-inf" else "inf"
  | .nan => "nan"

example : text (.ofFloat 0.1) = "0.1" ∧ text (.ofFloat 1e16) = "1e+16" := by decide +kernel

end Shortest

end Chip8.Decimal
