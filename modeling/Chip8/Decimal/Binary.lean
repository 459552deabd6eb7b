set_option autoImplicit false

/-! # Floating-point numbers in exact arithmetic

The bits of a 64-bit floating-point number, read as a sign and `m · 2 ^ q`. All decimal text of
such numbers is computed from this form, in natural numbers. -/

namespace Chip8.Decimal

/-- A floating-point number, taken apart. -/
inductive Binary where
  | finite (negative : Bool) (m : Nat) (q : Int)
  | infinite (negative : Bool)
  | nan
deriving DecidableEq

/-- Take a number apart by its bits. -/
def Binary.ofBits (bits : UInt64) : Binary :=
  let negative := bits >>> 63 != 0
  let exponent := ((bits >>> 52) &&& 0x7FF).toNat
  let fraction := (bits &&& 0xFFFFFFFFFFFFF).toNat
  if exponent = 0x7FF then if fraction = 0 then infinite negative else nan
  else if exponent = 0 then finite negative fraction (-1074)
  else finite negative (Nat.pow 2 52 + fraction) ((exponent : Int) - 1075)

/-- Take a number apart. -/
def Binary.ofFloat (x : Float) : Binary := ofBits x.toBits

/-- Whether a number is the given integer, exactly. -/
def Binary.isInt (k : Int) : Binary → Bool
  | finite negative m q =>
    (if negative then -(m : Int) else m) * Nat.pow 2 q.toNat == k * Nat.pow 2 (-q).toNat
  | _ => false

/-- A quotient rounded to the nearest natural number, a half to the even neighbour. -/
def roundQuotient (num den : Nat) : Nat :=
  let q := num / den
  let r := num % den
  if 2 * r < den then q
  else if den < 2 * r then q + 1
  else if q % 2 = 0 then q else q + 1

namespace Binary

/-- The scale on which a positive quotient has 53 digits of base two, and no scale below the least
    one that numbers have. -/
def scaleOf (num den : Nat) : Int :=
  let guess : Int := (num.log2 : Int) - den.log2
  let exact :=
    if num * Nat.pow 2 (-guess).toNat < den * Nat.pow 2 guess.toNat then guess - 1 else guess
  max (exact - 52) (-1074)

/-- The number nearest to a positive quotient, a half going to the even neighbour; infinity past
    the largest number. -/
def ofQuotient (num den : Nat) : Binary :=
  let q := scaleOf num den
  let m := roundQuotient (num * Nat.pow 2 (-q).toNat) (den * Nat.pow 2 q.toNat)
  let (m, q) := if m = Nat.pow 2 53 then (Nat.pow 2 52, q + 1) else (m, q)
  if 971 < q then infinite false else finite false m q

example : ofQuotient 1 10 = finite false 0x1999999999999A (-56) ∧
    ofQuotient 1 (Nat.pow 2 1074) = finite false 1 (-1074) ∧
    ofQuotient (Nat.pow 2 1024) 1 = infinite false := by decide +kernel

/-- The bits of a number whose `m` has 53 digits of base two, or whose scale is the least one. -/
def toBits : Binary → UInt64
  | finite negative m q =>
    let exponent := if m < Nat.pow 2 52 then 0 else (q + 1074).toNat * Nat.pow 2 52
    UInt64.ofNat (exponent + m + if negative then Nat.pow 2 63 else 0)
  | infinite negative => if negative then 0xFFF0000000000000 else 0x7FF0000000000000
  | nan => 0x7FF8000000000000

/-- Put a number together. -/
def toFloat (x : Binary) : Float := Float.ofBits x.toBits

end Binary

end Chip8.Decimal
