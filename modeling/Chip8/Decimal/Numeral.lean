import Chip8.Decimal.Binary
import Chip8.Text.Integer

set_option autoImplicit false

/-! # Decimal numerals

Reading digits with a point and an exponent, or a word for infinity or for no number, as the
nearest floating-point number. -/

namespace Chip8.Decimal.Numeral

/-- The number that decimal digits denote. -/
def natural (digits : List Char) : Nat :=
  digits.foldl (fun n c => 10 * n + (c.toNat - 48)) 0

/-- The number nearest to `m · 10 ^ e`. Past 400 digits before the point, or 400 zeros after it,
    that is infinity or zero. -/
def nearest (m : Nat) (e : Int) : Binary :=
  let digits : Int := (Nat.toDigits 10 m).length
  if m = 0 || e + digits < -400 then .finite false 0 (-1074)
  else if 400 < e + digits then .infinite false
  else .ofQuotient (m * Nat.pow 10 e.toNat) (Nat.pow 10 (-e).toNat)

/-- Split off a sign: whether it is a minus, and the rest. -/
def splitSign : List Char → Bool × List Char
  | '-' :: cs => (true, cs)
  | '+' :: cs => (false, cs)
  | cs => (false, cs)

/-- The exponent behind a mantissa, none being zero. -/
def exponent? : List Char → Option Int
  | [] => some 0
  | e :: cs =>
    let (negative, ds) := splitSign cs
    if e.toLower ≠ 'e' || ds.isEmpty || !ds.all Char.isDigit then none
    else some (if negative then -(natural ds : Int) else natural ds)

/-- Read an unsigned numeral: digits, of which a point may stand before, between or behind, and
    perhaps an exponent. -/
def unsigned? (cs : List Char) : Option Binary := do
  let whole := cs.takeWhile Char.isDigit
  let rest := cs.drop whole.length
  let (fraction, rest) := match rest with
    | '.' :: more =>
      let fraction := more.takeWhile Char.isDigit
      (fraction, more.drop fraction.length)
    | _ => ([], rest)
  let digits := whole ++ fraction
  if digits.isEmpty then none
  else return nearest (natural digits) ((← exponent? rest) - fraction.length)

/-- The words for infinity and for no number, in lower case. -/
def word? (word : String) : Option Binary :=
  if word = "inf" || word = "infinity" then some (.infinite false)
  else if word = "nan" then some .nan
  else none

/-- The decimal digits of all scripts as those of ASCII. -/
def plainDigit (c : Char) : Char :=
  match Text.decimalDigit? c with
  | some d => Char.ofNat (48 + d)
  | none => c

/-- Read a numeral or a word, with a sign or without, blanks around it. -/
def ofText? (text : String) : Option Float := do
  let (negative, body) := splitSign ((Text.trimBlanks text.toList).map plainDigit)
  let size ← (word? (String.ofList (body.map Char.toLower))).orElse fun _ => unsigned? body
  return if negative then -size.toFloat else size.toFloat

end Chip8.Decimal.Numeral
