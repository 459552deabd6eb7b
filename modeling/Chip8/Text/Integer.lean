set_option autoImplicit false

/-! # Integers in text

The integers that people type: blanks around, one sign, and digits of a base, decimal ones of any
script, which single underscores may separate. A numeral in base ten has at most 4300 digits. -/

namespace Chip8.Text

/-- The zeros of the decimal digits of Unicode 14; the other nine digits follow each of them. -/
def decimalZeros : List Nat :=
  [0x30, 0x660, 0x6F0, 0x7C0, 0x966, 0x9E6, 0xA66, 0xAE6, 0xB66, 0xBE6, 0xC66, 0xCE6, 0xD66,
   0xDE6, 0xE50, 0xED0, 0xF20, 0x1040, 0x1090, 0x17E0, 0x1810, 0x1946, 0x19D0, 0x1A80, 0x1A90,
   0x1B50, 0x1BB0, 0x1C40, 0x1C50, 0xA620, 0xA8D0, 0xA900, 0xA9D0, 0xA9F0, 0xAA50, 0xABF0,
   0xFF10, 0x104A0, 0x10D30, 0x11066, 0x110F0, 0x11136, 0x111D0, 0x112F0, 0x11450, 0x114D0,
   0x11650, 0x116C0, 0x11730, 0x118E0, 0x11950, 0x11C50, 0x11D50, 0x11DA0, 0x16A60, 0x16AC0,
   0x16B50, 0x1D7CE, 0x1D7D8, 0x1D7E2, 0x1D7EC, 0x1D7F6, 0x1E140, 0x1E2F0, 0x1E950, 0x1FBF0]

/-- The value of a decimal digit of any script. -/
def decimalDigit? (c : Char) : Option Nat :=
  (decimalZeros.find? fun first => first ≤ c.toNat && c.toNat < first + 10).map (c.toNat - ·)

/-- The ranges of blanks around a numeral. -/
def blankRanges : List (Nat × Nat) :=
  [(0x09, 0x0D), (0x20, 0x20), (0x85, 0x85), (0xA0, 0xA0), (0x1680, 0x1680), (0x2000, 0x200A),
   (0x2028, 0x2029), (0x202F, 0x202F), (0x205F, 0x205F), (0x3000, 0x3000)]

/-- Whether a character may surround a numeral. -/
def isBlank (c : Char) : Bool := blankRanges.any fun r => r.1 ≤ c.toNat && c.toNat ≤ r.2

/-- Drop the blanks at both ends. -/
def trimBlanks (cs : List Char) : List Char :=
  ((cs.dropWhile isBlank).reverse.dropWhile isBlank).reverse

/-! ## Digits of a base -/

/-- The value of a digit in a base up to 36: a decimal digit of any script, or a letter of ASCII. -/
def digitIn? (base : Nat) (c : Char) : Option Nat :=
  let value? :=
    if c.isLower then some (c.toNat - 87)
    else if c.isUpper then some (c.toNat - 55)
    else decimalDigit? c
  value?.filter (· < base)

/-- Whether there are underscores only between other characters, one at a time. -/
def isWellSpaced : List Char → Bool
  | [] => false
  | ['_'] => false
  | [_] => true
  | '_' :: _ => false
  | _ :: '_' :: rest => isWellSpaced rest
  | _ :: rest => isWellSpaced rest

/-- The letter that marks a numeral in a base. -/
def baseMark? : Nat → Option Char
  | 2 => some 'b'
  | 8 => some 'o'
  | 16 => some 'x'
  | _ => none

/-- Leave out the mark of a base, a zero and a letter, with the underscore that may follow it. -/
def dropBaseMark (base : Nat) : List Char → List Char
  | '0' :: c :: rest =>
    if baseMark? base = some c.toLower then
      match rest with
      | '_' :: digits => digits
      | digits => digits
    else '0' :: c :: rest
  | cs => cs

/-- The number that digits of a base denote. -/
def numberIn (base : Nat) (digits : List Nat) : Nat :=
  digits.foldl (fun value d => base * value + d) 0

/-! ## Numerals -/

/-- Why a text is no integer. -/
inductive IntegerFault where
  | malformed
  /-- More digits than are read. -/
  | tooLong (digits : Nat)
deriving DecidableEq

/-- The most digits that are read, and written; there is no bound in a base that is a power of
    two. -/
def maxDigits : Nat := 4300

/-- The natural number that an unsigned numeral denotes. Digits are counted before what follows
    them is looked at. -/
def naturalIn (base : Nat) (cs : List Char) : Except IntegerFault Nat :=
  let cs := dropBaseMark base cs
  let numeral := cs.takeWhile fun c => (digitIn? base c).isSome || c = '_'
  let digits := numeral.filterMap (digitIn? base)
  if !isWellSpaced numeral then .error .malformed
  else if (baseMark? base).isNone && maxDigits < digits.length then
    .error (.tooLong digits.length)
  else if !(cs.drop numeral.length).all isBlank then .error .malformed
  else .ok (numberIn base digits)

/-- The integer that a text denotes in a base. -/
def integerIn (base : Nat) (text : String) : Except IntegerFault Int :=
  match text.toList.dropWhile isBlank with
  | '-' :: rest => (naturalIn base rest).map fun n => -(n : Int)
  | '+' :: rest => (naturalIn base rest).map fun n => (n : Int)
  | rest => (naturalIn base rest).map fun n => (n : Int)

/-- The integer that a text denotes in base ten. -/
def integerOf? (text : String) : Option Int := (integerIn 10 text).toOption

/-- What is said of a numeral that has too many digits, or of an integer that would have. -/
def tooManyDigits (digits? : Option Nat) : String :=
  let count := match digits? with
    | some digits => ": value has " ++ toString digits ++ " digits"
    | none => ""
  "Exceeds the limit (" ++ toString maxDigits ++ " digits) for integer string conversion" ++ count
    ++ "; use sys.set_int_max_str_digits() to increase the limit"

/-- Whether an integer is too long to be written. -/
def isTooLong (k : Int) : Bool := decide (Nat.pow 10 maxDigits ≤ k.natAbs)

end Chip8.Text
