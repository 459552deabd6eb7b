import Chip8.Decimal.Numeral
import Chip8.Text.Lowercase
import Chip8.Yaml.Atom
import Chip8.Yaml.Scalar

set_option autoImplicit false

/-! # Numbers

The numbers that texts denote, with underscores anywhere and a sign in front. Integers may be marked
as binary, octal or hexadecimal; both kinds of numbers may be written in base 60, with colons
between the parts. -/

namespace Chip8.Yaml.Number

/-- Split at a character. -/
def splitAt (mark : Char) : List Char → List (List Char)
  | [] => [[]]
  | c :: rest =>
    if c = mark then [] :: splitAt mark rest
    else match splitAt mark rest with
      | part :: parts => (c :: part) :: parts
      | [] => [[c]]

/-- Whether a text starts with a minus, and the text without its sign and its underscores. -/
def signAndBody (text : String) : Bool × List Char :=
  let cs := text.toList.filter (· ≠ '_')
  (cs.head? = some '-', Scalar.unsigned cs)

/-- The integer that digits denote in a base. -/
def integerIn (base : Nat) (cs : List Char) : Except Error Int :=
  match Text.integerIn base (String.ofList cs) with
  | .ok k => .ok k
  | .error .malformed => .error (.number (.integer base (String.ofList cs)))
  | .error (.tooLong digits) => .error (.number (.tooLong digits))

/-- The integer of a text without sign and underscores. -/
def unsignedInteger (body : List Char) : Except Error Int :=
  match body with
  | [] => .error .emptyNumber
  | ['0'] => .ok 0
  | '0' :: 'b' :: ds => integerIn 2 ds
  | '0' :: 'x' :: ds => integerIn 16 ds
  | '0' :: _ => integerIn 8 body
  | _ => do
    let parts ← (splitAt ':' body).mapM (integerIn 10)
    return parts.foldl (fun n d => 60 * n + d) 0

/-- The integer of a text. -/
def integer (text : String) : Except Error Int := do
  let (negative, body) := signAndBody text
  let size ← unsignedInteger body
  return if negative then -size else size

/-- The floating-point number of a part. -/
def floatPart (cs : List Char) : Except Error Float :=
  match Decimal.Numeral.ofText? (String.ofList cs) with
  | some x => .ok x
  | none => .error (.number (.float (String.ofList cs)))

/-- The sum of parts in base 60, the last one first; `unit` is what the first one counts. A unit
    that no floating-point number reaches is a fault. -/
def sumOfParts (sum : Float) (unit : Nat) : List Float → Except Error Float
  | [] => .ok sum
  | x :: rest =>
    let size := (Decimal.Numeral.nearest unit 0).toFloat
    if size.isInf then .error .tooManyParts
    else sumOfParts (sum + x * size) (60 * unit) rest

/-- The floating-point number of a text without sign and underscores, in lower case, that is none
    of the words for infinity and for no number. -/
def unsignedFloat (body : List Char) : Except Error Float :=
  if !body.contains ':' then floatPart body
  else do
    let parts ← (splitAt ':' body).mapM floatPart
    sumOfParts 0.0 1 parts.reverse

/-- The floating-point number of a text, as an atom. What is no number comes from the given origin,
    unless it is written as such. -/
def float (origin : Nat) (text : String) : Except Error Atom := do
  let (negative, body) := signAndBody (Text.Lowercase.ofText text)
  if body.isEmpty && text.toList.all (· = '_') then .error .emptyNumber
  if body = ['.', 'n', 'a', 'n'] then return .nan 0
  let size ← if body = ['.', 'i', 'n', 'f'] then pure (1.0 / 0.0) else unsignedFloat body
  return if size.isNaN then .nan origin else .float (if negative then -size else size)

end Chip8.Yaml.Number
