import Chip8.Text.Printable

set_option autoImplicit false

/-! # Quoted text

Names that come from outside are shown in quotes, so that their ends and their unusual characters
can be seen. Single quotes are used unless the text has a single quote and no double quote. The
quote itself, the backslash and whatever is not printable are escaped. -/

namespace Chip8.Text.Quoted

/-- The quote that suits a text. -/
def quoteFor (cs : List Char) : Char :=
  if cs.contains '\'' && !cs.contains '"' then '"' else '\''

/-- A code point in lower-case hexadecimal digits of a fixed width. -/
def hexCode (width code : Nat) : List Char :=
  let ds := Nat.toDigits 16 code
  List.replicate (width - ds.length) '0' ++ ds

/-- A character by its number. -/
def escapeChar (c : Char) : List Char :=
  if c.toNat < 0x100 then '\\' :: 'x' :: hexCode 2 c.toNat
  else if c.toNat < 0x10000 then '\\' :: 'u' :: hexCode 4 c.toNat
  else '\\' :: 'U' :: hexCode 8 c.toNat

/-- How one character is written inside the given quotes. -/
def encodeChar (quote c : Char) : List Char :=
  if c = quote || c = '\\' then ['\\', c]
  else if c = '\n' then ['\\', 'n']
  else if c = '\r' then ['\\', 'r']
  else if c = '\t' then ['\\', 't']
  else if isPrintable c then [c]
  else escapeChar c

/-- A text in quotes. -/
def encode (text : String) : String :=
  let cs := text.toList
  let quote := quoteFor cs
  String.ofList (quote :: cs.flatMap (encodeChar quote) ++ [quote])

example : encode "a.ch8" = "'a.ch8'" ∧ encode "it's" = "\"it's\"" := by decide +kernel

/-! ## Bytes -/

/-- How one byte is written inside the given quotes: as a character of ASCII, or by its number. -/
def encodeByte (quote : Char) (b : UInt8) : List Char :=
  let c := Char.ofNat b.toNat
  if b < 0x7F then encodeChar quote c else '\\' :: 'x' :: hexCode 2 b.toNat

/-- Bytes in quotes, with a mark in front. -/
def encodeBytes (bytes : List UInt8) : String :=
  let quote := quoteFor (bytes.map fun b => Char.ofNat b.toNat)
  String.ofList ('b' :: quote :: bytes.flatMap (encodeByte quote) ++ [quote])

example : encodeBytes [0x68, 0x27, 0xFF] = "b\"h'\\xff\"" := by decide +kernel

end Chip8.Text.Quoted
