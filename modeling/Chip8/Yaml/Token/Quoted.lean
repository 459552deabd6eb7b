import Chip8.Yaml.Token.Plain

set_option autoImplicit false

/-! # Quoted scalars

Between single quotes only the quote itself is written twice; between double quotes a backslash
starts an escape. Line breaks fold as in plain scalars, and a backslash at the end of a line joins
it with the next one. -/

namespace Chip8.Yaml.Token

/-- What a one-letter escape denotes. -/
def escapedChar? : Char → Option Char
  | '0' => some '\x00'
  | 'a' => some '\x07'
  | 'b' => some '\x08'
  | 't' => some '\t'
  | '\t' => some '\t'
  | 'n' => some '\n'
  | 'v' => some '\x0b'
  | 'f' => some '\x0c'
  | 'r' => some '\r'
  | 'e' => some '\x1b'
  | ' ' => some ' '
  | '"' => some '"'
  | '\\' => some '\\'
  | '/' => some '/'
  | 'N' => some '\u0085'
  | '_' => some '\u00a0'
  | 'L' => some '\u2028'
  | 'P' => some '\u2029'
  | _ => none

/-- How many digits a numeric escape has. -/
def escapeWidth? : Char → Option Nat
  | 'x' => some 2
  | 'u' => some 4
  | 'U' => some 8
  | _ => none

/-- Whether a character stands in quotes as itself, wherever it is. -/
def isQuotable (d : Char) : Bool :=
  !(isSeparator d || d = '\'' || d = '"' || d = '\\')

/-- Whether a code point is that of a character. -/
def isCodePoint (code : Nat) : Bool := code < 0xD800 || (0xDFFF < code && code < 0x110000)

/-- Read what a numeric escape of a given width denotes. -/
def readCode (start : Mark) (width : Nat) (c : Cursor) : Except Error (List Char × Cursor) :=
  let digits := c.rest.take width
  let code := hexNumber digits
  if digits.length < width || !digits.all isHexDigit then
    refuse .quotedEscape start .missingHexDigit c
  else if !isCodePoint code then refuse .quotedEscape start .badCodePoint c
  else .ok ([Char.ofNat code], c.skip width)

/-- Read an escape from its backslash. An escaped break reads as nothing, the breaks after it as
    themselves. -/
def readEscape (start : Mark) (backslash : Cursor) : Except Error (List Char × Cursor) :=
  let c := backslash.next
  if let some (_, after) := c.lineBreak? then blankLines start 0 (after.rest.length + 1) after
  else if let some d := escapedChar? c.here then .ok ([d], c.next)
  else if let some width := escapeWidth? c.here then readCode start width c.next
  else refuse .quotedEscape start .unknownEscape backslash

/-- The rest of a quoted scalar, and the cursor after its closing quote. -/
def quotedText (start : Mark) (double : Bool) : Nat → Cursor → Except Error (List Char × Cursor)
  | 0, c => refuse .quotedScalar start .unclosedQuote c
  | fuel + 1, c => do
    let d := c.here
    if c.atMarker then refuse .quotedScalar start .markerInQuote c
    if c.rest.isEmpty then refuse .quotedScalar start .unclosedQuote c
    if double && d = '"' then return ([], c.next)
    if !double && d = '\'' && c.peek 1 ≠ '\'' then return ([], c.next)
    let (piece, after) ←
      if isQuotable d then pure (c.takeWhile isQuotable)
      else if isBlank d || isBreak d then do
        let gap ← readGap start 0 c
        pure (gap.text, gap.cursor)
      else if double && d = '\\' then readEscape start c
      else pure ([d], c.skip (if !double && d = '\'' then 2 else 1))
    let (rest, stop) ← quotedText start double fuel after
    return (piece ++ rest, stop)

/-- Read a quoted scalar from its opening quote. -/
def readQuoted (c : Cursor) : Except Error (String × Cursor) := do
  let (text, stop) ← quotedText c.mark (c.here = '"') (c.rest.length + 1) c.next
  return (String.ofList text, stop)

end Chip8.Yaml.Token
