import Chip8.Yaml.Mark

set_option autoImplicit false

/-! # Positions in a text

A cursor is what is left of a text, with the index, line and column of its first character. The end
of the text reads as the null character, which cannot occur in it, so that looking ahead always has
an answer. A byte order mark in front of the text does not belong to it; later ones are characters
like all others. -/

namespace Chip8.Yaml

/-- Characters that end a line. -/
def isBreak (c : Char) : Bool :=
  c = '\n' || c = '\r' || c = '\u0085' || c = '\u2028' || c = '\u2029'

/-- The end of the text, or the end of a line. -/
def isLineEnd (c : Char) : Bool := c = '\x00' || isBreak c

/-- Spaces and tabs. -/
def isBlank (c : Char) : Bool := c = ' ' || c = '\t'

/-- What separates words: a blank, the end of a line, or the end of the text. -/
def isSeparator (c : Char) : Bool := isBlank c || isLineEnd c

theorem isSeparator_of_isAlpha {c : Char} (h : c.isAlpha = true) : isSeparator c = false := by
  have ne (d : Char) (hd : d.isAlpha = false) : c ≠ d := fun e => by
    rw [e, hd] at h
    cases h
  simp [isSeparator, isBlank, isLineEnd, isBreak, ne]

/-- Letters, digits, `-` and `_`, of which names of anchors, handles and directives are made. -/
def isNameChar (c : Char) : Bool := c.isAlphanum || c = '-' || c = '_'

/-- Hexadecimal digits. -/
def isHexDigit (c : Char) : Bool :=
  c.isDigit || ('a' ≤ c && c ≤ 'f') || ('A' ≤ c && c ≤ 'F')

/-- The value of a hexadecimal digit. -/
def hexDigit (c : Char) : Nat :=
  if c.isDigit then c.toNat - 48
  else if 'a' ≤ c && c ≤ 'f' then c.toNat - 87
  else c.toNat - 55

/-- The number that hexadecimal digits denote. -/
def hexNumber (digits : List Char) : Nat := digits.foldl (fun n c => 16 * n + hexDigit c) 0

/-- What is left of a text, and where that is. -/
structure Cursor where
  rest : List Char
  index : Nat
  line : Nat
  column : Nat

namespace Cursor

/-- The mark of byte order. -/
def byteOrderMark : Char := '\uFEFF'

/-- The start of a text, behind a byte order mark. -/
def start : List Char → Cursor
  | [] => ⟨[], 0, 0, 0⟩
  | c :: cs => ⟨if c = byteOrderMark then cs else c :: cs, 0, 0, 0⟩

/-- Where the next character is. -/
def mark (c : Cursor) : Mark := ⟨c.index, c.line, c.column⟩

/-- The character `n` places ahead. -/
def peek (c : Cursor) (n : Nat) : Char := c.rest[n]?.getD '\x00'

/-- The next character. -/
def here (c : Cursor) : Char := c.peek 0

/-- Step over one character. A line ends at each break, a carriage return and a line feed being one
    break. -/
def next (c : Cursor) : Cursor :=
  match c.rest with
  | [] => c
  | d :: rest =>
    if isBreak d && !(d = '\r' && rest.head? = some '\n') then ⟨rest, c.index + 1, c.line + 1, 0⟩
    else ⟨rest, c.index + 1, c.line, c.column + 1⟩

/-- Step over `n` characters. -/
def skip (c : Cursor) : Nat → Cursor
  | 0 => c
  | n + 1 => c.next.skip n

/-- The longest stretch of characters that pass a test, and the cursor after it. -/
def takeWhile (c : Cursor) (test : Char → Bool) : List Char × Cursor :=
  let taken := c.rest.takeWhile test
  (taken, c.skip taken.length)

/-- The cursor after the longest stretch of characters that pass a test. -/
def dropWhile (c : Cursor) (test : Char → Bool) : Cursor := (c.takeWhile test).2

/-! ### What is left -/

theorem rest_next (c : Cursor) : c.next.rest = c.rest.drop 1 := by
  unfold next
  split
  next h => simp [h]
  next d rest h =>
    rw [h]
    split <;> rfl

theorem rest_skip (c : Cursor) (n : Nat) : (c.skip n).rest = c.rest.drop n := by
  induction n generalizing c with
  | zero => rfl
  | succ n ih => rw [skip, ih, rest_next, List.drop_drop, Nat.add_comm]

/-! ### Blanks, lines and markers -/

/-- Step over blanks. -/
def dropBlanks (c : Cursor) : Cursor := c.dropWhile isBlank

/-- Step over a comment, if one starts here. -/
def dropComment (c : Cursor) : Cursor :=
  if c.here = '#' then c.dropWhile fun d => !isLineEnd d else c

/-- A line break as it reads, and the cursor after it: the breaks of ASCII and the next-line
    character read as a line feed, the separators of lines and paragraphs as themselves. There is
    no answer elsewhere. -/
def lineBreak? (c : Cursor) : Option (Char × Cursor) :=
  if c.here = '\r' && c.peek 1 = '\n' then some ('\n', c.skip 2)
  else if c.here = '\u2028' || c.here = '\u2029' then some (c.here, c.next)
  else if isBreak c.here then some ('\n', c.next)
  else none

/-- Whether a document marker, `---` or `...`, starts the line here. -/
def atMarker (c : Cursor) : Bool :=
  c.column = 0 && ((c.here = '-' && c.peek 1 = '-' && c.peek 2 = '-')
    || (c.here = '.' && c.peek 1 = '.' && c.peek 2 = '.'))
    && isSeparator (c.peek 3)

end Cursor

end Chip8.Yaml
