import Chip8.Yaml.Cursor
import Chip8.Yaml.Token

set_option autoImplicit false

/-! # Plain scalars

A plain scalar has no quotes. It consists of words with gaps between them. A word ends at a
separator, at a colon that ends a key and, between brackets, at the characters that structure flow
collections. A gap in a line reads as it is written; where a line ends in it, the first break reads
as a space and further breaks read as themselves. -/

namespace Chip8.Yaml.Token

/-! ## Words -/

/-- Characters that structure flow collections. -/
def isFlowMark (c : Char) : Bool :=
  c = ',' || c = '[' || c = ']' || c = '\x7b' || c = '\x7d'

/-- Whether a colon does not belong to the word in front of it, by the character that follows.
    Between brackets it is unclear what a colon means right before a mark or a question mark. -/
def endsWord (flow : Bool) (after : Char) : Bool :=
  isSeparator after || (flow && (isFlowMark after || after = '?'))

/-- The characters of a plain scalar up to the next gap or end. -/
def plainWord (flow : Bool) : List Char → List Char
  | [] => []
  | d :: rest =>
    if isSeparator d then []
    else if d = ':' then
      if endsWord flow (rest.head?.getD '\x00') then [] else d :: plainWord flow rest
    else if flow && isFlowMark d then []
    else d :: plainWord flow rest

/-- Letters go on without an end. -/
theorem plainWord_letters (flow : Bool) (cs : List Char) (h : ∀ c ∈ cs, c.isAlpha = true) :
    plainWord flow cs = cs := by
  induction cs with
  | nil => rfl
  | cons c rest ih =>
    have hc : c.isAlpha = true := h c (by simp)
    have ne (d : Char) (hd : d.isAlpha = false) : c ≠ d := fun e => by
      rw [e, hd] at hc
      cases hc
    have hr := ih fun d hd => h d (by simp [hd])
    simp [plainWord, isSeparator_of_isAlpha hc, isFlowMark, ne, hr]

/-- Whether the word in front of a cursor has ended at a colon whose meaning is unclear. -/
def isUnclear (flow : Bool) (c : Cursor) : Bool :=
  flow && c.here = ':' && !isSeparator (c.peek 1)

/-! ## Gaps -/

/-- Step over blank lines and the blanks in front of the next word. The breaks of the lines are
    kept; a tab cannot indent a line up to the column `indent` in a scalar that starts at a
    mark. -/
def blankLines (start : Mark) (indent : Nat) : Nat → Cursor → Except Error (List Char × Cursor)
  | 0, c => .ok ([], c)
  | fuel + 1, c =>
    if c.here = '\t' && c.column < indent then refuse .plainScalar start .tabAsIndentation c
    else if isBlank c.here then blankLines start indent fuel c.next
    else match c.lineBreak? with
      | none => .ok ([], c)
      | some (d, after) => do
        let (ds, stop) ← blankLines start indent fuel after
        return (d :: ds, stop)

/-- How breaks read: the first one as a space if no other follows, unless it is kept. -/
def foldBreaks (first : Option Char) (others : List Char) : List Char :=
  if first = some '\n' then if others.isEmpty then [' '] else others
  else first.toList ++ others

/-- What stands between two words. -/
structure Gap where
  /-- what it reads as -/
  text : List Char
  cursor : Cursor
  /-- whether a line ended in it -/
  lineEnded : Bool

/-- Read the blanks and breaks after a word. -/
def readGap (start : Mark) (indent : Nat) (c : Cursor) : Except Error Gap := do
  let (blanks, c) := c.takeWhile isBlank
  match c.lineBreak? with
  | none => return ⟨blanks, c, false⟩
  | some (first, after) =>
    let (others, stop) ← blankLines start indent (after.rest.length + 1) after
    return ⟨foldBreaks (some first) others, stop, true⟩

/-! ## Scalars -/

/-- Where a plain scalar ends. -/
structure PlainEnd where
  text : List Char
  cursor : Cursor
  /-- whether a line ended after the last word -/
  lineEnded : Bool

/-- The words of a plain scalar after a gap. A document marker, a comment and, outside of brackets,
    a line that starts left of the column `indent` end it. -/
def plainWords (start : Mark) (flow : Bool) (indent : Nat) : Nat → Gap → Except Error PlainEnd
  | 0, gap => .ok ⟨[], gap.cursor, gap.lineEnded⟩
  | fuel + 1, gap => do
    let c := gap.cursor
    let ended :=
      c.atMarker || c.here = '#' || (gap.lineEnded && !flow && c.column < indent)
    let word := if ended then [] else plainWord flow c.rest
    let c := c.skip word.length
    if !ended && isUnclear flow c then refuse .plainScalar start .unclearColon c
    if word.isEmpty then return ⟨[], gap.cursor, gap.lineEnded⟩
    let tail ← plainWords start flow indent fuel (← readGap start indent c)
    return ⟨gap.text ++ word ++ tail.text, tail.cursor, tail.lineEnded⟩

/-- Read a plain scalar. -/
def readPlain (flow : Bool) (indent : Nat) (c : Cursor) : Except Error PlainEnd :=
  plainWords c.mark flow indent (c.rest.length + 1) ⟨[], c, false⟩

end Chip8.Yaml.Token
