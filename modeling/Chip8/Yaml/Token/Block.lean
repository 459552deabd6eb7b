import Chip8.Yaml.Token.Name

set_option autoImplicit false

/-! # Block scalars

A block scalar is an indented stretch of lines. Its header says whether breaks are kept (`|`) or
folded (`>`), what becomes of the breaks at its end, and how far it is indented, if the first line
does not show it. -/

namespace Chip8.Yaml.Token

/-- What becomes of the breaks at the end. -/
inductive Chomping where
  | strip
  | clip
  | keep
deriving DecidableEq

/-- The marks after `|` or `>`. -/
structure BlockHeader where
  chomping : Chomping := .clip
  indent? : Option Nat := none

/-- What a chomping mark means. -/
def chompingMark? : Char → Option Chomping
  | '+' => some .keep
  | '-' => some .strip
  | _ => none

/-- Read an indentation mark, a digit from 1 to 9. -/
def readIndentMark (start : Mark) (c : Cursor) : Except Error (Option Nat × Cursor) :=
  if c.here = '0' then refuse .blockScalar start .zeroIndent c
  else if c.here.isDigit then .ok (some (hexDigit c.here), c.next)
  else .ok (none, c)

/-- Read the marks, in either order. -/
def readHeader (start : Mark) (c : Cursor) : Except Error (BlockHeader × Cursor) := do
  match chompingMark? c.here with
  | some chomping =>
    let (indent?, c) ← readIndentMark start c.next
    return (⟨chomping, indent?⟩, c)
  | none =>
    let (indent?, c) ← readIndentMark start c
    match indent?, chompingMark? c.here with
    | some _, some chomping => return (⟨chomping, indent?⟩, c.next)
    | _, _ => return (⟨.clip, indent?⟩, c)

/-- The empty lines in front of a line. -/
structure EmptyLines where
  /-- their breaks -/
  breaks : List Char
  /-- the deepest column that spaces reach in them and in front of the line -/
  deepest : Nat
  cursor : Cursor

/-- Step over spaces, up to a column if one is given. -/
def dropIndent (column? : Option Nat) (c : Cursor) : Cursor :=
  let spaces := (c.rest.takeWhile (· = ' ')).length
  c.skip (match column? with
    | some column => min spaces (column - c.column)
    | none => spaces)

/-- Step over empty lines and the indentation of the next line. A tab is no indentation. -/
def emptyLines (start : Mark) (column? : Option Nat) : Nat → Cursor → Except Error EmptyLines
  | 0, c => .ok ⟨[], c.column, c⟩
  | fuel + 1, c => do
    let c := dropIndent column? c
    let indented := match column? with
      | some column => decide (column ≤ c.column)
      | none => false
    if !indented && c.here = '\t' then refuse .blockScalar start .tabAsBlockIndentation c
    match c.lineBreak? with
    | none => return ⟨[], c.column, c⟩
    | some (d, after) =>
      let more ← emptyLines start column? fuel after
      return ⟨d :: more.breaks, max c.column more.deepest, more.cursor⟩

/-- How the breaks between two lines read. Lines that start with a blank are not folded. -/
def betweenLines (folded leadsBlank nextBlank : Bool) (first : Option Char) (others : List Char) :
    List Char :=
  if folded && first = some '\n' && !leadsBlank && !nextBlank then
    if others.isEmpty then [' '] else others
  else first.toList ++ others

/-- The lines of a block scalar, with the break that ends the last one, the breaks that follow,
    and the cursor after them. -/
structure BlockText where
  text : List Char
  last : Option Char
  trailing : List Char
  cursor : Cursor

/-- Read the lines of a block scalar, from the first character of a line. -/
def blockLines (start : Mark) (folded : Bool) (indent : Nat) : Nat → Cursor → Except Error BlockText
  | 0, c => .ok ⟨[], none, [], c⟩
  | fuel + 1, c => do
    let (text, after) := c.takeWhile fun d => !isLineEnd d
    let (first, after) := match after.lineBreak? with
      | some (d, after) => (some d, after)
      | none => (none, after)
    let lines ← emptyLines start (some indent) (after.rest.length + 1) after
    let next := lines.cursor
    if next.column = indent && !next.rest.isEmpty then
      let more ← blockLines start folded indent fuel next
      let gap := betweenLines folded (isBlank c.here) (isBlank next.here) first lines.breaks
      return { more with text := text ++ gap ++ more.text }
    else return ⟨text, first, lines.breaks, next⟩

/-- Read a block scalar from its first character. It is indented deeper than `indent`, the
    indentation of what holds it. -/
def readBlock (indent : Int) (c : Cursor) : Except Error (String × Cursor) := do
  let start := c.mark
  let folded : Bool := c.here = '>'
  let (header, c) ← readHeader start c.next
  let c ← endLine .blockScalar start c
  let given? := header.indent?.map fun more => (max indent 0).toNat + more
  let lines ← emptyLines start given? (c.rest.length + 1) c
  let column := given?.getD (max lines.deepest (max (indent + 1) 1).toNat)
  let c := lines.cursor
  let block ←
    if c.column = column && !c.rest.isEmpty then do
      let block ← blockLines start folded column (c.rest.length + 1) c
      pure { block with text := lines.breaks ++ block.text }
    else pure ⟨[], none, lines.breaks, c⟩
  let tail := match header.chomping with
    | .strip => []
    | .clip => block.last.toList
    | .keep => block.last.toList ++ block.trailing
  return (String.ofList (block.text ++ tail), block.cursor)

end Chip8.Yaml.Token
