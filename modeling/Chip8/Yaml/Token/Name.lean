import Chip8.Decimal.Numeral
import Chip8.Yaml.Cursor
import Chip8.Yaml.Token

set_option autoImplicit false

/-! # Anchors, tags and directives

The tokens that hold names. Each reader starts at the character that introduces the token and
answers with the token and the cursor after it. -/

namespace Chip8.Yaml.Token

/-- Read an anchor or an alias: a name of letters, digits, `-` and `_`. -/
def readName (activity : Activity) (c : Cursor) : Except Error (String × Cursor) :=
  let (name, after) := c.next.takeWhile isNameChar
  if !name.isEmpty && (isSeparator after.here || "?:,]\x7d%@\x60".toList.contains after.here) then
    .ok (String.ofList name, after)
  else refuse activity c.mark .badName after

/-! ## The text of a tag -/

/-- Characters of a tag; some more stand between angle brackets. -/
def isTagChar (enclosed : Bool) (c : Char) : Bool :=
  isNameChar c || ";/?:@&=+$.!~*'()%".toList.contains c || (enclosed && ",[]".toList.contains c)

/-- Fail in the text of a tag, which is part of something. -/
def refuseIn {α : Type} (whole : Context) (cause : TokenError) (c : Cursor) : Except Error α :=
  refuse whole.activity whole.start cause c

/-- Read an octet: a percent sign and two hexadecimal digits. -/
def readOctet (whole : Context) (c : Cursor) : Except Error (UInt8 × Cursor) :=
  if c.here = '%' && isHexDigit (c.peek 1) && isHexDigit (c.peek 2) then
    .ok (UInt8.ofNat (hexNumber [c.peek 1, c.peek 2]), c.skip 3)
  else refuseIn whole .missingOctet c

/-- How many octets follow the first one of a character. -/
def furtherOctets? (first : UInt8) : Option Nat :=
  if first < 0x80 then some 0
  else if first / 32 = 6 then some 1
  else if first / 16 = 14 then some 2
  else if first / 8 = 30 then some 3
  else none

/-- Read octets that go on a character. -/
def readFurtherOctets (whole : Context) : Nat → Cursor → Except Error (List UInt8 × Cursor)
  | 0, c => .ok ([], c)
  | n + 1, c => do
    let (b, after) ← readOctet whole c
    if b / 64 ≠ 2 then refuseIn whole .badFurtherOctet c
    let (bs, after) ← readFurtherOctets whole n after
    return (b :: bs, after)

/-- Read the octets of one character of a tag. -/
def readTagChar (whole : Context) (c : Cursor) : Except Error (List UInt8 × Cursor) :=
  if c.here = '%' then do
    let (first, after) ← readOctet whole c
    match furtherOctets? first with
    | some n =>
      let (bs, after) ← readFurtherOctets whole n after
      return (first :: bs, after)
    | none => refuseIn whole .badFirstOctet c
  else .ok ([UInt8.ofNat c.here.toNat], c.next)

/-- Read the octets of a tag. -/
def tagOctets (whole : Context) (enclosed : Bool) :
    Nat → Cursor → Except Error (List UInt8 × Cursor)
  | 0, c => .ok ([], c)
  | fuel + 1, c =>
    if !isTagChar enclosed c.here then .ok ([], c)
    else do
      let (first, c) ← readTagChar whole c
      let (rest, c) ← tagOctets whole enclosed fuel c
      return (first ++ rest, c)

/-- What octets read as; a zero octet ends them. There is no answer if they are no text. -/
def octetText? (octets : List UInt8) : Option String :=
  String.fromUTF8? (ByteArray.mk (octets.takeWhile (· ≠ 0)).toArray)

/-- Read the text of a tag, a character at least. -/
def readTagText (whole : Context) (enclosed : Bool) (c : Cursor) :
    Except Error (Option String × Cursor) := do
  let (octets, after) ← tagOctets whole enclosed c.rest.length c
  if octets.isEmpty then refuseIn whole .missingTagText c else return (octetText? octets, after)

/-! ## Tags -/

/-- Read an exclamation mark, a name that may follow, and a second mark that may follow that. -/
def readMarks (c : Cursor) : List Char × Cursor :=
  let (name, after) := c.next.takeWhile isNameChar
  if after.here = '!' then ('!' :: name ++ ['!'], after.next) else ('!' :: name, after)

/-- Whether marks are a handle of their own, and not the start of a text. -/
def isHandle (marks : List Char) : Bool := 1 < marks.length && marks.getLast? = some '!'

/-- Read a tag: `!<text>`, a lone `!`, or a handle and a text. Without a handle of its own the text
    belongs to the handle `!`. A separator follows, or a comma between brackets. -/
def readTag (flow : Bool) (c : Cursor) : Except Error (Token × Cursor) := do
  let start := c.mark
  let whole : Context := ⟨.tagText, start⟩
  let (token, c) ←
    if c.peek 1 = '<' then do
      let (text?, c) ← readTagText whole true (c.skip 2)
      if c.here = '>' then pure (Token.tag none text?, c.next)
      else refuse .tag start .missingAngle c
    else do
      let (marks, c) := readMarks c
      if isHandle marks then
        let (text?, c) ← readTagText whole false c
        pure (Token.tag (some (String.ofList marks)) text?, c)
      else
        let (octets, c) ← tagOctets whole false c.rest.length c
        let text? := (octetText? octets).map (String.ofList (marks.drop 1) ++ ·)
        if text? = some "" then pure (Token.tag none (some "!"), c)
        else pure (Token.tag (some "!") text?, c)
  if isSeparator c.here || (flow && c.here = ',') then return (token, c)
  else refuse .tag start .missingBlankOrLineEnd c

/-! ## Directives -/

/-- Step over blanks, a comment and the end of the line; nothing else may be there. -/
def endLine (activity : Activity) (start : Mark) (c : Cursor) : Except Error Cursor :=
  let c := c.dropBlanks.dropComment
  match c.lineBreak? with
  | some (_, after) => .ok after
  | none => if c.rest.isEmpty then .ok c else refuse activity start .missingLineEnd c

/-- The most digits that a part of a version has. -/
def maxVersionDigits : Nat := 9

/-- Read one part of a version. -/
def readVersionPart (start : Mark) (c : Cursor) : Except Error (Nat × Cursor) :=
  let (digits, after) := c.takeWhile Char.isDigit
  if digits.isEmpty then refuse .versionDirective start .missingVersion c
  else if maxVersionDigits < digits.length then
    refuse .versionDirective start .longVersion (c.skip maxVersionDigits)
  else .ok (Decimal.Numeral.natural digits, after)

/-- Read what follows `%YAML`. -/
def readVersion (start : Mark) (c : Cursor) : Except Error (Directive × Cursor) := do
  let (major, c) ← readVersionPart start c.dropBlanks
  if c.here ≠ '.' then refuse .versionDirective start .missingDigitOrPoint c
  let (minor, c) ← readVersionPart start c.next
  return (.version major minor, c)

/-- Read what follows `%TAG`. -/
def readTagDirective (start : Mark) (c : Cursor) : Except Error (Directive × Cursor) := do
  let c := c.dropBlanks
  if c.here ≠ '!' then refuse .tagDirectiveMark start .missingMark c
  let (marks, c) := readMarks c
  if !isHandle marks && marks ≠ ['!'] then refuse .tagDirectiveHandle start .missingMark c
  if !isBlank c.here then refuse .tagDirective start .missingBlank c
  let (expansion?, c) ← readTagText ⟨.tagDirectiveText, start⟩ true c.dropBlanks
  if isSeparator c.here then return (.tag (String.ofList marks) expansion?, c)
  else refuse .tagDirective start .missingBlankOrLineEnd c

/-- Read a directive with its line. -/
def readDirective (c : Cursor) : Except Error (Token × Cursor) := do
  let start := c.mark
  let (name, c) := c.next.takeWhile isNameChar
  if name.isEmpty then refuse .directive start .missingDirectiveName c
  if !isSeparator c.here then refuse .directive start .badDirectiveName c
  let (content, c) ←
    if String.ofList name = "YAML" then readVersion start c
    else if String.ofList name = "TAG" then readTagDirective start c
    else refuse .directive start .unknownDirective c
  return (.directive content, ← endLine .directive start c)

end Chip8.Yaml.Token
