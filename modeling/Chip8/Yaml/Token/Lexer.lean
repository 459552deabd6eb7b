import Chip8.Yaml.Token.Block
import Chip8.Yaml.Token.Quoted

set_option autoImplicit false

/-! # From text to tokens

Tokens are read one after the other. Three things are remembered in between: how deep inside
brackets the text is, which columns the open block collections have, and where a key may have begun
that only a later colon will show. Such a candidate lasts for one line and 1024 characters; when
its colon comes, a `key` token is put in before it.

A text that cannot be cut into tokens ends with a `broken` token. Tokens that a reader of the
stream could not have seen yet, because a candidate stands at or before them, are left out. -/

namespace Chip8.Yaml.Token

/-- A place at which a key may have begun. -/
structure Candidate where
  /-- how deep inside brackets it is -/
  depth : Nat
  /-- how many tokens come before it -/
  number : Nat
  /-- whether nothing but a key can stand there -/
  required : Bool
  mark : Mark

/-- A text of which some tokens have been read. -/
structure Lexer where
  cursor : Cursor
  /-- how deep inside brackets the text is -/
  depth : Nat
  /-- the columns of the open block collections, the innermost first -/
  columns : List Nat
  /-- whether a key may begin here -/
  keyAllowed : Bool
  candidates : List Candidate
  tokens : List Placed

namespace Lexer

/-- No token has been read. -/
def start (cs : List Char) : Lexer := ⟨Cursor.start cs, 0, [], true, [], []⟩

/-- Whether the text is outside of brackets. -/
def inBlock (s : Lexer) : Bool := s.depth = 0

/-- The column of the innermost block collection, or -1. -/
def indent (s : Lexer) : Int := (s.columns.head?.map Int.ofNat).getD (-1)

/-- Add a token that starts at a mark and has been stepped over. -/
def push (s : Lexer) (start : Mark) (t : Token) : Lexer :=
  { s with tokens := s.tokens ++ [⟨t, start, s.cursor.mark⟩] }

/-- Fail where no token can be. -/
def refuseHere {α : Type} (s : Lexer) (cause : TokenError) : Except Error α :=
  .error (.token cause ⟨none, s.cursor.mark⟩)

/-! ## Between tokens -/

/-- Step over blanks in a line. Outside of brackets, tabs do not stand where a key may begin. -/
def skipBlanks (s : Lexer) : Cursor :=
  if s.inBlock && s.keyAllowed then s.cursor.dropWhile (· = ' ') else s.cursor.dropBlanks

/-- Step over blanks, comments and breaks. A byte order mark may start a line; outside of brackets,
    a key may begin on a new line. -/
def skipLines : Nat → Lexer → Lexer
  | 0, s => s
  | fuel + 1, s =>
    let c := s.cursor
    let marked := c.column = 0 && c.here = Cursor.byteOrderMark
    let c := (skipBlanks { s with cursor := if marked then c.next else c }).dropComment
    match c.lineBreak? with
    | none => { s with cursor := c }
    | some (_, after) =>
      skipLines fuel { s with cursor := after, keyAllowed := s.keyAllowed || s.inBlock }

/-- Step to the next token. -/
def skipToToken (s : Lexer) : Lexer := skipLines (s.cursor.rest.length + 1) s

/-- Whether a candidate is out of date. -/
def isStale (c : Cursor) (k : Candidate) : Bool :=
  k.mark.line ≠ c.line || 1024 < c.index - k.mark.index

/-- Drop candidates, none of which may be required. -/
def dropWhere (s : Lexer) (test : Candidate → Bool) : Except Error Lexer :=
  match s.candidates.find? fun k => test k && k.required with
  | some k => refuse .simpleKey k.mark .missingColon s.cursor
  | none => .ok { s with candidates := s.candidates.filter fun k => !test k }

/-- Drop the candidates that are out of date. -/
def dropStale (s : Lexer) : Except Error Lexer := s.dropWhere (isStale s.cursor)

/-- Close the block collections that start right of a column. -/
def unwind (s : Lexer) (column : Int) : Lexer :=
  if s.inBlock then
    let closed := s.columns.takeWhile fun k : Nat => column < (k : Int)
    { s with
      columns := s.columns.drop closed.length
      tokens := s.tokens ++ List.replicate closed.length ⟨.blockEnd, s.cursor.mark, s.cursor.mark⟩ }
  else s

/-- Open a block collection at a column, if one is not open there already. -/
def openBlock (s : Lexer) (column : Nat) (t : Token) : Lexer :=
  if s.indent < (column : Int) then { s with columns := column :: s.columns }.push s.cursor.mark t
  else s

/-! ## Candidates -/

/-- Drop the candidate at this depth. -/
def dropCandidate (s : Lexer) : Except Error Lexer := s.dropWhere (·.depth = s.depth)

/-- A key may begin at the next token, where keys are allowed. -/
def noteCandidate (s : Lexer) : Except Error Lexer :=
  if s.keyAllowed then do
    let c := s.cursor
    let required := s.inBlock && s.indent = (c.column : Int)
    let k : Candidate := ⟨s.depth, s.tokens.length, required, c.mark⟩
    let s ← s.dropCandidate
    return { s with candidates := k :: s.candidates }
  else .ok s

/-! ## Tokens, by kind -/

/-- A token of a given length that opens or closes nothing. -/
def mark (s : Lexer) (t : Token) (length : Nat) (keyAllowed : Bool) : Lexer :=
  { s with cursor := s.cursor.skip length, keyAllowed := keyAllowed }.push s.cursor.mark t

/-- The end of the text, which also ends a line that has begun. -/
def atEnd (s : Lexer) : Except Error Lexer := do
  let c := s.cursor
  let c := if c.column = 0 then c else { c with line := c.line + 1, column := 0 }
  let s ← ({ s with cursor := c }.unwind (-1)).dropCandidate
  return { s with keyAllowed := false }.push s.cursor.mark .streamEnd

/-- A directive. -/
def atDirective (s : Lexer) : Except Error Lexer := do
  let s ← (s.unwind (-1)).dropCandidate
  let (t, c) ← readDirective s.cursor
  return { s with cursor := c, keyAllowed := false }.push s.cursor.mark t

/-- A document marker. -/
def atMarker (s : Lexer) (t : Token) : Except Error Lexer := do
  let s ← (s.unwind (-1)).dropCandidate
  return s.mark t 3 false

/-- An opening bracket, with which a key may begin. -/
def atOpening (s : Lexer) (t : Token) : Except Error Lexer := do
  let s ← s.noteCandidate
  return { s.mark t 1 true with depth := s.depth + 1 }

/-- A closing bracket. -/
def atClosing (s : Lexer) (t : Token) : Except Error Lexer := do
  let s ← s.dropCandidate
  return { s.mark t 1 false with depth := s.depth - 1 }

/-- A comma between brackets. -/
def atComma (s : Lexer) : Except Error Lexer := do
  let s ← s.dropCandidate
  return s.mark .flowEntry 1 true

/-- The dash of an entry. -/
def atDash (s : Lexer) : Except Error Lexer := do
  if s.inBlock && !s.keyAllowed then s.refuseHere .entryNotAllowed
  let s := if s.inBlock then s.openBlock s.cursor.column .blockSequenceStart else s
  let s ← s.dropCandidate
  return s.mark .blockEntry 1 true

/-- The question mark of a key. -/
def atQuestion (s : Lexer) : Except Error Lexer := do
  if s.inBlock && !s.keyAllowed then s.refuseHere .keyNotAllowed
  let s := if s.inBlock then s.openBlock s.cursor.column .blockMappingStart else s
  let s ← s.dropCandidate
  return s.mark .key 1 s.inBlock

/-- Put in the tokens of a key that began at a candidate. -/
def insertKey (s : Lexer) (k : Candidate) : Lexer :=
  let opens := s.inBlock && s.indent < (k.mark.column : Int)
  let inserted := if opens then [blockMappingStart, key] else [key]
  { s with
    candidates := s.candidates.filter fun other => other.depth ≠ s.depth
    columns := if opens then k.mark.column :: s.columns else s.columns
    tokens := s.tokens.take k.number ++ inserted.map (⟨·, k.mark, k.mark⟩)
      ++ s.tokens.drop k.number }

/-- The colon of a value. -/
def atColon (s : Lexer) : Except Error Lexer :=
  match s.candidates.find? (·.depth = s.depth) with
  | some k => .ok ((s.insertKey k).mark .value 1 false)
  | none =>
    if s.inBlock && !s.keyAllowed then s.refuseHere .valueNotAllowed
    else
      let s := if s.inBlock then s.openBlock s.cursor.column .blockMappingStart else s
      .ok (s.mark .value 1 s.inBlock)

/-- An alias, an anchor or a tag, with which a key may begin. -/
def atName (s : Lexer) (read : Cursor → Except Error (Token × Cursor)) : Except Error Lexer := do
  let s ← s.noteCandidate
  let (t, c) ← read s.cursor
  return { s with cursor := c, keyAllowed := false }.push s.cursor.mark t

/-- A block scalar. -/
def atBlock (s : Lexer) : Except Error Lexer := do
  let s ← s.dropCandidate
  let (text, c) ← readBlock s.indent s.cursor
  return { s with cursor := c, keyAllowed := true }.push s.cursor.mark (.scalar text false)

/-- A plain scalar, with which a key may begin. -/
def atPlain (s : Lexer) : Except Error Lexer := do
  let s ← s.noteCandidate
  let stop ← readPlain (!s.inBlock) (s.indent + 1).toNat s.cursor
  return { s with cursor := stop.cursor, keyAllowed := stop.lineEnded }.push s.cursor.mark
    (.scalar (String.ofList stop.text) true)

/-- Characters with which a plain scalar cannot start, unless what follows decides otherwise. -/
def isIndicator (d : Char) : Bool :=
  isSeparator d || "-?:,[]\x7b\x7d#&*!|>'\"%@\x60".toList.contains d

/-- Whether a plain scalar starts here. -/
def startsPlain (s : Lexer) : Bool :=
  let d := s.cursor.here
  !isIndicator d
    || (!isSeparator (s.cursor.peek 1) && (d = '-' || (s.inBlock && (d = '?' || d = ':'))))

/-! ## The stream -/

/-- Read the token at the cursor. -/
def readToken (s : Lexer) : Except Error Lexer :=
  let c := s.cursor
  let d := c.here
  let ends := isSeparator (c.peek 1)
  if c.rest.isEmpty then s.atEnd
  else if d = '%' && c.column = 0 then s.atDirective
  else if c.atMarker then
    s.atMarker (if d = '-' then .documentStart else .documentEnd)
  else if d = '[' then s.atOpening .flowSequenceStart
  else if d = '\x7b' then s.atOpening .flowMappingStart
  else if d = ']' then s.atClosing .flowSequenceEnd
  else if d = '\x7d' then s.atClosing .flowMappingEnd
  else if d = ',' then s.atComma
  else if d = '-' && ends then s.atDash
  else if d = '?' && (!s.inBlock || ends) then s.atQuestion
  else if d = ':' && (!s.inBlock || ends) then s.atColon
  else if d = '*' then
    s.atName fun c => (readName .aliasName c).map fun (name, c) => (.alias name, c)
  else if d = '&' then
    s.atName fun c => (readName .anchor c).map fun (name, c) => (.anchor name, c)
  else if d = '!' then s.atName (readTag !s.inBlock)
  else if s.inBlock && (d = '|' || d = '>') then s.atBlock
  else if d = '\'' || d = '"' then
    s.atName fun c => (readQuoted c).map fun (text, c) => (.scalar text false, c)
  else if s.startsPlain then s.atPlain
  else refuse .nextToken c.mark .unexpectedCharacter c

/-- Step to the next token and read it. Candidates may go out of date before it and with it. -/
def step (s : Lexer) : Except Error Lexer := do
  let s ← s.skipToToken.dropStale
  let s ← (s.unwind s.cursor.column).readToken
  s.dropStale

/-- The tokens that were settled before a step failed: those before the first candidate that was
    still waiting for its colon. -/
def settled (s : Lexer) : List Placed :=
  let waiting := s.candidates.filter fun k => k.required || !isStale s.cursor k
  s.tokens.take ((waiting.map (·.number)).foldl min s.tokens.length)

/-- The settled tokens, and a fault behind them. -/
def brokenBy (s : Lexer) (cause : Error) : List Placed :=
  s.settled ++ [⟨.broken cause, s.cursor.mark, s.cursor.mark⟩]

/-- Read all tokens. -/
def run : Nat → Lexer → List Placed
  | 0, s =>
    s.brokenBy (.token .unexpectedCharacter (.during .nextToken s.cursor.mark s.cursor.mark))
  | fuel + 1, s =>
    match s.step with
    | .error cause => s.brokenBy cause
    | .ok next =>
      if next.tokens.getLast?.map (·.token) = some .streamEnd then next.tokens else run fuel next

section

-- comparing the two forms of a run must not open the step
attribute [local irreducible] step

theorem run_of_step {s next : Lexer} (h : s.step = .ok next) (fuel : Nat) :
    s.run (fuel + 1) =
      if next.tokens.getLast?.map (·.token) = some .streamEnd then next.tokens
      else next.run fuel := by
  have hrun : s.run (fuel + 1) = match s.step with
      | .error cause => s.brokenBy cause
      | .ok next =>
        if next.tokens.getLast?.map (·.token) = some .streamEnd then next.tokens
        else next.run fuel := rfl
  rw [hrun, h]

end

end Lexer

/-- The tokens of a text. Every step reads a character at least, except the one at the end. -/
def ofText (cs : List Char) : List Placed := (Lexer.start cs).run (cs.length + 1)

end Chip8.Yaml.Token
