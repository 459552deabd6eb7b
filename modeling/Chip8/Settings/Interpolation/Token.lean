set_option autoImplicit false

/-! # The words of interpolations

A text is cut into words by rules, of which the longest match counts, and of equally long ones the
first. Which rules apply depends on where the text is: outside of interpolations, in a reference, in
the arguments of a function, or in quotes. -/

namespace Chip8.Settings.Interpolation

/-! ## Words and rules -/

/-- The kinds of words. -/
inductive TokenKind where
  | anyText
  /-- backslashes and an opening that is none because of them -/
  | escapedOpening
  /-- pairs of backslashes outside of interpolations -/
  | pairs
  /-- pairs of backslashes in quotes -/
  | quotedPairs
  /-- characters behind backslashes that lose these -/
  | escape
  | opening
  | closing
  | dot
  | colon
  | comma
  | bracketOpen
  | bracketClose
  | braceOpen
  | braceClose
  | quoteOpen
  | quoteClose
  | float
  | int
  | bool
  | null
  | name
  | key
  | character
  | blank
  /-- the end of the text -/
  | finish
  /-- Here no rule applies. -/
  | broken
  /-- a closing brace that closes nothing -/
  | unopened
deriving DecidableEq

/-- A word. -/
structure Token where
  kind : TokenKind
  text : List Char

/-- Where a text is. -/
inductive Mode where
  | outside
  | reference
  | arguments
  | quoted (quote : Char)
deriving DecidableEq

/-- What a word does to the place where the text is. -/
inductive Shift where
  | stay
  | enter (mode : Mode)
  | become (mode : Mode)
  | leave

/-- A rule: the kind of a word, how long it is at the start of a text, zero for no match, and what
    it does. -/
structure Rule where
  kind : TokenKind
  length : List Char → Nat
  shift : Shift

/-! ## Lengths -/

/-- Spaces and tabs. -/
def isBlank (c : Char) : Bool := c = ' ' || c = '\t'

/-- How many blanks a text starts with. -/
def blanks (cs : List Char) : Nat := (cs.takeWhile isBlank).length

/-- A character, perhaps with blanks before it or behind it. -/
def markWith (before after : Bool) (mark : Char) (cs : List Char) : Nat :=
  let lead := if before then blanks cs else 0
  match cs.drop lead with
  | c :: rest => if c = mark then lead + 1 + (if after then blanks rest else 0) else 0
  | [] => 0

/-- The opening of an interpolation, with blanks behind it. -/
def openingLength : List Char → Nat
  | '$' :: '\x7b' :: rest => 2 + blanks rest
  | _ => 0

/-- The longest stretch without some characters that does not end in a backslash. -/
def textLength (stops : List Char) (cs : List Char) : Nat :=
  let run := cs.takeWhile fun c => !stops.contains c
  (run.reverse.dropWhile (· = '\\')).length

/-- Backslashes. -/
def backslashes (cs : List Char) : Nat := (cs.takeWhile (· = '\\')).length

/-- Backslashes in pairs. -/
def pairLength (cs : List Char) : Nat := 2 * (backslashes cs / 2)

/-- An odd number of backslashes and what they stand before. -/
def escapedLength (target : List Char) (cs : List Char) : Nat :=
  let n := backslashes cs
  if n % 2 = 1 && target.isPrefixOf (cs.drop n) then n + target.length else 0

/-- Characters behind backslashes. -/
def escapeLength : List Char → Nat
  | '\\' :: c :: rest =>
    if "\\()[]\x7b\x7d:=, \t".toList.contains c then 2 + escapeLength rest else 0
  | _ => 0

/-- Digits, with single underscores between them. -/
def digitsLength : List Char → Nat
  | '_' :: d :: rest => if d.isDigit then 2 + digitsLength rest else 0
  | d :: rest => if d.isDigit then 1 + digitsLength rest else 0
  | [] => 0

/-- As above; the first character is a digit. -/
def fractionLength (cs : List Char) : Nat :=
  if (cs.head?.map Char.isDigit).getD false then digitsLength cs else 0

/-- An unsigned integer, which does not start with a zero unless it is one. -/
def wholeLength (cs : List Char) : Nat :=
  if cs.head? = some '0' then 1 else fractionLength cs

/-- A sign, if there is one. -/
def signLength : List Char → Nat
  | '+' :: _ => 1
  | '-' :: _ => 1
  | _ => 0

/-- An unsigned number with a point. -/
def pointLength (cs : List Char) : Nat :=
  let n := wholeLength cs
  match cs.drop n with
  | '.' :: rest =>
    let d := fractionLength rest
    if n = 0 && d = 0 then 0 else n + 1 + d
  | _ => 0

/-- An exponent behind the first `n` characters, if there are any, together with them. -/
def exponentLength (n : Nat) (cs : List Char) : Nat :=
  match cs.drop n with
  | e :: rest =>
    let sign := signLength rest
    let d := fractionLength (rest.drop sign)
    if n = 0 || d = 0 || e.toLower ≠ 'e' then 0 else n + 1 + sign + d
  | [] => 0

/-- A word in any case. -/
def wordLength (words : List String) (cs : List Char) : Nat :=
  let lower := cs.map Char.toLower
  match words.find? fun w => w.toList.isPrefixOf lower with
  | some w => w.length
  | none => 0

/-- A signed integer. -/
def intLength (cs : List Char) : Nat :=
  let sign := signLength cs
  let n := wholeLength (cs.drop sign)
  if n = 0 then 0 else sign + n

/-- A signed floating-point number, or a word for infinity or no number. -/
def floatLength (cs : List Char) : Nat :=
  let sign := signLength cs
  let body := cs.drop sign
  let candidates := [pointLength body, exponentLength (wholeLength body) body,
    exponentLength (pointLength body) body, wordLength ["inf", "nan"] (body.take 3)]
  let n := candidates.foldl max 0
  if n = 0 then 0 else sign + n

/-- A name. -/
def nameLength : List Char → Nat
  | c :: rest =>
    if c.isAlpha || c = '_' then
      1 + (rest.takeWhile fun d => d.isAlphanum || d = '_' || d = '-').length
    else 0
  | [] => 0

/-- The part of a key, in which any character may follow a backslash. -/
def keyLength : List Char → Nat
  | '\\' :: _ :: rest => 2 + keyLength rest
  | c :: rest =>
    if "\\\x7b\x7d()[]:. \t'\"".toList.contains c then 0 else 1 + keyLength rest
  | [] => 0

/-- One of some characters. -/
def oneOf (marks : String) : List Char → Nat
  | c :: _ => if marks.toList.contains c then 1 else 0
  | [] => 0

/-! ## Rules -/

/-- The rules outside of interpolations. -/
def outsideRules : List Rule :=
  [⟨.opening, openingLength, .enter .reference⟩, ⟨.anyText, textLength ['$'], .stay⟩,
   ⟨.escapedOpening, escapedLength ['$', '\x7b'], .stay⟩, ⟨.pairs, pairLength, .stay⟩,
   ⟨.anyText, backslashes, .stay⟩, ⟨.anyText, oneOf "$", .stay⟩]

/-- The rules in a reference. -/
def referenceRules : List Rule :=
  [⟨.opening, openingLength, .enter .reference⟩,
   ⟨.colon, markWith true true ':', .become .arguments⟩,
   ⟨.closing, markWith true false '\x7d', .leave⟩, ⟨.dot, oneOf ".", .stay⟩,
   ⟨.bracketOpen, oneOf "[", .stay⟩, ⟨.bracketClose, oneOf "]", .stay⟩,
   ⟨.name, nameLength, .stay⟩, ⟨.key, keyLength, .stay⟩]

/-- The rules in arguments. -/
def argumentRules : List Rule :=
  [⟨.opening, openingLength, .enter .reference⟩,
   ⟨.braceOpen, markWith false true '\x7b', .enter .arguments⟩,
   ⟨.braceClose, markWith true false '\x7d', .leave⟩,
   ⟨.quoteOpen, oneOf "'", .enter (.quoted '\'')⟩, ⟨.quoteOpen, oneOf "\"", .enter (.quoted '"')⟩,
   ⟨.comma, markWith true true ',', .stay⟩, ⟨.bracketOpen, markWith false true '[', .stay⟩,
   ⟨.bracketClose, markWith true false ']', .stay⟩, ⟨.colon, markWith true true ':', .stay⟩,
   ⟨.float, floatLength, .stay⟩, ⟨.int, intLength, .stay⟩,
   ⟨.bool, wordLength ["true", "false"], .stay⟩, ⟨.null, wordLength ["null"], .stay⟩,
   ⟨.character, oneOf "/-\\+.$%*@?|", .stay⟩, ⟨.name, nameLength, .stay⟩,
   ⟨.escape, escapeLength, .stay⟩, ⟨.blank, blanks, .stay⟩]

/-- The rules in quotes. -/
def quotedRules (quote : Char) : List Rule :=
  [⟨.opening, openingLength, .enter .reference⟩,
   ⟨.quoteClose, markWith false false quote, .leave⟩, ⟨.anyText, textLength [quote, '$'], .stay⟩,
   ⟨.escapedOpening, escapedLength ['$', '\x7b'], .stay⟩,
   ⟨.escape, escapedLength [quote], .stay⟩, ⟨.quotedPairs, pairLength, .stay⟩,
   ⟨.anyText, backslashes, .stay⟩, ⟨.anyText, oneOf "$", .stay⟩]

/-- The rules that apply. -/
def Mode.rules : Mode → List Rule
  | outside => outsideRules
  | reference => referenceRules
  | arguments => argumentRules
  | quoted quote => quotedRules quote

/-! ## Cutting -/

/-- The rule that counts, and the length of its match. -/
def bestRule? (rules : List Rule) (cs : List Char) : Option (Rule × Nat) :=
  let found := rules.map fun r => (r, r.length cs)
  (found.foldl (fun best m => match best with
    | some b => if b.2 < m.2 then some m else some b
    | none => some m) none).filter fun m => 0 < m.2

/-- The places that a text is in after a word; there are none if the outermost one would be
    left. -/
def Shift.apply : Shift → Mode → List Mode → List Mode
  | stay, mode, outer => mode :: outer
  | enter next, mode, outer => next :: mode :: outer
  | become next, _, outer => next :: outer
  | leave, _, outer => outer

/-- The characters at which no rule applies: blanks, and one more. -/
def brokenText (cs : List Char) : List Char := cs.take (blanks cs + 1)

/-- Cut a text into words, at a place and in outer ones. Every word takes a character at least. -/
def cut : Nat → Mode → List Mode → List Char → List Token
  | 0, _, _, _ => []
  | _, _, _, [] => []
  | fuel + 1, mode, outer, cs =>
    match bestRule? mode.rules cs with
    | none => [⟨.broken, brokenText cs⟩]
    | some (rule, n) =>
      match rule.shift.apply mode outer with
      | next :: outer => ⟨rule.kind, cs.take n⟩ :: cut fuel next outer (cs.drop n)
      | [] => [⟨.unopened, cs.take n⟩]

/-- The words of a text, from the place where it starts. -/
def tokens (mode : Mode) (cs : List Char) : List Token := cut cs.length mode [] cs

end Chip8.Settings.Interpolation
