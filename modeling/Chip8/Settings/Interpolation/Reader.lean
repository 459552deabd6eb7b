import Chip8.Decimal.Numeral
import Chip8.Settings.Content
import Chip8.Settings.Interpolation
import Chip8.Settings.Interpolation.Token

set_option autoImplicit false

/-! # From words to terms

The grammar of interpolations, read by recursive descent. At some points it is checked that the next
word can stand there; if it cannot, the fault is that it is too much if the word behind it could,
or that a word is missing before it if it could stand behind that.

An interpolation is a reference or a call, and as long as it can be both, a fault in it is reported
as a whole, from its start. Then all words are cut that are left, and a fault in these counts
more. The functions below know this start as `undecided`.

Every function reads a word at least before it calls itself again, or calls one that does, so that
fuel of six for each word is enough. -/

namespace Chip8.Settings.Interpolation

/-- Readers of parts of a list of words. -/
abbrev Reader (α : Type) : Type := StateT (List Token) (Except GrammarError) α

namespace Reader

/-! ## Looking ahead -/

/-- The word that stands for the end. -/
def finish : Token := ⟨.finish, "<EOF>".toList⟩

/-- The fault of a place at which there is no word. -/
def fault? (t : Token) : Option GrammarError :=
  match t.kind with
  | .broken => some (.unrecognised (String.ofList t.text))
  | .unopened => some (.unopened false)
  | _ => none

/-- The first word of some. -/
def front (words : List Token) : Reader Token :=
  match words with
  | [] => return finish
  | t :: _ => match fault? t with
    | some cause => throw cause
    | none => return t

/-- The next word. -/
def peek : Reader Token := do front (← get)

/-- The word behind the next one. -/
def peekBehind : Reader Token := do front ((← get).drop 1)

/-- Step over the next word. -/
def drop : Reader Unit := modify (·.drop 1)

/-- The text of the next word. -/
def found : Reader String := return String.ofList (← peek).text

/-! ## Texts of words -/

/-- Every second character. -/
def everySecond : List Char → List Char
  | _ :: c :: rest => c :: everySecond rest
  | _ => []

/-- What is left of an opening behind backslashes: half of these, and the opening. -/
def unescapeOpening (cs : List Char) : List Char := cs.drop (cs.length - (cs.length / 2 + 1))

/-- What a word reads as, by whether an interpolation or nothing comes next. -/
def wordText (t : Token) (beforeTerm atEnd : Bool) : String :=
  String.ofList (match t.kind with
    | .escapedOpening => unescapeOpening t.text
    | .escape => everySecond t.text
    | .pairs => if beforeTerm then everySecond t.text else t.text
    | .quotedPairs => if beforeTerm || atEnd then everySecond t.text else t.text
    | _ => t.text)

/-- A part of a text: a word or a term. -/
inductive Part where
  | word (t : Token)
  | term (t : Term)

/-- Whether a part is a term. -/
def Part.isTerm : Part → Bool
  | term _ => true
  | word _ => false

/-- The terms that parts denote. -/
def partTerms : List Part → List Term
  | [] => []
  | .term t :: rest => t :: partTerms rest
  | .word t :: rest =>
    .text (wordText t ((rest.head?.map Part.isTerm).getD false) rest.isEmpty) :: partTerms rest

/-- The term that parts denote together: a single interpolation stands for itself. -/
def joined (parts : List Part) : Term :=
  match parts with
  | [.term t] => t
  | _ => .join (partTerms parts)

/-- What a word on its own denotes. -/
def single (t : Token) : Term :=
  let s := String.ofList t.text
  match t.kind with
  | .null => .atom .null
  | .int => match Text.integerIn 10 s with
    | .ok k => .atom (.int k)
    | .error (.tooLong digits) => .tooLong digits
    | .error .malformed => .text s
  | .float =>
    .atom (.float ((Decimal.Numeral.ofText? (String.ofList (t.text.filter (· ≠ '_')))).getD 0.0))
  | .bool => .atom (.bool (t.text.map Char.toLower = "true".toList))
  | .blank => .blank
  | _ => .text (wordText t false true)

/-- How words are written. -/
def source (words : List Token) : String := String.ofList (words.flatMap (·.text))

/-- The words that parts are, if there is no term among them. -/
def wordsOnly? (parts : List Part) : Option (List Token) :=
  parts.mapM fun
    | .word t => some t
    | .term _ => none

/-- What the parts of an unquoted argument denote. The mark for a missing value keeps all the
    backslashes in front of it. -/
def primitive (parts : List Part) : Term :=
  match (wordsOnly? parts).map source with
  | some text =>
    if Content.isEscapedMark text.toList then .text text
    else match parts with
      | [.word t] => single t
      | _ => joined parts
  | none => joined parts

/-! ## Kinds of words -/

/-- What kinds of words are called, in the order in which they are listed. -/
def kindNames : List (TokenKind × String) :=
  [(.finish, "<EOF>"), (.anyText, "ANY_STR"), (.escapedOpening, "ESC_INTER"), (.pairs, "TOP_ESC"),
   (.opening, "INTER_OPEN"), (.braceOpen, "BRACE_OPEN"), (.braceClose, "BRACE_CLOSE"),
   (.quoteOpen, "QUOTE_OPEN_SINGLE"), (.quoteOpen, "QUOTE_OPEN_DOUBLE"), (.comma, "COMMA"),
   (.bracketOpen, "BRACKET_OPEN"), (.bracketClose, "BRACKET_CLOSE"), (.colon, "COLON"),
   (.float, "FLOAT"), (.int, "INT"), (.bool, "BOOL"), (.null, "NULL"),
   (.character, "UNQUOTED_CHAR"), (.name, "ID"), (.escape, "ESC"), (.blank, "WS"),
   (.closing, "INTER_CLOSE"), (.dot, "'.'"), (.key, "INTER_KEY"),
   (.quoteClose, "MATCHING_QUOTE_CLOSE"), (.quotedPairs, "QUOTED_ESC")]

/-- How some kinds of words are listed. -/
def listed (kinds : List TokenKind) : String :=
  match kindNames.filterMap fun (k, name) => if kinds.contains k then some name else none with
  | [name] => name
  | names => "\x7b" ++ ", ".intercalate names ++ "\x7d"

/-- The words of which texts consist. -/
def textKinds : List TokenKind :=
  [.anyText, .escape, .escapedOpening, .pairs, .quotedPairs]

/-- The words of which keys of mappings consist. -/
def keyKinds : List TokenKind :=
  [.name, .null, .int, .float, .bool, .character, .escape, .blank]

/-- The words of which unquoted arguments consist. -/
def primitiveKinds : List TokenKind := .colon :: keyKinds

/-- The words with which arguments start. -/
def argumentKinds : List TokenKind :=
  .opening :: .quoteOpen :: .bracketOpen :: .braceOpen :: primitiveKinds

/-- The words with which parts of keys start. -/
def partKinds : List TokenKind := [.opening, .name, .key]

/-- The words with which a reference goes on or ends behind a part of its key. -/
def pathKinds : List TokenKind := [.dot, .bracketOpen, .closing]

/-! ## Checks -/

/-- Whether the next word is of one of some kinds. -/
def atKind (kinds : List TokenKind) : Reader Bool := return kinds.contains (← peek).kind

/-- The words that have been read since there was `start`. -/
def readSince (start : List Token) : Reader (List Token) :=
  return start.take (start.length - (← get).length)

/-- Fail at the next word: nothing that starts where there was `start` goes on like this. -/
def failSince {α : Type} (start : List Token) : Reader α := do
  let next ← peek
  match (← get).findSome? fault? with
  | some cause => throw cause
  | none =>
    let next := if next.kind = .finish then [] else [next]
    throw (.noAlternative (source ((← readSince start) ++ next)))

/-- Check that the next word is of one of some kinds, of which one has to stand here. -/
def check (undecided : Option (List Token)) (kinds : List TokenKind) : Reader Unit := do
  if ← atKind kinds then return
  if let some start := undecided then failSince start
  let here ← found
  if kinds.contains (← peekBehind).kind then throw (.extraneous here (listed kinds))
  else throw (.mismatched here (listed kinds))

/-- Check that the next word is of one of some kinds, after something that may be repeated. -/
def checkAgain (undecided : Option (List Token)) (kinds : List TokenKind) : Reader Unit := do
  if ← atKind kinds then return
  if let some start := undecided then failSince start
  throw (.extraneous (← found) (listed kinds))

/-- Step over a word of a kind, behind which words of some kinds may stand. -/
def expect (undecided : Option (List Token)) (kind : TokenKind) (after : List TokenKind) :
    Reader Unit := do
  if ← atKind [kind] then drop
  else
    if let some start := undecided then failSince start
    let here ← found
    if (← peekBehind).kind = kind then throw (.extraneous here (listed [kind]))
    else if ← atKind after then throw (.missing (listed [kind]) here)
    else throw (.mismatched here (listed [kind]))

/-- Fail at the next word, for want of fuel. -/
def failHere {α : Type} : Reader α := do throw (.noAlternative (← found))

/-- Take words while they are of some kinds. -/
def takeWords (kinds : List TokenKind) : Nat → Reader (List Token)
  | 0 => return []
  | fuel + 1 => do
    let t ← peek
    if kinds.contains t.kind then
      drop
      return t :: (← takeWords kinds fuel)
    else return []

/-- Take the dots in front of a key, behind which its first part starts. -/
def takeDots (undecided : Option (List Token)) (again : Bool) : Nat → Reader (List Term)
  | 0 => return []
  | fuel + 1 => do
    let kinds := .dot :: .bracketOpen :: partKinds
    if again then checkAgain undecided kinds else check undecided kinds
    if ← atKind [.dot] then
      drop
      return .text "." :: (← takeDots undecided true fuel)
    else return []

/-- The key of an entry of a mapping. -/
def entryKey (words : List Token) : Yaml.Atom :=
  match primitive (words.map .word) with
  | .atom a => a
  | _ => .text (String.join (words.map (wordText · false false)))

/-! ## Grammar -/

mutual

/-- Read words of some kinds and interpolations; words of other kinds may stand behind them. -/
def parts (undecided : Option (List Token)) (kinds after : List TokenKind) :
    Nat → Reader (List Part)
  | 0 => return []
  | fuel + 1 => do
    let t ← peek
    if t.kind = .opening then
      let term ← interpolation undecided (.opening :: kinds ++ after) fuel
      return .term term :: (← parts undecided kinds after fuel)
    else if kinds.contains t.kind then
      drop
      return .word t :: (← parts undecided kinds after fuel)
    else return []

/-- Read an interpolation; words of some kinds may stand behind it. -/
def interpolation (undecided : Option (List Token)) (after : List TokenKind) : Nat → Reader Term
  | 0 => failHere
  | fuel + 1 => do
    let start := undecided.getD (← get)
    drop
    if ← atKind [.dot, .bracketOpen, .key] then
      let dots ← takeDots undecided false ((← get).length + 1)
      let key ← firstPart undecided fuel
      let rest ← path undecided false fuel
      return .reference (dots ++ key ++ rest)
    else referenceOrCall undecided start after [] fuel

/-- Read what can still be a reference or a call, of which a part comes next. A word that can only
    be in a key stands behind a dot here. -/
def referenceOrCall (undecided : Option (List Token)) (start : List Token)
    (after : List TokenKind) (before : List Term) : Nat → Reader Term
  | 0 => failHere
  | fuel + 1 => do
    if ← atKind [.key] then
      let key ← keyPart undecided pathKinds fuel
      return .reference (before ++ key ++ (← path undecided true fuel))
    let part ← if ← atKind [.opening, .name] then keyPart (some start) [] fuel else failSince start
    let before := before ++ part
    if ← atKind [.closing, .bracketOpen] then
      return .reference (before ++ (← path undecided false fuel))
    else if ← atKind [.dot] then
      drop
      referenceOrCall undecided start after (before ++ [.text "."]) fuel
    else if ← atKind [.colon] then
      drop
      check undecided (.comma :: .braceClose :: argumentKinds)
      let arguments ←
        if ← atKind [.braceClose] then pure [] else items undecided [.braceClose] fuel
      expect undecided .braceClose after
      return .call before arguments
    else failSince start

/-- Read the first part of a key, which may be in brackets. -/
def firstPart (undecided : Option (List Token)) : Nat → Reader (List Term)
  | 0 => failHere
  | fuel + 1 => do
    if ← atKind [.bracketOpen] then
      drop
      let key ← keyPart undecided [.bracketClose] fuel
      expect undecided .bracketClose pathKinds
      return .text "[" :: key ++ [.text "]"]
    else keyPart undecided pathKinds fuel

/-- Read the rest of a reference: parts behind dots and in brackets, and its end. -/
def path (undecided : Option (List Token)) (again : Bool) : Nat → Reader (List Term)
  | 0 => failHere
  | fuel + 1 => do
    if again then checkAgain undecided pathKinds else check undecided pathKinds
    if ← atKind [.dot] then
      drop
      let key ← keyPart undecided pathKinds fuel
      return .text "." :: key ++ (← path undecided true fuel)
    else if ← atKind [.bracketOpen] then
      let key ← firstPart undecided fuel
      return key ++ (← path undecided true fuel)
    else
      drop
      return []

/-- Read a part of a key: a name, some other word, or an interpolation. -/
def keyPart (undecided : Option (List Token)) (after : List TokenKind) : Nat → Reader (List Term)
  | 0 => failHere
  | fuel + 1 => do
    check undecided partKinds
    let here ← found
    if ← atKind [.opening] then
      let start ← get
      let term ← interpolation undecided after fuel
      return [.part (source (← readSince start)) term]
    else
      drop
      return [.text here]

/-- Read arguments or items, between commas. Nothing between two commas is an empty text. -/
def items (undecided : Option (List Token)) (after : List TokenKind) : Nat → Reader (List Term)
  | 0 => failHere
  | fuel + 1 => do
    let item ←
      if ← atKind argumentKinds then element undecided (.comma :: after) fuel
      else pure (.text "")
    if ← atKind [.comma] then
      drop
      return item :: (← items undecided after fuel)
    else return [item]

/-- Read an argument or an item. -/
def element (undecided : Option (List Token)) (after : List TokenKind) : Nat → Reader Term
  | 0 => failHere
  | fuel + 1 => do
    check undecided argumentKinds
    if ← atKind [.quoteOpen] then
      drop
      check undecided (.opening :: .quoteClose :: textKinds)
      let inner ← parts undecided textKinds [.quoteClose] fuel
      expect undecided .quoteClose after
      return .join (if inner.isEmpty then [] else [joined inner])
    else if ← atKind [.bracketOpen] then
      drop
      check undecided (.comma :: .bracketClose :: argumentKinds)
      let inner ←
        if ← atKind [.bracketClose] then pure [] else items undecided [.bracketClose] fuel
      expect undecided .bracketClose after
      return .list inner
    else if ← atKind [.braceOpen] then
      drop
      check undecided (.braceClose :: keyKinds)
      let inner ← if ← atKind [.braceClose] then pure [] else entries undecided false fuel
      drop
      return .map inner
    else return primitive (← parts undecided primitiveKinds after fuel)

/-- Read the entries of a mapping, up to the brace behind them. -/
def entries (undecided : Option (List Token)) (again : Bool) :
    Nat → Reader (List (Yaml.Atom × Term))
  | 0 => failHere
  | fuel + 1 => do
    check undecided keyKinds
    let words ← takeWords keyKinds (← get).length
    expect undecided .colon argumentKinds
    let value ← element undecided [.comma, .braceClose] fuel
    let entry := (entryKey words, value)
    if again then checkAgain undecided [.comma, .braceClose]
    else check undecided [.comma, .braceClose]
    if ← atKind [.comma] then
      drop
      return entry :: (← entries undecided true fuel)
    else return [entry]

end

end Reader

/-- The term that a text denotes. -/
def Term.ofText (text : String) : Except GrammarError Term := do
  let words := tokens .outside text.toList
  let (inner, rest) ← Reader.parts none Reader.textKinds [.finish] (6 * words.length + 6) words
  let _ ← Reader.expect none .finish [] rest
  return Reader.joined inner

/-- The term that a text denotes which is an argument on its own. -/
def Term.ofArgument (text : String) : Except GrammarError Term := do
  let words := tokens .arguments text.toList
  if words.head?.map (·.kind) = some .unopened then throw (.unopened true)
  let (term, rest) ← Reader.element none [.finish] (6 * words.length + 6) words
  let _ ← Reader.expect none .finish [] rest
  return term

end Chip8.Settings.Interpolation
