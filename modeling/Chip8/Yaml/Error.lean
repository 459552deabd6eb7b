import Chip8.Text.Integer
import Chip8.Text.Quoted
import Chip8.Yaml.Mark

set_option autoImplicit false

/-! # What can be wrong with a YAML text

The causes are grouped by the level at which they show: characters, tokens, the grammar of the
token stream, the graph of nodes, and the values that nodes stand for. A fault lies at a place, and
mostly something was being read there that started earlier. -/

namespace Chip8.Yaml

/-! ## Where a fault shows -/

/-- What is being read when a fault shows. -/
inductive Activity where
  | nextToken
  | simpleKey
  | directive
  | versionDirective
  | tagDirective
  | tagDirectiveMark
  | tagDirectiveHandle
  | tagDirectiveText
  | anchor
  | aliasName
  | tag
  | tagText
  | blockScalar
  | quotedScalar
  | quotedEscape
  | plainScalar
  | node
  | blockNode
  | flowNode
  | blockCollection
  | blockMapping
  | flowSequence
  | flowMapping
  | stream
  | firstAnchor
  | entries
  | orderedEntries
  | pairs
deriving DecidableEq

/-- What is said of it. -/
def Activity.text : Activity → String
  | nextToken => "while scanning for the next token"
  | simpleKey => "while scanning a simple key"
  | directive => "while scanning a directive"
  | versionDirective => "while scanning a %YAML directive"
  | tagDirective => "while scanning a %TAG directive"
  | tagDirectiveMark => "while scanning a tag directive"
  | tagDirectiveHandle => "while parsing a tag directive"
  | tagDirectiveText => "while parsing a %TAG directive"
  | anchor => "while scanning an anchor"
  | aliasName => "while scanning an alias"
  | tag => "while scanning a tag"
  | tagText => "while parsing a tag"
  | blockScalar => "while scanning a block scalar"
  | quotedScalar => "while scanning a quoted scalar"
  | quotedEscape => "while parsing a quoted scalar"
  | plainScalar => "while scanning a plain scalar"
  | node => "while parsing a node"
  | blockNode => "while parsing a block node"
  | flowNode => "while parsing a flow node"
  | blockCollection => "while parsing a block collection"
  | blockMapping => "while parsing a block mapping"
  | flowSequence => "while parsing a flow sequence"
  | flowMapping => "while parsing a flow mapping"
  | stream => "expected a single document in the stream"
  | firstAnchor => "found duplicate anchor; first occurrence"
  | entries => "while constructing a mapping"
  | orderedEntries => "while constructing an ordered map"
  | pairs => "while constructing pairs"

/-- Something that is being read, and where it starts. -/
structure Context where
  activity : Activity
  start : Mark
deriving DecidableEq

/-- Where a fault shows. -/
structure Location where
  context? : Option Context
  mark : Mark
deriving DecidableEq

/-- The place at which something shows that was being read. -/
def Location.during (activity : Activity) (start mark : Mark) : Location :=
  ⟨some ⟨activity, start⟩, mark⟩

/-- The lines of a message about a fault at a place. A start that looks like the place of the fault
    is left out. -/
def Location.lines (l : Location) (problem : String) : List String :=
  (match l.context? with
    | none => []
    | some c =>
      c.activity.text :: (if c.start.looksLike l.mark then [] else [c.start.text]))
    ++ [problem, l.mark.text]

/-- The message about a fault at a place. -/
def Location.message (l : Location) (problem : String) : String :=
  "\n".intercalate (l.lines problem)

/-! ## Tokens -/

/-- Why a text cannot be cut into tokens. -/
inductive TokenError where
  | unexpectedCharacter
  | missingColon
  | entryNotAllowed
  | keyNotAllowed
  | valueNotAllowed
  | unknownDirective
  | missingDirectiveName
  | badDirectiveName
  | missingDigitOrPoint
  | missingVersion
  | longVersion
  | missingMark
  | missingBlank
  | missingLineEnd
  | missingBlankOrLineEnd
  | badName
  | missingTagText
  | missingAngle
  | missingOctet
  | badFirstOctet
  | badFurtherOctet
  | zeroIndent
  | tabAsBlockIndentation
  | tabAsIndentation
  | unknownEscape
  | missingHexDigit
  | badCodePoint
  | unclosedQuote
  | markerInQuote
  | unclearColon
deriving DecidableEq

/-- What is said of it. -/
def TokenError.problem : TokenError → String
  | unexpectedCharacter => "found character that cannot start any token"
  | missingColon => "could not find expected ':'"
  | entryNotAllowed => "block sequence entries are not allowed in this context"
  | keyNotAllowed => "mapping keys are not allowed in this context"
  | valueNotAllowed => "mapping values are not allowed in this context"
  | unknownDirective => "found unknown directive name"
  | missingDirectiveName => "could not find expected directive name"
  | badDirectiveName => "found unexpected non-alphabetical character"
  | missingDigitOrPoint => "did not find expected digit or '.' character"
  | missingVersion => "did not find expected version number"
  | longVersion => "found extremely long version number"
  | missingMark => "did not find expected '!'"
  | missingBlank => "did not find expected whitespace"
  | missingLineEnd => "did not find expected comment or line break"
  | missingBlankOrLineEnd => "did not find expected whitespace or line break"
  | badName => "did not find expected alphabetic or numeric character"
  | missingTagText => "did not find expected tag URI"
  | missingAngle => "did not find the expected '>'"
  | missingOctet => "did not find URI escaped octet"
  | badFirstOctet => "found an incorrect leading UTF-8 octet"
  | badFurtherOctet => "found an incorrect trailing UTF-8 octet"
  | zeroIndent => "found an indentation indicator equal to 0"
  | tabAsBlockIndentation => "found a tab character where an indentation space is expected"
  | tabAsIndentation => "found a tab character that violates indentation"
  | unknownEscape => "found unknown escape character"
  | missingHexDigit => "did not find expected hexdecimal number"
  | badCodePoint => "found invalid Unicode character escape code"
  | unclosedQuote => "found unexpected end of stream"
  | markerInQuote => "found unexpected document indicator"
  | unclearColon => "found unexpected ':'"

/-! ## Grammar and nodes -/

/-- Why a token stream is no document. -/
inductive GrammarError where
  | missingContent
  | missingDash
  | missingKey
  | missingItemSeparator
  | missingEntrySeparator
  | missingDocumentStart
  | repeatedVersion
  | unknownVersion
  | repeatedHandle
  | undefinedHandle
deriving DecidableEq

/-- What is said of it. -/
def GrammarError.problem : GrammarError → String
  | missingContent => "did not find expected node content"
  | missingDash => "did not find expected '-' indicator"
  | missingKey => "did not find expected key"
  | missingItemSeparator => "did not find expected ',' or ']'"
  | missingEntrySeparator => "did not find expected ',' or '\x7d'"
  | missingDocumentStart => "did not find expected <document start>"
  | repeatedVersion => "found duplicate %YAML directive"
  | unknownVersion => "found incompatible YAML document"
  | repeatedHandle => "found duplicate %TAG directive"
  | undefinedHandle => "found undefined tag handle"

/-- Why the nodes of a document make no tree. -/
inductive NodeError where
  | severalDocuments
  | undefinedAlias
  | repeatedAnchor
deriving DecidableEq

/-- What is said of it. -/
def NodeError.problem : NodeError → String
  | severalDocuments => "but found another document"
  | undefinedAlias => "found undefined alias"
  | repeatedAnchor => "second occurrence"

/-! ## Meaning -/

/-- The kinds of nodes. -/
inductive NodeKind where
  | scalar
  | sequence
  | mapping
deriving DecidableEq

/-- What a kind of nodes is called. -/
def NodeKind.name : NodeKind → String
  | scalar => "scalar"
  | sequence => "sequence"
  | mapping => "mapping"

/-- What a node of a kind is called. -/
def NodeKind.className : NodeKind → String
  | scalar => "ScalarNode"
  | sequence => "SequenceNode"
  | mapping => "MappingNode"

/-- Why nodes stand for no value. -/
inductive MeaningError where
  | unknownTag (name : String)
  /-- A tag asks for a node of another kind. -/
  | wrongKind (expected found : NodeKind)
  | repeatedKey (text : String)
  | containerAsKey
  | badMerge (found : NodeKind)
  /-- One of several nodes cannot be merged. -/
  | badMergeItem (found : NodeKind)
  /-- Entries that are in no sequence. -/
  | noSequence (found : NodeKind)
  /-- An item that is no mapping of one entry. -/
  | noEntry (found : NodeKind)
  /-- A mapping of more entries, or of none. -/
  | severalEntries (count : Nat)
  /-- Text in base 64 with so many characters that the last bytes are incomplete. -/
  | badBytes (count : Nat)
  /-- A character of text in base 64 that is not in ASCII, its index, and how many there are of
      them in a row. -/
  | foreignBytes (c : Char) (index count : Nat)
  /-- A node contains itself. -/
  | recursion
  /-- The aliases of the document stand for too many nodes. -/
  | expansion
deriving DecidableEq

/-- What is said of text in base 64 that is incomplete. -/
def incompleteBytes (count : Nat) : String :=
  if count % 4 = 1 then
    "Invalid base64-encoded string: number of data characters (" ++ toString count
      ++ ") cannot be 1 more than a multiple of 4"
  else "Incorrect padding"

/-- What is said of characters that are not in ASCII. -/
def foreignCharacters (c : Char) (index count : Nat) : String :=
  "'ascii' codec can't encode "
    ++ (if count = 1 then
        "character '" ++ String.ofList (Text.Quoted.escapeChar c) ++ "' in position "
          ++ toString index
      else
        "characters in position " ++ toString index ++ "-" ++ toString (index + count - 1))
    ++ ": ordinal not in range(128)"

/-- What is said of it. -/
def MeaningError.problem : MeaningError → String
  | unknownTag name =>
    "could not determine a constructor for the tag " ++ Text.Quoted.encode name
  | wrongKind expected found =>
    "expected a " ++ expected.name ++ " node, but found " ++ found.name
  | repeatedKey text => "found duplicate key " ++ text
  | containerAsKey => "found unhashable key"
  | badMerge found =>
    "expected a mapping or list of mappings for merging, but found " ++ found.name
  | badMergeItem found => "expected a mapping for merging, but found " ++ found.name
  | noSequence found => "expected a sequence, but found " ++ found.name
  | noEntry found => "expected a mapping of length 1, but found " ++ found.name
  | severalEntries count =>
    "expected a single mapping item, but found " ++ toString count ++ " items"
  | badBytes count => "failed to decode base64 data: " ++ incompleteBytes count
  | foreignBytes c index count =>
    "failed to convert base64 data into ascii: " ++ foreignCharacters c index count
  | recursion => "YAML recursive aliases are not supported."
  | expansion => "YAML alias expansion is too large."

/-! ## Atoms -/

/-- Why a text is not the number that its tag declares it to be. -/
inductive NumberError where
  | integer (base : Nat) (text : String)
  /-- More digits than are read. -/
  | tooLong (digits : Nat)
  | float (text : String)
deriving DecidableEq

/-- Text after its first characters is left out. -/
def shortened (text : String) : String := String.ofList (text.toList.take 200)

/-- What is said of a text that is no number. -/
def NumberError.message : NumberError → String
  | integer base text =>
    "invalid literal for int() with base " ++ toString base ++ ": "
      ++ shortened (Text.Quoted.encode text)
  | tooLong digits => Text.tooManyDigits (some digits)
  | float text => "could not convert string to float: " ++ Text.Quoted.encode text

/-- Why there is no such day or no such time. -/
inductive MomentError where
  | year (k : Nat)
  | month
  | day
  | hour
  | minute
  | second
  /-- The offset from universal time, in minutes, is a day or more. -/
  | offset (minutes : Int)
deriving DecidableEq

/-- A span of time in minutes as days and seconds. -/
def spanText (minutes : Int) : String :=
  let days := Int.fdiv minutes 1440
  let seconds := 60 * Int.fmod minutes 1440
  "datetime.timedelta(days=" ++ toString days
    ++ (if seconds = 0 then "" else ", seconds=" ++ toString seconds) ++ ")"

/-- What is said of a day or a time that does not exist. -/
def MomentError.message : MomentError → String
  | year k => "year " ++ toString k ++ " is out of range"
  | month => "month must be in 1..12"
  | day => "day is out of range for month"
  | hour => "hour must be in 0..23"
  | minute => "minute must be in 0..59"
  | second => "second must be in 0..59"
  | offset minutes =>
    "offset must be a timedelta strictly between -timedelta(hours=24) and timedelta(hours=24), not "
      ++ spanText minutes ++ "."

/-! ## Faults -/

/-- Why something cannot be looked at in the way that its tag asks for. -/
inductive PartError where
  /-- A collection is said to be a text. -/
  | listAsText
  /-- A node is said to be an entry. -/
  | nodeAsEntry (kind : NodeKind)
  /-- The entries of a mapping are said to be a day. -/
  | entriesAsDay
  /-- A part of a path is no text. -/
  | noPathPart (kind : String)
deriving DecidableEq

/-- What is said of it. -/
def PartError.message : PartError → String
  | listAsText => "unhashable type: 'list'"
  | nodeAsEntry kind => "cannot unpack non-iterable " ++ kind.className ++ " object"
  | entriesAsDay => "expected string or bytes-like object, got 'list'"
  | noPathPart kind => "expected str, bytes or os.PathLike object, not " ++ kind

/-- What is wrong with a text. -/
inductive Error where
  /-- There is a character that documents may not hold, behind so many bytes. -/
  | character (c : Char) (position : Nat)
  | token (cause : TokenError) (place : Location)
  | grammar (cause : GrammarError) (place : Location)
  | node (cause : NodeError) (place : Location)
  | meaning (cause : MeaningError) (place : Location)
  | number (cause : NumberError)
  /-- A number in base 60 has too many parts. -/
  | tooManyParts
  /-- There is nothing, or nothing but a sign, where a number is declared. -/
  | emptyNumber
  | moment (cause : MomentError)
  /-- A tag declares a text to be a day, and it is none. -/
  | notMoment
  /-- A tag declares a text to be a truth value, and it is none. -/
  | truth (text : String)
  /-- A tag is in octets that are no text. -/
  | octets
  /-- A tag declares a text to be entries. -/
  | textAsEntries
  | part (cause : PartError)
  /-- A path of a foreign system. -/
  | foreignPath
deriving DecidableEq

namespace Error

/-- What the kind of a fault is called. -/
def kind : Error → String
  | character _ _ => "ReaderError"
  | token _ _ => "ScannerError"
  | grammar _ _ => "ParserError"
  | node _ _ => "ComposerError"
  | meaning _ _ => "ConstructorError"
  | number _ => "ValueError"
  | tooManyParts => "OverflowError"
  | emptyNumber => "IndexError"
  | moment _ => "ValueError"
  | notMoment => "AttributeError"
  | truth _ => "KeyError"
  | octets => "UnicodeDecodeError"
  | textAsEntries => "ValueError"
  | part _ => "TypeError"
  | foreignPath => "NotImplementedError"

/-- What is said of a character that documents may not hold. -/
def characterMessage (c : Char) (position : Nat) : String :=
  "unacceptable character #x" ++ String.ofList (Text.Quoted.hexCode 4 c.toNat)
    ++ ": control characters are not allowed\n  in \"<unicode string>\", position "
    ++ toString position

/-- What is said of a text with a fault. -/
def message : Error → String
  | character c position => characterMessage c position
  | token cause place => place.message cause.problem
  | grammar cause place => place.message cause.problem
  | node cause place => place.message cause.problem
  | meaning cause place => place.message cause.problem
  | number cause => cause.message
  | tooManyParts => "int too large to convert to float"
  | emptyNumber => "string index out of range"
  | moment cause => cause.message
  | notMoment => "'NoneType' object has no attribute 'groupdict'"
  | truth text => Text.Quoted.encode text
  | octets => "a tag is no text"
  | textAsEntries => "not enough values to unpack (expected 2, got 1)"
  | part cause => cause.message
  | foreignPath => "cannot instantiate 'WindowsPath' on your system"

end Error

end Chip8.Yaml
