import Chip8.Config
import Chip8.Settings.Interpolation
import Chip8.Yaml.Value

set_option autoImplicit false

/-! # The content of settings

What settings hold: the values of documents, without those that settings have no place for, and with
the instruction profiles. Pairs are tuples, which cannot be changed. A text that consists of
backslashes and the mark for a missing value stands for that text with one backslash less; it is
told apart from an ordinary text. -/

namespace Chip8.Settings

open Yaml (Atom Value)

/-- What settings hold. -/
inductive Content where
  | atom (a : Atom)
  /-- The mark for a missing value, behind a backslash or more, without the first one. -/
  | escapedMark (s : String)
  | profile (p : InstructionSet)
  | list (items : List Content)
  | tuple (items : List Content)
  | map (entries : List (Atom × Content))

namespace Content

/-- Nothing. -/
@[match_pattern] abbrev null : Content := .atom .null

/-- A text. -/
@[match_pattern] abbrev text (s : String) : Content := .atom (.text s)

/-- The text that stands for a missing value. -/
def missingMark : String := "???"

/-- Whether something stands for a missing value. -/
def isMissing : Content → Bool
  | text s => s == missingMark
  | _ => false

/-- Whether a text is the mark for a missing value behind a backslash or more. -/
def isEscapedMark (cs : List Char) : Bool :=
  cs.head? = some '\\' && cs.dropWhile (· = '\\') = missingMark.toList

/-- What a text stands for. -/
def ofText (s : String) : Content :=
  if isEscapedMark s.toList then .escapedMark (String.ofList (s.toList.drop 1)) else text s

/-- What an atom of a document stands for. -/
def ofAtom : Atom → Content
  | .text s => ofText s
  | a => .atom a

/-- The text of a term. -/
def source? : Content → Option String
  | text s => if Interpolation.isInterpolated s.toList then some s else none
  | _ => none

/-! ## Kinds -/

/-- The kinds of containers. -/
inductive Container where
  | list
  | tuple
  | map
deriving DecidableEq

/-- The kind of container that something is. -/
def container? : Content → Option Container
  | list _ => some .list
  | tuple _ => some .tuple
  | map _ => some .map
  | _ => none

/-- What the kind of something is called in messages. -/
def kind : Content → String
  | atom (.path _) => "pathlib.PosixPath"
  | atom a => a.kind
  | escapedMark _ => "_EscapedMissing"
  | profile _ => "chip8vm.config.InstructionSet"
  | list _ => "ListConfig"
  | tuple _ => "TupleConfig"
  | map _ => "DictConfig"

/-! ## Texts -/

mutual

/-- The text of something inside a container. -/
def innerText : Content → String
  | atom a => a.innerText
  | escapedMark s => Text.Quoted.encode s
  | profile p => "<InstructionSet." ++ p.name ++ ": " ++ Text.Quoted.encode p.value ++ ">"
  | list items => "[" ++ ", ".intercalate (innerTexts items) ++ "]"
  | tuple [c] => "(" ++ c.innerText ++ ",)"
  | tuple items => "(" ++ ", ".intercalate (innerTexts items) ++ ")"
  | map entries => "\x7b" ++ ", ".intercalate (entryTexts entries) ++ "\x7d"

/-- The texts of the items of a list. -/
def innerTexts : List Content → List String
  | [] => []
  | c :: rest => c.innerText :: innerTexts rest

/-- The texts of the entries of a mapping. -/
def entryTexts : List (Atom × Content) → List String
  | [] => []
  | (k, c) :: rest => (k.innerText ++ ": " ++ c.innerText) :: entryTexts rest

end

/-- The text of something on its own. -/
def toText : Content → String
  | atom a => a.toText
  | escapedMark s => s
  | profile p => "InstructionSet." ++ p.name
  | c => c.innerText

mutual

/-- Whether something has a text: no integer in it is too long to be written. -/
def hasText : Content → Bool
  | atom a => a.hasText
  | escapedMark _ => true
  | profile _ => true
  | list items => allHaveText items
  | tuple items => allHaveText items
  | map entries => entriesHaveText entries

/-- Whether the items of a list have texts. -/
def allHaveText : List Content → Bool
  | [] => true
  | c :: rest => c.hasText && allHaveText rest

/-- Whether the entries of a mapping have texts. -/
def entriesHaveText : List (Atom × Content) → Bool
  | [] => true
  | (k, c) :: rest => k.hasText && c.hasText && entriesHaveText rest

end

end Content

end Chip8.Settings
