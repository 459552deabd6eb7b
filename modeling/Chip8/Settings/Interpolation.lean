import Chip8.Yaml.Atom

set_option autoImplicit false

/-! # Interpolations

A text with `$` and a brace in it is not taken as it is: from there to the closing brace it refers
to another setting, or calls a function. Such a text denotes a term. -/

namespace Chip8.Settings.Interpolation

/-- Terms. -/
inductive Term where
  | atom (a : Yaml.Atom)
  /-- The setting whose key is made of parts. -/
  | reference (key : List Term)
  /-- A call of the function whose name is made of parts. -/
  | call (name : List Term) (arguments : List Term)
  /-- A part of a key or of a name, and how it is written. -/
  | part (source : String) (t : Term)
  /-- The texts of terms one after the other. -/
  | join (parts : List Term)
  | list (items : List Term)
  | map (entries : List (Yaml.Atom × Term))
  /-- An integer with more digits than are read. -/
  | tooLong (digits : Nat)
  /-- Nothing but blanks, where they cannot stand for themselves. -/
  | blank

/-- A text as a term. -/
@[match_pattern] abbrev Term.text (s : String) : Term := .atom (.text s)

/-- Whether a text is taken for a term. -/
def isInterpolated : List Char → Bool
  | '$' :: '\x7b' :: _ => true
  | _ :: rest => isInterpolated rest
  | [] => false

/-- Why a text denotes no term. -/
inductive GrammarError where
  /-- What has been read up to here cannot go on. -/
  | noAlternative (text : String)
  /-- No word starts here. -/
  | unrecognised (text : String)
  /-- A brace closes what has not been opened; `first` if it is the first word. -/
  | unopened (first : Bool)
  /-- What is expected has been left out. -/
  | missing (expected found : String)
  /-- What is expected comes after a word that is too much. -/
  | extraneous (found expected : String)
  | mismatched (found expected : String)
deriving DecidableEq

namespace GrammarError

/-- How a piece of text is shown: what breaks lines is written as an escape. -/
def display (text : String) : String :=
  String.ofList (text.toList.flatMap fun c =>
    if c = '\n' then ['\\', 'n']
    else if c = '\r' then ['\\', 'r']
    else if c = '\t' then ['\\', 't']
    else [c])

/-- What is said of a text that denotes no term. -/
def message : GrammarError → String
  | noAlternative text => "no viable alternative at input '" ++ display text ++ "'"
  | unrecognised text => "token recognition error at: '" ++ display text ++ "'"
  | unopened _ => "Empty Stack"
  | missing expected found => "missing " ++ expected ++ " at '" ++ display found ++ "'"
  | extraneous found expected =>
    "extraneous input '" ++ display found ++ "' expecting " ++ expected
  | mismatched found expected =>
    "mismatched input '" ++ display found ++ "' expecting " ++ expected

/-- What the kind of such a fault is called. -/
def kind : GrammarError → String
  | unopened true => "Exception"
  | _ => "GrammarParseError"

end GrammarError

end Chip8.Settings.Interpolation
