import Chip8.Files
import Chip8.Settings.Field
import Chip8.Settings.Interpolation
import Chip8.Settings.Place
import Chip8.Text.Similarity
import Chip8.Text.Template

set_option autoImplicit false

/-! # What can be wrong with settings

Some faults lie at a place in the settings, which a message names together with the cause. The other
ones lie in a file, in the text of a document, or in the path of an override. -/

namespace Chip8.Settings

/-- Why a term has no value. -/
inductive TermError where
  /-- There is no setting with such a key, which may have been looked up under another. -/
  | noSetting (key : String) (resolved? : Option String)
  /-- A key leads above all settings. -/
  | noParent (key : String)
  | unknownFunction (name : String)
  /-- A setting depends on itself. -/
  | recursive
  /-- The value is missing. -/
  | missing
  /-- A term cannot stand where it stands. -/
  | misplaced (message : String)
  /-- A function or a setting cannot be used in this way; the kind of the fault has a name. -/
  | raised (kind message : String)
  /-- The value does not suit the field that it is for; `source` is how the term is written. -/
  | rejected (source : String) (cause : Rejection)
deriving DecidableEq

/-- What is said of a term without a value. -/
def TermError.template : TermError → String
  | noSetting key resolved? =>
    "Interpolation key '" ++ key ++ "' not found" ++ (match resolved? with
      | some resolved => " (resolved to '" ++ resolved ++ "')"
      | none => "")
  | noParent key =>
    "ConfigKeyError while resolving interpolation: Error resolving key '" ++ key ++ "'"
  | unknownFunction name => "Unsupported interpolation type " ++ name
  | recursive => "Recursive interpolation detected"
  | missing => "Interpolation resolved to a missing value"
  | misplaced message => message
  | raised kind message => kind ++ " raised while resolving interpolation: " ++ message
  | rejected source cause =>
    "While dereferencing interpolation '" ++ source ++ "': " ++ cause.template

/-- What the kind of such a fault is called. -/
def TermError.kind : TermError → String
  | noSetting _ _ => "InterpolationKeyError"
  | noParent _ => "InterpolationKeyError"
  | unknownFunction _ => "UnsupportedInterpolationType"
  | missing => "InterpolationToMissingValueError"
  | rejected _ _ => "InterpolationValidationError"
  | _ => "InterpolationResolutionError"

/-- What is wrong at a place in the settings. -/
inductive Cause where
  /-- A key is of a kind that keys are not of. -/
  | keyKind
  /-- Two keys are an integer and the text that denotes it; both are given as they are shown. -/
  | conflictingKeys (old new : String)
  /-- A value is of a kind that settings have no place for. -/
  | valueKind (kind : String)
  | grammar (cause : Interpolation.GrammarError)
  /-- A list and a mapping are to be one. -/
  | mixedContainers
  | noIndex
  /-- A tuple would change. -/
  | immutable
  /-- A tuple holds a missing value. -/
  | missingPart
  /-- A value of a kind is to take the place of a tuple. -/
  | noTuple (kind : String)
  /-- There is no field with such a key, but perhaps there are fields with similar ones. -/
  | unknownKey (key : String) (similar : List String)
  | rejected (cause : Rejection)
  | term (cause : TermError)
deriving DecidableEq

/-- The keys of fields that are similar to a text. -/
def similarKeys (key : String) : List String :=
  Text.Similarity.similarTo key (Field.all.map (·.name))

/-- What may be meant by an unknown key. -/
def suggestion : List String → String
  | [] => ""
  | [name] => ". Did you mean: '" ++ name ++ "'?"
  | names =>
    ". Did you mean one of: " ++ ", ".intercalate (names.map fun n => "'" ++ n ++ "'") ++ "?"

/-- What is said of a cause. -/
def Cause.template : Cause → String
  | keyKind => "Incompatible key type '$KEY_TYPE'"
  | conflictingKeys old new => "Conflicting integer and string keys: " ++ old ++ " and " ++ new
  | valueKind kind => "Value '" ++ kind ++ "' is not a supported primitive type"
  | grammar cause => cause.message
  | mixedContainers => "Cannot merge incompatible container types"
  | noIndex => "list index out of range"
  | immutable => "TupleConfig is immutable"
  | missingPart => "TupleConfig elements cannot be missing"
  | noTuple kind =>
    "Invalid value assigned: " ++ kind ++ " is not a TupleConfig, ListConfig, list, or tuple."
  | unknownKey key similar =>
    "Key '" ++ key ++ "' not in 'MachineConfig'" ++ suggestion similar
  | rejected cause => cause.template
  | term cause => cause.template

/-- What the kind of such a fault is called. -/
def Cause.kind : Cause → String
  | keyKind => "KeyValidationError"
  | conflictingKeys _ _ => "KeyValidationError"
  | valueKind _ => "UnsupportedValueType"
  | grammar _ => "GrammarParseError"
  | mixedContainers => "ConfigTypeError"
  | noIndex => "ConfigIndexError"
  | immutable => "ConfigTypeError"
  | missingPart => "ValidationError"
  | noTuple _ => "ValidationError"
  | unknownKey _ _ => "ConfigKeyError"
  | rejected _ => "ValidationError"
  | term cause => cause.kind

/-- An entry as messages show it. -/
structure Shown where
  key : String := "None"
  keyKind : String := "NoneType"
  value : String := "None"
  valueKind : String := "NoneType"
deriving DecidableEq

/-- What the names in a message about an entry stand for. -/
def Shown.values (s : Shown) : List (String × String) :=
  [("KEY", s.key), ("KEY_TYPE", s.keyKind), ("VALUE", s.value), ("VALUE_TYPE", s.valueKind)]

/-- A fault at a place in the settings. -/
structure Fault where
  cause : Cause
  place : Place
  shown : Shown := {}
deriving DecidableEq

/-- What the names in a message stand for. -/
def Fault.values (f : Fault) : List (String × String) :=
  f.shown.values
    ++ [("FULL_KEY", f.place.key), ("OBJECT_TYPE", f.place.owner.name), ("REF_TYPE", "Any")]

/-- What is said of a fault. -/
def Fault.message (f : Fault) : String :=
  Text.Template.fill f.values f.cause.template ++ f.place.text

/-- Why no configuration can be made. -/
inductive SettingsError where
  | file (path : String) (cause : FileError)
  /-- The file is not in UTF-8. -/
  | encoding
  | document (cause : Yaml.Error)
  /-- The file holds a list. -/
  | listDocument
  /-- The file holds a value that is neither text nor container. -/
  | scalarDocument (kind : String)
  /-- The file holds a text that reads as such a value. -/
  | scalarText
  /-- The path of an override has no part. -/
  | emptyPath
  /-- The last part of a path is no index of the list that it leads into. -/
  | badIndex (text : String)
  /-- Another part of a path is no index of the list that it leads into. -/
  | notIndex
  /-- A path leads through a reference that leads nowhere. -/
  | term (cause : TermError)
  /-- A text denotes no term, which was found out when its value was needed. -/
  | grammar (cause : Interpolation.GrammarError)
  /-- A message has to show an integer that is too long. -/
  | tooLong
  | located (fault : Fault)
deriving DecidableEq

/-- What is said of a fault. -/
def SettingsError.message : SettingsError → String
  | file path cause => cause.message path
  | encoding => "the file is not in UTF-8"
  | document cause => cause.message
  | listDocument => "a list cannot be merged into a configuration"
  | scalarDocument kind => "Invalid loaded object type: " ++ kind
  | scalarText => "the file holds a text that is no mapping"
  | emptyPath => "an override has no key"
  | badIndex text => (Yaml.NumberError.integer 10 text).message
  | notIndex => "a part of a path is no index"
  | term cause => cause.template
  | grammar cause => cause.message
  | tooLong => Text.tooManyDigits none
  | located fault => fault.message

/-- What the kind of a fault is called. -/
def SettingsError.kind : SettingsError → String
  | file _ cause => cause.kind
  | encoding => "UnicodeDecodeError"
  | document cause => cause.kind
  | listDocument => "TypeError"
  | scalarDocument _ => "OSError"
  | scalarText => "AssertionError"
  | emptyPath => "IndexError"
  | badIndex _ => "ValueError"
  | notIndex => "TypeError"
  | term cause => cause.kind
  | grammar cause => cause.kind
  | tooLong => "ValueError"
  | located fault => fault.cause.kind

end Chip8.Settings
