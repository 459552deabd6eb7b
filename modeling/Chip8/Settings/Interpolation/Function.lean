import Chip8.Settings.Content.Document
import Chip8.Settings.Interpolation.Coercion
import Chip8.Settings.Interpolation.Lookup
import Chip8.Settings.Interpolation.Reader

set_option autoImplicit false

/-! # Functions

A function may read a text as an argument once more, or as a document, take a value for one of some
type, look up a setting, or look into the environment, which is empty. -/

namespace Chip8.Settings.Interpolation

/-- What functions look at. -/
structure Scope where
  /-- how messages name the setting that the term belongs to -/
  owner : String
  /-- what is found under a key -/
  find : String → Evaluation Finding
  /-- the value of a term -/
  term : Term → Evaluation Result

/-- A value is of a kind that a function does not take. -/
def typeFault {α : Type} (message : String) : Evaluation α := raise "TypeError" message

/-- The value of a text that is read as an argument. -/
def decode (scope : Scope) (r : Result) : Evaluation Result :=
  match r.content with
  | .null => .ok r
  | .text s => match Term.ofArgument s with
    | .ok t => scope.term t
    | .error cause => raise cause.kind cause.message
  | c => typeFault ("\x60oc.decode\x60 can only take strings or None as input, but \x60" ++ c.toText
      ++ "\x60 is of type " ++ r.shortKind)

/-- The setting with a key, if there is one. -/
def select (scope : Scope) (key : Result) : Evaluation (Option Result) := do
  match key.content with
  | .text k =>
    match ← scope.find k with
    | .value r => return some r
    | .start r => return some r
    | _ => return none
  | _ => raise "AttributeError" ("'" ++ key.shortKind ++ "' object has no attribute 'startswith'")

/-- The variable of the environment with a name, or the text of a default value. -/
def environment (name : Result) (default? : Option Result) : Evaluation Result :=
  match name.content, default? with
  | .text _, some d => match d.content with
    | .null => .ok d
    | c => .ok { content := .text c.toText }
  | .text n, none =>
    raise "KeyError" (Text.Quoted.encode ("Environment variable '" ++ n ++ "' not found"))
  | _, _ => typeFault ("str expected, not " ++ name.shortKind)

/-- The value of a document as settings of its own. -/
def create (r : Result) : Evaluation Result :=
  match r.content with
  | .null => .ok r
  | .text s => match Yaml.Value.ofText s with
    | .ok .null => .ok { content := .map [] }
    | .ok (.text t) => .ok { content := .map [(.text t, .null)] }
    | .ok (.list items) => accepted (Content.acceptItems [] 0 items) .list
    | .ok (.map entries) => accepted (Content.acceptEntries [] [] entries) .map
    | .ok _ => raise "AssertionError" ""
    | .error cause => raise cause.kind cause.message
  | .list items => .ok { content := .list items }
  | .map entries => .ok { content := .map entries }
  | _ =>
    raise "ValidationError" ("Object of unsupported type: '" ++ r.shortKind
      ++ "'\n    full_key: \n    object_type=None")
where
  /-- A container that has been accepted. -/
  accepted {α : Type} (parts : Except SettingsError α) (make : α → Content) : Evaluation Result :=
    match parts with
    | .ok x => .ok { content := make x }
    | .error cause => raise cause.kind cause.message

/-- The setting with a key that is out of date. -/
def deprecated (scope : Scope) (key : Result) : Evaluation Result := do
  match key.content with
  | .text k =>
    match ← select scope key with
    | some r => return r
    | none =>
      raise "ConfigKeyError" ("In oc.deprecated resolver at '" ++ scope.owner
        ++ "': Key not found: '" ++ k ++ "'")
  | _ =>
    typeFault ("oc.deprecated: interpolation key type is not a string (" ++ key.shortKind ++ ")")

/-- The entries of the mapping with a key. -/
def entriesOf (scope : Scope) (name : String) (key : Result) :
    Evaluation (List (Yaml.Atom × Content)) := do
  match key.content with
  | .text k =>
    match ← select scope key with
    | some ⟨.map entries, _, _⟩ => return entries
    | some r =>
      typeFault ("\x60" ++ name ++ "\x60 cannot be applied to objects of type: " ++ r.shortKind)
    | none => raise "ConfigKeyError" ("Key not found: '" ++ k ++ "'")
  | c =>
    typeFault ("\x60" ++ name ++ "\x60 requires a string as input, but obtained \x60" ++ c.toText
      ++ "\x60 of type: " ++ key.shortKind)

/-- A reference to an entry of the mapping with a key, from an item of a list at the same place. -/
def linkTo (key : Result) (entry : Yaml.Atom) : String :=
  let base := key.content.toText
  let base := if base.startsWith "." then "." ++ base else base
  "$\x7b" ++ base ++ "." ++ entry.toText ++ "\x7d"

/-- Functions: what they and the arguments that they need are called, and what is said of more
    arguments than they take. -/
structure Signature where
  function : String
  arguments : List String
  surplus : Nat → String

/-- What is said of too many arguments for a function that takes one or two, and `context` that are
    not written. -/
def tooMany (context : String) (given : Nat) : String :=
  "takes from 1 to 2 positional arguments but " ++ toString given ++ context ++ " were given"

/-- What is said of an argument in the place of one that is not written. -/
def doubled (name : String) : String := "got multiple values for argument '" ++ name ++ "'"

/-- The functions and their names. -/
def signatures : List (String × Signature) :=
  [("oc.coerce", ⟨"coerce", ["type_name", "value"],
     fun given => "takes 2 positional arguments but " ++ toString given ++ " were given"⟩),
   ("oc.create", ⟨"create", ["obj"], fun _ => doubled "_parent_"⟩),
   ("oc.decode", ⟨"decode", ["expr"], fun _ => doubled "_parent_"⟩),
   ("oc.deprecated", ⟨"deprecated", ["key"],
     tooMany " positional arguments (and 2 keyword-only arguments)"⟩),
   ("oc.dict.keys", ⟨"dict_keys", ["key"], fun _ => doubled "_parent_"⟩),
   ("oc.dict.values", ⟨"dict_values", ["key"],
     fun given => doubled (if given = 2 then "_root_" else "_parent_")⟩),
   ("oc.env", ⟨"env", ["key"], tooMany ""⟩),
   ("oc.select", ⟨"select", ["key"],
     tooMany " positional arguments (and 1 keyword-only argument)"⟩)]

/-- What is said of arguments that are needed and not given. -/
def absent (names : List String) : String :=
  "missing " ++ toString names.length ++ " required positional argument"
    ++ (if names.length = 1 then ": " else "s: ")
    ++ " and ".intercalate (names.map fun n => "'" ++ n ++ "'")

/-- What is said of a number of arguments that a function does not take. -/
def Signature.fault (s : Signature) (given : Nat) : String :=
  s.function ++ "() "
    ++ (if given < s.arguments.length then absent (s.arguments.drop given) else s.surplus given)

/-- Call a function. -/
def call (scope : Scope) (name : String) (arguments : List Result) : Evaluation Result :=
  match name, arguments with
  | "oc.coerce", [type, value] => coerce type value
  | "oc.create", [r] => create r
  | "oc.decode", [r] => decode scope r
  | "oc.deprecated", [key] => deprecated scope key
  | "oc.deprecated", [key, message] =>
    match key.content, message.content with
    | .text _, .text _ => deprecated scope key
    | .text _, _ =>
      typeFault ("oc.deprecated: interpolation message type is not a string (" ++ message.shortKind
        ++ ")")
    | _, _ => deprecated scope key
  | "oc.dict.keys", [key] => do
    let entries ← entriesOf scope name key
    return { content := .list (entries.map fun e => .atom e.1) }
  | "oc.dict.values", [key] => do
    let entries ← entriesOf scope name key
    return { content := .list (entries.map fun e => .text (linkTo key e.1)) }
  | "oc.env", [key] => environment key none
  | "oc.env", [key, default] => environment key (some default)
  | "oc.select", [key] => do return (← select scope key).getD { content := .null }
  | "oc.select", [key, default] => do return (← select scope key).getD default
  | _, _ =>
    match signatures.lookup name with
    | some s => typeFault (s.fault arguments.length)
    | none => refuse (.unknownFunction name)

end Chip8.Settings.Interpolation
