import Chip8.Text.Integer

set_option autoImplicit false

/-! # Arguments

The arguments of a run: a program file, overrides, and options between them in any order. Options
may be shortened as long as one option remains, and may have their value behind an equals sign.

The marker `--` ends the options. Arguments are read in two passes: the first one takes the options
and leaves everything else, the second one reads what was left in the same way. A marker before
every operand is used up by the first pass, so that options behind it count in the second one; there
all operands stand together. -/

namespace Chip8.CommandLine

/-! ## Options -/

/-- The options. -/
inductive Switch where
  | help
  | frames
  | cyclesPerFrame
  | config
  | logLevel
  | reportAll
  | noProgress
deriving DecidableEq

namespace Switch

/-- Every option. -/
def all : List Switch := [help, frames, cyclesPerFrame, config, logLevel, reportAll, noProgress]

/-- How an option is written. -/
def name : Switch → String
  | help => "--help"
  | frames => "--frames"
  | cyclesPerFrame => "--cycles-per-frame"
  | config => "--config"
  | logLevel => "--log-level"
  | reportAll => "--report-all"
  | noProgress => "--no-progress"

/-- Whether a value follows an option. -/
def takesValue : Switch → Bool
  | frames => true
  | cyclesPerFrame => true
  | config => true
  | logLevel => true
  | _ => false

end Switch

/-- The value of an option. The marker `--` behind an equals sign is left out, and no value
    remains. -/
inductive Setting (α : Type) where
  | value (x : α)
  | blank
deriving DecidableEq

/-- What the options say. -/
structure Options where
  frames : Setting Int := .value 60
  cyclesPerFrame : Setting Int := .value 10
  config? : Option (Setting String) := none
  logLevel : Setting String := .value "INFO"
  reportAll : Bool := false
deriving DecidableEq

/-- The arguments of a run. -/
structure Arguments where
  rom : String
  overrides : List String
  options : Options
deriving DecidableEq

/-- Why arguments start no run. -/
inductive Refusal where
  /-- Help is asked for. -/
  | help
  | ambiguous (text : String)
  | missingValue (option : Switch)
  | unexpectedValue (option : Switch)
  | badInteger (option : Switch) (text : String)
  | unknownOption (text : String)
  | tooMany
  | missingRom
deriving DecidableEq

/-! ## Single arguments -/

/-- What an argument is. -/
inductive Item where
  | operand (text : String)
  | separator
  | option (option : Switch) (value? : Option String)
  | unknown (text : String)

/-- An argument as it was written, for operands, markers and unknown options. -/
def Item.text : Item → String
  | operand text => text
  | separator => "--"
  | option o _ => o.name
  | unknown text => text

/-- The part before the first equals sign, and the part behind it. -/
def splitEquals (cs : List Char) : List Char × Option String :=
  let name := cs.takeWhile (· ≠ '=')
  (name, if cs.contains '=' then some (String.ofList (cs.drop (name.length + 1))) else none)

/-- Whether a text without its sign is a numeral, perhaps with a point. A line feed may end it. -/
def isNumeral (cs : List Char) : Bool :=
  let cs := if cs.getLast? = some '\n' then cs.dropLast else cs
  let isDigit (c : Char) : Bool := (Text.decimalDigit? c).isSome
  let rest := cs.dropWhile isDigit
  match rest with
  | [] => !cs.isEmpty
  | '.' :: fraction => !fraction.isEmpty && fraction.all isDigit
  | _ => false

/-- An argument that starts with two dashes. -/
def Item.ofLong (text : String) : Except Refusal Item :=
  let (name, value?) := splitEquals text.toList
  match Switch.all.find? fun o => o.name.toList == name with
  | some o => .ok (.option o value?)
  | none =>
    match Switch.all.filter fun o => name.isPrefixOf o.name.toList with
    | [o] => .ok (.option o value?)
    | _ :: _ :: _ => .error (.ambiguous text)
    | [] => .ok (if text.toList.contains ' ' then .operand text else .unknown text)

/-- An argument that starts with one dash. The only option of this kind is `-h`. -/
def Item.ofShort (text : String) : Item :=
  match text.toList with
  | '-' :: 'h' :: rest =>
    .option .help (if rest.all (· = 'h') then none else some (String.ofList rest))
  | '-' :: rest =>
    if rest.isEmpty || isNumeral rest || rest.contains ' ' then .operand text else .unknown text
  | _ => .operand text

/-- An argument before the marker. -/
def Item.ofText (text : String) : Except Refusal Item :=
  match text.toList with
  | '-' :: '-' :: _ => Item.ofLong text
  | _ => .ok (Item.ofShort text)

/-- The arguments of a list; behind the marker there are operands only. -/
def Item.ofTexts : List String → Except Refusal (List Item)
  | [] => .ok []
  | text :: rest =>
    if text = "--" then .ok (.separator :: rest.map .operand)
    else do
      let item ← Item.ofText text
      return item :: (← Item.ofTexts rest)

/-! ## Passes -/

/-- The text that an option is given. -/
def readText (text : String) : Setting String := if text = "--" then .blank else .value text

/-- The integer that an option is given. -/
def readInteger (o : Switch) (text : String) : Except Refusal (Setting Int) :=
  if text = "--" then .ok .blank
  else match Text.integerOf? text with
    | some k => .ok (.value k)
    | none => .error (.badInteger o text)

/-- Apply an option that takes a value. -/
def Options.withValue (options : Options) (o : Switch) (text : String) :
    Except Refusal Options :=
  match o with
  | .frames => (readInteger o text).map fun k => { options with frames := k }
  | .cyclesPerFrame => (readInteger o text).map fun k => { options with cyclesPerFrame := k }
  | .config => .ok { options with config? := some (readText text) }
  | .logLevel => .ok { options with logLevel := readText text }
  | _ => .error (.unexpectedValue o)

/-- Apply an option that takes no value. There is no display of progress that could be left out, so
    that the option for it is accepted and changes nothing. -/
def Options.withFlag (options : Options) (o : Switch) : Except Refusal Options :=
  match o with
  | .help => .error .help
  | .reportAll => .ok { options with reportAll := true }
  | .noProgress => .ok options
  | _ => .error (.missingValue o)

/-- Put an item in front of the first of some groups. -/
def pushItem (item : Item) : List (List Item) → List (List Item)
  | [] => [[item]]
  | group :: groups => (item :: group) :: groups

/-- Take the options out of a list, in order. The rest comes in groups: what stands between two
    options is one group. -/
def takeOptions (options : Options) : List Item → Except Refusal (Options × List (List Item))
  | [] => .ok (options, [[]])
  | .option o (some text) :: rest => do
    let options ← options.withValue o text
    let (options, groups) ← takeOptions options rest
    return (options, [] :: groups)
  | .option o none :: rest =>
    if o.takesValue then
      match rest with
      | .operand text :: rest => do
        let options ← options.withValue o text
        let (options, groups) ← takeOptions options rest
        return (options, [] :: groups)
      | _ => .error (.missingValue o)
    else do
      let options ← options.withFlag o
      let (options, groups) ← takeOptions options rest
      return (options, [] :: groups)
  | item :: rest => do
    let (options, groups) ← takeOptions options rest
    return (options, pushItem item groups)

/-- What the first pass leaves for the second one: a marker in front is used up. -/
def leftOver (items : List Item) : List String :=
  match items with
  | .separator :: rest => rest.map Item.text
  | _ => items.map Item.text

/-- Leave out the first marker. -/
def dropMarker : List String → List String
  | [] => []
  | text :: rest => if text = "--" then rest else text :: dropMarker rest

/-- The program file and the overrides in a group. A marker in front of them, between them or behind
    them is left out. -/
def readOperands (group : List Item) : Option (String × List String) :=
  let group := match group with
    | .separator :: rest => rest
    | _ => group
  match group with
  | .operand rom :: .separator :: rest => some (rom, dropMarker (rest.map Item.text))
  | .operand rom :: rest => some (rom, dropMarker (rest.map Item.text))
  | _ => none

/-- Read arguments. -/
def Arguments.ofTexts (texts : List String) : Except Refusal Arguments := do
  let (options, groups) ← takeOptions {} (← Item.ofTexts texts)
  let (options, groups) ← takeOptions options (← Item.ofTexts (leftOver groups.flatten))
  let unknown := groups.flatten.find? fun item => match item with
    | .unknown _ => true
    | _ => false
  if let some item := unknown then .error (.unknownOption item.text)
  match groups.filter fun group => !group.isEmpty with
  | [] => .error .missingRom
  | [group] =>
    match readOperands group with
    | some (rom, overrides) => return ⟨rom, overrides, options⟩
    | none => .error .missingRom
  | _ => .error .tooMany

end Chip8.CommandLine
