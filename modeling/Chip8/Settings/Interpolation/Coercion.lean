import Chip8.Decimal.Numeral
import Chip8.Files.Path
import Chip8.Settings.Field
import Chip8.Settings.Interpolation.Result
import Chip8.Text.Template

set_option autoImplicit false

/-! # Coercion

A function takes a value for one of some type, which is given by its name. What does not suit is
refused as it would be for a field of that type, but the message does not know the value. -/

namespace Chip8.Settings.Interpolation

/-- The types that values can be taken for. -/
inductive CoercionType where
  | bool
  | int
  | float
  | text
  | bytes
  | path
  | profile
deriving DecidableEq

namespace CoercionType

/-- The types that are known everywhere, by name. -/
def basic : List (String × CoercionType) :=
  [("bool", bool), ("int", int), ("float", float), ("str", text), ("bytes", bytes)]

/-- The module of the types that are known everywhere. -/
def basicModule : String := "builtins."

/-- The types by their names. -/
def named : List (String × CoercionType) :=
  basic ++ basic.map (fun t => (basicModule ++ t.1, t.2))
    ++ [("pathlib.Path", path), ("chip8vm.config.InstructionSet", profile),
      ("chip8vm.InstructionSet", profile)]

/-- The names of other types, whose values no setting can have. -/
def otherNames : List String :=
  ["list", "dict", "tuple", "set", "frozenset", "object", "complex", "bytearray", "type"]

/-- The names of types that no value can be taken for. -/
def unsupported : List String :=
  otherNames ++ otherNames.map (basicModule ++ ·)
    ++ ["chip8vm", "chip8vm.config", "chip8vm.state", "chip8vm.emulator", "chip8vm.machine"].map
      (· ++ ".MachineConfig")

/-- What the values of a type are called. -/
def name : CoercionType → String
  | bool => "bool"
  | int => "int"
  | float => "float"
  | text => "str"
  | bytes => "bytes"
  | path => "Path"
  | profile => Field.instructionSet.type

/-- What is said of a value of another kind that is not taken for one of a type. -/
def mismatch : CoercionType → String
  | bool => Rejection.notTruth.template
  | int => "Value '$VALUE' of type '$VALUE_TYPE' could not be converted to Integer"
  | float => "Value '$VALUE' of type '$VALUE_TYPE' could not be converted to Float"
  | text => "Cannot convert '$VALUE_TYPE' to string: '$VALUE'"
  | bytes => "Value '$VALUE' of type '$VALUE_TYPE' is not of type 'bytes'"
  | path => "Value '$VALUE' of type '$VALUE_TYPE' is not an instance of 'pathlib.Path'"
  | profile => Rejection.wrongKind.template

end CoercionType

/-- Refuse a value, of which a message knows nothing. -/
def refuseValue {α : Type} (template : String) : Evaluation α :=
  raise "ValidationError" (Text.Template.fill ({} : Shown).values template)

/-- Take a value as a field would. -/
def asField {α : Type} (make : α → Content) (r : Except Rejection α) : Evaluation Content :=
  match r with
  | .ok x => .ok (make x)
  | .error cause => refuseValue cause.template

/-- Whether underscores stand only between digits. -/
def isWellBarred : List Char → Bool
  | d :: '_' :: e :: rest => d.isDigit && e.isDigit && isWellBarred (e :: rest)
  | ['_'] => false
  | [_, '_'] => false
  | c :: rest => c ≠ '_' && isWellBarred rest
  | [] => true

/-- The floating-point number of a text, in which underscores may stand between digits. -/
def floatOf? (s : String) : Option Float :=
  let cs := s.toList
  if isWellBarred cs then Decimal.Numeral.ofText? (String.ofList (cs.filter (· ≠ '_'))) else none

/-- The floating-point number of an integer, unless there is none. -/
def floatOfInt (k : Int) : Evaluation Content :=
  let size := (Decimal.Numeral.nearest k.natAbs 0).toFloat
  if size.isInf then raise "OverflowError" "int too large to convert to float"
  else .ok (.atom (.float (if k < 0 then -size else size)))

/-- Take a value other than null for one of a type. -/
def coerceTo (type : CoercionType) (c : Content) : Evaluation Content :=
  match type, c with
  | .bool, c => asField (fun b => .atom (.bool b)) (toBool c)
  | .profile, c => asField .profile (toInstructionSet c)
  | .int, .atom (.int k) => .ok (.atom (.int k))
  | .int, .text s => match Text.integerOf? s with
    | some k => .ok (.atom (.int k))
    | none => refuseValue type.mismatch
  | .float, .atom (.float x) => .ok (.atom (.float x))
  | .float, .atom (.int k) => floatOfInt k
  | .float, .text s => match floatOf? s with
    | some x => .ok (.atom (.float x))
    | none => refuseValue type.mismatch
  | .text, c => if c.container?.isSome then refuseValue type.mismatch else .ok (.text c.toText)
  | .bytes, .atom (.bytes bs) => .ok (.atom (.bytes bs))
  | .path, .text s => .ok (.atom (.path (Path.ofTexts [s])))
  | _, _ => refuseValue type.mismatch

/-- Take a value for one of the type with a name. A missing value stays missing. -/
def coerce (name value : Result) : Evaluation Result := do
  let unknown {α : Type} : Evaluation α :=
    raise "ValueError" ("Invalid oc.coerce type: " ++ name.content.innerText)
  match name.content with
  | .text n =>
    match CoercionType.named.lookup n with
    | some type =>
      if value.content.isMissing then return value
      match value.content with
      | .null =>
        refuseValue ("Incompatible value 'None' for field of type '" ++ type.name ++ "'")
      | c => return { content := ← coerceTo type c }
    | none =>
      if CoercionType.unsupported.contains n then
        raise "TypeError" ("Unsupported oc.coerce type: " ++ Text.Quoted.encode n)
      else unknown
  | _ => unknown

end Chip8.Settings.Interpolation
