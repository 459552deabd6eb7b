import Chip8.Settings.Content
import Chip8.Text.Integer

set_option autoImplicit false

/-! # The fields of a configuration

A configuration has two fields. Each of them takes values of several kinds, and says why it does not
take the others. -/

namespace Chip8.Settings

/-- The fields of a configuration. -/
inductive Field where
  | instructionSet
  | modern
deriving DecidableEq

namespace Field

/-- Every field, in order. -/
def all : List Field := [instructionSet, modern]

/-- The key of a field. -/
def name : Field → String
  | instructionSet => "instruction_set"
  | modern => "modern_mode"

/-- The field of a key. -/
def ofName? (key : String) : Option Field := all.find? (·.name == key)

/-- What the values of a field are called. -/
def type : Field → String
  | instructionSet => "InstructionSet"
  | modern => "bool"

theorem ofName?_name (f : Field) : ofName? f.name = some f := by cases f <;> decide

end Field

/-- Why a field does not take a value. -/
inductive Rejection where
  | null (f : Field)
  | notTruth
  | notListed
  | wrongKind
deriving DecidableEq

/-- What is said of a value that a field does not take. -/
def Rejection.template : Rejection → String
  | null f => "Incompatible value 'None' for field of type '" ++ f.type ++ "'"
  | notTruth => "Value '$VALUE' is not a valid bool (type $VALUE_TYPE)"
  | notListed =>
    "Invalid value '$VALUE', expected one of ["
      ++ ", ".intercalate (InstructionSet.all.map (·.name)) ++ "]"
  | wrongKind => "Value $VALUE ($VALUE_TYPE) is not a valid input for <enum 'InstructionSet'>"

/-- Whether it is said which value a field does not take. -/
def Rejection.showsValue : Rejection → Bool
  | null _ => false
  | _ => true

/-! ## Truth values -/

/-- The words for true. -/
def trueWords : List String := ["yes", "y", "on", "true"]

/-- The words for false. -/
def falseWords : List String := ["no", "n", "off", "false"]

/-- The truth value of a text: an integer other than zero, or a word in any case. -/
def truthOfText? (text : String) : Option Bool :=
  match Text.integerOf? text with
  | some k => some (k ≠ 0)
  | none =>
    let word := String.ofList (text.toList.map Char.toLower)
    if trueWords.contains word then some true
    else if falseWords.contains word then some false
    else none

/-- The truth value that something is taken for. -/
def toBool : Content → Except Rejection Bool
  | .null => .error (.null .modern)
  | .atom (.bool b) => .ok b
  | .atom (.int k) => .ok (k ≠ 0)
  | .text t =>
    match truthOfText? t with
    | some b => .ok b
    | none => .error .notTruth
  | _ => .error .notTruth

/-! ## Instruction profiles -/

/-- What a name or value of a profile may start with. -/
def qualifier : String := "InstructionSet."

/-- The profile that a text names, by its name or its value, with the qualifier or without. -/
def profileOfText? (text : String) : Option InstructionSet :=
  let word :=
    if qualifier.toList.isPrefixOf text.toList then
      String.ofList (text.toList.drop qualifier.length)
    else text
  (InstructionSet.ofName? word).orElse fun _ => InstructionSet.ofValue? word

/-- The profile that something is taken for. -/
def toInstructionSet : Content → Except Rejection InstructionSet
  | .null => .error (.null .instructionSet)
  | .profile p => .ok p
  | .text t =>
    match profileOfText? t with
    | some p => .ok p
    | none => .error .notListed
  | .escapedMark _ => .error .notListed
  | .atom (.bool _) => .error .notListed
  | .atom (.int _) => .error .notListed
  | _ => .error .wrongKind

end Chip8.Settings
