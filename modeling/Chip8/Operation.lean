set_option autoImplicit false

/-! # Operations

An operation is the kind of thing that an instruction word asks for, whatever its operands. It is
what reports speak of: each operation has a number, a symbolic name and a family name made of the
same words. -/

namespace Chip8

/-- The kinds of instruction, in the order of their numbers. -/
inductive Operation where
  | clearScreen
  | ret
  | jump
  | call
  | skipIfEqual
  | skipIfNotEqual
  | skipIfRegistersEqual
  | loadImmediate
  | addImmediate
  | alu
  | skipIfRegistersNotEqual
  | loadIndex
  | jumpWithOffset
  | random
  | drawSprite
  | skipIfKey
  | misc
  | unknown
deriving DecidableEq

namespace Operation

/-- Every operation, by number. -/
def all : List Operation :=
  [clearScreen, ret, jump, call, skipIfEqual, skipIfNotEqual, skipIfRegistersEqual, loadImmediate,
   addImmediate, alu, skipIfRegistersNotEqual, loadIndex, jumpWithOffset, random, drawSprite,
   skipIfKey, misc, unknown]

/-- The number of an operation is its place in the list. -/
def number (op : Operation) : Nat := all.idxOf op

/-- The operation with a given number. -/
def ofNumber? (k : Int) : Option Operation :=
  if 0 ≤ k then all[k.toNat]? else none

/-- The family name, as reports show it. -/
def family : Operation → String
  | clearScreen => "clear-screen"
  | ret => "return"
  | jump => "jump"
  | call => "call"
  | skipIfEqual => "skip-if-equal"
  | skipIfNotEqual => "skip-if-not-equal"
  | skipIfRegistersEqual => "skip-if-registers-equal"
  | loadImmediate => "load-immediate"
  | addImmediate => "add-immediate"
  | alu => "alu"
  | skipIfRegistersNotEqual => "skip-if-registers-not-equal"
  | loadIndex => "load-index"
  | jumpWithOffset => "jump-with-offset"
  | random => "random"
  | drawSprite => "draw-sprite"
  | skipIfKey => "skip-if-key"
  | misc => "misc"
  | unknown => "unknown"

/-- The symbolic name: the family name in capitals, its words joined by underscores. -/
def name (op : Operation) : String :=
  String.ofList (op.family.toList.map fun c => if c = '-' then '_' else c.toUpper)

/-- The operation with a given symbolic name. -/
def ofName? (text : String) : Option Operation := all.find? (·.name == text)

theorem mem_all (op : Operation) : op ∈ all := by cases op <;> decide

/-- What is said of a number that no operation has. -/
def unknownNumber (k : Int) : String := toString k ++ " is not a valid Operation"

end Operation

end Chip8
