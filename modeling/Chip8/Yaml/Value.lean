import Chip8.Yaml.Atom

set_option autoImplicit false

/-! # Values

What a document says: atoms, lists, pairs, sets, and mappings in the order in which their keys first
appear. -/

namespace Chip8.Yaml

/-- Values. -/
inductive Value where
  | atom (a : Atom)
  | list (items : List Value)
  | pair (first second : Value)
  | map (entries : List (Atom × Value))
  | set (members : List Atom)

namespace Value

/-- Nothing. -/
@[match_pattern] abbrev null : Value := .atom .null

/-- A truth value. -/
@[match_pattern] abbrev bool (b : Bool) : Value := .atom (.bool b)

/-- A text. -/
@[match_pattern] abbrev text (s : String) : Value := .atom (.text s)

/-- What the kind of a value is called. -/
def kind : Value → String
  | atom a => a.kind
  | list _ => "list"
  | pair _ _ => "tuple"
  | map _ => "dict"
  | set _ => "set"

/-! ## Entries -/

section

variable {α : Type}

/-- Set the value of a key, which keeps its place if it is there. -/
def insert (entries : List (Atom × α)) (key : Atom) (value : α) : List (Atom × α) :=
  match entries with
  | [] => [(key, value)]
  | e :: rest => if e.1.sameKey key then (e.1, value) :: rest else e :: insert rest key value

/-- Set keys in turn. -/
def insertAll (entries more : List (Atom × α)) : List (Atom × α) :=
  more.foldl (fun es e => insert es e.1 e.2) entries

/-- The value of a key. -/
def lookup (entries : List (Atom × α)) (key : Atom) : Option α :=
  (entries.find? (·.1.sameKey key)).map (·.2)

end

end Value

end Chip8.Yaml
