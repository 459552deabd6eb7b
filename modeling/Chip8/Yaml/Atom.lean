import Chip8.Decimal.Shortest
import Chip8.Text.Quoted
import Chip8.Yaml.Error

set_option autoImplicit false

/-! # Atoms

The values without parts: null, truth values, numbers, texts, bytes, days and times, and paths. Only
atoms are keys of mappings, where numbers of different kinds are the same key if they are equal.
What is no number is equal to nothing, but it is the same key where it comes from the same origin.
-/

namespace Chip8.Yaml

/-- A time of day, and perhaps its offset from universal time in minutes. -/
structure DayTime where
  hour : Nat
  minute : Nat
  second : Nat
  microsecond : Nat
  offset? : Option Int
deriving DecidableEq

/-- A day, or a time on a day. -/
structure Moment where
  year : Nat
  month : Nat
  day : Nat
  time? : Option DayTime
deriving DecidableEq

/-- Values without parts. -/
inductive Atom where
  | null
  | bool (b : Bool)
  | int (k : Int)
  | float (x : Float)
  /-- no number; all that are written as such come from 0 -/
  | nan (origin : Nat)
  | text (s : String)
  | bytes (bs : List UInt8)
  | moment (m : Moment)
  /-- a path in normal form -/
  | path (s : String)

namespace Atom

/-- The integer that a truth value or an integer counts as. -/
def integer? : Atom → Option Int
  | bool b => some (if b then 1 else 0)
  | int k => some k
  | _ => none

/-- Whether two atoms are the same key. -/
def sameKey (a b : Atom) : Bool :=
  match a, b with
  | null, null => true
  | text s, text t => s == t
  | bytes s, bytes t => s == t
  | moment s, moment t => s == t
  | path s, path t => s == t
  | nan m, nan n => m == n
  | float x, float y => x == y
  | float x, _ => (b.integer?.map fun k => (Decimal.Binary.ofFloat x).isInt k).getD false
  | _, float y => (a.integer?.map fun k => (Decimal.Binary.ofFloat y).isInt k).getD false
  | _, _ => match a.integer?, b.integer? with
    | some k, some l => k == l
    | _, _ => false

theorem sameKey_text_text (s t : String) : (text s).sameKey (text t) = decide (s = t) := by
  by_cases h : s = t <;> simp [sameKey, h]

/-- What the kind of an atom is called. -/
def kind : Atom → String
  | null => "NoneType"
  | bool _ => "bool"
  | int _ => "int"
  | float _ => "float"
  | nan _ => "float"
  | text _ => "str"
  | bytes _ => "bytes"
  | moment m => if m.time?.isSome then "datetime" else "date"
  | path _ => "PosixPath"

/-- The text of an atom on its own. -/
def toText : Atom → String
  | null => "None"
  | bool true => "True"
  | bool false => "False"
  | int k => toString k
  | float x => Decimal.Shortest.text (.ofFloat x)
  | nan _ => Decimal.Shortest.text .nan
  | text s => s
  | bytes bs => Text.Quoted.encodeBytes bs
  | moment _ => ""
  | path s => s

/-- The text of an atom inside a container, where texts are quoted. -/
def innerText : Atom → String
  | text s => Text.Quoted.encode s
  | path s => "PosixPath(" ++ Text.Quoted.encode s ++ ")"
  | a => a.toText

/-- Whether an atom has a text; integers that are too long have none. -/
def hasText : Atom → Bool
  | int k => !Text.isTooLong k
  | _ => true

end Atom

end Chip8.Yaml
