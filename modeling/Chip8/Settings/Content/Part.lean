import Chip8.Settings.Content
import Chip8.Settings.Place
import Chip8.Text.Integer

set_option autoImplicit false

/-! # Parts of settings

The parts of a list have indices, those of a mapping have keys. In paths both are given by names: a
name is an index of a list, negative ones counting from the end, or a key of a mapping. An integer
and the text that denotes it cannot both be keys of a mapping, so that it is clear what a name
means. -/

namespace Chip8.Settings

open Yaml (Atom Value)

/-- What a part of something is found by. -/
inductive Key where
  | index (i : Nat)
  | entry (key : Atom)

namespace Key

/-- The step that a key makes. -/
def step : Key → Step
  | index i => ⟨toString i, true⟩
  | entry key => ⟨key.toText, false⟩

/-- Whether two keys are the same. -/
def same : Key → Key → Bool
  | index i, index j => i == j
  | entry a, entry b => a.sameKey b
  | _, _ => false

/-- The steps that keys make. -/
def trail (keys : List Key) : Trail := keys.map step

/-- Whether two places are the same. -/
def samePlace : List Key → List Key → Bool
  | [], [] => true
  | a :: as, b :: bs => a.same b && samePlace as bs
  | _, _ => false

end Key

namespace Content

/-- The items of a list or of a tuple. -/
def items : Content → List Content
  | .list cs => cs
  | .tuple cs => cs
  | _ => []

/-- The entries of a mapping; there are none in anything else. -/
def entries : Content → List (Atom × Content)
  | .map es => es
  | _ => []

/-! ## Parts by keys -/

/-- The part that has a key. -/
def part? (c : Content) : Key → Option Content
  | .index i => c.items[i]?
  | .entry key => Value.lookup c.entries key

/-- Put something in the place of the part that has a key. -/
def setPart (c : Content) (key : Key) (part : Content) : Content :=
  match c, key with
  | .list cs, .index i => .list (cs.set i part)
  | .tuple cs, .index i => .tuple (cs.set i part)
  | .map es, .entry k => .map (Value.insert es k part)
  | c, _ => c

/-- What is at a place. -/
def at? (c : Content) : List Key → Option Content
  | [] => some c
  | key :: rest => (c.part? key).bind (·.at? rest)

/-- Put something at a place. -/
def setAt (c : Content) (new : Content) : List Key → Content
  | [] => new
  | key :: rest => c.setPart key (((c.part? key).getD null).setAt new rest)

/-! ## Keys by names -/

/-- The index that an integer means in a list of a given length. -/
def indexIn? (length : Nat) (k : Int) : Option Nat :=
  let i := if k < 0 then k + length else k
  if 0 ≤ i ∧ i < length then some i.toNat else none

/-- The key of a mapping that a name means: the name as a text, or else the integer that is written
    like it if that is a key of the mapping. -/
def entryKey (es : List (Atom × Content)) (name : String) : Atom :=
  let isNumber (key : Atom) : Bool :=
    match key with
    | .int k => toString k == name
    | _ => false
  if (Value.lookup es (.text name)).isSome then .text name
  else ((es.map (·.1)).find? isNumber).getD (.text name)

/-- What a name means in a container. -/
inductive Meaning where
  | key (k : Key)
  /-- An index that the list does not have. -/
  | outside (index : Int)
  /-- The name is no index of the list. -/
  | noIndex

/-- What a name means in a container; what is none counts as a mapping without entries. -/
def meaning (c : Content) (name : String) : Meaning :=
  if c.container? = some .list || c.container? = some .tuple then
    match Text.integerOf? name with
    | none => .noIndex
    | some k => match indexIn? c.items.length k with
      | some i => .key (.index i)
      | none => .outside k
  else .key (.entry (entryKey c.entries name))

/-- The key among some that cannot stand beside another, because one is an integer and the other the
    text that denotes it. -/
def conflict? (keys : List Atom) (key : Atom) : Option Atom :=
  match key with
  | .int k => keys.find? fun
    | .text s => s == toString k
    | _ => false
  | .text s => keys.find? fun
    | .int k => s == toString k
    | _ => false
  | _ => none

end Content

end Chip8.Settings
