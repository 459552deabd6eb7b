import Chip8.Settings.Content.Part
import Chip8.Settings.Fault
import Chip8.Settings.Interpolation.Reader
import Chip8.Settings.Interpolation.Simple
import Chip8.Yaml.Value.Document

set_option autoImplicit false

/-! # From values to settings

Settings take the values of documents, with some exceptions: keys are texts, bytes, numbers and
truth values, and there are no sets, days and times among the values. A text with interpolations
that are not simple has to denote a term. The parts of a value are looked at in order, each key
before its value.

A tuple is made before it has a place; what is at fault in its own parts is said to be at its index
in the list that it belongs to. -/

namespace Chip8.Settings.Content

open Yaml (Atom Value)

/-- A fault at a place. -/
def refuse {α : Type} (cause : Cause) (key : String) (owner : Owner) (shown : Shown) :
    Except SettingsError α :=
  .error (.located ⟨cause, ⟨key, owner⟩, shown⟩)

/-- An entry as messages show it. -/
def shown (key : Atom) (value : Content) : Shown :=
  ⟨key.toText, key.kind, value.toText, value.kind⟩

/-- Whether an atom can be a key. -/
def isKey : Atom → Bool
  | .null => false
  | .moment _ => false
  | .path _ => false
  | _ => true

/-- Where a key that cannot be one is said to be. -/
def badKeyPlace (trail : Trail) : Atom → String
  | .null => trail.bareText
  | _ => ""

/-- A place in a container: the steps to the container, its key there, and how messages name it. -/
structure Position where
  trail : Trail
  step : Step
  key : Atom
  place : Place

namespace Position

/-- The steps to a place. -/
def steps (s : Position) : Trail := s.trail ++ [s.step]

/-- The place of a key of a mapping. -/
def ofKey (trail : Trail) (key : Atom) : Position :=
  let step : Step := ⟨key.toText, false⟩
  ⟨trail, step, key, ⟨trail.placeText step, .map⟩⟩

/-- The place of an index of a list or, if the owner says so, of a tuple. -/
def ofIndex (trail : Trail) (index : Int) (owner : Owner := .list) : Position :=
  let step : Step := ⟨toString index, true⟩
  ⟨trail, step, .int index, ⟨trail.placeText step, owner⟩⟩

/-- The place of an index in a tuple that is being made for a place. -/
def ofPart (s : Position) (index : Nat) : Position :=
  ⟨s.steps, ⟨toString index, true⟩, .int index, ⟨s.step.key, .nothing⟩⟩

/-- Fail at a place. -/
def refuse {α : Type} (s : Position) (cause : Cause) (value : Content) :
    Except SettingsError α :=
  Content.refuse cause s.place.key s.place.owner (Content.shown s.key value)

/-- Fail if a value for a part of a tuple is missing. -/
def checkPart (s : Position) : Value → Except SettingsError Unit
  | .text t => if t = missingMark then s.refuse .missingPart (text t) else .ok ()
  | _ => .ok ()

/-- Fail if a key cannot be one, or cannot stand beside others. -/
def checkKey (trail : Trail) (others : List Atom) (key : Atom) : Except SettingsError Unit :=
  if !isKey key then
    Content.refuse .keyKind (badKeyPlace trail key) .map { key := key.toText, keyKind := key.kind }
  else match conflict? others key with
    | some other =>
      (ofKey trail key).refuse (.conflictingKeys other.innerText key.innerText) null
    | none => .ok ()

end Position

/-- An atom at a place. -/
def acceptAtom (s : Position) (a : Atom) : Except SettingsError Content :=
  match a with
  | .moment _ => s.refuse (.valueKind a.kind) (.atom a)
  | .text t =>
    if Interpolation.isInterpolated t.toList && !Interpolation.isSimple t.toList then
      match Interpolation.Term.ofText t with
      | .ok _ => .ok (text t)
      | .error cause => s.refuse (.grammar cause) (text t)
    else .ok (ofAtom a)
  | _ => .ok (ofAtom a)

mutual

/-- What a value at a place stands for. -/
def accept (s : Position) : Value → Except SettingsError Content
  | .atom a => acceptAtom s a
  | .list items => (acceptItems s.steps 0 items).map list
  | .pair a b => do
    (s.ofPart 0).checkPart a
    let x ← accept (s.ofPart 0) a
    (s.ofPart 1).checkPart b
    let y ← accept (s.ofPart 1) b
    return .tuple [x, y]
  | .map entries => (acceptEntries s.steps [] entries).map map
  | .set _ => s.refuse (.valueKind "set") null

/-- What the items of a list stand for, from an index on. -/
def acceptItems (trail : Trail) (index : Nat) : List Value → Except SettingsError (List Content)
  | [] => .ok []
  | v :: rest => do
    let c ← accept (.ofIndex trail index) v
    return c :: (← acceptItems trail (index + 1) rest)

/-- What the entries of a mapping stand for, behind those with some keys. -/
def acceptEntries (trail : Trail) (before : List Atom) :
    List (Atom × Value) → Except SettingsError (List (Atom × Content))
  | [] => .ok []
  | (k, v) :: rest => do
    Position.checkKey trail before k
    let c ← accept (.ofKey trail k) v
    return (k, c) :: (← acceptEntries trail (k :: before) rest)

end

end Chip8.Settings.Content
