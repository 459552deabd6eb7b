import Chip8.Settings.Draft
import Chip8.Settings.Interpolation.Value

set_option autoImplicit false

/-! # From drafts to configurations

In the end every field that holds a term gets its value. A value that another field takes from it
suits that field already. -/

namespace Chip8.Settings.Draft

open Interpolation (Evaluation Result Surroundings Term TermFault)

/-- Take the value of a term, which is written in some way, for a field. -/
def convert {α : Type} (f : Field) (source : String) (read : Content → Except Rejection α)
    (r : Result) : Evaluation α :=
  match read r.content with
  | .ok x => .ok x
  | .error cause => .error {
      error := .rejected source cause
      field? := some f
      shown := ⟨f.name, "str", r.content.toText, r.kind⟩ }

/-- The place of a field. -/
def place (f : Field) : List Key := [.entry (.text f.name)]

/-- What becomes of the value of a term at a place: it suits the field there. -/
def takeAt (place : List Key) (source : String) (r : Result) : Evaluation Result :=
  match place with
  | [.entry (.text name)] =>
    match Field.ofName? name with
    | some .instructionSet => do
      let p ← convert .instructionSet source toInstructionSet r
      return { content := .profile p }
    | some .modern => do
      let b ← convert .modern source toBool r
      return { content := .atom (.bool b) }
    | none => .ok r
  | _ => .ok r

/-- The settings among which the terms of a draft stand. -/
def surroundings (d : Draft) : Surroundings := ⟨d.toContent, takeAt⟩

/-- What is said to be at fault in the term of a field. -/
def faultOf (f : Field) (fault : TermFault) : SettingsError :=
  .located ⟨.term fault.error, ⟨(fault.field?.getD f).name, .machine⟩, fault.shown⟩

/-- Read what a field holds in the end. -/
def settle {α : Type} (d : Draft) (f : Field) (read : Content → Except Rejection α)
    (slot : Slot α) : Except SettingsError α :=
  match slot with
  | .value x => .ok x
  | .term source => do
    let t ← (Term.ofText source).mapError SettingsError.grammar
    ((d.surroundings.value (place f) t).bind (convert f source read)).mapError (faultOf f)

/-- The configuration that a draft makes. -/
def config (d : Draft) : Except SettingsError Config := do
  let p ← d.settle .instructionSet toInstructionSet d.instructionSet
  let b ← d.settle .modern toBool d.modern
  return ⟨p, b⟩

end Chip8.Settings.Draft
