import Chip8.Settings.Interpolation.Function

set_option autoImplicit false

/-! # The values of terms

A reference has the value of the setting that it names, which may itself depend on a term. A call
has the value that its function gives for its arguments.

Settings that depend on themselves have no value. A chain of references finds that out by the
places on it; functions look settings up anew, so that a bound on how deep they do it ends the
search. -/

namespace Chip8.Settings.Interpolation

/-- Settings that terms refer to. -/
structure Surroundings where
  root : Content
  /-- what becomes of the value of a term, which is written in some way, at a place -/
  take : List Key → String → Result → Evaluation Result

/-- The value of a term at a place, behind the places of a chain of references. -/
def termValue (s : Surroundings) : Nat → List Key → List (List Key) → Term → Evaluation Result
  | 0, _, _, _ => raise "RecursionError" "maximum recursion depth exceeded"
  | depth + 1, owner, chain, t =>
    let source (chain : List (List Key)) (place : List Key) (text : String) : Evaluation Result :=
      if chain.any (Key.samePlace place) then refuse .recursive
      else match Term.ofText text with
        | .ok t => do s.take place text (← termValue s depth place (place :: chain) t)
        | .error cause => raise cause.kind cause.message
    let value (chain : List (List Key)) (place? : Option (List Key)) (c : Content) :
        Evaluation Result :=
      match place?, c.source? with
      | some place, some text => source chain place text
      | _, _ => .ok { content := c, place? := place? }
    let base := owner.dropLast
    let reference (key : String) : Evaluation Result := do
      ofFinding base key (← find s.root (value chain) base key)
    let scope : Scope :=
      ⟨(Key.trail owner).text, find s.root (value []) base, termValue s depth owner []⟩
    eval ⟨reference, call scope⟩ t

/-- How deep functions look settings up. -/
def maxDepth : Nat := 200

/-- The value of the term at a place. -/
def Surroundings.value (s : Surroundings) (place : List Key) (t : Term) : Evaluation Result :=
  termValue s maxDepth place [place] t

end Chip8.Settings.Interpolation
