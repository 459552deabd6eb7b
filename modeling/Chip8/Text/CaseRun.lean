set_option autoImplicit false

/-! # Runs of letters

Case mappings are given as runs of code points: within a run every first or every second code point
moves by the same distance. -/

namespace Chip8.Text

/-- A run of code points, from `first` to `last` in steps of `step`, that all move by `shift`. -/
structure CaseRun where
  first : Nat
  last : Nat
  step : Nat
  shift : Int

namespace CaseRun

/-- Whether a code point belongs to a run. -/
def covers (r : CaseRun) (code : Nat) : Bool :=
  r.first ≤ code && code ≤ r.last && (code - r.first) % r.step == 0

/-- The code point at a distance from another. -/
def shifted (code : Nat) (shift : Int) : Char := Char.ofNat ((code : Int) + shift).toNat

/-- A character moved by the run that covers it, if there is one. -/
def move? (runs : List CaseRun) (c : Char) : Option Char :=
  (runs.find? (·.covers c.toNat)).map fun r => shifted c.toNat r.shift

end CaseRun

end Chip8.Text
