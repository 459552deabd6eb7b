import Chip8.Digit

set_option autoImplicit false

/-! # The keypad

Sixteen keys, each held or not. -/

namespace Chip8

/-- Which keys are held. -/
structure Keypad where
  held : Vector Bool 16
deriving DecidableEq

namespace Keypad

/-- How many keys there are. -/
def size : Nat := 16

/-- No key is held. -/
def released : Keypad := ⟨Vector.replicate 16 false⟩

/-- Whether a key is held. -/
def isHeld (p : Keypad) (key : Fin 16) : Bool := p.held.get key

/-- Mark a key as held or released. -/
def set (p : Keypad) (key : Fin 16) (pressed : Bool) : Keypad :=
  ⟨p.held.set key.val pressed (Digit.lt key)⟩

/-- The held key with the smallest number. -/
def lowest? (p : Keypad) : Option (Fin 16) := (List.finRange 16).find? p.isHeld

/-- The key that an integer names. -/
def key? (k : Int) : Option (Fin 16) :=
  if 0 ≤ k ∧ k < 16 then some (Fin.ofNat 16 k.toNat) else none

theorem lowest?_eq_none_iff (p : Keypad) : p.lowest? = none ↔ ∀ key, p.isHeld key = false := by
  simp [lowest?, List.find?_eq_none]

end Keypad

end Chip8
