set_option autoImplicit false

/-! # Hexadecimal digits

Registers, keys and the slots of the call stack are numbered by one hexadecimal digit each. What
there is sixteen of is a vector that is read and written at a digit. -/

namespace Chip8.Digit

instance neZero : @NeZero Nat Zero.ofOfNat0 16 := ⟨by decide⟩

theorem lt (k : Fin 16) : k.val < 16 := k.isLt

/-- Read a vector after a write: the new content at the digit, the old one elsewhere. -/
theorem get_set {α : Type} (v : Vector α 16) (k other : Fin 16) (x : α) :
    (v.set k.val x (lt k)).get other = if k = other then x else v.get other := by
  show (v.set k.val x (lt k))[other.val] = if k = other then x else v[other.val]
  simp only [Vector.getElem_set, Fin.ext_iff]

end Chip8.Digit
