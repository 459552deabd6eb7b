import Chip8.Digit

set_option autoImplicit false

/-! # The call stack

Sixteen slots for return addresses, used as a ring: the pointer names the next free slot and moves
modulo 16, so a seventeenth push overwrites the oldest entry and a pop from an empty stack reads a
slot that was cleared before. The pointer may be any integer at first; every push and pop brings
it into 0 … 15. -/

namespace Chip8

/-- The ring of return addresses and its pointer. -/
structure CallStack where
  slots : Vector UInt16 16
  pointer : Int
deriving DecidableEq

namespace CallStack

/-- How many return addresses are kept. -/
def size : Nat := 16

/-- All slots zero, the pointer at slot 0. -/
def empty : CallStack := ⟨Vector.replicate 16 0, 0⟩

/-- The slot that a position names, modulo 16. -/
def slotOf (position : Int) : Fin 16 := Fin.ofNat 16 (position % 16).toNat

/-- The contents of a slot. -/
def read (s : CallStack) (k : Fin 16) : UInt16 := s.slots.get k

/-- Store an address, reduced to 12 bits, in the slot at the pointer and move the pointer up. -/
def push (s : CallStack) (address : UInt16) : CallStack where
  slots := s.slots.set (slotOf s.pointer).val (address &&& 0xFFF) (Digit.lt _)
  pointer := (s.pointer + 1) % 16

/-- Move the pointer down, take the address there and clear its slot. -/
def pop (s : CallStack) : CallStack × UInt16 :=
  let pointer := (s.pointer - 1) % 16
  let slot := slotOf pointer
  (⟨s.slots.set slot.val 0 (Digit.lt slot), pointer⟩, s.read slot)

/-! ## The slots after a push and a pop -/

theorem read_push (s : CallStack) (address : UInt16) (k : Fin 16) :
    (s.push address).read k = if slotOf s.pointer = k then address &&& 0xFFF else s.read k :=
  Digit.get_set s.slots (slotOf s.pointer) k (address &&& 0xFFF)

theorem slotOf_emod (position : Int) : slotOf (position % 16) = slotOf position := by
  rw [slotOf, slotOf, Int.emod_emod]

theorem slotOf_eq_iff (i j : Int) : slotOf i = slotOf j ↔ i % 16 = j % 16 := by
  have h : (slotOf i).val = (i % 16).toNat % 16 ∧ (slotOf j).val = (j % 16).toNat % 16 := ⟨rfl, rfl⟩
  rw [Fin.ext_iff, h.1, h.2]
  omega

theorem read_pop (s : CallStack) (k : Fin 16) :
    s.pop.1.read k = if slotOf (s.pointer - 1) = k then 0 else s.read k := by
  rw [← slotOf_emod (s.pointer - 1)]
  exact Digit.get_set s.slots (slotOf ((s.pointer - 1) % 16)) k 0

theorem pop_address (s : CallStack) : s.pop.2 = s.read (slotOf (s.pointer - 1)) := by
  rw [← slotOf_emod (s.pointer - 1)]
  rfl

/-! ## Where the pointer goes -/

theorem push_pointer (s : CallStack) (address : UInt16) :
    (s.push address).pointer = (s.pointer + 1) % 16 := rfl

theorem pop_pointer (s : CallStack) : s.pop.1.pointer = (s.pointer - 1) % 16 := rfl

end CallStack

end Chip8
