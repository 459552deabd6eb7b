import Chip8.CallStack
import Chip8.Word
import Mathlib.Data.List.GetD

set_option autoImplicit false

/-! # The call stack remembers the sixteen most recent calls

The ring of return addresses against a plain list, the latest call first: pushing puts an address
in front and forgets the seventeenth, popping takes the head and finds a zero in the empty list.
Whatever is pushed and popped, and wherever the pointer starts, the popped addresses are those of
the list. `Holds` relates the two: below the pointer the ring holds the list, and every other slot
is zero. It is the zeros that make an underflow harmless, for the pointer goes on moving when the
list has nothing left. -/

namespace Chip8

/-- What can happen to a call stack. -/
inductive StackOp where
  | push (address : UInt16)
  | pop
deriving DecidableEq

namespace StackOp

/-- Whether an operation stores an address. -/
def isPush : StackOp → Bool
  | push _ => true
  | pop => false

/-- How far an operation moves the pointer. -/
def shift : StackOp → Int
  | push _ => 1
  | pop => -1

/-- How far a sequence of operations moves the pointer. -/
def totalShift (ops : List StackOp) : Int := ops.countP isPush - ops.countP (!isPush ·)

theorem totalShift_cons (op : StackOp) (ops : List StackOp) :
    totalShift (op :: ops) = op.shift + totalShift ops := by
  unfold totalShift
  rw [List.countP_cons, List.countP_cons]
  cases op with
  | push address =>
      show ((ops.countP isPush + 1 : Nat) : Int) - (ops.countP (!isPush ·) + 0 : Nat) = _
      rw [shift]
      omega
  | pop =>
      show ((ops.countP isPush + 0 : Nat) : Int) - (ops.countP (!isPush ·) + 1 : Nat) = _
      rw [shift]
      omega

end StackOp

namespace RecentCalls

/-- Put an address in front, and forget what is then the seventeenth. -/
def remember (calls : List UInt16) (address : UInt16) : List UInt16 :=
  (address % 4096 :: calls).take 16

/-- Take the latest address; without one there is a zero, and nothing changes. -/
def retrieve : List UInt16 → List UInt16 × UInt16
  | [] => ([], 0)
  | address :: calls => (calls, address)

/-- One operation: what it leaves, and what it gives if it is a pop. -/
def apply (calls : List UInt16) : StackOp → List UInt16 × List UInt16
  | .push address => (remember calls address, [])
  | .pop => ((retrieve calls).1, [(retrieve calls).2])

/-- Operations one after the other: what they leave, and what their pops gave. -/
def applyAll (calls : List UInt16) : List StackOp → List UInt16 × List UInt16
  | [] => (calls, [])
  | op :: ops =>
    let rest := applyAll (apply calls op).1 ops
    (rest.1, (apply calls op).2 ++ rest.2)

end RecentCalls

namespace CallStack

/-- One operation: the stack after it, and what it gives if it is a pop. -/
def apply (s : CallStack) : StackOp → CallStack × List UInt16
  | .push address => (s.push address, [])
  | .pop => (s.pop.1, [s.pop.2])

/-- Operations one after the other: the stack after them, and what their pops gave. -/
def applyAll (s : CallStack) : List StackOp → CallStack × List UInt16
  | [] => (s, [])
  | op :: ops =>
    let rest := (s.apply op).1.applyAll ops
    (rest.1, (s.apply op).2 ++ rest.2)

/-! ## The slots below the pointer -/

/-- The slot that the address pushed `k` calls before the latest one is in. -/
def below (s : CallStack) (k : Nat) : Fin 16 := slotOf (s.pointer - 1 - k)

theorem slotOf_val (slot : Fin 16) : slotOf slot.val = slot := by
  apply Fin.ext
  show ((slot.val : Int) % 16).toNat % 16 = slot.val
  omega

theorem below_injective (s : CallStack) {j k : Nat} (hj : j < 16) (hk : k < 16)
    (h : s.below j = s.below k) : j = k := by
  have h' := (slotOf_eq_iff _ _).1 h
  omega

theorem exists_below (s : CallStack) (slot : Fin 16) : ∃ k < 16, s.below k = slot := by
  refine ⟨((s.pointer - 1 - slot.val) % 16).toNat, by omega, ?_⟩
  rw [← slotOf_val slot]
  apply (slotOf_eq_iff _ _).2
  rw [slotOf_val]
  omega

theorem below_push_zero (s : CallStack) (address : UInt16) :
    (s.push address).below 0 = slotOf s.pointer := by
  apply (slotOf_eq_iff _ _).2
  rw [push_pointer]
  omega

theorem below_push_succ (s : CallStack) (address : UInt16) (k : Nat) :
    (s.push address).below (k + 1) = s.below k := by
  apply (slotOf_eq_iff _ _).2
  rw [push_pointer]
  omega

theorem below_pop (s : CallStack) (k : Nat) : s.pop.1.below k = s.below (k + 1) := by
  apply (slotOf_eq_iff _ _).2
  rw [pop_pointer]
  omega

theorem slotOf_pointer_ne_below (s : CallStack) {k : Nat} (hk : k < 15) :
    slotOf s.pointer ≠ s.below k := by
  intro h
  have h' := (slotOf_eq_iff _ _).1 h
  omega

/-! ## The ring holds the list -/

/-- The slots just below the pointer hold a list, the latest address first, and all others are
    zero. -/
structure Holds (s : CallStack) (calls : List UInt16) : Prop where
  length_le : calls.length ≤ 16
  held : ∀ k (h : k < calls.length), s.read (s.below k) = calls[k]
  cleared : ∀ slot, (∀ k < calls.length, s.below k ≠ slot) → s.read slot = 0

/-- Each slot is below the pointer at one distance, so reading at all sixteen distances settles
    the whole ring. -/
theorem holds_iff (s : CallStack) (calls : List UInt16) :
    Holds s calls ↔
      calls.length ≤ 16 ∧ ∀ k < 16, s.read (s.below k) = calls.getD k 0 := by
  constructor
  · intro h
    refine ⟨h.length_le, fun k hk => ?_⟩
    by_cases hlength : k < calls.length
    · rw [h.held k hlength, List.getD_eq_getElem _ _ hlength]
    · rw [List.getD_eq_default _ _ (by omega)]
      apply h.cleared
      intro j hj hbelow
      have hjk : j = k := s.below_injective (by have := h.length_le; omega) hk hbelow
      omega
  · rintro ⟨hlength, hread⟩
    refine ⟨hlength, fun k hk => ?_, fun slot hslot => ?_⟩
    · rw [hread k (by omega), List.getD_eq_getElem _ _ hk]
    · obtain ⟨k, hk, rfl⟩ := s.exists_below slot
      have hge : ¬ k < calls.length := fun hlt => hslot k hlt rfl
      rw [hread k hk, List.getD_eq_default _ _ (by omega)]

variable {s : CallStack} {calls : List UInt16}

theorem Holds.push (h : Holds s calls) (address : UInt16) :
    Holds (s.push address) (RecentCalls.remember calls address) := by
  obtain ⟨_, hread⟩ := (holds_iff s calls).1 h
  refine (holds_iff _ _).2 ⟨List.length_take_le .., fun k hk => ?_⟩
  cases k with
  | zero =>
      rw [below_push_zero, read_push, if_pos rfl, Word.and_mask_eq_mod]
      rfl
  | succ k =>
      rw [below_push_succ, read_push, if_neg (s.slotOf_pointer_ne_below (by omega)),
        hread k (by omega)]
      have htake : (calls.take 15)[k]? = calls[k]? := List.getElem?_take_of_lt (by omega)
      simp only [RecentCalls.remember, List.take_succ_cons, List.getD_eq_getElem?_getD,
        List.getElem?_cons_succ, htake]

theorem Holds.retrieve (h : Holds s calls) : s.pop.2 = (RecentCalls.retrieve calls).2 := by
  obtain ⟨_, hread⟩ := (holds_iff s calls).1 h
  have hlatest := hread 0 (by omega)
  rw [show s.below 0 = slotOf (s.pointer - 1) by simp [below]] at hlatest
  rw [pop_address, hlatest]
  cases calls <;> rfl

theorem Holds.pop (h : Holds s calls) : Holds s.pop.1 (RecentCalls.retrieve calls).1 := by
  obtain ⟨hlength, hread⟩ := (holds_iff s calls).1 h
  have htail : (RecentCalls.retrieve calls).1 = calls.tail := by cases calls <;> rfl
  rw [htail]
  refine (holds_iff _ _).2 ⟨by rw [List.length_tail]; omega, fun k hk => ?_⟩
  have hget : calls.tail.getD k 0 = calls.getD (k + 1) 0 := by
    simp only [List.getD_eq_getElem?_getD, List.getElem?_tail]
  rw [below_pop, read_pop, hget]
  by_cases hlast : k = 15
  · -- the cleared slot comes around as the one farthest below the new pointer
    subst hlast
    have hslot : slotOf (s.pointer - 1) = s.below 16 := (slotOf_eq_iff _ _).2 (by omega)
    rw [if_pos hslot, List.getD_eq_default _ _ (by omega)]
  · have hslot : slotOf (s.pointer - 1) ≠ s.below (k + 1) := by
      intro heq
      have heq' := (slotOf_eq_iff _ _).1 heq
      omega
    rw [if_neg hslot, hread (k + 1) (by omega)]

/-- A cleared stack holds the empty list, wherever its pointer is. -/
theorem holds_nil (pointer : Int) : Holds ⟨Vector.replicate 16 0, pointer⟩ [] := by
  refine (holds_iff _ _).2 ⟨by simp, fun k _ => ?_⟩
  exact Vector.getElem_replicate _

/-- One operation on the ring is one operation on the list. -/
theorem Holds.apply (h : Holds s calls) (op : StackOp) :
    (s.apply op).2 = (RecentCalls.apply calls op).2 ∧
      Holds (s.apply op).1 (RecentCalls.apply calls op).1 := by
  cases op with
  | push address => exact ⟨rfl, h.push address⟩
  | pop => exact ⟨congrArg (fun address => [address]) h.retrieve, h.pop⟩

theorem pointer_apply (s : CallStack) (op : StackOp) :
    (s.apply op).1.pointer = (s.pointer + op.shift) % 16 := by
  cases op with
  | push address => exact s.push_pointer address
  | pop => exact s.pop_pointer

/-! ## Sequences of operations -/

theorem Holds.applyAll (h : Holds s calls) (ops : List StackOp) :
    (s.applyAll ops).2 = (RecentCalls.applyAll calls ops).2 ∧
      Holds (s.applyAll ops).1 (RecentCalls.applyAll calls ops).1 := by
  induction ops generalizing s calls with
  | nil => exact ⟨rfl, h⟩
  | cons op ops ih =>
      obtain ⟨hpopped, hnext⟩ := h.apply op
      obtain ⟨hrest, hholds⟩ := ih hnext
      refine ⟨?_, hholds⟩
      simp only [CallStack.applyAll, RecentCalls.applyAll, hpopped, hrest]

/-- The pointer counts, modulo 16, from the first operation on; an empty sequence would leave a
    pointer outside the ring where it is. -/
theorem pointer_applyAll_cons (s : CallStack) (op : StackOp) (ops : List StackOp) :
    (s.applyAll (op :: ops)).1.pointer =
      (s.pointer + StackOp.totalShift (op :: ops)) % 16 := by
  induction ops generalizing s op with
  | nil =>
      rw [StackOp.totalShift_cons, show StackOp.totalShift [] = 0 from rfl, Int.add_zero]
      exact s.pointer_apply op
  | cons next ops ih =>
      rw [CallStack.applyAll, ih, pointer_apply, Int.emod_add_emod,
        StackOp.totalShift_cons op (next :: ops), Int.add_assoc]

/-- Whatever is pushed and popped on a cleared stack, the pops give what a list of the sixteen
    most recent calls gives, and the ring ends up holding that list. Once anything has happened
    the pointer is within the ring, as far from its start as there were more pushes than pops. -/
theorem applyAll_cleared (pointer : Int) (ops : List StackOp) :
    let start : CallStack := ⟨Vector.replicate 16 0, pointer⟩
    let final := (start.applyAll ops).1
    (start.applyAll ops).2 = (RecentCalls.applyAll [] ops).2 ∧
      Holds final (RecentCalls.applyAll [] ops).1 ∧
      (ops ≠ [] →
        final.pointer = (pointer + ops.countP (·.isPush) - ops.countP (!·.isPush)) % 16 ∧
          0 ≤ final.pointer ∧ final.pointer < 16) := by
  intro start final
  obtain ⟨hpopped, hholds⟩ := (holds_nil pointer).applyAll ops
  refine ⟨hpopped, hholds, fun hops => ?_⟩
  have hpointer :
      final.pointer = (pointer + ops.countP (·.isPush) - ops.countP (!·.isPush)) % 16 := by
    obtain ⟨op, rest, rfl⟩ := List.exists_cons_of_ne_nil hops
    rw [Int.add_sub_assoc]
    exact start.pointer_applyAll_cons op rest
  refine ⟨hpointer, ?_, ?_⟩
  · rw [hpointer]
    exact Int.emod_nonneg _ (by decide)
  · rw [hpointer]
    exact Int.emod_lt_of_pos _ (by decide)

/-- A pop from the empty stack at the least pointer, a call and its return, and one return more. -/
theorem applyAll_cleared_underflow :
    let ops : List StackOp := [.pop, .push 0xF234, .pop, .pop]
    let start : CallStack := ⟨Vector.replicate 16 0, -2147483648⟩
    let final := (start.applyAll ops).1
    ops ≠ [] ∧ (start.applyAll ops).2 = [0, 0x234, 0] ∧ Holds final [] ∧
      final.pointer = (-2147483648 + 1 - 3) % 16 ∧ 0 ≤ final.pointer ∧ final.pointer < 16 := by
  intro ops start final
  have hops : ops ≠ [] := List.cons_ne_nil _ _
  obtain ⟨hpopped, hholds, hpointer⟩ := applyAll_cleared (-2147483648) ops
  exact ⟨hops, hpopped.trans (by decide), hholds, hpointer hops⟩

end CallStack

end Chip8
