import Chip8.Proofs.WriteSet

set_option autoImplicit false

/-! # What holds of every reachable state

`Reachable` is every state that a fresh machine comes to by operations of its host and of its
programs, in any order (`State.Next`). All of them are well formed: a pixel is 0 or 1, the stack
pointer names a slot, return addresses have twelve bits, and so has the index, unless the extended
profile follows the classic conventions. No operation does harm to these properties
(`WellFormed.next`); among instructions, only drawing, calls and returns and the five that set the
index touch what they speak of. The exception is real: on those machines the index comes to any
value whatever (`exists_index_eq`). -/

namespace Chip8

/-! ## The screen -/

/-- Every pixel is lit or dark, and nothing else. -/
def Screen.IsBinary (s : Screen) : Prop := ∀ row col, s.pixel row col = 0 ∨ s.pixel row col = 1

namespace Screen

theorem isBinary_blank : blank.IsBinary := fun row col => Or.inl (pixel_blank row col)

theorem IsBinary.flip {s layer : Screen} (hs : s.IsBinary) (hlayer : layer.IsBinary) :
    (s.flip layer).IsBinary := by
  intro row col
  rw [pixel_flip]
  rcases hs row col with hpixel | hpixel <;> rcases hlayer row col with hlit | hlit <;>
    rw [hpixel, hlit] <;> decide

/-- A pixel of a layer is one bit of the sprite or none. -/
theorem isBinary_layer (memory : Memory) (address height left top : Nat) :
    (Sprite.layer memory address height left top).IsBinary := by
  intro row col
  rw [Sprite.layer, pixel_ofPixels]
  dsimp only
  split
  · exact Sprite.bit_eq _ _
  · exact Or.inl rfl

end Screen

/-! ## The call stack -/

/-- The pointer names a slot, and every slot holds an address of twelve bits. -/
structure CallStack.WellFormed (s : CallStack) : Prop where
  pointer : 0 ≤ s.pointer ∧ s.pointer < 16
  slots : ∀ k, s.read k ≤ 0xFFF

theorem Word.and_mask_le (a : UInt16) : a &&& 0xFFF ≤ 0xFFF := by
  rw [UInt16.le_iff_toNat_le, toNat_and_mask]
  exact Nat.le_of_lt_succ (Nat.mod_lt _ (by decide))

theorem Word.nnn_le (w : Word) : nnn w ≤ 0xFFF := by
  rw [UInt16.le_iff_toNat_le, toNat_nnn]
  exact Nat.le_of_lt_succ (Nat.mod_lt _ (by decide))

namespace CallStack

theorem wellFormed_empty : empty.WellFormed where
  pointer := by decide
  slots := by decide

theorem WellFormed.push {s : CallStack} (h : s.WellFormed) (address : UInt16) :
    (s.push address).WellFormed where
  pointer := ⟨Int.emod_nonneg _ (by decide), Int.emod_lt_of_pos _ (by decide)⟩
  slots := by
    intro k
    rw [read_push]
    split
    · exact Word.and_mask_le address
    · exact h.slots k

theorem WellFormed.pop {s : CallStack} (h : s.WellFormed) : s.pop.1.WellFormed where
  pointer := ⟨Int.emod_nonneg _ (by decide), Int.emod_lt_of_pos _ (by decide)⟩
  slots := by
    intro k
    rw [read_pop]
    split
    · decide
    · exact h.slots k

end CallStack

namespace State

/-! ## The index -/

/-- Only the extended profile has instructions outside the core. -/
theorem extended_of_executes {c : Config} {i : Instruction} (h : c.executes i = true)
    (hcore : i.operation.isCore = false) : c.extended = true := by
  by_contra hextended
  rw [Config.executes, Config.supports, if_neg hextended, hcore] at h
  exact Bool.false_ne_true h

/-- Outside the classic extended machines, register blocks leave the index where it was. -/
theorem indexPast_eq {s : State} (hconfig : s.config ≠ ⟨.extended, false⟩)
    (hextended : s.config.extended = true) (x : Fin 16) : s.indexPast x = s.index := by
  have hset : s.config.instructionSet = .extended := of_decide_eq_true hextended
  have hmodern : s.config.modern = true := by
    rw [← Bool.not_eq_false]
    intro hclassic
    apply hconfig
    rw [← hset, ← hclassic]
  exact if_pos hmodern

theorem glyphAddress_le (key : Fin 16) :
    UInt16.ofNat (Font.start + key.val * Font.glyphSize) ≤ 0xFFF := by
  revert key
  decide

/-- What an executed word makes of an index of twelve bits. -/
theorem index_perform_le {s : State} {w : Word} {i : Instruction} (hencoded : i.EncodedBy w)
    (hexecutes : s.config.executes i = true) (hconfig : s.config ≠ ⟨.extended, false⟩)
    (hindex : s.index ≤ 0xFFF) : (s.perform i).index ≤ 0xFFF := by
  cases i with
  | loadIndex address =>
      obtain ⟨-, rfl⟩ := hencoded
      exact Word.nnn_le w
  | addToIndex x => exact Word.and_mask_le _
  | selectGlyph x => exact glyphAddress_le _
  | storeRegisters x | loadRegisters x =>
      show s.indexPast x ≤ 0xFFF
      rw [indexPast_eq hconfig (extended_of_executes hexecutes rfl)]
      exact hindex
  | _ =>
      rw [(s.covers_perform _).index_eq id]
      exact hindex

/-! ## All operations -/

/-- Pixels, call stack and index are as they should be. The index may have more than twelve bits
    where the extended profile follows the classic conventions. -/
structure WellFormed (s : State) : Prop where
  screen : s.screen.IsBinary
  stack : s.stack.WellFormed
  index : s.config ≠ ⟨.extended, false⟩ → s.index ≤ 0xFFF

/-- One operation of the host or of a program takes a state to another. -/
inductive Next : State → State → Prop where
  | reset (s : State) : Next s s.reset
  | load {s t : State} (program : List UInt8) (size? : Option Int)
      (h : s.load program size? = .ok t) : Next s t
  | clearScreen (s : State) : Next s s.clearScreen
  | setKey {s t : State} (key : Int) (pressed : Bool) (h : s.setKey key pressed = .ok t) : Next s t
  | tick (s : State) : Next s s.tick
  | fetch (s : State) : Next s s.fetch.1
  | execute (s : State) (w : Word) : Next s (s.executeWord w)
  | step (s : State) : Next s s.step.1
  | run (s : State) (n : Nat) : Next s (s.run n).1
  | push (s : State) (address : UInt16) : Next s { s with stack := s.stack.push address }
  | pop (s : State) : Next s { s with stack := s.stack.pop.1 }

variable {s t : State}

theorem wellFormed_initial (config : Config) (rng : RandomKey) :
    (initial config rng).WellFormed where
  screen := Screen.isBinary_blank
  stack := CallStack.wellFormed_empty
  index := fun _ => (by decide : (0 : UInt16) ≤ 0xFFF)

namespace WellFormed

theorem perform {w : Word} {i : Instruction} (h : s.WellFormed) (hencoded : i.EncodedBy w)
    (hexecutes : s.config.executes i = true) : (s.perform i).WellFormed where
  screen := by
    cases i with
    | clearScreen => exact Screen.isBinary_blank
    | drawSprite x y height =>
        rw [State.perform, draw_eq]
        exact h.screen.flip (Screen.isBinary_layer _ _ _ _ _)
    | _ =>
        rw [(s.covers_perform _).screen_eq id]
        exact h.screen
  stack := by
    cases i with
    | call target => exact h.stack.push s.pc
    | ret => exact h.stack.pop
    | _ =>
        rw [(s.covers_perform _).stack_eq id]
        exact h.stack
  index := by
    rw [config_perform]
    intro hconfig
    exact index_perform_le hencoded hexecutes hconfig (h.index hconfig)

theorem executeWord (h : s.WellFormed) (w : Word) : (s.executeWord w).WellFormed := by
  rcases s.executeWord_cases w with hleft | ⟨i, hencoded, hexecutes, hperform⟩
  · rwa [hleft]
  · rw [hperform]
    exact h.perform hencoded hexecutes

theorem fetch (h : s.WellFormed) : s.fetch.1.WellFormed := ⟨h.screen, h.stack, h.index⟩

theorem afterCycle (h : s.WellFormed) : s.afterCycle.WellFormed := h.fetch.executeWord _

theorem trace (h : s.WellFormed) (n : Nat) : (s.trace n).state.WellFormed := by
  induction n generalizing s with
  | zero => exact h
  | succ n ih =>
      rw [trace_succ]
      exact ih h.afterCycle

/-- Every operation keeps a state well formed. -/
theorem next (h : s.WellFormed) (hnext : s.Next t) : t.WellFormed := by
  cases hnext with
  | reset => exact wellFormed_initial _ _
  | load program size? hload =>
      rw [eq_of_load hload]
      have hreset := wellFormed_initial s.config s.rng
      exact ⟨hreset.screen, hreset.stack, hreset.index⟩
  | clearScreen => exact ⟨Screen.isBinary_blank, h.stack, h.index⟩
  | setKey key pressed hkey =>
      rw [eq_of_setKey hkey]
      exact ⟨h.screen, h.stack, h.index⟩
  | tick => exact ⟨h.screen, h.stack, h.index⟩
  | fetch => exact h.fetch
  | execute w => exact h.executeWord w
  | step => exact h.afterCycle
  | run n => exact h.trace n
  | push address => exact ⟨h.screen, h.stack.push address, h.index⟩
  | pop => exact ⟨h.screen, h.stack.pop, h.index⟩

end WellFormed

theorem config_trace (s : State) (n : Nat) : (s.trace n).state.config = s.config := by
  induction n generalizing s with
  | zero => rfl
  | succ n ih =>
      rw [trace_succ]
      exact (ih s.afterCycle).trans s.config_afterCycle

/-- No operation changes the configuration. -/
theorem Next.config_eq (hnext : s.Next t) : t.config = s.config := by
  cases hnext with
  | load program size? hload => rw [eq_of_load hload]; rfl
  | setKey key pressed hkey => rw [eq_of_setKey hkey]
  | execute w => exact s.config_execute _
  | step => exact s.config_afterCycle
  | run n => exact s.config_trace n
  | _ => rfl

/-- On a classic extended machine, `F055` moves the index on by one. -/
theorem index_executeWord_storeRegisters (h : s.config = ⟨.extended, false⟩) :
    (s.executeWord 0xF055).index = s.index + 1 := by
  have hdecode : Instruction.decode 0xF055 = .storeRegisters 0 := rfl
  have hexecutes : s.config.executes (.storeRegisters 0) = true := by
    rw [h]
    rfl
  rw [executeWord, execute, hdecode, if_pos hexecutes]
  show s.indexPast 0 = s.index + 1
  rw [indexPast, h]
  rfl

end State

/-! ## Reachable states -/

/-- The states that a fresh machine comes to. -/
inductive Reachable (config : Config) (rng : RandomKey) : State → Prop where
  | initial : Reachable config rng (State.initial config rng)
  | next {s t : State} : Reachable config rng s → s.Next t → Reachable config rng t

namespace Reachable

variable {config : Config} {rng : RandomKey} {s : State}

theorem config_eq (h : Reachable config rng s) : s.config = config := by
  induction h with
  | initial => rfl
  | next _ hnext ih => rw [hnext.config_eq, ih]

/-- In every reachable state, whatever the configuration and the random stream, every pixel is 0 or
    1, the stack pointer is in 0 … 15, every slot of the stack is at most 0xFFF, and so is the
    index, unless the configuration is the extended profile with classic conventions. -/
theorem wellFormed (h : Reachable config rng s) :
    (∀ row col, s.screen.pixel row col = 0 ∨ s.screen.pixel row col = 1) ∧
      (0 ≤ s.stack.pointer ∧ s.stack.pointer < 16) ∧
      (∀ k, s.stack.read k ≤ 0xFFF) ∧
      (config ≠ ⟨.extended, false⟩ → s.index ≤ 0xFFF) := by
  have hwell : s.WellFormed := by
    induction h with
    | initial => exact State.wellFormed_initial config rng
    | next _ hnext ih => exact ih.next hnext
  refine ⟨hwell.screen, hwell.stack.pointer, hwell.stack.slots, fun hconfig => ?_⟩
  exact hwell.index (by rw [h.config_eq]; exact hconfig)

/-- A sprite drawn over the lower right corner after `FX1E` wrapped the index, and a pop from the
    empty stack. -/
theorem wellFormed_drawn :
    let config : Config := ⟨.extended, true⟩
    let program : List UInt8 := [0x60, 0xFF, 0xAF, 0xFF, 0xF0, 0x1E, 0xD0, 0x0F]
    let loaded : State :=
      { State.initial config .zero with memory := State.initialMemory.writeBlock 0x200 program }
    let drawn : State := (loaded.run 4).1
    let s : State := { drawn with stack := drawn.stack.pop.1 }
    Reachable config .zero s ∧
      (∀ row col, s.screen.pixel row col = 0 ∨ s.screen.pixel row col = 1) ∧
      (0 ≤ s.stack.pointer ∧ s.stack.pointer < 16) ∧
      (∀ k, s.stack.read k ≤ 0xFFF) ∧
      s.index ≤ 0xFFF := by
  intro config program loaded drawn s
  have hload : (State.initial config .zero).load program none = .ok loaded := rfl
  have hloaded : Reachable config .zero loaded := initial.next (.load program none hload)
  have hs : Reachable config .zero s := (hloaded.next (.run loaded 4)).next (.pop drawn)
  obtain ⟨hscreen, hpointer, hslots, hindex⟩ := hs.wellFormed
  exact ⟨hs, hscreen, hpointer, hslots, hindex (by decide)⟩

/-- The exception is needed: on a classic extended machine the index comes to any value. -/
theorem exists_index_eq (rng : RandomKey) (value : UInt16) :
    ∃ s, Reachable ⟨.extended, false⟩ rng s ∧ s.index = value := by
  have hcount : ∀ n : Nat, ∃ s, Reachable ⟨.extended, false⟩ rng s ∧ s.index = UInt16.ofNat n := by
    intro n
    induction n with
    | zero => exact ⟨_, initial, rfl⟩
    | succ n ih =>
        obtain ⟨s, hs, hindex⟩ := ih
        refine ⟨_, hs.next (.execute s 0xF055), ?_⟩
        rw [State.index_executeWord_storeRegisters hs.config_eq, hindex, UInt16.ofNat_add]
        rfl
  obtain ⟨s, hs, hindex⟩ := hcount value.toNat
  exact ⟨s, hs, by rw [hindex, UInt16.ofNat_toNat]⟩

end Reachable

end Chip8
