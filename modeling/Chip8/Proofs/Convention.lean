import Chip8.Proofs.Encoding
import Chip8.Proofs.Footprint
import Chip8.Proofs.Lockstep

set_option autoImplicit false

/-! # Where the conventions differ

Modern and classic machines treat a few words differently, and all others alike: logic operations
(`8XY1`, `8XY2`, `8XY3`) clear the flag on classic machines only, shifts (`8XY6`, `8XYE`) take
another operand unless `X` and `Y` are the same register, indexed jumps (`BXNN`) another register
unless `X` is 0, and register blocks (`FX55`, `FX65`) leave another index. An instruction that is
none of these commutes with a change of the mode (`perform_under`), so a program that meets none of
them runs the same in both modes. -/

namespace Chip8

/-- The words whose effect depends on the mode: `8XY1`, `8XY2` and `8XY3`, `8XY6` and `8XYE` where
    `X` and `Y` differ, `BXNN` where `X` is not 0, `FX55` and `FX65`. -/
def Word.DependsOnMode (w : Word) : Prop :=
  Word.opcode w = 0x8 ∧ (Word.n w = 0x1 ∨ Word.n w = 0x2 ∨ Word.n w = 0x3) ∨
    Word.opcode w = 0x8 ∧ (Word.n w = 0x6 ∨ Word.n w = 0xE) ∧ Word.x w ≠ Word.y w ∨
    Word.opcode w = 0xB ∧ Word.x w ≠ 0 ∨
    Word.opcode w = 0xF ∧ (Word.nn w = 0x55 ∨ Word.nn w = 0x65)

instance (w : Word) : Decidable (Word.DependsOnMode w) := inferInstanceAs (Decidable (_ ∨ _))

/-- The variants of `8XYN` that consult the mode, on the registers `x` and `y`. -/
def AluOp.DependsOnMode (op : AluOp) (x y : Fin 16) : Prop :=
  match op with
  | or | and | xor => True
  | shiftRight | shiftLeft => x ≠ y
  | set | add | sub | subFrom => False

/-- The instructions that consult the mode. -/
def Instruction.DependsOnMode : Instruction → Prop
  | alu op x y => op.DependsOnMode x y
  | jumpWithOffset x _ => x ≠ 0
  | storeRegisters _ | loadRegisters _ => True
  | _ => False

/-! ## From words to instructions -/

theorem Word.dependsOnMode_of_decode {w : Word} (h : (Instruction.decode w).DependsOnMode) :
    Word.DependsOnMode w := by
  have hencoded : (Instruction.decode w).EncodedBy w := by
    apply Instruction.encodedBy_decode
    intro hunknown
    rw [hunknown] at h
    exact h
  cases hdecode : Instruction.decode w with
  | alu op x y =>
      rw [hdecode] at h hencoded
      obtain ⟨hopcode, hop, rfl, rfl⟩ := hencoded
      rw [AluOp.ofDigit?_eq_some_iff] at hop
      cases op with
      | or => exact Or.inl ⟨hopcode, Or.inl hop⟩
      | and => exact Or.inl ⟨hopcode, Or.inr (Or.inl hop)⟩
      | xor => exact Or.inl ⟨hopcode, Or.inr (Or.inr hop)⟩
      | shiftRight => exact Or.inr (Or.inl ⟨hopcode, Or.inl hop, h⟩)
      | shiftLeft => exact Or.inr (Or.inl ⟨hopcode, Or.inr hop, h⟩)
      | set | add | sub | subFrom => exact h.elim
  | jumpWithOffset x target =>
      rw [hdecode] at h hencoded
      obtain ⟨hopcode, rfl, rfl⟩ := hencoded
      exact Or.inr (Or.inr (Or.inl ⟨hopcode, h⟩))
  | storeRegisters x =>
      rw [hdecode] at hencoded
      obtain ⟨hopcode, hnn, rfl⟩ := hencoded
      exact Or.inr (Or.inr (Or.inr ⟨hopcode, Or.inl hnn⟩))
  | loadRegisters x =>
      rw [hdecode] at hencoded
      obtain ⟨hopcode, hnn, rfl⟩ := hencoded
      exact Or.inr (Or.inr (Or.inr ⟨hopcode, Or.inr hnn⟩))
  | _ =>
      rw [hdecode] at h
      exact h.elim

/-! ## One instruction -/

/-- A variant that does not consult the mode has the same result in both. A shift of a register
    into itself has the same operand either way. -/
theorem AluOp.evaluate_mode {op : AluOp} {x y : Fin 16} (h : ¬ op.DependsOnMode x y)
    (registers : Fin 16 → UInt8) (modern modern' : Bool) :
    op.evaluate modern (registers x) (registers y) =
      op.evaluate modern' (registers x) (registers y) := by
  cases op with
  | or | and | xor => exact absurd trivial h
  | shiftRight | shiftLeft =>
      have hsame : x = y := not_not.1 h
      simp only [evaluate, hsame, ite_self]
  | set | add | sub | subFrom => rfl

namespace State

variable {s : State} {c : Config}

theorem skipIf_under (s : State) (c : Config) (holds : Bool) :
    (s.under c).skipIf holds = (s.skipIf holds).under c := by
  cases holds <;> rfl

theorem applyAlu_under {op : AluOp} {x y : Fin 16} (h : ¬ op.DependsOnMode x y) :
    (s.under c).applyAlu op x y = (s.applyAlu op x y).under c := by
  have hresult : op.evaluate c.modern (s.reg x) (s.reg y) =
      op.evaluate s.config.modern (s.reg x) (s.reg y) :=
    AluOp.evaluate_mode h s.reg c.modern s.config.modern
  simp only [applyAlu, reg_under, config_under, hresult]
  generalize op.evaluate s.config.modern (s.reg x) (s.reg y) = result
  rcases result with ⟨value, _ | flag⟩
  · rfl
  · rfl

theorem awaitKey_under (s : State) (c : Config) (x : Fin 16) :
    (s.under c).awaitKey x = (s.awaitKey x).under c := by
  have hkeypad : (s.under c).keypad = s.keypad := rfl
  unfold awaitKey
  rw [hkeypad]
  cases s.keypad.lowest? <;> rfl

/-- Whether a draw reports collisions is up to the profile, not to the mode. -/
theorem draw_under (h : c.extended = s.config.extended) (x y height : Fin 16) :
    (s.under c).draw x y height = (s.draw x y height).under c := by
  have hextended : (s.under c).config.extended = s.config.extended := h
  unfold draw
  rw [hextended]
  split <;> rfl

/-- An instruction that does not consult the mode does the same in both modes. -/
theorem perform_under (hprofile : c.extended = s.config.extended) {i : Instruction}
    (h : ¬ i.DependsOnMode) : (s.under c).perform i = (s.perform i).under c := by
  cases i with
  | alu op x y => exact applyAlu_under h
  | drawSprite x y height => exact draw_under hprofile x y height
  | waitForKey x => exact s.awaitKey_under c x
  | jumpWithOffset x target =>
      have hx : x = 0 := not_not.1 h
      -- both modes add V0
      simp only [perform, hx, ite_self]
      rfl
  | storeRegisters x | loadRegisters x => exact absurd trivial h
  | skipIfEqual | skipIfNotEqual | skipIfRegistersEqual | skipIfRegistersNotEqual | skipIfHeld
  | skipIfReleased => exact s.skipIf_under c _
  | _ => rfl

theorem executes_of_sameProfile {c d : Config} (h : c.extended = d.extended) (i : Instruction) :
    c.executes i = d.executes i := by
  simp only [Config.executes, Config.supports, h]

theorem execute_under (hprofile : c.extended = s.config.extended) {i : Instruction}
    (h : ¬ i.DependsOnMode) : (s.under c).execute i = (s.execute i).under c := by
  unfold execute
  rw [config_under, executes_of_sameProfile hprofile i]
  split
  · exact perform_under hprofile h
  · rfl

/-! ## Cycles and runs -/

theorem nextCycle_under (hprofile : c.extended = s.config.extended) :
    (s.under c).nextCycle = s.nextCycle := by
  have hword : (s.under c).nextWord = s.nextWord := rfl
  simp only [nextCycle, hword, config_under, executes_of_sameProfile hprofile]
  rfl

theorem afterCycle_under (hprofile : c.extended = s.config.extended)
    (h : ¬ Word.DependsOnMode s.nextCycle.word) :
    (s.under c).afterCycle = s.afterCycle.under c := by
  have hdecode : ¬ (Instruction.decode s.nextWord).DependsOnMode :=
    fun hdecode => h (Word.dependsOnMode_of_decode hdecode)
  have hprofile : c.extended = s.fetch.1.config.extended := hprofile
  exact execute_under hprofile hdecode

/-- Whatever the machine contains: if the extended run of `n` cycles in one mode meets no word
    whose effect depends on the mode, the run in the other mode has the same trace and ends in the
    same state, but for the mode itself. -/
theorem trace_eq_in_both_modes (s : State) (modern modern' : Bool) (n : Nat)
    (h : ∀ c ∈ ((s.under ⟨.extended, modern⟩).trace n).cycles, ¬ Word.DependsOnMode c.word) :
    ((s.under ⟨.extended, modern'⟩).trace n).cycles =
        ((s.under ⟨.extended, modern⟩).trace n).cycles ∧
      ((s.under ⟨.extended, modern'⟩).trace n).state =
        ((s.under ⟨.extended, modern⟩).trace n).state.under ⟨.extended, modern'⟩ := by
  let related (s t : State) : Prop :=
    s.config.extended = true ∧ t = s.under ⟨.extended, modern'⟩
  have step : ∀ s t, related s t → ¬ Word.DependsOnMode s.nextCycle.word →
      t.nextCycle = s.nextCycle ∧ related s.afterCycle t.afterCycle := by
    rintro s t ⟨hextended, rfl⟩ hword
    refine ⟨nextCycle_under hextended.symm, ?_, afterCycle_under hextended.symm hword⟩
    rw [config_afterCycle, hextended]
  obtain ⟨hcycles, -, hstate⟩ := trace_lockstep_eq step ⟨rfl, rfl⟩ n h
  exact ⟨hcycles, hstate⟩

/-- A modern machine and a classic one shift V1 in place, jump by V0, add, draw and count on
    together. -/
theorem trace_eq_in_both_modes_shifts :
    let s : State := { initial ⟨.extended, true⟩ .zero with
      memory := (Memory.zero.writeBlock 0x200
        [0x61, 0x85, 0x81, 0x16, 0x81, 0x1E, 0x60, 0x02, 0xB0, 0xA0]).writeBlock 0x0A2
        [0xD0, 0x15, 0x81, 0x04] }
    let modern := (s.under ⟨.extended, true⟩).trace 7
    let classic := (s.under ⟨.extended, false⟩).trace 7
    (∀ c ∈ modern.cycles, ¬ Word.DependsOnMode c.word) ∧
      classic.cycles = modern.cycles ∧ classic.state = modern.state.under ⟨.extended, false⟩ := by
  intro s modern classic
  have h : ∀ c ∈ modern.cycles, ¬ Word.DependsOnMode c.word := by decide +kernel
  exact ⟨h, trace_eq_in_both_modes s true false 7 h⟩

end State

end Chip8
