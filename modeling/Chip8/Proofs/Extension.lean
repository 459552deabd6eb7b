import Chip8.Proofs.Encoding
import Chip8.Proofs.Footprint
import Chip8.Proofs.Lockstep

set_option autoImplicit false

/-! # The extended profile extends the core profile

A program that the core profile executes without skipping anything runs the same under the
extended profile, as long as it never looks at VF. The two machines may come to differ in VF, for
only the extended one reports collisions there (`FlagEquiv`). Of the core instructions `3XNN` and
`DXYN` read registers, and `7XNN` does so to write the same one again, so that what is in VF stays
there. -/

namespace Chip8

/-- The words `3FNN`, `DFYN` and `DXFN`. -/
def Word.ReadsFlag (w : Word) : Prop :=
  Word.opcode w = 0x3 ∧ Word.x w = 0xF ∨
    Word.opcode w = 0xD ∧ (Word.x w = 0xF ∨ Word.y w = 0xF)

instance (w : Word) : Decidable (Word.ReadsFlag w) := inferInstanceAs (Decidable (_ ∨ _))

/-- The cycles that both profiles run alike. -/
def Cycle.IsShared (c : Cycle) : Prop := c.outcome = .executed ∧ ¬ Word.ReadsFlag c.word

/-- The extended profile executes what the core profile does. -/
theorem Config.executes_of_core {c d : Config} (hc : c.extended = false) (hd : d.extended = true)
    {i : Instruction} (h : c.executes i = true) :
    i.operation.isCore = true ∧ d.executes i = true := by
  simp only [executes, supports, hc, hd, Bool.and_eq_true, decide_eq_true_eq,
    if_true, Bool.false_eq_true, if_false] at h ⊢
  obtain ⟨hcore, hassigned⟩ := h
  refine ⟨hcore, fun hunknown => ?_, hassigned⟩
  rw [hunknown] at hcore
  exact absurd hcore (by decide)

namespace State

/-- Equal states, but for the configuration and the flag register. -/
structure FlagEquiv (s t : State) : Prop where
  others : { s with config := t.config, registers := t.registers } = t
  registers : ∀ r, r ≠ flagRegister → s.reg r = t.reg r

variable {s t : State}

/-! ## One instruction -/

/-- Writing the same to a register keeps the equivalence; to VF, anything may be written. -/
theorem FlagEquiv.setReg (h : FlagEquiv s t) (x : Fin 16) {a b : UInt8}
    (hab : x ≠ flagRegister → a = b) : FlagEquiv (s.setReg x a) (t.setReg x b) := by
  refine ⟨?_, fun r hr => ?_⟩
  · rw [← h.others]
    rfl
  · rw [reg_setReg, reg_setReg]
    by_cases hx : x = r
    · rw [if_pos hx, if_pos hx, hab (hx ▸ hr)]
    · rw [if_neg hx, if_neg hx, h.registers r hr]

theorem FlagEquiv.setFlag_left (h : FlagEquiv s t) (flag : UInt8) :
    FlagEquiv (s.setReg flagRegister flag) t := by
  refine ⟨h.others, fun r hr => ?_⟩
  rw [reg_setReg, if_neg hr.symm, h.registers r hr]

theorem FlagEquiv.setFlag_right (h : FlagEquiv s t) (flag : UInt8) :
    FlagEquiv s (t.setReg flagRegister flag) := by
  refine ⟨?_, fun r hr => ?_⟩
  · rw [← h.others]
    rfl
  · rw [reg_setReg, if_neg hr.symm, h.registers r hr]

theorem FlagEquiv.draw (h : FlagEquiv s t) {x y : Fin 16} (height : Fin 16)
    (hx : x ≠ flagRegister) (hy : y ≠ flagRegister) :
    FlagEquiv (s.draw x y height) (t.draw x y height) := by
  have hlayer : s.spriteLayer x y height = t.spriteLayer x y height := by
    unfold spriteLayer
    rw [h.registers x hx, h.registers y hy, ← h.others]
  have hdrawn : FlagEquiv { s with screen := s.screen.flip (s.spriteLayer x y height) }
      { t with screen := t.screen.flip (t.spriteLayer x y height) } := by
    refine ⟨?_, h.registers⟩
    rw [← hlayer, ← h.others]
  unfold State.draw
  -- whichever of the two machines reports collisions, it does so in VF
  split
  · split
    · exact hdrawn.setReg flagRegister fun hne => absurd rfl hne
    · exact hdrawn.setFlag_left _
  · split
    · exact hdrawn.setFlag_right _
    · exact hdrawn

theorem FlagEquiv.skipIf (h : FlagEquiv s t) (holds : Bool) :
    FlagEquiv (s.skipIf holds) (t.skipIf holds) := by
  refine ⟨?_, ?_⟩
  · rw [← h.others]
    cases holds <;> rfl
  · cases holds <;> exact h.registers

/-- A core instruction that does not read VF keeps the equivalence. -/
theorem FlagEquiv.perform (h : FlagEquiv s t) {w : Word} (hreads : ¬ Word.ReadsFlag w)
    (hcore : (Instruction.decode w).operation.isCore = true) :
    FlagEquiv (s.perform (Instruction.decode w)) (t.perform (Instruction.decode w)) := by
  have hencoded : (Instruction.decode w).EncodedBy w := by
    apply Instruction.encodedBy_decode
    intro hunknown
    rw [hunknown] at hcore
    exact absurd hcore (by decide)
  obtain ⟨hthree, hdraw⟩ := not_or.1 hreads
  -- the word is needed in the two cases that read registers; the rest is settled by the kind
  cases hdecode : Instruction.decode w with
  | skipIfEqual x byte =>
      rw [hdecode] at hencoded
      obtain ⟨hopcode, rfl, rfl⟩ := hencoded
      have hx : Word.x w ≠ flagRegister := fun hx => hthree ⟨hopcode, hx⟩
      rw [State.perform, State.perform, h.registers _ hx]
      exact h.skipIf _
  | drawSprite x y height =>
      rw [hdecode] at hencoded
      obtain ⟨hopcode, rfl, rfl, rfl⟩ := hencoded
      exact h.draw _ (fun hx => hdraw ⟨hopcode, Or.inl hx⟩) fun hy => hdraw ⟨hopcode, Or.inr hy⟩
  | loadImmediate x byte => exact h.setReg x fun _ => rfl
  | addImmediate x byte => exact h.setReg x fun hx => by rw [h.registers x hx]
  | clearScreen | jump target | loadIndex address =>
      refine ⟨?_, h.registers⟩
      rw [← h.others]
      rfl
  | _ =>
      rw [hdecode] at hcore
      exact absurd hcore (by simp [Instruction.operation, Operation.isCore])

/-! ## Cycles and runs -/

theorem FlagEquiv.fetch (h : FlagEquiv s t) : FlagEquiv s.fetch.1 t.fetch.1 := by
  refine ⟨?_, h.registers⟩
  rw [← h.others]
  rfl

theorem FlagEquiv.nextWord (h : FlagEquiv s t) : s.nextWord = t.nextWord := by
  rw [← h.others]
  rfl

/-- Equivalent states, the first of a core machine and the second of an extended one. -/
structure Extends (s t : State) : Prop where
  core : s.config.extended = false
  extended : t.config.extended = true
  equiv : FlagEquiv s t

theorem Extends.cycle (h : Extends s t) (hshared : Cycle.IsShared s.nextCycle) :
    t.nextCycle = s.nextCycle ∧ Extends s.afterCycle t.afterCycle := by
  obtain ⟨hexecuted, hreads⟩ := hshared
  have hword := h.equiv.nextWord
  have hpc : s.pc = t.pc := by rw [← h.equiv.others]
  have hcore : s.config.executes (Instruction.decode s.nextWord) = true := by
    by_contra hnot
    simp [nextCycle, hnot] at hexecuted
  obtain ⟨hisCore, hextended⟩ := Config.executes_of_core h.core h.extended hcore
  refine ⟨?_, ?_, ?_, ?_⟩
  · simp only [nextCycle, ← hword, ← hpc, hcore, hextended]
  · rw [config_afterCycle, h.core]
  · rw [config_afterCycle, h.extended]
  · have hs : s.afterCycle = s.fetch.1.perform (Instruction.decode s.nextWord) := if_pos hcore
    have ht : t.afterCycle = t.fetch.1.perform (Instruction.decode s.nextWord) := by
      rw [hword] at hextended ⊢
      exact if_pos hextended
    rw [hs, ht]
    exact h.equiv.fetch.perform hreads hisCore

/-- Whatever the machine contains: if a core run of `n` cycles skips nothing and executes no word
    that reads VF, the extended run from the same contents has the same trace, and it ends in the
    same state but for the configuration and VF. Neither mode matters. -/
theorem trace_extended_of_core (s : State) (modern modern' : Bool) (n : Nat)
    (hexecuted : ∀ c ∈ ((s.under ⟨.core, modern⟩).trace n).cycles, c.outcome = .executed)
    (hreads : ∀ c ∈ ((s.under ⟨.core, modern⟩).trace n).cycles, ¬ Word.ReadsFlag c.word) :
    ((s.under ⟨.extended, modern'⟩).trace n).cycles =
        ((s.under ⟨.core, modern⟩).trace n).cycles ∧
      FlagEquiv ((s.under ⟨.core, modern⟩).trace n).state
        ((s.under ⟨.extended, modern'⟩).trace n).state := by
  have hextends : Extends (s.under ⟨.core, modern⟩) (s.under ⟨.extended, modern'⟩) :=
    ⟨rfl, rfl, rfl, fun _ _ => rfl⟩
  obtain ⟨hcycles, hstate⟩ := trace_lockstep_eq (fun _ _ h => h.cycle) hextends n
    fun c hc => ⟨hexecuted c hc, hreads c hc⟩
  exact ⟨hcycles, hstate.equiv⟩

/-- A byte of the program drawn twice at one place, which collides with itself in the extended
    machine. -/
theorem trace_extended_of_core_twice :
    let s : State := { initial ⟨.core, true⟩ .zero with
      memory := Memory.zero.writeBlock 0x200 [0x61, 0x05, 0xA2, 0x00, 0xD1, 0x11, 0xD1, 0x11] }
    let core := (s.under ⟨.core, true⟩).trace 4
    let extended := (s.under ⟨.extended, false⟩).trace 4
    (∀ c ∈ core.cycles, c.outcome = .executed) ∧ (∀ c ∈ core.cycles, ¬ Word.ReadsFlag c.word) ∧
      extended.cycles = core.cycles ∧ FlagEquiv core.state extended.state := by
  intro s core extended
  have hexecuted : ∀ c ∈ core.cycles, c.outcome = .executed := by decide +kernel
  have hreads : ∀ c ∈ core.cycles, ¬ Word.ReadsFlag c.word := by decide +kernel
  exact ⟨hexecuted, hreads, trace_extended_of_core s true false 4 hexecuted hreads⟩

end State

end Chip8
