import Chip8.Proofs.Repertoire
import Chip8.Proofs.WriteSet

set_option autoImplicit false

/-! # Where the program counter goes

A cycle moves the program counter past its word before it executes the word. Most words leave it
there; the others are jumps, calls and returns, skips, and the key wait. What wraps is different:
plain progress, skips and the key wait count modulo 65536, indexed jumps modulo 4096, and the
targets of jumps and the addresses on the stack are taken as they are. `State.NextPc` has one line
for each kind of word, and so has `State.NextPcCore` for the core profile. -/

namespace Chip8

/-- The words that can set the program counter: jumps, calls and returns, skips, and `FX0A`. -/
def Word.SetsPc (w : Word) : Prop :=
  Word.opcode w = 0x1 ∨ Word.opcode w = 0x2 ∨ w = 0x00EE ∨ Word.opcode w = 0xB ∨
    Word.opcode w = 0x3 ∨ Word.opcode w = 0x4 ∨ Word.opcode w = 0x5 ∧ Word.n w = 0 ∨
    Word.opcode w = 0x9 ∧ Word.n w = 0 ∨
    Word.opcode w = 0xE ∧ (Word.nn w = 0x9E ∨ Word.nn w = 0xA1) ∨
    Word.opcode w = 0xF ∧ Word.nn w = 0x0A

/-- Two skips with the same operands and opposite conditions: `3XNN` and `4XNN`, `5XY0` and `9XY0`,
    `EX9E` and `EXA1`. -/
def Word.Opposite (w w' : Word) : Prop :=
  Word.opcode w = 0x3 ∧ Word.opcode w' = 0x4 ∧ Word.x w = Word.x w' ∧ Word.nn w = Word.nn w' ∨
    Word.opcode w = 0x5 ∧ Word.n w = 0 ∧ Word.opcode w' = 0x9 ∧ Word.n w' = 0 ∧
      Word.x w = Word.x w' ∧ Word.y w = Word.y w' ∨
    Word.opcode w = 0xE ∧ Word.nn w = 0x9E ∧ Word.opcode w' = 0xE ∧ Word.nn w' = 0xA1 ∧
      Word.x w = Word.x w'

namespace State

/-- Under a condition the cycle goes past the word after its own, and otherwise to it. -/
structure Skips (s : State) (holds : Prop) (next : Nat) : Prop where
  taken : holds → next = (s.pc.toNat + 4) % 65536
  not_taken : ¬ holds → next = (s.pc.toNat + 2) % 65536

/-- Where the program counter is after a cycle of the extended profile with the word `w`. -/
structure NextPc (s : State) (w : Word) (next : Nat) : Prop where
  jump : Word.opcode w = 0x1 → next = (Word.nnn w).toNat
  call : Word.opcode w = 0x2 → next = (Word.nnn w).toNat
  ret : w = 0x00EE → ∃ slot : Fin 16,
    (slot.val : Int) = (s.stack.pointer - 1) % 16 ∧ next = (s.stack.read slot).toNat
  jumpWithOffset : Word.opcode w = 0xB →
    next = ((Word.nnn w).toNat + (s.reg (if s.config.modern then Word.x w else 0)).toNat) % 4096
  skipIfEqual : Word.opcode w = 0x3 → s.Skips (s.reg (Word.x w) = Word.nn w) next
  skipIfNotEqual : Word.opcode w = 0x4 → s.Skips (s.reg (Word.x w) ≠ Word.nn w) next
  skipIfRegistersEqual : Word.opcode w = 0x5 → Word.n w = 0 →
    s.Skips (s.reg (Word.x w) = s.reg (Word.y w)) next
  skipIfRegistersNotEqual : Word.opcode w = 0x9 → Word.n w = 0 →
    s.Skips (s.reg (Word.x w) ≠ s.reg (Word.y w)) next
  skipIfHeld : Word.opcode w = 0xE → Word.nn w = 0x9E →
    ∀ key : Fin 16, key.val = (s.reg (Word.x w)).toNat % 16 →
      s.Skips (s.keypad.isHeld key = true) next
  skipIfReleased : Word.opcode w = 0xE → Word.nn w = 0xA1 →
    ∀ key : Fin 16, key.val = (s.reg (Word.x w)).toNat % 16 →
      s.Skips (s.keypad.isHeld key = false) next
  wait : Word.opcode w = 0xF → Word.nn w = 0x0A → (∀ key, s.keypad.isHeld key = false) →
    next = s.pc.toNat
  wait_over : Word.opcode w = 0xF → Word.nn w = 0x0A → (∃ key, s.keypad.isHeld key = true) →
    next = (s.pc.toNat + 2) % 65536
  other : ¬ Word.SetsPc w → next = (s.pc.toNat + 2) % 65536

/-- Where the program counter is after a cycle of the core profile with the word `w`. -/
structure NextPcCore (s : State) (w : Word) (next : Nat) : Prop where
  jump : Word.opcode w = 0x1 → next = (Word.nnn w).toNat
  skipIfEqual : Word.opcode w = 0x3 → s.Skips (s.reg (Word.x w) = Word.nn w) next
  other : Word.opcode w ≠ 0x1 → Word.opcode w ≠ 0x3 → next = (s.pc.toNat + 2) % 65536

variable {s : State}

/-! ## Words that go on -/

theorem toNat_pc_fetch (s : State) : s.fetch.1.pc.toNat = (s.pc.toNat + 2) % 65536 :=
  UInt16.toNat_add s.pc 2

theorem setsPc_of_writeSet {w : Word} (h : (Word.writeSet s w).pc) : Word.SetsPc w := by
  unfold Word.SetsPc
  rcases h with h | h | h | h | h | ⟨hopcode, hnn, -⟩
  · simp [h]
  · simp [h]
  · simp [h]
  · simp [h]
  · rcases h with ⟨h, -⟩ | ⟨h, -⟩ | ⟨h, hn, -⟩ | ⟨h, hn, -⟩ | ⟨h, hnn, -⟩ | ⟨h, hnn, -⟩ <;> simp [*]
  · simp [hopcode, hnn]

theorem pc_executeWord_of_not_setsPc (s : State) {w : Word} (h : ¬ Word.SetsPc w) :
    (s.executeWord w).pc = s.pc := by
  rcases s.executeWord_cases w with hleft | ⟨i, hencoded, hexecutes, hperform⟩
  · rw [hleft]
  · rw [hperform]
    have hwithin := writeSet_within hencoded hexecutes
    by_contra hne
    exact h (setsPc_of_writeSet (hwithin.pc ((s.covers_perform i).pc hne)))

/-! ## Skips and the key wait -/

/-- A skip finds the program counter at the next word. -/
theorem skips_skipIf_fetch (s : State) {holds : Bool} {condition : Prop}
    (h : holds = true ↔ condition) :
    s.Skips condition (s.fetch.1.skipIf holds).pc.toNat where
  taken hcondition := by
    rw [h.2 hcondition]
    show (s.fetch.1.pc + 2).toNat = _
    rw [UInt16.toNat_add, toNat_pc_fetch]
    show ((s.pc.toNat + 2) % 65536 + 2) % 65536 = _
    omega
  not_taken hcondition := by
    rw [Bool.eq_false_iff.2 (mt h.1 hcondition)]
    exact s.toNat_pc_fetch

theorem pc_awaitKey_of_released (s : State) (x : Fin 16)
    (h : ∀ key, s.keypad.isHeld key = false) : (s.awaitKey x).pc = s.pc - 2 := by
  rw [awaitKey, (Keypad.lowest?_eq_none_iff _).2 h]

theorem pc_awaitKey_of_held (s : State) (x : Fin 16) (h : ∃ key, s.keypad.isHeld key = true) :
    (s.awaitKey x).pc = s.pc := by
  unfold awaitKey
  split
  · rfl
  · next hnone =>
      obtain ⟨key, hkey⟩ := h
      rw [Keypad.lowest?_eq_none_iff] at hnone
      rw [hnone key] at hkey
      exact absurd hkey (by decide)

/-! ## Cycles of the extended profile -/

theorem pc_step_of_supports {i : Instruction} (hsupports : s.config.supports i.operation = true)
    (hencoded : i.EncodedBy s.fetch.2) : s.step.1.pc = (s.fetch.1.perform i).pc :=
  congrArg State.pc (executeWord_of_supports (s := s.fetch.1) hsupports hencoded)

theorem skips_step_of_supports {i : Instruction}
    (hsupports : s.config.supports i.operation = true) (hencoded : i.EncodedBy s.fetch.2)
    {holds : Bool} {condition : Prop} (hperform : s.fetch.1.perform i = s.fetch.1.skipIf holds)
    (h : holds = true ↔ condition) : s.Skips condition s.step.1.pc.toNat := by
  rw [pc_step_of_supports hsupports hencoded, hperform]
  exact s.skips_skipIf_fetch h

theorem pc_step_of_encodedBy (hextended : s.config.extended = true) {i : Instruction}
    (hencoded : i.EncodedBy s.fetch.2) : s.step.1.pc = (s.fetch.1.perform i).pc :=
  pc_step_of_supports (Config.supports_of_encodedBy hextended hencoded) hencoded

theorem skips_step_of_encodedBy (hextended : s.config.extended = true) {i : Instruction}
    (hencoded : i.EncodedBy s.fetch.2) {holds : Bool} {condition : Prop}
    (hperform : s.fetch.1.perform i = s.fetch.1.skipIf holds) (h : holds = true ↔ condition) :
    s.Skips condition s.step.1.pc.toNat :=
  skips_step_of_supports (Config.supports_of_encodedBy hextended hencoded) hencoded hperform h

theorem keyIn_eq {x key : Fin 16} (h : key.val = (s.reg x).toNat % 16) : s.keyIn x = key :=
  Fin.ext h.symm

theorem toNat_jumpWithOffset (target : UInt16) (byte : UInt8) :
    ((target + byte.toUInt16) &&& 0xFFF).toNat = (target.toNat + byte.toNat) % 4096 := by
  rw [Word.toNat_and_mask, UInt16.toNat_add, UInt8.toNat_toUInt16]
  omega

theorem nextPc_of_extended (hextended : s.config.extended = true) :
    s.NextPc s.fetch.2 s.step.1.pc.toNat where
  jump h := by
    rw [pc_step_of_encodedBy hextended (i := .jump _) ⟨h, rfl⟩]
    rfl
  call h := by
    rw [pc_step_of_encodedBy hextended (i := .call _) ⟨h, rfl⟩]
    rfl
  ret h := by
    rw [pc_step_of_encodedBy hextended (i := .ret) h]
    refine ⟨CallStack.slotOf (s.stack.pointer - 1), ?_, ?_⟩
    · show ((((s.stack.pointer - 1) % 16).toNat % 16 : Nat) : Int) = _
      omega
    · rw [← CallStack.pop_address]
      rfl
  jumpWithOffset h := by
    rw [pc_step_of_encodedBy hextended (i := .jumpWithOffset _ _) ⟨h, rfl, rfl⟩]
    exact toNat_jumpWithOffset _ _
  skipIfEqual h :=
    skips_step_of_encodedBy hextended (i := .skipIfEqual _ _) ⟨h, rfl, rfl⟩ rfl decide_eq_true_iff
  skipIfNotEqual h :=
    skips_step_of_encodedBy hextended (i := .skipIfNotEqual _ _) ⟨h, rfl, rfl⟩ rfl
      decide_eq_true_iff
  skipIfRegistersEqual h hn :=
    skips_step_of_encodedBy hextended (i := .skipIfRegistersEqual _ _) ⟨h, hn, rfl, rfl⟩ rfl
      decide_eq_true_iff
  skipIfRegistersNotEqual h hn :=
    skips_step_of_encodedBy hextended (i := .skipIfRegistersNotEqual _ _) ⟨h, hn, rfl, rfl⟩ rfl
      decide_eq_true_iff
  skipIfHeld h hnn key hkey := by
    refine skips_step_of_encodedBy hextended (i := .skipIfHeld _) ⟨h, hnn, rfl⟩ rfl ?_
    rw [← keyIn_eq hkey]
    exact Iff.rfl
  skipIfReleased h hnn key hkey := by
    refine skips_step_of_encodedBy hextended (i := .skipIfReleased _) ⟨h, hnn, rfl⟩ rfl ?_
    rw [← keyIn_eq hkey]
    exact Bool.not_eq_true' _ ▸ Iff.rfl
  wait h hnn hreleased := by
    rw [pc_step_of_encodedBy hextended (i := .waitForKey _) ⟨h, hnn, rfl⟩]
    -- back to where the word was fetched, also across the end of the range
    show (s.fetch.1.awaitKey _).pc.toNat = _
    rw [pc_awaitKey_of_released s.fetch.1 _ hreleased]
    show (s.pc + 2 - 2).toNat = _
    rw [UInt16.add_sub_cancel]
  wait_over h hnn hheld := by
    rw [pc_step_of_encodedBy hextended (i := .waitForKey _) ⟨h, hnn, rfl⟩]
    show (s.fetch.1.awaitKey _).pc.toNat = _
    rw [pc_awaitKey_of_held s.fetch.1 _ hheld, toNat_pc_fetch]
  other h := by
    show (s.fetch.1.executeWord s.fetch.2).pc.toNat = _
    rw [s.fetch.1.pc_executeWord_of_not_setsPc h, toNat_pc_fetch]

/-! ## Cycles of the core profile -/

theorem pc_perform_of_core (s : State) {w : Word} {i : Instruction} (hencoded : i.EncodedBy w)
    (hcore : i.operation.isCore = true) (hjump : Word.opcode w ≠ 0x1)
    (hskip : Word.opcode w ≠ 0x3) : (s.perform i).pc = s.pc := by
  cases i with
  | jump => exact absurd hencoded.1 hjump
  | skipIfEqual => exact absurd hencoded.1 hskip
  | drawSprite => rw [perform, draw_eq]
  | clearScreen | loadImmediate | addImmediate | loadIndex => rfl
  | _ => exact absurd hcore Bool.false_ne_true

theorem pc_executeWord_of_core (hcore : s.config.extended = false) {w : Word}
    (hjump : Word.opcode w ≠ 0x1) (hskip : Word.opcode w ≠ 0x3) :
    (s.executeWord w).pc = s.pc := by
  rcases s.executeWord_cases w with hleft | ⟨i, hencoded, hexecutes, hperform⟩
  · rw [hleft]
  · rw [hperform]
    exact s.pc_perform_of_core hencoded (isCore_of_executes hcore hexecutes) hjump hskip

theorem nextPcCore_of_core (hcore : s.config.extended = false) :
    s.NextPcCore s.fetch.2 s.step.1.pc.toNat where
  jump h := by
    rw [pc_step_of_supports (s.config.supports_of_isCore rfl) (i := .jump _) ⟨h, rfl⟩]
    rfl
  skipIfEqual h :=
    skips_step_of_supports (s.config.supports_of_isCore rfl) (i := .skipIfEqual _ _) ⟨h, rfl, rfl⟩
      rfl decide_eq_true_iff
  other hjump hskip := by
    show (s.fetch.1.executeWord s.fetch.2).pc.toNat = _
    rw [pc_executeWord_of_core (s := s.fetch.1) hcore hjump hskip, toNat_pc_fetch]

/-! ## The law of the program counter -/

theorem Skips.opposite {s t : State} {condition condition' : Prop} {next next' : Nat}
    (h : s.Skips condition next) (h' : t.Skips condition' next') (hpc : t.pc = s.pc)
    (hopposite : condition' ↔ ¬ condition) :
    next = (s.pc.toNat + 4) % 65536 ∧ next' = (s.pc.toNat + 2) % 65536 ∨
      next = (s.pc.toNat + 2) % 65536 ∧ next' = (s.pc.toNat + 4) % 65536 := by
  rw [← hpc]
  by_cases hcondition : condition
  · left
    rw [h.taken hcondition, h'.not_taken (mt hopposite.1 (not_not.2 hcondition)), hpc]
    exact ⟨rfl, rfl⟩
  · right
    rw [h.not_taken hcondition, h'.taken (hopposite.2 hcondition), hpc]
    exact ⟨rfl, rfl⟩

/-- Where a cycle leaves the program counter: in the extended and in the core profile, for every
    state and every word that it fetches (`NextPc`, `NextPcCore`). Of two opposite skips with the
    same operands, exactly one is taken: the machines differ in what is in memory only, and one of
    them goes past the next word and the other one to it. -/
theorem nextPc_step (s : State) :
    (s.config.extended = true → s.NextPc s.fetch.2 s.step.1.pc.toNat) ∧
      (s.config.extended = false → s.NextPcCore s.fetch.2 s.step.1.pc.toNat) ∧
      ∀ memory : Memory,
        let t := { s with memory := memory }
        s.config.extended = true → Word.Opposite s.fetch.2 t.fetch.2 →
          s.step.1.pc.toNat = (s.pc.toNat + 4) % 65536 ∧
              t.step.1.pc.toNat = (s.pc.toNat + 2) % 65536 ∨
            s.step.1.pc.toNat = (s.pc.toNat + 2) % 65536 ∧
              t.step.1.pc.toNat = (s.pc.toNat + 4) % 65536 := by
  refine ⟨nextPc_of_extended, nextPcCore_of_core, ?_⟩
  intro memory t hextended hopposite
  have hs : s.NextPc s.fetch.2 s.step.1.pc.toNat := nextPc_of_extended hextended
  have ht : t.NextPc t.fetch.2 t.step.1.pc.toNat := nextPc_of_extended hextended
  rcases hopposite with ⟨hw, hw', hx, hnn⟩ | ⟨hw, hn, hw', hn', hx, hy⟩ | ⟨hw, hnn, hw', hnn', hx⟩
  · refine (hs.skipIfEqual hw).opposite (ht.skipIfNotEqual hw') rfl ?_
    rw [hx, hnn]
    rfl
  · refine (hs.skipIfRegistersEqual hw hn).opposite (ht.skipIfRegistersNotEqual hw' hn') rfl ?_
    rw [hx, hy]
    rfl
  · have hkey : (s.keyIn (Word.x s.fetch.2)).val = (s.reg (Word.x s.fetch.2)).toNat % 16 := rfl
    have hkey' : (s.keyIn (Word.x s.fetch.2)).val = (t.reg (Word.x t.fetch.2)).toNat % 16 := by
      rw [← hx]
      rfl
    refine (hs.skipIfHeld hw hnn _ hkey).opposite (ht.skipIfReleased hw' hnn' _ hkey') rfl ?_
    show s.keypad.isHeld _ = false ↔ ¬ s.keypad.isHeld _ = true
    rw [Bool.not_eq_true]

/-- Skips at the end of the range of the program counter: `E59E` and `E5A1` with key 3 named by
    its last digit and released, and `3513` on a core machine. -/
theorem nextPc_step_at_end :
    let s : State :=
      { (initial ⟨.extended, false⟩ .zero).setReg 5 0x13 with
        memory := Memory.zero.writeBlock 0xFFFE [0xE5, 0x9E]
        pc := 0xFFFE }
    let t := { s with memory := Memory.zero.writeBlock 0xFFFE [0xE5, 0xA1] }
    let u :=
      { s with
        config := ⟨.core, true⟩
        memory := Memory.zero.writeBlock 0xFFFE [0x35, 0x13] }
    s.config.extended = true ∧ Word.Opposite s.fetch.2 t.fetch.2 ∧
      s.step.1.pc.toNat = 0 ∧ t.step.1.pc.toNat = 2 ∧
      u.config.extended = false ∧ u.step.1.pc.toNat = 2 := by
  intro s t u
  have hs : s.fetch.2 = 0xE59E := Memory.zero.readWord_writeBlock 0xFFFE 0xE5 0x9E
  have ht : t.fetch.2 = 0xE5A1 := Memory.zero.readWord_writeBlock 0xFFFE 0xE5 0xA1
  have hu : u.fetch.2 = 0x3513 := Memory.zero.readWord_writeBlock 0xFFFE 0x35 0x13
  have hopposite : Word.Opposite s.fetch.2 t.fetch.2 := by
    rw [hs, ht]
    exact Or.inr (Or.inr (by decide))
  obtain ⟨hlaw, -, hone⟩ := nextPc_step s
  obtain ⟨-, hcore, -⟩ := nextPc_step u
  have hpc : s.pc.toNat = 0xFFFE := by decide +kernel
  have hkey : (3 : Fin 16).val = (s.reg (Word.x s.fetch.2)).toNat % 16 := by
    rw [hs]
    decide +kernel
  have hnot : s.step.1.pc.toNat = 0 := by
    have hheld := (hlaw rfl).skipIfHeld (by rw [hs]; rfl) (by rw [hs]; rfl) 3 hkey
    rw [hheld.not_taken (by decide +kernel), hpc]
  have htaken : t.step.1.pc.toNat = 2 := by
    rcases hone _ rfl hopposite with ⟨hpast, -⟩ | ⟨-, hpast⟩
    · rw [hnot, hpc] at hpast
      exact absurd hpast (by decide)
    · exact hpast.trans (by rw [hpc])
  have htakenCore : u.step.1.pc.toNat = 2 := by
    have hequal := (hcore rfl).skipIfEqual (by rw [hu]; rfl)
    rw [hequal.taken (by rw [hu]; decide +kernel)]
    show (s.pc.toNat + 4) % 65536 = 2
    rw [hpc]
  exact ⟨rfl, hopposite, hnot, htaken, rfl, htakenCore⟩

end State

end Chip8
