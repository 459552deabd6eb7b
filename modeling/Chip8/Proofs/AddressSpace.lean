import Chip8.Proofs.Lockstep

set_option autoImplicit false

/-! # Addresses have twelve bits

The program counter and the index are 16-bit values. Indexed jumps, the index sum and pushed
return addresses are reduced modulo the memory size; the steps past an instruction, skips, the
repeated key wait and the classic register blocks are not, and wrap at 65536. Here this is shown
to be invisible: states whose counters name the same cells run in lockstep, by way of
`WrapEquiv.perform`, and so does the machine that reduces both after every cycle
(`wrappedTrace_wrap`). -/

namespace Chip8

/-- Two 16-bit values name the same memory cell. -/
def SameAddress (a b : UInt16) : Prop := a.toNat % 4096 = b.toNat % 4096

instance (a b : UInt16) : Decidable (SameAddress a b) := inferInstanceAs (Decidable (_ = _))

namespace SameAddress

variable {a b : UInt16}

theorem add (h : SameAddress a b) (distance : UInt16) :
    SameAddress (a + distance) (b + distance) := by
  unfold SameAddress at h ⊢
  rw [UInt16.toNat_add, UInt16.toNat_add]
  omega

theorem sub (h : SameAddress a b) (distance : UInt16) :
    SameAddress (a - distance) (b - distance) := by
  unfold SameAddress at h ⊢
  rw [UInt16.toNat_sub, UInt16.toNat_sub]
  omega

theorem mask_eq (h : SameAddress a b) : a &&& 0xFFF = b &&& 0xFFF := by
  apply UInt16.toNat.inj
  rw [Word.toNat_and_mask, Word.toNat_and_mask]
  exact h

theorem mask (a : UInt16) : SameAddress a (a &&& 0xFFF) := by
  unfold SameAddress
  rw [Word.toNat_and_mask, Nat.mod_mod]

end SameAddress

namespace State

/-- Equal states, but for how often the program counter and the index went around the memory. -/
structure WrapEquiv (s t : State) : Prop where
  others : { s with pc := t.pc, index := t.index } = t
  pc : SameAddress s.pc t.pc
  index : SameAddress s.index t.index

variable {s t : State}

/-! ## One instruction -/

theorem WrapEquiv.skipIf (h : WrapEquiv s t) (holds : Bool) :
    WrapEquiv (s.skipIf holds) (t.skipIf holds) := by
  unfold State.skipIf
  cases holds with
  | false => exact h
  | true => exact ⟨by rw [← h.others]; rfl, h.pc.add 2, h.index⟩

theorem WrapEquiv.applyAlu (h : WrapEquiv s t) (op : AluOp) (x y : Fin 16) :
    WrapEquiv (s.applyAlu op x y) (t.applyAlu op x y) := by
  obtain ⟨hothers, hpc, hindex⟩ := h
  rw [← hothers]
  -- both sides compute the same result; what is written depends on whether it has a flag
  simp only [State.applyAlu, reg]
  generalize op.evaluate s.config.modern (s.registers.get x) (s.registers.get y) = result
  rcases result with ⟨value, _ | flag⟩
  · exact ⟨rfl, hpc, hindex⟩
  · exact ⟨rfl, hpc, hindex⟩

theorem WrapEquiv.awaitKey (h : WrapEquiv s t) (x : Fin 16) :
    WrapEquiv (s.awaitKey x) (t.awaitKey x) := by
  obtain ⟨hothers, hpc, hindex⟩ := h
  rw [← hothers]
  rcases hkey : s.keypad.lowest? with _ | key
  · simp only [State.awaitKey, hkey]
    exact ⟨rfl, hpc.sub 2, hindex⟩
  · simp only [State.awaitKey, hkey]
    exact ⟨rfl, hpc, hindex⟩

theorem WrapEquiv.spriteLayer (h : WrapEquiv s t) (x y height : Fin 16) :
    s.spriteLayer x y height = t.spriteLayer x y height := by
  rw [← h.others]
  exact Sprite.layer_congr s.memory h.index _ _ _

theorem WrapEquiv.draw (h : WrapEquiv s t) (x y height : Fin 16) :
    WrapEquiv (s.draw x y height) (t.draw x y height) := by
  have hlayer := h.spriteLayer x y height
  obtain ⟨hothers, hpc, hindex⟩ := h
  rw [← hothers] at hlayer ⊢
  unfold State.draw
  rw [← hlayer]
  by_cases hextended : s.config.extended = true
  · simp only [hextended, if_true]
    exact ⟨rfl, hpc, hindex⟩
  · simp only [hextended]
    exact ⟨rfl, hpc, hindex⟩

theorem WrapEquiv.indexPast (h : WrapEquiv s t) (x : Fin 16) :
    SameAddress (s.indexPast x) (t.indexPast x) := by
  rw [← h.others]
  by_cases hmodern : s.config.modern = true
  · simp only [State.indexPast, if_pos hmodern]
    exact h.index
  · simp only [State.indexPast, if_neg hmodern]
    exact h.index.add _

theorem WrapEquiv.storeBlock (h : WrapEquiv s t) (x : Fin 16) :
    WrapEquiv (s.storeBlock x) (t.storeBlock x) := by
  refine ⟨?_, h.pc, h.indexPast x⟩
  have hmemory := s.memory.writeBlock_congr (s.registersUpTo x) h.index
  rw [← h.others] at hmemory ⊢
  simp only [State.storeBlock, hmemory]
  rfl

theorem WrapEquiv.loadBlock (h : WrapEquiv s t) (x : Fin 16) :
    WrapEquiv (s.loadBlock x) (t.loadBlock x) := by
  have hindex : s.index.toNat % 4096 = t.index.toNat % 4096 := h.index
  have hread : ∀ k, s.memory.read (s.index.toNat + k) = s.memory.read (t.index.toNat + k) :=
    fun k => s.memory.read_congr (by omega)
  have hpast := h.indexPast x
  unfold State.loadBlock
  refine ⟨?_, h.pc, hpast⟩
  rw [← h.others] at hread ⊢
  simp only [hread]
  rfl

theorem WrapEquiv.storeDecimal (h : WrapEquiv s t) (x : Fin 16) :
    WrapEquiv (s.perform (.storeDecimal x)) (t.perform (.storeDecimal x)) := by
  refine ⟨?_, h.pc, h.index⟩
  have hmemory := s.memory.writeBlock_congr (decimalDigits (s.reg x)) h.index
  rw [← h.others] at hmemory ⊢
  simp only [State.perform, hmemory]
  rfl

theorem WrapEquiv.call (h : WrapEquiv s t) (target : UInt16) :
    WrapEquiv (s.perform (.call target)) (t.perform (.call target)) := by
  refine ⟨?_, rfl, h.index⟩
  have hmask := h.pc.mask_eq
  rw [← h.others] at hmask ⊢
  simp only [State.perform, CallStack.push, hmask]

theorem WrapEquiv.addToIndex (h : WrapEquiv s t) (x : Fin 16) :
    WrapEquiv (s.perform (.addToIndex x)) (t.perform (.addToIndex x)) := by
  have hmask := (h.index.add (s.reg x).toUInt16).mask_eq
  obtain ⟨hothers, hpc, hindex⟩ := h
  rw [← hothers] at hmask ⊢
  exact ⟨rfl, hpc, congrArg (fun a : UInt16 => a.toNat % 4096) hmask⟩

/-- One instruction keeps the equivalence, in every configuration. -/
theorem WrapEquiv.perform (h : WrapEquiv s t) (i : Instruction) :
    WrapEquiv (s.perform i) (t.perform i) := by
  have hreg : ∀ r, s.reg r = t.reg r := fun r => by rw [← h.others]; rfl
  have hkey : ∀ x, s.keypad.isHeld (s.keyIn x) = t.keypad.isHeld (t.keyIn x) :=
    fun x => by rw [← h.others]; rfl
  cases i with
  | skipIfEqual x byte => rw [State.perform, State.perform, hreg]; exact h.skipIf _
  | skipIfNotEqual x byte => rw [State.perform, State.perform, hreg]; exact h.skipIf _
  | skipIfRegistersEqual x y => rw [State.perform, State.perform, hreg, hreg]; exact h.skipIf _
  | skipIfRegistersNotEqual x y => rw [State.perform, State.perform, hreg, hreg]; exact h.skipIf _
  | skipIfHeld x => rw [State.perform, State.perform, hkey]; exact h.skipIf _
  | skipIfReleased x => rw [State.perform, State.perform, hkey]; exact h.skipIf _
  | alu op x y => exact h.applyAlu op x y
  | drawSprite x y height => exact h.draw x y height
  | waitForKey x => exact h.awaitKey x
  | addToIndex x => exact h.addToIndex x
  | storeDecimal x => exact h.storeDecimal x
  | storeRegisters x => exact h.storeBlock x
  | loadRegisters x => exact h.loadBlock x
  | call target => exact h.call target
  -- the target is the same, whatever the counter was
  | ret | jump target | jumpWithOffset x target =>
      obtain ⟨hothers, hpc, hindex⟩ := h
      rw [← hothers]
      exact ⟨rfl, rfl, hindex⟩
  | loadIndex address | selectGlyph x =>
      obtain ⟨hothers, hpc, hindex⟩ := h
      rw [← hothers]
      exact ⟨rfl, hpc, rfl⟩
  -- neither counter is read or written
  | clearScreen | loadImmediate x byte | addImmediate x byte | random x mask | readDelay x
  | setDelay x | setSound x | unassigned | unknown =>
      obtain ⟨hothers, hpc, hindex⟩ := h
      rw [← hothers]
      exact ⟨rfl, hpc, hindex⟩

/-! ## Cycles and runs -/

theorem WrapEquiv.executeWord (h : WrapEquiv s t) (w : Word) :
    WrapEquiv (s.executeWord w) (t.executeWord w) := by
  have hconfig : s.config = t.config := by rw [← h.others]
  unfold State.executeWord execute
  rw [hconfig]
  split
  · exact h.perform _
  · exact h

theorem WrapEquiv.nextWord (h : WrapEquiv s t) : s.nextWord = t.nextWord := by
  unfold State.nextWord
  rw [s.memory.readWord_congr h.pc, ← h.others]

theorem WrapEquiv.afterCycle (h : WrapEquiv s t) : WrapEquiv s.afterCycle t.afterCycle := by
  have hfetch : WrapEquiv s.fetch.1 t.fetch.1 := by
    obtain ⟨hothers, hpc, hindex⟩ := h
    rw [← hothers]
    exact ⟨rfl, hpc.add 2, hindex⟩
  unfold State.afterCycle
  rw [show t.fetch.2 = s.fetch.2 from h.nextWord.symm]
  exact hfetch.executeWord _

end State

/-- Equal records, but for how often the counter had gone around the memory. -/
structure Cycle.WrapEquiv (c d : Cycle) : Prop where
  address : SameAddress c.address d.address
  word : c.word = d.word
  operation : c.operation = d.operation
  outcome : c.outcome = d.outcome

/-- The record of a machine that keeps the counter below the memory size. -/
def Cycle.wrap (c : Cycle) : Cycle := { c with address := c.address &&& 0xFFF }

namespace State

variable {s t : State}

theorem WrapEquiv.nextCycle (h : WrapEquiv s t) : Cycle.WrapEquiv s.nextCycle t.nextCycle := by
  have hword := h.nextWord
  have hconfig : s.config = t.config := by rw [← h.others]
  refine ⟨h.pc, hword, ?_, ?_⟩
  · exact congrArg Operation.ofWord hword
  · simp only [State.nextCycle, hword, hconfig]

/-- Both counters reduced to twelve bits. -/
def wrap (s : State) : State := { s with pc := s.pc &&& 0xFFF, index := s.index &&& 0xFFF }

/-- The run of a machine with 12-bit addresses: both counters are reduced after every cycle. -/
def wrappedTrace (s : State) : Nat → Run
  | 0 => ⟨[], s⟩
  | n + 1 =>
    let rest := s.afterCycle.wrap.wrappedTrace n
    ⟨s.nextCycle :: rest.cycles, rest.state⟩

theorem wrapEquiv_wrap (s : State) : WrapEquiv s s.wrap :=
  ⟨rfl, SameAddress.mask s.pc, SameAddress.mask s.index⟩

theorem WrapEquiv.wrap_eq (h : WrapEquiv s t) : s.wrap = t.wrap := by
  unfold wrap
  rw [h.pc.mask_eq, h.index.mask_eq, ← h.others]

theorem nextCycle_wrap (s : State) : s.wrap.nextCycle = s.nextCycle.wrap := by
  have hword : s.wrap.nextWord = s.nextWord := (wrapEquiv_wrap s).nextWord.symm
  simp only [nextCycle, Cycle.wrap, hword]
  rfl

/-- The machine with 12-bit addresses runs as the other one does, its counters reduced. -/
theorem wrappedTrace_wrap (s : State) (n : Nat) :
    s.wrap.wrappedTrace n = ⟨(s.trace n).cycles.map Cycle.wrap, (s.trace n).state.wrap⟩ := by
  induction n generalizing s with
  | zero => rfl
  | succ n ih =>
      have hnext : s.wrap.afterCycle.wrap = s.afterCycle.wrap :=
        (wrapEquiv_wrap s).afterCycle.wrap_eq.symm
      rw [trace_succ, wrappedTrace, hnext, ih, nextCycle_wrap]
      rfl

/-- States that agree up to wrapping are indistinguishable: their runs record the same words,
    operations and outcomes at the same addresses modulo the memory size, their final states
    agree up to wrapping again, and so do the results of any single word. A machine whose
    addresses have twelve bits runs like either of them. -/
theorem WrapEquiv.indistinguishable (h : WrapEquiv s t) (n : Nat) (w : Word) :
    List.Forall₂ Cycle.WrapEquiv (s.trace n).cycles (t.trace n).cycles ∧
      WrapEquiv (s.trace n).state (t.trace n).state ∧
      WrapEquiv (s.executeWord w) (t.executeWord w) ∧
      s.wrap.wrappedTrace n = ⟨(s.trace n).cycles.map Cycle.wrap, (s.trace n).state.wrap⟩ := by
  have step : ∀ s t, WrapEquiv s t → True →
      Cycle.WrapEquiv s.nextCycle t.nextCycle ∧ WrapEquiv s.afterCycle t.afterCycle :=
    fun s t hst _ => ⟨hst.nextCycle, hst.afterCycle⟩
  obtain ⟨hcycles, hstate⟩ := trace_lockstep step h n fun _ _ => trivial
  exact ⟨hcycles, hstate, h.executeWord w, wrappedTrace_wrap s n⟩

/-- A classic machine that runs through the glyphs and stores a block across the end of memory,
    its counters having gone around it or not. -/
theorem WrapEquiv.indistinguishable_font :
    let s : State := { initial ⟨.extended, false⟩ .zero with pc := 0x0050, index := 0x0FFF }
    let t : State := { initial ⟨.extended, false⟩ .zero with pc := 0xF050, index := 0xFFFF }
    WrapEquiv s t ∧
      List.Forall₂ Cycle.WrapEquiv (s.trace 3).cycles (t.trace 3).cycles ∧
      WrapEquiv (s.trace 3).state (t.trace 3).state ∧
      WrapEquiv (s.executeWord 0xF255) (t.executeWord 0xF255) ∧
      s.wrap.wrappedTrace 3 = ⟨(s.trace 3).cycles.map Cycle.wrap, (s.trace 3).state.wrap⟩ := by
  intro s t
  have hpc : SameAddress 0x0050 0xF050 := by decide
  have hindex : SameAddress 0x0FFF 0xFFFF := by decide
  have h : WrapEquiv s t := ⟨rfl, hpc, hindex⟩
  exact ⟨h, WrapEquiv.indistinguishable h 3 0xF255⟩

end State

end Chip8
