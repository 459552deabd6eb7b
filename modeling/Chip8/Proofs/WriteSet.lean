import Chip8.Proofs.Encoding
import Chip8.Proofs.Footprint
import Mathlib.Tactic.ByContra

set_option autoImplicit false

/-! # What a word can change

Every word has a write set, the parts of a state that it may change, and executing it changes
nothing else. The set is read off the digits of the word, the configuration and, for skips and the
key wait, their conditions. Each instruction is shown to stay within a set of its own first
(`covers_perform`); the set of a word contains that of the instruction it encodes
(`writeSet_within`). -/

namespace Chip8

/-- The parts of a state that may change: memory and registers one by one, the others as a whole. -/
structure WriteSet where
  rng : Prop := False
  delay : Prop := False
  sound : Prop := False
  stack : Prop := False
  screen : Prop := False
  index : Prop := False
  pc : Prop := False
  memory : Nat → Prop := fun _ => False
  register : Fin 16 → Prop := fun _ => False

namespace WriteSet

/-- Wherever two states differ, the write set allows it. The configuration and the keypad are the
    same in any case. -/
structure Covers (ws : WriteSet) (s t : State) : Prop where
  config : t.config = s.config := by rfl
  keypad : t.keypad = s.keypad := by rfl
  rng : t.rng ≠ s.rng → ws.rng := by exact fun h => absurd rfl h
  delay : t.delay ≠ s.delay → ws.delay := by exact fun h => absurd rfl h
  sound : t.sound ≠ s.sound → ws.sound := by exact fun h => absurd rfl h
  stack : t.stack ≠ s.stack → ws.stack := by exact fun h => absurd rfl h
  screen : t.screen ≠ s.screen → ws.screen := by exact fun h => absurd rfl h
  index : t.index ≠ s.index → ws.index := by exact fun h => absurd rfl h
  pc : t.pc ≠ s.pc → ws.pc := by exact fun h => absurd rfl h
  memory : ∀ a, t.memory.read a ≠ s.memory.read a → ws.memory a := by
    exact fun _ h => absurd rfl h
  register : ∀ r, t.reg r ≠ s.reg r → ws.register r := by exact fun _ h => absurd rfl h

/-- What one write set allows, the other allows too. -/
structure Within (ws ws' : WriteSet) : Prop where
  rng : ws.rng → ws'.rng := by exact False.elim
  delay : ws.delay → ws'.delay := by exact False.elim
  sound : ws.sound → ws'.sound := by exact False.elim
  stack : ws.stack → ws'.stack := by exact False.elim
  screen : ws.screen → ws'.screen := by exact False.elim
  index : ws.index → ws'.index := by exact False.elim
  pc : ws.pc → ws'.pc := by exact False.elim
  memory : ∀ a, ws.memory a → ws'.memory a := by exact fun _ => False.elim
  register : ∀ r, ws.register r → ws'.register r := by exact fun _ => False.elim

theorem Covers.mono {ws ws' : WriteSet} {s t : State} (h : ws.Covers s t) (hws : ws.Within ws') :
    ws'.Covers s t where
  config := h.config
  keypad := h.keypad
  rng := fun hne => hws.rng (h.rng hne)
  delay := fun hne => hws.delay (h.delay hne)
  sound := fun hne => hws.sound (h.sound hne)
  stack := fun hne => hws.stack (h.stack hne)
  screen := fun hne => hws.screen (h.screen hne)
  index := fun hne => hws.index (h.index hne)
  pc := fun hne => hws.pc (h.pc hne)
  memory := fun a hne => hws.memory a (h.memory a hne)
  register := fun r hne => hws.register r (h.register r hne)

/-! What a write set leaves out is the same -/

section

variable {ws : WriteSet} {s t : State}

theorem Covers.rng_eq (h : ws.Covers s t) (hws : ¬ ws.rng) : t.rng = s.rng := by
  by_contra hne
  exact hws (h.rng hne)

theorem Covers.delay_eq (h : ws.Covers s t) (hws : ¬ ws.delay) : t.delay = s.delay := by
  by_contra hne
  exact hws (h.delay hne)

theorem Covers.sound_eq (h : ws.Covers s t) (hws : ¬ ws.sound) : t.sound = s.sound := by
  by_contra hne
  exact hws (h.sound hne)

theorem Covers.stack_eq (h : ws.Covers s t) (hws : ¬ ws.stack) : t.stack = s.stack := by
  by_contra hne
  exact hws (h.stack hne)

theorem Covers.screen_eq (h : ws.Covers s t) (hws : ¬ ws.screen) : t.screen = s.screen := by
  by_contra hne
  exact hws (h.screen hne)

theorem Covers.index_eq (h : ws.Covers s t) (hws : ¬ ws.index) : t.index = s.index := by
  by_contra hne
  exact hws (h.index hne)

end

end WriteSet

/-- The variants of `8XYN` that write the flag, according to the mode. -/
def AluOp.WritesFlag (modern : Bool) : AluOp → Prop
  | set => False
  | or | and | xor => modern = false
  | add | sub | shiftRight | subFrom | shiftLeft => True

/-- An address is among the first `length` from the index upwards, modulo the memory size. -/
def State.InBlock (s : State) (length address : Nat) : Prop :=
  ∃ k < length, address % 4096 = (s.index.toNat + k) % 4096

/-- What an instruction may change in a state. -/
def Instruction.writeSet (s : State) : Instruction → WriteSet
  | clearScreen => { screen := True }
  | ret | call _ => { stack := True, pc := True }
  | jump _ | jumpWithOffset _ _ => { pc := True }
  | skipIfEqual x byte => { pc := s.reg x = byte }
  | skipIfNotEqual x byte => { pc := s.reg x ≠ byte }
  | skipIfRegistersEqual x y => { pc := s.reg x = s.reg y }
  | skipIfRegistersNotEqual x y => { pc := s.reg x ≠ s.reg y }
  | skipIfHeld x => { pc := s.keypad.isHeld (s.keyIn x) = true }
  | skipIfReleased x => { pc := s.keypad.isHeld (s.keyIn x) = false }
  | loadImmediate x _ | addImmediate x _ | readDelay x => { register := fun r => r = x }
  | alu op x _ =>
    { register := fun r => r = x ∨ r = State.flagRegister ∧ op.WritesFlag s.config.modern }
  | loadIndex _ | addToIndex _ | selectGlyph _ => { index := True }
  | random x _ => { rng := True, register := fun r => r = x }
  | drawSprite _ _ _ =>
    { screen := True, register := fun r => r = State.flagRegister ∧ s.config.extended = true }
  | waitForKey x =>
    { register := fun r => r = x, pc := ∀ key, s.keypad.isHeld key = false }
  | setDelay _ => { delay := True }
  | setSound _ => { sound := True }
  | storeDecimal _ => { memory := s.InBlock 3 }
  | storeRegisters x =>
    { memory := s.InBlock (x.val + 1), index := s.config.modern = false }
  | loadRegisters x => { register := fun r => r ≤ x, index := s.config.modern = false }
  | unassigned | unknown => {}

namespace State

variable {s : State}

/-! ## One instruction -/

theorem eq_of_reg_setReg_ne {x r : Fin 16} {byte : UInt8}
    (h : (s.setReg x byte).reg r ≠ s.reg r) : r = x := by
  by_contra hne
  rw [reg_setReg, if_neg (Ne.symm hne)] at h
  exact h rfl

theorem writesFlag_of_evaluate {op : AluOp} {modern : Bool} {a b value flag : UInt8}
    (h : op.evaluate modern a b = ⟨value, some flag⟩) : op.WritesFlag modern := by
  cases op with
  | set => nomatch h
  | or | and | xor =>
      cases modern with
      | true => nomatch h
      | false => rfl
  | add | sub | shiftRight | subFrom | shiftLeft => trivial

variable {ws : WriteSet}

theorem covers_setReg {x : Fin 16} (byte : UInt8) (h : ws.register x) :
    ws.Covers s (s.setReg x byte) where
  register := fun _ hne => eq_of_reg_setReg_ne hne ▸ h

theorem covers_skipIf {holds : Bool} (h : holds = true → ws.pc) :
    ws.Covers s (s.skipIf holds) := by
  cases holds with
  | true => exact { pc := fun _ => h rfl }
  | false => exact {}

theorem covers_applyAlu (s : State) (op : AluOp) (x y : Fin 16) :
    ((Instruction.alu op x y).writeSet s).Covers s (s.applyAlu op x y) := by
  -- the flag, if there is one, is written over the result
  rcases hresult : op.evaluate s.config.modern (s.reg x) (s.reg y) with ⟨value, _ | flag⟩
  · simp only [applyAlu, hresult]
    exact { register := fun _ hne => Or.inl (eq_of_reg_setReg_ne hne) }
  · simp only [applyAlu, hresult]
    refine { register := fun r hne => ?_ }
    by_cases hr : r = flagRegister
    · exact Or.inr ⟨hr, writesFlag_of_evaluate hresult⟩
    · rw [reg_setReg, if_neg (Ne.symm hr)] at hne
      exact Or.inl (eq_of_reg_setReg_ne hne)

theorem covers_draw (s : State) (x y height : Fin 16) :
    ((Instruction.drawSprite x y height).writeSet s).Covers s (s.draw x y height) := by
  unfold draw
  by_cases hextended : s.config.extended = true
  · simp only [hextended, if_true]
    exact
      { screen := fun _ => trivial
        register := fun r hne => ⟨eq_of_reg_setReg_ne hne, hextended⟩ }
  · simp only [hextended]
    exact { screen := fun _ => trivial }

theorem covers_awaitKey (s : State) (x : Fin 16) :
    ((Instruction.waitForKey x).writeSet s).Covers s (s.awaitKey x) := by
  unfold awaitKey
  rcases hkey : s.keypad.lowest? with _ | key
  · exact { pc := fun _ => (s.keypad.lowest?_eq_none_iff).1 hkey }
  · exact covers_setReg _ rfl

theorem inBlock_of_read_ne {bytes : List UInt8} {address : Nat}
    (h : (s.memory.writeBlock s.index.toNat bytes).read address ≠ s.memory.read address) :
    s.InBlock bytes.length address := by
  by_contra hnot
  refine h (s.memory.read_writeBlock_of_ne bytes fun k hk heq => ?_)
  exact hnot ⟨k, hk, heq⟩

theorem modern_eq_false_of_indexPast_ne {x : Fin 16} (h : s.indexPast x ≠ s.index) :
    s.config.modern = false := by
  rw [← Bool.not_eq_true]
  intro hmodern
  exact h (if_pos hmodern)

theorem covers_storeBlock (s : State) (x : Fin 16) :
    ((Instruction.storeRegisters x).writeSet s).Covers s (s.storeBlock x) := by
  unfold storeBlock
  refine { memory := fun a hne => ?_, index := modern_eq_false_of_indexPast_ne }
  have hblock := inBlock_of_read_ne hne
  rw [length_registersUpTo] at hblock
  exact hblock

theorem reg_loadBlock (s : State) (x r : Fin 16) :
    (s.loadBlock x).reg r =
      if r ≤ x then s.memory.read (s.index.toNat + r.val) else s.reg r :=
  Vector.getElem_ofFn r.isLt

theorem covers_loadBlock (s : State) (x : Fin 16) :
    ((Instruction.loadRegisters x).writeSet s).Covers s (s.loadBlock x) := by
  have hregister : ∀ r, (s.loadBlock x).reg r ≠ s.reg r → r ≤ x := by
    intro r hne
    by_contra hr
    exact hne (by rw [reg_loadBlock, if_neg hr])
  unfold loadBlock at hregister ⊢
  exact { register := hregister, index := modern_eq_false_of_indexPast_ne }

/-- An instruction changes nothing outside its write set. -/
theorem covers_perform (s : State) (i : Instruction) : (i.writeSet s).Covers s (s.perform i) := by
  cases i with
  | clearScreen => exact { screen := fun _ => trivial }
  | ret | call target => exact { stack := fun _ => trivial, pc := fun _ => trivial }
  | jump target | jumpWithOffset x target => exact { pc := fun _ => trivial }
  | skipIfEqual x byte => exact covers_skipIf of_decide_eq_true
  | skipIfNotEqual x byte => exact covers_skipIf of_decide_eq_true
  | skipIfRegistersEqual x y => exact covers_skipIf of_decide_eq_true
  | skipIfRegistersNotEqual x y => exact covers_skipIf of_decide_eq_true
  | skipIfHeld x => exact covers_skipIf id
  | skipIfReleased x =>
      have hreleased : (!s.keypad.isHeld (s.keyIn x)) = true →
          s.keypad.isHeld (s.keyIn x) = false := by simp
      exact covers_skipIf hreleased
  | loadImmediate x byte | addImmediate x byte | readDelay x => exact covers_setReg _ rfl
  | alu op x y => exact s.covers_applyAlu op x y
  | loadIndex address | addToIndex x | selectGlyph x => exact { index := fun _ => trivial }
  | random x mask =>
      exact
        { rng := fun _ => trivial
          register := fun _ hne => eq_of_reg_setReg_ne hne }
  | drawSprite x y height => exact s.covers_draw x y height
  | waitForKey x => exact s.covers_awaitKey x
  | setDelay x => exact { delay := fun _ => trivial }
  | setSound x => exact { sound := fun _ => trivial }
  | storeDecimal x => exact { memory := fun _ => inBlock_of_read_ne }
  | storeRegisters x => exact s.covers_storeBlock x
  | loadRegisters x => exact s.covers_loadBlock x
  | unassigned | unknown => exact {}

/-! ## One word -/

/-- The word is a skip, and its condition holds. -/
def TakesSkip (s : State) (w : Word) : Prop :=
  Word.opcode w = 0x3 ∧ s.reg (Word.x w) = Word.nn w ∨
    Word.opcode w = 0x4 ∧ s.reg (Word.x w) ≠ Word.nn w ∨
    Word.opcode w = 0x5 ∧ Word.n w = 0 ∧ s.reg (Word.x w) = s.reg (Word.y w) ∨
    Word.opcode w = 0x9 ∧ Word.n w = 0 ∧ s.reg (Word.x w) ≠ s.reg (Word.y w) ∨
    Word.opcode w = 0xE ∧ Word.nn w = 0x9E ∧ s.keypad.isHeld (s.keyIn (Word.x w)) = true ∨
    Word.opcode w = 0xE ∧ Word.nn w = 0xA1 ∧ s.keypad.isHeld (s.keyIn (Word.x w)) = false

end State

/-- What a word may change in a state. -/
def Word.writeSet (s : State) (w : Word) : WriteSet where
  -- `CXNN`, if it is executed
  rng := Word.opcode w = 0xC ∧ s.config.executes (Instruction.decode w) = true
  -- `FX15` and `FX18`
  delay := Word.opcode w = 0xF ∧ Word.nn w = 0x15
  sound := Word.opcode w = 0xF ∧ Word.nn w = 0x18
  -- `2NNN` and `00EE`
  stack := Word.opcode w = 0x2 ∨ w = 0x00EE
  -- `00E0` and `DXYN`
  screen := w = 0x00E0 ∨ Word.opcode w = 0xD
  -- `ANNN`, `FX1E` and `FX29`; on classic machines also `FX55` and `FX65`
  index := Word.opcode w = 0xA ∨
    Word.opcode w = 0xF ∧ (Word.nn w = 0x1E ∨ Word.nn w = 0x29 ∨
      s.config.modern = false ∧ (Word.nn w = 0x55 ∨ Word.nn w = 0x65))
  -- `1NNN`, `2NNN`, `00EE`, `BNNN`, a skip whose condition holds, and `FX0A` while no key is held
  pc := Word.opcode w = 0x1 ∨ Word.opcode w = 0x2 ∨ w = 0x00EE ∨ Word.opcode w = 0xB ∨
    s.TakesSkip w ∨
    Word.opcode w = 0xF ∧ Word.nn w = 0x0A ∧ ∀ key, s.keypad.isHeld key = false
  -- three cells for `FX33`, as many cells as there are registers up to VX for `FX55`
  memory := fun address => Word.opcode w = 0xF ∧
    (Word.nn w = 0x33 ∧ s.InBlock 3 address ∨
      Word.nn w = 0x55 ∧ s.InBlock ((Word.x w).val + 1) address)
  register := fun r =>
    -- VX for `6XNN`, `7XNN`, `8XYN`, `CXNN`, `FX07` and `FX0A`
    r = Word.x w ∧
        (Word.opcode w = 0x6 ∨ Word.opcode w = 0x7 ∨ Word.opcode w = 0x8 ∨ Word.opcode w = 0xC ∨
          Word.opcode w = 0xF ∧ (Word.nn w = 0x07 ∨ Word.nn w = 0x0A)) ∨
      -- V0 to VX for `FX65`
      r ≤ Word.x w ∧ Word.opcode w = 0xF ∧ Word.nn w = 0x65 ∨
      -- VF for `8XY4` to `8XY7`, `8XYE`, on classic machines also `8XY1` to `8XY3`, and for
      -- `DXYN` in the extended profile
      r = State.flagRegister ∧
        (Word.opcode w = 0x8 ∧
            (0x4 ≤ Word.n w ∧ Word.n w ≤ 0x7 ∨ Word.n w = 0xE ∨
              s.config.modern = false ∧ 0x1 ≤ Word.n w ∧ Word.n w ≤ 0x3) ∨
          Word.opcode w = 0xD ∧ s.config.extended = true)

theorem AluOp.digit_of_writesFlag {op : AluOp} {modern : Bool} (h : op.WritesFlag modern) :
    0x4 ≤ op.digit ∧ op.digit ≤ 0x7 ∨ op.digit = 0xE ∨
      modern = false ∧ 0x1 ≤ op.digit ∧ op.digit ≤ 0x3 := by
  cases op with
  | set => exact h.elim
  | or | and | xor => exact Or.inr (Or.inr ⟨h, by decide⟩)
  | shiftLeft => exact Or.inr (Or.inl rfl)
  | add | sub | shiftRight | subFrom => exact Or.inl (by decide)

namespace State

variable {s : State} {w : Word}

theorem pc_writeSet_of_takesSkip (h : s.TakesSkip w) : (Word.writeSet s w).pc :=
  Or.inr (Or.inr (Or.inr (Or.inr (Or.inl h))))

theorem register_writeSet_of_eq_x {r : Fin 16} (hr : r = Word.x w)
    (h : Word.opcode w = 0x6 ∨ Word.opcode w = 0x7 ∨ Word.opcode w = 0x8 ∨ Word.opcode w = 0xC ∨
      Word.opcode w = 0xF ∧ (Word.nn w = 0x07 ∨ Word.nn w = 0x0A)) :
    (Word.writeSet s w).register r :=
  Or.inl ⟨hr, h⟩

/-- The write set of a word contains that of the instruction that it encodes. -/
theorem writeSet_within {i : Instruction} (hencoded : i.EncodedBy w)
    (hexecutes : s.config.executes i = true) :
    (i.writeSet s).Within (Word.writeSet s w) := by
  have hdecode := Instruction.decode_of_encodedBy hencoded
  cases i with
  | clearScreen => exact { screen := fun _ => Or.inl hencoded }
  | ret =>
      exact
        { stack := fun _ => Or.inr hencoded
          pc := fun _ => Or.inr (Or.inr (Or.inl hencoded)) }
  | jump target => exact { pc := fun _ => Or.inl hencoded.1 }
  | call target =>
      exact
        { stack := fun _ => Or.inl hencoded.1
          pc := fun _ => Or.inr (Or.inl hencoded.1) }
  | jumpWithOffset x target =>
      exact { pc := fun _ => Or.inr (Or.inr (Or.inr (Or.inl hencoded.1))) }
  | skipIfEqual x byte =>
      obtain ⟨hopcode, rfl, rfl⟩ := hencoded
      exact { pc := fun h => pc_writeSet_of_takesSkip (Or.inl ⟨hopcode, h⟩) }
  | skipIfNotEqual x byte =>
      obtain ⟨hopcode, rfl, rfl⟩ := hencoded
      exact { pc := fun h => pc_writeSet_of_takesSkip (Or.inr (Or.inl ⟨hopcode, h⟩)) }
  | skipIfRegistersEqual x y =>
      obtain ⟨hopcode, hn, rfl, rfl⟩ := hencoded
      refine { pc := fun h => pc_writeSet_of_takesSkip ?_ }
      exact Or.inr (Or.inr (Or.inl ⟨hopcode, hn, h⟩))
  | skipIfRegistersNotEqual x y =>
      obtain ⟨hopcode, hn, rfl, rfl⟩ := hencoded
      refine { pc := fun h => pc_writeSet_of_takesSkip ?_ }
      exact Or.inr (Or.inr (Or.inr (Or.inl ⟨hopcode, hn, h⟩)))
  | skipIfHeld x =>
      obtain ⟨hopcode, hnn, rfl⟩ := hencoded
      refine { pc := fun h => pc_writeSet_of_takesSkip ?_ }
      exact Or.inr (Or.inr (Or.inr (Or.inr (Or.inl ⟨hopcode, hnn, h⟩))))
  | skipIfReleased x =>
      obtain ⟨hopcode, hnn, rfl⟩ := hencoded
      refine { pc := fun h => pc_writeSet_of_takesSkip ?_ }
      exact Or.inr (Or.inr (Or.inr (Or.inr (Or.inr ⟨hopcode, hnn, h⟩))))
  | loadImmediate x byte | addImmediate x byte =>
      obtain ⟨hopcode, rfl, rfl⟩ := hencoded
      exact { register := fun r hr => register_writeSet_of_eq_x hr (by simp [hopcode]) }
  | readDelay x =>
      obtain ⟨hopcode, hnn, rfl⟩ := hencoded
      exact { register := fun r hr => register_writeSet_of_eq_x hr (by simp [hopcode, hnn]) }
  | alu op x y =>
      obtain ⟨hopcode, hop, rfl, rfl⟩ := hencoded
      rw [AluOp.ofDigit?_eq_some_iff] at hop
      refine { register := fun r hr => ?_ }
      rcases hr with hr | ⟨hr, hflag⟩
      · exact register_writeSet_of_eq_x hr (by simp [hopcode])
      · have hdigit := AluOp.digit_of_writesFlag hflag
        rw [← hop] at hdigit
        exact Or.inr (Or.inr ⟨hr, Or.inl ⟨hopcode, hdigit⟩⟩)
  | loadIndex address => exact { index := fun _ => Or.inl hencoded.1 }
  | addToIndex x =>
      exact { index := fun _ => Or.inr ⟨hencoded.1, Or.inl hencoded.2.1⟩ }
  | selectGlyph x =>
      exact { index := fun _ => Or.inr ⟨hencoded.1, Or.inr (Or.inl hencoded.2.1)⟩ }
  | random x mask =>
      obtain ⟨hopcode, rfl, rfl⟩ := hencoded
      exact
        { rng := fun _ => ⟨hopcode, by rw [hdecode, hexecutes]⟩
          register := fun r hr => register_writeSet_of_eq_x hr (by simp [hopcode]) }
  | drawSprite x y height =>
      exact
        { screen := fun _ => Or.inr hencoded.1
          register := fun r hr => Or.inr (Or.inr ⟨hr.1, Or.inr ⟨hencoded.1, hr.2⟩⟩) }
  | waitForKey x =>
      obtain ⟨hopcode, hnn, rfl⟩ := hencoded
      exact
        { register := fun r hr => register_writeSet_of_eq_x hr (by simp [hopcode, hnn])
          pc := fun h => Or.inr (Or.inr (Or.inr (Or.inr (Or.inr ⟨hopcode, hnn, h⟩)))) }
  | setDelay x => exact { delay := fun _ => ⟨hencoded.1, hencoded.2.1⟩ }
  | setSound x => exact { sound := fun _ => ⟨hencoded.1, hencoded.2.1⟩ }
  | storeDecimal x =>
      exact { memory := fun _ h => ⟨hencoded.1, Or.inl ⟨hencoded.2.1, h⟩⟩ }
  | storeRegisters x =>
      obtain ⟨hopcode, hnn, rfl⟩ := hencoded
      exact
        { memory := fun _ h => ⟨hopcode, Or.inr ⟨hnn, h⟩⟩
          index := fun h => Or.inr ⟨hopcode, Or.inr (Or.inr ⟨h, Or.inl hnn⟩)⟩ }
  | loadRegisters x =>
      obtain ⟨hopcode, hnn, rfl⟩ := hencoded
      exact
        { register := fun r hr => Or.inr (Or.inl ⟨hr, hopcode, hnn⟩)
          index := fun h => Or.inr ⟨hopcode, Or.inr (Or.inr ⟨h, Or.inr hnn⟩)⟩ }
  | unassigned | unknown => exact {}

/-- A word does what it encodes, unless its profile leaves it out. -/
theorem executeWord_cases (s : State) (w : Word) :
    s.executeWord w = s ∨
      ∃ i : Instruction, i.EncodedBy w ∧ s.config.executes i = true ∧
        s.executeWord w = s.perform i := by
  by_cases hexecutes : s.config.executes (Instruction.decode w) = true
  · exact Or.inr ⟨_, Instruction.encodedBy_of_executes hexecutes, hexecutes, if_pos hexecutes⟩
  · exact Or.inl (if_neg hexecutes)

/-- Executing a word, on any state and in any configuration, changes nothing outside the write set
    of the word. -/
theorem executeWord_covered (s : State) (w : Word) :
    (Word.writeSet s w).Covers s (s.executeWord w) := by
  unfold executeWord execute
  split
  · next hexecutes =>
      have hencoded := Instruction.encodedBy_of_executes hexecutes
      exact (s.covers_perform (Instruction.decode w)).mono (writeSet_within hencoded hexecutes)
  · exact {}

end State

end Chip8
