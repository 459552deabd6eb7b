import Chip8.Proofs.RegisterBlock

set_option autoImplicit false

/-! # Decimal digits in memory

`FX33` writes the decimal digits of VX to three cells, and `F265` loads three cells into V0, V1 and
V2. The first is described by place values (`State.StoresDecimal`): the cells hold one digit each,
and together they are the number that VX held. So loading them gives the digits of this number,
whichever register it was in, also one of those that the digits replace, and wherever the cells are
(`State.decimalDigits_loaded`). -/

namespace Chip8

namespace State

variable {s u v : State} {x : Fin 16}

/-! ## Storing digits -/

/-- From `s` to `u`, the three cells from the index upwards take the decimal digits of VX, hundreds
    first. No other cell changes, and nothing else does. -/
structure StoresDecimal (s : State) (x : Fin 16) (u : State) : Prop where
  digit : ∀ k < 3, (u.memory.read (s.index.toNat + k)).toNat ≤ 9
  value : 100 * (u.memory.read (s.index.toNat + 0)).toNat +
    10 * (u.memory.read (s.index.toNat + 1)).toNat +
    (u.memory.read (s.index.toNat + 2)).toNat = (s.reg x).toNat
  others : ∀ a, ¬ s.InBlock 3 a → u.memory.read a = s.memory.read a
  rest : u = { s with memory := u.memory }

/-- The digits are in the three cells from the index upwards. -/
theorem read_storeDecimal (s : State) (x : Fin 16) :
    let u := s.perform (.storeDecimal x)
    (u.memory.read (s.index.toNat + 0)).toNat = (s.reg x).toNat / 100 ∧
      (u.memory.read (s.index.toNat + 1)).toNat = (s.reg x).toNat / 10 % 10 ∧
      (u.memory.read (s.index.toNat + 2)).toNat = (s.reg x).toNat % 10 := by
  intro u
  have hlength : (decimalDigits (s.reg x)).length ≤ 4096 := Nat.le_of_ble_eq_true rfl
  have hcell : ∀ {k : Nat} (hk : k < 3), u.memory.read (s.index.toNat + k) =
      (decimalDigits (s.reg x))[k] :=
    fun hk => s.memory.read_writeBlock s.index.toNat hlength hk
  rw [hcell (by decide), hcell (by decide), hcell (by decide)]
  simp [decimalDigits]

theorem storesDecimal_perform (s : State) (x : Fin 16) :
    StoresDecimal s x (s.perform (.storeDecimal x)) := by
  obtain ⟨hhundreds, htens, hones⟩ := s.read_storeDecimal x
  have hbyte := (s.reg x).toNat_lt
  refine ⟨?_, ?_, fun a hout => ?_, rfl⟩
  · intro k hk
    obtain rfl | rfl | rfl : k = 0 ∨ k = 1 ∨ k = 2 := by omega
    · omega
    · omega
    · omega
  · omega
  · exact s.memory.read_writeBlock_of_ne _ fun k hk ha => hout ⟨k, hk, ha⟩

/-- `FX33` stores digits. -/
theorem storesDecimal_executeWord (hextended : s.config.extended = true) {w : Word}
    (hw : Word.opcode w = 0xF ∧ Word.nn w = 0x33) :
    StoresDecimal s (Word.x w) (s.executeWord w) := by
  rw [executeWord_of_encodedBy hextended (i := .storeDecimal (Word.x w)) ⟨hw.1, hw.2, rfl⟩]
  exact s.storesDecimal_perform (Word.x w)

/-! ## Loading them back -/

/-- A block that is loaded after digits were stored has the digits in its first three registers. -/
theorem StoresDecimal.reg_of_loadsBlock (hstore : StoresDecimal s x u) (hload : LoadsBlock u 2 v)
    {k : Fin 16} (hk : k ≤ 2) : v.reg k = u.memory.read (s.index.toNat + k.val) := by
  have hindex : u.index = s.index := by rw [hstore.rest]
  exact hload.block k hk _ (by rw [hindex])

/-- `FX33` and then `F265` on extended machines, in either mode, for every `X` and every index. The
    registers V0, V1 and V2 take the decimal digits of the number that VX held, even if VX is one of
    them; the other registers stay. No cell changes but the three from the index upwards, and apart
    from memory, these registers and the index, which is as the mode has it, nothing does. -/
theorem decimalDigits_loaded (hextended : s.config.extended = true) {store : Word}
    (hstore : Word.opcode store = 0xF ∧ Word.nn store = 0x33) :
    let v := (s.executeWord store).executeWord 0xF265
    (∀ k ≤ 0x2, (v.reg k).toNat ≤ 9) ∧
      100 * (v.reg 0x0).toNat + 10 * (v.reg 0x1).toNat + (v.reg 0x2).toNat =
        (s.reg (Word.x store)).toNat ∧
      (∀ k, 0x2 < k → v.reg k = s.reg k) ∧
      (∀ a, (∀ k < 3, a % 4096 ≠ (s.index.toNat + k) % 4096) →
        v.memory.read a = s.memory.read a) ∧
      BlockIndex s 0x2 v ∧
      v = { s with memory := v.memory, registers := v.registers, index := v.index } := by
  intro v
  let u := s.executeWord store
  have hdigits : StoresDecimal s (Word.x store) u := storesDecimal_executeWord hextended hstore
  have hload : LoadsBlock u 0x2 v := by
    have hconfig : u.config = s.config := by rw [hdigits.rest]
    exact loadsBlock_executeWord (hconfig ▸ hextended : u.config.extended = true) (w := 0xF265)
      ⟨rfl, rfl⟩
  have hreg : ∀ {k : Fin 16}, k ≤ 0x2 → v.reg k = u.memory.read (s.index.toNat + k.val) :=
    hdigits.reg_of_loadsBlock hload
  refine ⟨fun k hk => ?_, ?_, fun k hk => ?_, fun a ha => ?_, ?_, ?_⟩
  · rw [hreg hk]
    exact hdigits.digit k.val (Nat.lt_succ_of_le hk)
  · rw [hreg (by decide), hreg (by decide), hreg (by decide)]
    exact hdigits.value
  · calc v.reg k
        = u.reg k := hload.others k hk
      _ = s.reg k := by rw [hdigits.rest]; rfl
  · calc v.memory.read a
        = u.memory.read a := by rw [hload.memory_eq]
      _ = s.memory.read a := hdigits.others a fun ⟨k, hk, hak⟩ => ha k hk hak
  · have hindex := hload.index
    rw [hdigits.rest] at hindex
    exact hindex
  · have hrest := hload.rest
    rw [hrest, hdigits.rest]

/-- The number 254 in V1 on a classic machine with the index `FFFE`: two digits go to the last cells
    of memory and one to the first, and the tens replace the number. -/
theorem decimalDigits_loaded_at_end :
    let s : State :=
      { (initial ⟨.extended, false⟩ .zero).setReg 0x1 254 with index := 0xFFFE }
    let v := (s.executeWord 0xF133).executeWord 0xF265
    s.config.extended = true ∧ (Word.opcode 0xF133 = 0xF ∧ Word.nn 0xF133 = 0x33) ∧
      100 * (v.reg 0x0).toNat + 10 * (v.reg 0x1).toNat + (v.reg 0x2).toNat = 254 ∧
      v.memory.read 0x001 = 0 ∧ v.index.toNat = 0x0001 := by
  intro s v
  have hstore : Word.opcode 0xF133 = 0xF ∧ Word.nn 0xF133 = 0x33 := ⟨rfl, rfl⟩
  obtain ⟨-, hvalue, -, hmemory, hindex, -⟩ := decimalDigits_loaded (s := s) rfl hstore
  have hcell : s.memory.read 0x001 = 0 := by decide +kernel
  refine ⟨rfl, hstore, hvalue, ?_, Eq.trans hindex (by decide)⟩
  rw [hmemory 0x001 (by decide), hcell]

end State

end Chip8
