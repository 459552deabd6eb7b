import Chip8.Proofs.Repertoire
import Chip8.Proofs.WriteSet

set_option autoImplicit false

/-! # Register blocks in memory

`FX55` stores V0 to VX from the index upwards and `FX65` loads them from there. Each is described by
what it does to memory and to registers (`State.StoresBlock`, `State.LoadsBlock`), and that they
undo each other follows from these descriptions alone (`StoresBlock.reg_of_loadsBlock`,
`LoadsBlock.memory_of_storesBlock`). It does not matter where the block is: its cells are distinct
also where it runs past the end of memory or the index past its largest value
(`State.registerBlock_inverse`). -/

namespace Chip8

namespace State

variable {s t u v : State} {x : Fin 16}

/-! ## Storing and loading, each on its own -/

/-- The index that a register block leaves: on modern machines the old one, on classic ones that
    just past the block, modulo 2¹⁶. -/
def BlockIndex (s : State) (x : Fin 16) (t : State) : Prop :=
  t.index.toNat =
    if s.config.modern then s.index.toNat else (s.index.toNat + x.val + 1) % 65536

/-- From `s` to `u`, the cells from the index upwards take V0 to VX. No other cell changes, and the
    index apart, nothing else does. -/
structure StoresBlock (s : State) (x : Fin 16) (u : State) : Prop where
  block : ∀ k ≤ x, ∀ a, a % 4096 = (s.index.toNat + k.val) % 4096 → u.memory.read a = s.reg k
  others : ∀ a, ¬ s.InBlock (x.val + 1) a → u.memory.read a = s.memory.read a
  index : BlockIndex s x u
  rest : u = { s with memory := u.memory, index := u.index }

/-- From `t` to `v`, V0 to VX take the cells from the index upwards. No other register changes, and
    the index apart, nothing else does. -/
structure LoadsBlock (t : State) (x : Fin 16) (v : State) : Prop where
  block : ∀ k ≤ x, ∀ a, a % 4096 = (t.index.toNat + k.val) % 4096 → v.reg k = t.memory.read a
  others : ∀ k, x < k → v.reg k = t.reg k
  index : BlockIndex t x v
  rest : v = { t with registers := v.registers, index := v.index }

theorem toNat_indexPast (s : State) (x : Fin 16) :
    (s.indexPast x).toNat =
      if s.config.modern then s.index.toNat else (s.index.toNat + x.val + 1) % 65536 := by
  have hx := x.isLt
  unfold indexPast
  split
  · rfl
  · rw [UInt16.toNat_add, UInt16.toNat_ofNat']
    omega

theorem storesBlock_storeBlock (s : State) (x : Fin 16) : StoresBlock s x (s.storeBlock x) where
  block := by
    intro k hk a ha
    rw [Memory.read_congr _ ha, s.read_storeBlock hk]
  others := by
    intro a hout
    exact s.read_storeBlock_of_ne x fun k hk ha => hout ⟨k, hk, ha⟩
  index := s.toNat_indexPast x
  rest := rfl

theorem loadsBlock_loadBlock (t : State) (x : Fin 16) : LoadsBlock t x (t.loadBlock x) where
  block := by
    intro k hk a ha
    rw [reg_loadBlock, if_pos hk, Memory.read_congr _ ha]
  others := by
    intro k hk
    rw [reg_loadBlock, if_neg (Fin.not_le.2 hk)]
  index := t.toNat_indexPast x
  rest := rfl

/-- `FX55` stores a block. -/
theorem storesBlock_executeWord (hextended : s.config.extended = true) {w : Word}
    (hw : Word.opcode w = 0xF ∧ Word.nn w = 0x55) :
    StoresBlock s (Word.x w) (s.executeWord w) := by
  rw [executeWord_of_encodedBy hextended (i := .storeRegisters (Word.x w)) ⟨hw.1, hw.2, rfl⟩]
  exact s.storesBlock_storeBlock (Word.x w)

/-- `FX65` loads a block. -/
theorem loadsBlock_executeWord (hextended : t.config.extended = true) {w : Word}
    (hw : Word.opcode w = 0xF ∧ Word.nn w = 0x65) :
    LoadsBlock t (Word.x w) (t.executeWord w) := by
  rw [executeWord_of_encodedBy hextended (i := .loadRegisters (Word.x w)) ⟨hw.1, hw.2, rfl⟩]
  exact t.loadsBlock_loadBlock (Word.x w)

/-! ## One after the other -/

theorem LoadsBlock.config_eq (h : LoadsBlock t x v) : v.config = t.config := by
  rw [h.rest]

theorem LoadsBlock.memory_eq (h : LoadsBlock t x v) : v.memory = t.memory := by
  rw [h.rest]

/-- What is loaded from a stored block is what was stored. -/
theorem StoresBlock.reg_of_loadsBlock (hstore : StoresBlock s x u) (hmemory : t.memory = u.memory)
    (hindex : t.index.toNat % 4096 = s.index.toNat % 4096) (hload : LoadsBlock t x v)
    {k : Fin 16} (hk : k ≤ x) : v.reg k = s.reg k := by
  -- equal indices modulo the memory size give equal cells for each register
  have hcell : (s.index.toNat + k.val) % 4096 = (t.index.toNat + k.val) % 4096 := by omega
  calc v.reg k
      = t.memory.read (s.index.toNat + k.val) := hload.block k hk _ hcell
    _ = u.memory.read (s.index.toNat + k.val) := by rw [hmemory]
    _ = s.reg k := hstore.block k hk _ rfl

/-- A loaded block, stored where it came from, changes no cell. -/
theorem LoadsBlock.memory_of_storesBlock (hload : LoadsBlock s x v)
    (hstore : StoresBlock { v with index := s.index } x u) : u.memory = s.memory := by
  apply Memory.ext_read
  intro a
  by_cases hin : s.InBlock (x.val + 1) a
  · obtain ⟨k, hk, ha⟩ := hin
    have hlt : k < 16 := by omega
    have hle : (⟨k, hlt⟩ : Fin 16) ≤ x := Nat.le_of_lt_succ hk
    calc u.memory.read a
        = v.reg ⟨k, hlt⟩ := hstore.block ⟨k, hlt⟩ hle a ha
      _ = s.memory.read a := hload.block ⟨k, hlt⟩ hle a ha
  · calc u.memory.read a
        = v.memory.read a := hstore.others a hin
      _ = s.memory.read a := by rw [hload.memory_eq]

/-- `FX55` and `FX65` on extended machines, in either mode, for every `X` and every index. Storing
    writes V0 to VX to the cells from the index upwards and to no others. Loading with the same
    `X`, on a machine with that memory and with an index at the same cell, brings V0 to VX back and
    leaves the other registers and memory alone. If the block is loaded first and then stored at the
    same index, memory is what it was. Each of them leaves the index as its mode has it. -/
theorem registerBlock_inverse (hextended : s.config.extended = true) {store load : Word}
    (hstore : Word.opcode store = 0xF ∧ Word.nn store = 0x55)
    (hload : Word.opcode load = 0xF ∧ Word.nn load = 0x65) (hx : Word.x load = Word.x store) :
    let x := Word.x store
    let loaded := s.executeWord load
    let back : State := { loaded with index := s.index }
    StoresBlock s x (s.executeWord store) ∧
      (∀ t : State, t.config = s.config → t.memory = (s.executeWord store).memory →
        t.index.toNat % 4096 = s.index.toNat % 4096 →
        LoadsBlock t x (t.executeWord load) ∧
          (∀ k ≤ x, (t.executeWord load).reg k = s.reg k) ∧
          (t.executeWord load).memory = t.memory) ∧
      LoadsBlock s x loaded ∧
      StoresBlock back x (back.executeWord store) ∧
      (back.executeWord store).memory = s.memory := by
  intro x loaded back
  have hstored : StoresBlock s x (s.executeWord store) := storesBlock_executeWord hextended hstore
  have hloads : ∀ t : State, t.config = s.config → LoadsBlock t x (t.executeWord load) := by
    intro t hconfig
    have hloads := loadsBlock_executeWord (hconfig ▸ hextended : t.config.extended = true) hload
    rwa [hx] at hloads
  have hloaded : LoadsBlock s x loaded := hloads s rfl
  have hback : StoresBlock back x (back.executeWord store) := by
    have hconfig : back.config = s.config := hloaded.config_eq
    exact storesBlock_executeWord (hconfig ▸ hextended : back.config.extended = true) hstore
  refine ⟨hstored, ?_, hloaded, hback, hloaded.memory_of_storesBlock hback⟩
  intro t hconfig hmemory hindex
  have hagain := hloads t hconfig
  exact ⟨hagain, fun k hk => hstored.reg_of_loadsBlock hmemory hindex hagain hk, hagain.memory_eq⟩

/-- A block of four at the index `FFFE` on a classic machine: it begins two cells before the end of
    memory, and its last register is at cell 1. It is loaded again at `0FFE`. -/
theorem registerBlock_inverse_at_end :
    let s : State :=
      { initial ⟨.extended, false⟩ .zero with
        index := 0xFFFE
        registers := Vector.ofFn fun k => UInt8.ofNat (17 * k.val + 1) }
    let u := s.executeWord 0xF355
    let t : State := { initial ⟨.extended, false⟩ .zero with memory := u.memory, index := 0x0FFE }
    let v := t.executeWord 0xF365
    s.config.extended = true ∧ (Word.opcode 0xF355 = 0xF ∧ Word.nn 0xF355 = 0x55) ∧
      (Word.opcode 0xF365 = 0xF ∧ Word.nn 0xF365 = 0x65) ∧ Word.x 0xF365 = Word.x 0xF355 ∧
      t.config = s.config ∧ t.memory = u.memory ∧
      t.index.toNat % 4096 = s.index.toNat % 4096 ∧
      u.memory.read 0x001 = 0x34 ∧ u.index.toNat = 0x0002 ∧
      v.reg 0x3 = 0x34 ∧ v.reg 0x4 = 0 ∧ v.index.toNat = 0x1002 := by
  intro s u t v
  have hstore : Word.opcode 0xF355 = 0xF ∧ Word.nn 0xF355 = 0x55 := ⟨rfl, rfl⟩
  have hload : Word.opcode 0xF365 = 0xF ∧ Word.nn 0xF365 = 0x65 := ⟨rfl, rfl⟩
  have hV3 : s.reg 0x3 = 0x34 := by decide
  have hindex : t.index.toNat % 4096 = s.index.toNat % 4096 := by decide
  obtain ⟨hstored, hagain, -⟩ := registerBlock_inverse (s := s) rfl hstore hload rfl
  obtain ⟨hloaded, hregisters, -⟩ := hagain t rfl rfl hindex
  refine ⟨rfl, hstore, hload, rfl, rfl, rfl, hindex, ?_, ?_, ?_, ?_, ?_⟩
  · exact (hstored.block 0x3 (by decide) 0x001 (by decide)).trans hV3
  · exact Eq.trans hstored.index (by decide)
  · exact (hregisters 0x3 (by decide)).trans hV3
  · exact hloaded.others 0x4 (by decide)
  · exact Eq.trans hloaded.index (by decide)

end State

end Chip8
