import Chip8.Word

set_option autoImplicit false

/-! # Memory

The 4096 bytes of a machine. Every address is taken modulo the memory size, so reading and writing
never fail and a block that runs past the end continues at address 0. -/

namespace Chip8

/-- The contents of the 4096 cells. -/
structure Memory where
  cells : Vector UInt8 4096
deriving DecidableEq

namespace Memory

/-- How many cells there are. -/
def size : Nat := 4096

/-- Memory in which every cell is zero. -/
def zero : Memory := ⟨Vector.replicate 4096 0⟩

/-- The byte at an address, modulo the size. -/
def read (m : Memory) (address : Nat) : UInt8 := m.cells[address % 4096]

/-- Replace the byte at an address, modulo the size. -/
def write (m : Memory) (address : Nat) (byte : UInt8) : Memory :=
  ⟨m.cells.set (address % 4096) byte⟩

/-- Write bytes one after the other, from an address upwards. -/
def writeBlock (m : Memory) (address : Nat) : List UInt8 → Memory
  | [] => m
  | byte :: bytes => (m.write address byte).writeBlock (address + 1) bytes

/-- The big-endian word at an address. -/
def readWord (m : Memory) (address : Nat) : Word :=
  Word.ofBytes (m.read address) (m.read (address + 1))

/-! ## Reading what was written -/

theorem read_write (m : Memory) (a b : Nat) (byte : UInt8) :
    (m.write a byte).read b = if a % 4096 = b % 4096 then byte else m.read b := by
  simp only [read, write, Vector.getElem_set]

theorem read_congr (m : Memory) {a b : Nat} (h : a % 4096 = b % 4096) : m.read a = m.read b := by
  simp only [read, h]

theorem write_congr (m : Memory) {a b : Nat} (byte : UInt8) (h : a % 4096 = b % 4096) :
    m.write a byte = m.write b byte := by
  simp only [write, h]

theorem readWord_congr (m : Memory) {a b : Nat} (h : a % 4096 = b % 4096) :
    m.readWord a = m.readWord b := by
  have h' : (a + 1) % 4096 = (b + 1) % 4096 := by omega
  rw [readWord, readWord, m.read_congr h, m.read_congr h']

theorem writeBlock_congr (m : Memory) {a b : Nat} (bytes : List UInt8)
    (h : a % 4096 = b % 4096) : m.writeBlock a bytes = m.writeBlock b bytes := by
  induction bytes generalizing m a b with
  | nil => rfl
  | cons byte bytes ih =>
      have h' : (a + 1) % 4096 = (b + 1) % 4096 := by omega
      rw [writeBlock, writeBlock, m.write_congr byte h, ih _ h']

/-- A block changes none of the cells outside it. -/
theorem read_writeBlock_of_ne (m : Memory) {a b : Nat} (bytes : List UInt8)
    (h : ∀ k < bytes.length, b % 4096 ≠ (a + k) % 4096) :
    (m.writeBlock a bytes).read b = m.read b := by
  induction bytes generalizing m a with
  | nil => rfl
  | cons byte bytes ih =>
      have hfirst : ¬ a % 4096 = b % 4096 := fun heq => h 0 (Nat.succ_pos _) heq.symm
      have hrest : ∀ k < bytes.length, b % 4096 ≠ (a + 1 + k) % 4096 := by
        intro k hk heq
        exact h (k + 1) (Nat.succ_lt_succ hk) (by rw [heq, Nat.add_assoc, Nat.add_comm 1])
      rw [writeBlock, ih _ hrest, read_write, if_neg hfirst]

/-- The cells of a block hold its bytes, unless it is longer than the memory and meets itself. -/
theorem read_writeBlock (m : Memory) (a : Nat) {bytes : List UInt8} (hlength : bytes.length ≤ 4096)
    {k : Nat} (hk : k < bytes.length) : (m.writeBlock a bytes).read (a + k) = bytes[k] := by
  induction bytes generalizing m a k with
  | nil => exact absurd hk (Nat.not_lt_zero k)
  | cons byte bytes ih =>
      rw [List.length_cons] at hlength hk
      cases k with
      | zero =>
          have hlater : ∀ j < bytes.length, a % 4096 ≠ (a + 1 + j) % 4096 := by
            intro j hj
            omega
          show ((m.write a byte).writeBlock (a + 1) bytes).read a = byte
          rw [read_writeBlock_of_ne _ _ hlater, read_write, if_pos rfl]
      | succ k =>
          have hshift : a + (k + 1) = a + 1 + k := by omega
          rw [writeBlock, hshift, ih _ _ (by omega) (Nat.lt_of_succ_lt_succ hk)]
          rfl

/-- The two bytes of a word, written high byte first, are read back as the word. -/
theorem readWord_writeBlock (m : Memory) (a : Nat) (high low : UInt8) :
    (m.writeBlock a [high, low]).readWord a = Word.ofBytes high low := by
  have hlength : [high, low].length ≤ 4096 := Nat.le_of_ble_eq_true rfl
  have hhigh : (m.writeBlock a [high, low]).read a = high :=
    m.read_writeBlock a hlength (Nat.zero_lt_succ 1)
  have hlow : (m.writeBlock a [high, low]).read (a + 1) = low :=
    m.read_writeBlock a hlength (Nat.lt_succ_self 1)
  rw [readWord, hhigh, hlow]

theorem ext_read {m₁ m₂ : Memory} (h : ∀ a, m₁.read a = m₂.read a) : m₁ = m₂ := by
  cases m₁ with | mk c₁ => cases m₂ with | mk c₂ =>
  congr 1
  apply Vector.ext
  intro i hi
  have := h i
  simpa only [read, Nat.mod_eq_of_lt hi] using this

end Memory

end Chip8
