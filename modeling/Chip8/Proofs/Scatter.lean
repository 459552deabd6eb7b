import Chip8.Execute
import Mathlib.Data.List.Nodup
import Mathlib.Data.List.ProdSigma

set_option autoImplicit false

/-! # Writing more than is needed

A machine may handle all sprites and all register blocks alike, whatever their size. It then adds
the 120 bits of the largest sprite to a dark screen, with zeros for the rows past the last, and
writes all sixteen cells of the window at the index, each cell past VX with what it held before.
The outcome is the same: no pixel is met by two bits (`scatter_eq_layer`), and no cell of the window
by two writes (`memory_storeBlock_eq`). -/

namespace Chip8

/-! ## Sprites -/

/-- Add a byte to one pixel, the row and the column modulo the size of the screen. -/
def Screen.add (s : Screen) (row col : Nat) (byte : UInt8) : Screen :=
  ofPixels fun r c => if row % 32 = r ∧ col % 64 = c then s.pixel r c + byte else s.pixel r c

theorem Screen.pixel_mod (s : Screen) (row col : Nat) :
    s.pixel (row % 32) (col % 64) = s.pixel row col := by
  simp only [pixel, Nat.mod_mod]

theorem Screen.pixel_add (s : Screen) (r c : Nat) (byte : UInt8) (row col : Nat) :
    (s.add r c byte).pixel row col =
      if r % 32 = row % 32 ∧ c % 64 = col % 64 then s.pixel row col + byte
      else s.pixel row col := by
  rw [add, pixel_ofPixels, pixel_mod]

namespace Sprite

/-- The rows and columns of the largest sprite. -/
def cells : List (Nat × Nat) := List.range 15 ×ˢ List.range 8

/-- The bit of a sprite of `height` rows in a row and a column; rows past the last are empty. -/
def bitAt (memory : Memory) (address height : Nat) (cell : Nat × Nat) : UInt8 :=
  if cell.1 < height then bit (memory.read (address + cell.1)) cell.2 else 0

/-- Add one bit of a sprite to a screen. -/
def addBit (memory : Memory) (address height left top : Nat) (s : Screen) (cell : Nat × Nat) :
    Screen :=
  s.add (top + cell.1) (left + cell.2) (bitAt memory address height cell)

/-- Add all bits of the largest sprite to a dark screen. -/
def scatter (memory : Memory) (address height left top : Nat) : Screen :=
  cells.foldl (addBit memory address height left top) Screen.blank

/-- The bit in a row and a column of a sprite falls on a pixel of the screen. -/
def FallsOn (left top row col : Nat) (cell : Nat × Nat) : Prop :=
  (top + cell.1) % 32 = row % 32 ∧ (left + cell.2) % 64 = col % 64

theorem mem_cells (cell : Nat × Nat) : cell ∈ cells ↔ cell.1 < 15 ∧ cell.2 < 8 := by
  rw [cells, List.mem_product, List.mem_range, List.mem_range]

theorem nodup_cells : cells.Nodup := List.nodup_range.product List.nodup_range

/-- Where a sprite has to be lit for a pixel of the screen to be lit. -/
def cellAt (left top row col : Nat) : Nat × Nat :=
  (offset 32 top (row % 32), offset 64 left (col % 64))

theorem fallsOn_cellAt (left top row col : Nat) :
    FallsOn left top row col (cellAt left top row col) := by
  simp only [FallsOn, cellAt, offset]
  constructor <;> omega

/-- No two bits of a sprite fall on one pixel. -/
theorem eq_cellAt_of_fallsOn {left top row col : Nat} {cell : Nat × Nat} (hcell : cell ∈ cells)
    (hfalls : FallsOn left top row col cell) : cell = cellAt left top row col := by
  rw [mem_cells] at hcell
  obtain ⟨hrow, hcol⟩ := hfalls
  have hrows : cell.1 = offset 32 top (row % 32) := by
    rw [offset]
    omega
  have hcols : cell.2 = offset 64 left (col % 64) := by
    rw [offset]
    omega
  exact Prod.ext hrows hcols

section

variable (memory : Memory) (address height left top : Nat)

theorem pixel_foldl_addBit_of_not_fallsOn {row col : Nat} {cells : List (Nat × Nat)}
    (h : ∀ cell ∈ cells, ¬ FallsOn left top row col cell) (s : Screen) :
    (cells.foldl (addBit memory address height left top) s).pixel row col = s.pixel row col := by
  induction cells generalizing s with
  | nil => rfl
  | cons cell cells ih =>
      have hcell : ¬ FallsOn left top row col cell := h cell (List.mem_cons_self ..)
      rw [List.foldl_cons, ih fun other hother => h other (List.mem_cons_of_mem _ hother), addBit,
        Screen.pixel_add]
      exact if_neg hcell

/-- A pixel on which exactly one of the cells falls holds the bit of this cell afterwards. -/
theorem pixel_foldl_addBit {row col : Nat} {cells : List (Nat × Nat)} (hnodup : cells.Nodup)
    {cell : Nat × Nat} (hmem : cell ∈ cells) (hfalls : FallsOn left top row col cell)
    (hunique : ∀ other ∈ cells, FallsOn left top row col other → other = cell) (s : Screen) :
    (cells.foldl (addBit memory address height left top) s).pixel row col =
      s.pixel row col + bitAt memory address height cell := by
  obtain ⟨before, after, rfl⟩ := List.append_of_mem hmem
  obtain ⟨-, hafter, hdisjoint⟩ := List.nodup_append.1 hnodup
  -- the cells before and after this one fall elsewhere
  have hbefore' : ∀ other ∈ before, ¬ FallsOn left top row col other := by
    intro other hother hfall
    have heq := hunique other (List.mem_append_left _ hother) hfall
    exact hdisjoint other hother cell (List.mem_cons_self ..) heq
  have hafter' : ∀ other ∈ after, ¬ FallsOn left top row col other := by
    intro other hother hfall
    have heq := hunique other (List.mem_append_right _ (List.mem_cons_of_mem _ hother)) hfall
    exact (List.nodup_cons.1 hafter).1 (heq ▸ hother)
  have hhit : (top + cell.1) % 32 = row % 32 ∧ (left + cell.2) % 64 = col % 64 := hfalls
  rw [List.foldl_append, List.foldl_cons,
    pixel_foldl_addBit_of_not_fallsOn memory address height left top hafter', addBit,
    Screen.pixel_add, if_pos hhit,
    pixel_foldl_addBit_of_not_fallsOn memory address height left top hbefore']

/-- The layer, told by the cell that falls on a pixel. -/
theorem pixel_layer (row col : Nat) :
    (layer memory address height left top).pixel row col =
      if (cellAt left top row col).2 < 8 then bitAt memory address height (cellAt left top row col)
      else 0 := by
  have hpixel : (layer memory address height left top).pixel row col =
      if (cellAt left top row col).1 < height ∧ (cellAt left top row col).2 < 8 then
        bit (memory.read (address + (cellAt left top row col).1)) (cellAt left top row col).2
      else 0 := by
    rw [layer, Screen.pixel_ofPixels]
    rfl
  rw [hpixel, bitAt]
  by_cases hcol : (cellAt left top row col).2 < 8
  · simp only [hcol, and_true, if_true]
  · simp only [hcol, and_false, if_false]

variable {height} in
/-- Adding the bits one by one gives the layer of the sprite. -/
theorem scatter_eq_layer (hheight : height ≤ 15) :
    scatter memory address height left top = layer memory address height left top := by
  apply Screen.ext_pixel
  intro row col
  rw [scatter, pixel_layer]
  by_cases hcell : cellAt left top row col ∈ cells
  · have hunique : ∀ other ∈ cells, FallsOn left top row col other →
        other = cellAt left top row col := fun _ => eq_cellAt_of_fallsOn
    rw [pixel_foldl_addBit memory address height left top nodup_cells hcell
      (fallsOn_cellAt left top row col) hunique, Screen.pixel_blank, UInt8.zero_add]
    exact (if_pos ((mem_cells _).1 hcell).2).symm
  · have hnone : ∀ other ∈ cells, ¬ FallsOn left top row col other := by
      intro other hother hfalls
      exact hcell (eq_cellAt_of_fallsOn hother hfalls ▸ hother)
    rw [pixel_foldl_addBit_of_not_fallsOn memory address height left top hnone, Screen.pixel_blank]
    rw [mem_cells, Decidable.not_and_iff_not_or_not] at hcell
    rcases hcell with hrow | hcol
    · -- the sprite is not as high as that
      have hempty : ¬ (cellAt left top row col).1 < height := by omega
      rw [bitAt, if_neg hempty, ite_self]
    · rw [if_neg hcol]

end

end Sprite

namespace State

theorem spriteLayer_eq_scatter (s : State) (x y height : Fin 16) :
    s.spriteLayer x y height =
      Sprite.scatter s.memory s.index.toNat height.val (s.reg x).toNat (s.reg y).toNat :=
  (Sprite.scatter_eq_layer _ _ _ _ (Nat.le_of_lt_succ height.isLt)).symm

/-! ## Register blocks -/

/-- The sixteen bytes of the window at the index: V0 to VX, then what memory holds. -/
def window (s : State) (x : Fin 16) : List UInt8 :=
  (List.finRange 16).map fun r =>
    if r ≤ x then s.reg r else s.memory.read (s.index.toNat + r.val)

theorem length_window (s : State) (x : Fin 16) : (s.window x).length = 16 := by
  rw [window, List.length_map, List.length_finRange]

theorem getElem_window (s : State) (x k : Fin 16) (hk : k.val < (s.window x).length) :
    (s.window x)[k.val] =
      if k ≤ x then s.reg k else s.memory.read (s.index.toNat + k.val) := by
  simp [window]

/-- Storing a register block writes the whole window at the index. -/
theorem memory_storeBlock_eq (s : State) (x : Fin 16) :
    (s.storeBlock x).memory = s.memory.writeBlock s.index.toNat (s.window x) := by
  have hwindow := s.length_window x
  apply Memory.ext_read
  intro a
  by_cases hin : ∃ k : Fin 16, a % 4096 = (s.index.toNat + k.val) % 4096
  · obtain ⟨k, ha⟩ := hin
    have hk : k.val < (s.window x).length := by omega
    rw [Memory.read_congr _ ha, Memory.read_congr _ ha,
      s.memory.read_writeBlock s.index.toNat (by omega) hk, getElem_window]
    by_cases hkx : k ≤ x
    · rw [if_pos hkx, s.read_storeBlock hkx]
    · -- the sixteen addresses are distinct, so that this one is behind the block
      rw [if_neg hkx]
      apply s.read_storeBlock_of_ne
      intro j hj
      omega
  · have hnone : ∀ k < 16, a % 4096 ≠ (s.index.toNat + k) % 4096 :=
      fun k hk ha => hin ⟨⟨k, hk⟩, ha⟩
    rw [s.read_storeBlock_of_ne x fun k hk => hnone k (by omega),
      Memory.read_writeBlock_of_ne _ _ fun k hk => hnone k (by omega)]

end State

end Chip8
