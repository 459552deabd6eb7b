import Chip8.Proofs.Overlay
import Mathlib.Algebra.BigOperators.Fin
import Mathlib.Algebra.BigOperators.Intervals

set_option autoImplicit false

/-! # How many pixels are lit

A draw loses no bit of its sprite and counts none twice. The set bits of a sprite are as many as the
lit pixels of its layer, wherever on the screen and in memory it lies (`Sprite.lit_layer`): each
set bit falls on one pixel, and no other one falls there. Flipping a layer, in turn, lights the
dark pixels under it and puts out the lit ones (`Screen.IsBinary.lit_flip`). -/

namespace Chip8

/-! ## Counting pixels -/

namespace Screen

open Finset

/-- The pixels that are lit, by row and column. -/
def litPixels (s : Screen) : Finset (Fin 32 × Fin 64) := {p | s.pixel p.1 p.2 ≠ 0}

/-- The pixels that are lit on one screen and dark on another. -/
def darkened (s t : Screen) : Finset (Fin 32 × Fin 64) :=
  {p | s.pixel p.1 p.2 = 1 ∧ t.pixel p.1 p.2 = 0}

theorem mem_litPixels {s : Screen} {p : Fin 32 × Fin 64} :
    p ∈ s.litPixels ↔ s.pixel p.1 p.2 ≠ 0 := mem_filter_univ p

theorem toList_pixels (s : Screen) :
    s.pixels.toList = (List.finRange 2048).map fun i => s.pixels[i.val] := by
  apply List.ext_getElem
  · rw [Vector.length_toList, List.length_map, List.length_finRange]
  · intro i hi hi'
    rw [Vector.getElem_toList, List.getElem_map, List.getElem_finRange]
    rfl

/-- Lit pixels may be counted place by place or by rows and columns. -/
theorem lit_eq_card (s : Screen) : s.lit = s.litPixels.card := by
  have hplaces : s.lit = (univ.filter fun i : Fin 2048 => s.pixels[i.val] ≠ 0).card := by
    rw [lit, toList_pixels, List.countP_map, List.countP_eq_length_filter, Fin.univ_def]
    rfl
  rw [hplaces]
  symm
  -- row by row, a place is 64 times the row, and the column
  refine card_equiv (@finProdFinEquiv 32 64) fun p => ?_
  have hplace : p.1.val % 32 * 64 + p.2.val % 64 = (finProdFinEquiv p).val := by
    show _ = p.2.val + 64 * p.1.val
    omega
  rw [mem_litPixels, mem_filter_univ]
  simp only [pixel, hplace]

variable {s layer : Screen}

/-- Flipping a layer lights as many pixels as the layer has, less those that were lit before: these
    are put out instead. -/
theorem IsBinary.lit_flip (hs : s.IsBinary) (hlayer : layer.IsBinary) :
    (s.flip layer).lit + 2 * (s.darkened (s.flip layer)).card = s.lit + layer.lit := by
  have hpixel : ∀ p : Fin 32 × Fin 64,
      (if (s.flip layer).pixel p.1 p.2 ≠ 0 then 1 else 0) +
          2 * (if s.pixel p.1 p.2 = 1 ∧ (s.flip layer).pixel p.1 p.2 = 0 then 1 else 0) =
        (if s.pixel p.1 p.2 ≠ 0 then 1 else 0) + if layer.pixel p.1 p.2 ≠ 0 then 1 else 0 := by
    intro p
    rw [pixel_flip]
    rcases hs p.1 p.2 with h | h <;> rcases hlayer p.1 p.2 with h' | h' <;> rw [h, h'] <;> decide
  simp only [lit_eq_card, litPixels, darkened, card_filter, mul_sum, ← sum_add_distrib]
  exact sum_congr rfl fun p _ => hpixel p

theorem card_darkened_eq_zero_iff (s t : Screen) :
    (s.darkened t).card = 0 ↔
      ¬ ∃ row < 32, ∃ col < 64, s.pixel row col = 1 ∧ t.pixel row col = 0 := by
  rw [darkened, card_filter_eq_zero_iff]
  constructor
  · rintro hnone ⟨row, hrow, col, hcol, hout⟩
    exact hnone (⟨row, hrow⟩, ⟨col, hcol⟩) (mem_univ _) hout
  · intro hnone p _ hout
    exact hnone ⟨p.1, p.1.isLt, p.2, p.2.isLt, hout⟩

end Screen

/-! ## Counting bits -/

namespace Sprite

open Finset

/-- How many bits of a byte are set. -/
def setBits (byte : UInt8) : Nat := {k ∈ range 8 | byte.toNat.testBit k = true}.card

/-- How many bits are set in the `height` bytes from an address on, modulo the memory size. -/
def weight (memory : Memory) (address height : Nat) : Nat :=
  ∑ r ∈ range height, setBits (memory.read ((address + r) % 4096))

/-- The rows and columns of the set bits of a sprite. -/
def setCells (memory : Memory) (address height : Nat) : Finset (Nat × Nat) :=
  {cell ∈ range height ×ˢ range 8 |
    (memory.read ((address + cell.1) % 4096)).toNat.testBit (7 - cell.2) = true}

variable {memory : Memory} {address height : Nat}

theorem card_setCells : (setCells memory address height).card = weight memory address height := by
  rw [setCells, card_filter, sum_product, weight]
  refine sum_congr rfl fun r _ => ?_
  -- the highest bit is on the left
  rw [setBits, card_filter]
  exact sum_range_reflect
    (fun k => if (memory.read ((address + r) % 4096)).toNat.testBit k = true then 1 else 0) 8

/-- Where on the screen a bit of a sprite falls. -/
def pixelOf (left top : Nat) (cell : Nat × Nat) : Fin 32 × Fin 64 :=
  (⟨(top + cell.1) % 32, Nat.mod_lt _ (by decide)⟩,
    ⟨(left + cell.2) % 64, Nat.mod_lt _ (by decide)⟩)

theorem litOn_of_mem_setCells (left top : Nat) {cell : Nat × Nat}
    (h : cell ∈ setCells memory address height) :
    LitOn memory address height left top (pixelOf left top cell).1 (pixelOf left top cell).2
      cell.1 cell.2 := by
  rw [setCells, mem_filter, mem_product, mem_range, mem_range] at h
  obtain ⟨⟨hrow, hcol⟩, hbit⟩ := h
  exact ⟨hrow, hcol, rfl, rfl, hbit⟩

/-- A layer has as many lit pixels as its sprite has set bits. -/
theorem lit_layer (left top : Nat) (hheight : height ≤ 15) :
    (layer memory address height left top).lit = weight memory address height := by
  rw [Screen.lit_eq_card, ← card_setCells]
  symm
  refine card_bij (fun cell _ => pixelOf left top cell) ?_ ?_ ?_
  · intro cell hcell
    have hlit := litOn_of_mem_setCells left top hcell
    have hone := (pixel_layer_eq_one_iff hheight (Fin.isLt _) (Fin.isLt _)).2 ⟨_, _, hlit⟩
    rw [Screen.mem_litPixels, hone]
    decide
  · intro cell hcell cell' hcell' heq
    have hlit := litOn_of_mem_setCells left top hcell
    have hlit' := litOn_of_mem_setCells left top hcell'
    rw [← heq] at hlit'
    obtain ⟨hrow, hcol⟩ := hlit.unique hlit' hheight
    exact Prod.ext hrow hcol
  · intro p hp
    rw [Screen.mem_litPixels] at hp
    have hone := (Screen.isBinary_layer memory address height left top p.1 p.2).resolve_left hp
    obtain ⟨r, c, h⟩ := (pixel_layer_eq_one_iff hheight p.1.isLt p.2.isLt).1 hone
    refine ⟨(r, c), ?_, Prod.ext (Fin.ext h.row_eq.symm) (Fin.ext h.col_eq.symm)⟩
    rw [setCells, mem_filter, mem_product, mem_range, mem_range]
    exact ⟨⟨h.row_lt, h.col_lt⟩, h.bit⟩

end Sprite

/-! ## The instruction -/

namespace State

variable {s : State} {w : Word}

theorem lit_spriteLayer (s : State) (x y height : Fin 16) :
    (s.spriteLayer x y height).lit = Sprite.weight s.memory s.index.toNat height.val :=
  Sprite.lit_layer _ _ (Nat.le_of_lt_succ height.isLt)

/-- What `DXYN` does to the number of lit pixels, on a screen of lit and dark pixels and in every
    configuration. Each set bit of the sprite lights a pixel or puts one out: what is lit after the
    draw, and twice what went dark, is what was lit before and the set bits together. So in the
    extended profile `VF` is 0 exactly if every set bit lit a pixel. -/
theorem draw_accounts_for_bits (hbinary : s.screen.IsBinary) (hw : Word.opcode w = 0xD) :
    let t := s.executeWord w
    let bits := Sprite.weight s.memory s.index.toNat (Word.n w).val
    let dark := (s.screen.darkened t.screen).card
    t.screen.lit + 2 * dark = s.screen.lit + bits ∧
      (s.config.extended = true →
        (t.reg flagRegister = 0 ↔ t.screen.lit = s.screen.lit + bits)) := by
  intro t bits dark
  have hlayer : (s.layerOf w).IsBinary := isBinary_spriteLayer s _ _ _
  have hscreen : t.screen = s.screen.flip (s.layerOf w) := s.screen_executeWord_of_draw hw
  have haccount : t.screen.lit + 2 * dark = s.screen.lit + bits := by
    have hflip := hbinary.lit_flip hlayer
    rwa [← hscreen, layerOf, lit_spriteLayer] at hflip
  refine ⟨haccount, fun hextended => ?_⟩
  have hflag : t.reg flagRegister = AluOp.flagOf (s.screen.overlaps (s.layerOf w)) := by
    rw [layerOf, ← flag_draw_of_extended hextended, ← s.executeWord_of_draw hw]
  have hdark : t.reg flagRegister = 0 ↔ dark = 0 := by
    rw [Screen.card_darkened_eq_zero_iff, hscreen, ← hbinary.overlaps_iff hlayer, hflag]
    cases s.screen.overlaps (s.layerOf w) <;> decide
  rw [hdark]
  omega

/-- A sprite of three bits, its bytes at the last and the first address of memory, drawn twice over
    the lower right corner: three pixels are lit, then all three go dark. -/
theorem draw_accounts_for_bits_corner :
    let s : State :=
      { ((State.initial ⟨.extended, true⟩ .zero).setReg 0 63).setReg 1 31 with
        memory := Memory.zero.writeBlock 4095 [0xC0, 0x40]
        index := 0xFFFF }
    let t := s.executeWord 0xD012
    let u := t.executeWord 0xD012
    Word.opcode 0xD012 = 0xD ∧ s.screen.IsBinary ∧ t.screen.IsBinary ∧
      t.screen.lit = 3 ∧ t.reg flagRegister = 0 ∧
      u.screen.lit = 0 ∧ (t.screen.darkened u.screen).card = 3 ∧ u.reg flagRegister ≠ 0 := by
  intro s t u
  have hs : s.screen.IsBinary := Screen.isBinary_blank
  have hfirst : t.screen = s.screen.flip (s.layerOf 0xD012) := screen_executeWord_of_draw s rfl
  have ht : t.screen.IsBinary := by
    rw [hfirst]
    exact hs.flip (isBinary_spriteLayer s _ _ _)
  have hpaints : s.Paints t := paints_executeWord s rfl
  have hlayer : t.layerOf 0xD012 = s.layerOf 0xD012 :=
    hpaints.layerOf (fun _ => List.forall_mem_singleton.2 (by decide)) List.mem_cons_self
  have hsecond : u.screen = s.screen := by
    have hflip : u.screen = t.screen.flip (t.layerOf 0xD012) := screen_executeWord_of_draw t rfl
    rw [hflip, hlayer, hfirst, Screen.flip_flip]
  have hbits : Sprite.weight s.memory s.index.toNat (Word.n 0xD012).val = 3 := by decide +kernel
  have hblank : s.screen.lit = 0 := by decide +kernel
  have hnone : (s.screen.darkened t.screen).card = 0 := by
    rw [Screen.card_darkened_eq_zero_iff]
    rintro ⟨row, -, col, -, hlit, -⟩
    have hdark : s.screen.pixel row col = 0 := Screen.pixel_blank row col
    rw [hdark] at hlit
    exact absurd hlit (by decide)
  have hbits' : Sprite.weight t.memory t.index.toNat (Word.n 0xD012).val = 3 := by
    rw [hpaints.rest]
    exact hbits
  obtain ⟨hlight, hunlit⟩ := draw_accounts_for_bits hs (w := 0xD012) rfl
  obtain ⟨hdarken, hhit⟩ := draw_accounts_for_bits ht (w := 0xD012) rfl
  -- about any four numbers, lest the pixels of the two screens be counted one by one
  have hgrows : ∀ lit dark before bits : Nat, lit + 2 * dark = before + bits → dark = 0 →
      before = 0 → bits = 3 → lit = 3 := by omega
  have hshrinks : ∀ lit dark before bits : Nat, lit + 2 * dark = before + bits → lit = 0 →
      before = 3 → bits = 3 → dark = 3 := by omega
  have hlit : t.screen.lit = 3 := hgrows _ _ _ _ hlight hnone hblank hbits
  have hdark : u.screen.lit = 0 := by rw [hsecond, hblank]
  refine ⟨rfl, hs, ht, hlit, (hunlit rfl).2 ?_, hdark, ?_, fun hflag => ?_⟩
  · rw [hlit, hblank, hbits]
  · exact hshrinks _ _ _ _ hdarken hdark hlit hbits'
  · have hgrown := (hhit rfl).1 hflag
    rw [hdark, hlit, hbits'] at hgrown
    exact absurd hgrown (by decide)

end State

end Chip8
