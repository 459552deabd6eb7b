import Chip8.Proofs.Reachable
import Chip8.Proofs.Scatter

set_option autoImplicit false

/-! # What a draw does to the screen

A pixel is flipped by a draw exactly if a lit bit of the sprite falls on it, and no two bits of a
sprite fall on the same pixel (`Sprite.pixel_layer_eq_one_iff`, `Sprite.LitOn.unique`). All
positions wrap: rows and columns around the edges of the screen, addresses around the end of memory.
The registers are read before the collision is written to `VF`, so `VF` may be a coordinate as
well. -/

namespace Chip8

/-! ## The bits of a sprite -/

namespace Sprite

theorem bit_eq_one_iff (byte : UInt8) (col : Nat) :
    bit byte col = 1 ↔ byte.toNat.testBit (7 - col) = true := by
  rw [Nat.testBit_eq_decide_div_mod_eq, decide_eq_true_iff, bit, Nat.pow_eq]
  rcases Nat.mod_two_eq_zero_or_one (byte.toNat / 2 ^ (7 - col)) with h | h
  · rw [h]
    exact ⟨by decide, by decide⟩
  · rw [h]
    exact ⟨fun _ => rfl, fun _ => rfl⟩

/-- The bit in row `r` and column `c` of a sprite of `height` rows is lit, and it falls on a pixel
    of the screen. -/
structure LitOn (memory : Memory) (address height left top row col r c : Nat) : Prop where
  row_lt : r < height
  col_lt : c < 8
  row_eq : row = (top + r) % 32
  col_eq : col = (left + c) % 64
  bit : (memory.read ((address + r) % 4096)).toNat.testBit (7 - c) = true

variable {memory : Memory} {address height left top row col : Nat}

theorem read_mod (memory : Memory) (a : Nat) : memory.read (a % 4096) = memory.read a :=
  memory.read_congr (Nat.mod_mod _ _)

theorem LitOn.eq_cellAt {r c : Nat} (h : LitOn memory address height left top row col r c)
    (hheight : height ≤ 15) : (r, c) = cellAt left top row col := by
  have hcell : (r, c) ∈ cells :=
    (mem_cells (r, c)).2 ⟨Nat.lt_of_lt_of_le h.row_lt hheight, h.col_lt⟩
  have hrow := h.row_eq
  have hcol := h.col_eq
  refine eq_cellAt_of_fallsOn hcell ⟨?_, ?_⟩
  · show (top + r) % 32 = row % 32
    omega
  · show (left + c) % 64 = col % 64
    omega

/-- At most one bit of a sprite falls on a pixel. -/
theorem LitOn.unique {r c r' c' : Nat} (h : LitOn memory address height left top row col r c)
    (h' : LitOn memory address height left top row col r' c') (hheight : height ≤ 15) :
    r = r' ∧ c = c' := by
  have heq : (r, c) = (r', c') := (h.eq_cellAt hheight).trans (h'.eq_cellAt hheight).symm
  exact Prod.mk.inj heq

/-- A pixel of a layer is lit exactly if a lit bit of the sprite falls on it. -/
theorem pixel_layer_eq_one_iff (hheight : height ≤ 15) (hrow : row < 32) (hcol : col < 64) :
    (layer memory address height left top).pixel row col = 1 ↔
      ∃ r c, LitOn memory address height left top row col r c := by
  rw [pixel_layer]
  constructor
  · intro hlit
    split at hlit
    · next hwidth =>
        rw [bitAt] at hlit
        split at hlit
        · next hin =>
            rw [bit_eq_one_iff, ← read_mod] at hlit
            obtain ⟨hfallsRow, hfallsCol⟩ := fallsOn_cellAt left top row col
            exact ⟨_, _, hin, hwidth, by omega, by omega, hlit⟩
        · exact absurd hlit (by decide)
    · exact absurd hlit (by decide)
  · rintro ⟨r, c, h⟩
    rw [← h.eq_cellAt hheight, if_pos h.col_lt, bitAt, if_pos h.row_lt, bit_eq_one_iff, ← read_mod]
    exact h.bit

end Sprite

/-! ## Flipping and overlapping -/

namespace Screen

variable {s layer : Screen}

theorem pixel_eq_getElem (s : Screen) {i : Nat} (hi : i < 2048) :
    s.pixel (i / 64) (i % 64) = s.pixels[i] := by
  have h : i / 64 % 32 * 64 + i % 64 % 64 = i := by omega
  simp only [pixel, h]

theorem overlaps_iff :
    s.overlaps layer = true ↔
      ∃ row < 32, ∃ col < 64, s.pixel row col &&& layer.pixel row col ≠ 0 := by
  simp only [overlaps, Vector.any_eq_true, Vector.getElem_zipWith, decide_eq_true_eq]
  constructor
  · rintro ⟨i, hi, h⟩
    refine ⟨i / 64, by omega, i % 64, by omega, ?_⟩
    rwa [pixel_eq_getElem s hi, pixel_eq_getElem layer hi]
  · rintro ⟨row, hrow, col, hcol, h⟩
    exact ⟨row % 32 * 64 + col % 64, by omega, h⟩

theorem pixel_flip_ne_iff (hlayer : layer.IsBinary) (row col : Nat) :
    (s.flip layer).pixel row col ≠ s.pixel row col ↔ layer.pixel row col = 1 := by
  rw [pixel_flip]
  rcases hlayer row col with h | h
  · rw [h, UInt8.xor_zero]
    exact ⟨fun hne => absurd rfl hne, fun hlit => absurd hlit (by decide)⟩
  · rw [h]
    refine ⟨fun _ => rfl, fun _ heq => ?_⟩
    have hxor : s.pixel row col ^^^ 1 = s.pixel row col ^^^ 0 := by rw [heq, UInt8.xor_zero]
    nomatch (UInt8.xor_right_inj _).1 hxor

/-- Where all pixels are lit or dark, a layer overlaps the screen if flipping it turns a lit pixel
    dark. -/
theorem IsBinary.overlaps_iff (hs : s.IsBinary) (hlayer : layer.IsBinary) :
    s.overlaps layer = true ↔
      ∃ row < 32, ∃ col < 64, s.pixel row col = 1 ∧ (s.flip layer).pixel row col = 0 := by
  have hpixel : ∀ row col, s.pixel row col &&& layer.pixel row col ≠ 0 ↔
      s.pixel row col = 1 ∧ (s.flip layer).pixel row col = 0 := by
    intro row col
    rw [pixel_flip]
    rcases hs row col with h | h <;> rcases hlayer row col with h' | h' <;> rw [h, h'] <;> decide
  simp only [Screen.overlaps_iff, hpixel]

end Screen

/-! ## The instruction -/

namespace State

variable (s : State)

theorem isBinary_spriteLayer (x y height : Fin 16) : (s.spriteLayer x y height).IsBinary :=
  Screen.isBinary_layer _ _ _ _ _

theorem executeWord_of_draw {w : Word} (h : Word.opcode w = 0xD) :
    s.executeWord w = s.draw (Word.x w) (Word.y w) (Word.n w) := by
  have hdecode : Instruction.decode w = .drawSprite (Word.x w) (Word.y w) (Word.n w) :=
    Instruction.decode_of_encodedBy ⟨h, rfl, rfl, rfl⟩
  have hexecutes : s.config.executes (.drawSprite (Word.x w) (Word.y w) (Word.n w)) = true := by
    obtain ⟨profile, modern⟩ := s.config
    cases profile <;> rfl
  rw [executeWord, hdecode, execute, if_pos hexecutes]
  rfl

theorem screen_draw (x y height : Fin 16) :
    (s.draw x y height).screen = s.screen.flip (s.spriteLayer x y height) := by
  rw [draw_eq]

variable {s}

theorem registers_draw_of_core (h : s.config.extended = false) (x y height : Fin 16) :
    (s.draw x y height).registers = s.registers := by
  rw [draw, if_neg (by rw [h]; decide)]

theorem flag_draw_of_extended (h : s.config.extended = true) (x y height : Fin 16) :
    (s.draw x y height).reg flagRegister =
      AluOp.flagOf (s.screen.overlaps (s.spriteLayer x y height)) := by
  rw [draw, if_pos h, reg_setReg, if_pos rfl]

theorem reg_draw_of_ne (s : State) (x y height : Fin 16) {r : Fin 16} (hr : r ≠ flagRegister) :
    (s.draw x y height).reg r = s.reg r := by
  unfold draw
  split
  · rw [reg_setReg, if_neg hr.symm]
    rfl
  · rfl

/-- What `DXYN` does, on a screen of lit and dark pixels and in every configuration. A pixel is
    flipped exactly if a lit bit of the sprite falls on it, and then only one does; positions and
    addresses wrap, and `VX` and `VY` are those from before, also where `X` or `Y` is F. The
    extended profile sets `VF` to 1 if a lit pixel went dark and to 0 otherwise; the core profile
    leaves all registers alone. Nothing else changes. -/
theorem draw_flips_lit_bits (hbinary : s.screen.IsBinary) {w : Word} (hw : Word.opcode w = 0xD) :
    let t := s.executeWord w
    let LitOn := Sprite.LitOn s.memory s.index.toNat (Word.n w).val (s.reg (Word.x w)).toNat
      (s.reg (Word.y w)).toNat
    let Collides := ∃ row < 32, ∃ col < 64,
      s.screen.pixel row col = 1 ∧ t.screen.pixel row col = 0
    (∀ row < 32, ∀ col < 64,
        (t.screen.pixel row col ≠ s.screen.pixel row col ↔ ∃ r c, LitOn row col r c) ∧
          ∀ r c r' c', LitOn row col r c → LitOn row col r' c' → r = r' ∧ c = c') ∧
      t.screen.IsBinary ∧
      (s.config.extended = true →
        (Collides → t.reg flagRegister = 1) ∧ (¬ Collides → t.reg flagRegister = 0) ∧
          ∀ r ≠ flagRegister, t.reg r = s.reg r) ∧
      (s.config.extended = false → t.registers = s.registers) ∧
      t = { s with registers := t.registers, screen := t.screen } := by
  intro t LitOn Collides
  have ht : t = s.draw (Word.x w) (Word.y w) (Word.n w) := s.executeWord_of_draw hw
  have hlayer := s.isBinary_spriteLayer (Word.x w) (Word.y w) (Word.n w)
  have hscreen : t.screen = s.screen.flip (s.spriteLayer (Word.x w) (Word.y w) (Word.n w)) := by
    rw [ht, screen_draw]
  have hheight : (Word.n w).val ≤ 15 := Nat.le_of_lt_succ (Word.n w).isLt
  refine ⟨fun row hrow col hcol => ⟨?_, fun r c r' c' h h' => h.unique h' hheight⟩, ?_, ?_, ?_, ?_⟩
  · rw [hscreen, Screen.pixel_flip_ne_iff hlayer]
    exact Sprite.pixel_layer_eq_one_iff hheight hrow hcol
  · rw [hscreen]
    exact hbinary.flip hlayer
  · intro hextended
    have hflag := flag_draw_of_extended hextended (Word.x w) (Word.y w) (Word.n w)
    have hcollides := hbinary.overlaps_iff hlayer
    rw [← ht] at hflag
    rw [← hscreen] at hcollides
    refine ⟨fun h => ?_, fun h => ?_, fun r hr => ?_⟩
    · rw [hflag, hcollides.2 h]
      rfl
    · rw [hflag, Bool.eq_false_iff.2 (mt hcollides.1 h)]
      rfl
    · rw [ht, reg_draw_of_ne s _ _ _ hr]
  · intro hcore
    rw [ht, registers_draw_of_core hcore]
  · rw [ht, draw_eq]

/-- A sprite of two rows in the lower right corner, its bytes at the last and the first address of
    memory, and `VF` as a coordinate. -/
theorem draw_flips_lit_bits_corner :
    let s : State :=
      { ((State.initial ⟨.extended, true⟩ .zero).setReg 0xF 63).setReg 1 31 with
        memory := Memory.zero.writeBlock 4095 [0x40, 0x80]
        index := 0xFFFF }
    let t := s.executeWord 0xDF12
    s.screen.IsBinary ∧ Word.opcode 0xDF12 = 0xD ∧
      t.screen.pixel 31 0 ≠ s.screen.pixel 31 0 ∧ t.screen.pixel 0 63 ≠ s.screen.pixel 0 63 ∧
      t.reg flagRegister = 0 ∧ t.reg 1 = 31 := by
  intro s t
  have hbinary : s.screen.IsBinary := Screen.isBinary_blank
  obtain ⟨hpixels, -, hextended, -⟩ := draw_flips_lit_bits hbinary (w := 0xDF12) rfl
  obtain ⟨-, hdark, hreg⟩ := hextended rfl
  refine ⟨hbinary, rfl, ?_, ?_, hdark ?_, hreg 1 (by decide)⟩
  · refine (hpixels 31 (by decide) 0 (by decide)).1.2 ⟨0, 1, ?_⟩
    exact ⟨by decide, by decide, by decide +kernel, by decide +kernel, by decide +kernel⟩
  · refine (hpixels 0 (by decide) 63 (by decide)).1.2 ⟨1, 0, ?_⟩
    exact ⟨by decide, by decide, by decide +kernel, by decide +kernel, by decide +kernel⟩
  · -- the screen is dark before
    rintro ⟨row, -, col, -, hlit, -⟩
    have hdark : s.screen.pixel row col = 0 := Screen.pixel_blank row col
    rw [hdark] at hlit
    nomatch hlit

end State

end Chip8
