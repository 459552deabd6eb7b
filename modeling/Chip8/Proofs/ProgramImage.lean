import Chip8.Cycle
import Mathlib.Data.List.GetD
import Mathlib.Logic.Function.Iterate

set_option autoImplicit false

/-! # Program images

Loading a program leaves a machine of which everything is known: the bytes of the program, the
font, zeros elsewhere, and the rest of a fresh machine (`State.HoldsImage`). There is one such
machine only (`HoldsImage.unique`), so nothing of an earlier program survives. Its program is
fetched word by word from the start, and the fetches give the bytes of the program back, two at a
time (`HoldsImage.fetch_afterFetches`). -/

namespace Chip8

/-! ## Words as bytes -/

namespace Word

/-- The bytes of a word, the high byte first. -/
def bytes (w : Word) : List UInt8 := [UInt8.ofNat (w.toNat / 256), nn w]

/-- The bytes of words, one after the other. -/
def encode (ws : List Word) : List UInt8 := ws.flatMap bytes

theorem ofBytes_bytes (w : Word) : ofBytes (UInt8.ofNat (w.toNat / 256)) (nn w) = w := by
  have hw := w.toNat_lt
  apply UInt16.toNat.inj
  rw [toNat_ofBytes, toNat_nn, UInt8.toNat_ofNat']
  omega

theorem encode_cons (w : Word) (ws : List Word) :
    encode (w :: ws) = UInt8.ofNat (w.toNat / 256) :: nn w :: encode ws := rfl

theorem length_encode (ws : List Word) : (encode ws).length = 2 * ws.length := by
  induction ws with
  | nil => rfl
  | cons w ws ih =>
      rw [encode_cons, List.length_cons, List.length_cons, List.length_cons, ih]
      omega

/-- The word at a place is made of the two bytes at twice this place. -/
theorem ofBytes_encode {ws : List Word} {k : Nat} (hk : k < ws.length) :
    ofBytes ((encode ws).getD (2 * k) 0) ((encode ws).getD (2 * k + 1) 0) = ws[k] := by
  induction ws generalizing k with
  | nil => exact absurd hk (Nat.not_lt_zero k)
  | cons w ws ih =>
      rw [encode_cons]
      cases k with
      | zero => exact ofBytes_bytes w
      | succ k => exact ih (Nat.lt_of_succ_lt_succ hk)

end Word

namespace State

/-! ## Loading -/

/-- A fresh machine whose memory holds an image from `0x200` upwards, the font from `0x050` to
    `0x09F`, and zero everywhere else. -/
structure HoldsImage (config : Config) (rng : RandomKey) (image : List UInt8) (t : State) :
    Prop where
  program : ∀ i (hi : i < image.length), t.memory.read (0x200 + i) = image[i]
  font : ∀ i (hi : i < Font.data.length), t.memory.read (0x050 + i) = Font.data[i]
  zero : ∀ a < 4096, ¬ (0x050 ≤ a ∧ a ≤ 0x09F) → ¬ (0x200 ≤ a ∧ a < 0x200 + image.length) →
    t.memory.read a = 0
  rest : t = { initial config rng with memory := t.memory }

theorem load_eq_ok_iff (s : State) (program : List UInt8) (size? : Option Int) (t : State) :
    let size := size?.getD program.length
    s.load program size? = .ok t ↔
      (0 ≤ size ∧ size ≤ program.length ∧ size ≤ 3584) ∧
        t = { s.reset with
          memory := initialMemory.writeBlock 0x200 (program.take size.toNat) } := by
  have hmax : (maxProgramSize : Int) = 3584 := rfl
  simp only [load, loadedPart, hmax]
  generalize size?.getD program.length = size
  split
  · next hinvalid => exact ⟨nofun, fun h => by omega⟩
  · split
    · next hlarge => exact ⟨nofun, fun h => by omega⟩
    · refine ⟨fun h => ⟨by omega, (Except.ok.inj h).symm⟩, fun h => ?_⟩
      rw [h.2]
      rfl

theorem read_zero (a : Nat) : Memory.zero.read a = 0 := Vector.getElem_replicate _

theorem holdsImage_writeBlock (config : Config) (rng : RandomKey) {image : List UInt8}
    (hlength : image.length ≤ 3584) :
    HoldsImage config rng image
      { initial config rng with memory := initialMemory.writeBlock 0x200 image } where
  program := fun i hi => initialMemory.read_writeBlock 0x200 (by omega) hi
  font := by
    intro i hi
    have hfont : i < 80 := hi
    have hread := Memory.zero.read_writeBlock 0x050 (Nat.le_of_ble_eq_true rfl) hi
    rw [← hread]
    exact initialMemory.read_writeBlock_of_ne image fun k hk => by omega
  zero := by
    intro a ha hfont himage
    have hblank := read_zero a
    rw [← Memory.zero.read_writeBlock_of_ne (a := 0x050) Font.data fun k hk => by
      have hk' : k < 80 := hk
      omega] at hblank
    rw [← hblank]
    exact initialMemory.read_writeBlock_of_ne image fun k hk => by omega
  rest := rfl

theorem holdsImage_load {s t : State} {program : List UInt8} {size? : Option Int}
    (h : s.load program size? = .ok t) :
    HoldsImage s.config s.rng (program.take (size?.getD program.length).toNat) t := by
  obtain ⟨⟨-, -, hsize⟩, rfl⟩ := (s.load_eq_ok_iff program size? t).1 h
  apply holdsImage_writeBlock
  rw [List.length_take]
  omega

namespace HoldsImage

variable {config : Config} {rng : RandomKey} {image : List UInt8} {t t' : State}

theorem unique (h : HoldsImage config rng image t) (h' : HoldsImage config rng image t') :
    t' = t := by
  have hmemory : t'.memory = t.memory := by
    apply Memory.ext_read
    intro a
    have hmod : a % 4096 = a % 4096 % 4096 := (Nat.mod_mod a 4096).symm
    have hlt : a % 4096 < 4096 := Nat.mod_lt a (by decide)
    rw [Memory.read_congr _ hmod, Memory.read_congr _ hmod]
    generalize a % 4096 = a at hlt
    by_cases hfont : 0x050 ≤ a ∧ a ≤ 0x09F
    · obtain ⟨i, rfl⟩ := Nat.exists_eq_add_of_le hfont.1
      have hi : i < Font.data.length := by
        rw [Font.length_data, Font.glyphSize]
        omega
      rw [h.font i hi, h'.font i hi]
    by_cases himage : 0x200 ≤ a ∧ a < 0x200 + image.length
    · obtain ⟨i, rfl⟩ := Nat.exists_eq_add_of_le himage.1
      have hi : i < image.length := by omega
      rw [h.program i hi, h'.program i hi]
    · rw [h.zero a hlt hfont himage, h'.zero a hlt hfont himage]
  rw [h'.rest, hmemory, ← h.rest]

/-- Behind its end the image goes on with zeros, up to the end of memory. -/
theorem read_program (h : HoldsImage config rng image t) {i : Nat} (hi : i < 3584) :
    t.memory.read (0x200 + i) = image.getD i 0 := by
  by_cases hin : i < image.length
  · rw [h.program i hin, List.getD_eq_getElem image 0 hin]
  · rw [List.getD_eq_default image 0 (Nat.le_of_not_lt hin)]
    exact h.zero (0x200 + i) (by omega) (by omega) (by omega)

end HoldsImage

/-! ## Fetching -/

/-- The state after `n` fetches. -/
def afterFetches (s : State) (n : Nat) : State := (fun t : State => t.fetch.1)^[n] s

/-- The words that `n` fetches give. -/
def fetchedWords (s : State) (n : Nat) : List Word :=
  (List.range n).map fun k => (s.afterFetches k).fetch.2

/-- Fetching moves the program counter and nothing else. -/
theorem afterFetches_eq (s : State) (n : Nat) :
    s.afterFetches n = { s with pc := s.pc + UInt16.ofNat (2 * n) } := by
  induction n with
  | zero =>
      show s = { s with pc := s.pc + 0 }
      rw [UInt16.add_zero]
  | succ n ih =>
      have hpc : s.pc + UInt16.ofNat (2 * n) + 2 = s.pc + UInt16.ofNat (2 * (n + 1)) := by
        rw [UInt16.add_assoc]
        congr 1
        rw [Nat.mul_succ, UInt16.ofNat_add]
        rfl
      rw [afterFetches, Function.iterate_succ_apply', ← afterFetches, ih]
      exact congrArg (fun pc => { s with pc := pc }) hpc

/-- The fetches from a loaded machine give its image, two bytes at a time. -/
theorem HoldsImage.fetch_afterFetches {config : Config} {rng : RandomKey} {image : List UInt8}
    {t : State} (h : HoldsImage config rng image t) {k : Nat} (hk : k < 1792) :
    let next := (t.afterFetches k).fetch
    next.2 = Word.ofBytes (image.getD (2 * k) 0) (image.getD (2 * k + 1) 0) ∧
      next.1.pc.toNat = 0x202 + 2 * k ∧ next.1 = { t with pc := next.1.pc } := by
  have hstart : t.pc = 0x200 := by
    rw [h.rest]
    rfl
  have hpc : (0x200 + UInt16.ofNat (2 * k)).toNat = 0x200 + 2 * k := by
    rw [UInt16.toNat_add, UInt16.toNat_ofNat']
    show (512 + 2 * k % 65536) % 65536 = 512 + 2 * k
    omega
  intro next
  have hnext : next = fetch { t with pc := 0x200 + UInt16.ofNat (2 * k) } := by
    rw [← hstart, ← afterFetches_eq]
  refine ⟨?_, ?_, ?_⟩
  · rw [hnext, ← h.read_program (by omega), ← h.read_program (by omega)]
    show t.memory.readWord (0x200 + UInt16.ofNat (2 * k)).toNat = _
    rw [hpc, Memory.readWord, Nat.add_assoc]
  · rw [hnext]
    show (0x200 + UInt16.ofNat (2 * k) + 2).toNat = _
    rw [UInt16.toNat_add, hpc]
    show (512 + 2 * k + 2) % 65536 = 514 + 2 * k
    omega
  · rw [hnext]
    rfl

/-- What is loaded as the bytes of words is fetched as these words. -/
theorem fetchedWords_encode {config : Config} {rng : RandomKey} {ws : List Word} {t : State}
    (h : HoldsImage config rng (Word.encode ws) t) (hlength : ws.length ≤ 1792) :
    t.fetchedWords ws.length = ws := by
  have hfetched : (t.fetchedWords ws.length).length = ws.length := by
    rw [fetchedWords, List.length_map, List.length_range]
  apply List.ext_getElem hfetched
  intro k hk hk'
  rw [← Word.ofBytes_encode hk', ← (h.fetch_afterFetches (by omega)).1]
  simp only [fetchedWords, List.getElem_map, List.getElem_range]

/-- Loading succeeds for the sizes from 0 to that of the program, up to 3584, and on any machine. It
    leaves a fresh machine that holds the image: of the machine before, the configuration and the
    random key are all that matters, and of the program the image. Whatever was loaded before makes
    no difference. Each of the next 1792 fetches gives two bytes of the image, with zeros behind its
    end, as one word, the high byte first; so up to 1792 words, loaded as bytes, are fetched one
    after the other. -/
theorem load_leaves_only_image (s : State) (program : List UInt8) (size? : Option Int) :
    let size := size?.getD program.length
    let image := program.take size.toNat
    ((∃ t, s.load program size? = .ok t) ↔ 0 ≤ size ∧ size ≤ program.length ∧ size ≤ 3584) ∧
      (∀ t, s.load program size? = .ok t →
        HoldsImage s.config s.rng image t ∧
          (∀ (s' t' : State) (program' : List UInt8) (size?' : Option Int),
            s'.config = s.config → s'.rng = s.rng →
              program'.take (size?'.getD program'.length).toNat = image →
                s'.load program' size?' = .ok t' → t' = t) ∧
          ∀ k < 1792,
            let next := (t.afterFetches k).fetch
            next.2 = Word.ofBytes (image.getD (2 * k) 0) (image.getD (2 * k + 1) 0) ∧
              next.1.pc.toNat = 0x202 + 2 * k ∧ next.1 = { t with pc := next.1.pc }) ∧
      (∀ (before : State) (earlier : List UInt8) (size₀? : Option Int),
        before.load earlier size₀? = .ok s →
          s.load program size? = before.load program size?) ∧
      ∀ ws : List Word, ws.length ≤ 1792 →
        ∃ t, s.load (Word.encode ws) none = .ok t ∧ t.fetchedWords ws.length = ws := by
  intro size image
  refine ⟨⟨?_, ?_⟩, ?_, ?_, ?_⟩
  · rintro ⟨t, hload⟩
    exact ((s.load_eq_ok_iff program size? t).1 hload).1
  · intro hsize
    exact ⟨_, (s.load_eq_ok_iff program size? _).2 ⟨hsize, rfl⟩⟩
  · intro t hload
    have himage : HoldsImage s.config s.rng image t := holdsImage_load hload
    refine ⟨himage, ?_, fun k hk => himage.fetch_afterFetches hk⟩
    intro s' t' program' size?' hconfig hrng hsame hload'
    have himage' := holdsImage_load hload'
    rw [hconfig, hrng, hsame] at himage'
    exact himage.unique himage'
  · intro before earlier size₀? hearlier
    have hreset : s.reset = before.reset := by
      rw [((before.load_eq_ok_iff earlier size₀? s).1 hearlier).2]
      rfl
    rw [load, load, hreset]
  · intro ws hws
    have hlength := Word.length_encode ws
    obtain ⟨t, ht⟩ : ∃ t, s.load (Word.encode ws) none = .ok t := by
      refine ⟨_, (s.load_eq_ok_iff (Word.encode ws) none _).2 ⟨?_, rfl⟩⟩
      rw [Option.getD_none]
      omega
    have himage := holdsImage_load ht
    rw [Option.getD_none, Int.toNat_natCast, List.take_length] at himage
    exact ⟨t, ht, fetchedWords_encode himage hws⟩

end State

end Chip8
