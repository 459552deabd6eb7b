import Chip8.Proofs.Drawing
import Mathlib.Data.List.Dedup
import Mathlib.Data.List.Perm.Basic

set_option autoImplicit false

/-! # Draws on top of each other

Flipping the pixels of one layer and then those of another does the same in either order, and
flipping those of one layer twice does nothing. So of a list of draws, only the words that occur an
odd number of times leave anything on the screen, in whatever order they come
(`Screen.flipAll_oddOnes`, `Screen.flipAll_perm`). A draw moves neither the sprites nor the
positions of later draws, unless it writes a register that one of them reads: in the extended
profile that is `VF`, so no coordinate may be in `VF` (`State.Paints`). -/

namespace Chip8

/-! ## What occurs an odd number of times -/

section

variable {α β : Type} [DecidableEq α]

/-- What occurs an odd number of times in a list, each once. -/
def oddOnes (as : List α) : List α := as.dedup.filter fun a => as.count a % 2 = 1

theorem mem_oddOnes {as : List α} {a : α} : a ∈ oddOnes as ↔ as.count a % 2 = 1 := by
  rw [oddOnes, List.mem_filter, List.mem_dedup, decide_eq_true_iff, and_iff_right_iff_imp]
  intro hodd
  rw [← List.count_pos_iff]
  omega

theorem nodup_oddOnes (as : List α) : (oddOnes as).Nodup := (List.nodup_dedup as).filter _

theorem oddOnes_cons_of_mem {as : List α} {a : α} (h : a ∈ oddOnes as) :
    (oddOnes as).Perm (a :: oddOnes (a :: as)) := by
  have hodd := mem_oddOnes.1 h
  have hnot : a ∉ oddOnes (a :: as) := by
    rw [mem_oddOnes, List.count_cons_self]
    omega
  rw [List.perm_ext_iff_of_nodup (nodup_oddOnes as) (List.nodup_cons.2 ⟨hnot, nodup_oddOnes _⟩)]
  intro b
  rw [List.mem_cons, mem_oddOnes, mem_oddOnes]
  by_cases hb : b = a
  · subst hb
    simp [hodd]
  · rw [List.count_cons_of_ne (Ne.symm hb)]
    simp [hb]

theorem oddOnes_cons_of_not_mem {as : List α} {a : α} (h : a ∉ oddOnes as) :
    (oddOnes (a :: as)).Perm (a :: oddOnes as) := by
  rw [List.perm_ext_iff_of_nodup (nodup_oddOnes _) (List.nodup_cons.2 ⟨h, nodup_oddOnes as⟩)]
  rw [mem_oddOnes] at h
  intro b
  rw [List.mem_cons, mem_oddOnes, mem_oddOnes]
  by_cases hb : b = a
  · subst hb
    rw [List.count_cons_self]
    simp
    omega
  · rw [List.count_cons_of_ne (Ne.symm hb)]
    simp [hb]

/-- Steps that commute and undo themselves: only what occurs an odd number of times matters. -/
theorem foldl_oddOnes (f : β → α → β) [RightCommutative f] (hundo : ∀ b a, f (f b a) a = b)
    (b : β) (as : List α) : (oddOnes as).foldl f b = as.foldl f b := by
  induction as generalizing b with
  | nil => rfl
  | cons a as ih =>
      rw [List.foldl_cons, ← ih]
      by_cases ha : a ∈ oddOnes as
      · rw [(oddOnes_cons_of_mem ha).foldl_eq, List.foldl_cons, hundo]
      · rw [(oddOnes_cons_of_not_mem ha).foldl_eq, List.foldl_cons]

end

/-! ## Layers on a screen -/

namespace Screen

theorem flip_flip (s layer : Screen) : (s.flip layer).flip layer = s := by
  apply ext_pixel
  intro row col
  rw [pixel_flip, pixel_flip, UInt8.xor_assoc, UInt8.xor_self, UInt8.xor_zero]

instance : RightCommutative flip where
  right_comm s layer layer' := by
    apply ext_pixel
    intro row col
    simp only [pixel_flip]
    rw [UInt8.xor_assoc, UInt8.xor_comm (layer.pixel row col), ← UInt8.xor_assoc]

theorem IsBinary.and_ne_zero_iff {s layer : Screen} (hs : s.IsBinary) (hlayer : layer.IsBinary)
    (row col : Nat) : s.pixel row col &&& layer.pixel row col ≠ 0 ↔
      s.pixel row col = 1 ∧ layer.pixel row col = 1 := by
  rcases hs row col with h | h <;> rcases hlayer row col with h' | h' <;> rw [h, h'] <;> decide

/-- Flip the pixels of one layer after the other. -/
def flipAll (s : Screen) (layers : List Screen) : Screen := layers.foldl flip s

variable {α : Type} (s : Screen) (layerOf : α → Screen)

theorem flipAll_perm {as bs : List α} (h : as.Perm bs) :
    s.flipAll (as.map layerOf) = s.flipAll (bs.map layerOf) := (h.map layerOf).foldl_eq s

/-- Two equal layers undo each other, wherever they stand. -/
theorem flipAll_delete_pair (before middle after : List α) (a : α) :
    s.flipAll ((before ++ a :: middle ++ a :: after).map layerOf) =
      s.flipAll ((before ++ middle ++ after).map layerOf) := by
  have hfront : (before ++ a :: middle ++ a :: after).Perm
      (a :: a :: (before ++ middle ++ after)) :=
    List.perm_middle.trans ((List.perm_middle.append_right after).cons a)
  rw [flipAll_perm s layerOf hfront]
  show flipAll ((s.flip (layerOf a)).flip (layerOf a)) _ = _
  rw [flip_flip]

theorem flipAll_oddOnes [DecidableEq α] (as : List α) :
    s.flipAll ((oddOnes as).map layerOf) = s.flipAll (as.map layerOf) := by
  have : RightCommutative fun s a => flip s (layerOf a) :=
    ⟨fun s a b => RightCommutative.right_comm s (layerOf a) (layerOf b)⟩
  rw [flipAll, flipAll, List.foldl_map, List.foldl_map]
  exact foldl_oddOnes _ (fun s a => s.flip_flip (layerOf a)) s as

end Screen

/-! ## What draws leave alone -/

namespace State

/-- The layer that a word draws, if it is a draw. -/
def layerOf (s : State) (w : Word) : Screen := s.spriteLayer (Word.x w) (Word.y w) (Word.n w)

/-- Nothing differs but the screen and, in the extended profile, the flag register. -/
structure Paints (s t : State) : Prop where
  rest : t = { s with registers := t.registers, screen := t.screen }
  reg : ∀ r ≠ flagRegister, t.reg r = s.reg r
  core : s.config.extended = false → t.registers = s.registers

variable {s t u : State} {w : Word} {ws : List Word}

theorem Paints.refl (s : State) : s.Paints s := ⟨rfl, fun _ _ => rfl, fun _ => rfl⟩

theorem Paints.config (h : s.Paints t) : t.config = s.config := by rw [h.rest]

theorem Paints.trans (h : s.Paints t) (h' : t.Paints u) : s.Paints u where
  rest := by rw [h'.rest, h.rest]
  reg r hr := (h'.reg r hr).trans (h.reg r hr)
  core hcore := by
    have hcore' : t.config.extended = false := by rw [h.config, hcore]
    rw [h'.core hcore', h.core hcore]

theorem Paints.eq_of_core (h : s.Paints t) (hcore : s.config.extended = false) :
    t = { s with screen := t.screen } := by
  have hrest := h.rest
  rwa [h.core hcore] at hrest

theorem Paints.ext_of_core (h : s.Paints t) (h' : s.Paints u) (hcore : s.config.extended = false)
    (hscreen : t.screen = u.screen) : t = u := by
  rw [h.eq_of_core hcore, h'.eq_of_core hcore, hscreen]

theorem paints_draw (s : State) (x y height : Fin 16) : s.Paints (s.draw x y height) where
  rest := by rw [draw_eq]
  reg _ hr := reg_draw_of_ne s x y height hr
  core hcore := registers_draw_of_core hcore x y height

theorem paints_executeWord (s : State) (hdraw : Word.opcode w = 0xD) :
    s.Paints (s.executeWord w) := by
  rw [executeWord_of_draw s hdraw]
  exact paints_draw s _ _ _

theorem paints_foldl (s : State) (hdraw : ∀ w ∈ ws, Word.opcode w = 0xD) :
    s.Paints (ws.foldl executeWord s) := by
  induction ws generalizing s with
  | nil => exact Paints.refl s
  | cons w ws ih =>
      obtain ⟨hw, hws⟩ := List.forall_mem_cons.1 hdraw
      exact (paints_executeWord s hw).trans (ih (s.executeWord w) hws)

/-! ## The screen after a list of draws -/

/-- No word takes a coordinate from the register that receives collisions, unless the profile
    reports none. -/
def ApartFromFlag (s : State) (ws : List Word) : Prop :=
  s.config.extended = true → ∀ w ∈ ws, Word.x w ≠ flagRegister ∧ Word.y w ≠ flagRegister

theorem ApartFromFlag.subset {ws' : List Word} (h : s.ApartFromFlag ws) (hsub : ws' ⊆ ws) :
    s.ApartFromFlag ws' := fun hextended w hw => h hextended w (hsub hw)

theorem screen_executeWord_of_draw (s : State) (hdraw : Word.opcode w = 0xD) :
    (s.executeWord w).screen = s.screen.flip (s.layerOf w) := by
  rw [executeWord_of_draw s hdraw, screen_draw, State.layerOf]

theorem Paints.layerOf (h : s.Paints t) (hapart : s.ApartFromFlag ws) (hw : w ∈ ws) :
    t.layerOf w = s.layerOf w := by
  have hreg : t.reg (Word.x w) = s.reg (Word.x w) ∧ t.reg (Word.y w) = s.reg (Word.y w) := by
    cases hprofile : s.config.extended with
    | true =>
        obtain ⟨hx, hy⟩ := hapart hprofile w hw
        exact ⟨h.reg _ hx, h.reg _ hy⟩
    | false =>
        have hregisters := h.core hprofile
        simp only [State.reg, hregisters, and_self]
  have hmemory : t.memory = s.memory := by rw [h.rest]
  have hindex : t.index = s.index := by rw [h.rest]
  simp only [State.layerOf, spriteLayer, hmemory, hindex, hreg.1, hreg.2]

/-- Every word of a list draws the layer that it would have drawn first. -/
theorem screen_foldl (hdraw : ∀ w ∈ ws, Word.opcode w = 0xD) (hapart : s.ApartFromFlag ws)
    (h : s.Paints t) :
    (ws.foldl executeWord t).screen = t.screen.flipAll (ws.map s.layerOf) := by
  induction ws generalizing t with
  | nil => rfl
  | cons w ws ih =>
      obtain ⟨hw, hws⟩ := List.forall_mem_cons.1 hdraw
      have hlayer : t.layerOf w = s.layerOf w := h.layerOf hapart List.mem_cons_self
      have hscreen : (t.executeWord w).screen = t.screen.flip (s.layerOf w) := by
        rw [screen_executeWord_of_draw t hw, hlayer]
      have hnext : s.Paints (t.executeWord w) := h.trans (paints_executeWord t hw)
      rw [List.foldl_cons, ih hws (hapart.subset (List.subset_cons_self w ws)) hnext, hscreen]
      rfl

theorem isBinary_foldl (hdraw : ∀ w ∈ ws, Word.opcode w = 0xD) (hs : s.screen.IsBinary) :
    (ws.foldl executeWord s).screen.IsBinary := by
  induction ws generalizing s with
  | nil => exact hs
  | cons w ws ih =>
      obtain ⟨hw, hws⟩ := List.forall_mem_cons.1 hdraw
      refine ih hws ?_
      rw [screen_executeWord_of_draw s hw]
      exact hs.flip (isBinary_spriteLayer s _ _ _)

/-- The last draw decides what is in the flag register. -/
theorem flag_foldl_concat {before : List Word} {last : Word}
    (hdraw : ∀ w ∈ before ++ [last], Word.opcode w = 0xD) (hextended : s.config.extended = true) :
    let u := before.foldl executeWord s
    ((before ++ [last]).foldl executeWord s).reg flagRegister =
      AluOp.flagOf (u.screen.overlaps (u.layerOf last)) := by
  intro u
  have hpaints : s.Paints u := paints_foldl s fun w hw => hdraw w (List.mem_append_left _ hw)
  rw [List.foldl_append, List.foldl_cons, List.foldl_nil,
    executeWord_of_draw u (hdraw last List.mem_concat_self)]
  exact flag_draw_of_extended (by rw [hpaints.config, hextended]) _ _ _

/-- Draws, one after the other. They change nothing but the screen and, in the extended profile,
    `VF`. If no coordinate is in `VF`, or if the profile is the core one, then what is on the screen
    in the end is what was there with the layers flipped of those words that occur an odd number of
    times, each the layer that the word would have drawn first; so the words may come in any order,
    and two equal ones may be left out. In the extended profile `VF` tells in the end whether the
    layer of the last word met lit pixels of the screen before it. -/
theorem draws_compose (s : State) (ws : List Word) (hdraw : ∀ w ∈ ws, Word.opcode w = 0xD) :
    let t := ws.foldl executeWord s
    let SameAs := fun ws' : List Word => (ws'.foldl executeWord s).screen = t.screen ∧
      (s.config.extended = false → ws'.foldl executeWord s = t)
    t = { s with registers := t.registers, screen := t.screen } ∧
      (∀ r ≠ flagRegister, t.reg r = s.reg r) ∧
      (s.config.extended = false → t = { s with screen := t.screen }) ∧
      (s.ApartFromFlag ws →
        t.screen = s.screen.flipAll ((oddOnes ws).map s.layerOf) ∧
          (∀ ws', ws'.Perm ws → SameAs ws') ∧
          ∀ before middle after w, ws = before ++ w :: middle ++ w :: after →
            SameAs (before ++ middle ++ after)) ∧
      (s.config.extended = true → ∀ before last, ws = before ++ [last] →
        let u := before.foldl executeWord s
        let Overlaps := ∃ row < 32, ∃ col < 64,
          u.screen.pixel row col &&& (u.layerOf last).pixel row col ≠ 0
        (Overlaps → t.reg flagRegister = 1) ∧ (¬ Overlaps → t.reg flagRegister = 0) ∧
          (s.ApartFromFlag ws → u.layerOf last = s.layerOf last) ∧
          (s.screen.IsBinary → (Overlaps ↔ ∃ row < 32, ∃ col < 64,
            u.screen.pixel row col = 1 ∧ (u.layerOf last).pixel row col = 1))) := by
  intro t SameAs
  have hpaints : s.Paints t := paints_foldl s hdraw
  refine ⟨hpaints.rest, hpaints.reg, hpaints.eq_of_core, fun hapart => ?_, ?_⟩
  · have hscreen : t.screen = s.screen.flipAll (ws.map s.layerOf) :=
      screen_foldl hdraw hapart (Paints.refl s)
    have hsame : ∀ ws' : List Word, ws' ⊆ ws →
        s.screen.flipAll (ws'.map s.layerOf) = s.screen.flipAll (ws.map s.layerOf) →
        SameAs ws' := by
      intro ws' hsub hlayers
      have hdraw' : ∀ w ∈ ws', Word.opcode w = 0xD := fun w hw => hdraw w (hsub hw)
      have hscreen' : (ws'.foldl executeWord s).screen = t.screen := by
        rw [screen_foldl hdraw' (hapart.subset hsub) (Paints.refl s), hlayers, hscreen]
      exact ⟨hscreen', fun hcore => (paints_foldl s hdraw').ext_of_core hpaints hcore hscreen'⟩
    refine ⟨?_, fun ws' hperm => ?_, ?_⟩
    · rw [hscreen, Screen.flipAll_oddOnes]
    · exact hsame ws' hperm.subset (s.screen.flipAll_perm s.layerOf hperm)
    · rintro before middle after w rfl
      have hsub : (before ++ middle ++ after).Sublist (before ++ w :: middle ++ w :: after) :=
        ((List.Sublist.refl before).append (List.sublist_cons_self w middle)).append
          (List.sublist_cons_self w after)
      have hlayers := s.screen.flipAll_delete_pair s.layerOf before middle after w
      exact hsame _ hsub.subset hlayers.symm
  · rintro hextended before last rfl u Overlaps
    have hdraws : ∀ w ∈ before, Word.opcode w = 0xD := fun w hw =>
      hdraw w (List.mem_append_left _ hw)
    have hpaints : s.Paints u := paints_foldl s hdraws
    have hflag : t.reg flagRegister = AluOp.flagOf (u.screen.overlaps (u.layerOf last)) :=
      flag_foldl_concat hdraw hextended
    have hoverlaps : u.screen.overlaps (u.layerOf last) = true ↔ Overlaps := Screen.overlaps_iff
    refine ⟨fun h => ?_, fun h => ?_, fun hapart => hpaints.layerOf hapart List.mem_concat_self,
      fun hbinary => ?_⟩
    · rw [hflag, hoverlaps.2 h]
      rfl
    · rw [hflag, Bool.eq_false_iff.2 (mt hoverlaps.1 h)]
      rfl
    · have hlayer : (u.layerOf last).IsBinary := isBinary_spriteLayer u _ _ _
      have hlit := (isBinary_foldl hdraws hbinary).and_ne_zero_iff hlayer
      simp only [Overlaps, u, hlit]

/-- The glyph of the digit zero, drawn twice: the screen is as before, and `VF` tells that the glyph
    was there. -/
theorem draws_compose_twice :
    let s := { State.initial ⟨.extended, true⟩ .zero with index := 0x50 }
    let ws := [0xD005, 0xD005]
    (∀ w ∈ ws, Word.opcode w = 0xD) ∧ s.ApartFromFlag ws ∧
      (ws.foldl executeWord s).screen = s.screen ∧
      (ws.foldl executeWord s).reg flagRegister = 1 := by
  intro s ws
  have hws : ∀ w ∈ ws, w = 0xD005 := by simp [ws]
  have hdraw : ∀ w ∈ ws, Word.opcode w = 0xD := by
    intro w hw
    rw [hws w hw]
    rfl
  have hapart : s.ApartFromFlag ws := by
    intro _ w hw
    rw [hws w hw]
    decide
  obtain ⟨-, -, -, hscreen, hflag⟩ := draws_compose s ws hdraw
  obtain ⟨hrestored, -, -⟩ := hscreen hapart
  have hodd : oddOnes ws = [] := by decide
  rw [hodd] at hrestored
  obtain ⟨hhit, -, -, -⟩ := hflag rfl [0xD005] 0xD005 rfl
  refine ⟨hdraw, hapart, hrestored, hhit ⟨0, by decide, 0, by decide, ?_⟩⟩
  have hlit : (s.layerOf 0xD005).pixel 0 0 = 1 := by
    have hbit := @Sprite.pixel_layer_eq_one_iff s.memory 0x50 5 0 0 0 0
    refine (hbit (by decide) (by decide) (by decide)).2 ⟨0, 0, ?_⟩
    exact ⟨by decide, by decide, by decide, by decide, by decide +kernel⟩
  have hdrawn : (s.executeWord 0xD005).screen = s.screen.flip (s.layerOf 0xD005) := by
    rw [executeWord_of_draw s rfl, screen_draw, State.layerOf]
  have hsame : (s.executeWord 0xD005).layerOf 0xD005 = s.layerOf 0xD005 :=
    (paints_executeWord s rfl).layerOf hapart List.mem_cons_self
  rw [List.foldl_cons, List.foldl_nil, hsame, hdrawn, Screen.pixel_flip, hlit]
  show (Screen.blank.pixel 0 0 ^^^ 1) &&& 1 ≠ 0
  rw [Screen.pixel_blank]
  decide

end State

end Chip8
