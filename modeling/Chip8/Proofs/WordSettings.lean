import Chip8.Proofs.PlainWord
import Chip8.Settings

set_option autoImplicit false

/-! # Settings of words

A field of a configuration takes some of the things that a word is read as, and rejects the others.
Merging settings of words gives each field what its setting is taken for
(`Settings.merge_of_accepted`), or fails if one of them is rejected
(`Settings.merge_of_rejected`). -/

namespace Chip8

open Yaml (Atom IsWord Value)

/-- What a word is read as that does not stand for null. -/
inductive Yaml.Atom.IsPlain : Atom → Prop
  | bool (b : Bool) : IsPlain (.bool b)
  | text {s : String} (h : IsWord s.toList) : IsPlain (.text s)

theorem Yaml.Atom.isPlain_ofWord {w : String} (h : IsWord w.toList)
    (hnull : Yaml.Scalar.nulls.contains w = false) : (Atom.ofWord w).IsPlain := by
  rw [Atom.ofWord, hnull, if_neg Bool.false_ne_true]
  split
  · exact .bool true
  · split
    · exact .bool false
    · exact .text h

namespace Settings

/-! ## Fields -/

namespace Field

theorem name_injective {f g : Field} (h : f.name = g.name) : f = g := by
  have hsome : some f = some g := by rw [← ofName?_name f, h, ofName?_name]
  exact Option.some.inj hsome

/-- What the values of a field are. -/
def Range : Field → Type
  | instructionSet => InstructionSet
  | modern => Bool

/-- The value that a field takes an atom for. -/
def convert : (f : Field) → Atom → Except Rejection f.Range
  | instructionSet, a => toInstructionSet (.atom a)
  | modern, a => toBool (.atom a)

/-- A field takes an atom. -/
def Accepts (f : Field) (a : Atom) : Prop := ∃ x, f.convert a = .ok x

/-- The value of a field in a configuration. -/
def get : (f : Field) → Config → f.Range
  | instructionSet, c => c.instructionSet
  | modern, c => c.modern

/-- A configuration with another value of a field. -/
def set : (f : Field) → f.Range → Config → Config
  | instructionSet, p, c => { c with instructionSet := p }
  | modern, b, c => { c with modern := b }

theorem get_set (f : Field) (x : f.Range) (c : Config) : f.get (f.set x c) = x := by
  cases f with
  | instructionSet => rfl
  | modern => rfl

theorem get_set_of_ne {f g : Field} (h : g ≠ f) (x : f.Range) (c : Config) :
    g.get (f.set x c) = g.get c := by
  cases f with
  | instructionSet =>
      cases g with
      | instructionSet => exact absurd rfl h
      | modern => rfl
  | modern =>
      cases g with
      | instructionSet => rfl
      | modern => exact absurd rfl h

/-- A field has the value of an atom, if there is one, and is unchanged otherwise. -/
def Takes (f : Field) (a? : Option Atom) (c c' : Config) : Prop :=
  match a? with
  | some a => f.convert a = .ok (f.get c')
  | none => f.get c' = f.get c

/-- Of two atoms in turn the later one counts. -/
theorem Takes.trans {f : Field} {a? b? : Option Atom} {c c' c'' : Config} (h : f.Takes a? c c')
    (h' : f.Takes b? c' c'') : f.Takes (b?.or a?) c c'' := by
  cases b? with
  | some b => exact h'
  | none =>
      have hget : f.get c'' = f.get c' := h'
      cases a? with
      | some a =>
          have hconvert : f.convert a = .ok (f.get c') := h
          exact hconvert.trans (congrArg Except.ok hget.symm)
      | none => exact hget.trans h

/-- Setting one field to the value of an atom. -/
theorem takes_set {g : Field} {a : Atom} {x : g.Range} (hx : g.convert a = .ok x) (f : Field)
    (c : Config) : f.Takes (if f = g then some a else none) c (g.set x c) := by
  split
  · next heq =>
      obtain rfl := heq
      exact hx.trans (congrArg Except.ok (get_set f x c).symm)
  · next hne => exact get_set_of_ne hne x c

end Field

/-! ## Merging words -/

namespace Content

variable {a : Atom}

theorem isEscapedMark_word {cs : List Char} (h : IsWord cs) : isEscapedMark cs = false := by
  obtain ⟨c, rest, rfl, hc⟩ := h.exists_cons
  have hne : c ≠ '\\' := Yaml.ne_of_isAlpha hc rfl
  simp [isEscapedMark, hne]

theorem isInterpolated_letters {cs : List Char} (h : ∀ c ∈ cs, c.isAlpha = true) :
    Interpolation.isInterpolated cs = false := by
  induction cs with
  | nil => rfl
  | cons c rest ih =>
      have hne : c ≠ '$' := Yaml.ne_of_isAlpha (h c List.mem_cons_self) rfl
      unfold Interpolation.isInterpolated
      split
      · next heq => exact absurd (List.cons.inj heq).1 hne
      · next heq =>
          rw [← (List.cons.inj heq).2]
          exact ih fun d hd => h d (List.mem_cons_of_mem c hd)
      · rfl

theorem isMissing_plain (h : a.IsPlain) : (atom a).isMissing = false := by
  cases h with
  | bool b => rfl
  | text h =>
      rw [isMissing, beq_eq_false_iff_ne]
      rintro rfl
      exact absurd (h.letters '?' (by decide)) (by decide)

theorem source?_plain (h : a.IsPlain) : (atom a).source? = none := by
  cases h with
  | bool b => rfl
  | text h => rw [source?, isInterpolated_letters h.letters, if_neg Bool.false_ne_true]

theorem acceptAtom_plain (h : a.IsPlain) (s : Position) : acceptAtom s a = .ok (atom a) := by
  cases h with
  | bool b => rfl
  | text h =>
      rw [acceptAtom, isInterpolated_letters h.letters, Bool.false_and,
        if_neg Bool.false_ne_true, ofAtom, ofText, isEscapedMark_word h,
        if_neg Bool.false_ne_true]

theorem hasText_plain (h : a.IsPlain) : (atom a).hasText = true := by
  cases h with
  | bool b => rfl
  | text h => rfl

end Content

/-- Each field at most once, with what a word is read as. -/
structure ArePlain (ws : List (Field × Atom)) : Prop where
  nodup : (ws.map Prod.fst).Nodup
  plain : ∀ w ∈ ws, w.2.IsPlain

theorem ArePlain.tail {w : Field × Atom} {ws : List (Field × Atom)} (h : ArePlain (w :: ws)) :
    ArePlain ws :=
  ⟨(List.nodup_cons.1 h.nodup).2, fun v hv => h.plain v (List.mem_cons_of_mem w hv)⟩

theorem lookup_cons_ite (f g : Field) (a : Atom) (ws : List (Field × Atom)) :
    ((g, a) :: ws).lookup f = if f = g then some a else ws.lookup f := by
  rw [List.lookup_cons]
  by_cases h : f = g
  · rw [if_pos h, h, beq_self_eq_true]
  · rw [if_neg h, beq_false_of_ne h]

theorem ArePlain.lookup_cons {f g : Field} {a : Atom} {ws : List (Field × Atom)}
    (h : ArePlain ((g, a) :: ws)) :
    ((g, a) :: ws).lookup f = (ws.lookup f).or (if f = g then some a else none) := by
  rw [lookup_cons_ite]
  by_cases hfg : f = g
  · obtain rfl := hfg
    have hnone : ws.lookup f = none := by
      refine List.lookup_eq_none_iff.2 fun w hw => bne_iff_ne.2 ?_
      intro heq
      exact (List.nodup_cons.1 h.nodup).1 (List.mem_map.2 ⟨w, hw, heq.symm⟩)
    rw [if_pos rfl, hnone, if_pos rfl]
    rfl
  · rw [if_neg hfg, if_neg hfg, Option.or_none]

theorem ArePlain.mem_iff {f : Field} {a : Atom} {ws : List (Field × Atom)} (h : ArePlain ws) :
    (f, a) ∈ ws ↔ ws.lookup f = some a := by
  induction ws with
  | nil =>
      refine ⟨fun hmem => absurd hmem List.not_mem_nil, fun hsome => ?_⟩
      cases hsome
  | cons w ws ih =>
      obtain ⟨g, b⟩ := w
      have hfirst := (List.nodup_cons.1 h.nodup).1
      rw [lookup_cons_ite, List.mem_cons, ih h.tail]
      split
      · next heq =>
          obtain rfl : f = g := heq
          have hnot : ws.lookup f ≠ some a := fun hsome =>
            hfirst (List.mem_map.2 ⟨(f, a), (ih h.tail).2 hsome, rfl⟩)
          rw [or_iff_left hnot, Option.some_inj, Prod.mk.injEq]
          exact ⟨fun h => h.2.symm, fun h => ⟨rfl, h.symm⟩⟩
      · next hne =>
          exact or_iff_right fun heq => hne (Prod.mk.inj heq).1

/-- A setting of a field, as an entry of a mapping. -/
def entry (w : Field × Atom) : Atom × Content := (.text w.1.name, .atom w.2)

/-- The draft in which every field has a value. -/
def Draft.ofConfig (c : Config) : Draft := ⟨.value c.instructionSet, .value c.modern⟩

theorem Draft.config_ofConfig (c : Config) : (Draft.ofConfig c).config = .ok c := rfl

theorem Draft.assign_plain (c : Config) (f : Field) {a : Atom} (h : a.IsPlain) :
    (Draft.ofConfig c).assign f (.atom a) =
      (f.convert a).map fun x => Draft.ofConfig (f.set x c) := by
  rw [Draft.assign.eq_def, Content.isMissing_plain h, if_neg Bool.false_ne_true]
  cases f with
  | instructionSet =>
      simp only [Draft.slotFor, Content.source?_plain h, Field.convert]
      cases toInstructionSet (.atom a) with
      | ok p => rfl
      | error cause => rfl
  | modern =>
      simp only [Draft.slotFor, Content.source?_plain h, Field.convert]
      cases toBool (.atom a) with
      | ok b => rfl
      | error cause => rfl

section

variable {w : Field × Atom}

theorem mergeEntry_of_ok (h : w.2.IsPlain) (c : Config) {x : w.1.Range}
    (hx : w.1.convert w.2 = .ok x) :
    mergeEntry (.ofConfig c) (entry w) = .ok (.ofConfig (w.1.set x c)) := by
  have hassign := Draft.assign_plain c w.1 h
  rw [hx] at hassign
  simp only [mergeEntry, entry, fieldOf?, Field.ofName?_name, hassign]
  rfl

theorem mergeEntry_of_error (h : w.2.IsPlain) (c : Config) {cause : Rejection}
    (hcause : w.1.convert w.2 = .error cause) :
    ∃ e, mergeEntry (.ofConfig c) (entry w) = .error e ∧ e.kind = "ValidationError" := by
  have hassign := Draft.assign_plain c w.1 h
  rw [hcause] at hassign
  refine ⟨entryFault (.text w.1.name) (.atom w.2) (.rejected cause) (Content.atom w.2).kind, ?_,
    rfl⟩
  simp only [mergeEntry, entry, fieldOf?, Field.ofName?_name, hassign, Content.hasText_plain h]
  simp [Except.map]

end

variable {ws : List (Field × Atom)}

theorem merge_of_accepted (h : ArePlain ws) (haccepted : ∀ w ∈ ws, w.1.Accepts w.2) (c : Config) :
    ∃ c', merge (.ofConfig c) (ws.map entry) = .ok (.ofConfig c') ∧
      ∀ f : Field, f.Takes (ws.lookup f) c c' := by
  induction ws generalizing c with
  | nil => exact ⟨c, rfl, fun f => rfl⟩
  | cons w ws ih =>
      obtain ⟨x, hx⟩ := haccepted w List.mem_cons_self
      obtain ⟨c', hmerge, htakes⟩ := ih h.tail
        (fun v hv => haccepted v (List.mem_cons_of_mem w hv)) (w.1.set x c)
      refine ⟨c', ?_, fun f => ?_⟩
      · rw [merge, List.map_cons, List.foldlM_cons,
          mergeEntry_of_ok (h.plain w List.mem_cons_self) c hx, ok_bind]
        exact hmerge
      · rw [h.lookup_cons]
        exact (Field.takes_set hx f c).trans (htakes f)

theorem merge_of_rejected (hplain : ∀ w ∈ ws, w.2.IsPlain)
    (hrejected : ∃ w ∈ ws, ¬ w.1.Accepts w.2) (c : Config) :
    ∃ e, merge (.ofConfig c) (ws.map entry) = .error e ∧ e.kind = "ValidationError" := by
  induction ws generalizing c with
  | nil =>
      obtain ⟨w, hw, -⟩ := hrejected
      exact absurd hw List.not_mem_nil
  | cons w ws ih =>
      have hw := hplain w List.mem_cons_self
      rw [merge, List.map_cons, List.foldlM_cons]
      cases hconvert : w.1.convert w.2 with
      | error cause =>
          obtain ⟨e, he, hkind⟩ := mergeEntry_of_error hw c hconvert
          exact ⟨e, by rw [he]; rfl, hkind⟩
      | ok x =>
          rw [mergeEntry_of_ok hw c hconvert, ok_bind]
          refine ih (fun v hv => hplain v (List.mem_cons_of_mem w hv)) ?_ _
          obtain ⟨v, hv, hnot⟩ := hrejected
          rcases List.mem_cons.1 hv with rfl | hv
          · exact absurd ⟨x, hconvert⟩ hnot
          · exact ⟨v, hv, hnot⟩

end Settings

end Chip8
