import Chip8.Proofs.WordSettings
import Mathlib.Data.List.Induction

set_option autoImplicit false

/-! # Which setting counts

Settings of words reach a configuration in two stages. The settings in a file are converted before
the overrides are looked at, so nothing mends them. Overrides are collected before any of them is
converted, so only the last one for a field counts, and it mends the earlier ones
(`Settings.load_precedence`). -/

namespace Chip8.Settings

open Yaml (Atom IsWord Value)

variable {ws : List (Field × Atom)}

/-! ## Overrides -/

/-- An override of a field by a word that does not stand for null. -/
structure Assignment where
  field : Field
  word : String
  isWord : IsWord word.toList
  notNull : Yaml.Scalar.nulls.contains word = false

namespace Assignment

/-- The text of an override. -/
def text (o : Assignment) : String := o.field.name ++ "=" ++ o.word

/-- The setting in an override. -/
def setting (o : Assignment) : Field × Atom := (o.field, Atom.ofWord o.word)

theorem isPlain (o : Assignment) : o.setting.2.IsPlain :=
  Yaml.Atom.isPlain_ofWord o.isWord o.notNull

theorem ofText_text (o : Assignment) : Override.ofText o.text = ⟨[o.field.name], some o.word⟩ := by
  have htext : o.text.toList = o.field.name.toList ++ '=' :: o.word.toList := by
    rw [text, String.toList_append, String.toList_append, List.append_assoc]
    rfl
  have hmarks : o.field.name.toList.all (fun c => decide (c ≠ '=' ∧ c ≠ '\\')) = true := by
    cases o.field with
    | instructionSet => decide +kernel
    | modern => decide +kernel
  have hname : ∀ c ∈ o.field.name.toList, c ≠ '=' ∧ c ≠ '\\' :=
    fun c hc => of_decide_eq_true (List.all_eq_true.1 hmarks c hc)
  have hpath : KeyPath.ofText (String.ofList (Override.unescape o.field.name.toList)) =
      [o.field.name] := by
    cases o.field with
    | instructionSet => decide +kernel
    | modern => decide +kernel
  rw [Override.ofText, htext, Override.splitKey_append _ _ hname]
  simp only [hpath, Option.map_some, String.ofList_toList]

theorem value_text (o : Assignment) :
    (Override.ofText o.text).value = .ok (.atom o.setting.2) := by
  rw [ofText_text]
  show (Value.ofText o.word).mapError SettingsError.document = _
  rw [Value.ofText_word o.isWord]
  rfl

end Assignment

/-- The last setting of a field. -/
def last (os : List Assignment) (f : Field) : Option Atom :=
  (os.map Assignment.setting).reverse.lookup f

theorem last_concat (os : List Assignment) (o : Assignment) (f : Field) :
    last (os ++ [o]) f = if f = o.field then some o.setting.2 else last os f := by
  rw [last, List.map_append, List.reverse_append]
  exact lookup_cons_ite f o.field o.setting.2 _

/-! ## Collecting -/

/-- Settings with another one, which takes the place of one of the same field. -/
def replace : List (Field × Atom) → Field × Atom → List (Field × Atom)
  | [], w => [w]
  | v :: ws, w => if v.1 = w.1 then w :: ws else v :: replace ws w

theorem lookup_replace (w : Field × Atom) (f : Field) :
    (replace ws w).lookup f = if f = w.1 then some w.2 else ws.lookup f := by
  obtain ⟨g, a⟩ := w
  induction ws with
  | nil => exact lookup_cons_ite f g a []
  | cons v ws ih =>
      obtain ⟨k, b⟩ := v
      rw [replace, lookup_cons_ite]
      split
      · next heq =>
          obtain rfl : k = g := heq
          rw [lookup_cons_ite]
          split
          · rfl
          · rfl
      · next hne =>
          rw [lookup_cons_ite, ih]
          split
          · next heq =>
              obtain rfl := heq
              rw [if_neg hne]
          · rfl

theorem mem_replace {w v : Field × Atom} (h : v ∈ replace ws w) : v = w ∨ v ∈ ws := by
  induction ws with
  | nil => exact .inl (List.mem_singleton.1 h)
  | cons u ws ih =>
      rw [replace] at h
      split at h
      · rcases List.mem_cons.1 h with rfl | h
        · exact .inl rfl
        · exact .inr (List.mem_cons_of_mem u h)
      · rcases List.mem_cons.1 h with rfl | h
        · exact .inr List.mem_cons_self
        · exact (ih h).imp id (List.mem_cons_of_mem u)

theorem ArePlain.replace {w : Field × Atom} (h : ArePlain ws) (hw : w.2.IsPlain) :
    ArePlain (replace ws w) := by
  refine ⟨?_, fun v hv => ?_⟩
  · induction ws with
    | nil => exact List.nodup_cons.2 ⟨List.not_mem_nil, List.nodup_nil⟩
    | cons v ws ih =>
        have hnodup := List.nodup_cons.1 h.nodup
        rw [Settings.replace]
        split
        · next heq =>
            rw [List.map_cons, ← heq]
            exact h.nodup
        · next hne =>
            rw [List.map_cons, List.nodup_cons]
            refine ⟨fun hmem => ?_, ih h.tail⟩
            obtain ⟨u, hu, heq⟩ := List.mem_map.1 hmem
            rcases mem_replace hu with rfl | hu
            · exact hne heq.symm
            · exact hnodup.1 (List.mem_map.2 ⟨u, hu, heq⟩)
  · rcases mem_replace hv with rfl | hv
    · exact hw
    · exact h.plain v hv

/-- The settings that overrides leave: the last one of each field. -/
def collected (os : List Assignment) : List (Field × Atom) :=
  (os.map Assignment.setting).foldl replace []

theorem collected_concat (os : List Assignment) (o : Assignment) :
    collected (os ++ [o]) = replace (collected os) o.setting := by
  rw [collected, List.map_append, List.foldl_append]
  rfl

theorem arePlain_collected (os : List Assignment) : ArePlain (collected os) := by
  induction os using List.reverseRecOn with
  | nil => exact ⟨List.nodup_nil, fun w hw => absurd hw List.not_mem_nil⟩
  | append_singleton os o ih =>
      rw [collected_concat]
      exact ih.replace o.isPlain

theorem lookup_collected (os : List Assignment) (f : Field) :
    (collected os).lookup f = last os f := by
  induction os using List.reverseRecOn with
  | nil => rfl
  | append_singleton os o ih =>
      rw [collected_concat, lookup_replace, last_concat, ih]
      rfl

/-! ### In a mapping -/

theorem insert_entry (w : Field × Atom) :
    Value.insert (ws.map entry) (.text w.1.name) (.atom w.2) = (replace ws w).map entry := by
  induction ws with
  | nil => rfl
  | cons v ws ih =>
      rw [List.map_cons, Value.insert, replace, entry, Atom.sameKey_text_text]
      by_cases h : v.1 = w.1
      · rw [if_pos (by rw [h]; exact decide_eq_true rfl), if_pos h, h]
        rfl
      · have hname : ¬ decide (v.1.name = w.1.name) = true := by
          rw [decide_eq_true_iff]
          exact fun heq => h (Field.name_injective heq)
        rw [if_neg hname, if_neg h, ih]
        rfl

theorem entryKey_entries (name : String) : Content.entryKey (ws.map entry) name = .text name := by
  have htext : ∀ key ∈ (ws.map entry).map (·.1), ∃ s, key = .text s := by
    intro key hkey
    obtain ⟨e, he, rfl⟩ := List.mem_map.1 hkey
    obtain ⟨w, -, rfl⟩ := List.mem_map.1 he
    exact ⟨w.1.name, rfl⟩
  rw [Content.entryKey]
  split
  · rfl
  · rw [List.find?_eq_none.2]
    · rfl
    · intro key hkey
      obtain ⟨s, rfl⟩ := htext key hkey
      exact Bool.false_ne_true

theorem put_atom {root : Content} {place : List Key} {a : Atom} (s : Content.Position)
    (hold : ((root.at? place).getD .null).container? = none) (ha : a.IsPlain) :
    root.put s place (.atom a) = .ok (.atom a) := by
  have haccept : Content.accept s (.atom a) = .ok (.atom a) := by
    rw [Content.accept]
    exact Content.acceptAtom_plain ha s
  unfold Content.put
  dsimp only
  rw [hold]
  exact haccept

theorem addTo_entries (o : Assignment) :
    (Override.ofText o.text).addTo (.map (ws.map entry)) =
      .ok (.map ((replace ws o.setting).map entry)) := by
  have hold : (((Content.map (ws.map entry)).at? [.entry (.text o.field.name)]).getD
      .null).container? = none := by
    show (((Value.lookup (ws.map entry) (.text o.field.name)).bind some).getD .null).container? = _
    rw [Value.lookup]
    cases hfind : (ws.map entry).find? (·.1.sameKey (.text o.field.name)) with
    | none => rfl
    | some e =>
        obtain ⟨w, -, rfl⟩ := List.mem_map.1 (List.mem_of_find?_eq_some hfind)
        rfl
  rw [Override.addTo, Assignment.value_text, ok_bind, Assignment.ofText_text]
  show (Content.map (ws.map entry)).putIn [] o.field.name (.atom o.setting.2) = _
  rw [← insert_entry]
  show ((Content.map (ws.map entry)).put
      (.ofKey [] (Content.entryKey (ws.map entry) o.field.name))
      [.entry (Content.entryKey (ws.map entry) o.field.name)] (.atom o.setting.2) >>= fun c =>
    pure ((Content.map (ws.map entry)).setAt c
      [.entry (Content.entryKey (ws.map entry) o.field.name)])) = _
  rw [entryKey_entries, put_atom _ hold o.isPlain]
  rfl

/-- Overrides are collected as the last setting of each field. -/
theorem collect_texts (os : List Assignment) :
    Override.collect (os.map Assignment.text) = .ok (.map ((collected os).map entry)) := by
  induction os using List.reverseRecOn with
  | nil => rfl
  | append_singleton os o ih =>
      rw [Override.collect] at ih ⊢
      rw [List.map_append, List.foldlM_append, ih, ok_bind, collected_concat, ← addTo_entries,
        List.map_singleton, List.foldlM_cons]
      exact bind_pure _

/-! ## Files -/

/-- A document that gives settings of words: an empty one, or a mapping of fields. -/
inductive Gives : Value → List (Field × Atom) → Prop
  | empty : Gives .null []
  | entries {ws : List (Field × Atom)} (h : ArePlain ws) :
      Gives (.map (ws.map fun w => (.text w.1.name, .atom w.2))) ws

/-- A file that gives settings of words, or no file, which gives none. The settings may stand in a
    text that is the whole document. -/
inductive FileGives (files : Files) : Option String → List (Field × Atom) → Prop
  | noFile : FileGives files none []
  | plain {path text : String} {bytes : List UInt8} {v : Value} {ws : List (Field × Atom)}
      (hread : files.read (filePath path) = .ok bytes) (htext : decodeText bytes = .ok text)
      (hvalue : Value.ofText text = .ok v) (h : Gives v ws) : FileGives files (some path) ws
  | quoted {path text inner : String} {bytes : List UInt8} {v : Value} {ws : List (Field × Atom)}
      (hread : files.read (filePath path) = .ok bytes) (htext : decodeText bytes = .ok text)
      (hquoted : Value.ofText text = .ok (.text inner)) (hvalue : Value.ofText inner = .ok v)
      (h : Gives v ws) : FileGives files (some path) ws

/-- The settings in a file, if there is one. -/
def fileSettings (files : Files) : Option String → Except SettingsError (List (Atom × Content))
  | some path => readFile files path
  | none => .ok []

theorem Gives.arePlain {v : Value} (h : Gives v ws) : ArePlain ws := by
  cases h with
  | empty => exact ⟨List.nodup_nil, fun w hw => absurd hw List.not_mem_nil⟩
  | entries h => exact h

theorem acceptEntries_plain (hplain : ∀ w ∈ ws, w.2.IsPlain) {before : List Atom}
    (hbefore : ∀ key ∈ before, ∃ s, key = .text s) :
    Content.acceptEntries [] before (ws.map fun w => (.text w.1.name, .atom w.2)) =
      .ok (ws.map entry) := by
  induction ws generalizing before with
  | nil => rfl
  | cons w ws ih =>
      have hkey : Content.Position.checkKey [] before (.text w.1.name) = .ok () := by
        have hnone : Content.conflict? before (.text w.1.name) = none := by
          rw [Content.conflict?, List.find?_eq_none]
          intro key hkey
          obtain ⟨s, rfl⟩ := hbefore key hkey
          exact Bool.false_ne_true
        rw [Content.Position.checkKey, hnone]
        rfl
      have hbefore' : ∀ key ∈ Atom.text w.1.name :: before, ∃ s, key = .text s := by
        intro key hmem
        rcases List.mem_cons.1 hmem with rfl | hmem
        · exact ⟨w.1.name, rfl⟩
        · exact hbefore key hmem
      have hrest := ih (fun v hv => hplain v (List.mem_cons_of_mem w hv)) hbefore'
      rw [List.map_cons, Content.acceptEntries, hkey, ok_bind, Content.accept,
        Content.acceptAtom_plain (hplain w List.mem_cons_self), ok_bind, hrest]
      rfl

theorem containerEntries_plain (h : ArePlain ws) :
    containerEntries (.map (ws.map fun w => (.text w.1.name, .atom w.2))) = .ok (ws.map entry) :=
  acceptEntries_plain h.plain fun _ hkey => absurd hkey List.not_mem_nil

namespace FileGives

variable {files : Files} {path? : Option String}

theorem arePlain (h : FileGives files path? ws) : ArePlain ws := by
  cases h with
  | noFile => exact Gives.empty.arePlain
  | plain _ _ _ h => exact h.arePlain
  | quoted _ _ _ _ h => exact h.arePlain

theorem settings (h : FileGives files path? ws) :
    fileSettings files path? = .ok (ws.map entry) := by
  cases h with
  | noFile => rfl
  | @plain path text bytes v _ hread htext hvalue h =>
      show readFile files path = _
      rw [readFile, hread]
      show (decodeText bytes >>= fileEntries) = _
      rw [htext, ok_bind, fileEntries, readDocument, hvalue]
      cases h with
      | empty => rfl
      | entries h => exact containerEntries_plain h
  | @quoted path text inner bytes v _ hread htext hquoted hvalue h =>
      show readFile files path = _
      rw [readFile, hread]
      show (decodeText bytes >>= fileEntries) = _
      rw [htext, ok_bind, fileEntries, readDocument, hquoted]
      show innerEntries inner = _
      rw [innerEntries, readDocument, hvalue]
      cases h with
      | empty => rfl
      | entries h => exact containerEntries_plain h

/-- Whether a text is a document that gives one word to one field. -/
def givesWord (f : Field) (word text : String) : Bool :=
  match Value.ofText text with
  | .ok (.map [(.text key, .text value)]) => key == f.name && value == word
  | _ => false

theorem of_givesWord {path word : String} {bytes : List UInt8} {f : Field} (text : String)
    (hread : files.read (filePath path) = .ok bytes) (htext : decodeText bytes = .ok text)
    (hword : IsWord word.toList) (hgives : givesWord f word text = true) :
    FileGives files (some path) [(f, .text word)] := by
  have hplain : ArePlain [(f, .text word)] := by
    refine ⟨List.nodup_cons.2 ⟨List.not_mem_nil, List.nodup_nil⟩, fun w hw => ?_⟩
    rw [List.mem_singleton.1 hw]
    exact .text hword
  unfold givesWord at hgives
  split at hgives
  · next key value hvalue =>
      simp only [Bool.and_eq_true, beq_iff_eq] at hgives
      obtain ⟨rfl, rfl⟩ := hgives
      exact .plain hread htext hvalue (.entries hplain)
  · cases hgives

end FileGives

/-! ## Both stages -/

variable {files : Files} {path? : Option String} {file : List (Field × Atom)}

theorem draft_eq_bind (files : Files) (path? : Option String) (overrides : List String) :
    draft files path? overrides = (fileSettings files path? >>= fun settings =>
      merge {} settings >>= fun d => overrideEntries overrides >>= merge d) := by
  cases path? with
  | none => rfl
  | some path => rfl

theorem draft_eq (h : FileGives files path? file) (os : List Assignment) :
    draft files path? (os.map Assignment.text) =
      (merge (.ofConfig {}) (file.map entry) >>= fun d => merge d ((collected os).map entry)) := by
  have hoverrides : overrideEntries (os.map Assignment.text) =
      .ok ((collected os).map entry) := by
    rw [overrideEntries, collect_texts]
    rfl
  rw [draft_eq_bind, h.settings, ok_bind, hoverrides]
  rfl

/-- Each field takes its last setting in an override, or else the one in the file. -/
theorem load_of_accepted (h : FileGives files path? file) (os : List Assignment)
    (haccepted : ∀ (f : Field) (a : Atom),
      file.lookup f = some a ∨ last os f = some a → f.Accepts a) :
    ∃ c, load files path? (os.map Assignment.text) = .ok c ∧
      ∀ f : Field, f.Takes ((last os f).or (file.lookup f)) {} c := by
  have hcollected := arePlain_collected os
  obtain ⟨c, hfile, htakes⟩ := merge_of_accepted h.arePlain
    (fun w hw => haccepted w.1 w.2 (.inl (h.arePlain.mem_iff.1 hw))) {}
  obtain ⟨c', hoverrides, htakes'⟩ := merge_of_accepted hcollected
    (fun w hw => haccepted w.1 w.2
      (.inr (by rw [← lookup_collected]; exact hcollected.mem_iff.1 hw))) c
  refine ⟨c', ?_, fun f => ?_⟩
  · rw [load, draft_eq h, hfile, ok_bind, hoverrides, ok_bind, Draft.config_ofConfig]
  · rw [← lookup_collected]
    exact (htakes f).trans (htakes' f)

/-- A setting in the file that is rejected, or the last one of a field in the overrides. -/
theorem load_of_rejected (h : FileGives files path? file) (os : List Assignment) {f : Field}
    {a : Atom} (hset : file.lookup f = some a ∨ last os f = some a) (hnot : ¬ f.Accepts a) :
    ∃ e, load files path? (os.map Assignment.text) = .error e ∧ e.kind = "ValidationError" := by
  have hcollected := arePlain_collected os
  suffices hdraft : ∃ e, draft files path? (os.map Assignment.text) = .error e ∧
      e.kind = "ValidationError" by
    obtain ⟨e, he, hkind⟩ := hdraft
    exact ⟨e, by rw [load, he]; rfl, hkind⟩
  rw [draft_eq h]
  by_cases hfile : ∃ w ∈ file, ¬ w.1.Accepts w.2
  · obtain ⟨e, he, hkind⟩ := merge_of_rejected h.arePlain.plain hfile {}
    exact ⟨e, by rw [he]; rfl, hkind⟩
  · have haccepted : ∀ w ∈ file, w.1.Accepts w.2 := fun w hw => by
      by_contra hnot
      exact hfile ⟨w, hw, hnot⟩
    obtain ⟨c, hmerge, -⟩ := merge_of_accepted h.arePlain haccepted {}
    rw [hmerge, ok_bind]
    refine merge_of_rejected hcollected.plain ⟨(f, a), ?_, hnot⟩ c
    rcases hset with hset | hset
    · exact absurd (haccepted (f, a) (h.arePlain.mem_iff.2 hset)) hnot
    · exact hcollected.mem_iff.2 ((lookup_collected os f).trans hset)

/-- Loading a file and overrides, all of words, fails to validate exactly if the setting of some
    field in the file is rejected, or the last override of some field. Otherwise it succeeds, and
    each field has the value of its last override, or else of its setting in the file, or else its
    default. -/
theorem load_precedence (h : FileGives files path? file) (os : List Assignment) :
    ((∃ e, load files path? (os.map Assignment.text) = .error e ∧ e.kind = "ValidationError") ↔
      ∃ (f : Field) (a : Atom),
        (file.lookup f = some a ∨ last os f = some a) ∧ ¬ f.Accepts a) ∧
    ((∀ (f : Field) (a : Atom), file.lookup f = some a ∨ last os f = some a → f.Accepts a) →
      ∃ c, load files path? (os.map Assignment.text) = .ok c ∧
        ∀ f : Field, f.Takes ((last os f).or (file.lookup f)) {} c) := by
  refine ⟨⟨fun ⟨e, he, hkind⟩ => ?_, fun ⟨f, a, hset, hnot⟩ => load_of_rejected h os hset hnot⟩,
    load_of_accepted h os⟩
  by_contra hnone
  obtain ⟨c, hc, -⟩ := load_of_accepted h os fun f a hset => by
    by_contra hnot
    exact hnone ⟨f, a, hset, hnot⟩
  rw [hc] at he
  cases he

/-- A rejected word is mended by a later override, but not in a file. -/
theorem load_precedence_mended :
    let files : Files := ⟨fun path => .ok (if path = "turbo.yaml"
      then "instruction_set: TURBO\n" else "instruction_set: EXTENDED\n").toUTF8.data.toList⟩
    let overrides := ["instruction_set=core", "modern_mode=sometimes"]
    FileGives files (some "machine.yaml") [(.instructionSet, .text "EXTENDED")] ∧
      FileGives files (some "turbo.yaml") [(.instructionSet, .text "TURBO")] ∧
      (∃ e, load files (some "machine.yaml") overrides = .error e ∧ e.kind = "ValidationError") ∧
      load files (some "machine.yaml") (overrides ++ ["modern_mode=off"]) = .ok ⟨.core, false⟩ ∧
      ∃ e, load files (some "turbo.yaml") (overrides ++ ["modern_mode=off"]) = .error e ∧
        e.kind = "ValidationError" := by
  intro files overrides
  have hmachine : FileGives files (some "machine.yaml") [(.instructionSet, .text "EXTENDED")] :=
    .of_givesWord "instruction_set: EXTENDED\n" rfl (by decide +kernel) (by decide +kernel)
      (by decide +kernel)
  have hturbo : FileGives files (some "turbo.yaml") [(.instructionSet, .text "TURBO")] :=
    .of_givesWord "instruction_set: TURBO\n" rfl (by decide +kernel) (by decide +kernel)
      (by decide +kernel)
  let os : List Assignment :=
    [⟨.instructionSet, "core", (by decide +kernel), by decide⟩,
      ⟨.modern, "sometimes", (by decide +kernel), by decide⟩]
  let mended := os ++ [⟨.modern, "off", (by decide +kernel), by decide⟩]
  have hos : os.map Assignment.text = overrides := by decide +kernel
  have hmended : mended.map Assignment.text = overrides ++ ["modern_mode=off"] := by
    decide +kernel
  refine ⟨hmachine, hturbo, ?_, ?_, ?_⟩
  · rw [← hos]
    refine (load_precedence hmachine os).1.2 ⟨.modern, .text "sometimes", .inr rfl, ?_⟩
    rintro ⟨b, hb⟩
    cases hb
  · rw [← hmended]
    have haccepted (f : Field) (a : Atom) (hset : List.lookup f
        [(Field.instructionSet, Atom.text "EXTENDED")] = some a ∨ last mended f = some a) :
        f.Accepts a := by
      cases f with
      | instructionSet =>
          rcases hset with hset | hset
          · obtain rfl : .text "EXTENDED" = a := Option.some.inj hset
            exact ⟨.extended, rfl⟩
          · obtain rfl : .text "core" = a := Option.some.inj hset
            exact ⟨.core, rfl⟩
      | modern =>
          rcases hset with hset | hset
          · cases hset
          · obtain rfl : .bool false = a := Option.some.inj hset
            exact ⟨false, rfl⟩
    obtain ⟨c, hc, htakes⟩ := (load_precedence hmachine mended).2 haccepted
    have hset : toInstructionSet (.text "core") = .ok c.instructionSet := htakes .instructionSet
    have hmode : toBool (.atom (.bool false)) = .ok c.modern := htakes .modern
    obtain ⟨p, b⟩ := c
    obtain rfl : .core = p := Except.ok.inj hset
    obtain rfl : false = b := Except.ok.inj hmode
    exact hc
  · rw [← hmended]
    refine (load_precedence hturbo mended).1.2 ⟨.instructionSet, .text "TURBO", .inl rfl, ?_⟩
    rintro ⟨p, hp⟩
    cases hp

end Chip8.Settings
