import Chip8.Settings.Override.Update
import Chip8.Settings.KeyPath

set_option autoImplicit false

/-! # Overrides

An override is a text `key=value`. The key is a path, the value a YAML text; without an equals sign
it is null. Overrides are collected in one mapping, in which a later one for the same path replaces
or extends what is there. -/

namespace Chip8.Settings

open Yaml (Value)

/-- An override in parts: the names of its path, and the text of its value. -/
structure Override where
  path : List String
  value? : Option String

namespace Override

/-- Split a text behind the characters of its key. An equals sign behind a backslash belongs to the
    key; `escaped` if there is a backslash in front of the text. -/
def splitKey (escaped : Bool) : List Char → List Char × Option (List Char)
  | [] => ([], none)
  | c :: rest =>
    if c = '=' && !escaped then ([], some rest)
    else
      let (key, value?) := splitKey (c = '\\') rest
      (c :: key, value?)

/-- An override splits at its first equals sign that has no backslash before it. -/
theorem splitKey_append (key value : List Char) (h : ∀ c ∈ key, c ≠ '=' ∧ c ≠ '\\') :
    splitKey false (key ++ '=' :: value) = (key, some value) := by
  induction key with
  | nil => simp [splitKey]
  | cons c rest ih =>
    have hc := h c (by simp)
    have hr := ih fun d hd => h d (by simp [hd])
    simp [splitKey, hc.1, hc.2, hr]

/-- Leave out the backslashes in front of equals signs. -/
def unescape : List Char → List Char
  | '\\' :: '=' :: rest => '=' :: unescape rest
  | c :: rest => c :: unescape rest
  | [] => []

/-- Read an override. -/
def ofText (text : String) : Override :=
  let (key, value?) := splitKey false text.toList
  ⟨KeyPath.ofText (String.ofList (unescape key)), value?.map String.ofList⟩

/-- The value of an override. -/
def value (o : Override) : Except SettingsError Value :=
  match o.value? with
  | none => .ok .null
  | some text => (Value.ofText text).mapError SettingsError.document

/-- Add an override to what has been collected. -/
def addTo (o : Override) (root : Content) : Except SettingsError Content := do
  root.update (← o.value) o.path

/-- Collect overrides, in order. -/
def collect (overrides : List String) : Except SettingsError Content :=
  overrides.foldlM (fun root text => (ofText text).addTo root) (.map [])

end Override

end Chip8.Settings
