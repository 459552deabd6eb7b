import Chip8.Settings.Draft.Config
import Chip8.Settings.Override

set_option autoImplicit false

/-! # Settings

A configuration is made from the defaults, a file of settings and overrides, in this order. The
file is merged before the overrides are looked at. Overrides are collected first and merged
afterwards, so that a later one can mend an earlier one. At the end, fields with interpolations
get their values. Of several faults the first counts. -/

namespace Chip8.Settings

open Yaml (Atom Value)

/-! ## Merging -/

/-- The field of a key. -/
def fieldOf? : Atom → Option Field
  | .text s => Field.ofName? s
  | _ => none

/-- The fault of an entry, which a message shows with a value of its own kind. -/
def entryFault (key : Atom) (c : Content) (cause : Cause) (valueKind : String) : SettingsError :=
  .located ⟨cause, ⟨key.toText, .machine⟩, ⟨key.toText, key.kind, c.toText, valueKind⟩⟩

/-- The cause for a key without a field. -/
def unknownKey (key : Atom) : Cause :=
  .unknownKey key.toText (similarKeys key.toText)

/-- What the kind of a part of settings is called. -/
def partKind (c : Content) : String := if c.container?.isSome then c.kind else "AnyNode"

/-- Merge one entry into a draft. -/
def mergeEntry (d : Draft) (entry : Atom × Content) : Except SettingsError Draft := do
  let (key, c) := entry
  match fieldOf? key with
  | none =>
    if key.hasText then .error (entryFault key c (unknownKey key) (partKind c))
    else .error .tooLong
  | some f =>
    match d.assign f c with
    | .ok d => return d
    | .error cause =>
      if cause.showsValue && !c.hasText then .error .tooLong
      else .error (entryFault key c (.rejected cause) c.kind)

/-- Merge entries into a draft, in order. -/
def merge (d : Draft) (entries : List (Atom × Content)) : Except SettingsError Draft :=
  entries.foldlM mergeEntry d

/-! ## Files -/

/-- Line ends of all kinds as line feeds. -/
def normalise : List Char → List Char
  | '\r' :: '\n' :: rest => '\n' :: normalise rest
  | '\r' :: rest => '\n' :: normalise rest
  | c :: rest => c :: normalise rest
  | [] => []

/-- The text of a file. -/
def decodeText (bytes : List UInt8) : Except SettingsError String :=
  match String.fromUTF8? (ByteArray.mk bytes.toArray) with
  | some text => .ok (String.ofList (normalise text.toList))
  | none => .error .encoding

/-- Read a document. -/
def readDocument (text : String) : Except SettingsError Value :=
  (Value.ofText text).mapError SettingsError.document

/-- The settings in a container. A list is looked at before it is refused. -/
def containerEntries : Value → Except SettingsError (List (Atom × Content))
  | .map entries => Content.acceptEntries [] [] entries
  | .list items => do
    let _ ← Content.acceptItems [] 0 items
    .error .listDocument
  | _ => .error .scalarText

/-- The settings in a document that is only a text: the text is read once more, and a text in it is
    a key with null value. -/
def innerEntries (text : String) : Except SettingsError (List (Atom × Content)) := do
  match ← readDocument text with
  | .null => return []
  | .text t => containerEntries (.map [(.text t, .null)])
  | v => containerEntries v

/-- What the kind of a document is called that is neither text nor container. -/
def documentKind : Value → String
  | .atom a => a.kind
  | .set _ => "set"
  | _ => ""

/-- The settings in the text of a file. -/
def fileEntries (text : String) : Except SettingsError (List (Atom × Content)) := do
  match ← readDocument text with
  | .null => return []
  | .text t => innerEntries t
  | .map entries => containerEntries (.map entries)
  | .list items => containerEntries (.list items)
  | v => .error (.scalarDocument (documentKind v))

/-- The path of a file of settings as it is looked up: references to places above are followed in
    the text of the path already. -/
def filePath (path : String) : String := if path = "" then path else Path.normalise path

/-- The settings in a file. -/
def readFile (files : Files) (path : String) : Except SettingsError (List (Atom × Content)) := do
  let bytes ← (files.read (filePath path)).mapError (SettingsError.file path)
  fileEntries (← decodeText bytes)

/-! ## Loading -/

/-- The settings in overrides. -/
def overrideEntries (overrides : List String) : Except SettingsError (List (Atom × Content)) := do
  return (← Override.collect overrides).entries

/-- The draft that a file, if there is one, and overrides make of the defaults. -/
def draft (files : Files) (path? : Option String) (overrides : List String) :
    Except SettingsError Draft := do
  let fileSettings ← match path? with
    | some path => readFile files path
    | none => pure []
  let d ← merge {} fileSettings
  merge d (← overrideEntries overrides)

/-- The configuration that a file, if there is one, and overrides make of the defaults. -/
def load (files : Files) (path? : Option String) (overrides : List String) :
    Except SettingsError Config := do
  (← draft files path? overrides).config

end Chip8.Settings
