import Chip8.Settings.Interpolation.Value

set_option autoImplicit false

/-! # Updating settings

A value is put at the end of a path. What is no container on the way makes way for a mapping, but a
text that is nothing but a reference is followed to the container that it refers to, and the update
goes on there. A tuple cannot be changed, only the containers in it. Containers that meet are
combined. -/

namespace Chip8.Settings.Content

open Yaml (Atom Value)
open Interpolation (Surroundings Term TermFault)

/-! ## References -/

/-- The settings among which the terms in some content stand. -/
def surroundings (root : Content) : Surroundings := ⟨root, fun _ _ r => .ok r⟩

/-- How a fault in a reference on the way is reported: a key that is not found without the dots in
    front of it. -/
def referenceFault (fault : TermFault) : SettingsError :=
  match fault.error with
  | .noSetting key _ => .term (.noSetting (Interpolation.withoutDots key) none)
  | cause => .term cause

/-- Where the container is that something at a place is or refers to. -/
def containerAt? (root : Content) (place : List Key) (c : Content) :
    Except SettingsError (Option (List Key)) :=
  if c.container?.isSome then .ok (some place)
  else match c.source?.map Term.ofText with
    | none => .ok none
    | some (.error cause) => .error (.term (.raised cause.kind cause.message))
    | some (.ok (.reference key)) =>
      match root.surroundings.value place (.reference key) with
      | .ok r => .ok (if r.content.container?.isSome then r.place? else none)
      | .error fault => .error (referenceFault fault)
    | some (.ok _) => .ok none

/-- What something at a place stands for where a container is merged into it: the value of its term,
    if that is a container. -/
def standsFor (root : Content) (place : List Key) (c : Content) : Content :=
  match c.source?.map Term.ofText with
  | some (.ok t) =>
    match root.surroundings.value place t with
    | .ok r => if r.content.container?.isSome then r.content else c
    | .error _ => c
  | _ => c

/-! ## Combining containers -/

/-- What combining containers needs to know: all settings, and what is at fault where a list and a
    mapping meet. -/
structure Combining where
  root : Content
  mixed : SettingsError

mutual

/-- Put something in the place of what is there. Mappings are combined key by key; a missing value
    leaves what is there. -/
def combine (s : Combining) (place : List Key) (old : Content) :
    Content → Except SettingsError Content
  | .map more =>
    match old with
    | .map entries => (combineAll s place entries more).map .map
    | .list _ => .error s.mixed
    | .tuple _ => .error s.mixed
    | _ => .ok (.map more)
  | .list items =>
    match old with
    | .map _ => .error s.mixed
    | .tuple _ => .ok (.tuple items)
    | _ => .ok (.list items)
  | c => .ok (if c.isMissing then old else c)

/-- Combine the entries of mappings. -/
def combineAll (s : Combining) (place : List Key) (entries : List (Atom × Content)) :
    List (Atom × Content) → Except SettingsError (List (Atom × Content))
  | [] => .ok entries
  | (k, c) :: rest => do
    let here := place ++ [.entry k]
    let d ← match Value.lookup entries k with
      | some old => combine s here (s.root.standsFor here old) c
      | none => do
        Position.checkKey (Key.trail place) (entries.map (·.1)) k
        pure c
    combineAll s place (Value.insert entries k d) rest

end

/-! ## Putting values in places -/

/-- The owner that a container is. -/
def Container.owner : Container → Owner
  | .list => .list
  | .tuple => .tuple
  | .map => .map

/-- Combine a container at a place with a new one. -/
def combined (root : Content) (s : Position) (place : List Key) (old new : Content)
    (container : Container) : Except SettingsError Content :=
  combine ⟨root, .located ⟨.mixedContainers, ⟨s.steps.bareText, container.owner⟩, {}⟩⟩ place old new

/-- Whether a value can take the place of a tuple: nothing, the mark for a missing value, and a
    term. -/
def replacesTuple : Value → Bool
  | .null => true
  | .text t => t = missingMark || Interpolation.isInterpolated t.toList
  | _ => false

/-- Put a value at a place where there is something, or nothing. Containers are combined with those
    that are there; what they hold is accepted before it has a place. -/
def put (root : Content) (s : Position) (place : List Key) (v : Value) :
    Except SettingsError Content := do
  let old := (root.at? place).getD null
  match old.container?, v with
  | some container, .list items =>
    root.combined s place old (.list (← acceptItems [] 0 items)) container
  | some container, .map entries =>
    root.combined s place old (.map (← acceptEntries [] [] entries)) container
  | some .tuple, v =>
    if replacesTuple v then accept s v else s.refuse (.noTuple v.kind) null
  | _, v => accept s v

/-- The index that the last part of a path means. -/
def lastIndex (name : String) : Except SettingsError Int :=
  match Text.integerIn 10 name with
  | .ok k => .ok k
  | .error .malformed => .error (.badIndex name)
  | .error (.tooLong digits) => .error (.document (.number (.tooLong digits)))

/-- Fail at an index of a tuple at a place. -/
def refuseTuple {α : Type} (place : List Key) (index : Int) : Except SettingsError α :=
  (Position.ofIndex (Key.trail place) index .tuple).refuse .immutable null

/-- Whether a value is combined with what is there. -/
def meetsContainer (old : Content) (v : Value) : Bool :=
  old.container?.isSome && (match v with
    | .list _ => true
    | .map _ => true
    | _ => false)

/-- Put a value under a name into the container at a place. -/
def putIn (root : Content) (place : List Key) (name : String) (v : Value) :
    Except SettingsError Content := do
  let c := (root.at? place).getD null
  let trail := Key.trail place
  match c.container? with
  | some .list =>
    let k ← lastIndex name
    let s := Position.ofIndex trail k
    match indexIn? c.items.length k with
    | none => s.refuse .noIndex null
    | some i =>
      let here := place ++ [.index i]
      return root.setAt (← root.put s here v) here
  | some .tuple =>
    let k ← lastIndex name
    match indexIn? c.items.length k with
    | none => refuseTuple place k
    | some i =>
      let here := place ++ [.index i]
      if meetsContainer ((root.at? here).getD null) v then
        return root.setAt (← root.put (.ofIndex trail k .tuple) here v) here
      else refuseTuple place k
  | _ =>
    let key := entryKey c.entries name
    let here := place ++ [.entry key]
    return root.setAt (← root.put (.ofKey trail key) here v) here

/-! ## Following paths -/

/-- Settings, and the place of a container in them. -/
structure Walk where
  root : Content
  place : List Key

/-- Go on to the container that a name means. -/
def Walk.enter (w : Walk) (name : String) : Except SettingsError Walk := do
  let c := (w.root.at? w.place).getD null
  let isTuple := c.container? = some .tuple
  match c.meaning name with
  | .noIndex => .error .notIndex
  | .outside k =>
    if isTuple then refuseTuple w.place k
    else (Position.ofIndex (Key.trail w.place) k).refuse .noIndex null
  | .key key =>
    let here := w.place ++ [key]
    match ← ((c.part? key).map (w.root.containerAt? here)).getD (.ok none) with
    | some there => return ⟨w.root, there⟩
    | none =>
      match key with
      | .index i => if isTuple then refuseTuple w.place i
      | .entry _ => pure ()
      return ⟨w.root.setAt (.map []) here, here⟩

/-- Put a value at the end of a path: under the last name in the container that the names before it
    lead to. -/
def update (root : Content) (v : Value) (path : List String) : Except SettingsError Content :=
  match path.getLast? with
  | none => .error .emptyPath
  | some name => do
    let w ← path.dropLast.foldlM Walk.enter ⟨root, []⟩
    w.root.putIn w.place name v

end Chip8.Settings.Content
