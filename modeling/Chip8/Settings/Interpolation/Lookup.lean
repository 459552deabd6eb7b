import Chip8.Settings.Interpolation.Result
import Chip8.Settings.KeyPath

set_option autoImplicit false

/-! # Looking settings up

A key is looked up from the place of the term that names it: without a dot in front it starts at all
settings, with one at the container that the term is in, and with each further one at a place
above. -/

namespace Chip8.Settings.Interpolation

/-- What is found under a key. -/
inductive Finding where
  | nothing
  /-- The key leads above all settings. -/
  | above
  /-- The key leads into a setting that has no parts. -/
  | inside (message : String)
  /-- The key leads to the place from which it starts. -/
  | start (r : Result)
  | value (r : Result)

/-- What is said of a path that leads into something without parts, behind so many names. -/
def insideMessage (names : List String) (done : Nat) : String :=
  "Error trying to access " ++ ".".intercalate names ++ ": node \x60"
    ++ ".".intercalate (names.take done) ++ "\x60 is not a container and thus cannot contain \x60"
    ++ names[done]?.getD "" ++ "\x60"

/-- Follow the names of a path, of which `done` have led to something. Every part on the way is
    taken for its value; `value` gives that of what is at a place. -/
def follow (value : Option (List Key) → Content → Evaluation Result) (names : List String)
    (done : Nat) (r : Result) : List String → Evaluation Finding
  | [] => .ok (.value r)
  | name :: rest => do
    if r.content.container?.isNone then
      match r.content with
      | .null => return .nothing
      | _ => return .inside (insideMessage names done)
    match r.content.meaning name with
    | .noIndex => raise "TypeError" ("Index '" ++ name ++ "' (str) is not an int")
    | .outside _ => return .nothing
    | .key k =>
      match r.content.part? k with
      | none => return .nothing
      | some c =>
        if c.isMissing then return .nothing
        follow value names (done + 1) (← value (r.place?.map (· ++ [k])) c) rest

/-- The dots in front of a key. -/
def leadingDots (key : String) : Nat := (key.toList.takeWhile (· = '.')).length

/-- A key without the dots in front of it. -/
def withoutDots (key : String) : String := String.ofList (key.toList.dropWhile (· = '.'))

/-- The place from which a key starts, for a term in a container at a place. -/
def startOf? (base : List Key) (key : String) : Option (List Key) :=
  match leadingDots key with
  | 0 => some []
  | n + 1 => if n ≤ base.length then some (base.take (base.length - n)) else none

/-- Find a setting among others, for a term in a container at a place. -/
def find (root : Content) (value : Option (List Key) → Content → Evaluation Result)
    (base : List Key) (key : String) : Evaluation Finding :=
  match startOf? base key with
  | none => .ok .above
  | some place =>
    let r : Result := { content := (root.at? place).getD .null, place? := some place }
    if withoutDots key = "" then .ok (.start r)
    else match KeyPath.ofText (withoutDots key) with
      | [] => raise "IndexError" "list index out of range"
      | names => follow value names 0 r names

/-- The key of a setting from all settings on, if it is given from another place. -/
def resolvedKey? (base : List Key) (key : String) : Option String :=
  if leadingDots key = 0 then none
  else (startOf? base key).map fun place =>
    let start := (Key.trail place).text
    if start = "" then withoutDots key else start ++ "." ++ withoutDots key

/-- The value that has been found for a reference with a key, in a container at a place. -/
def ofFinding (base : List Key) (key : String) : Finding → Evaluation Result
  | .value r => .ok r
  | .nothing =>
    refuse (.noSetting (if leadingDots key = 0 then withoutDots key else key)
      (resolvedKey? base key))
  | .above => refuse (.noParent key)
  | .inside message => raise "ConfigTypeError" message
  | .start _ => refuse (.misplaced "Interpolation to parent node detected")

end Chip8.Settings.Interpolation
