set_option autoImplicit false

/-! # Key paths

A key path is a text: names separated by dots, or in brackets. A backslash takes its meaning from a
dot or a bracket behind it; elsewhere it stands for itself. What is out of place between names is
left out, but in a path with backslashes it counts as an opening bracket. -/

namespace Chip8.Settings

/-- A character of a key path, and whether it has a meaning for the path. -/
structure KeyChar where
  char : Char
  isMark : Bool
deriving DecidableEq

namespace KeyPath

/-- The characters that have a meaning for a path. -/
def isMark (c : Char) : Bool := c = '.' || c = '[' || c = ']'

/-- The characters of a path. -/
def read : List Char → List KeyChar
  | '\\' :: c :: rest =>
    if isMark c then ⟨c, false⟩ :: read rest else ⟨'\\', false⟩ :: read (c :: rest)
  | c :: rest => ⟨c, isMark c⟩ :: read rest
  | [] => []

/-- The text that characters make. -/
def text (cs : List KeyChar) : String := String.ofList (cs.map (·.char))

/-- Whether a character is a given mark. -/
def isThe (mark : Char) (c : KeyChar) : Bool := c.isMark && c.char = mark

/-- The longest start of a path without some marks. -/
def upTo (marks : List Char) (cs : List KeyChar) : List KeyChar :=
  cs.takeWhile fun c => !(c.isMark && marks.contains c.char)

/-- The names in what follows the head of a path; `escaped` if there are backslashes in the
    path. -/
def tail (escaped : Bool) : Nat → List KeyChar → List String
  | 0, _ => []
  | _ + 1, [] => []
  | fuel + 1, c :: rest =>
    if isThe '.' c then
      let name := upTo ['.', '['] rest
      text name :: tail escaped fuel (rest.drop name.length)
    else if escaped || isThe '[' c then
      let name := upTo [']'] rest
      if name.length < rest.length && (escaped || !name.any (·.char = '\n')) then
        text name :: tail escaped fuel (rest.drop (name.length + 1))
      else if escaped then []
      else tail escaped fuel rest
    else tail escaped fuel rest

/-- The names of a path. Each dot in front stands for an empty name. -/
def ofChars (escaped : Bool) (cs : List KeyChar) : List String :=
  let dots := cs.takeWhile (isThe '.')
  let name := upTo ['.', '['] (cs.drop dots.length)
  let rest := cs.drop (dots.length + name.length)
  let head := if name.isEmpty && (rest.head?.map (isThe '[')).getD false then [] else [text name]
  dots.map (fun _ => "") ++ head ++ tail escaped rest.length rest

/-- The names of a path. -/
def ofText (key : String) : List String :=
  ofChars (key.toList.contains '\\') (read key.toList)

example : ofText "a.b[c]" = ["a", "b", "c"] ∧ ofText "a\\.b" = ["a.b"] ∧
    ofText "m[a]b.c" = ["m", "a", "c"] ∧ ofText "m[a\\.b]c.d" = ["m", "a.b"] := by decide +kernel

end KeyPath

end Chip8.Settings
