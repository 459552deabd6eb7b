set_option autoImplicit false

/-! # Paths

A path is a text: names between slashes, perhaps after slashes that make it absolute. Two slashes
in front are kept apart from one or more than two. Empty names and `.` mean the place itself and
are left out of normal forms; `..` means the place above. -/

namespace Chip8.Path

/-- The parts of a text between slashes. -/
def split (cs : List Char) : List (List Char) :=
  match cs with
  | [] => [[]]
  | c :: rest =>
    if c = '/' then [] :: split rest
    else match split rest with
      | part :: parts => (c :: part) :: parts
      | [] => [[c]]

/-- The slashes that make a path absolute, in normal form. -/
def root (cs : List Char) : List Char :=
  match (cs.takeWhile (· = '/')).length with
  | 0 => []
  | 2 => ['/', '/']
  | _ => ['/']

/-- The names of a path, without those that mean the place itself. -/
def names (cs : List Char) : List (List Char) :=
  (split cs).filter fun name => !name.isEmpty && name ≠ ['.']

/-- A path with given slashes in front and given names. -/
def ofNames (root : List Char) (names : List (List Char)) : String :=
  match root ++ List.intercalate ['/'] names with
  | [] => "."
  | cs => String.ofList cs

/-- Put a path behind another one; an absolute path stands for itself. -/
def join (base next : List Char) : List Char :=
  if base.isEmpty || next.head? = some '/' then next
  else if next.isEmpty then base
  else if base.getLast? = some '/' then base ++ next
  else base ++ '/' :: next

/-- The path that texts make one after the other, in normal form. -/
def ofTexts (texts : List String) : String :=
  let cs := texts.foldl (fun base next => join base next.toList) []
  ofNames (root cs) (names cs)

example : ofTexts ["a", "b"] = "a/b" ∧ ofTexts ["a", "/b//./c"] = "/b/c" ∧ ofTexts [] = "." := by
  decide +kernel

/-- Take names back by the references to the place above that follow them. Those that lead above the
    start are kept, except above the root. -/
def collapse (absolute : Bool) : List (List Char) → List (List Char) → List (List Char)
  | above, [] => above.reverse
  | above, name :: rest =>
    if name ≠ ['.', '.'] then collapse absolute (name :: above) rest
    else match above with
      | [] => collapse absolute (if absolute then [] else [name]) rest
      | last :: more =>
        if last = ['.', '.'] then collapse absolute (name :: above) rest
        else collapse absolute more rest

/-- The path as a text says it, whatever is there. -/
def normalise (path : String) : String :=
  let cs := path.toList
  ofNames (root cs) (collapse (!(root cs).isEmpty) [] (names cs))

example : normalise "x/../m/." = "m" ∧ normalise "../a/.." = ".." ∧ normalise "/../a" = "/a" := by
  decide +kernel

end Chip8.Path
