import Chip8.Files.Path
import Chip8.Text.Quoted

set_option autoImplicit false

/-! # Files

A program sees files as a function from paths to contents. What can go wrong when a file is read is
a cause of its own; its text names the path in quotes. Besides the function this module has file
trees in memory, in which a path is followed name by name. -/

namespace Chip8

/-- Why a path cannot be read. -/
inductive FileError where
  | notFound
  | notDirectory
  | isDirectory
  | nameTooLong
  /-- The path holds a null character. -/
  | nullCharacter
  /-- Anything else, with the number and the text that the system gives. -/
  | other (code : Nat) (text : String)
deriving DecidableEq

/-- What is said when a path cannot be read. -/
def FileError.message (path : String) : FileError → String
  | notFound => "[Errno 2] No such file or directory: " ++ Text.Quoted.encode path
  | notDirectory => "[Errno 20] Not a directory: " ++ Text.Quoted.encode path
  | isDirectory => "[Errno 21] Is a directory: " ++ Text.Quoted.encode path
  | nameTooLong => "[Errno 36] File name too long: " ++ Text.Quoted.encode path
  | nullCharacter => "embedded null byte"
  | other code text =>
    "[Errno " ++ toString code ++ "] " ++ text ++ ": " ++ Text.Quoted.encode path

/-- What the kind of a failure is called. -/
def FileError.kind : FileError → String
  | notFound => "FileNotFoundError"
  | notDirectory => "NotADirectoryError"
  | isDirectory => "IsADirectoryError"
  | nameTooLong => "OSError"
  | nullCharacter => "ValueError"
  | other _ _ => "OSError"

/-- The readable files: contents or the reason why there are none. -/
structure Files where
  read : String → Except FileError (List UInt8)

namespace Files

/-- The longest path and the longest name in it, in bytes. -/
def maxPath : Nat := 4095

/-- The longest name in a path, in bytes. -/
def maxName : Nat := 255

/-- The files of a tree, each under the names that lead to it. -/
abbrev Tree := List (List String × List UInt8)

/-- Where a path has led to: so many places above the tree, or into it. -/
inductive Spot where
  | above (steps : Nat)
  | inside (names : List String)

/-- Whether there are files below a place in the tree, or the place is the tree itself. -/
def isDirectory (tree : Tree) (names : List String) : Bool :=
  names.isEmpty || tree.any fun e => names.isPrefixOf e.1 && names.length < e.1.length

/-- Whether a place is a directory; the places above the tree are. -/
def Spot.isDirectory (tree : Tree) : Spot → Bool
  | above _ => true
  | inside names => Files.isDirectory tree names

/-- Whether there is something at a place. -/
def Spot.exists (tree : Tree) : Spot → Bool
  | above _ => true
  | inside names => Files.isDirectory tree names || tree.any (·.1 == names)

/-- The place above. -/
def Spot.parent : Spot → Spot
  | above steps => above (steps + 1)
  | inside [] => above 1
  | inside names => inside names.dropLast

/-- Follow one name. Nothing that is above the tree leads anywhere but further up. -/
def Spot.follow (tree : Tree) (s : Spot) (name : String) : Except FileError Spot :=
  if !s.isDirectory tree then .error .notDirectory
  else if name = "" || name = "." then .ok s
  else if name = ".." then .ok s.parent
  else if maxName < name.utf8ByteSize then .error .nameTooLong
  else match s with
    | above _ => .error .notFound
    | inside names =>
      let next := inside (names ++ [name])
      if next.exists tree then .ok next else .error .notFound

/-- Read a path in a tree. -/
def readIn (tree : Tree) (path : String) : Except FileError (List UInt8) := do
  if path.toList.contains '\x00' then .error .nullCharacter
  if path = "" then .error .notFound
  if maxPath < path.utf8ByteSize then .error .nameTooLong
  let names := (Path.split path.toList).map String.ofList
  let absolute := names.head? = some ""
  let spot ← names.foldlM (Spot.follow tree) (if absolute then .above 0 else .inside [])
  match spot with
  | .above _ => .error .isDirectory
  | .inside names => match tree.find? (·.1 == names) with
    | some entry => .ok entry.2
    | none => .error .isDirectory

/-- The tree of files with the given names. -/
def ofList (named : List (String × List UInt8)) : Files :=
  let names (path : String) : List String :=
    (Path.collapse true [] (Path.names path.toList)).map String.ofList
  ⟨readIn (named.map fun e => (names e.1, e.2))⟩

end Files

end Chip8
