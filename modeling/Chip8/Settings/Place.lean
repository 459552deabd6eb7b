set_option autoImplicit false

/-! # Places in settings

A message about settings says where they are at fault: by the keys that lead to the place, and by
the kind of what is there. Keys of lists are in brackets, other keys follow a dot. -/

namespace Chip8.Settings

/-- A step into a list or into a mapping. -/
structure Step where
  key : String
  inList : Bool
deriving DecidableEq

/-- The steps to a place, the outermost first. -/
abbrev Trail := List Step

namespace Trail

/-- Whether the first step leads into a list. -/
def startsInList (t : Trail) : Bool := (t.head?.map (·.inList)).getD false

/-- Put a key in front of the text of a trail. -/
def consText (head : String) (rest : Trail) (text : String) : String :=
  if text = "" then head else if rest.startsInList then head ++ text else head ++ "." ++ text

/-- The text of a trail. -/
def text : Trail → String
  | [] => ""
  | s :: rest => consText (if s.inList then "[" ++ s.key ++ "]" else s.key) rest (text rest)

/-- The text of a trail that ends in a bare key, even if that is a key of a list. -/
def bareText : Trail → String
  | [] => ""
  | [s] => s.key
  | s :: rest => consText (if s.inList then "[" ++ s.key ++ "]" else s.key) rest (bareText rest)

example : text [⟨"a", false⟩, ⟨"0", true⟩, ⟨"b", false⟩] = "a[0].b" ∧
    bareText [⟨"a", false⟩, ⟨"0", true⟩] = "a0" := by decide +kernel

/-- The text of the place of a key in a container at a trail. The empty key shows the place of the
    container. -/
def placeText (t : Trail) (s : Step) : String :=
  if s.key = "" then t.bareText else (t ++ [s]).text

end Trail

/-- What settings belong to. -/
inductive Owner where
  | list
  | tuple
  | map
  | machine
  | nothing
deriving DecidableEq

/-- What an owner is called. -/
def Owner.name : Owner → String
  | list => "list"
  | tuple => "tuple"
  | map => "dict"
  | machine => "MachineConfig"
  | nothing => "None"

/-- What is said of the type that an owner is declared with, if it is declared with one. -/
def Owner.declared : Owner → String
  | tuple => "\n    reference_type=Optional[Tuple[Any, ...]]"
  | _ => ""

/-- Where settings are at fault. -/
structure Place where
  key : String
  owner : Owner
deriving DecidableEq

/-- What is added to a message. -/
def Place.text (p : Place) : String :=
  "\n    full_key: " ++ p.key ++ p.owner.declared ++ "\n    object_type=" ++ p.owner.name

end Chip8.Settings
