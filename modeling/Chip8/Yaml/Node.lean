import Chip8.Yaml.Error
import Chip8.Yaml.Scalar

set_option autoImplicit false

/-! # Nodes

A document is a tree of scalars, sequences and mappings, each with its tag and the place where it
starts. Aliases have been replaced by what they stand for. -/

namespace Chip8.Yaml

/-- Nodes. -/
inductive Node where
  | scalar (start : Mark) (tag : Tag) (text : String)
  | sequence (start : Mark) (tag : Tag) (items : List Node)
  | mapping (start : Mark) (tag : Tag) (entries : List (Node × Node))

namespace Node

/-- The place where a node starts. -/
def start : Node → Mark
  | scalar m _ _ => m
  | sequence m _ _ => m
  | mapping m _ _ => m

/-- The tag of a node. -/
def tag : Node → Tag
  | scalar _ t _ => t
  | sequence _ t _ => t
  | mapping _ t _ => t

/-- The kind of a node. -/
def kind : Node → NodeKind
  | scalar _ _ _ => .scalar
  | sequence _ _ _ => .sequence
  | mapping _ _ _ => .mapping

/-- The node where nothing is written. -/
def empty (start : Mark) : Node := .scalar start .null ""

/-- The tag that leaves it to the form of a node what it stands for. -/
def openTag : String := "!"

/-- A scalar that is written, whose form decides if no tag does. -/
def ofScalar (start : Mark) (tag? : Option String) (text : String) (plain : Bool) : Node :=
  match tag? with
  | none => .scalar start (if plain then Scalar.resolve text else .text) text
  | some name =>
    .scalar start (if name = openTag then Scalar.resolve text else Tag.ofName name) text

/-- A scalar that is not written, only named or tagged. -/
def ofNothing (start : Mark) (tag? : Option String) : Node :=
  match tag? with
  | none => empty start
  | some name => .scalar start (if name = openTag then .text else Tag.ofName name) ""

/-- The tag of a collection, if `usual` is the one of its kind. -/
def collectionTag (usual : Tag) (tag? : Option String) : Tag :=
  match tag? with
  | none => usual
  | some name => if name = openTag then usual else Tag.ofName name

end Node

end Chip8.Yaml
