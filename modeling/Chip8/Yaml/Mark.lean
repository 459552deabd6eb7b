set_option autoImplicit false

/-! # Places in a text

A mark says where something is in a text. People count lines and columns from one. -/

namespace Chip8.Yaml

/-- A place in a text, by its index, its line and its column. -/
structure Mark where
  index : Nat
  line : Nat
  column : Nat
deriving DecidableEq

namespace Mark

/-- The place at which a text starts. -/
def start : Mark := ⟨0, 0, 0⟩

/-- How messages name a place. -/
def text (m : Mark) : String :=
  "  in \"<unicode string>\", line " ++ toString (m.line + 1) ++ ", column "
    ++ toString (m.column + 1)

/-- Whether messages name two places in the same way. -/
def looksLike (m n : Mark) : Bool := m.line = n.line && m.column = n.column

end Mark

end Chip8.Yaml
