import Chip8.Yaml.Cursor
import Chip8.Yaml.Error

set_option autoImplicit false

/-! # Tokens

The tokens of a YAML text. Those without a character of their own (`blockSequenceStart`,
`blockMappingStart`, `blockEnd`, and most `key`s) stand for indentation and for the places where a
colon shows afterwards that a key had begun. -/

namespace Chip8.Yaml

/-- Lines that start with a percent sign. -/
inductive Directive where
  | version (major minor : Nat)
  /-- What a handle stands for, unless it is no text. -/
  | tag (handle : String) (expansion? : Option String)
deriving DecidableEq

/-- Tokens. -/
inductive Token where
  | directive (directive : Directive)
  | documentStart
  | documentEnd
  | blockSequenceStart
  | blockMappingStart
  | blockEnd
  | flowSequenceStart
  | flowSequenceEnd
  | flowMappingStart
  | flowMappingEnd
  | blockEntry
  | flowEntry
  | key
  | value
  | alias (name : String)
  | anchor (name : String)
  /-- A tag is a handle, if there is one, and what follows it, unless that is no text. -/
  | tag (handle? : Option String) (rest? : Option String)
  | scalar (text : String) (plain : Bool)
  | streamEnd
  /-- the place at which no token can be read -/
  | broken (cause : Error)
deriving DecidableEq

namespace Token

/-- A token, and where it starts and stops. -/
structure Placed where
  token : Token
  start : Mark
  stop : Mark

/-- Fail at a cursor, in something that starts at a mark. -/
def refuse {α : Type} (activity : Activity) (start : Mark) (cause : TokenError) (c : Cursor) :
    Except Error α :=
  .error (.token cause (.during activity start c.mark))

end Token

end Chip8.Yaml
