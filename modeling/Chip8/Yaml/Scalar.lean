set_option autoImplicit false

/-! # What a plain scalar stands for

A scalar without quotes and without a tag is a null, a truth value, a number, or else text; its form
alone decides. Numbers may be written in base 2, 8, 10, 16 or 60, with underscores anywhere between
their digits. -/

namespace Chip8.Yaml

/-- What a node is said to be. -/
inductive Tag where
  | null
  | bool
  | int
  | float
  | text
  /-- bytes in base 64 -/
  | bytes
  /-- a day, or a time on a day -/
  | moment
  | list
  | map
  | set
  /-- a list of mappings of one entry each -/
  | pairs
  /-- the same, and the keys are in order -/
  | orderedPairs
  /-- a path, made of the texts in a list -/
  | path
  /-- a path of a foreign system -/
  | foreignPath
  /-- the key `<<`, which merges other mappings into its own -/
  | merge
  /-- the key `=` -/
  | default
  | other (name : String)
deriving DecidableEq

/-- The place at which the names of the known tags start. -/
def Tag.space : String := "tag:yaml.org,2002:"

/-- The known tags, by name. -/
def Tag.known : List (String × Tag) :=
  [("null", null), ("bool", bool), ("int", int), ("float", float), ("str", text),
   ("binary", bytes), ("timestamp", moment), ("seq", list), ("map", map), ("set", set),
   ("pairs", pairs), ("omap", orderedPairs), ("merge", merge), ("value", default),
   ("python/object/apply:pathlib.Path", path), ("python/object/apply:pathlib.PosixPath", path),
   ("python/object/apply:pathlib.WindowsPath", foreignPath),
   ("python/object/apply:pathlib._local.Path", path),
   ("python/object/apply:pathlib._local.PosixPath", path),
   ("python/object/apply:pathlib._local.WindowsPath", foreignPath)]

/-- The tag with a full name. -/
def Tag.ofName (name : String) : Tag :=
  ((known.find? fun k => Tag.space ++ k.1 == name).map (·.2)).getD (.other name)

/-- The full name of a tag. -/
def Tag.name : Tag → String
  | other name => name
  | t => space ++ ((known.find? (·.2 = t)).map (·.1)).getD ""

namespace Scalar

/-- The spellings of null, besides no text at all. -/
def nulls : List String := ["~", "null", "Null", "NULL"]

/-- The spellings of the truth values. -/
def truths : List String :=
  ["yes", "Yes", "YES", "true", "True", "TRUE", "on", "On", "ON",
   "no", "No", "NO", "false", "False", "FALSE", "off", "Off", "OFF"]

/-- Drop one sign. -/
def unsigned : List Char → List Char
  | '-' :: rest => rest
  | '+' :: rest => rest
  | cs => cs

/-- Decimal digits and underscores. -/
def isDigitOrBar (c : Char) : Bool := c.isDigit || c = '_'

/-- A stretch of digits and underscores that starts with a digit, and what follows it. -/
def leadingDigits? (cs : List Char) : Option (List Char) :=
  match cs with
  | d :: rest => if d.isDigit then some (rest.dropWhile isDigitOrBar) else none
  | [] => none

/-- Whether a list is not empty and all its members pass a test. -/
def allOf (test : Char → Bool) (cs : List Char) : Bool := !cs.isEmpty && cs.all test

/-- Drop groups of a colon and one or two digits, the first of two below six. -/
def dropSixties : List Char → List Char
  | ':' :: a :: b :: rest =>
    if a.isDigit && a < '6' && b.isDigit then dropSixties rest
    else if a.isDigit then dropSixties (b :: rest)
    else ':' :: a :: b :: rest
  | [':', a] => if a.isDigit then [] else [':', a]
  | cs => cs

/-- Whether there is at least one group in base 60, with the given rest behind the groups. -/
def isSixties (rest : List Char → Bool) (cs : List Char) : Bool :=
  let after := dropSixties cs
  after.length < cs.length && rest after

/-- Whether a text has the form of an integer. -/
def isInteger (cs : List Char) : Bool :=
  match unsigned cs with
  | ['0'] => true
  | '0' :: 'b' :: ds => allOf (fun c => c = '0' || c = '1' || c = '_') ds
  | '0' :: 'x' :: ds =>
    allOf (fun c => c.isDigit || ('a' ≤ c && c ≤ 'f') || ('A' ≤ c && c ≤ 'F') || c = '_') ds
  | '0' :: ds => allOf (fun c => ('0' ≤ c && c ≤ '7') || c = '_') ds
  | ds => match leadingDigits? ds with
    | some rest => rest.isEmpty || isSixties List.isEmpty rest
    | none => false

/-- Whether underscores stand singly between digits. -/
def isSingleBarred : List Char → Bool
  | [] => true
  | ['_'] => false
  | '_' :: '_' :: _ => false
  | _ :: rest => isSingleBarred rest

/-- Whether a text is an exponent; a sign is there if one is required. -/
def isExponent (signed : Bool) : List Char → Bool
  | [] => false
  | e :: cs =>
    let ds := unsigned cs
    (e = 'e' || e = 'E') && (!signed || ds.length < cs.length) && allOf Char.isDigit ds

/-- Whether a text is the part of a number behind the point, and perhaps an exponent. -/
def isFraction (signed : Bool) (cs : List Char) : Bool :=
  let after := cs.dropWhile isDigitOrBar
  after.isEmpty || isExponent signed after

/-- Whether a text has the form of a floating-point number that starts with a digit. Where
    underscores do not stand singly between its first digits, an exponent needs a point before it
    and a sign. -/
def isPositional (cs : List Char) : Bool :=
  match leadingDigits? cs with
  | none => false
  | some rest =>
    let regular := isSingleBarred (cs.take (cs.length - rest.length))
    (regular && isExponent false rest)
      || (match rest with
        | '.' :: fraction => isFraction (!regular) fraction
        | _ => false)
      || isSixties (fun after => match after with
        | '.' :: fraction => fraction.all isDigitOrBar
        | _ => false) rest

/-- Whether a text has the form of a floating-point number. -/
def isFloat (cs : List Char) : Bool :=
  isPositional (unsigned cs)
    || [".inf", ".Inf", ".INF"].contains (String.ofList (unsigned cs))
    || [".nan", ".NaN", ".NAN"].contains (String.ofList cs)
    || (match cs with
      | '.' :: d :: rest => d.isDigit && isFraction true rest
      | _ => false)

/-- What a line stands for. -/
def resolveLine (text : String) : Tag :=
  if text = "" || nulls.contains text then .null
  else if truths.contains text then .bool
  else if isFloat text.toList then .float
  else if isInteger text.toList then .int
  else if text = "<<" then .merge
  else if text = "=" then .default
  else .text

/-- The characters that are never a word of their own. -/
def reserved : List String := ["!", "&", "*"]

/-- What a scalar stands for, by its form; a line feed behind it makes no difference. -/
def resolve (text : String) : Tag :=
  let line := if text.toList.getLast? = some '\n' then String.ofList text.toList.dropLast else text
  if line = "" && text ≠ "" then .text
  else if reserved.contains line then .other (Tag.space ++ "yaml")
  else resolveLine line

end Scalar

end Chip8.Yaml
