import Chip8.Settings.Interpolation

set_option autoImplicit false

/-! # Simple interpolations

An interpolation is simple if it names a setting by plain names, or calls a function with plain
words. A text in which all interpolations are simple is taken without reading it; it is read when
its value is needed. Simple does not always mean well-formed: the name of a function may be left
out here, and line ends count as blanks. -/

namespace Chip8.Settings.Interpolation.Simple

/-! ## Characters -/

/-- Blanks of all kinds. -/
def isSpace (c : Char) : Bool := " \t\n\r\x0b\x0c".toList.contains c

/-- The characters of keys. -/
def isKeyChar (c : Char) : Bool := c.isAlphanum || c = '_' || c = '$'

/-- The characters with which names of functions start. -/
def isNameStart (c : Char) : Bool := c.isAlpha || c = '_'

/-- The characters of names of functions. -/
def isNameChar (c : Char) : Bool := c.isAlphanum || c = '_' || c = '-'

/-- The characters of arguments. -/
def isArgumentChar (c : Char) : Bool := isKeyChar c || "/-+.%*@?|".toList.contains c

/-! ## What follows a part

Each of these drops a part from the start of a text, if it is there. -/

/-- Drop blanks. -/
def dropSpaces (cs : List Char) : List Char := cs.dropWhile isSpace

/-- Drop a character. -/
def afterMark? (mark : Char) : List Char → Option (List Char)
  | c :: rest => if c = mark then some rest else none
  | [] => none

/-- Drop a character and others behind it. -/
def afterRun? (first others : Char → Bool) : List Char → Option (List Char)
  | c :: rest => if first c then some (rest.dropWhile others) else none
  | [] => none

/-- Drop a key. -/
def afterKey? (cs : List Char) : Option (List Char) := afterRun? isKeyChar isKeyChar cs

/-- Drop a key in brackets. -/
def afterBracketed? (cs : List Char) : Option (List Char) := do
  afterMark? ']' (← afterKey? (← afterMark? '[' cs))

/-- Drop keys behind dots, and keys in brackets. -/
def dropKeys : Nat → List Char → List Char
  | 0, cs => cs
  | fuel + 1, cs =>
    match ((afterMark? '.' cs).bind afterKey?).orElse fun _ => afterBracketed? cs with
    | some rest => dropKeys fuel rest
    | none => cs

/-- Drop the path of a setting. -/
def afterPath? (cs : List Char) : Option (List Char) := do
  let cs := cs.dropWhile (· = '.')
  let rest ← (afterKey? cs).orElse fun _ => afterBracketed? cs
  return dropKeys rest.length rest

/-- Drop the part of a name. -/
def afterName? (cs : List Char) : Option (List Char) := afterRun? isNameStart isNameChar cs

/-- Drop parts of a name behind dots. -/
def dropNames : Nat → List Char → List Char
  | 0, cs => cs
  | fuel + 1, cs =>
    match (afterMark? '.' cs).bind afterName? with
    | some rest => dropNames fuel rest
    | none => cs

/-- Drop the name of a function, if there is one. -/
def dropName (cs : List Char) : List Char :=
  match afterName? cs with
  | some rest => dropNames rest.length rest
  | none => cs

/-- Drop an argument. -/
def afterArgument? (cs : List Char) : Option (List Char) :=
  afterRun? isArgumentChar isArgumentChar cs

/-- Drop arguments behind commas. -/
def dropArguments : Nat → List Char → List Char
  | 0, cs => cs
  | fuel + 1, cs =>
    match (afterMark? ',' (dropSpaces cs)).bind (fun cs => afterArgument? (dropSpaces cs)) with
    | some rest => dropArguments fuel rest
    | none => cs

/-- Drop a call. -/
def afterCall? (cs : List Char) : Option (List Char) := do
  let rest ← afterMark? ':' (dropSpaces (dropName cs))
  let rest ← afterArgument? (dropSpaces rest)
  return dropArguments rest.length rest

/-- Drop a simple interpolation that has been opened. -/
def afterInterpolation? (cs : List Char) : Option (List Char) :=
  let cs := dropSpaces cs
  let closed (rest : List Char) : Option (List Char) := afterMark? '\x7d' (dropSpaces rest)
  ((afterPath? cs).bind closed).orElse fun _ => (afterCall? cs).bind closed

/-! ## Texts -/

/-- Whether all interpolations are simple. Each step takes a character at least. -/
def holdsFor : Nat → List Char → Bool
  | 0, cs => cs.isEmpty
  | fuel + 1, '$' :: '\x7b' :: rest =>
    match afterInterpolation? rest with
    | some rest => holdsFor fuel rest
    | none => false
  | fuel + 1, _ :: rest => holdsFor fuel rest
  | _ + 1, [] => true

end Simple

/-- Whether all interpolations in a text are simple. -/
def isSimple (cs : List Char) : Bool := Simple.holdsFor cs.length cs

-- a colon without a name in front of it is simple, though it has no meaning
example : isSimple "$\x7ba.b[c]\x7d and $\x7b f : x, 1.5 \x7d".toList = true ∧
    isSimple "$\x7b:x\x7d".toList = true ∧
    isSimple "$\x7ba:'x'\x7d".toList = false := by decide +kernel

end Chip8.Settings.Interpolation
