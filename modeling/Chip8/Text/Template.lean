set_option autoImplicit false

/-! # Templates

A template is a text with names after dollar signs, perhaps in braces, for which values are put in.
Two dollar signs stand for one. Whatever is not of this form, or has a name without a value, is left
as it is. -/

namespace Chip8.Text.Template

/-- Whether a character can be in a name. -/
def isNameChar (c : Char) : Bool := c.isAlphanum || c = '_'

/-- The name at the start of a text; it does not start with a digit. -/
def name (cs : List Char) : List Char :=
  match cs with
  | c :: _ => if c.isDigit then [] else cs.takeWhile isNameChar
  | [] => []

/-- What stands after a dollar sign: the value that is put in, and the number of characters that it
    is put in for. -/
def placeholder? (values : List (String × String)) (cs : List Char) : Option (String × Nat) :=
  match cs with
  | '$' :: _ => some ("$", 1)
  | '\x7b' :: rest =>
    let n := name rest
    if n.isEmpty || (rest.drop n.length).head? ≠ some '\x7d' then none
    else (values.lookup (String.ofList n)).map (·, n.length + 2)
  | _ => (values.lookup (String.ofList (name cs))).map (·, (name cs).length)

/-- Put values in; `skipped` characters at the start have been dealt with. -/
def fillFrom (values : List (String × String)) : Nat → List Char → List Char
  | _, [] => []
  | skipped + 1, _ :: rest => fillFrom values skipped rest
  | 0, c :: rest =>
    if c ≠ '$' then c :: fillFrom values 0 rest
    else match placeholder? values rest with
      | some (value, length) => value.toList ++ fillFrom values length rest
      | none => '$' :: fillFrom values 0 rest

/-- Put values in for the names of a template. -/
def fill (values : List (String × String)) (template : String) : String :=
  String.ofList (fillFrom values 0 template.toList)

example : fill [("KEY", "k")] "$KEY $$ $\x7bKEY\x7ds $X $" = "k $ ks $X $" := by decide +kernel

end Chip8.Text.Template
