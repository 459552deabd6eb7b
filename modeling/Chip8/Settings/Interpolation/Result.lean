import Chip8.Settings.Content.Part
import Chip8.Settings.Fault

set_option autoImplicit false

/-! # Evaluating terms

A term has a value in an environment, which knows settings by their keys and functions by their
names. Parts are evaluated in order, and the first fault counts. -/

namespace Chip8.Settings.Interpolation

/-! ## Results and faults -/

/-- The value of a term. -/
structure Result where
  content : Content
  /-- whether it is a container that does not belong to any settings -/
  loose : Bool := false
  /-- where it is in the settings that the term belongs to, if it is a part of them -/
  place? : Option (List Key) := none

/-- What the kind of a value is called in messages. -/
def Result.kind (r : Result) : String :=
  match r.loose, r.content with
  | true, .list _ => "list"
  | true, .map _ => "dict"
  | _, c => c.kind

/-- What the kind of a value is called where it does not matter where the kind comes from. -/
def Result.shortKind (r : Result) : String :=
  match r.content with
  | .profile _ => Field.instructionSet.type
  | _ => r.kind

/-- How a kind is shown. -/
def Result.classText (r : Result) : String :=
  match r.content with
  | .profile _ => "<enum 'InstructionSet'>"
  | _ => "<class '" ++ r.kind ++ "'>"

/-- Why a term has no value, with the field that is at fault, if it is clear which one, and what is
    shown of it. -/
structure TermFault where
  error : TermError
  field? : Option Field := none
  shown : Shown := {}

/-- The value of a term, or why there is none. -/
abbrev Evaluation (α : Type) : Type := Except TermFault α

/-- Fail for a reason. -/
def refuse {α : Type} (error : TermError) : Evaluation α := .error { error := error }

/-- Fail in a function. -/
def raise {α : Type} (kind message : String) : Evaluation α := refuse (.raised kind message)

/-! ## Terms -/

/-- What terms refer to. -/
structure Env where
  /-- the setting with a key -/
  reference : String → Evaluation Result
  /-- the function with a name -/
  call : String → List Result → Evaluation Result

/-- What is said of a part of a key that is neither text nor integer. -/
def badKeyPart (source : String) (r : Result) : String :=
  "The following interpolation is used to denote a config key and thus should return a string or "
    ++ "integer, but instead returned \x60" ++ r.content.toText ++ "\x60 of type \x60"
    ++ r.classText ++ "\x60: " ++ source

/-- What is said of a part of a name that is no text. -/
def badNamePart (source : String) (r : Result) : String :=
  "The name of a resolver must be a string, but the interpolation " ++ source ++ " resolved to \x60"
    ++ r.content.toText ++ "\x60 which is of type " ++ r.classText

/-- The text of a part of a key. -/
def keyText (source : String) (r : Result) : Evaluation String :=
  match r.content with
  | .text s => .ok s
  | .escapedMark s => .ok s
  | .atom (.int k) => .ok (toString k)
  | _ => refuse (.misplaced (badKeyPart source r))

/-- The text of a part of a name. -/
def nameText (source : String) (r : Result) : Evaluation String :=
  match r.content with
  | .text s => .ok s
  | .escapedMark s => .ok s
  | _ => refuse (.misplaced (badNamePart source r))

/-- What becomes of the value of a function. -/
def ofFunction (r : Result) : Evaluation Result :=
  match r.content with
  | .text s => if s = Content.missingMark then refuse .missing else .ok { content := .ofText s }
  | _ => .ok r

mutual

/-- The value of a term. -/
def eval (env : Env) : Term → Evaluation Result
  | .atom a => .ok { content := .atom a }
  | .reference key => do env.reference (← evalParts env keyText key)
  | .call name arguments => do
    let name ← evalParts env nameText name
    ofFunction (← env.call name (← evalAll env arguments))
  | .part _ t => eval env t
  | .join ts => do
    let rs ← evalAll env ts
    return { content := .text (String.join (rs.map (·.content.toText))) }
  | .list ts => do
    return { content := .list ((← evalAll env ts).map (·.content)), loose := true }
  | .map es => do
    return { content := .map (Yaml.Value.insertAll [] (← evalEntries env es)), loose := true }
  | .tooLong digits => raise "ValueError" (Text.tooManyDigits (some digits))
  | .blank => raise "AssertionError" "WS should never be reached"

/-- The values of terms. -/
def evalAll (env : Env) : List Term → Evaluation (List Result)
  | [] => .ok []
  | t :: rest => do
    let r ← eval env t
    return r :: (← evalAll env rest)

/-- The values of the entries of a mapping. -/
def evalEntries (env : Env) :
    List (Yaml.Atom × Term) → Evaluation (List (Yaml.Atom × Content))
  | [] => .ok []
  | (k, t) :: rest => do
    let r ← eval env t
    return (k, r.content) :: (← evalEntries env rest)

/-- The text that the parts of a key or of a name make; `text` is that of a part. -/
def evalParts (env : Env) (text : String → Result → Evaluation String) :
    List Term → Evaluation String
  | [] => .ok ""
  | t :: rest => do
    let s ← match t with
      | .text s => pure s
      | .part source inner => text source (← eval env inner)
      | other => text "" (← eval env other)
    return s ++ (← evalParts env text rest)

end

end Chip8.Settings.Interpolation
