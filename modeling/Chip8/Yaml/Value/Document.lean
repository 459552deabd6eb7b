import Chip8.Files.Path
import Chip8.Text.Base64
import Chip8.Text.Lowercase
import Chip8.Yaml.Node.Document
import Chip8.Yaml.Node.Merge
import Chip8.Yaml.Token.Lexer
import Chip8.Yaml.Value
import Chip8.Yaml.Value.Moment
import Chip8.Yaml.Value.Number

set_option autoImplicit false

/-! # From nodes to values

Every tag says how the text or the parts of a node are to be understood. Of keys that are equal the
last one counts. The entries that a mapping merges come before its own.

A node is understood before what it contains is looked at, so faults are graded by depth: the one
that lies least deep counts, and of equally deep ones the first. -/

namespace Chip8.Yaml.Value

open Node (keyText? textKeys entriesFault?)

/-! ## Faults by depth -/

/-- A result, or a fault and the depth at which it lies. -/
abbrev Graded (α : Type) : Type := Except (Nat × Error) α

/-- A fault at a depth. -/
def fail {α : Type} (depth : Nat) (cause : Error) : Graded α := .error (depth, cause)

/-- A result that may be at fault at a depth. -/
def atDepth {α : Type} (depth : Nat) (r : Except Error α) : Graded α := r.mapError (depth, ·)

/-- Two results; of two faults the less deep one counts, else the first. -/
def both {α β : Type} (a : Graded α) (b : Graded β) : Graded (α × β) :=
  match a, b with
  | .ok x, .ok y => .ok (x, y)
  | .error e, .ok _ => .error e
  | .ok _, .error e => .error e
  | .error e, .error f => if f.1 < e.1 then .error f else .error e

/-- A result in front of others. -/
def cons {α : Type} (a : Graded α) (rest : Graded (List α)) : Graded (List α) :=
  (both a rest).map fun (x, xs) => x :: xs

/-- Results in front of others. -/
def append {α : Type} (a b : Graded (List α)) : Graded (List α) :=
  (both a b).map fun (xs, ys) => xs ++ ys

/-! ## Scalars -/

/-- The truth value that a text spells, in any case. -/
def readTruth (text : String) : Except Error Bool :=
  let text := Text.Lowercase.ofText text
  if ["yes", "true", "on"].contains text then .ok true
  else if ["no", "false", "off"].contains text then .ok false
  else .error (.truth text)

/-- Fail at a place for a reason of meaning. -/
def refuse {α : Type} (start : Mark) (cause : MeaningError) : Except Error α :=
  .error (.meaning cause ⟨none, start⟩)

/-- The bytes that a text at a place denotes in base 64. -/
def readBytes (start : Mark) (t : String) : Except Error (List UInt8) :=
  let cs := t.toList
  let plain := cs.takeWhile (·.toNat < 0x80)
  match cs.drop plain.length with
  | c :: rest =>
    refuse start (.foreignBytes c plain.length (1 + (rest.takeWhile (0x80 ≤ ·.toNat)).length))
  | [] =>
    match Text.Base64.decode? cs with
    | some bytes => .ok bytes
    | none => refuse start (.badBytes (Text.Base64.dataCount cs))

/-- The atom that a text at a place denotes under a tag for atoms. -/
def readAtom (start : Mark) (tag : Tag) (t : String) : Except Error Atom :=
  match tag with
  | .null => .ok .null
  | .bool => (readTruth t).map .bool
  | .int => (Number.integer t).map .int
  | .float => Number.float (start.index + 1) t
  | .text => .ok (.text t)
  | .bytes => (readBytes start t).map .bytes
  | .moment => (Moment.ofText t).map .moment
  | _ => refuse start (.unknownTag tag.name)

/-- What tags are about. -/
inductive TagClass where
  | atom
  | list
  | entries
  | pairs
  | path
  | none
deriving DecidableEq

/-- What a tag is about. -/
def classOf : Tag → TagClass
  | .list => .list
  | .map => .entries
  | .set => .entries
  | .pairs => .pairs
  | .orderedPairs => .pairs
  | .path => .path
  | .foreignPath => .path
  | .merge => .none
  | .default => .none
  | .other _ => .none
  | _ => .atom

/-- Fail at a node that is not of the kind that its tag asks for. -/
def wrongKind (expected : NodeKind) (n : Node) : Error :=
  .meaning (.wrongKind expected n.kind) ⟨none, n.start⟩

/-- Fail at a node whose tag is not known. -/
def unknownTag (n : Node) : Error := .meaning (.unknownTag n.tag.name) ⟨none, n.start⟩

/-- What is being read under a tag for pairs. -/
def pairActivity (tag : Tag) : Activity :=
  if tag = .orderedPairs then .orderedEntries else .pairs

/-- Fail at a node in pairs that start at a mark. -/
def badPair (tag : Tag) (start : Mark) (cause : MeaningError) (n : Node) : Error :=
  .meaning cause (.during (pairActivity tag) start n.start)

/-- Fail at a node that is no sequence of pairs. -/
def noPairs (n : Node) : Error := badPair n.tag n.start (.noSequence n.kind) n

/-- Why a node cannot be an entry in pairs. -/
def entryFault : Node → MeaningError
  | .mapping _ _ entries => .severalEntries entries.length
  | n => .noEntry n.kind

/-- The value of a scalar at a depth. What a collection holds lies one step deeper. -/
def ofScalar (depth : Nat) (start : Mark) (tag : Tag) (t : String) : Graded Value :=
  let n : Node := .scalar start tag t
  match classOf tag with
  | .atom => (atDepth depth (readAtom start tag t)).map atom
  | .list => fail (depth + 1) (wrongKind .sequence n)
  | .pairs => fail (depth + 1) (noPairs n)
  | .entries => fail (depth + 1) (if t = "" then wrongKind .mapping n else .textAsEntries)
  | .path => fail depth (wrongKind .sequence n)
  | .none => fail depth (unknownTag n)

/-- The text of a part of a path. -/
def pathPart : Value → Except Error String
  | .atom (.text s) => .ok s
  | .atom (.path s) => .ok s
  | v => .error (.part (.noPathPart v.kind))

/-- The path that values make. -/
def pathOf (depth : Nat) (tag : Tag) (parts : List Value) : Graded Atom := do
  let texts ← atDepth depth (parts.mapM pathPart)
  if tag = .foreignPath then fail depth .foreignPath else return .path (Path.ofTexts texts)

/-! ## Atoms in mappings -/

mutual

/-- The text of a node that is to be an atom: a scalar, or a mapping that has one under `=`. -/
def atomText : Node → Except Error String
  | .scalar _ _ t => .ok t
  | .mapping m tag entries =>
    match defaultText? entries with
    | some r => r
    | none => .error (wrongKind .scalar (.mapping m tag entries))
  | n => .error (wrongKind .scalar n)

/-- The text under `=`, or why that is none. -/
def defaultText? : List (Node × Node) → Option (Except Error String)
  | [] => none
  | (k, v) :: rest => if k.tag = .default then some (atomText v) else defaultText? rest

end

/-- The atom that a mapping denotes under a tag for atoms. -/
def atomOfMapping (start : Mark) (tag : Tag) (entries : List (Node × Node)) :
    Except Error Atom := do
  let t ← atomText (.mapping start tag entries)
  if tag = .moment then .error (.part .entriesAsDay) else readAtom start tag t

/-- A mapping with given entries, or the set of its keys. -/
def ofEntries (tag : Tag) (entries : List (Atom × Value)) : Value :=
  if tag = .set then .set ((insertAll [] entries).map (·.1)) else .map (insertAll [] entries)

/-- What is said of a sequence that is said to be entries. -/
def sequenceAsEntries (n : Node) : List Node → Error
  | [] => wrongKind .mapping n
  | item :: _ => .part (.nodeAsEntry item.kind)

/-! ## Nodes -/

mutual

/-- The value of a node at a depth. -/
def ofNode (depth : Nat) : Node → Graded Value
  | .scalar m tag t => ofScalar depth m tag t
  | .sequence m tag items =>
    let n : Node := .sequence m tag items
    match classOf tag with
    | .atom => fail depth (wrongKind .scalar n)
    | .list => (ofNodes (depth + 1) items).map list
    | .pairs => (ofPairs (depth + 1) tag m items).map list
    | .entries => fail (depth + 1) (sequenceAsEntries n items)
    | .path => do
      let parts ← ofNodes depth items
      (pathOf depth tag parts).map atom
    | .none => fail depth (unknownTag n)
  | .mapping m tag entries =>
    let n : Node := .mapping m tag entries
    match classOf tag with
    | .atom => (atDepth depth (atomOfMapping m tag entries)).map atom
    | .entries =>
      match entriesFault? m entries with
      | some cause => fail (depth + 1) cause
      | none =>
        let merged := mergedEntries (depth + 1) m (textKeys entries) entries
        let own := ownEntries (depth + 1) m [] entries
        (append merged own).map (ofEntries tag)
    | .list => fail (depth + 1) (wrongKind .sequence n)
    | .pairs => fail (depth + 1) (noPairs n)
    | .path => fail depth (wrongKind .sequence n)
    | .none => fail depth (unknownTag n)

/-- The values of nodes. -/
def ofNodes (depth : Nat) : List Node → Graded (List Value)
  | [] => .ok []
  | n :: rest => cons (ofNode depth n) (ofNodes depth rest)

/-- The pairs in mappings of one entry each; they start at a mark. -/
def ofPairs (depth : Nat) (tag : Tag) (start : Mark) : List Node → Graded (List Value)
  | [] => .ok []
  | n :: rest =>
    match n with
    | .mapping _ _ [(k, v)] =>
      cons ((both (ofNode depth k) (ofNode depth v)).map fun (x, y) => .pair x y)
        (ofPairs depth tag start rest)
    | n => fail depth (badPair tag start (entryFault n) n)

/-- The atom of a key of a mapping that starts at a mark; `=` is a text there. -/
def ofKey (depth : Nat) (start : Mark) (key : Node) : Graded Atom :=
  let container : Error := .meaning .containerAsKey (.during .entries start key.start)
  match key with
  | .scalar m tag t =>
    if tag = .default then .ok (.text t)
    else match classOf tag with
      | .atom => atDepth depth (readAtom m tag t)
      | .path => fail depth (wrongKind .sequence key)
      | .none => fail depth (unknownTag key)
      | _ => fail depth container
  | .sequence _ tag items =>
    match classOf tag with
    | .atom => fail depth (wrongKind .scalar key)
    | .path => do
      let parts ← ofNodes depth items
      pathOf depth tag parts
    | .none => fail depth (unknownTag key)
    | _ => fail depth container
  | .mapping m tag entries =>
    match classOf tag with
    | .atom => atDepth depth (atomOfMapping m tag entries)
    | .path => fail depth (wrongKind .sequence key)
    | .none => fail depth (unknownTag key)
    | _ => fail depth container

/-- The entries that are a mapping's own, for a mapping that starts at a mark, without those whose
    keys are hidden texts. -/
def ownEntries (depth : Nat) (start : Mark) (hidden : List String) :
    List (Node × Node) → Graded (List (Atom × Value))
  | [] => .ok []
  | (k, v) :: rest =>
    if k.tag = .merge || ((keyText? k).map hidden.contains).getD false then
      ownEntries depth start hidden rest
    else cons (both (ofKey depth start k) (ofNode depth v)) (ownEntries depth start hidden rest)

/-- The entries that a mapping merges. -/
def mergedEntries (depth : Nat) (start : Mark) (hidden : List String) :
    List (Node × Node) → Graded (List (Atom × Value))
  | [] => .ok []
  | (k, v) :: rest =>
    if k.tag = .merge then
      append (mergedBy depth start hidden v) (mergedEntries depth start hidden rest)
    else mergedEntries depth start hidden rest

/-- The entries of a mapping, or of a list of mappings, that is to be merged. -/
def mergedBy (depth : Nat) (start : Mark) (hidden : List String) :
    Node → Graded (List (Atom × Value))
  | .mapping _ _ entries =>
    append (mergedEntries depth start (textKeys entries ++ hidden) entries)
      (ownEntries depth start hidden entries)
  | .sequence _ _ items => mergedByAll depth start hidden items
  | .scalar _ _ _ => .ok []

/-- The entries of mappings that are to be merged; the first mapping comes last and wins. -/
def mergedByAll (depth : Nat) (start : Mark) (hidden : List String) :
    List Node → Graded (List (Atom × Value))
  | [] => .ok []
  | n :: rest =>
    append (mergedByAll depth start hidden rest) (mergedBy depth start hidden n)

end

/-! ## Texts -/

/-- The ranges of the characters that documents may hold. -/
def characterRanges : List (Nat × Nat) :=
  [(0x09, 0x0A), (0x0D, 0x0D), (0x20, 0x7E), (0x85, 0x85), (0xA0, 0xD7FF), (0xE000, 0xFFFD),
   (0x10000, 0x10FFFF)]

/-- Whether a document may hold a character. -/
def isDocumentChar (c : Char) : Bool :=
  characterRanges.any fun r => r.1 ≤ c.toNat && c.toNat ≤ r.2

/-- The first character that documents may not hold, if there is one, as a fault. -/
def characterFault? (cs : List Char) : Option Error :=
  let good := cs.takeWhile isDocumentChar
  (cs[good.length]?).map fun c => .character c (String.ofList good).utf8ByteSize

/-- The value of a text; a text without a document is null. -/
def ofText (s : String) : Except Error Value := do
  let cs := s.toList
  if let some cause := characterFault? cs then .error cause
  match ← Node.ofTokens (Token.ofText cs) with
  | some n =>
    if let some cause := n.repeatFault? then .error cause
    (ofNode 0 n).mapError (·.2)
  | none => return null

end Chip8.Yaml.Value
