import Chip8.Yaml.Node

set_option autoImplicit false

/-! # Merging mappings

A mapping may not give two values to one text. Under the key `<<` it may merge other mappings: their
entries come before its own, those of a later mapping in a list before those of an earlier one. What
has a text for its key that is also a key of the mapping itself is left out, and never understood.

Two mappings that are merged may have a text in common. The mapping that merges both has that text
twice then, which shows when it is looked at once more: because it is merged itself under a name, or
merged and used. -/

namespace Chip8.Yaml.Node

/-! ## Keys of mappings -/

/-- The text of a key that is said to be one. -/
def keyText? : Node → Option String
  | .scalar _ .text t => some t
  | _ => none

/-- The keys of a mapping that are said to be texts. -/
def textKeys (entries : List (Node × Node)) : List String := entries.filterMap (keyText? ·.1)

/-- Why the keys of a mapping are at fault before they are understood: two are the same text, or one
    is a collection that is said to be a text. -/
def keyFault? (start : Mark) (seen : List String) : List (Node × Node) → Option Error
  | [] => none
  | (k, _) :: rest =>
    match k with
    | .scalar m .text t =>
      if seen.contains t then some (.meaning (.repeatedKey t) (.during .entries start m))
      else keyFault? start (t :: seen) rest
    | .sequence _ .text _ => some (.part .listAsText)
    | .mapping _ .text _ => some (.part .listAsText)
    | _ => keyFault? start seen rest

/-! ## What is merged -/

mutual

/-- The first fault in what the entries of a mapping merge. -/
def mergeFault? (start : Mark) : List (Node × Node) → Option Error
  | [] => none
  | (k, v) :: rest =>
    (if k.tag = .merge then targetFault? start v else none).orElse fun _ => mergeFault? start rest

/-- Why a node cannot be merged into a mapping that starts at a mark. -/
def targetFault? (start : Mark) : Node → Option Error
  | .mapping m _ entries => (keyFault? m [] entries).orElse fun _ => mergeFault? m entries
  | .sequence _ _ items => itemFault? start items
  | .scalar m _ _ => some (.meaning (.badMerge .scalar) (.during .entries start m))

/-- Why one of some nodes cannot be merged into a mapping that starts at a mark. -/
def itemFault? (start : Mark) : List Node → Option Error
  | [] => none
  | .mapping m _ entries :: rest =>
    ((keyFault? m [] entries).orElse fun _ => mergeFault? m entries).orElse fun _ =>
      itemFault? start rest
  | n :: _ => some (.meaning (.badMergeItem n.kind) (.during .entries start n.start))

end

/-- Why the entries of a mapping are at fault before they are understood. -/
def entriesFault? (start : Mark) (entries : List (Node × Node)) : Option Error :=
  (keyFault? start [] entries).orElse fun _ => mergeFault? start entries

/-! ## What is looked at more than once -/

/-- The keys that are said to be texts, and where they start. -/
def placedKeys (entries : List (Node × Node)) : List (String × Mark) :=
  entries.filterMap fun e => (keyText? e.1).map (·, e.1.start)

mutual

/-- The texts that are keys of a mapping after it has merged others. -/
def allKeys : Node → List (String × Mark)
  | .mapping _ _ entries =>
    let own := placedKeys entries
    (mergedKeys entries).filter (fun k => (own.lookup k.1).isNone) ++ own
  | .sequence _ _ items => itemKeys items
  | .scalar _ _ _ => []

/-- The texts that are keys of what entries merge. -/
def mergedKeys : List (Node × Node) → List (String × Mark)
  | [] => []
  | (k, v) :: rest => if k.tag = .merge then allKeys v ++ mergedKeys rest else mergedKeys rest

/-- The texts that are keys of nodes to be merged. -/
def itemKeys : List Node → List (String × Mark)
  | [] => []
  | n :: rest => itemKeys rest ++ allKeys n

end

/-- The first key that is there twice. -/
def repeated? (seen : List String) : List (String × Mark) → Option (String × Mark)
  | [] => none
  | k :: rest => if seen.contains k.1 then some k else repeated? (k.1 :: seen) rest

mutual

/-- The mappings in a node, each with whether it is there for itself; `used` if the node is. -/
def mappings (used : Bool) : Node → List (Node × Bool)
  | .scalar _ _ _ => []
  | .sequence _ _ items => itemMappings used items
  | .mapping m tag entries => (.mapping m tag entries, used) :: entryMappings entries

/-- The mappings in nodes. -/
def itemMappings (used : Bool) : List Node → List (Node × Bool)
  | [] => []
  | n :: rest => mappings used n ++ itemMappings used rest

/-- The mappings in entries. -/
def entryMappings : List (Node × Node) → List (Node × Bool)
  | [] => []
  | (k, v) :: rest =>
    (if k.tag = .merge then mappings false v else mappings true k ++ mappings true v)
      ++ entryMappings rest

end

/-- The nodes that are merged into a node. -/
def targets : Node → List Node
  | .mapping _ _ entries =>
    entries.flatMap fun e =>
      if e.1.tag ≠ .merge then []
      else match e.2 with
        | .sequence _ _ items => items
        | n => [n]
  | _ => []

/-- Nodes that start at different places. -/
def distinct (nodes : List Node) : List Node :=
  nodes.foldl (fun found n => if found.any (·.start = n.start) then found else n :: found) []

/-- How often a mapping is looked at in a document with some mappings. -/
def lookCount (all : List (Node × Bool)) (n : Node) : Nat :=
  ((distinct (all.map (·.1))).flatMap targets).countP (·.start = n.start)
    + (if all.any fun m => m.2 && m.1.start = n.start then 1 else 0)

/-- The fault of a mapping that has a text twice when it is looked at once more. -/
def repeatFault? (root : Node) : Option Error :=
  let all := mappings true root
  all.findSome? fun (n, _) => do
    let (text, mark) ← repeated? [] n.allKeys
    guard (1 < lookCount all n)
    return .meaning (.repeatedKey text) (.during .entries n.start mark)

end Chip8.Yaml.Node
