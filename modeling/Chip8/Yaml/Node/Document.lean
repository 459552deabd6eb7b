import Chip8.Yaml.Node
import Chip8.Yaml.Token

set_option autoImplicit false

/-! # From tokens to nodes

The grammar of the token stream, read by recursive descent. An anchor names a node from its first
token on, but stands for it only when it is complete. Every function below reads a token at least
before it calls itself again, or calls one that does, so that fuel of three for each token is
enough. -/

namespace Chip8.Yaml.Node

/-- A node, and how many nodes it has with all that it contains. -/
structure Named where
  node : Node
  size : Nat

/-- A name, the place where its node starts, and the node unless it is incomplete. -/
structure Anchor where
  name : String
  start : Mark
  named? : Option Named

/-- A token stream that is being read. -/
structure Reading where
  tokens : List Token.Placed
  /-- what the handles of tags stand for, unless that is no text -/
  handles : List (String × Option String)
  anchors : List Anchor
  /-- how many nodes are written -/
  written : Nat
  /-- how many nodes there are, with those that aliases stand for -/
  expanded : Nat
  /-- where the first node starts that contains itself -/
  recursion? : Option Mark

/-- Readers of parts of a token stream. -/
abbrev Reader (α : Type) : Type := StateT Reading (Except Error) α

namespace Reader

/-- The next token. -/
def peek : Reader Token := do
  match (← get).tokens with
  | [] => return .streamEnd
  | ⟨.broken cause, _, _⟩ :: _ => throw cause
  | t :: _ => return t.token

/-- Where the next token starts. -/
def here : Reader Mark := return ((← get).tokens.head?.map (·.start)).getD Mark.start

/-- Step over the next token; the answer is where it stops. -/
def drop : Reader Mark := do
  let r ← get
  set { r with tokens := r.tokens.drop 1 }
  return (r.tokens.head?.map (·.stop)).getD Mark.start

/-- Fail at the next token for a reason of grammar, in something that starts at a mark. -/
def refuse {α : Type} (activity : Activity) (start : Mark) (cause : GrammarError) : Reader α := do
  throw (.grammar cause (.during activity start (← here)))

/-- Fail at the next token for a reason of grammar. -/
def refuseHere {α : Type} (cause : GrammarError) : Reader α := do
  throw (.grammar cause ⟨none, ← here⟩)

/-- Whether the next token is one of some. -/
def atAny (ts : List Token) : Reader Bool := return ts.contains (← peek)

/-- A node has been written. -/
def count : Reader Unit :=
  modify fun r => { r with written := r.written + 1, expanded := r.expanded + 1 }

/-- The node where nothing is written, at a mark. -/
def nothing (start : Mark) : Reader Node := do
  count
  return Node.empty start

/-! ## Tags, anchors and aliases -/

/-- A tag as it is written: its handle, if there is one, and what follows it. -/
structure WrittenTag where
  handle? : Option String
  rest? : Option String
  start : Mark

/-- Read a tag, if one is there. -/
def tag? : Reader (Option WrittenTag) := do
  match ← peek with
  | .tag handle? rest? =>
    let start ← here
    let _ ← drop
    return some ⟨handle?, rest?, start⟩
  | _ => return none

/-- Read an anchor, if one is there. -/
def anchor? : Reader (Option String) := do
  match ← peek with
  | .anchor name =>
    let _ ← drop
    return some name
  | _ => return none

/-- The full name of a tag of a node that starts at a mark, unless that is no text. -/
def fullName (start : Mark) (tag : WrittenTag) : Reader (Option String) := do
  match tag.handle? with
  | none => return tag.rest?
  | some handle =>
    match (← get).handles.lookup handle with
    | some start? => return do return (← start?) ++ (← tag.rest?)
    | none => throw (.grammar .undefinedHandle (.during .node start tag.start))

/-- What may come before a node: its anchor, and the full name of its tag, unless that is no text.
    The node starts there. -/
structure Properties where
  start : Mark
  anchor? : Option String
  tag? : Option (Option String)

/-- Read an anchor and a tag, in either order. A token follows them. -/
def properties : Reader Properties := do
  let start ← here
  let before? ← anchor?
  let tag? ← tag?
  let anchor? ← if before?.isNone && tag?.isSome then anchor? else pure before?
  let _ ← peek
  return ⟨start, anchor?, ← tag?.mapM (fullName start)⟩

/-- The node that an alias stands for. An alias inside its own node is remembered; nothing will come
    of the document. -/
def resolve (name : String) : Reader Node := do
  match (← get).anchors.find? (·.name == name) with
  | some ⟨_, start, none⟩ =>
    modify fun r => { r with recursion? := r.recursion?.orElse fun _ => some start }
    return Node.empty start
  | some ⟨_, _, some named⟩ =>
    modify fun r => { r with expanded := r.expanded + named.size }
    return named.node
  | none => throw (.node .undefinedAlias ⟨none, ← here⟩)

/-- Read a node that starts at a mark under a name. -/
def named (name : String) (start : Mark) (body : Reader Node) : Reader Node := do
  if let some first := (← get).anchors.find? (·.name == name) then
    throw (.node .repeatedAnchor (.during .firstAnchor first.start start))
  modify fun r => { r with anchors := ⟨name, start, none⟩ :: r.anchors }
  let before := (← get).expanded
  let node ← body
  modify fun r =>
    { r with anchors := ⟨name, start, some ⟨node, r.expanded - before⟩⟩ :: r.anchors }
  return node

/-- Read a node with its properties: first its name counts, then its tag. -/
def withProperties (p : Properties) (body : Option String → Reader Node) : Reader Node :=
  let tagged : Reader Node := do
    count
    match p.tag? with
    | none => body none
    | some (some tag) => body (some tag)
    | some none => throw .octets
  match p.anchor? with
  | none => tagged
  | some name => named name p.start tagged

/-! ## Nodes -/

mutual

/-- Read a node. In block context, block collections may stand there; after a key or its colon also
    the entries of a sequence that is not indented. -/
def node (block indentless : Bool) : Nat → Reader Node
  | 0 => refuseHere .missingContent
  | fuel + 1 => do
    if let .alias name ← peek then
      let node ← resolve name
      let _ ← drop
      return node
    let p ← properties
    let t ← peek
    let first ← here
    if indentless && t = .blockEntry then
      withProperties p fun tag? =>
        return .sequence p.start (collectionTag .list tag?) (← indentlessItems fuel)
    else if let .scalar text plain := t then
      withProperties p fun tag? => do
        let _ ← drop
        return ofScalar p.start tag? text plain
    else if t = .flowSequenceStart then
      withProperties p fun tag? => do
        let _ ← drop
        return .sequence p.start (collectionTag .list tag?) (← flowItems first true fuel)
    else if t = .flowMappingStart then
      withProperties p fun tag? => do
        let _ ← drop
        return .mapping p.start (collectionTag .map tag?) (← flowEntries first true fuel)
    else if block && t = .blockSequenceStart then
      withProperties p fun tag? => do
        let _ ← drop
        return .sequence p.start (collectionTag .list tag?) (← blockItems first fuel)
    else if block && t = .blockMappingStart then
      withProperties p fun tag? => do
        let _ ← drop
        return .mapping p.start (collectionTag .map tag?) (← blockEntries first fuel)
    else if p.anchor?.isSome || p.tag?.isSome then
      withProperties p fun tag? => return ofNothing p.start tag?
    else refuse (if block then .blockNode else .flowNode) p.start .missingContent

/-- Read a node unless one of some tokens shows that nothing is written, `stop` being where the
    token before it stops. -/
def nodeUnless (ends : List Token) (block : Bool) (stop : Mark) : Nat → Reader Node
  | 0 => refuseHere .missingContent
  | fuel + 1 => do
    let next ← here
    if ← atAny ends then nothing (if block then stop else next)
    else node block block fuel

/-- Read the value of an entry, if a colon introduces one. -/
def valueUnless (ends : List Token) (block : Bool) : Nat → Reader Node
  | 0 => refuseHere .missingContent
  | fuel + 1 => do
    if ← atAny [.value] then nodeUnless ends block (← drop) fuel
    else nothing (← here)

/-- Read the items of a block sequence that starts at a mark. -/
def blockItems (start : Mark) : Nat → Reader (List Node)
  | 0 => refuse .blockCollection start .missingDash
  | fuel + 1 => do
    match ← peek with
    | .blockEntry =>
      let stop ← drop
      let item ←
        if ← atAny [.blockEntry, .blockEnd] then nothing stop else node true false fuel
      return item :: (← blockItems start fuel)
    | .blockEnd =>
      let _ ← drop
      return []
    | _ => refuse .blockCollection start .missingDash

/-- Read the items of a sequence that is not indented; whatever is no item ends it. -/
def indentlessItems : Nat → Reader (List Node)
  | 0 => refuseHere .missingDash
  | fuel + 1 => do
    match ← peek with
    | .blockEntry =>
      let stop ← drop
      let item ←
        if ← atAny [.blockEntry, .key, .value, .blockEnd] then nothing stop
        else node true false fuel
      return item :: (← indentlessItems fuel)
    | _ => return []

/-- Read the entries of a block mapping that starts at a mark. -/
def blockEntries (start : Mark) : Nat → Reader (List (Node × Node))
  | 0 => refuse .blockMapping start .missingKey
  | fuel + 1 => do
    match ← peek with
    | .key =>
      let key ← nodeUnless [.key, .value, .blockEnd] true (← drop) fuel
      let value ← valueUnless [.key, .value, .blockEnd] true fuel
      return (key, value) :: (← blockEntries start fuel)
    | .blockEnd =>
      let _ ← drop
      return []
    | _ => refuse .blockMapping start .missingKey

/-- Read the key of an entry among the items of a flow sequence. The token that shows that nothing
    is written counts as the empty key itself. -/
def markedKey : Nat → Reader Node
  | 0 => refuseHere .missingContent
  | fuel + 1 => do
    if ← atAny [.value, .flowEntry, .flowSequenceEnd] then nothing (← drop)
    else node false false fuel

/-- Read the items of a flow sequence that starts at a mark. A key in it makes a mapping of one
    entry. -/
def flowItems (start : Mark) (first : Bool) : Nat → Reader (List Node)
  | 0 => refuse .flowSequence start .missingItemSeparator
  | fuel + 1 => do
    if ← atAny [.flowSequenceEnd] then
      let _ ← drop
      return []
    if !first then
      if ← atAny [.flowEntry] then let _ ← drop
      else refuse .flowSequence start .missingItemSeparator
    match ← peek with
    | .flowSequenceEnd =>
      let _ ← drop
      return []
    | .key =>
      let entryStart ← here
      let _ ← drop
      count
      let key ← markedKey fuel
      let value ← valueUnless [.flowEntry, .flowSequenceEnd] false fuel
      return .mapping entryStart .map [(key, value)] :: (← flowItems start false fuel)
    | _ =>
      let item ← node false false fuel
      return item :: (← flowItems start false fuel)

/-- Read the entries of a flow mapping that starts at a mark. A node without a colon is a key. -/
def flowEntries (start : Mark) (first : Bool) : Nat → Reader (List (Node × Node))
  | 0 => refuse .flowMapping start .missingEntrySeparator
  | fuel + 1 => do
    if ← atAny [.flowMappingEnd] then
      let _ ← drop
      return []
    if !first then
      if ← atAny [.flowEntry] then let _ ← drop
      else refuse .flowMapping start .missingEntrySeparator
    match ← peek with
    | .flowMappingEnd =>
      let _ ← drop
      return []
    | .key =>
      let key ← nodeUnless [.value, .flowEntry, .flowMappingEnd] false (← drop) fuel
      let value ← valueUnless [.flowEntry, .flowMappingEnd] false fuel
      return (key, value) :: (← flowEntries start false fuel)
    | _ =>
      let key ← node false false fuel
      let value ← nothing (← here)
      return (key, value) :: (← flowEntries start false fuel)

end

/-! ## Documents -/

/-- The handles that every document has. -/
def usualHandles : List (String × Option String) := [("!", some "!"), ("!!", some Tag.space)]

/-- The versions of documents that can be read. -/
def knownVersions : List (Nat × Nat) := [(1, 1), (1, 2)]

/-- Read the directives before a document and set its handles. -/
def directives : Nat → Bool → List (String × Option String) → Reader Unit
  | 0, _, _ => refuseHere .missingDocumentStart
  | fuel + 1, versioned, handles => do
    match ← peek with
    | .directive (.version major minor) =>
      if versioned then refuseHere .repeatedVersion
      if !knownVersions.contains (major, minor) then refuseHere .unknownVersion
      let _ ← drop
      directives fuel true handles
    | .directive (.tag handle expansion?) =>
      if (handles.lookup handle).isSome then refuseHere .repeatedHandle
      let _ ← drop
      directives fuel versioned ((handle, expansion?) :: handles)
    | _ => modify fun r => { r with handles := handles ++ usualHandles }

/-- Step over document end markers. -/
def documentEnds : Nat → Reader Unit
  | 0 => return
  | fuel + 1 => do
    if ← atAny [.documentEnd] then
      let _ ← drop
      documentEnds fuel

/-- Read the directives and the marker that start a document. -/
def documentStart (fuel : Nat) : Reader Unit := do
  directives fuel false []
  if ← atAny [.documentStart] then let _ ← drop
  else refuseHere .missingDocumentStart

/-- Whether a token starts a document by a marker. -/
def opensDocument : Token → Bool
  | .directive _ => true
  | .documentStart => true
  | _ => false

/-- Read the stream, which holds one document at most. -/
def document (fuel : Nat) : Reader (Option Node) := do
  let t ← peek
  if t = .streamEnd then return none
  let node ←
    if opensDocument t then do
      documentStart fuel
      let t ← peek
      if opensDocument t || t = .documentEnd || t = .streamEnd then nothing (← here)
      else node true false fuel
    else node true false fuel
  documentEnds fuel
  if ← atAny [.streamEnd] then return some node
  let next ← here
  documentStart fuel
  throw (.node .severalDocuments (.during .stream node.start next))

end Reader

/-! ## Expansion -/

/-- The most nodes that a document has with those that its aliases stand for. -/
def maxExpanded : Nat := 10000

/-- The most nodes that a document has for each one that is written. -/
def maxExpansion : Nat := 100

/-- Whether aliases make too much of what is written. -/
def isExcessive (written expanded : Nat) : Bool :=
  written < expanded && (maxExpanded < expanded || maxExpansion * written < expanded)

/-- The node of a token stream; there is none in an empty stream. No node contains itself. -/
def ofTokens (tokens : List Token.Placed) : Except Error (Option Node) := do
  let start : Reading := ⟨tokens, Reader.usualHandles, [], 0, 0, none⟩
  let (node?, final) ← Reader.document (3 * tokens.length + 3) start
  if let some mark := final.recursion? then .error (.meaning .recursion ⟨none, mark⟩)
  if isExcessive final.written final.expanded then
    .error (.meaning .expansion ⟨none, (node?.map Node.start).getD Mark.start⟩)
  return node?

end Chip8.Yaml.Node
