import AmberTools.Yaml.Tag
import AmberTools.Yaml.TokenReader

/-!
# Nodes

The tokens of a text describe a graph of nodes. A node is a scalar, a sequence or a mapping and
has a tag; an alias makes a node part of several collections, or of itself. Nodes are numbered
in the order in which they start, and collections name their nodes by number. How deep nodes may
stand in one another is up to the one who reads them.
-/

namespace AmberTools
namespace Yaml

/-- What a node holds. -/
inductive NodeContent where
  | scalar (text : WideText)
  | sequence (items : List Nat)
  | mapping (entries : List (Nat × Nat))
  deriving DecidableEq, Repr

/-- A node. -/
structure Node where
  tag : Tag
  content : NodeContent
  deriving DecidableEq, Repr

/-- Whether a node is a mapping. -/
def Node.isMapping (node : Node) : Bool :=
  match node.content with
  | .mapping _ => true
  | _ => false

/-- The state of building nodes from tokens. -/
structure NodeBuilder where
  tokens : List Token
  /-- The fault behind the last token. -/
  fault : Fault
  /-- The greatest depth of a node, where the root has depth one. -/
  deepest : Nat
  nodes : Array Node := #[]
  anchors : List (Text × Nat) := []
  /-- The beginnings of tags that handles stand for. -/
  handles : List (Text × Text) := []

namespace NodeBuilder

/-- A step of building. -/
abbrev Build := StateT NodeBuilder (Except Fault)

/-- The next token. -/
def peek : Build Token := do
  match (← get).tokens with
  | t :: _ => return t
  | [] => throw (← get).fault

/-- The next token is done. -/
def skip : Build Unit := modify fun b => { b with tokens := b.tokens.tail }

/-- Whether the next token is a given one, which is then done. -/
def accept (t : Token) : Build Bool := do
  if (← peek) = t then
    skip
    return true
  else return false

/-- The next token must be a given one. -/
def expect (t : Token) : Build Unit := do
  if !(← accept t) then throw .malformed

/-- A further node. -/
def add (node : Node) : Build Nat := do
  let b ← get
  set { b with nodes := b.nodes.push node }
  return b.nodes.size

/-- A node that holds nothing, where a value has been left out. -/
def addEmpty : Build Nat := add ⟨.null, .scalar []⟩

/-- The collection of a node is complete. -/
def complete (n : Nat) (content : NodeContent) : Build Unit :=
  modify fun b => { b with nodes := b.nodes.modify n fun node => { node with content } }

/-- The tag a handle and a text stand for. -/
def fullTag (handle : Option Text) (suffix : Text) : Build Text := do
  match handle with
  | none => return suffix
  | some handle =>
    match (← get).handles.find? (·.1 == handle) with
    | some meaning => return meaning.2 ++ suffix
    | none => throw .malformed

/-- The anchor in front of a node. -/
def anchor? : Build (Option Text) := do
  match ← peek with
  | .anchor name =>
    skip
    return some name
  | _ => return none

/-- The tag in front of a node, as it is written. -/
def tag? : Build (Option (Option Text × Text)) := do
  match ← peek with
  | .tag handle suffix =>
    skip
    return some (handle, suffix)
  | _ => return none

/-- Anchor and tag in front of a node, in either order. What the tag's handle stands for is looked
up behind both. -/
def properties : Build (Option Text × Option Text) := do
  let before ← anchor?
  let written ← tag?
  let anchor ← if before.isNone && written.isSome then anchor? else pure before
  match written with
  | some (handle, suffix) => return (anchor, some (← fullTag handle suffix))
  | none => return (anchor, none)

/-- An anchor names a node. No anchor may do so twice. -/
def name (anchor : Option Text) (n : Nat) : Build Unit := do
  match anchor with
  | none => return
  | some name =>
    if (← get).anchors.any (·.1 == name) then throw .malformed
    modify fun b => { b with anchors := (name, n) :: b.anchors }

/-- The node an alias refers to. -/
def aliased (name : Text) : Build Nat := do
  match (← get).anchors.find? (·.1 == name) with
  | some anchor => return anchor.2
  | none => throw .malformed

/-- The tag of a collection: the given one, or the usual one where none or the neutral one is. -/
def collectionTag (tag : Option Text) (usual : Tag) : Tag :=
  match tag with
  | none => usual
  | some text => if text = ['!'] then usual else Tag.ofText text

/-- The tag of a scalar: the given one, or by its text where it is plain and has none, or has the
neutral one. -/
def scalarTag (tag : Option Text) (plain : Bool) (text : WideText) : Tag :=
  match tag with
  | none => if plain then Tag.ofContent text else .str
  | some given => if given = ['!'] then Tag.ofContent text else Tag.ofText given

/-- A named node with nothing in its collection yet. -/
def start (anchor : Option Text) (tag : Tag) (content : NodeContent) : Build Nat := do
  let n ← add ⟨tag, content⟩
  name anchor n
  return n

/-- The tokens behind which a value of a block mapping has been left out. -/
def endsBlockValue (t : Token) : Bool := t == .key || t == .value || t == .blockEnd

/-- A node of a given depth is begun. -/
def enter (depth : Nat) : Build Unit := do
  if (← get).deepest < depth then throw .tooDeep

mutual

/-- A node of a given depth. Block collections may stand only in a block, and a sequence that is
not indented only as a value of a mapping. -/
def node (block indentless : Bool) (depth : Nat) : (fuel : Nat) → Build Nat
  | 0 => throw .outOfSteps
  | fuel + 1 => do
    enter depth
    if let .alias name ← peek then
      skip
      return ← aliased name
    let (anchor, tag) ← properties
    match ← peek with
    | .scalar text plain =>
      skip
      start anchor (scalarTag tag plain text) (.scalar text)
    | .flowSequenceStart =>
      skip
      let n ← start anchor (collectionTag tag .seq) (.sequence [])
      complete n (.sequence (← flowItems true (depth + 1) fuel))
      return n
    | .flowMappingStart =>
      skip
      let n ← start anchor (collectionTag tag .map) (.mapping [])
      complete n (.mapping (← flowEntries true (depth + 1) fuel))
      return n
    | next =>
      if indentless && next == .blockEntry then
        let n ← start anchor (collectionTag tag .seq) (.sequence [])
        complete n (.sequence (← indentlessItems (depth + 1) fuel))
        return n
      else if block && next == .blockSequenceStart then
        skip
        let n ← start anchor (collectionTag tag .seq) (.sequence [])
        complete n (.sequence (← blockItems (depth + 1) fuel))
        return n
      else if block && next == .blockMappingStart then
        skip
        let n ← start anchor (collectionTag tag .map) (.mapping [])
        complete n (.mapping (← blockEntries (depth + 1) fuel))
        return n
      else if anchor.isSome || tag.isSome then
        start anchor (scalarTag tag true []) (.scalar [])
      else throw .malformed
termination_by structural fuel => fuel

/-- The items of a block sequence up to its end. -/
def blockItems (depth : Nat) : (fuel : Nat) → Build (List Nat)
  | 0 => throw .outOfSteps
  | fuel + 1 => do
    if ← accept .blockEntry then
      let next ← peek
      let item ←
        if next == .blockEntry || next == .blockEnd then addEmpty else node true false depth fuel
      return item :: (← blockItems depth fuel)
    else
      expect .blockEnd
      return []
termination_by structural fuel => fuel

/-- The items of a sequence that is not indented. -/
def indentlessItems (depth : Nat) : (fuel : Nat) → Build (List Nat)
  | 0 => throw .outOfSteps
  | fuel + 1 => do
    if ← accept .blockEntry then
      let next ← peek
      let item ←
        if next == .blockEntry || endsBlockValue next then addEmpty else node true false depth fuel
      return item :: (← indentlessItems depth fuel)
    else return []
termination_by structural fuel => fuel

/-- The entries of a block mapping up to its end. -/
def blockEntries (depth : Nat) : (fuel : Nat) → Build (List (Nat × Nat))
  | 0 => throw .outOfSteps
  | fuel + 1 => do
    if ← accept .key then
      let key ← if endsBlockValue (← peek) then addEmpty else node true true depth fuel
      let value ←
        if ← accept .value then
          if endsBlockValue (← peek) then addEmpty else node true true depth fuel
        else addEmpty
      return (key, value) :: (← blockEntries depth fuel)
    else
      expect .blockEnd
      return []
termination_by structural fuel => fuel

/-- The items of a flow sequence up to its end. A key there makes a mapping of one entry. -/
def flowItems (first : Bool) (depth : Nat) : (fuel : Nat) → Build (List Nat)
  | 0 => throw .outOfSteps
  | fuel + 1 => do
    if ← accept .flowSequenceEnd then return []
    if !first then expect .flowEntry
    let next ← peek
    if next == .flowSequenceEnd then
      skip
      return []
    else if next == .key then
      skip
      enter depth
      let n ← add ⟨.map, .mapping []⟩
      let next ← peek
      let key ←
        if next == .value || next == .flowEntry || next == .flowSequenceEnd then addEmpty
        else node false false (depth + 1) fuel
      let value ←
        if ← accept .value then
          let next ← peek
          if next == .flowEntry || next == .flowSequenceEnd then addEmpty
          else node false false (depth + 1) fuel
        else addEmpty
      complete n (.mapping [(key, value)])
      return n :: (← flowItems false depth fuel)
    else
      let item ← node false false depth fuel
      return item :: (← flowItems false depth fuel)
termination_by structural fuel => fuel

/-- The entries of a flow mapping up to its end. A node without a key's mark is a key without a
value. -/
def flowEntries (first : Bool) (depth : Nat) : (fuel : Nat) → Build (List (Nat × Nat))
  | 0 => throw .outOfSteps
  | fuel + 1 => do
    if ← accept .flowMappingEnd then return []
    if !first then expect .flowEntry
    let next ← peek
    if next == .flowMappingEnd then
      skip
      return []
    else if next == .key then
      skip
      let next ← peek
      let key ←
        if next == .value || next == .flowEntry || next == .flowMappingEnd then addEmpty
        else node false false depth fuel
      let value ←
        if ← accept .value then
          let next ← peek
          if next == .flowEntry || next == .flowMappingEnd then addEmpty
          else node false false depth fuel
        else addEmpty
      return (key, value) :: (← flowEntries false depth fuel)
    else
      let key ← node false false depth fuel
      let value ← addEmpty
      return (key, value) :: (← flowEntries false depth fuel)
termination_by structural fuel => fuel

end

/-! ### Documents -/

/-- The handles that need no explanation. -/
def usualHandles : List (Text × Text) := [(['!'], ['!']), (['!', '!'], Tag.start)]

/-- The directives of a document. Only version 1 is known, and nothing may be said twice. -/
def directives : (fuel : Nat) → (versionSeen : Bool) → Build Unit
  | 0, _ => throw .outOfSteps
  | fuel + 1, versionSeen => do
    match ← peek with
    | .directive d =>
      skip
      match d with
      | .version major _ =>
        if versionSeen || major != 1 then throw .malformed
        directives fuel true
      | .tag handle start =>
        let b ← get
        if b.handles.any (·.1 == handle) then throw .malformed
        set { b with handles := (handle, start) :: b.handles }
        directives fuel versionSeen
      | .other => directives fuel versionSeen
    | _ => return

/-- The root of a document that is announced by its mark. -/
def announced (fuel : Nat) : Build Nat := do
  directives fuel false
  modify fun b => { b with handles := b.handles ++ usualHandles }
  expect .documentStart
  match ← peek with
  | .directive _ => addEmpty
  | .documentStart => addEmpty
  | .documentEnd => addEmpty
  | .streamEnd => addEmpty
  | _ => node true false 1 fuel

/-- The ends of documents that follow one another. -/
def documentEnds : (fuel : Nat) → Build Unit
  | 0 => throw .outOfSteps
  | fuel + 1 => do
    if ← accept .documentEnd then documentEnds fuel

/-- A second document is refused when its directives have been read and the token behind them is
known. -/
def anotherDocument (fuel : Nat) : Build Unit := do
  modify fun b => { b with handles := [] }
  directives fuel false
  let _ ← peek
  throw .malformed

/-- The root of the only document, or nothing if there is none. -/
def document (fuel : Nat) : Build (Option Nat) := do
  match ← peek with
  | .streamEnd => return none
  | first =>
    let root ←
      match first with
      | .directive _ => announced fuel
      | .documentStart => announced fuel
      | _ =>
        modify fun b => { b with handles := usualHandles }
        node true false 1 fuel
    documentEnds fuel
    if !(← accept .streamEnd) then anotherDocument fuel
    return some root

end NodeBuilder

/-- The nodes of a text and the root among them, if there is a document. -/
structure NodeGraph where
  nodes : Array Node
  root : Option Nat

/-- The characters that a YAML text may hold. -/
def isAllowed (c : Char) : Bool :=
  let n := c.toNat
  n == 0x09 || n == 0x0a || n == 0x0d || (0x20 ≤ n && n ≤ 0x7e) || n == 0x85 ||
    (0xa0 ≤ n && n ≤ 0xfffd) || 0x10000 ≤ n

/-- The graph of a text's only document, with nodes of no more than a given depth. -/
def NodeGraph.ofText (deepest : Nat) (text : Text) : Except Fault NodeGraph :=
  if !text.all isAllowed then .error .malformed
  else
    let (tokens, fault) := tokensOf text
    let builder : NodeBuilder := { tokens, fault := fault.getD .malformed, deepest }
    match (NodeBuilder.document (2 * tokens.length + 8)).run builder with
    | .ok (root, builder) => .ok ⟨builder.nodes, root⟩
    | .error fault => .error fault

end Yaml
end AmberTools
