import AmberTools.Value.Arrangement
import AmberTools.Yaml.Node
import AmberTools.Yaml.Scalar

/-!
# Documents

The nodes of a document become items: scalars with their values, and collections of other items.
Keys are told apart by value, so of several entries with one key the first gives the key and the
last the value. A merged mapping gives its entries to the mapping around it, where they yield to
that mapping's own. Collections are filled in the order in which they are met, level by level,
which decides the fault of a text with several.

How far a reader can follow nodes, merges and scalars that stand in one another is not settled by
the text: it depends on the room that is left where a program runs. So these limits are given, and
so is the reader itself where texts are only used.
-/

namespace AmberTools
namespace Yaml

/-- An item of a document. Collections name their items by number. -/
inductive Item where
  | scalar (v : Value)
  | list (items : List Nat)
  | pairs (entries : List (Nat × Nat))
  | set (members : List Nat)
  | map (entries : List (Nat × Nat))
  deriving Inhabited

/-- A document: its items and the outermost among them. -/
structure Document where
  items : Array Item
  root : Nat

/-- How far a reader can follow a text. -/
structure Limits where
  /-- The greatest depth of a node, where the root has depth one. -/
  nested : Nat
  /-- The greatest number of levels of mappings, each merged into the one before. -/
  merged : Nat
  /-- The greatest number of nodes of which each gives the text for the one before. -/
  deferred : Nat
  deriving DecidableEq, Repr

/-- The state of making items from nodes. -/
structure DocumentBuilder where
  limits : Limits
  nodes : Array Node
  items : Array Item := #[]
  /-- The item of each node that has one. -/
  made : List (Nat × Nat) := []
  /-- The collections that are still to be filled, each a node and its item, in order. -/
  unfilled : List (Nat × Nat) := []

namespace DocumentBuilder

/-- A step of building. -/
abbrev Build := StateT DocumentBuilder (Except Fault)

/-- A node by number. -/
def nodeAt (n : Nat) : Build Node := do
  match (← get).nodes[n]? with
  | some node => return node
  | none => throw .malformed

/-- A further item for a node. -/
def add (n : Nat) (item : Item) : Build Nat := do
  let b ← get
  let i := b.items.size
  set { b with items := b.items.push item, made := (n, i) :: b.made }
  return i

/-- An empty collection for a node, to be filled later. -/
def addUnfilled (n : Nat) (item : Item) : Build Nat := do
  let i ← add n item
  modify fun b => { b with unfilled := b.unfilled ++ [(n, i)] }
  return i

/-- The text of a node that is read as a scalar: its own, or of the key that stands for a mapping.
That may be a mapping again, and even the same one. -/
def scalarText : (deferred : Nat) → Nat → Build WideText
  | 0, _ => throw .tooDeep
  | deferred + 1, n => do
    match (← nodeAt n).content with
    | .scalar text => return text
    | .sequence _ => throw .malformed
    | .mapping entries =>
      let nodes := (← get).nodes
      match entries.find? fun e => (nodes[e.1]?).any (·.tag == .value) with
      | some e => scalarText deferred e.2
      | none => throw .malformed

/-- The item of a node that is a scalar with a tag and a text. -/
def addScalar (n : Nat) (tag : Tag) (text : WideText) : Build Nat :=
  match Scalar.toValue tag text with
  | .ok v => add n (.scalar v)
  | .error fault => throw fault

/-- The item of a node. A collection's is empty at first. A date or time is looked for in the node
itself, even if its text is that of a key. -/
def make (n : Nat) : Build Nat := do
  match (← get).made.find? (·.1 == n) with
  | some entry => return entry.2
  | none =>
    let node ← nodeAt n
    match node.tag with
    | .seq => addUnfilled n (.list [])
    | .omap => addUnfilled n (.pairs [])
    | .pairs => addUnfilled n (.pairs [])
    | .set => addUnfilled n (.set [])
    | .map => addUnfilled n (.map [])
    | .merge => throw .malformed
    | .value => throw .malformed
    | .unknown => throw .malformed
    | _ =>
      let text ← scalarText (← get).limits.deferred n
      if node.tag = .timestamp ∧ node.isMapping then throw .timestampOfMapping
      addScalar n node.tag text

/-- The entries of a node that must be a mapping. -/
def entriesOf (n : Nat) : Build (List (Nat × Nat)) := do
  match (← nodeAt n).content with
  | .mapping entries => return entries
  | _ => throw .malformed

/-- The entries of a mapping node are replaced. -/
def setEntries (n : Nat) (entries : List (Nat × Nat)) : Build Unit :=
  modify fun b =>
    { b with nodes := b.nodes.modify n fun node => { node with content := .mapping entries } }

/-- A key that stands for its mapping is a text inside a mapping that is read as such. -/
def settleKey (n : Nat) : Build Unit :=
  modify fun b => { b with nodes := b.nodes.modify n fun node =>
    if node.tag = .value then { node with tag := .str } else node }

/-- Whether a key merges a node into its mapping. -/
def isMerge (nodes : Array Node) (key : Nat) : Bool := (nodes[key]?).any (·.tag == .merge)

/-- The entries of a mapping node that is flattened first. -/
def flattened (flatten : Nat → Build Unit) (n : Nat) : Build (List (Nat × Nat)) := do
  let _ ← entriesOf n
  flatten n
  entriesOf n

/-- The entries that a merged node gives: those of a mapping, or of a sequence of mappings, the
last one first. -/
def merged (flatten : Nat → Build Unit) (n : Nat) : Build (List (Nat × Nat)) := do
  match (← nodeAt n).content with
  | .scalar _ => throw .malformed
  | .mapping _ => flattened flatten n
  | .sequence items =>
    let groups ← items.mapM (flattened flatten)
    return groups.reverse.flatten

/-- The entries that the merges of a mapping give. Each merge is taken out of the mapping before the
merged node is looked at, which may be the mapping itself. -/
def given (flatten : Nat → Build Unit) (n : Nat) : (merges : Nat) → Build (List (Nat × Nat))
  | 0 => throw .outOfSteps
  | merges + 1 => do
    let nodes := (← get).nodes
    match (← entriesOf n).span fun entry => !isMerge nodes entry.1 with
    | (_, []) => return []
    | (before, merge :: behind) =>
      setEntries n (before ++ behind)
      let entries ← merged flatten merge.2
      return entries ++ (← given flatten n merges)

/-- A mapping's merged entries are put in front of its own. Mappings that are merged into others are
followed for some levels only. -/
def flatten : (levels : Nat) → Nat → Build Unit
  | 0, _ => throw .tooDeep
  | levels + 1, n => do
    let entries ← given (flatten levels) n ((← entriesOf n).length + 1)
    let own ← entriesOf n
    own.forM fun entry => settleKey entry.1
    setEntries n (entries ++ own)

/-- The value of an item that can be a key; collections cannot. -/
def keyValue? (i : Nat) : Build (Option Value) := do
  match (← get).items[i]? with
  | some (.scalar v) => return some v
  | _ => return none

/-- Whether two items are the same key. -/
def sameKey (items : Array Item) (i j : Nat) : Bool :=
  i == j ||
    match items[i]?, items[j]? with
    | some (.scalar a), some (.scalar b) => a.sameKey b
    | _, _ => false

/-- The entries with one more, which replaces the value of an entry with the same key. -/
def insert (items : Array Item) (key value : Nat) : List (Nat × Nat) → List (Nat × Nat)
  | [] => [(key, value)]
  | (k, v) :: rest =>
    if sameKey items k key then (k, value) :: rest else (k, v) :: insert items key value rest

/-- The items of a mapping's entries, one by one, keys being told apart by value. -/
def makeEntries (entries : List (Nat × Nat)) : Build (List (Nat × Nat)) :=
  entries.foldlM (fun made entry => do
    let key ← make entry.1
    if (← keyValue? key).isNone then throw .malformed
    let value ← make entry.2
    return insert (← get).items key value made) []

/-- The items of the single entries of a sequence of mappings. -/
def makePairs (mappings : List Nat) : Build (List (Nat × Nat)) :=
  mappings.mapM fun n => do
    match ← entriesOf n with
    | [(k, v)] =>
      let key ← make k
      let value ← make v
      return (key, value)
    | _ => throw .malformed

/-- The items of a mapping after merging. -/
def makeMapping (n : Nat) : Build (List (Nat × Nat)) := do
  makeEntries (← flattened (flatten (← get).limits.merged) n)

/-- The items of a node that must be a sequence. -/
def itemsOf (n : Nat) : Build (List Nat) := do
  match (← nodeAt n).content with
  | .sequence items => return items
  | _ => throw .malformed

/-- The members of a set in the order in which it lists them. -/
def arranged (members : List Nat) : Build (List Nat) := do
  let valued ← members.mapM fun i => do return (i, (← keyValue? i).getD .null)
  return Arrangement.arrange valued

/-- A collection is filled. -/
def fill (n i : Nat) : Build Unit := do
  let filled ← match (← nodeAt n).tag with
    | .seq => pure (Item.list (← (← itemsOf n).mapM make))
    | .map => pure (Item.map (← makeMapping n))
    | .set => pure (Item.set (← arranged ((← makeMapping n).map (·.1))))
    | _ => pure (Item.pairs (← makePairs (← itemsOf n)))
  modify fun b => { b with items := b.items.setIfInBounds i filled }

/-- All collections are filled, those met on the way included. -/
def fillAll : (fuel : Nat) → Build Unit
  | 0 => throw .outOfSteps
  | fuel + 1 => do
    match (← get).unfilled with
    | [] => return
    | (n, i) :: rest =>
      modify fun b => { b with unfilled := rest }
      fill n i
      fillAll fuel

end DocumentBuilder

namespace Document

/-- The document of a graph with a root, within some limits. -/
def ofNodes (limits : Limits) (nodes : Array Node) (root : Nat) : Except Fault Document :=
  let build : DocumentBuilder.Build Nat := do
    let i ← DocumentBuilder.make root
    DocumentBuilder.fillAll (nodes.size + 1)
    return i
  match build.run { limits, nodes } with
  | .ok (i, b) => .ok ⟨b.items, i⟩
  | .error fault => .error fault

/-- The document of a text, if the text has one, within some limits. -/
def ofText (limits : Limits) (text : Text) : Except Fault (Option Document) :=
  match NodeGraph.ofText limits.nested text with
  | .error fault => .error fault
  | .ok ⟨_, none⟩ => .ok none
  | .ok ⟨nodes, some root⟩ => (ofNodes limits nodes root).map some

/-- The value of an item inside collections that are being shown. -/
def valueInside (d : Document) : (fuel : Nat) → (around : List Nat) → Nat → Value
  | 0, _, _ => .null
  | fuel + 1, around, i =>
    let inner := valueInside d fuel (i :: around)
    match d.items[i]? with
    | none => .null
    | some (.scalar v) => v
    | some (.list items) =>
      if around.contains i then .again .list else .list (items.map inner)
    | some (.pairs entries) =>
      if around.contains i then .again .list
      else .list (entries.map fun e => .pair (inner e.1) (inner e.2))
    | some (.set members) => .set (members.map inner)
    | some (.map entries) =>
      if around.contains i then .again .map
      else .map (entries.map fun e => (inner e.1, inner e.2))

/-- The value of an item. -/
def value (d : Document) (i : Nat) : Value := valueInside d (d.items.size + 1) [] i

/-- The entries of an item that is a mapping: the values of the keys, and the items there. -/
def entries? (d : Document) (i : Nat) : Option (List (Value × Nat)) :=
  match d.items[i]? with
  | some (.map entries) => some (entries.map fun e => (d.value e.1, e.2))
  | _ => none

end Document

/-! ### Readers -/

/-- How YAML texts are read where a program runs. -/
class Reader where
  /-- The document of a text, if the text has one. -/
  read : Text → Except Fault (Option Document)

/-- The reader that is described here, within some limits. -/
@[reducible] def Reader.within (limits : Limits) : Reader where
  read := Document.ofText limits

/-- The limits as a rule, in a program that has little else to follow. -/
def Limits.usual : Limits where
  nested := 491
  merged := 987
  deferred := 983

/-- As a rule texts are read by this reader within the usual limits. -/
instance Reader.usual : Reader := .within .usual

end Yaml
end AmberTools
