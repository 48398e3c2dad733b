import AmberTools.Proofs.Yaml.NodeFaults
import AmberTools.Proofs.Yaml.TokenFaults
import AmberTools.Yaml.Document

/-!
# Faults of documents

Items are made from nodes, and merging changes nodes on the way. But it changes only the entries of
mappings, and the tags of keys that stand for their mappings. So the text of a scalar is at all
times one that was read, and its tag is one that was read or is that of texts, which suits every
text. Hence making items fails only if the nodes do not fit, if the text of a scalar does not suit a
tag, if a date or time is a mapping, or if a limit is reached. Along with the faults of tokens and
of nodes, these are all faults of a text.

## Main definitions

* `Yaml.Unsuitable`: a fault of a scalar whose text does not suit a tag.
* `Yaml.DocumentFault`: the faults of making items.
* `Yaml.Document.Breaks`: why a text has no value although it is not malformed.

## Main results

* `Yaml.Document.ofNodes_eq_error`: why nodes make no document.
* `Yaml.Document.breaks_of_ofText`: why a text has none.
-/

namespace AmberTools
namespace Yaml

/-- A node as it may have become while items are made: merging replaces the entries of mappings, and
a key that stands for its mapping may have become a text. -/
def Node.From (nodes : Array Node) (node : Node) : Prop :=
  ∃ original ∈ nodes, (node.tag = original.tag ∨ node.tag = .str) ∧
    ∀ text, node.content = .scalar text → original.content = .scalar text

/-- The text of a scalar among some nodes. -/
def IsScalarText (nodes : Array Node) (text : WideText) : Prop :=
  ∃ node ∈ nodes, node.content = .scalar text

/-- A fault of a scalar's text that does not suit a tag. -/
def Unsuitable (nodes : Array Node) (fault : Fault) : Prop :=
  ∃ node ∈ nodes, ∃ text, IsScalarText nodes text ∧ Scalar.toValue node.tag text = .error fault

/-- The faults of making items: the nodes do not fit or stand too deep in themselves or in others,
there are no more steps, a date or time is a mapping, or a scalar is unsuitable. -/
inductive DocumentFault (nodes : Array Node) : Fault → Prop
  | malformed : DocumentFault nodes .malformed
  | tooDeep : DocumentFault nodes .tooDeep
  | outOfSteps : DocumentFault nodes .outOfSteps
  | timestamp {node : Node} (hnode : node ∈ nodes) (htag : node.tag = .timestamp) :
      DocumentFault nodes .timestampOfMapping
  | unsuitable {fault : Fault} (h : Unsuitable nodes fault) : DocumentFault nodes fault

namespace DocumentBuilder

variable {nodes : Array Node} {α β : Type} {Q : α → Prop} {R : β → Prop} {x : Build α}
  {f : α → Build β}

/-- A step that leaves only nodes as they may have become, fails only with a fault of making items,
and has a result that satisfies a condition. -/
abbrev Makes (nodes : Array Node) (x : Build α) (Q : α → Prop) : Prop :=
  Safe (fun b => ∀ (n : Nat) (node : Node), b.nodes[n]? = some node → node.From nodes)
    (DocumentFault nodes) x Q

/-- A step of which nothing else is known. -/
abbrev Works (nodes : Array Node) (x : Build α) : Prop := Makes nodes x fun _ => True

theorem works_pure (a : α) : Works nodes (pure a) := Safe.pure trivial

theorem makes_malformed : Makes nodes (throw .malformed : Build α) Q := Safe.throw .malformed

theorem makes_outOfSteps : Makes nodes (throw .outOfSteps : Build α) Q := Safe.throw .outOfSteps

theorem works_get : Works nodes get := Safe.get.mono fun _ _ => trivial

/-- A change that leaves the nodes alone. -/
theorem works_modify {g : DocumentBuilder → DocumentBuilder} (h : ∀ b, (g b).nodes = b.nodes) :
    Works nodes (modify g) :=
  Safe.modify fun b hb => by rwa [h]

/-- A step whose result does not matter for what follows. -/
theorem makes_after (hx : Makes nodes x Q) (hf : ∀ a, Makes nodes (f a) R) :
    Makes nodes (x >>= f) R := Safe.bind hx fun a _ => hf a

theorem works_mapM {g : β → Build α} (items : List β) (h : ∀ b, Works nodes (g b)) :
    Works nodes (items.mapM g) :=
  (Safe.mapM fun b _ => h b).mono fun _ _ => trivial

theorem works_forM {g : β → Build Unit} (items : List β) (h : ∀ b, Works nodes (g b)) :
    Works nodes (items.forM g) := by
  induction items with
  | nil => exact works_pure _
  | cons b items ih => exact makes_after (h b) fun _ => ih

/-! ### Nodes -/

/-- A change of one node. -/
theorem works_modifyNode (n : Nat) {g : Node → Node}
    (h : ∀ node, Node.From nodes node → Node.From nodes (g node)) :
    Works nodes (modify fun b => { b with nodes := b.nodes.modify n g }) := by
  refine Safe.modify fun b hb m node hnode => ?_
  rw [Array.getElem?_modify] at hnode
  split at hnode
  · obtain ⟨old, hold, rfl⟩ := Option.map_eq_some_iff.mp hnode
    exact h old (hb m old hold)
  · exact hb m node hnode

theorem works_setEntries (n : Nat) (entries : List (Nat × Nat)) :
    Works nodes (setEntries n entries) := by
  refine works_modifyNode n ?_
  rintro node ⟨original, hmem, htag, -⟩
  exact ⟨original, hmem, htag, nofun⟩

theorem works_settleKey (n : Nat) : Works nodes (settleKey n) := by
  refine works_modifyNode n ?_
  rintro node ⟨original, hmem, htag, hcontent⟩
  split
  · exact ⟨original, hmem, .inr rfl, hcontent⟩
  · exact ⟨original, hmem, htag, hcontent⟩

theorem makes_nodeAt (n : Nat) : Makes nodes (nodeAt n) (Node.From nodes) := by
  refine Safe.bind Safe.get fun b hb => ?_
  split
  · exact Safe.pure (hb n _ ‹_›)
  · exact makes_malformed

theorem works_entriesOf (n : Nat) : Works nodes (entriesOf n) := by
  refine makes_after (makes_nodeAt n) fun node => ?_
  split
  · exact works_pure _
  · exact makes_malformed

theorem works_itemsOf (n : Nat) : Works nodes (itemsOf n) := by
  refine makes_after (makes_nodeAt n) fun node => ?_
  split
  · exact works_pure _
  · exact makes_malformed

/-! ### Scalars -/

theorem makes_scalarText (deferred n : Nat) :
    Makes nodes (scalarText deferred n) (IsScalarText nodes) := by
  induction deferred generalizing n with
  | zero => exact Safe.throw .tooDeep
  | succ deferred ih =>
    rw [scalarText]
    refine Safe.bind (makes_nodeAt n) fun node hnode => ?_
    split
    · rename_i text htext
      obtain ⟨original, hmem, -, hcontent⟩ := hnode
      exact Safe.pure ⟨original, hmem, hcontent text htext⟩
    · exact makes_malformed
    · refine makes_after works_get fun b => ?_
      dsimp only
      split
      · exact ih _
      · exact makes_malformed

/-- A scalar of a node fails to be read only if it is unsuitable, since every text is one. -/
theorem unsuitable_of_toValue {node : Node} {text : WideText} {fault : Fault}
    (hnode : node.From nodes) (htext : IsScalarText nodes text)
    (h : Scalar.toValue node.tag text = .error fault) : Unsuitable nodes fault := by
  obtain ⟨original, hmem, htag | hstr, -⟩ := hnode
  · exact ⟨original, hmem, text, htext, htag ▸ h⟩
  · rw [hstr] at h
    exact nomatch h

/-- A node with the tag of dates and times has been read with it. -/
theorem timestamp_of_from {node : Node} (hnode : node.From nodes) (htag : node.tag = .timestamp) :
    DocumentFault nodes .timestampOfMapping := by
  obtain ⟨original, hmem, hsame | hstr, -⟩ := hnode
  · exact .timestamp hmem (hsame.symm.trans htag)
  · exact nomatch hstr.symm.trans htag

theorem works_add (n : Nat) (item : Item) : Works nodes (add n item) :=
  Safe.bind Safe.get fun _ hb => Safe.bind (Safe.set hb) fun _ _ => works_pure _

/-- A scalar whose text does not suit its tag is unsuitable, and every other one is added. -/
theorem works_addScalar (n : Nat) {node : Node} {text : WideText} (hnode : node.From nodes)
    (htext : IsScalarText nodes text) : Works nodes (addScalar n node.tag text) := by
  unfold addScalar
  split
  · exact works_add _ _
  · exact Safe.throw (.unsuitable (unsuitable_of_toValue hnode htext ‹_›))

theorem works_addUnfilled (n : Nat) (item : Item) : Works nodes (addUnfilled n item) := by
  refine makes_after (works_add n item) fun i => ?_
  exact makes_after (works_modify fun _ => rfl) fun _ => works_pure _

theorem works_make (n : Nat) : Works nodes (make n) := by
  refine makes_after works_get fun b => ?_
  split
  · exact works_pure _
  · refine Safe.bind (makes_nodeAt n) fun node hnode => ?_
    dsimp only
    split
    · exact works_addUnfilled _ _
    · exact works_addUnfilled _ _
    · exact works_addUnfilled _ _
    · exact works_addUnfilled _ _
    · exact works_addUnfilled _ _
    · exact makes_malformed
    · exact makes_malformed
    · exact makes_malformed
    · refine makes_after works_get fun b => Safe.bind (makes_scalarText _ n) fun text htext => ?_
      have hscalar := works_addScalar n hnode htext
      split
      · rename_i htag
        exact makes_after (Q := fun _ => True) (Safe.throw (timestamp_of_from hnode htag.1))
          fun _ => hscalar
      · exact hscalar

/-! ### Merging -/

section Merging

variable {flatten : Nat → Build Unit} (hflatten : ∀ n, Works nodes (flatten n))
include hflatten

theorem works_flattened (n : Nat) : Works nodes (flattened flatten n) := by
  refine makes_after (works_entriesOf n) fun _ => makes_after (hflatten n) fun _ => ?_
  exact works_entriesOf n

theorem works_merged (n : Nat) : Works nodes (merged flatten n) := by
  refine makes_after (makes_nodeAt n) fun node => ?_
  split
  · exact makes_malformed
  · exact works_flattened hflatten n
  · exact makes_after (works_mapM _ (works_flattened hflatten)) fun _ => works_pure _

theorem works_given (n merges : Nat) : Works nodes (given flatten n merges) := by
  induction merges with
  | zero => exact makes_outOfSteps
  | succ merges ih =>
    rw [given]
    refine makes_after works_get fun b => makes_after (works_entriesOf n) fun entries => ?_
    split
    · exact works_pure _
    · refine makes_after (works_setEntries _ _) fun _ => ?_
      refine makes_after (works_merged hflatten _) fun entries => ?_
      exact makes_after ih fun _ => works_pure _

end Merging

theorem works_flatten (levels n : Nat) : Works nodes (flatten levels n) := by
  induction levels generalizing n with
  | zero => exact Safe.throw .tooDeep
  | succ levels ih =>
    rw [flatten]
    refine makes_after (works_entriesOf n) fun _ => makes_after (works_given ih n _) fun entries => ?_
    refine makes_after (works_entriesOf n) fun own => ?_
    exact makes_after (works_forM own fun _ => works_settleKey _) fun _ => works_setEntries _ _

/-! ### Collections -/

theorem works_keyValue? (i : Nat) : Works nodes (keyValue? i) := by
  refine makes_after works_get fun b => ?_
  split
  · exact works_pure _
  · exact works_pure _

theorem works_makeEntries (entries : List (Nat × Nat)) : Works nodes (makeEntries entries) := by
  refine Safe.foldlM trivial fun made _ entry _ => ?_
  refine makes_after (works_make _) fun key => makes_after (works_keyValue? key) fun value => ?_
  have hvalue : Works nodes (do
      let value ← make entry.2
      return insert (← get).items key value made) :=
    makes_after (works_make _) fun _ => makes_after works_get fun _ => works_pure _
  dsimp only
  split
  · exact makes_after (Q := fun _ => True) makes_malformed fun _ => hvalue
  · exact hvalue

theorem works_makePairs (mappings : List Nat) : Works nodes (makePairs mappings) := by
  refine works_mapM mappings fun n => ?_
  refine makes_after (works_entriesOf n) fun entries => ?_
  split
  · exact makes_after (works_make _) fun key => makes_after (works_make _) fun _ => works_pure _
  · exact makes_malformed

theorem works_makeMapping (n : Nat) : Works nodes (makeMapping n) := by
  refine makes_after works_get fun b => ?_
  exact makes_after (works_flattened (works_flatten _) n) fun entries => works_makeEntries entries

theorem works_arranged (members : List Nat) : Works nodes (arranged members) := by
  have hvalued : ∀ i, Works nodes (do return (i, (← keyValue? i).getD .null)) := fun i =>
    makes_after (works_keyValue? i) fun _ => works_pure _
  exact makes_after (works_mapM members hvalued) fun _ => works_pure _

theorem works_fill (n i : Nat) : Works nodes (fill n i) := by
  refine makes_after (makes_nodeAt n) fun node => ?_
  have hfilled (filled : Item) :
      Works nodes (modify fun b => { b with items := b.items.setIfInBounds i filled }) :=
    works_modify fun _ => rfl
  dsimp only
  split
  · refine makes_after (works_itemsOf n) fun items => ?_
    refine makes_after (works_mapM items works_make) fun made => ?_
    exact makes_after (works_pure _) hfilled
  · exact makes_after (works_makeMapping n) fun _ => makes_after (works_pure _) hfilled
  · refine makes_after (works_makeMapping n) fun entries => ?_
    exact makes_after (works_arranged _) fun _ => makes_after (works_pure _) hfilled
  · refine makes_after (works_itemsOf n) fun mappings => ?_
    exact makes_after (works_makePairs mappings) fun _ => makes_after (works_pure _) hfilled

theorem works_fillAll (fuel : Nat) : Works nodes (fillAll fuel) := by
  induction fuel with
  | zero => exact makes_outOfSteps
  | succ fuel ih =>
    refine makes_after works_get fun b => ?_
    split
    · exact works_pure _
    · refine makes_after (works_modify fun _ => rfl) fun _ => ?_
      exact makes_after (works_fill _ _) fun _ => ih

end DocumentBuilder

/-- Items fail to come from nodes only with a fault of making them. -/
theorem Document.ofNodes_eq_error {limits : Limits} {nodes : Array Node} {root : Nat}
    {fault : Fault} (h : Document.ofNodes limits nodes root = .error fault) :
    DocumentFault nodes fault := by
  have hnodes : ∀ (n : Nat) (node : Node), nodes[n]? = some node → node.From nodes := by
    intro n node hnode
    exact ⟨node, Array.mem_of_getElem? hnode, .inl rfl, fun _ h => h⟩
  have hbuild : DocumentBuilder.Works nodes (do
      let i ← DocumentBuilder.make root
      DocumentBuilder.fillAll (nodes.size + 1)
      return i) :=
    DocumentBuilder.makes_after (DocumentBuilder.works_make root) fun _ =>
      DocumentBuilder.makes_after (DocumentBuilder.works_fillAll _) fun _ =>
        DocumentBuilder.works_pure _
  have hrun := hbuild { limits, nodes } hnodes
  unfold Document.ofNodes at h
  dsimp only [StateT.run] at h
  split at h
  · exact nomatch h
  · rename_i hfault
    obtain rfl := Except.error.inj h
    rw [hfault] at hrun
    exact hrun

/-- Texts that do not suit a type are those of truth values, integers, numbers and timestamps. All
other scalars have a value or are malformed. -/
theorem Scalar.tag_of_toValue {tag : Tag} {text : WideText} {fault : Fault}
    (h : Scalar.toValue tag text = .error fault) (hne : fault ≠ .malformed) :
    tag ∈ [Tag.bool, .int, .float, .timestamp] := by
  cases tag with
  | bool => decide
  | int => decide
  | float => decide
  | timestamp => decide
  | binary =>
    have hmalformed : Within (· = .malformed) (Scalar.toValue .binary text) := by
      simp only [Scalar.toValue, Scalar.narrowly, within_map_iff]
      split
      · unfold Scalar.toBytes
        split
        · simp
        · split <;> simp
      · simp
    exact absurd (hmalformed fault h) hne
  | null => simp [Scalar.toValue] at h
  | str => simp [Scalar.toValue] at h
  | _ => exact absurd (Except.error.inj h).symm hne

/-- Why a text has no value although it is not malformed. -/
inductive Document.Breaks (limits : Limits) (text : Text) : Fault → Prop
  /-- Reading stops at an escape or at a version that has too many digits. -/
  | token {fault : Fault} (h : (tokensOf text).2 = some fault) (hfault : TokenFault fault) :
      Breaks limits text fault
  /-- Something stands too deep in itself or in others. -/
  | tooDeep : Breaks limits text .tooDeep
  | outOfSteps : Breaks limits text .outOfSteps
  /-- A mapping has the tag of dates and times. -/
  | timestamp {nodes : Array Node} {root : Nat} {node : Node}
      (hgraph : NodeGraph.ofText limits.nested text = .ok ⟨nodes, some root⟩)
      (hnode : node ∈ nodes) (htag : node.tag = .timestamp) :
      Breaks limits text .timestampOfMapping
  /-- The text of a scalar does not suit a type. -/
  | scalar {nodes : Array Node} {root : Nat} {node : Node} {written : WideText} {fault : Fault}
      (hgraph : NodeGraph.ofText limits.nested text = .ok ⟨nodes, some root⟩)
      (hnode : node ∈ nodes) (htag : node.tag ∈ [Tag.bool, .int, .float, .timestamp])
      (hwritten : IsScalarText nodes written) (h : Scalar.toValue node.tag written = .error fault) :
      Breaks limits text fault

/-- A text that is not malformed has no document only for one of the reasons. -/
theorem Document.breaks_of_ofText {limits : Limits} {text : Text} {fault : Fault}
    (h : Document.ofText limits text = .error fault) (hne : fault ≠ .malformed) :
    Breaks limits text fault := by
  unfold Document.ofText at h
  split at h
  · rename_i hgraph
    obtain rfl := Except.error.inj h
    obtain hmalformed | rfl | rfl | htoken := NodeGraph.ofText_eq_error hgraph
    · exact absurd hmalformed hne
    · exact .tooDeep
    · exact .outOfSteps
    · exact .token htoken (tokenFault_of_tokensOf htoken)
  · exact nomatch h
  · rename_i nodes root hgraph
    cases hdocument : Document.ofNodes limits nodes root with
    | ok d =>
      rw [hdocument] at h
      exact nomatch h
    | error stopped =>
      rw [hdocument] at h
      obtain rfl := Except.error.inj h
      cases Document.ofNodes_eq_error hdocument with
      | malformed => exact absurd rfl hne
      | tooDeep => exact .tooDeep
      | outOfSteps => exact .outOfSteps
      | timestamp hnode htag => exact .timestamp hgraph hnode htag
      | unsuitable hunsuitable =>
        obtain ⟨node, hnode, written, hwritten, hvalue⟩ := hunsuitable
        exact .scalar hgraph hnode (Scalar.tag_of_toValue hvalue hne) hwritten hvalue

end Yaml
end AmberTools
