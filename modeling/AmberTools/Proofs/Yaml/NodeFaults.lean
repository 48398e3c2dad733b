import AmberTools.Proofs.Yaml.Safe
import AmberTools.Yaml.Node

/-!
# Faults of nodes

Nodes are read from tokens by functions that call one another. Whichever of them is at work, it can
fail in four ways only: the tokens do not fit, nodes are too deep in one another, there are no more
steps, or there are no more tokens, since reading them has stopped at a fault.

## Main definitions

* `Yaml.NodeBuilder.NodeFault`: the faults of reading nodes.
* `Yaml.NodeBuilder.FailsOnly`: a step that fails in these ways only.
* `Yaml.NodeBuilder.NodesFailOnly`: all readers of nodes with some fuel do.

## Main results

* `Yaml.NodeBuilder.nodesFailOnly`: they do with any fuel.
* `Yaml.NodeGraph.ofText_eq_error`: why a text has no graph of nodes.
-/

namespace AmberTools
namespace Yaml
namespace NodeBuilder

variable {α β : Type} {last : Fault} {x : Build α} {f : α → Build β}

/-- The faults of reading nodes: the tokens do not fit, nodes are too deep, there are no more steps,
or there are no more tokens, and behind them is a fault. -/
inductive NodeFault (last : Fault) : Fault → Prop
  | malformed : NodeFault last .malformed
  | tooDeep : NodeFault last .tooDeep
  | outOfSteps : NodeFault last .outOfSteps
  | last : NodeFault last last

/-- A step that can fail only with a fault of reading nodes. -/
def FailsOnly (last : Fault) (x : Build α) : Prop :=
  Safe (fun b => b.fault = last) (NodeFault last) x fun _ => True

namespace FailsOnly

theorem pure (a : α) : FailsOnly last (Pure.pure a) := Safe.pure trivial

theorem malformed : FailsOnly last (throw .malformed : Build α) := Safe.throw .malformed

theorem outOfSteps : FailsOnly last (throw .outOfSteps : Build α) := Safe.throw .outOfSteps

theorem bind (hx : FailsOnly last x) (hf : ∀ a, FailsOnly last (f a)) : FailsOnly last (x >>= f) :=
  Safe.bind hx fun a _ => hf a

theorem get : FailsOnly last MonadState.get := Safe.get.mono fun _ _ => trivial

theorem modify {g : NodeBuilder → NodeBuilder} (h : ∀ b, (g b).fault = b.fault) :
    FailsOnly last (modify g) :=
  Safe.modify fun b hb => (h b).trans hb

theorem ite {c : Prop} [Decidable c] {y : Build α} (hx : FailsOnly last x)
    (hy : FailsOnly last y) : FailsOnly last (if c then x else y) := by
  split
  · exact hx
  · exact hy

/-- A step that is taken only under a condition, with the same to follow. -/
theorem optional {c : Prop} [Decidable c] {y : Build Unit} {rest : Build α}
    (hy : FailsOnly last y) (hrest : FailsOnly last rest) :
    FailsOnly last (if c then (do y; rest) else rest) := .ite (.bind hy fun _ => hrest) hrest

/-- One of two steps, with the same to follow. -/
theorem iteBind {c : Prop} [Decidable c] {y : Build α} (hx : FailsOnly last x)
    (hy : FailsOnly last y) (hf : ∀ a, FailsOnly last (f a)) :
    FailsOnly last (if c then x >>= f else y >>= f) := .ite (.bind hx hf) (.bind hy hf)

end FailsOnly

theorem failsOnly_peek : FailsOnly last peek := by
  refine Safe.bind Safe.get fun b hb => ?_
  split
  · exact Safe.pure trivial
  · exact Safe.bind Safe.get fun b hb => Safe.throw (hb ▸ .last)

theorem failsOnly_skip : FailsOnly last skip := .modify fun _ => rfl

theorem failsOnly_accept (t : Token) : FailsOnly last (accept t) := by
  refine .bind failsOnly_peek fun next => ?_
  split
  · exact .bind failsOnly_skip fun _ => .pure _
  · exact .pure _

theorem failsOnly_expect (t : Token) : FailsOnly last (expect t) := by
  refine .bind (failsOnly_accept t) fun accepted => ?_
  cases accepted
  · exact .malformed
  · exact .pure _

theorem failsOnly_add (node : Node) : FailsOnly last (add node) :=
  Safe.bind Safe.get fun _ hb => Safe.bind (Safe.set hb) fun _ _ => Safe.pure trivial

theorem failsOnly_addEmpty : FailsOnly last addEmpty := failsOnly_add _

theorem failsOnly_complete (n : Nat) (content : NodeContent) :
    FailsOnly last (complete n content) := .modify fun _ => rfl

theorem failsOnly_fullTag (handle : Option Text) (suffix : Text) :
    FailsOnly last (fullTag handle suffix) := by
  unfold fullTag
  split
  · exact .pure _
  · refine .bind .get fun b => ?_
    split
    · exact .pure _
    · exact .malformed

theorem failsOnly_anchor? : FailsOnly last anchor? := by
  refine .bind failsOnly_peek fun next => ?_
  split
  · exact .bind failsOnly_skip fun _ => .pure _
  · exact .pure _

theorem failsOnly_tag? : FailsOnly last tag? := by
  refine .bind failsOnly_peek fun next => ?_
  split
  · exact .bind failsOnly_skip fun _ => .pure _
  · exact .pure _

theorem failsOnly_properties : FailsOnly last properties := by
  refine .bind failsOnly_anchor? fun before => .bind failsOnly_tag? fun written => ?_
  -- the anchor may also stand behind the tag
  refine .ite (.bind failsOnly_anchor? fun anchor => ?_) (.bind (.pure before) fun anchor => ?_)
  all_goals
    split
    · exact .bind (failsOnly_fullTag _ _) fun _ => .pure _
    · exact .pure _

theorem failsOnly_name (anchor : Option Text) (n : Nat) : FailsOnly last (name anchor n) := by
  unfold name
  split
  · exact .pure _
  · exact .bind .get fun b => .optional .malformed (.modify fun _ => rfl)

theorem failsOnly_aliased (name : Text) : FailsOnly last (aliased name) := by
  refine .bind .get fun b => ?_
  split
  · exact .pure _
  · exact .malformed

theorem failsOnly_start (anchor : Option Text) (tag : Tag) (content : NodeContent) :
    FailsOnly last (start anchor tag content) :=
  .bind (failsOnly_add _) fun n => .bind (failsOnly_name anchor n) fun _ => .pure _

theorem failsOnly_enter (depth : Nat) : FailsOnly last (enter depth) :=
  .bind .get fun _ => .ite (Safe.throw .tooDeep) (.pure _)

/-! ### Nodes -/

/-- The readers of nodes and collections with some fuel. -/
structure NodesFailOnly (last : Fault) (fuel : Nat) : Prop where
  node : ∀ block indentless depth, FailsOnly last (node block indentless depth fuel)
  blockItems : ∀ depth, FailsOnly last (blockItems depth fuel)
  indentlessItems : ∀ depth, FailsOnly last (indentlessItems depth fuel)
  blockEntries : ∀ depth, FailsOnly last (blockEntries depth fuel)
  flowItems : ∀ first depth, FailsOnly last (flowItems first depth fuel)
  flowEntries : ∀ first depth, FailsOnly last (flowEntries first depth fuel)

/-- A node whose collection is read behind its start. -/
theorem failsOnly_collection {γ : Type} {items : Build γ} (hitems : FailsOnly last items)
    (content : γ → NodeContent) (anchor : Option Text) (tag : Tag) (empty : NodeContent) :
    FailsOnly last (do
      let n ← start anchor tag empty
      complete n (content (← items))
      return n) :=
  .bind (failsOnly_start _ _ _) fun _ => .bind hitems fun _ =>
    .bind (failsOnly_complete _ _) fun _ => .pure _

/-- One more member in front of those that are still to be read. -/
theorem failsOnly_cons {γ : Type} {members : Build (List γ)} (h : FailsOnly last members)
    (member : γ) : FailsOnly last (do return member :: (← members)) := .bind h fun _ => .pure _

/-- The value of an entry, which may be left out, and what follows it. -/
theorem failsOnly_value {γ : Type} {rest : Nat → Build γ} {value : Build Nat} (ends : Token → Bool)
    (hvalue : FailsOnly last value) (hrest : ∀ n, FailsOnly last (rest n)) :
    FailsOnly last (do
      if ← accept .value then
        let next ← peek
        if ends next then addEmpty >>= rest else value >>= rest
      else addEmpty >>= rest) :=
  .bind (failsOnly_accept _) fun _ =>
    .ite (.bind failsOnly_peek fun _ => .iteBind failsOnly_addEmpty hvalue hrest)
      (.bind failsOnly_addEmpty hrest)

section Succ

variable {fuel : Nat} (h : NodesFailOnly last fuel)
include h

theorem failsOnly_node (block indentless : Bool) (depth : Nat) :
    FailsOnly last (node block indentless depth (fuel + 1)) := by
  rw [node]
  refine .bind (failsOnly_enter depth) fun _ => .bind failsOnly_peek fun next => ?_
  split
  · exact .bind failsOnly_skip fun _ => failsOnly_aliased _
  · refine .bind failsOnly_properties fun properties => .bind failsOnly_peek fun next => ?_
    split
    · exact .bind failsOnly_skip fun _ => failsOnly_start _ _ _
    · exact .bind failsOnly_skip fun _ => failsOnly_collection (h.flowItems _ _) _ _ _ _
    · exact .bind failsOnly_skip fun _ => failsOnly_collection (h.flowEntries _ _) _ _ _ _
    · refine .ite (failsOnly_collection (h.indentlessItems _) _ _ _ _) ?_
      refine .ite (.bind failsOnly_skip fun _ =>
        failsOnly_collection (h.blockItems _) _ _ _ _) ?_
      refine .ite (.bind failsOnly_skip fun _ =>
        failsOnly_collection (h.blockEntries _) _ _ _ _) ?_
      exact .ite (failsOnly_start _ _ _) .malformed

theorem failsOnly_blockItems (depth : Nat) : FailsOnly last (blockItems depth (fuel + 1)) := by
  rw [blockItems]
  refine .bind (failsOnly_accept _) fun _ => .ite (.bind failsOnly_peek fun next => ?_) ?_
  · exact .iteBind failsOnly_addEmpty (h.node _ _ _) (failsOnly_cons (h.blockItems depth))
  · exact .bind (failsOnly_expect _) fun _ => .pure _

theorem failsOnly_indentlessItems (depth : Nat) :
    FailsOnly last (indentlessItems depth (fuel + 1)) := by
  rw [indentlessItems]
  refine .bind (failsOnly_accept _) fun _ => .ite (.bind failsOnly_peek fun next => ?_) (.pure _)
  exact .iteBind failsOnly_addEmpty (h.node _ _ _) (failsOnly_cons (h.indentlessItems depth))

theorem failsOnly_blockEntries (depth : Nat) : FailsOnly last (blockEntries depth (fuel + 1)) := by
  rw [blockEntries]
  refine .bind (failsOnly_accept _) fun _ => .ite ?_ (.bind (failsOnly_expect _) fun _ => .pure _)
  refine .bind failsOnly_peek fun next => .iteBind failsOnly_addEmpty (h.node _ _ _) fun key => ?_
  exact failsOnly_value endsBlockValue (h.node _ _ _) fun value =>
    failsOnly_cons (h.blockEntries depth) (key, value)

theorem failsOnly_flowItems (first : Bool) (depth : Nat) :
    FailsOnly last (flowItems first depth (fuel + 1)) := by
  rw [flowItems]
  have hrest := h.flowItems false depth
  refine .bind (failsOnly_accept _) fun _ => .ite (.pure _) ?_
  refine .optional (failsOnly_expect _) (.bind failsOnly_peek fun next => .ite ?_ (.ite ?_ ?_))
  · exact .bind failsOnly_skip fun _ => .pure _
  · -- a key makes a mapping of one entry
    refine .bind failsOnly_skip fun _ => .bind (failsOnly_enter _) fun _ => ?_
    refine .bind (failsOnly_add _) fun n => .bind failsOnly_peek fun next => ?_
    refine .iteBind failsOnly_addEmpty (h.node _ _ _) fun key => ?_
    refine failsOnly_value (fun next => next == .flowEntry || next == .flowSequenceEnd)
      (h.node _ _ _) fun value => ?_
    exact .bind (failsOnly_complete _ _) fun _ => failsOnly_cons hrest n
  · exact .bind (h.node _ _ _) (failsOnly_cons hrest)

theorem failsOnly_flowEntries (first : Bool) (depth : Nat) :
    FailsOnly last (flowEntries first depth (fuel + 1)) := by
  rw [flowEntries]
  have hrest := h.flowEntries false depth
  refine .bind (failsOnly_accept _) fun _ => .ite (.pure _) ?_
  refine .optional (failsOnly_expect _) (.bind failsOnly_peek fun next => .ite ?_ (.ite ?_ ?_))
  · exact .bind failsOnly_skip fun _ => .pure _
  · refine .bind failsOnly_skip fun _ => .bind failsOnly_peek fun next => ?_
    refine .iteBind failsOnly_addEmpty (h.node _ _ _) fun key => ?_
    exact failsOnly_value (fun next => next == .flowEntry || next == .flowMappingEnd)
      (h.node _ _ _) fun value => failsOnly_cons hrest (key, value)
  · exact .bind (h.node _ _ _) fun key => .bind failsOnly_addEmpty fun value =>
      failsOnly_cons hrest (key, value)

end Succ

/-- The readers of nodes fail only in these ways, whatever the fuel. -/
theorem nodesFailOnly (last : Fault) (fuel : Nat) : NodesFailOnly last fuel := by
  induction fuel with
  | zero => exact ⟨fun _ _ _ => .outOfSteps, fun _ => .outOfSteps, fun _ => .outOfSteps,
      fun _ => .outOfSteps, fun _ _ => .outOfSteps, fun _ _ => .outOfSteps⟩
  | succ fuel ih => exact ⟨failsOnly_node ih, failsOnly_blockItems ih, failsOnly_indentlessItems ih,
      failsOnly_blockEntries ih, failsOnly_flowItems ih, failsOnly_flowEntries ih⟩

/-! ### Documents -/

theorem failsOnly_directives (fuel : Nat) (versionSeen : Bool) :
    FailsOnly last (directives fuel versionSeen) := by
  induction fuel generalizing versionSeen with
  | zero => exact .outOfSteps
  | succ fuel ih =>
    rw [directives]
    refine .bind failsOnly_peek fun next => ?_
    split
    · refine .bind failsOnly_skip fun _ => ?_
      split
      · exact .optional .malformed (ih true)
      · refine Safe.bind Safe.get fun b hb => ?_
        exact FailsOnly.optional .malformed (Safe.bind (Safe.set hb) fun _ _ => ih versionSeen)
      · exact ih versionSeen
    · exact .pure _

theorem failsOnly_announced (fuel : Nat) : FailsOnly last (announced fuel) := by
  refine .bind (failsOnly_directives _ _) fun _ => .bind (.modify fun _ => rfl) fun _ => ?_
  refine .bind (failsOnly_expect _) fun _ => .bind failsOnly_peek fun next => ?_
  split
  · exact failsOnly_addEmpty
  · exact failsOnly_addEmpty
  · exact failsOnly_addEmpty
  · exact failsOnly_addEmpty
  · exact (nodesFailOnly last fuel).node _ _ _

theorem failsOnly_documentEnds (fuel : Nat) : FailsOnly last (documentEnds fuel) := by
  induction fuel with
  | zero => exact .outOfSteps
  | succ fuel ih => exact .bind (failsOnly_accept _) fun _ => .ite ih (.pure _)

theorem failsOnly_anotherDocument (fuel : Nat) : FailsOnly last (anotherDocument fuel) :=
  .bind (.modify fun _ => rfl) fun _ => .bind (failsOnly_directives _ _) fun _ =>
    .bind failsOnly_peek fun _ => .malformed

theorem failsOnly_document (fuel : Nat) : FailsOnly last (document fuel) := by
  refine .bind failsOnly_peek fun first => ?_
  have hrest (root : Nat) : FailsOnly last (do
      documentEnds fuel
      if !(← accept .streamEnd) then anotherDocument fuel
      return some root) :=
    .bind (failsOnly_documentEnds _) fun _ => .bind (failsOnly_accept _) fun _ =>
      .optional (failsOnly_anotherDocument _) (.pure _)
  split
  · exact .pure _
  · dsimp only
    split
    · exact .bind (failsOnly_announced _) hrest
    · exact .bind (failsOnly_announced _) hrest
    · exact .bind (.modify fun _ => rfl) fun _ =>
        .bind ((nodesFailOnly last fuel).node _ _ _) hrest

end NodeBuilder

/-- A graph of nodes fails to come from a text that is malformed, has nodes too deep in one another,
or has a token that cannot be read, or because there are no more steps. -/
theorem NodeGraph.ofText_eq_error {deepest : Nat} {text : Text} {fault : Fault}
    (h : NodeGraph.ofText deepest text = .error fault) :
    fault = .malformed ∨ fault = .tooDeep ∨ fault = .outOfSteps ∨
      (tokensOf text).2 = some fault := by
  unfold NodeGraph.ofText at h
  split at h
  · exact .inl (Except.error.inj h).symm
  · have hsteps : NodeBuilder.FailsOnly ((tokensOf text).2.getD .malformed)
        (NodeBuilder.document (2 * (tokensOf text).1.length + 8)) :=
      NodeBuilder.failsOnly_document _
    have hdocument := hsteps
      { tokens := (tokensOf text).1, fault := (tokensOf text).2.getD .malformed, deepest } rfl
    dsimp only [StateT.run] at h
    split at h
    · exact nomatch h
    · rename_i hfault
      obtain rfl := Except.error.inj h
      rw [hfault] at hdocument
      cases hdocument with
      | malformed => exact .inl rfl
      | tooDeep => exact .inr (.inl rfl)
      | outOfSteps => exact .inr (.inr (.inl rfl))
      | last =>
        cases (tokensOf text).2 with
        | none => exact .inl rfl
        | some stopped => exact .inr (.inr (.inr rfl))

end Yaml
end AmberTools
