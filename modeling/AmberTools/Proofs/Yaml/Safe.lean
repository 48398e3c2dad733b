import AmberTools.Yaml.Fault

/-!
# Steps that keep an invariant

Nodes and items are made in steps with a state. What such a step can do is said by an invariant of
its states, by a condition on its results, and by a condition on its faults. Steps of this kind can
be put together.

## Main definitions

* `Yaml.Safe`: a step that keeps an invariant.

## Main results

* `Yaml.Safe.bind`, `Yaml.Safe.mapM`, `Yaml.Safe.foldlM`: steps that are put together.
-/

namespace AmberTools
namespace Yaml

variable {σ α β : Type} {I : σ → Prop} {P : Fault → Prop} {Q R : α → Prop} {S : β → Prop}
  {x : StateT σ (Except Fault) α} {f : α → StateT σ (Except Fault) β} {a : α}

/-- From states with an invariant, a step leads to states with it and to a result that satisfies a
condition, or it ends in a fault that satisfies another. -/
def Safe (I : σ → Prop) (P : Fault → Prop) (x : StateT σ (Except Fault) α) (Q : α → Prop) : Prop :=
  ∀ s, I s →
    match x s with
    | .ok (a, next) => Q a ∧ I next
    | .error fault => P fault

namespace Safe

theorem pure (h : Q a) : Safe I P (pure a) Q := fun _ hs => ⟨h, hs⟩

theorem throw {fault : Fault} (h : P fault) : Safe I P (throw fault) Q := fun _ _ => h

theorem get : Safe I P get I := fun _ hs => ⟨hs, hs⟩

theorem set {s : σ} (h : I s) : Safe I P (set s) fun _ => True := fun _ _ => ⟨trivial, h⟩

theorem modify {g : σ → σ} (h : ∀ s, I s → I (g s)) : Safe I P (modify g) fun _ => True :=
  fun s hs => ⟨trivial, h s hs⟩

theorem bind (hx : Safe I P x Q) (hf : ∀ a, Q a → Safe I P (f a) S) : Safe I P (x >>= f) S := by
  intro s hs
  have h := hx s hs
  change match (x s).bind fun read => f read.1 read.2 with
    | .ok (b, next) => S b ∧ I next
    | .error fault => P fault
  cases hstep : x s with
  | ok read =>
    rw [hstep] at h
    exact hf read.1 h.1 read.2 h.2
  | error fault =>
    rw [hstep] at h
    exact h

theorem mono (hx : Safe I P x Q) (h : ∀ a, Q a → R a) : Safe I P x R := by
  intro s hs
  have hread := hx s hs
  cases hstep : x s with
  | ok read =>
    rw [hstep] at hread
    exact ⟨h _ hread.1, hread.2⟩
  | error fault =>
    rw [hstep] at hread
    exact hread

/-- One step for each member of a list. -/
theorem mapM {g : α → StateT σ (Except Fault) β} {items : List α}
    (h : ∀ a ∈ items, Safe I P (g a) S) :
    Safe I P (items.mapM g) fun results => ∀ b ∈ results, S b := by
  induction items with
  | nil => exact pure nofun
  | cons a items ih =>
    rw [List.mapM_cons]
    refine bind (h a List.mem_cons_self) fun b hb => ?_
    refine bind (ih fun a ha => h a (List.mem_cons_of_mem _ ha)) fun results hresults => ?_
    exact pure (List.forall_mem_cons.mpr ⟨hb, hresults⟩)

/-- One step after the other, each from the result of the one before. -/
theorem foldlM {g : β → α → StateT σ (Except Fault) β} {items : List α} {b : β}
    (hb : S b) (h : ∀ b, S b → ∀ a ∈ items, Safe I P (g b a) S) :
    Safe I P (items.foldlM g b) S := by
  induction items generalizing b with
  | nil => exact pure hb
  | cons a items ih =>
    rw [List.foldlM_cons]
    refine bind (h b hb a List.mem_cons_self) fun next hnext => ih hnext fun b hb a ha => ?_
    exact h b hb a (List.mem_cons_of_mem _ ha)

end Safe
end Yaml
end AmberTools
