import AmberTools.Proofs.Text.Feeds

/-!
# Unified line breaks

Unifying the line breaks of a text writes each of them as a line feed. It changes the terminators
of lines and nothing else: no line is split, joined or altered by it, and a text without carriage
returns stays as it is.

## Main results

* `Text.linePieces_unifyBreaks`: the pieces of a text whose line breaks have been unified.
* `Text.unifyBreaks_eq_self_iff`: the texts that have nothing to unify.
* `Text.map_unifyBreaks_terminators_eq_self_iff`: the texts whose terminators stay.
-/

namespace AmberTools
namespace Text

/-- A carriage return on its own is a line break. -/
theorem unifyBreaks_return {rest : Text} (h : rest.head? ≠ some '\n') :
    unifyBreaks ('\r' :: rest) = '\n' :: unifyBreaks rest := by
  rw [unifyBreaks]
  rintro tail rfl
  exact h rfl

theorem unifyBreaks_cons {c : Char} (hr : c ≠ '\r') (rest : Text) :
    unifyBreaks (c :: rest) = c :: unifyBreaks rest := by
  rw [unifyBreaks]
  · rintro tail rfl
    exact absurd rfl hr
  · exact hr

/-- The lines stay, and the terminator of each is unified on its own. -/
theorem linePieces_unifyBreaks (text : Text) :
    linePieces (unifyBreaks text) =
      (linePieces text).map fun piece => (piece.1, unifyBreaks piece.2) := by
  fun_induction linePieces text with
  | case1 => rfl
  | case2 rest ih => simp [unifyBreaks, linePieces, ih]
  | case3 rest hfeed ih =>
    have hhead : rest.head? ≠ some '\n' := by
      intro h
      obtain ⟨tail, rfl⟩ := List.head?_eq_some_iff.mp h
      exact hfeed tail rfl
    simp [unifyBreaks_return hhead, unifyBreaks, linePieces, ih]
  | case4 rest ih => simp [unifyBreaks, linePieces, ih]
  | case5 c rest _ hr hn heq ih =>
    rw [unifyBreaks_cons hr, linePieces_cons hr hn, ih, heq]
    rfl
  | case6 c rest _ hr hn line terminator pieces heq ih =>
    rw [unifyBreaks_cons hr, linePieces_cons hr hn, ih, heq]
    rfl

theorem unifyBreaks_eq_joined (text : Text) :
    unifyBreaks text =
      joined ((linePieces text).map fun piece => (piece.1, unifyBreaks piece.2)) := by
  rw [← linePieces_unifyBreaks, joined_linePieces]

/-- The carriage returns of a text are those of its terminators. -/
theorem return_mem_iff {text : Text} :
    '\r' ∈ text ↔ ∃ terminator ∈ (linePieces text).map Prod.snd, '\r' ∈ terminator := by
  constructor
  · intro h
    by_contra hnone
    refine absurd h ?_
    rw [← joined_linePieces text]
    refine (terminated_linePieces text).return_notMem_joined fun terminator hmem hreturn => ?_
    exact hnone ⟨terminator, hmem, hreturn⟩
  · rintro ⟨terminator, hmem, hreturn⟩
    by_contra hnone
    exact return_notMem_terminator hnone terminator hmem hreturn

/-- Unifying line breaks changes a text if and only if it has a carriage return. -/
theorem unifyBreaks_eq_self_iff {text : Text} : unifyBreaks text = text ↔ '\r' ∉ text := by
  constructor
  · intro h
    rw [← h]
    exact return_notMem_unifyBreaks text
  · exact unifyBreaks_eq_self

/-- All terminators stay if and only if there is no carriage return anywhere. -/
theorem map_unifyBreaks_terminators_eq_self_iff {text : Text} :
    ((linePieces text).map Prod.snd).map unifyBreaks = (linePieces text).map Prod.snd ↔
      '\r' ∉ text := by
  have hself : ((linePieces text).map Prod.snd).map unifyBreaks = (linePieces text).map Prod.snd ↔
      ∀ terminator ∈ (linePieces text).map Prod.snd, unifyBreaks terminator = terminator := by
    simpa using List.map_eq_map_iff (f := unifyBreaks) (g := id)
      (l := (linePieces text).map Prod.snd)
  rw [hself, return_mem_iff, not_exists]
  simp only [not_and]
  exact forall₂_congr fun _ _ => unifyBreaks_eq_self_iff

end Text
end AmberTools
