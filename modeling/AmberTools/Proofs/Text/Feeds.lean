import AmberTools.Proofs.Text.Settled

/-!
# Lines by their line feeds

A stream of text ends its lines at line feeds only, and keeps them. That makes a difference where
a carriage return stands alone. If every carriage return has a line feed right behind it, a text
is cut behind its line feeds into just its lines with their terminators. A text in which line
breaks have been unified has no carriage returns at all.

## Main definitions

* `Text.ReturnsFed`: texts without a carriage return that stands alone.

## Main results

* `Text.cutAfterFeeds_eq_map_full`: line feeds end the lines of such a text.
* `Text.return_notMem_unifyBreaks`: unified line breaks are line feeds.
-/

namespace AmberTools
namespace Text

/-- Every carriage return is directly followed by a line feed. -/
def ReturnsFed (text : Text) : Prop := ∀ i, text[i]? = some '\r' → text[i + 1]? = some '\n'

/-- Only what stands right behind a carriage return matters. -/
theorem returnsFed_cons_iff {c : Char} {rest : Text} :
    ReturnsFed (c :: rest) ↔ (c = '\r' → rest.head? = some '\n') ∧ ReturnsFed rest := by
  constructor
  · intro h
    refine ⟨?_, fun i => h (i + 1)⟩
    rintro rfl
    simpa [List.head?_eq_getElem?] using h 0 rfl
  · rintro ⟨hhead, hrest⟩ i hi
    cases i with
    | zero => simpa [List.head?_eq_getElem?] using hhead (by simpa using hi)
    | succ i => exact hrest i hi

instance decidableReturnsFed : (text : Text) → Decidable (ReturnsFed text)
  | [] => isTrue nofun
  | c :: rest =>
    have := decidableReturnsFed rest
    decidable_of_iff ((c = '\r' → rest.head? = some '\n') ∧ ReturnsFed rest)
      returnsFed_cons_iff.symm

theorem returnsFed_of_notMem {text : Text} (h : '\r' ∉ text) : ReturnsFed text :=
  fun _ hi => absurd (List.mem_of_getElem? hi) h

/-- A character other than a line feed joins what follows it. -/
theorem cutAfterFeeds_cons {c : Char} (hn : c ≠ '\n') (rest : Text) :
    cutAfterFeeds (c :: rest) =
      match cutAfterFeeds rest with
      | [] => [[c]]
      | piece :: pieces => (c :: piece) :: pieces := by
  rw [cutAfterFeeds.eq_def]
  split
  · contradiction
  · rename_i heq
    exact absurd (List.cons.inj heq).1 hn
  · rename_i heq
    obtain ⟨rfl, rfl⟩ := List.cons.inj heq
    rfl

/-- Where no carriage return stands alone, a text is cut behind its line feeds into its pieces. -/
theorem cutAfterFeeds_eq {text : Text} (h : ReturnsFed text) :
    cutAfterFeeds text = (linePieces text).map fun piece => piece.1 ++ piece.2 := by
  fun_induction linePieces text with
  | case1 => rfl
  | case2 rest ih =>
    rw [returnsFed_cons_iff, returnsFed_cons_iff] at h
    simp [cutAfterFeeds, ih h.2.2]
  | case3 rest hfeed ih =>
    obtain ⟨tail, rfl⟩ := List.head?_eq_some_iff.mp ((returnsFed_cons_iff.mp h).1 rfl)
    exact absurd rfl (hfeed tail)
  | case4 rest ih =>
    rw [returnsFed_cons_iff] at h
    simp [cutAfterFeeds, ih h.2]
  | case5 c rest _ hr hn heq ih =>
    rw [returnsFed_cons_iff] at h
    rw [cutAfterFeeds_cons hn, ih h.2, heq]
    rfl
  | case6 c rest _ hr hn line terminator pieces heq ih =>
    rw [returnsFed_cons_iff] at h
    rw [cutAfterFeeds_cons hn, ih h.2, heq]
    rfl

theorem map_full_splitLines (text : Text) :
    (splitLines text).map SourceLine.full =
      (linePieces text).map fun piece => piece.1 ++ piece.2 := by
  rw [← map_splitLines, List.map_map]
  rfl

/-- Where no carriage return stands alone, line feeds end the lines. -/
theorem cutAfterFeeds_eq_map_full {text : Text} (h : ReturnsFed text) :
    cutAfterFeeds text = (splitLines text).map SourceLine.full := by
  rw [cutAfterFeeds_eq h, map_full_splitLines]

/-- A terminator has no characters but those of line breaks. -/
theorem Terminated.eq_of_mem_terminator {pieces : List (Text × Text)} (h : Terminated pieces) :
    ∀ piece ∈ pieces, ∀ c ∈ piece.2, c = '\r' ∨ c = '\n' := by
  induction h with
  | nil => simp
  | last _ => simp
  | cons _ hterminator _ ih =>
    rw [List.forall_mem_cons]
    refine ⟨?_, ih⟩
    simp only [breaks, List.mem_cons, List.not_mem_nil, or_false] at hterminator
    rcases hterminator with rfl | rfl | rfl <;> simp

/-- Unifying line breaks adds no characters but line feeds. -/
theorem mem_of_mem_unifyBreaks {text : Text} {c : Char} (h : c ∈ unifyBreaks text) :
    c ∈ text ∨ c = '\n' := by
  fun_induction unifyBreaks text with
  | case1 => exact .inl h
  | case2 rest ih =>
    rcases List.mem_cons.mp h with rfl | h
    · exact .inr rfl
    · exact (ih h).imp_left fun hmem => List.mem_cons_of_mem _ (List.mem_cons_of_mem _ hmem)
  | case3 rest _ ih =>
    rcases List.mem_cons.mp h with rfl | h
    · exact .inr rfl
    · exact (ih h).imp_left (List.mem_cons_of_mem _)
  | case4 d rest _ _ ih =>
    rcases List.mem_cons.mp h with rfl | h
    · exact .inl List.mem_cons_self
    · exact (ih h).imp_left (List.mem_cons_of_mem _)

/-- Unified line breaks are line feeds. -/
theorem return_notMem_unifyBreaks (text : Text) : '\r' ∉ unifyBreaks text := by
  fun_induction unifyBreaks text with
  | case1 => simp
  | case2 rest ih => simpa using ih
  | case3 rest _ ih => simpa using ih
  | case4 c rest _ hr ih => simpa [ih] using Ne.symm hr

/-- Without carriage returns there is nothing to unify. -/
theorem unifyBreaks_eq_self {text : Text} (h : '\r' ∉ text) : unifyBreaks text = text := by
  fun_induction unifyBreaks text with
  | case1 => rfl
  | case2 rest => exact absurd List.mem_cons_self h
  | case3 rest => exact absurd List.mem_cons_self h
  | case4 c rest _ _ ih => rw [ih fun hmem => h (List.mem_cons_of_mem c hmem)]

end Text
end AmberTools
