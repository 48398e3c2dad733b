import AmberTools.Proofs.Text.Cuts
import AmberTools.Text.Sgr

/-!
# Texts without colours

A colour sequence starts with an escape character and ends with the first letter behind it. So a
character that cannot be part of a sequence parts a text into two from which colours are removed
independently. Nothing but sequences is removed, and a text of which nothing is left consists of
sequences.

## Main definitions

* `Sgr.IsSequence`: single colour sequences.
* `Sgr.IsRun`: colour sequences one behind the other.

## Main results

* `Sgr.strip_eq_self`: a text without escape characters stays.
* `Sgr.strip_run_append`: a run of sequences is removed, whatever follows it.
* `Sgr.strip_append_of_starting`: colours are removed up to a character that cannot stand inside a
  sequence, and from there on.
* `Sgr.strip_append_cons`: colours are removed on both sides of a character outside sequences.
* `Sgr.strip_eq_nil_iff`: nothing is left of runs of sequences only.
-/

namespace AmberTools
namespace Sgr

/-- A colour sequence: an escape character, a bracket, parameters and the final letter. -/
def IsSequence (text : Text) : Prop :=
  ∃ parameters, (∀ c ∈ parameters, isParameter c = true) ∧
    text = escape :: '[' :: (parameters ++ ['m'])

/-- Colour sequences one behind the other. -/
def IsRun (text : Text) : Prop :=
  ∃ sequences : List Text, (∀ s ∈ sequences, IsSequence s) ∧ text = sequences.flatten

variable {c : Char} {text sequence rest : Text}

/-! ### Sequences at the start -/

theorem isParameter_final : isParameter 'm' = false := by decide

theorem afterSequence?_eq_some_iff :
    afterSequence? text = some rest ↔
      ∃ sequence, IsSequence sequence ∧ text = sequence ++ rest := by
  constructor
  · intro h
    unfold afterSequence? at h
    split at h
    · rename_i tail
      split at h
      · rename_i rest' hdrop
        obtain rfl := Option.some.inj h
        have htail : tail.takeWhile isParameter ++ 'm' :: rest' = tail := by
          rw [← hdrop, List.takeWhile_append_dropWhile]
        refine ⟨_, ⟨tail.takeWhile isParameter, fun c hc => List.mem_takeWhile_imp hc, rfl⟩, ?_⟩
        rw [List.cons_append, List.cons_append, List.append_assoc, List.singleton_append, htail]
        rfl
      · contradiction
    · contradiction
  · rintro ⟨_, ⟨parameters, hparameters, rfl⟩, rfl⟩
    have hdrop : (parameters ++ 'm' :: rest).dropWhile isParameter = 'm' :: rest :=
      Text.dropWhile_append hparameters (by simp [isParameter_final])
    simp [afterSequence?, escape, hdrop]

theorem afterSequence?_cons_of_ne (h : c ≠ escape) (rest : Text) :
    afterSequence? (c :: rest) = none := by
  unfold afterSequence?
  split
  · rename_i heq
    exact absurd (List.cons.inj heq).1 h
  · rfl

theorem strip_nil : strip [] = [] := by rw [strip]

/-- A sequence is removed, whatever follows it. -/
theorem strip_sequence_append (h : IsSequence sequence) (rest : Text) :
    strip (sequence ++ rest) = strip rest := by
  have hafter : afterSequence? (sequence ++ rest) = some rest :=
    afterSequence?_eq_some_iff.mpr ⟨sequence, h, rfl⟩
  obtain ⟨c, tail, hcons⟩ : ∃ c tail, sequence ++ rest = c :: tail := by
    obtain ⟨parameters, -, rfl⟩ := h
    exact ⟨_, _, rfl⟩
  rw [hcons] at hafter ⊢
  rw [strip]
  split
  · rename_i rest' hrest'
    rw [Option.some.inj (hafter.symm.trans hrest')]
  · rename_i hnone
    rw [hafter] at hnone
    contradiction

/-- Where no sequence starts, a character stays. -/
theorem strip_cons_of_none (h : afterSequence? (c :: rest) = none) :
    strip (c :: rest) = c :: strip rest := by
  rw [strip]
  split
  · rename_i hafter
    rw [h] at hafter
    contradiction
  · rfl

theorem strip_cons_of_ne (h : c ≠ escape) (rest : Text) : strip (c :: rest) = c :: strip rest :=
  strip_cons_of_none (afterSequence?_cons_of_ne h rest)

/-- Characters in front of all escape characters stay. -/
theorem strip_append_of_notMem {front : Text} (h : escape ∉ front) (rest : Text) :
    strip (front ++ rest) = front ++ strip rest := by
  induction front with
  | nil => rfl
  | cons c front ih =>
    rw [List.mem_cons, not_or] at h
    rw [List.cons_append, strip_cons_of_ne (Ne.symm h.1), ih h.2, List.cons_append]

/-- A text without escape characters has no colours to remove. -/
theorem strip_eq_self (h : escape ∉ text) : strip text = text := by
  have hstrip := strip_append_of_notMem h []
  rwa [List.append_nil, strip_nil, List.append_nil] at hstrip

/-! ### Characters outside sequences -/

/-- The characters of sequences. -/
def isSequenceChar (c : Char) : Bool := c == escape || c == '[' || c == 'm' || isParameter c

theorem IsSequence.isSequenceChar (h : IsSequence sequence) :
    ∀ c ∈ sequence, isSequenceChar c = true := by
  obtain ⟨parameters, hparameters, rfl⟩ := h
  intro c hc
  simp only [List.mem_cons, List.mem_append, List.not_mem_nil, or_false] at hc
  rcases hc with rfl | rfl | hc | rfl
  · rfl
  · rfl
  · simp [Sgr.isSequenceChar, hparameters c hc]
  · rfl

/-- A sequence has its escape character at the start only. -/
theorem IsSequence.escape_notMem_tail (h : IsSequence sequence) : escape ∉ sequence.tail := by
  obtain ⟨parameters, hparameters, rfl⟩ := h
  rw [List.tail_cons, List.mem_cons, List.mem_append, List.mem_singleton]
  rintro (h | h | h)
  · exact absurd h (by decide)
  · exact absurd (hparameters _ h) (by decide)
  · exact absurd h (by decide)

section Starting

-- at most the first character of a sequence
variable (hc : ∀ sequence, IsSequence sequence → c ∉ sequence.tail)
include hc

/-- A sequence does not run on over a character that cannot stand inside one. -/
theorem afterSequence?_append_cons_of_none {front : Text} (hne : front ≠ [])
    (h : afterSequence? front = none) (rest : Text) :
    afterSequence? (front ++ c :: rest) = none := by
  rw [Option.eq_none_iff_forall_ne_some]
  intro after hafter
  obtain ⟨sequence, hsequence, heq⟩ := afterSequence?_eq_some_iff.mp hafter
  have hfront : ∃ middle, front = sequence ++ middle := by
    rcases List.append_eq_append_iff.mp heq with ⟨middle, hmiddle, hrest⟩ | ⟨middle, hmiddle, -⟩
    · cases middle with
      | nil => exact ⟨[], by rw [hmiddle, List.append_nil, List.append_nil]⟩
      | cons d middle =>
        obtain ⟨rfl, -⟩ := List.cons.inj hrest
        have hmem : c ∈ sequence.tail := by
          rw [hmiddle, List.tail_append_of_ne_nil hne]
          simp
        exact absurd hmem (hc sequence hsequence)
    · exact ⟨middle, hmiddle⟩
  obtain ⟨middle, rfl⟩ := hfront
  rw [afterSequence?_eq_some_iff.mpr ⟨sequence, hsequence, rfl⟩] at h
  contradiction

/-- Colours are removed independently in front of a character that cannot stand inside a sequence,
and from there on. -/
theorem strip_append_of_starting (front rest : Text) :
    strip (front ++ c :: rest) = strip front ++ strip (c :: rest) := by
  fun_induction strip front with
  | case1 => rfl
  | case2 d front after hafter ih =>
    obtain ⟨sequence, hsequence, heq⟩ := afterSequence?_eq_some_iff.mp hafter
    rw [heq, List.append_assoc, strip_sequence_append hsequence, ih]
  | case3 d front hnone ih =>
    have hbehind := afterSequence?_append_cons_of_none hc (List.cons_ne_nil d front) hnone rest
    rw [List.cons_append] at hbehind ⊢
    rw [strip_cons_of_none hbehind, ih, List.cons_append]

end Starting

/-- Colours are removed independently on both sides of a character outside sequences. -/
theorem strip_append_cons (hc : isSequenceChar c = false) (front rest : Text) :
    strip (front ++ c :: rest) = strip front ++ c :: strip rest := by
  have hne : c ≠ escape := by
    rintro rfl
    contradiction
  have hinside (sequence : Text) (h : IsSequence sequence) : c ∉ sequence.tail := fun hmem =>
    absurd (h.isSequenceChar c (List.mem_of_mem_tail hmem)) (Bool.eq_false_iff.mp hc)
  rw [strip_append_of_starting hinside, strip_cons_of_ne hne]

/-! ### Runs of sequences -/

theorem isRun_nil : IsRun [] := ⟨[], by simp, rfl⟩

theorem IsRun.cons {run : Text} (hsequence : IsSequence sequence) (h : IsRun run) :
    IsRun (sequence ++ run) := by
  obtain ⟨sequences, hsequences, rfl⟩ := h
  exact ⟨sequence :: sequences, List.forall_mem_cons.mpr ⟨hsequence, hsequences⟩, rfl⟩

/-- A run of sequences is removed, whatever follows it. -/
theorem strip_run_append {run : Text} (h : IsRun run) (rest : Text) :
    strip (run ++ rest) = strip rest := by
  obtain ⟨sequences, hsequences, rfl⟩ := h
  induction sequences with
  | nil => rfl
  | cons sequence sequences ih =>
    obtain ⟨hsequence, hsequences⟩ := List.forall_mem_cons.mp hsequences
    rw [List.flatten_cons, List.append_assoc, strip_sequence_append hsequence, ih hsequences]

/-- Nothing is left of runs of sequences, and only of them. -/
theorem strip_eq_nil_iff : strip text = [] ↔ IsRun text := by
  constructor
  · intro h
    fun_induction strip text with
    | case1 => exact isRun_nil
    | case2 c rest after hafter ih =>
      obtain ⟨sequence, hsequence, heq⟩ := afterSequence?_eq_some_iff.mp hafter
      rw [heq]
      exact (ih h).cons hsequence
    | case3 c rest _ _ => exact absurd h (List.cons_ne_nil c _)
  · intro h
    have hstrip := strip_run_append h []
    rwa [List.append_nil, strip_nil] at hstrip

instance (text : Text) : Decidable (IsRun text) :=
  decidable_of_iff (strip text = []) strip_eq_nil_iff

/-- Removing colours adds and moves nothing. -/
theorem strip_sublist (text : Text) : (strip text).Sublist text := by
  fun_induction strip text with
  | case1 => exact .refl _
  | case2 c rest after h ih =>
    obtain ⟨sequence, -, heq⟩ := afterSequence?_eq_some_iff.mp h
    rw [heq]
    exact ih.trans (List.sublist_append_right _ _)
  | case3 c rest h ih => exact ih.cons_cons c

end Sgr
end AmberTools
