import AmberTools.Proofs.Text.Colours
import Mathlib.Data.List.Enum

/-!
# Positions inside colour sequences

Colour sequences are removed in one pass from left to right, and a sequence is looked for only
behind the ones that were found before. Nothing is missed in this way. An escape character stands at
the start of a sequence and nowhere else in it, so no sequence starts inside another one, and no two
of them overlap. What is left is therefore told by positions alone: a character is removed exactly
if some sequence covers its place.

## Main definitions

* `Sgr.SequenceAt`: the positions between which a sequence stands.
* `Sgr.InSequence`: the positions inside sequences.

## Main results

* `Sgr.SequenceAt.eq_or_le`: sequences do not overlap.
* `Sgr.strip_eq_outside`: what is left is what stands outside sequences.
-/

namespace AmberTools
namespace Sgr

/-- A colour sequence stands in the text from one position up to another one. -/
def SequenceAt (text : Text) (start stop : Nat) : Prop :=
  ∃ front sequence rest, IsSequence sequence ∧ text = front ++ sequence ++ rest ∧
    start = front.length ∧ stop = front.length + sequence.length

/-- The position of a character lies inside a colour sequence. -/
def InSequence (text : Text) (i : Nat) : Prop :=
  ∃ start stop, SequenceAt text start stop ∧ start ≤ i ∧ i < stop

variable {c : Char} {text sequence rest : Text} {start stop i : Nat}

/-! ### Sequences by their starts -/

theorem IsSequence.exists_cons (h : IsSequence sequence) :
    ∃ tail, sequence = escape :: tail ∧ escape ∉ tail := by
  have htail := h.escape_notMem_tail
  obtain ⟨parameters, -, rfl⟩ := h
  exact ⟨_, rfl, htail⟩

/-- Where a sequence starts tells where it ends. -/
theorem sequenceAt_iff :
    SequenceAt text start stop ↔
      ∃ after ∈ afterSequence? (text.drop start), stop + after.length = text.length := by
  constructor
  · rintro ⟨front, sequence, rest, h, rfl, rfl, rfl⟩
    refine ⟨rest, ?_, by simp only [List.length_append]⟩
    rw [List.append_assoc, List.drop_left]
    exact afterSequence?_eq_some_iff.mpr ⟨sequence, h, rfl⟩
  · rintro ⟨after, hafter, hlength⟩
    obtain ⟨sequence, h, hdrop⟩ := afterSequence?_eq_some_iff.mp hafter
    have htext : text = text.take start ++ sequence ++ after := by
      rw [List.append_assoc, ← hdrop, List.take_append_drop]
    have hstart : start ≤ text.length := by
      by_contra hlong
      obtain ⟨tail, rfl, -⟩ := h.exists_cons
      rw [List.drop_eq_nil_of_le (by omega)] at hdrop
      exact nomatch hdrop
    have htake : (text.take start).length = start := List.length_take_of_le hstart
    refine ⟨text.take start, sequence, after, h, htext, htake.symm, ?_⟩
    have hsum := congrArg List.length htext
    rw [List.length_append, List.length_append] at hsum
    omega

/-- A position lies inside a sequence that starts there or before. -/
theorem inSequence_iff :
    InSequence text i ↔
      ∃ start, start < i + 1 ∧
        ∃ after ∈ afterSequence? (text.drop start), i + after.length < text.length := by
  simp only [InSequence, sequenceAt_iff]
  constructor
  · rintro ⟨start, stop, ⟨after, hafter, hlength⟩, hstart, hstop⟩
    exact ⟨start, by omega, after, hafter, by omega⟩
  · rintro ⟨start, hstart, after, hafter, hlength⟩
    exact ⟨start, text.length - after.length, ⟨after, hafter, by omega⟩, by omega, by omega⟩

instance (text : Text) (i : Nat) : Decidable (InSequence text i) :=
  decidable_of_iff _ inSequence_iff.symm

/-! ### Escape characters -/

theorem SequenceAt.getElem?_start (h : SequenceAt text start stop) :
    text[start]? = some escape := by
  obtain ⟨front, sequence, rest, h, rfl, rfl, rfl⟩ := h
  obtain ⟨tail, rfl, -⟩ := h.exists_cons
  simp

/-- No further escape character stands in a sequence. -/
theorem SequenceAt.getElem?_ne (h : SequenceAt text start stop) (hstart : start < i)
    (hstop : i < stop) : text[i]? ≠ some escape := by
  obtain ⟨front, sequence, rest, h, rfl, rfl, rfl⟩ := h
  obtain ⟨tail, rfl, htail⟩ := h.exists_cons
  obtain ⟨j, rfl⟩ : ∃ j, i = front.length + (j + 1) := ⟨i - front.length - 1, by omega⟩
  have hj : j < tail.length := by
    rw [List.length_cons] at hstop
    omega
  rw [List.append_assoc, List.getElem?_append_right (by omega), Nat.add_sub_cancel_left,
    List.cons_append, List.getElem?_cons_succ, List.getElem?_append_left hj]
  exact fun hget => htail (List.mem_of_getElem? hget)

/-- A sequence that starts before another one ends there or before. -/
theorem SequenceAt.le_of_lt {start' stop' : Nat} (h : SequenceAt text start stop)
    (h' : SequenceAt text start' stop') (hlt : start < start') : stop ≤ start' := by
  by_contra hstop
  exact h.getElem?_ne hlt (by omega) h'.getElem?_start

theorem SequenceAt.stop_eq {stop' : Nat} (h : SequenceAt text start stop)
    (h' : SequenceAt text start stop') : stop = stop' := by
  obtain ⟨after, hafter, hlength⟩ := sequenceAt_iff.mp h
  obtain ⟨after', hafter', hlength'⟩ := sequenceAt_iff.mp h'
  obtain rfl : after = after' := Option.mem_unique hafter hafter'
  omega

/-- No two sequences in a text overlap: they are the same, or one ends where the other one starts or
before. -/
theorem SequenceAt.eq_or_le {start' stop' : Nat} (h : SequenceAt text start stop)
    (h' : SequenceAt text start' stop') :
    (start = start' ∧ stop = stop') ∨ stop ≤ start' ∨ stop' ≤ start := by
  rcases Nat.lt_trichotomy start start' with hlt | rfl | hlt
  · exact .inr (.inl (h.le_of_lt h' hlt))
  · exact .inl ⟨rfl, h.stop_eq h'⟩
  · exact .inr (.inr (h'.le_of_lt h hlt))

/-! ### Positions and the way of a removal -/

theorem inSequence_cons_zero :
    InSequence (c :: rest) 0 ↔ afterSequence? (c :: rest) ≠ none := by
  rw [inSequence_iff, Option.ne_none_iff_exists']
  constructor
  · rintro ⟨start, hstart, after, hafter, -⟩
    obtain rfl : start = 0 := by omega
    exact ⟨after, hafter⟩
  · rintro ⟨after, hafter⟩
    have hlength := length_lt_of_afterSequence? hafter
    exact ⟨0, Nat.one_pos, after, hafter, by rwa [Nat.zero_add]⟩

/-- Behind a character with which no sequence starts, nothing changes. -/
theorem inSequence_cons_succ (h : afterSequence? (c :: rest) = none) :
    InSequence (c :: rest) (i + 1) ↔ InSequence rest i := by
  rw [inSequence_iff, inSequence_iff]
  constructor
  · rintro ⟨start, hstart, after, hafter, hlength⟩
    cases start with
    | zero => exact nomatch h.symm.trans hafter
    | succ start =>
      rw [List.length_cons] at hlength
      exact ⟨start, by omega, after, hafter, by omega⟩
  · rintro ⟨start, hstart, after, hafter, hlength⟩
    refine ⟨start + 1, by omega, after, hafter, ?_⟩
    rw [List.length_cons]
    omega

/-- All positions of a sequence at the start lie inside it. -/
theorem inSequence_of_lt (h : IsSequence sequence) (rest : Text) (hi : i < sequence.length) :
    InSequence (sequence ++ rest) i :=
  ⟨0, sequence.length, ⟨[], sequence, rest, h, rfl, rfl, (Nat.zero_add _).symm⟩, Nat.zero_le i, hi⟩

/-- No sequence runs on into what stands behind a sequence. -/
theorem inSequence_append_add (h : IsSequence sequence) (rest : Text) :
    InSequence (sequence ++ rest) (sequence.length + i) ↔ InSequence rest i := by
  have hfirst : SequenceAt (sequence ++ rest) 0 sequence.length :=
    ⟨[], sequence, rest, h, rfl, rfl, (Nat.zero_add _).symm⟩
  constructor
  · rintro ⟨start, stop, hat, hstart, hstop⟩
    have hbehind : sequence.length ≤ start := by
      rcases Nat.eq_zero_or_pos start with rfl | hpos
      · have hsame := hfirst.stop_eq hat
        omega
      · exact hfirst.le_of_lt hat hpos
    obtain ⟨start, rfl⟩ := Nat.exists_eq_add_of_le hbehind
    obtain ⟨after, hafter, hlength⟩ := sequenceAt_iff.mp hat
    rw [List.drop_length_add_append] at hafter
    rw [List.length_append] at hlength
    exact inSequence_iff.mpr ⟨start, by omega, after, hafter, by omega⟩
  · rintro ⟨start, stop, ⟨front, other, back, hother, rfl, rfl, rfl⟩, hstart, hstop⟩
    refine ⟨_, _, ⟨sequence ++ front, other, back, hother, by simp, rfl, rfl⟩, ?_, ?_⟩ <;>
      rw [List.length_append] <;> omega

/-! ### What is left -/

/-- The characters of a text whose positions pass a test, in order. -/
def keptAt (keep : Nat → Bool) (text : Text) : Text :=
  (text.zipIdx.filter fun entry => keep entry.2).map Prod.fst

theorem keptAt_cons (keep : Nat → Bool) (c : Char) (rest : Text) :
    keptAt keep (c :: rest) =
      if keep 0 then c :: keptAt (fun i => keep (i + 1)) rest
      else keptAt (fun i => keep (i + 1)) rest := by
  have hrest : ((rest.zipIdx 1).filter fun entry => keep entry.2).map Prod.fst =
      keptAt (fun i => keep (i + 1)) rest := by
    rw [List.zipIdx_succ, List.filter_map, List.map_map]
    rfl
  rw [keptAt, List.zipIdx_cons, List.filter_cons]
  split_ifs
  · rw [List.map_cons, hrest]
  · exact hrest

/-- A part of the text at whose positions the test fails is left out. -/
theorem keptAt_append {keep : Nat → Bool} {front : Text}
    (h : ∀ i < front.length, keep i = false) (rest : Text) :
    keptAt keep (front ++ rest) = keptAt (fun i => keep (front.length + i)) rest := by
  induction front generalizing keep with
  | nil => simp only [List.nil_append, List.length_nil, Nat.zero_add]
  | cons c front ih =>
    have hfront : ∀ i < front.length, keep (i + 1) = false := fun i hi =>
      h (i + 1) (Nat.succ_lt_succ hi)
    rw [List.cons_append, keptAt_cons, h 0 (Nat.succ_pos _), if_neg Bool.false_ne_true, ih hfront]
    simp only [List.length_cons, Nat.add_right_comm]

/-- What is left of a text is what stands outside sequences. -/
theorem strip_eq_keptAt (text : Text) :
    strip text = keptAt (fun i => !decide (InSequence text i)) text := by
  fun_induction strip text with
  | case1 => rfl
  | case2 c rest after hafter ih =>
    obtain ⟨sequence, hsequence, heq⟩ := afterSequence?_eq_some_iff.mp hafter
    rw [heq, keptAt_append, ih]
    · simp only [inSequence_append_add hsequence]
    · intro i hi
      simpa using inSequence_of_lt hsequence after hi
  | case3 c rest hnone ih =>
    have hfirst : ¬ InSequence (c :: rest) 0 := fun h => inSequence_cons_zero.mp h hnone
    rw [keptAt_cons, if_pos (by simpa using hfirst), ih]
    simp only [inSequence_cons_succ hnone]

/-- A character is removed exactly if its position lies inside a sequence, and the others stay in
order. No two sequences overlap. A text without escape characters may be returned as it is. -/
theorem strip_eq_outside (text : Text) :
    strip text = ((text.zipIdx.filter fun entry => ¬ InSequence text entry.2).map Prod.fst) ∧
      (∀ start stop start' stop', SequenceAt text start stop → SequenceAt text start' stop' →
        (start = start' ∧ stop = stop') ∨ stop ≤ start' ∨ stop' ≤ start) ∧
      (if escape ∈ text then strip text else text) = strip text := by
  refine ⟨?_, fun _ _ _ _ h h' => h.eq_or_le h', ?_⟩
  · rw [strip_eq_keptAt, keptAt]
    simp only [decide_not]
  · split_ifs with h
    · rfl
    · exact (strip_eq_self h).symm

-- the sequence that is begun first breaks off where the other one starts
example : (List.range 8).filter (InSequence "\x1b[\x1b[0m0m".toList) = [2, 3, 4, 5] := by
  decide +kernel

end Sgr
end AmberTools
