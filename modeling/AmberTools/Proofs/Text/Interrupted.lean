import AmberTools.Proofs.Text.Colours

/-!
# Interrupted colour sequences

Colour sequences are removed in one pass from left to right, and what stood on both sides of one
comes together. A sequence that is interrupted by others, which stand between its characters, is
not recognised before they are gone. So it is put together by the removal, and left behind, and
removing colours once more takes it away as well. This is the only way in which a sequence can be
left: each character of the result stood in the text with nothing but sequences in front of it.

## Main definitions

* `Sgr.HasSequence`: texts with a colour sequence in them.
* `Sgr.Spells`: words whose characters are parted by runs of sequences.
* `Sgr.HasInterrupted`: texts with an interrupted sequence in them.

## Main results

* `Sgr.exists_spells_of_strip`: how a word that is left stood in the text.
* `Sgr.strip_spells_append`: a word that is spelt with interruptions is left.
* `Sgr.strip_strip_eq_iff`: the texts of which a second removal takes nothing away.
-/

namespace AmberTools
namespace Sgr

/-- A colour sequence stands in the text. -/
def HasSequence (text : Text) : Prop :=
  ∃ front sequence rest, IsSequence sequence ∧ text = front ++ sequence ++ rest

/-- A text has the characters of a word in order, with runs of sequences between them. -/
inductive Spells : Text → Text → Prop
  | single (c : Char) : Spells [c] [c]
  | cons (c : Char) {run text word : Text} (hrun : IsRun run) (h : Spells text word) :
      Spells (c :: (run ++ text)) (c :: word)

/-- A sequence in the text is interrupted: other sequences stand between its characters. -/
def HasInterrupted (text : Text) : Prop :=
  ∃ front spelt rest sequence, IsSequence sequence ∧ Spells spelt sequence ∧ spelt ≠ sequence ∧
    text = front ++ spelt ++ rest

variable {c : Char} {text spelt word sequence rest : Text}

/-! ### Texts with sequences -/

/-- Either a sequence starts with the first character, or it stands in the rest. -/
theorem hasSequence_cons_iff :
    HasSequence (c :: rest) ↔ afterSequence? (c :: rest) ≠ none ∨ HasSequence rest := by
  constructor
  · rintro ⟨front, sequence, back, hsequence, heq⟩
    cases front with
    | nil =>
      refine .inl ?_
      rw [afterSequence?_eq_some_iff.mpr ⟨sequence, hsequence, heq⟩]
      exact Option.some_ne_none back
    | cons d front =>
      rw [List.cons_append, List.cons_append] at heq
      exact .inr ⟨front, sequence, back, hsequence, (List.cons.inj heq).2⟩
  · rintro (h | ⟨front, sequence, back, hsequence, rfl⟩)
    · obtain ⟨after, hafter⟩ := Option.ne_none_iff_exists'.mp h
      obtain ⟨sequence, hsequence, heq⟩ := afterSequence?_eq_some_iff.mp hafter
      exact ⟨[], sequence, after, hsequence, heq⟩
    · exact ⟨c :: front, sequence, back, hsequence, rfl⟩

theorem not_hasSequence_nil : ¬ HasSequence [] := by
  rintro ⟨front, sequence, rest, ⟨parameters, -, rfl⟩, heq⟩
  simp at heq

/-- Nothing is removed from a text exactly if no sequence stands in it. -/
theorem strip_eq_self_iff : strip text = text ↔ ¬ HasSequence text := by
  induction text with
  | nil => exact iff_of_true strip_nil not_hasSequence_nil
  | cons c rest ih =>
    rw [hasSequence_cons_iff, not_or, not_not, ← ih]
    cases hafter : afterSequence? (c :: rest) with
    | none => simp [strip_cons_of_none hafter]
    | some after =>
      have hshorter := length_lt_of_afterSequence? hafter
      obtain ⟨sequence, hsequence, heq⟩ := afterSequence?_eq_some_iff.mp hafter
      refine iff_of_false (fun h => ?_) fun h => Option.some_ne_none _ h.1
      have hle := (strip_sublist after).length_le
      rw [← strip_sequence_append hsequence, ← heq, h] at hle
      omega

/-! ### What is left -/

/-- A character that is left stood behind a run of sequences, and none starts with it. -/
theorem exists_run_of_strip_eq_cons (h : strip text = c :: rest) :
    ∃ run tail, IsRun run ∧ text = run ++ c :: tail ∧ afterSequence? (c :: tail) = none ∧
      strip tail = rest := by
  fun_induction strip text with
  | case1 => exact absurd h.symm (List.cons_ne_nil c rest)
  | case2 d tail after hafter ih =>
    obtain ⟨sequence, hsequence, heq⟩ := afterSequence?_eq_some_iff.mp hafter
    obtain ⟨run, back, hrun, rfl, hnone, hback⟩ := ih h
    exact ⟨sequence ++ run, back, hrun.cons hsequence, by rw [heq, List.append_assoc], hnone, hback⟩
  | case3 d tail hnone ih =>
    obtain ⟨rfl, hrest⟩ := List.cons.inj h
    exact ⟨[], tail, isRun_nil, rfl, hnone, hrest⟩

/-- The end of what is left is what is left of an end of the text. -/
theorem exists_append_of_strip_eq {front : Text} (h : strip text = front ++ rest) :
    ∃ start back, text = start ++ back ∧ strip back = rest := by
  induction front generalizing text with
  | nil => exact ⟨[], text, rfl, h⟩
  | cons c front ih =>
    obtain ⟨run, tail, -, rfl, -, htail⟩ := exists_run_of_strip_eq_cons h
    obtain ⟨start, back, rfl, hback⟩ := ih htail
    exact ⟨run ++ c :: start, back, by simp, hback⟩

/-- A word that is left was spelt in the text, behind a run of sequences, and no sequence started
with it. -/
theorem exists_spells_of_strip (hword : word ≠ []) (h : strip text = word ++ rest) :
    ∃ run spelt back, IsRun run ∧ Spells spelt word ∧ text = run ++ (spelt ++ back) ∧
      afterSequence? (spelt ++ back) = none := by
  induction word generalizing text with
  | nil => contradiction
  | cons c word ih =>
    obtain ⟨run, tail, hrun, rfl, hnone, htail⟩ := exists_run_of_strip_eq_cons h
    cases word with
    | nil => exact ⟨run, [c], tail, hrun, .single c, rfl, hnone⟩
    | cons d word =>
      obtain ⟨between, spelt, back, hbetween, hspelt, rfl, -⟩ := ih (List.cons_ne_nil d word) htail
      refine ⟨run, c :: (between ++ spelt), back, hrun, .cons c hbetween hspelt, by simp, ?_⟩
      simpa using hnone

/-! ### What is put together -/

/-- Where no sequence starts inside a word, the word is left however it is spelt. -/
theorem strip_spells_append (hspelt : Spells spelt word) (hword : escape ∉ word) (rest : Text) :
    strip (spelt ++ rest) = word ++ strip rest := by
  induction hspelt with
  | single c => exact strip_append_of_notMem hword rest
  | @cons c run text word hrun _ ih =>
    rw [List.mem_cons, not_or] at hword
    rw [List.cons_append, strip_cons_of_ne (Ne.symm hword.1), List.append_assoc,
      strip_run_append hrun, ih hword.2, List.cons_append]

/-- A word that is not spelt as it stands has a first interruption. -/
theorem Spells.exists_interruption (h : Spells spelt word) (hne : spelt ≠ word) :
    ∃ front run text back, front ≠ [] ∧ IsRun run ∧ run ≠ [] ∧ Spells text back ∧ back ≠ [] ∧
      spelt = front ++ (run ++ text) ∧ word = front ++ back := by
  induction h with
  | single c => contradiction
  | @cons c run text word hrun h ih =>
    by_cases hnil : run = []
    · subst hnil
      obtain ⟨front, run, text, back, -, hrun, hrunNe, htext, hback, rfl, rfl⟩ :=
        ih fun heq => hne (by rw [heq, List.nil_append])
      exact ⟨c :: front, run, text, back, List.cons_ne_nil c front, hrun, hrunNe, htext, hback,
        rfl, rfl⟩
    · refine ⟨[c], run, text, word, List.cons_ne_nil c [], hrun, hnil, h, ?_, rfl, rfl⟩
      cases h <;> exact List.cons_ne_nil _ _

theorem IsRun.exists_eq_cons {run : Text} (h : IsRun run) (hne : run ≠ []) :
    ∃ tail, run = escape :: tail := by
  obtain ⟨sequences, hsequences, rfl⟩ := h
  cases sequences with
  | nil => contradiction
  | cons sequence sequences =>
    obtain ⟨parameters, -, rfl⟩ := hsequences sequence List.mem_cons_self
    exact ⟨_, rfl⟩

/-- A sequence that breaks off is none. -/
theorem IsSequence.afterSequence?_front {front back : Text} (h : IsSequence (front ++ back))
    (hback : back ≠ []) : afterSequence? front = none := by
  rw [Option.eq_none_iff_forall_ne_some]
  intro after hafter
  obtain ⟨sequence, hsequence, rfl⟩ := afterSequence?_eq_some_iff.mp hafter
  -- the text would begin with two sequences, and one of them would be longer
  have hlong := afterSequence?_eq_some_iff.mpr ⟨_, h, (List.append_nil _).symm⟩
  have hshort := afterSequence?_eq_some_iff.mpr
    ⟨sequence, hsequence, List.append_assoc sequence after back⟩
  rw [hshort, Option.some.injEq, List.append_eq_nil_iff] at hlong
  exact hback hlong.2

theorem IsSequence.exists_eq_cons {front back : Text} (h : IsSequence (front ++ back))
    (hfront : front ≠ []) :
    ∃ tail, front = escape :: tail ∧ escape ∉ tail ∧ escape ∉ back := by
  have hinside := h.escape_notMem_tail
  obtain ⟨parameters, -, heq⟩ := h
  cases front with
  | nil => contradiction
  | cons c tail =>
    rw [List.cons_append, List.tail_cons, List.mem_append, not_or] at hinside
    exact ⟨tail, by rw [(List.cons.inj heq).1], hinside⟩

/-- An escape character starts anew. -/
theorem strip_append_escape (front rest : Text) :
    strip (front ++ escape :: rest) = strip front ++ strip (escape :: rest) :=
  strip_append_of_starting (fun _ h => h.escape_notMem_tail) front rest

/-- An interrupted sequence is put together. -/
theorem strip_interrupted (hsequence : IsSequence sequence) (hspelt : Spells spelt sequence)
    (hne : spelt ≠ sequence) (front rest : Text) :
    strip (front ++ (spelt ++ rest)) = strip front ++ (sequence ++ strip rest) := by
  obtain ⟨start, run, text, back, hstart, hrun, hrunNe, htext, hback, rfl, rfl⟩ :=
    hspelt.exists_interruption hne
  obtain ⟨tail, rfl, htail, hinside⟩ := hsequence.exists_eq_cons hstart
  obtain ⟨others, rfl⟩ := hrun.exists_eq_cons hrunNe
  -- the start of the sequence is left, as it breaks off where the run starts
  have hleft : strip (escape :: tail) = escape :: tail := by
    rw [strip_cons_of_none (hsequence.afterSequence?_front hback), strip_eq_self htail]
  have hrest : strip (escape :: (others ++ (text ++ rest))) = back ++ strip rest := by
    rw [← List.cons_append, strip_run_append hrun, strip_spells_append htext hinside]
  calc strip (front ++ (escape :: tail ++ (escape :: others ++ text) ++ rest))
      = strip (front ++ escape :: (tail ++ escape :: (others ++ (text ++ rest)))) := by
        simp only [List.cons_append, List.append_assoc]
    _ = strip front ++ (strip (escape :: tail) ++
          strip (escape :: (others ++ (text ++ rest)))) := by
        rw [strip_append_escape, ← List.cons_append, strip_append_escape]
    _ = strip front ++ (escape :: tail ++ back ++ strip rest) := by
        rw [hleft, hrest, List.append_assoc]

/-! ### Removing colours twice -/

/-- Sequences are left exactly of texts with an interrupted one. -/
theorem hasSequence_strip_iff : HasSequence (strip text) ↔ HasInterrupted text := by
  constructor
  · rintro ⟨front, sequence, rest, hsequence, h⟩
    rw [List.append_assoc] at h
    obtain ⟨start, back, rfl, hback⟩ := exists_append_of_strip_eq h
    have hne : sequence ≠ [] := by
      obtain ⟨parameters, -, rfl⟩ := hsequence
      exact List.cons_ne_nil _ _
    obtain ⟨run, spelt, end_, -, hspelt, rfl, hnone⟩ := exists_spells_of_strip hne hback
    refine ⟨start ++ run, spelt, end_, sequence, hsequence, hspelt, ?_, by simp⟩
    rintro rfl
    rw [afterSequence?_eq_some_iff.mpr ⟨spelt, hsequence, rfl⟩] at hnone
    exact nomatch hnone
  · rintro ⟨front, spelt, rest, sequence, hsequence, hspelt, hne, rfl⟩
    refine ⟨strip front, sequence, strip rest, hsequence, ?_⟩
    rw [List.append_assoc, strip_interrupted hsequence hspelt hne, List.append_assoc]

/-- A second removal takes nothing away exactly if the first one has left no sequence, and the first
one leaves a sequence exactly if one is interrupted by others. -/
theorem strip_strip_eq_iff (text : Text) :
    (strip (strip text) = strip text ↔ ¬ HasSequence (strip text)) ∧
      (HasSequence (strip text) ↔ HasInterrupted text) :=
  ⟨strip_eq_self_iff, hasSequence_strip_iff⟩

/-- A sequence behind the bracket of another one: the outer one is left by the first removal, and
the second removal takes it away. -/
theorem strip_strip_nested :
    let text := "\x1b[\x1b[0m0m".toList
    strip text = "\x1b[0m".toList ∧ strip (strip text) = [] ∧ strip (strip text) ≠ strip text := by
  decide +kernel

end Sgr
end AmberTools
