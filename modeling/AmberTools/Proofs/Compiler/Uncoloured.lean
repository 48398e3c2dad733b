import AmberTools.Proofs.Compiler.Blocks
import AmberTools.Proofs.Text.Colours
import AmberTools.Proofs.Text.Settled

/-!
# Outputs without colours

Colours can be removed from a whole output before it is read, or from each of its lines. No colour
sequence runs over a line break, so that the lines are the same either way, but for two shapes of
text in which removing sequences changes where lines end. A line of sequences only between a
carriage return and a line feed leaves a single line break behind. A last line of sequences only
without a line break leaves no line behind.

## Main definitions

* `Sgr.PartsBreak`: sequences alone stand between a carriage return and a line feed.
* `Sgr.EndsInRun`: sequences alone stand behind the last line break.

## Main results

* `Sgr.strip_joined`: colours are removed line by line.
* `Sgr.linePieces_strip`: the lines of an output without colours.
* `Compiler.parseOutput_strip`: outputs without colours tell what the reading without colours finds.
-/

namespace AmberTools

namespace Sgr

open Text

/-- A carriage return and a line feed with nothing but sequences between them, at least one. -/
def PartsBreak (text : Text) : Prop :=
  ∃ front run back, text = front ++ '\r' :: (run ++ '\n' :: back) ∧ IsRun run ∧ run ≠ []

/-- Nothing but sequences, at least one, stands behind the last line break. -/
def EndsInRun (text : Text) : Prop :=
  ∃ front run, text = front ++ run ∧ Parted front run ∧ IsRun run ∧ run ≠ []

theorem partsBreak_iff {text : Text} :
    PartsBreak text ↔ ∃ i < text.length, ∃ j < text.length,
      (text.drop i).take 1 = ['\r'] ∧ IsRun ((text.drop (i + 1)).take j) ∧
        (text.drop (i + 1)).take j ≠ [] ∧ ((text.drop (i + 1)).drop j).head? = some '\n' := by
  constructor
  · rintro ⟨front, run, back, rfl, hrun, hne⟩
    refine ⟨front.length, by simp, run.length, by simp; omega, ?_⟩
    simpa using ⟨hrun, hne⟩
  · rintro ⟨i, -, j, -, hreturn, hrun, hne, hfeed⟩
    obtain ⟨back, hback⟩ := List.head?_eq_some_iff.mp hfeed
    refine ⟨text.take i, _, back, ?_, hrun, hne⟩
    rw [← hback, List.take_append_drop, ← List.singleton_append, ← hreturn, ← List.drop_drop,
      List.take_append_drop, List.take_append_drop]

theorem endsInRun_iff {text : Text} :
    EndsInRun text ↔
      ∃ i < text.length, Parted (text.take i) (text.drop i) ∧ IsRun (text.drop i) := by
  constructor
  · rintro ⟨front, run, rfl, hparted, hrun, hne⟩
    refine ⟨front.length, by simpa using List.length_pos_of_ne_nil hne, ?_⟩
    simpa using ⟨hparted, hrun⟩
  · rintro ⟨i, hi, hparted, hrun⟩
    exact ⟨_, _, (List.take_append_drop i text).symm, hparted, hrun, by simpa using hi⟩

instance (text : Text) : Decidable (PartsBreak text) := decidable_of_iff _ partsBreak_iff.symm

instance (text : Text) : Decidable (EndsInRun text) := decidable_of_iff _ endsInRun_iff.symm

/-! ### Lines -/

theorem isSequenceChar_of_break {c : Char} (h : c = '\r' ∨ c = '\n') :
    isSequenceChar c = false := by
  rcases h with rfl | rfl <;> decide

/-- Colours are removed line by line. -/
theorem strip_joined {pieces : List (Text × Text)} (h : Terminated pieces) :
    strip (joined pieces) = joined (pieces.map fun piece => (strip piece.1, piece.2)) := by
  induction h with
  | nil => exact strip_nil
  | last => simp [joined]
  | @cons line terminator pieces _ hterminator _ ih =>
    have hfeed (rest : Text) : strip ('\n' :: rest) = '\n' :: strip rest :=
      strip_cons_of_ne (by decide) rest
    have hline : strip (line ++ (terminator ++ joined pieces)) =
        strip line ++ (terminator ++ strip (joined pieces)) := by
      simp only [breaks, List.mem_cons, List.not_mem_nil, or_false] at hterminator
      rcases hterminator with rfl | rfl | rfl
      · exact strip_append_cons (isSequenceChar_of_break (.inr rfl)) _ _
      · rw [List.cons_append, strip_append_cons (isSequenceChar_of_break (.inl rfl)),
          List.cons_append, hfeed]
        rfl
      · exact strip_append_cons (isSequenceChar_of_break (.inl rfl)) _ _
    rw [joined, List.flatMap_cons, List.append_assoc, ← joined, hline, ih]
    simp [joined]

theorem terminated_map_strip {pieces : List (Text × Text)} (h : Terminated pieces) :
    Terminated (pieces.map fun piece => (strip piece.1, piece.2)) :=
  h.map_line fun _ hline => hline.sublist (strip_sublist _)

variable {text : Text}

/-- No piece is empty without its colours. -/
theorem nil_notMem_map_strip (h : ¬ EndsInRun text) :
    ([], []) ∉ (linePieces text).map fun piece => (strip piece.1, piece.2) := by
  rw [List.mem_map]
  rintro ⟨⟨line, terminator⟩, hpiece, heq⟩
  obtain ⟨hline, rfl⟩ := Prod.mk.inj heq
  obtain ⟨front, back, hpieces⟩ := List.append_of_mem hpiece
  have hterminated := terminated_linePieces text
  rw [hpieces] at hterminated
  obtain rfl : back = [] := by
    cases back with
    | nil => rfl
    | cons next back => exact absurd hterminated.mem_breaks (by simp [breaks])
  refine h ⟨joined front, line, ?_, parted_joined hterminated, strip_eq_nil_iff.mp hline, ?_⟩
  · rw [← joined_linePieces text, hpieces]
    simp [joined]
  · rintro rfl
    exact nil_notMem_linePieces text hpiece

/-- No two neighbours are fused without their colours. -/
theorem isChain_map_strip (h : ¬ PartsBreak text) :
    ((linePieces text).map fun piece => (strip piece.1, piece.2)).IsChain
      fun piece next => ¬ Fused piece next := by
  rw [List.isChain_map, List.isChain_iff_forall_rel_of_append_cons_cons]
  rintro ⟨line, terminator⟩ ⟨line', terminator'⟩ front back hpieces ⟨hreturn, hfeed⟩
  obtain rfl : terminator = ['\r'] := hreturn
  obtain ⟨hnext, rfl⟩ := Prod.mk.inj hfeed
  have hsettled := (settle_eq_self_iff.mp (settle_linePieces text)).2
  rw [List.isChain_iff_forall_rel_of_append_cons_cons] at hsettled
  refine h ⟨joined front ++ line, line', joined back, ?_, strip_eq_nil_iff.mp hnext, ?_⟩
  · rw [← joined_linePieces text, hpieces]
    simp [joined]
  · rintro rfl
    exact hsettled hpieces ⟨rfl, rfl⟩

/-- A text without its colours has the lines of the text, each without its colours. -/
theorem linePieces_strip (hbreak : ¬ PartsBreak text) (hend : ¬ EndsInRun text) :
    linePieces (strip text) = (linePieces text).map fun piece => (strip piece.1, piece.2) := by
  have hterminated := terminated_linePieces text
  calc linePieces (strip text)
    _ = linePieces (joined ((linePieces text).map fun piece => (strip piece.1, piece.2))) := by
      rw [← strip_joined hterminated, joined_linePieces]
    _ = settle ((linePieces text).map fun piece => (strip piece.1, piece.2)) :=
      linePieces_joined (terminated_map_strip hterminated)
    _ = (linePieces text).map fun piece => (strip piece.1, piece.2) :=
      settle_eq_self_iff.mpr ⟨nil_notMem_map_strip hend, isChain_map_strip hbreak⟩

end Sgr

namespace Compiler

/-- Unless sequences alone stand between a carriage return and a line feed, or behind the last line
break, an output with its colours removed tells what reading the output without colours finds. -/
theorem parseOutput_strip (policy : UnlocatedPolicy) {output : Text}
    (hbreak : ¬ Sgr.PartsBreak output) (hend : ¬ Sgr.EndsInRun output) :
    parseOutput ⟨true, policy⟩ output = parseOutput ⟨false, policy⟩ (Sgr.strip output) := by
  have hlines : Reading.lines ⟨true, policy⟩ output =
      Reading.lines ⟨false, policy⟩ (Sgr.strip output) := by
    simp only [Reading.lines, if_true, Bool.false_eq_true, if_false]
    rw [Text.map_text_splitLines, Sgr.linePieces_strip hbreak hend, List.map_map]
    calc (Text.splitLines output).map (fun line => Sgr.strip line.text)
      _ = ((Text.splitLines output).map (·.text)).map Sgr.strip := by rw [List.map_map]; rfl
      _ = _ := by rw [Text.map_text_splitLines, List.map_map]; rfl
  rw [parseOutput, parseOutput, parseLines_eq_blocks, parseLines_eq_blocks,
    map_lineText_outputLines, map_lineText_outputLines, hlines]

/-- An output with colours in a header, around a location and alone on a line, whose lines end in
all three ways. -/
def colouredOutput : Text :=
  "\x1b[1;31mERROR\x1b[0m a\r\n\x1b[2mb\rat f:1:2\x1b[0m\n\x1b[m\r\x1b[31mERROR c".toList

theorem parseOutput_strip_colouredOutput :
    ¬ Sgr.PartsBreak colouredOutput ∧ ¬ Sgr.EndsInRun colouredOutput ∧
      parseOutput ⟨true, .keep⟩ colouredOutput =
        parseOutput ⟨false, .keep⟩ (Sgr.strip colouredOutput) := by
  have hbreak : ¬ Sgr.PartsBreak colouredOutput := by decide +kernel
  have hend : ¬ Sgr.EndsInRun colouredOutput := by decide +kernel
  exact ⟨hbreak, hend, parseOutput_strip .keep hbreak hend⟩

/-- Colours between a carriage return and a line feed part a line break in two, and the message of
a diagnostic is longer by an empty line. -/
example :
    Sgr.PartsBreak "ERROR a\r\x1b[0m\nat f:1:2".toList ∧
      parseOutput ⟨true, .keep⟩ "ERROR a\r\x1b[0m\nat f:1:2".toList ≠
        parseOutput ⟨false, .keep⟩ (Sgr.strip "ERROR a\r\x1b[0m\nat f:1:2".toList) := by
  decide +kernel

end Compiler
end AmberTools
