import AmberTools.Proofs.Compiler.Concatenated

/-!
# When diagnostics are found

Diagnostics can be asked for one at a time. Then lines are pulled from their source only until a
step of the scanner completes a diagnostic, so that each diagnostic comes with a number of lines
that have been pulled by then. These are the numbers of the lines at which a scanner puts the
diagnostics out: that of its own location, that of the header that supersedes it, or that of all
lines. What a scanner puts out for some lines does not depend on lines behind them, and only the
end of the lines can give up a diagnostic that further lines would still complete.

## Main definitions

* `Compiler.Iteration`, `Compiler.Iteration.next?`: diagnostics one at a time, from lines that are
  pulled when they are needed.
* `Compiler.Iteration.Yields`: all diagnostics of an iteration, with the number of lines pulled.
* `Compiler.CompletedAt`: the number of lines that complete a diagnostic.

## Main results

* `Compiler.Iteration.yields_run`: an iteration yields what a run of the scanner finds.
* `Compiler.Scanner.mem_run_iff`: the steps of a run by the lines in front of them.
* `Compiler.Scanner.take_run_congr`: steps do not depend on later lines.
* `Compiler.iteration_timing`: when an iteration yields its diagnostics.
-/

namespace AmberTools
namespace Compiler

/-- The diagnostics of some steps, each with the number of lines read until then. -/
def timed (steps : List (Nat × Emission)) : List (Nat × Diagnostic) :=
  steps.flatMap fun step => step.2.diagnostics.map (step.1, ·)

theorem timed_cons (step : Nat × Emission) (steps : List (Nat × Emission)) :
    timed (step :: steps) = step.2.diagnostics.map (step.1, ·) ++ timed steps := rfl

/-- Finishing a second time changes nothing and puts nothing out. -/
theorem Scanner.finish_finish (s : Scanner) : s.finish.2.finish = ({}, s.finish.2) := by
  have hs : s.finish.2.finished = true := by
    unfold finish
    split
    · assumption
    · rfl
  rw [finish.eq_def s.finish.2, if_pos hs]

/-! ### Diagnostics one at a time -/

/-- An iteration between two diagnostics. -/
structure Iteration where
  scanner : Scanner
  /-- The diagnostics that the last step has put out and that have not been yielded. -/
  waiting : List Diagnostic := []
  /-- The lines that have not been pulled. -/
  source : List Text
  /-- The number of lines that have been pulled. -/
  pulled : Nat := 0

namespace Iteration

/-- The iteration over some lines from the start. -/
def start (reading : Reading) (lines : List Text) : Iteration :=
  { scanner := { reading }, source := lines }

/-- The first diagnostic that is waiting. -/
def give? (it : Iteration) : Option (Diagnostic × Iteration) :=
  match it.waiting with
  | [] => none
  | d :: waiting => some (d, { it with waiting })

/-- The first diagnostic of a step that puts one out. Lines are pulled until there is such a step;
behind the last line the scanner is finished. -/
def pull? (scanner : Scanner) (pulled : Nat) : List Text → Option (Diagnostic × Iteration)
  | [] =>
    let step := scanner.finish
    give? ⟨step.2, step.1.diagnostics, [], pulled⟩
  | line :: source =>
    let step := scanner.advance (scanner.reading.lineText line)
    (give? ⟨step.2, step.1.diagnostics, source, pulled + 1⟩).or (pull? step.2 (pulled + 1) source)

/-- The next diagnostic, with the iteration behind it. -/
def next? (it : Iteration) : Option (Diagnostic × Iteration) :=
  it.give?.or (pull? it.scanner it.pulled it.source)

/-- All diagnostics of an iteration to its end, each with the number of lines that had been pulled
when it was yielded. -/
inductive Yields : Iteration → List (Nat × Diagnostic) → Prop
  | done {it : Iteration} (h : it.next? = none) : Yields it []
  | yield {it next : Iteration} {d : Diagnostic} {ds : List (Nat × Diagnostic)}
      (h : it.next? = some (d, next)) (hrest : Yields next ds) :
      Yields it ((next.pulled, d) :: ds)

variable {s : Scanner} {it other : Iteration} {ds : List (Nat × Diagnostic)}

/-- Iterations with the same next diagnostic yield the same. -/
theorem Yields.of_next?_eq (hnext : it.next? = other.next?) (h : Yields other ds) :
    Yields it ds := by
  cases h with
  | done h => exact .done (hnext.trans h)
  | yield h hrest => exact .yield (hnext.trans h) hrest

/-- Diagnostics that are waiting are yielded before a further line is pulled. -/
theorem yields_waiting (waiting : List Diagnostic) (source : List Text) (pulled : Nat)
    (h : Yields ⟨s, [], source, pulled⟩ ds) :
    Yields ⟨s, waiting, source, pulled⟩ (waiting.map (pulled, ·) ++ ds) := by
  induction waiting with
  | nil => exact h
  | cons d waiting ih => exact .yield rfl ih

/-- With nothing waiting, the next line is pulled. -/
theorem next?_line (s : Scanner) (line : Text) (source : List Text) (pulled : Nat) :
    next? ⟨s, [], line :: source, pulled⟩ =
      next? ⟨(s.advance (s.reading.lineText line)).2,
        (s.advance (s.reading.lineText line)).1.diagnostics, source, pulled + 1⟩ := rfl

/-- A finished scanner has nothing left to give. -/
theorem next?_finished (s : Scanner) (pulled : Nat) :
    next? ⟨s.finish.2, [], [], pulled⟩ = none := by
  change give? ⟨s.finish.2.finish.2, s.finish.2.finish.1.diagnostics, [], pulled⟩ = none
  rw [Scanner.finish_finish]
  rfl

/-- Behind the last line, the scanner is finished. -/
theorem next?_end (s : Scanner) (pulled : Nat) :
    next? ⟨s, [], [], pulled⟩ = next? ⟨s.finish.2, s.finish.1.diagnostics, [], pulled⟩ := by
  calc next? ⟨s, [], [], pulled⟩
      = (give? ⟨s.finish.2, s.finish.1.diagnostics, [], pulled⟩).or none := Option.or_none.symm
    _ = next? ⟨s.finish.2, s.finish.1.diagnostics, [], pulled⟩ := by
        rw [← next?_finished s pulled]
        rfl

/-- An iteration yields what a run of its scanner finds, with the numbers of lines read. -/
theorem yields_run (s : Scanner) (lines : List Text) :
    Yields ⟨s, [], lines, s.lineNumber⟩ (timed (s.run lines)) := by
  induction lines generalizing s with
  | nil =>
    have hend : Yields ⟨s.finish.2, [], [], s.lineNumber⟩ [] := .done (next?_finished s _)
    exact (yields_waiting _ [] _ hend).of_next?_eq (next?_end s s.lineNumber)
  | cons line lines ih =>
    have hstep := yields_waiting (s.advance (s.reading.lineText line)).1.diagnostics lines _
      (ih (s.advance (s.reading.lineText line)).2)
    rw [Scanner.lineNumber_advance] at hstep
    rw [Scanner.run, timed_cons, Scanner.lineNumber_advance]
    exact hstep.of_next?_eq (next?_line s line lines s.lineNumber)

end Iteration

/-! ### The steps of a run -/

namespace Scanner

variable {s : Scanner} {read : List Text}

/-- The numbers of lines read do not decrease over a run. -/
theorem pairwise_run (s : Scanner) (lines : List Text) :
    (s.run lines).Pairwise (fun a b => a.1 ≤ b.1) ∧
      ∀ step ∈ s.run lines, s.lineNumber ≤ step.1 := by
  induction lines generalizing s with
  | nil => simp [run]
  | cons line lines ih =>
    obtain ⟨hpairwise, hle⟩ := ih (s.advance (s.reading.lineText line)).2
    rw [run, List.pairwise_cons, List.forall_mem_cons]
    refine ⟨⟨hle, hpairwise⟩, by rw [lineNumber_advance]; omega, fun step hstep => ?_⟩
    have hlater := hle step hstep
    rw [lineNumber_advance] at hlater
    omega

/-- Runs over lines that start alike start with the same steps. -/
theorem take_run_congr {lines other : List Text} {k : Nat} (hlines : k ≤ lines.length)
    (hother : k ≤ other.length) (h : lines.take k = other.take k) :
    (s.run lines).take k = (s.run other).take k := by
  induction k generalizing s lines other with
  | zero => rfl
  | succ k ih =>
    cases lines with
    | nil => exact absurd hlines (Nat.not_succ_le_zero k)
    | cons line lines =>
      cases other with
      | nil => exact absurd hother (Nat.not_succ_le_zero k)
      | cons line' other =>
        rw [List.take_succ_cons, List.take_succ_cons] at h
        obtain ⟨rfl, hrest⟩ := List.cons.inj h
        rw [run, run, List.take_succ_cons, List.take_succ_cons,
          ih (Nat.le_of_succ_le_succ hlines) (Nat.le_of_succ_le_succ hother) hrest]

/-- A step of a run takes a line in the state behind the lines in front of it, or ends the run in
the state behind all lines. -/
theorem mem_run_iff (hs : s.finished = false) {lines : List Text} {step : Nat × Emission} :
    step ∈ s.run lines ↔
      (∃ front line back, lines = front ++ line :: back ∧
        step = ((s.after (front.map .feed)).lineNumber + 1,
          ((s.after (front.map .feed)).advance (s.reading.lineText line)).1)) ∨
      step = ((s.after (lines.map .feed)).lineNumber, (s.after (lines.map .feed)).finish.1) := by
  induction lines generalizing s with
  | nil => simp [run, after]
  | cons line lines ih =>
    have hnext : (s.advance (s.reading.lineText line)).2.finished = false := by
      rw [finished_advance, hs]
    have hafter (front : List Text) : s.after ((line :: front).map .feed) =
        (s.advance (s.reading.lineText line)).2.after (front.map .feed) := by
      rw [List.map_cons, after, call_feed hs]
    rw [run, List.mem_cons, ih hnext, hafter, reading_advance, ← or_assoc]
    refine or_congr_left ?_
    constructor
    · rintro (rfl | ⟨front, line', back, rfl, rfl⟩)
      · exact ⟨[], line, lines, rfl, by rw [lineNumber_advance]; rfl⟩
      · exact ⟨line :: front, line', back, rfl, by rw [hafter]⟩
    · rintro ⟨front, line', back, hlines, rfl⟩
      cases front with
      | nil =>
        obtain ⟨rfl, -⟩ := List.cons.inj hlines
        exact .inl (by rw [lineNumber_advance]; rfl)
      | cons first front =>
        obtain ⟨rfl, rfl⟩ := List.cons.inj hlines
        exact .inr ⟨front, line', back, rfl, by rw [hafter]⟩

/-- Lines that are fed are tracked. -/
theorem Tracks.after_feeds (h : Tracks s read) (hs : s.finished = false) (lines : List Text) :
    Tracks (s.after (lines.map .feed)) (read ++ lines.map s.reading.lineText) ∧
      (s.after (lines.map .feed)).finished = false := by
  induction lines generalizing s read with
  | nil => simpa [Scanner.after] using ⟨h, hs⟩
  | cons line lines ih =>
    have hrest := ih (h.advance hs (s.reading.lineText line)) (finished_advance.trans hs)
    rw [reading_advance, List.append_assoc, List.singleton_append] at hrest
    rw [List.map_cons, Scanner.after, call_feed hs]
    exact hrest

/-- What is given up is put out if unlocated diagnostics are kept. -/
theorem mem_abandonAny_iff {policy : UnlocatedPolicy} {pending : Option Pending}
    {reason : Abandonment} {d : Diagnostic} :
    d ∈ (abandonAny policy pending reason).diagnostics ↔
      policy = .keep ∧ ∃ p, pending = some p ∧ d = Diagnostic.unlocated p.message := by
  cases pending <;> cases policy <;> simp [abandonAny, abandon]

/-- A line completes the diagnostic that is pending, as a location or, if unlocated diagnostics are
kept, as a further header. -/
theorem mem_advance_iff {text : Text} {d : Diagnostic} :
    d ∈ (s.advance text).1.diagnostics ↔ ∃ p, s.pending = some p ∧
      ((∃ file line column pos, Line.classify text = .location file line column pos ∧
          d = ⟨p.message, some file, line, column, Diagnostic.errorSeverity, fun _ => pos⟩) ∨
        s.reading.unlocated = .keep ∧ (Line.classify text).isHeader = true ∧
          d = Diagnostic.unlocated p.message) := by
  by_cases hheader : (Line.classify text).isHeader = true
  · obtain ⟨message, hline⟩ := Line.isHeader_iff.mp hheader
    rw [advance_header hline, mem_abandonAny_iff]
    simp only [hline, Line.isHeader, reduceCtorEq, false_and, exists_false, false_or, true_and]
    tauto
  · rw [Bool.not_eq_true] at hheader
    cases hp : s.pending with
    | none => simp only [advance_idle hheader hp, List.not_mem_nil, reduceCtorEq, false_and,
        exists_false]
    | some p =>
      simp only [Option.some.injEq, exists_eq_left', hheader, Bool.false_eq_true, false_and,
        and_false, or_false]
      by_cases hlocation : (Line.classify text).isLocation = true
      · obtain ⟨file, line, column, pos, hline⟩ := Line.isLocation_iff.mp hlocation
        rw [advance_location hline hp, List.mem_singleton, hline]
        constructor
        · rintro rfl
          exact ⟨file, line, column, pos, rfl, rfl⟩
        · rintro ⟨_, _, _, _, hsame, rfl⟩
          cases hsame
          rfl
      · rw [advance_message (p := p) hheader (by simpa using hlocation) hp]
        refine iff_of_false List.not_mem_nil ?_
        rintro ⟨file, line, column, pos, hline, -⟩
        exact hlocation (Line.isLocation_iff.mpr ⟨file, line, column, pos, hline⟩)

/-- The end completes the diagnostic that is pending, if unlocated diagnostics are kept. -/
theorem mem_finish_iff (hs : s.finished = false) {d : Diagnostic} :
    d ∈ s.finish.1.diagnostics ↔ s.reading.unlocated = .keep ∧
      ∃ p, s.pending = some p ∧ d = Diagnostic.unlocated p.message := by
  rw [finish, hs, if_neg Bool.false_ne_true, mem_abandonAny_iff]

end Scanner

/-! ### The numbers of lines at which diagnostics are completed -/

/-- The number of lines of given texts that complete a diagnostic under a policy. -/
inductive CompletedAt (policy : UnlocatedPolicy) (texts : List Text) : Nat → Diagnostic → Prop
  /-- A diagnostic is completed by its own location, the first one behind its header. -/
  | located {front back : List Text} {text file : Text} {line column : Nat}
      {pos : 0 < line ∧ 0 < column} {p : Pending} (htexts : texts = front ++ text :: back)
      (hopen : LeavesOpen front p)
      (hlocation : Line.classify text = .location file line column pos) :
      CompletedAt policy texts (front.length + 1)
        ⟨p.message, some file, line, column, Diagnostic.errorSeverity, fun _ => pos⟩
  /-- A diagnostic that is kept is completed by the header that supersedes it. -/
  | superseded {front back : List Text} {text : Text} {p : Pending} (hkeep : policy = .keep)
      (htexts : texts = front ++ text :: back) (hopen : LeavesOpen front p)
      (hheader : (Line.classify text).isHeader = true) :
      CompletedAt policy texts (front.length + 1) (Diagnostic.unlocated p.message)
  /-- A diagnostic that is kept and still open is completed by the end of all lines. -/
  | trailing {p : Pending} (hkeep : policy = .keep) (hopen : LeavesOpen texts p) :
      CompletedAt policy texts texts.length (Diagnostic.unlocated p.message)

section Completed

variable {reading : Reading} {lines : List Text} {n : Nat} {d : Diagnostic}

/-- The state behind some lines. -/
theorem tracks_after_feeds (reading : Reading) (lines : List Text) :
    Scanner.Tracks (Scanner.after { reading } (lines.map .feed)) (lines.map reading.lineText) ∧
      (Scanner.after { reading } (lines.map .feed)).finished = false := by
  simpa using (Scanner.tracks_nil reading).after_feeds rfl lines

/-- A diagnostic is found at a line or at the end, and the number that goes with it counts the
lines read by then. -/
theorem mem_timedDiagnostics_iff_advance :
    (n, d) ∈ timedDiagnostics reading lines ↔
      (∃ front line back, lines = front ++ line :: back ∧ n = front.length + 1 ∧
        d ∈ ((Scanner.after { reading } (front.map .feed)).advance
          (reading.lineText line)).1.diagnostics) ∨
      n = lines.length ∧
        d ∈ (Scanner.after { reading } (lines.map .feed)).finish.1.diagnostics := by
  have hnumber (lines : List Text) :
      (Scanner.after { reading } (lines.map .feed)).lineNumber = lines.length := by
    rw [(tracks_after_feeds reading lines).1.lineNumber, List.length_map]
  have hmem : (n, d) ∈ timedDiagnostics reading lines ↔
      ∃ step ∈ Scanner.run { reading } lines, step.1 = n ∧ d ∈ step.2.diagnostics := by
    rw [timedDiagnostics, emissions, List.mem_flatMap]
    refine exists_congr fun step => and_congr_right fun _ => ?_
    rw [List.mem_map]
    constructor
    · rintro ⟨d, hd, heq⟩
      obtain ⟨rfl, rfl⟩ := Prod.mk.inj heq
      exact ⟨rfl, hd⟩
    · rintro ⟨rfl, hd⟩
      exact ⟨d, hd, rfl⟩
  rw [hmem]
  constructor
  · rintro ⟨step, hstep, rfl, hd⟩
    rcases (Scanner.mem_run_iff rfl).mp hstep with ⟨front, line, back, hlines, rfl⟩ | rfl
    · exact .inl ⟨front, line, back, hlines, congrArg (· + 1) (hnumber front), hd⟩
    · exact .inr ⟨hnumber lines, hd⟩
  · rintro (⟨front, line, back, hlines, rfl, hd⟩ | ⟨rfl, hd⟩)
    · exact ⟨_, (Scanner.mem_run_iff rfl).mpr (.inl ⟨front, line, back, hlines, rfl⟩),
        congrArg (· + 1) (hnumber front), hd⟩
    · exact ⟨_, (Scanner.mem_run_iff rfl).mpr (.inr rfl), hnumber lines, hd⟩

/-- The diagnostics of a run go with the numbers of lines that complete them. -/
theorem mem_timedDiagnostics_iff :
    (n, d) ∈ timedDiagnostics reading lines ↔
      CompletedAt reading.unlocated (lines.map reading.lineText) n d := by
  have hpending (front : List Text) (p : Pending) :
      (Scanner.after { reading } (front.map .feed)).pending = some p ↔
        LeavesOpen (front.map reading.lineText) p :=
    (tracks_after_feeds reading front).1.pending (tracks_after_feeds reading front).2 p
  rw [mem_timedDiagnostics_iff_advance, Scanner.mem_finish_iff (tracks_after_feeds reading lines).2]
  simp only [Scanner.mem_advance_iff, hpending, Scanner.reading_after]
  constructor
  · rintro (⟨front, line, back, rfl, rfl, p, hopen, hcompleted⟩ | ⟨rfl, hkeep, p, hopen, rfl⟩)
    · rw [List.map_append, List.map_cons, ← List.length_map reading.lineText]
      rcases hcompleted with ⟨file, number, column, pos, hline, rfl⟩ | ⟨hkeep, hheader, rfl⟩
      · exact .located rfl hopen hline
      · exact .superseded hkeep rfl hopen hheader
    · rw [← List.length_map reading.lineText]
      exact .trailing hkeep hopen
  · intro hcompleted
    cases hcompleted with
    | located htexts hopen hline =>
      obtain ⟨front, rest, rfl, rfl, hrest⟩ := List.map_eq_append_iff.mp htexts
      obtain ⟨line, back, rfl, rfl, rfl⟩ := List.map_eq_cons_iff.mp hrest
      exact .inl ⟨front, line, back, rfl, by rw [List.length_map], _, hopen,
        .inl ⟨_, _, _, _, hline, rfl⟩⟩
    | superseded hkeep htexts hopen hheader =>
      obtain ⟨front, rest, rfl, rfl, hrest⟩ := List.map_eq_append_iff.mp htexts
      obtain ⟨line, back, rfl, rfl, rfl⟩ := List.map_eq_cons_iff.mp hrest
      exact .inl ⟨front, line, back, rfl, by rw [List.length_map], _, hopen,
        .inr ⟨hkeep, hheader, rfl⟩⟩
    | trailing hkeep hopen =>
      exact .inr ⟨by rw [List.length_map], hkeep, _, hopen, rfl⟩

end Completed

/-! ### Iterations -/

/-- The numbers of lines read do not decrease from one diagnostic to the next. -/
theorem pairwise_timedDiagnostics (reading : Reading) (lines : List Text) :
    (timedDiagnostics reading lines).Pairwise fun a b => a.1 ≤ b.1 := by
  rw [timedDiagnostics, List.pairwise_flatMap]
  refine ⟨fun step _ => ?_, (Scanner.pairwise_run _ _).1.imp fun hle => ?_⟩
  · rw [List.pairwise_map]
    exact List.pairwise_of_forall fun _ _ => Nat.le_refl _
  · simpa using fun _ _ _ _ => hle

/-- If unlocated diagnostics are dropped, further lines only add diagnostics behind those found. -/
theorem parseLines_append_of_drop {reading : Reading} (hdrop : reading.unlocated = .drop)
    (lines more : List Text) :
    parseLines reading lines <+: parseLines reading (lines ++ more) := by
  obtain ⟨front, hfront⟩ := Scanner.exists_found_append (s := { reading }) rfl lines
  have hend : (Scanner.after { reading } (lines.map .feed)).found [] = [] := by
    rw [Scanner.found_nil, List.eq_nil_iff_forall_not_mem]
    intro d hd
    rw [Scanner.mem_finish_iff (tracks_after_feeds reading lines).2, Scanner.reading_after,
      hdrop] at hd
    exact nomatch hd.1
  have hlines : parseLines reading lines = front := by
    have hfound := hfront []
    rwa [hend, List.append_nil, List.append_nil] at hfound
  have hmore : parseLines reading (lines ++ more) = front ++ _ := hfront more
  rw [hlines, hmore]
  exact List.prefix_append _ _

/-- An iteration yields each diagnostic when just those lines have been pulled that complete it: up
to its own location, or, if unlocated diagnostics are kept, up to the header that supersedes it or
to the end. The numbers of lines pulled do not decrease. What is put out for some first lines is the
same for all lists that start with them. So if unlocated diagnostics are dropped, those of some
first lines come first among those of all lines. -/
theorem iteration_timing (reading : Reading) (lines : List Text) :
    (Iteration.start reading lines).Yields (timedDiagnostics reading lines) ∧
      (timedDiagnostics reading lines).map (·.2) = parseLines reading lines ∧
      (∀ n d, (n, d) ∈ timedDiagnostics reading lines ↔
        CompletedAt reading.unlocated (lines.map reading.lineText) n d) ∧
      ((timedDiagnostics reading lines).Pairwise fun a b => a.1 ≤ b.1) ∧
      (∀ k other, k ≤ lines.length → k ≤ other.length → lines.take k = other.take k →
        (emissions reading lines).take k = (emissions reading other).take k) ∧
      (reading.unlocated = .drop →
        ∀ k, parseLines reading (lines.take k) <+: parseLines reading lines) := by
  refine ⟨Iteration.yields_run { reading } lines, ?_, fun n d => mem_timedDiagnostics_iff,
    pairwise_timedDiagnostics reading lines, fun k other => Scanner.take_run_congr,
    fun hdrop k => ?_⟩
  · rw [timedDiagnostics, parseLines, List.map_flatMap]
    simp only [List.map_map, Function.comp_def, List.map_id']
  · have hprefix := parseLines_append_of_drop hdrop (lines.take k) (lines.drop k)
    rwa [List.take_append_drop] at hprefix

/-- The last header supersedes the one before, and stays open itself. -/
example :
    (timedDiagnostics ⟨true, .keep⟩ ["ERROR a".toList, "at f:1:2".toList, "ERROR b".toList,
      "ERROR c".toList]).map (·.1) = [2, 4, 4] := by
  decide +kernel

/-- What is kept at the end of some lines need not be what further lines make of it. -/
example :
    ¬ parseLines ⟨true, .keep⟩ ["ERROR a".toList] <+:
      parseLines ⟨true, .keep⟩ ["ERROR a".toList, "at f:1:2".toList] := by
  decide +kernel

end Compiler
end AmberTools
