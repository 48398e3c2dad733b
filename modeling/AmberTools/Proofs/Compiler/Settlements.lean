import AmberTools.Proofs.Compiler.Calls
import Mathlib.Data.List.Forall2

/-!
# How headers are settled

A header's diagnostic waits for its location. The first line that is a location or a further
header, or the end of the output, settles it: with a diagnostic in the first case, and with a
record in the two others. A step settles at most one header, the one that is pending, and puts out
nothing otherwise. So the headers that were pending or are new are those that are settled or
remain pending, and over a whole run each header is settled by one step of its own, in the order of
the headers.

## Main definitions

* `Compiler.headerNumbers`: the lines of the headers by their numbers.
* `Compiler.Settles`: the ways in which a step settles a header.

## Main results

* `Compiler.Scanner.Tracks.settles_step`: what is pending or new is settled or remains pending.
* `Compiler.Scanner.Tracks.settles_run`: a run settles the headers one by one.
* `Compiler.headers_settled`: the account of all headers of an output.
-/

namespace AmberTools
namespace Compiler

/-- The numbers of the headers among some lines, of which the first has a given number. -/
def headerNumbers (start : Nat) (texts : List Text) : List Nat :=
  ((texts.zipIdx start).filter fun line => (Line.classify line.1).isHeader).map (·.2)

/-- The header on a line of a given number is settled by a step, which is given by the number of
lines read until then and what it puts out. -/
inductive Settles (policy : UnlocatedPolicy) (texts : List Text) : Nat → Nat × Emission → Prop
  /-- The first location behind the header gives the place. -/
  | located {read rest : List Text} {text file : Text} {line column : Nat}
      {pos : 0 < line ∧ 0 < column} {p : Pending} (htexts : texts = read ++ text :: rest)
      (hopen : LeavesOpen read p)
      (hlocation : Line.classify text = .location file line column pos) :
      Settles policy texts p.headerLine (read.length + 1,
        { diagnostics := [⟨p.message, some file, line, column, Diagnostic.errorSeverity,
            fun _ => pos⟩] })
  /-- A further header comes first. -/
  | superseded {read rest : List Text} {text : Text} {p : Pending}
      (htexts : texts = read ++ text :: rest) (hopen : LeavesOpen read p)
      (hheader : (Line.classify text).isHeader = true) :
      Settles policy texts p.headerLine
        (read.length + 1, Scanner.abandon policy p .superseded)
  /-- The output ends. -/
  | ended {p : Pending} (hopen : LeavesOpen texts p) :
      Settles policy texts p.headerLine (texts.length, Scanner.abandon policy p .endOfOutput)

/-- The steps that put something out. -/
def audible (steps : List (Nat × Emission)) : List (Nat × Emission) :=
  steps.filter fun step => step.2 ≠ {}

/-! ### Numbers of headers -/

theorem headerNumbers_cons (start : Nat) (text : Text) (texts : List Text) :
    headerNumbers start (text :: texts) =
      headerNumbers start [text] ++ headerNumbers (start + 1) texts := by
  simp only [headerNumbers, List.zipIdx_cons, List.zipIdx_nil, ← List.map_append,
    ← List.filter_append, List.singleton_append]

theorem headerNumbers_singleton (start : Nat) (text : Text) :
    headerNumbers start [text] = if (Line.classify text).isHeader then [start] else [] := by
  simp only [headerNumbers, List.zipIdx_singleton, List.filter_cons, List.filter_nil]
  split <;> rfl

/-- The numbers of the headers increase. -/
theorem pairwise_lt_headerNumbers (start : Nat) (texts : List Text) :
    (headerNumbers start texts).Pairwise (· < ·) := by
  have hsub : (headerNumbers start texts).Sublist ((texts.zipIdx start).map (·.2)) :=
    List.filter_sublist.map _
  rw [List.zipIdx_map_snd] at hsub
  exact List.Pairwise.sublist hsub List.pairwise_lt_range'

/-! ### Steps that put something out -/

theorem flatMap_audible {α : Type} {f : Emission → List α} (hf : f {} = [])
    (steps : List (Nat × Emission)) :
    (audible steps).flatMap (fun step => f step.2) = steps.flatMap fun step => f step.2 := by
  induction steps with
  | nil => rfl
  | cons step steps ih =>
    rw [audible, List.filter_cons, List.flatMap_cons, ← ih]
    split_ifs with h
    · rfl
    · have hsilent : step.2 = {} := by simpa using h
      rw [hsilent, hf]
      rfl

theorem audible_abandon (number : Nat) (policy : UnlocatedPolicy) (p : Pending)
    (reason : Abandonment) :
    audible [(number, Scanner.abandon policy p reason)] =
      [(number, Scanner.abandon policy p reason)] := by
  simp [audible, Scanner.abandon]

/-! ### Steps of a scanner -/

namespace Scanner

variable {s : Scanner} {read : List Text}

/-- The line of the header that is pending. -/
def pendingLines (s : Scanner) : List Nat := (s.pending.map (·.headerLine)).toList

/-- The headers that were pending or are new are those that are settled or remain pending. -/
theorem Tracks.settles_step (h : Tracks s read) (hs : s.finished = false) (text : Text)
    (rest : List Text) :
    ∃ settled, pendingLines s ++ headerNumbers (read.length + 1) [text] =
        settled ++ pendingLines (s.advance text).2 ∧
      List.Forall₂ (Settles s.reading.unlocated (read ++ text :: rest)) settled
        (audible [(read.length + 1, (s.advance text).1)]) := by
  have hopen := h.pending hs
  by_cases hheader : (Line.classify text).isHeader = true
  · obtain ⟨message, hline⟩ := Line.isHeader_iff.mp hheader
    -- the header takes the place of the one that was pending
    refine ⟨pendingLines s, ?_, ?_⟩
    · rw [headerNumbers_singleton, if_pos hheader, advance_header hline, h.lineNumber]
      rfl
    · rw [advance_header hline, pendingLines]
      cases hp : s.pending with
      | none => exact .nil
      | some p =>
        rw [abandonAny, audible_abandon]
        exact .cons (.superseded rfl ((hopen p).mp hp) hheader) .nil
  · rw [headerNumbers_singleton, if_neg hheader, List.append_nil]
    rw [Bool.not_eq_true] at hheader
    cases hp : s.pending with
    | none =>
      refine ⟨[], ?_, ?_⟩
      · rw [advance_idle hheader hp]
        rfl
      · rw [advance_idle hheader hp]
        exact .nil
    | some p =>
      by_cases hlocation : (Line.classify text).isLocation = true
      · obtain ⟨file, number, column, pos, hline⟩ := Line.isLocation_iff.mp hlocation
        refine ⟨[p.headerLine], ?_, ?_⟩
        · rw [advance_location hline hp, pendingLines, hp]
          rfl
        · rw [advance_location hline hp]
          exact .cons (.located rfl ((hopen p).mp hp) hline) .nil
      · rw [Bool.not_eq_true] at hlocation
        refine ⟨[], ?_, ?_⟩
        · rw [advance_message hheader hlocation hp, pendingLines, hp]
          rfl
        · rw [advance_message hheader hlocation hp]
          exact .nil

/-- The end settles what is still pending. -/
theorem Tracks.settles_finish (h : Tracks s read) (hs : s.finished = false) :
    List.Forall₂ (Settles s.reading.unlocated read) (pendingLines s)
      (audible [(read.length, s.finish.1)]) := by
  have hopen := h.pending hs
  have hend : s.finish.1 = abandonAny s.reading.unlocated s.pending .endOfOutput := by
    simp only [finish, hs, Bool.false_eq_true, if_false]
  rw [hend, pendingLines]
  cases hp : s.pending with
  | none => exact .nil
  | some p =>
    rw [abandonAny, audible_abandon]
    exact .cons (.ended ((hopen p).mp hp)) .nil

/-- Over a run, the headers that were pending or come later are settled one by one. -/
theorem Tracks.settles_run (h : Tracks s read) (hs : s.finished = false) (lines : List Text) :
    List.Forall₂ (Settles s.reading.unlocated (read ++ lines.map s.reading.lineText))
      (pendingLines s ++ headerNumbers (read.length + 1) (lines.map s.reading.lineText))
      (audible (s.run lines)) := by
  -- on the lines to come, while those read are given by the invariant
  induction lines generalizing s read with
  | nil =>
    have hend := h.settles_finish hs
    rw [← h.lineNumber] at hend
    simpa [run, headerNumbers] using hend
  | cons line lines ih =>
    have hnext := ih (h.advance hs (s.reading.lineText line)) (finished_advance.trans hs)
    rw [reading_advance, List.append_assoc, List.singleton_append, List.length_append,
      List.length_singleton] at hnext
    obtain ⟨settled, hkept, hstep⟩ :=
      h.settles_step hs (s.reading.lineText line) (lines.map s.reading.lineText)
    have hsteps : audible (s.run (line :: lines)) =
        audible [(read.length + 1, (s.advance (s.reading.lineText line)).1)] ++
          audible ((s.advance (s.reading.lineText line)).2.run lines) := by
      rw [audible, audible, audible, ← List.filter_append, run, lineNumber_advance, h.lineNumber]
      rfl
    rw [List.map_cons, headerNumbers_cons, ← List.append_assoc, hkept, List.append_assoc, hsteps]
    exact List.rel_append hstep hnext

end Scanner

/-! ### What a settlement tells -/

namespace Settles

variable {policy : UnlocatedPolicy} {texts : List Text} {number : Nat} {step : Nat × Emission}

/-- A header is settled with a located diagnostic or with a record. -/
theorem located_add_records (h : Settles policy texts number step) :
    step.2.diagnostics.countP Diagnostic.isLocated + step.2.events.length = 1 := by
  cases h <;> cases policy <;> rfl

/-- A record goes with a diagnostic if and only if unlocated ones are kept. -/
theorem unlocated (h : Settles policy texts number step) :
    step.2.diagnostics.countP (fun d => !d.isLocated) =
      if policy = .keep then step.2.events.length else 0 := by
  cases h <;> cases policy <;> rfl

/-- If unlocated diagnostics are kept, every header gets one. -/
theorem length_diagnostics (h : Settles .keep texts number step) :
    step.2.diagnostics.length = 1 := by
  cases h <;> rfl

theorem events_sublist (h : Settles policy texts number step) :
    (step.2.events.map (·.headerLine)).Sublist [number] := by
  cases h with
  | located => exact List.nil_sublist _
  | superseded => exact List.Sublist.refl _
  | ended => exact List.Sublist.refl _

/-- The reason in a record says whether a header follows. -/
theorem reason (h : Settles policy texts number step) :
    ∀ event ∈ step.2.events, event.headerLine = number ∧
      event.reason =
        if (texts.drop number).any fun text => (Line.classify text).isHeader then .superseded
        else .endOfOutput := by
  cases h with
  | located => simp
  | @superseded read rest text p htexts hopen hheader =>
    obtain ⟨-, hle, -, -⟩ := hopen.numbered
    have hlater : (texts.drop p.headerLine).any fun text => (Line.classify text).isHeader := by
      rw [htexts, List.drop_append_of_le_length hle, List.any_append, List.any_cons, hheader]
      simp
    simp [Scanner.abandon, hlater]
  | @ended p hopen =>
    obtain ⟨-, -, -, hlater⟩ := hopen.numbered
    have hnone : ((texts.drop p.headerLine).any fun text => (Line.classify text).isHeader) =
        false := by
      rw [List.any_eq_false]
      intro text htext
      rw [(hlater text htext).1]
      exact Bool.false_ne_true
    simp [Scanner.abandon, hnone]

end Settles

section Account

variable {policy : UnlocatedPolicy} {texts : List Text} {numbers : List Nat}
  {steps : List (Nat × Emission)} (h : List.Forall₂ (Settles policy texts) numbers steps)
include h

theorem exists_settled {step : Nat × Emission} (hstep : step ∈ steps) :
    ∃ number ∈ numbers, Settles policy texts number step := by
  induction h with
  | nil => exact absurd hstep List.not_mem_nil
  | cons hsettles _ ih =>
    rcases List.mem_cons.mp hstep with rfl | hstep
    · exact ⟨_, List.mem_cons_self, hsettles⟩
    · obtain ⟨number, hnumber, hsettled⟩ := ih hstep
      exact ⟨number, List.mem_cons_of_mem _ hnumber, hsettled⟩

/-- Headers are counted once among located diagnostics and records. -/
theorem length_numbers_eq :
    numbers.length =
      (steps.flatMap (·.2.diagnostics)).countP Diagnostic.isLocated +
        (steps.flatMap (·.2.events)).length := by
  induction h with
  | nil => rfl
  | cons hstep _ ih =>
    have hone := hstep.located_add_records
    rw [List.length_cons, List.flatMap_cons, List.flatMap_cons, List.countP_append,
      List.length_append, ih]
    omega

theorem events_sublist_numbers :
    ((steps.flatMap (·.2.events)).map (·.headerLine)).Sublist numbers := by
  induction h with
  | nil => exact List.nil_sublist _
  | cons hstep _ ih =>
    rw [List.flatMap_cons, List.map_append]
    exact hstep.events_sublist.append ih

end Account

/-- If unlocated diagnostics are kept, headers are counted once among all diagnostics. -/
theorem length_numbers_eq_of_keep {texts : List Text} {numbers : List Nat}
    {steps : List (Nat × Emission)} (h : List.Forall₂ (Settles .keep texts) numbers steps) :
    numbers.length = (steps.flatMap (·.2.diagnostics)).length := by
  induction h with
  | nil => rfl
  | cons hstep _ ih =>
    rw [List.length_cons, List.flatMap_cons, List.length_append, hstep.length_diagnostics, ih,
      Nat.add_comm]

/-- Lines that are fed to a scanner and then finished are answered step by step. The steps that put
something out settle the headers one by one. Records name increasing lines of headers and say
whether a further header followed; each goes with an unlocated diagnostic if these are kept, and no
other unlocated diagnostic exists. So the headers are as many as located diagnostics and records
together, and as many as diagnostics if all are kept. -/
theorem headers_settled (reading : Reading) (lines : List Text) :
    let texts := lines.map reading.lineText
    let headers := headerNumbers 1 texts
    let steps := emissions reading lines
    let events := eventsOfLines reading lines
    let diagnostics := parseLines reading lines
    Scanner.answers { reading } (lines.map .feed ++ [.finish]) =
        steps.map (fun step => .ok step.2) ∧
      List.Forall₂ (Settles reading.unlocated texts) headers (audible steps) ∧
      (events.map (·.headerLine)).Pairwise (· < ·) ∧
      (∀ event ∈ events, event.headerLine ∈ headers ∧
        event.reason.message =
          if (texts.drop event.headerLine).any fun text => (Line.classify text).isHeader then
            "superseded by a new header"
          else "no location before end of output") ∧
      (∀ step ∈ steps, step.2.diagnostics.countP (fun d => !d.isLocated) =
        if reading.unlocated = .keep then step.2.events.length else 0) ∧
      headers.length = diagnostics.countP Diagnostic.isLocated + events.length ∧
      (reading.unlocated = .keep → headers.length = diagnostics.length) := by
  intro texts headers steps events diagnostics
  have hsettles : List.Forall₂ (Settles reading.unlocated texts) headers (audible steps) :=
    (Scanner.tracks_nil reading).settles_run rfl lines
  have hevents : (audible steps).flatMap (·.2.events) = events :=
    flatMap_audible rfl steps
  have hdiagnostics : (audible steps).flatMap (·.2.diagnostics) = diagnostics :=
    flatMap_audible rfl steps
  have hsub := events_sublist_numbers hsettles
  rw [hevents] at hsub
  refine ⟨Scanner.answers_feed_finish rfl lines, hsettles, ?_, ?_, ?_, ?_, ?_⟩
  · exact (pairwise_lt_headerNumbers 1 texts).sublist hsub
  · intro event hevent
    rw [← hevents, List.mem_flatMap] at hevent
    obtain ⟨step, hstep, hevent⟩ := hevent
    obtain ⟨number, hnumber, hsettled⟩ := exists_settled hsettles hstep
    obtain ⟨rfl, hreason⟩ := hsettled.reason event hevent
    refine ⟨hnumber, ?_⟩
    rw [hreason]
    split_ifs <;> rfl
  · intro step hstep
    by_cases hsilent : step.2 = {}
    · rw [hsilent]
      split_ifs <;> rfl
    · have haudible : step ∈ audible steps := List.mem_filter.mpr ⟨hstep, by simpa using hsilent⟩
      obtain ⟨number, -, hsettled⟩ := exists_settled hsettles haudible
      exact hsettled.unlocated
  · rw [length_numbers_eq hsettles, hevents, hdiagnostics]
  · intro hkeep
    rw [hkeep] at hsettles
    rw [length_numbers_eq_of_keep hsettles, hdiagnostics]

end Compiler
end AmberTools
