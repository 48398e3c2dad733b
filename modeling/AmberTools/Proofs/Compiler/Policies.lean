import AmberTools.Proofs.Compiler.Calls

/-!
# The two unlocated policies

Two scanners that are called alike, one of which keeps unlocated diagnostics while the other drops
them, stay in the same state. A scanner looks at the policy only where it gives up a pending
diagnostic, for a further header or at the end, and there the state behind the step does not depend
on it. What is put out there is the record, and under one policy the diagnostic without a place. So
the policy is a filter on what the scanner puts out, call by call.

## Main definitions

* `Compiler.Emission.dropped`: an emission without its unlocated diagnostics.
* `Compiler.Scanner.dropping`: a scanner's state under the policy to drop.

## Main results

* `Compiler.Scanner.advance_dropping`, `Compiler.Scanner.call_dropping`: a line and a call under
  both policies.
* `Compiler.Scanner.answers_drop_eq_dropped`: scanners under both policies in lockstep.
-/

namespace AmberTools
namespace Compiler

/-- What remains of an emission if unlocated diagnostics are dropped. Each record names the other
policy then. -/
def Emission.dropped (e : Emission) : Emission where
  diagnostics := e.diagnostics.filter Diagnostic.isLocated
  events := e.events.map fun event => { event with policy := .drop }

namespace Scanner

/-- The scanner in the same state, if it drops unlocated diagnostics. -/
def dropping (s : Scanner) : Scanner :=
  { s with reading := { s.reading with unlocated := .drop } }

variable {s : Scanner}

/-- Giving up a diagnostic is recorded under either policy. -/
theorem dropped_abandonAny (pending : Option Pending) (reason : Abandonment) :
    (abandonAny .keep pending reason).dropped = abandonAny .drop pending reason := by
  cases pending <;> rfl

/-- A line changes the state alike under both policies, in each of the four ways a scanner treats
it. -/
theorem advance_dropping (hkeep : s.reading.unlocated = .keep) (text : Text) :
    s.dropping.advance text = ((s.advance text).1.dropped, (s.advance text).2.dropping) := by
  by_cases hheader : (Line.classify text).isHeader = true
  · obtain ⟨message, hline⟩ := Line.isHeader_iff.mp hheader
    rw [advance_header hline, advance_header hline, hkeep, dropped_abandonAny]
    rfl
  · rw [Bool.not_eq_true] at hheader
    cases hp : s.pending with
    | none =>
      have hp' : s.dropping.pending = none := hp
      rw [advance_idle hheader hp, advance_idle hheader hp']
      rfl
    | some p =>
      have hp' : s.dropping.pending = some p := hp
      by_cases hlocation : (Line.classify text).isLocation = true
      · obtain ⟨file, number, column, pos, hline⟩ := Line.isLocation_iff.mp hlocation
        rw [advance_location hline hp, advance_location hline hp']
        rfl
      · rw [Bool.not_eq_true] at hlocation
        rw [advance_message hheader hlocation hp, advance_message hheader hlocation hp']
        rfl

/-- A call is answered alike under both policies, but for the diagnostics that are dropped. -/
theorem call_dropping (hkeep : s.reading.unlocated = .keep) (c : Call) :
    s.dropping.call c = ((s.call c).1.map Emission.dropped, (s.call c).2.dropping) := by
  cases hs : s.finished with
  | true =>
    have hs' : s.dropping.finished = true := hs
    cases c with
    | feed line =>
      rw [call_feed_of_finished hs, call_feed_of_finished hs']
      rfl
    | finish =>
      rw [call_finish_of_finished hs, call_finish_of_finished hs']
      rfl
  | false =>
    have hs' : s.dropping.finished = false := hs
    cases c with
    | feed line =>
      have hline : s.dropping.reading.lineText line = s.reading.lineText line := rfl
      rw [call_feed hs, call_feed hs', hline, advance_dropping hkeep]
      rfl
    | finish =>
      have hend := dropped_abandonAny s.pending .endOfOutput
      rw [call_finish hs, call_finish hs', hkeep]
      simp only [Except.map, hend]
      rfl

theorem after_dropping (hkeep : s.reading.unlocated = .keep) (calls : List Call) :
    s.dropping.after calls = (s.after calls).dropping := by
  induction calls generalizing s with
  | nil => rfl
  | cons c calls ih =>
    have hnext : (s.call c).2.reading.unlocated = .keep := by rw [reading_call, hkeep]
    rw [after, after, call_dropping hkeep, ih hnext]

theorem answers_dropping (hkeep : s.reading.unlocated = .keep) (calls : List Call) :
    s.dropping.answers calls = (s.answers calls).map (Except.map Emission.dropped) := by
  induction calls generalizing s with
  | nil => rfl
  | cons c calls ih =>
    have hnext : (s.call c).2.reading.unlocated = .keep := by rw [reading_call, hkeep]
    rw [answers, answers, call_dropping hkeep, ih hnext, List.map_cons]

/-- Two scanners, of which one keeps unlocated diagnostics and the other drops them, are called
alike, also behind the end. Behind each call they are in the same state. Their answers are the same
call by call, refusals included, except that of what the one puts out, the other leaves out the
unlocated diagnostics. -/
theorem answers_drop_eq_dropped (stripColours : Bool) (calls : List Call) :
    let keeping : Scanner := { reading := ⟨stripColours, .keep⟩ }
    let dropping : Scanner := { reading := ⟨stripColours, .drop⟩ }
    (∀ count, dropping.after (calls.take count) =
      { keeping.after (calls.take count) with reading := dropping.reading }) ∧
    dropping.answers calls = (keeping.answers calls).map (Except.map Emission.dropped) := by
  intro keeping dropping
  have hdropping : dropping = keeping.dropping := rfl
  have hkeep : keeping.reading.unlocated = .keep := rfl
  constructor
  · intro count
    have hafter := after_dropping hkeep (calls.take count)
    rw [hdropping, hafter, Scanner.dropping, reading_after]
    rfl
  · exact answers_dropping hkeep calls

/-- A further header and the end each give up a diagnostic, which only one of the scanners puts out.
Both refuse a line behind the end. -/
example :
    let calls : List Call := [.feed "ERROR a".toList, .feed "ERROR b".toList, .finish, .feed []]
    (answers { reading := ⟨true, .keep⟩ } calls).map (Except.map Emission.dropped) =
        answers { reading := ⟨true, .drop⟩ } calls ∧
      answers { reading := ⟨true, .keep⟩ } calls ≠ answers { reading := ⟨true, .drop⟩ } calls := by
  decide +kernel

end Scanner
end Compiler
end AmberTools
