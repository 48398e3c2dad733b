import AmberTools.Proofs.Compiler.Steps
import Mathlib.Data.List.Basic

/-!
# Calls of a scanner

A host feeds lines to a scanner and finishes it, in any order, and perhaps goes on after the end.
What a scanner holds is told by the lines that it has taken: their number, and the message of the
last header among them as long as no location has followed. The end gives up that message. From
then on each line is refused, and no call changes anything.

## Main definitions

* `Compiler.Call`, `Compiler.Scanner.call`: a call, with its answer and the scanner behind it.
* `Compiler.Scanner.taken`: the lines that were not refused.
* `Compiler.LeavesOpen`: the diagnostic that lines leave without a location.
* `Compiler.Scanner.Tracks`: the invariant between two calls.

## Main results

* `Compiler.leavesOpen_concat_iff`: what one more line does to the open diagnostic.
* `Compiler.Scanner.Tracks.after`: the invariant holds after any calls.
* `Compiler.Scanner.answers_feed_finish`: feeding lines and finishing is a run.
* `Compiler.Scanner.state_after`: the state of a scanner after any calls.
-/

namespace AmberTools
namespace Compiler

/-- What a host asks of a scanner. -/
inductive Call where
  | feed (line : Text)
  | finish
  deriving DecidableEq, Repr

namespace Scanner

/-- The answer to a call, and the scanner behind the call. A refusal leaves the scanner as it is. -/
def call (s : Scanner) : Call → Except Fault Emission × Scanner
  | .feed line =>
    match s.feed line with
    | .ok (emission, next) => (.ok emission, next)
    | .error fault => (.error fault, s)
  | .finish => (.ok s.finish.1, s.finish.2)

/-- The answers to some calls in order. -/
def answers (s : Scanner) : List Call → List (Except Fault Emission)
  | [] => []
  | c :: calls => (s.call c).1 :: answers (s.call c).2 calls

/-- The scanner behind some calls. -/
def after (s : Scanner) : List Call → Scanner
  | [] => s
  | c :: calls => after (s.call c).2 calls

/-- The lines among some calls that are not refused. -/
def taken (s : Scanner) (calls : List Call) : List Text :=
  (calls.zip (s.answers calls)).filterMap fun
    | (.feed line, .ok _) => some line
    | _ => none

/-! ### Single calls -/

variable {s : Scanner}

theorem call_feed (h : s.finished = false) (line : Text) :
    s.call (.feed line) =
      (.ok (s.advance (s.reading.lineText line)).1, (s.advance (s.reading.lineText line)).2) := by
  simp only [call, feed, h, Bool.false_eq_true, if_false]

theorem call_finish (h : s.finished = false) :
    s.call .finish =
      (.ok (abandonAny s.reading.unlocated s.pending .endOfOutput),
        { s with pending := none, finished := true }) := by
  simp only [call, finish, h, Bool.false_eq_true, if_false]

/-- Behind the end, a line is refused. -/
theorem call_feed_of_finished (h : s.finished = true) (line : Text) :
    s.call (.feed line) = (.error .alreadyFinished, s) := by
  simp only [call, feed, h, if_true]

/-- Behind the end, a further end puts nothing out. -/
theorem call_finish_of_finished (h : s.finished = true) : s.call .finish = (.ok {}, s) := by
  simp only [call, finish, h, if_true]

theorem reading_call (s : Scanner) (c : Call) : (s.call c).2.reading = s.reading := by
  cases hs : s.finished with
  | true => cases c <;> simp only [call_feed_of_finished hs, call_finish_of_finished hs]
  | false => cases c <;> simp only [call_feed hs, call_finish hs, reading_advance]

/-- No call changes how the output is read. -/
theorem reading_after (s : Scanner) (calls : List Call) : (s.after calls).reading = s.reading := by
  induction calls generalizing s with
  | nil => rfl
  | cons c calls ih => rw [after, ih, reading_call]

/-- Only the end finishes a scanner. -/
theorem finished_call (s : Scanner) (c : Call) :
    (s.call c).2.finished = (s.finished || c == .finish) := by
  cases hs : s.finished with
  | true => cases c <;> simp [call_feed_of_finished hs, call_finish_of_finished hs, hs]
  | false => cases c <;> simp [call_feed hs, call_finish hs, finished_advance, hs]

theorem finished_after (s : Scanner) (calls : List Call) :
    (s.after calls).finished = (s.finished || calls.contains .finish) := by
  induction calls generalizing s with
  | nil => simp [after]
  | cons c calls ih =>
    rw [after, ih, finished_call, List.contains_cons, Bool.or_assoc, Bool.beq_comm]

/-! ### The lines taken -/

theorem taken_nil (s : Scanner) : s.taken [] = [] := rfl

theorem taken_cons (s : Scanner) (c : Call) (calls : List Call) :
    s.taken (c :: calls) = s.taken [c] ++ (s.call c).2.taken calls := by
  simp only [taken, answers, List.zip_cons_cons, List.zip_nil_left, ← List.filterMap_append,
    List.singleton_append]

theorem taken_feed (h : s.finished = false) (line : Text) : s.taken [.feed line] = [line] := by
  simp [taken, answers, call_feed h]

theorem taken_finish (s : Scanner) : s.taken [.finish] = [] := by
  simp [taken, answers]

theorem taken_of_finished (h : s.finished = true) (c : Call) : s.taken [c] = [] := by
  cases c with
  | feed line => simp [taken, answers, call_feed_of_finished h]
  | finish => exact taken_finish s

/-! ### Runs as calls -/

/-- Feeding lines and finishing answers with what a run puts out, and refuses nothing. -/
theorem answers_feed_finish (hs : s.finished = false) (lines : List Text) :
    s.answers (lines.map .feed ++ [.finish]) = (s.run lines).map fun step => .ok step.2 := by
  induction lines generalizing s with
  | nil => simp [answers, run, call]
  | cons line lines ih =>
    have hnext : (s.advance (s.reading.lineText line)).2.finished = false := by
      rw [finished_advance, hs]
    rw [List.map_cons, List.cons_append, answers, call_feed hs, ih hnext]
    rfl

end Scanner

/-! ### The open diagnostic -/

/-- The lines leave a diagnostic without a location: no header and no location follows its header,
and its message is that of the header with all lines behind it. -/
def LeavesOpen (texts : List Text) (p : Pending) : Prop :=
  ∃ front header message body, texts = front ++ header :: body ∧
    Line.classify header = .header message ∧
    (∀ text ∈ body, (Line.classify text).isHeader = false ∧
      (Line.classify text).isLocation = false) ∧
    p = ⟨front.length + 1, message :: body⟩

theorem not_leavesOpen_nil (p : Pending) : ¬ LeavesOpen [] p := by
  rintro ⟨front, header, message, body, htexts, -⟩
  simp at htexts

/-- A header opens its own diagnostic. Any other line but a location goes to the open one. -/
theorem leavesOpen_concat_iff {texts : List Text} {text : Text} {p : Pending} :
    LeavesOpen (texts ++ [text]) p ↔
      (∃ message, Line.classify text = .header message ∧ p = ⟨texts.length + 1, [message]⟩) ∨
      ((Line.classify text).isHeader = false ∧ (Line.classify text).isLocation = false) ∧
        ∃ q, LeavesOpen texts q ∧ p = { q with messageLines := q.messageLines ++ [text] } := by
  constructor
  · rintro ⟨front, header, message, body, htexts, hheader, hbody, rfl⟩
    -- the last line is the header itself or the last one behind it
    rcases List.eq_nil_or_concat' body with rfl | ⟨body, last, rfl⟩
    · obtain ⟨rfl, hlast⟩ := List.append_inj' htexts rfl
      obtain rfl : text = header := by simpa using hlast
      exact .inl ⟨message, hheader, rfl⟩
    · rw [← List.cons_append, ← List.append_assoc] at htexts
      obtain ⟨rfl, hlast⟩ := List.append_inj' htexts rfl
      obtain rfl : text = last := by simpa using hlast
      rw [List.forall_mem_append, List.forall_mem_singleton] at hbody
      exact .inr ⟨hbody.2, _, ⟨front, header, message, body, rfl, hheader, hbody.1, rfl⟩, rfl⟩
  · rintro (⟨message, hheader, rfl⟩ | ⟨htext, q, ⟨front, header, message, body, rfl, hheader,
      hbody, rfl⟩, rfl⟩)
    · exact ⟨texts, text, message, [], rfl, hheader, by simp, rfl⟩
    · refine ⟨front, header, message, body ++ [text], by simp, hheader, ?_, rfl⟩
      rw [List.forall_mem_append, List.forall_mem_singleton]
      exact ⟨hbody, htext⟩

/-- An open diagnostic by the numbers of its lines. -/
theorem LeavesOpen.numbered {texts : List Text} {p : Pending} (h : LeavesOpen texts p) :
    1 ≤ p.headerLine ∧ p.headerLine ≤ texts.length ∧
      (∃ header message, texts[p.headerLine - 1]? = some header ∧
        Line.classify header = .header message ∧
        p.messageLines = message :: texts.drop p.headerLine) ∧
      ∀ text ∈ texts.drop p.headerLine, (Line.classify text).isHeader = false ∧
        (Line.classify text).isLocation = false := by
  obtain ⟨front, header, message, body, rfl, hheader, hbody, rfl⟩ := h
  have hdrop : (front ++ header :: body).drop (front.length + 1) = body := by
    rw [List.append_cons, List.drop_left' (by simp)]
  refine ⟨by simp, by simp, ⟨header, message, by simp, hheader, ?_⟩, ?_⟩
  · exact congrArg _ hdrop.symm
  · rw [hdrop]
    exact hbody

namespace Scanner

/-! ### The state between two calls -/

variable {s : Scanner} {texts : List Text}

/-- The state of a scanner that has taken lines with the given texts. Until the end it holds what
they leave open. -/
structure Tracks (s : Scanner) (texts : List Text) : Prop where
  lineNumber : s.lineNumber = texts.length
  pending : s.finished = false → ∀ p, s.pending = some p ↔ LeavesOpen texts p
  finished : s.finished = true → s.pending = none

theorem tracks_nil (reading : Reading) : Tracks { reading } [] where
  lineNumber := rfl
  pending _ p := by simpa using not_leavesOpen_nil p
  finished h := nomatch h

/-- A line changes what is pending as it changes what is open, in each of the four ways a scanner
treats it. -/
theorem pending_advance_iff (hnumber : s.lineNumber = texts.length)
    (hopen : ∀ p, s.pending = some p ↔ LeavesOpen texts p) (text : Text) (p : Pending) :
    (s.advance text).2.pending = some p ↔ LeavesOpen (texts ++ [text]) p := by
  by_cases hheader : (Line.classify text).isHeader = true
  · obtain ⟨message, hline⟩ := Line.isHeader_iff.mp hheader
    rw [advance_header hline, leavesOpen_concat_iff, hline]
    simp only [Line.isHeader, Bool.true_eq_false, false_and, or_false, Line.header.injEq,
      exists_eq_left', Option.some.injEq, hnumber]
    exact eq_comm
  · have hno (message : Text) : Line.classify text ≠ .header message := fun hline =>
      hheader (Line.isHeader_iff.mpr ⟨message, hline⟩)
    rw [Bool.not_eq_true] at hheader
    cases hp : s.pending with
    | none =>
      have hclosed (q : Pending) : ¬ LeavesOpen texts q := by simp [← hopen q, hp]
      rw [advance_idle hheader hp, leavesOpen_concat_iff, hp]
      simp [hno, hclosed]
    | some q =>
      by_cases hlocation : (Line.classify text).isLocation = true
      · obtain ⟨file, number, column, pos, hline⟩ := Line.isLocation_iff.mp hlocation
        rw [advance_location hline hp, leavesOpen_concat_iff, hline]
        simp [Line.isLocation]
      · rw [Bool.not_eq_true] at hlocation
        rw [advance_message hheader hlocation hp, leavesOpen_concat_iff]
        simp only [hno, false_and, exists_false, false_or, hheader, hlocation, and_self, true_and,
          ← hopen, hp, Option.some.injEq, exists_eq_left']
        exact eq_comm

/-- A line that is read is tracked. -/
theorem Tracks.advance (h : Tracks s texts) (hs : s.finished = false) (text : Text) :
    Tracks (s.advance text).2 (texts ++ [text]) where
  lineNumber := by rw [lineNumber_advance, h.lineNumber, List.length_append, List.length_singleton]
  pending _ := pending_advance_iff h.lineNumber (h.pending hs) text
  finished hend := by
    rw [finished_advance, hs] at hend
    exact nomatch hend

/-- A call is tracked, whether it is answered or refused. -/
theorem Tracks.call (h : Tracks s texts) (c : Call) :
    Tracks (s.call c).2 (texts ++ (s.taken [c]).map s.reading.lineText) := by
  cases hs : s.finished with
  | true =>
    have hsame : (s.call c).2 = s := by
      cases c with
      | feed line => rw [call_feed_of_finished hs]
      | finish => rw [call_finish_of_finished hs]
    rw [hsame, taken_of_finished hs, List.map_nil, List.append_nil]
    exact h
  | false =>
    cases c with
    | feed line =>
      rw [call_feed hs, taken_feed hs]
      exact h.advance hs _
    | finish =>
      rw [call_finish hs, taken_finish, List.map_nil, List.append_nil]
      exact ⟨h.lineNumber, (nomatch ·), fun _ => rfl⟩

/-- All calls are tracked. -/
theorem Tracks.after (h : Tracks s texts) (calls : List Call) :
    Tracks (s.after calls) (texts ++ (s.taken calls).map s.reading.lineText) := by
  induction calls generalizing s texts with
  | nil => simpa [Scanner.after, taken_nil] using h
  | cons c calls ih =>
    have hrest := ih (h.call c)
    rw [reading_call, List.append_assoc, ← List.map_append, ← taken_cons] at hrest
    exact hrest

/-- After any calls, a scanner has counted the lines it has taken. Until the end it holds the
diagnostic that they leave open: the header's line number, and as message the header's with the
texts of all later lines, none of which is a header or a location. Behind the end nothing is
pending, and no call has an effect. -/
theorem state_after (reading : Reading) (calls : List Call) :
    let s := after { reading } calls
    let texts := (taken { reading } calls).map reading.lineText
    s.lineNumber = texts.length ∧
      (.finish ∉ calls → ∀ p, s.pending = some p ↔ LeavesOpen texts p) ∧
      (∀ p, s.pending = some p →
        1 ≤ p.headerLine ∧ p.headerLine ≤ s.lineNumber ∧
        (∃ header message, texts[p.headerLine - 1]? = some header ∧
          Line.classify header = .header message ∧
          p.messageLines = message :: texts.drop p.headerLine) ∧
        (∀ text ∈ texts.drop p.headerLine, (Line.classify text).isHeader = false ∧
          (Line.classify text).isLocation = false) ∧
        p.messageLines.length = s.lineNumber - p.headerLine + 1) ∧
      (.finish ∈ calls → s.pending = none ∧
        (∀ line, s.call (.feed line) = (.error .alreadyFinished, s)) ∧
        s.call .finish = (.ok {}, s)) := by
  intro s texts
  have htracks : Tracks s texts := by simpa using (tracks_nil reading).after calls
  have hfinished : s.finished = calls.contains .finish := by
    simpa using finished_after { reading } calls
  refine ⟨htracks.lineNumber, fun hend => ?_, fun p hp => ?_, fun hend => ?_⟩
  · exact htracks.pending (by simpa [hfinished] using hend)
  · have hs : s.finished = false := by
      by_contra hs
      rw [htracks.finished (by simpa using hs)] at hp
      exact nomatch hp
    obtain ⟨hpos, hle, ⟨header, message, hget, hheader, hmessage⟩, hlater⟩ :=
      ((htracks.pending hs p).mp hp).numbered
    refine ⟨hpos, htracks.lineNumber ▸ hle, ⟨header, message, hget, hheader, hmessage⟩, hlater, ?_⟩
    rw [hmessage, List.length_cons, List.length_drop, htracks.lineNumber]
  · have hs : s.finished = true := by simpa [hfinished] using hend
    exact ⟨htracks.finished hs, call_feed_of_finished hs, call_finish_of_finished hs⟩

end Scanner
end Compiler
end AmberTools
