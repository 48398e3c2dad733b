import AmberTools.Proofs.Compiler.Blocks
import AmberTools.Proofs.Compiler.Forms
import AmberTools.Proofs.Text.Colours
import Mathlib.Data.Bool.AllAny

/-!
# Reading back printed diagnostics

The compiler prints a diagnostic as a header with the first line of its message, the further
lines of the message as they are, and a location. Reading that output gives the diagnostics
back, each as an error, if no further line of a message looks like a header or a location itself
and if file and position can stand in a location.

## Main definitions

* `Compiler.printed`: what the compiler prints for a diagnostic.
* `Compiler.Printable`: the diagnostics that can be read back.

## Main results

* `Compiler.parseOutput_printed`: printed diagnostics are read back.
-/

namespace AmberTools
namespace Compiler

/-- The compiler's text for a diagnostic: a header, the rest of the message and a location. -/
def printed (d : Diagnostic) : Text :=
  headerStart ++ d.message ++ ['\n'] ++ locationStart ++ d.location ++ ['\n']

/-- The lines of a message behind its first one. -/
def laterLines (d : Diagnostic) : List Text := (Text.splitOn '\n' d.message).tail

/-- Diagnostics whose text is unambiguous: they have a file without colons, a position of at most
eighteen digits, a trimmed first line, and no line in the message that the compiler would not
use as context. -/
structure Printable (d : Diagnostic) : Prop where
  located : d.isLocated = true
  file : ∀ file ∈ d.file, file ≠ [] ∧ ':' ∉ file ∧ '\n' ∉ file
  plain : ∀ text ∈ d.message :: d.file.toList, '\r' ∉ text ∧ Sgr.escape ∉ text
  trimmed : Text.trim d.summary = d.summary
  later : ∀ line ∈ laterLines d,
    (Line.classify line).isHeader = false ∧ (Line.classify line).isLocation = false
  line_lt : d.line < 10 ^ 18
  column_lt : d.column < 10 ^ 18

instance (d : Diagnostic) : Decidable (Printable d) :=
  decidable_of_iff
    (d.isLocated = true ∧ (∀ file ∈ d.file, file ≠ [] ∧ ':' ∉ file ∧ '\n' ∉ file) ∧
      (∀ text ∈ d.message :: d.file.toList, '\r' ∉ text ∧ Sgr.escape ∉ text) ∧
      Text.trim d.summary = d.summary ∧
      (∀ line ∈ laterLines d,
        (Line.classify line).isHeader = false ∧ (Line.classify line).isLocation = false) ∧
      d.line < 10 ^ 18 ∧ d.column < 10 ^ 18)
    ⟨fun ⟨h₁, h₂, h₃, h₄, h₅, h₆, h₇⟩ => ⟨h₁, h₂, h₃, h₄, h₅, h₆, h₇⟩,
      fun ⟨h₁, h₂, h₃, h₄, h₅, h₆, h₇⟩ => ⟨h₁, h₂, h₃, h₄, h₅, h₆, h₇⟩⟩

/-! ### Lines of printed diagnostics -/

/-- The line of a diagnostic's header. -/
def headerLine (d : Diagnostic) : Text := headerStart ++ d.summary

/-- The line of a diagnostic's location. -/
def locationLine (d : Diagnostic) : Text := locationStart ++ d.location

/-- The lines of what the compiler prints. -/
def printedLines (d : Diagnostic) : List Text := headerLine d :: laterLines d ++ [locationLine d]

theorem splitOn_message (d : Diagnostic) :
    Text.splitOn '\n' d.message = d.summary :: laterLines d := by
  rw [laterLines, Diagnostic.summary, ← Text.splitOn_eq_cons]

/-- A message is its first line and the later ones. -/
theorem joinWith_summary_laterLines (d : Diagnostic) :
    Text.joinWith ['\n'] (d.summary :: laterLines d) = d.message := by
  rw [← splitOn_message, Text.joinWith_splitOn]

/-- Each line of a printed diagnostic ends with a line feed. -/
theorem printed_eq_lines (d : Diagnostic) :
    printed d = (printedLines d).flatMap fun line => line ++ ['\n'] := by
  have hmessage : d.message ++ ['\n'] =
      (d.summary :: laterLines d).flatMap fun line => line ++ ['\n'] := by
    rw [← Text.joinWith_append_sep, joinWith_summary_laterLines]
  calc printed d
      = headerStart ++ (d.message ++ ['\n']) ++ (locationLine d ++ ['\n']) := by
        simp only [printed, locationLine, List.append_assoc]
    _ = (printedLines d).flatMap fun line => line ++ ['\n'] := by
        rw [hmessage]
        simp only [printedLines, headerLine, List.flatMap_append, List.flatMap_cons,
          List.flatMap_nil, List.append_nil, List.append_assoc, List.cons_append]

theorem mem_splitOn_message {d : Diagnostic} {line : Text}
    (h : line = d.summary ∨ line ∈ laterLines d) : line ∈ Text.splitOn '\n' d.message := by
  rw [splitOn_message]
  simpa using h

/-- Characters that neither break a line nor start a colour sequence. -/
def IsPlain (c : Char) : Prop := c ≠ '\r' ∧ c ≠ '\n' ∧ c ≠ Sgr.escape

instance (c : Char) : Decidable (IsPlain c) := inferInstanceAs (Decidable (_ ∧ _))

theorem isPlain_of_isDigit {c : Char} (h : Line.isDigit c = true) : IsPlain c := by
  have hne {e : Char} (he : Line.isDigit e = false) : c ≠ e := by
    rintro rfl
    exact Bool.noConfusion (h.symm.trans he)
  exact ⟨hne (by decide), hne (by decide), hne (by decide)⟩

theorem location_eq {d : Diagnostic} {file : Text} (hfile : d.file = some file) :
    d.location = file ++ ':' :: (Text.ofNat d.line ++ ':' :: Text.ofNat d.column) := by
  simp only [Diagnostic.location, hfile, List.append_assoc, List.cons_append]

namespace Printable

variable {d : Diagnostic} (h : Printable d)
include h

theorem exists_file : ∃ file, d.file = some file := Option.isSome_iff_exists.mp h.located

/-- The lines of a message are plain. -/
theorem isPlain_of_mem_message {line : Text} (hline : line = d.summary ∨ line ∈ laterLines d) :
    ∀ c ∈ line, IsPlain c := by
  intro c hc
  obtain ⟨hmessage, hfeed⟩ := Text.mem_of_mem_splitOn (mem_splitOn_message hline) hc
  obtain ⟨hreturn, hescape⟩ := h.plain d.message List.mem_cons_self
  exact ⟨fun he => hreturn (he ▸ hmessage), hfeed, fun he => hescape (he ▸ hmessage)⟩

/-- The line of a location is plain. -/
theorem isPlain_of_mem_locationLine : ∀ c ∈ locationLine d, IsPlain c := by
  obtain ⟨file, hfile⟩ := h.exists_file
  have hword : ∀ c ∈ locationStart, IsPlain c := List.all_iff_forall_prop.mp (by decide)
  have hplain : ∀ c ∈ file, IsPlain c := by
    intro c hc
    obtain ⟨hreturn, hescape⟩ := h.plain file (by simp [hfile])
    obtain ⟨-, -, hfeed⟩ := h.file file hfile
    exact ⟨fun he => hreturn (he ▸ hc), fun he => hfeed (he ▸ hc), fun he => hescape (he ▸ hc)⟩
  have hnumber (n : Nat) : ∀ c ∈ Text.ofNat n, IsPlain c := fun c hc =>
    isPlain_of_isDigit (Line.isDigit_of_mem_ofNat hc)
  have hcolon : IsPlain ':' := by decide
  rw [locationLine, location_eq hfile]
  simp only [List.forall_mem_append, List.forall_mem_cons]
  exact ⟨hword, hplain, hcolon, hnumber _, hcolon, hnumber _⟩

theorem isPlain_of_mem_printedLines : ∀ line ∈ printedLines d, ∀ c ∈ line, IsPlain c := by
  have hword : ∀ c ∈ headerStart, IsPlain c := List.all_iff_forall_prop.mp (by decide)
  simp only [printedLines, List.cons_append, List.forall_mem_cons, List.forall_mem_append]
  refine ⟨?_, fun line hline => h.isPlain_of_mem_message (.inr hline), ?_, by simp⟩
  · rw [headerLine, List.forall_mem_append]
    exact ⟨hword, h.isPlain_of_mem_message (.inl rfl)⟩
  · exact h.isPlain_of_mem_locationLine

/-! ### Reading printed diagnostics -/

theorem classify_headerLine : Line.classify (headerLine d) = .header d.summary :=
  Line.classify_header h.trimmed fun hfeed =>
    (h.isPlain_of_mem_message (.inl rfl) _ hfeed).2.1 rfl

theorem classify_locationLine {file : Text} (hfile : d.file = some file) :
    Line.classify (locationLine d) =
      .location file d.line d.column (d.located_pos h.located) := by
  obtain ⟨hne, hcolon, -⟩ := h.file file hfile
  rw [locationLine, location_eq hfile]
  exact Line.classify_location hne hcolon h.line_lt h.column_lt _

/-- In front of other lines, the lines of a diagnostic make a block that tells it. -/
theorem ofLines_printedLines (policy : UnlocatedPolicy) (rest : List Text) :
    (Block.ofLines (printedLines d ++ rest)).flatMap (Block.diagnostics policy) =
      { d with severity := Diagnostic.errorSeverity } ::
        (Block.ofLines rest).flatMap (Block.diagnostics policy) := by
  obtain ⟨file, hfile⟩ := h.exists_file
  have hlocation := h.classify_locationLine hfile
  have hheader : (Line.classify (locationLine d)).isHeader = false := by
    rw [hlocation]
    rfl
  have hcontext : ∀ l ∈ laterLines d ++ [locationLine d],
      (Line.classify l).isHeader = false := by
    rw [List.forall_mem_append]
    exact ⟨fun l hl => (h.later l hl).1, by simpa using hheader⟩
  have hblock : Block.extended ⟨d.summary, []⟩ (laterLines d ++ [locationLine d] ++ rest) =
      { message := d.summary
        body := laterLines d ++ locationLine d :: Block.untilHeader rest } := by
    rw [Block.extended, Block.untilHeader_append hcontext, List.append_assoc]
    rfl
  have hlater : ∀ l ∈ (Block.mk d.summary (laterLines d)).body,
      (Line.classify l).isLocation = false := fun l hl => (h.later l hl).2
  have htold := Block.diagnostics_of_location policy (Block.untilHeader rest) hlater hlocation
  rw [printedLines, List.cons_append, List.cons_append, Block.ofLines_header h.classify_headerLine,
    List.flatMap_cons, Block.ofLines_append hcontext, hblock, htold,
    joinWith_summary_laterLines, List.singleton_append, ← hfile]

end Printable

section Run

variable {ds : List Diagnostic} (hds : ∀ d ∈ ds, Printable d)
include hds

theorem ofLines_flatMap_printedLines (policy : UnlocatedPolicy) :
    (Block.ofLines (ds.flatMap printedLines)).flatMap (Block.diagnostics policy) =
      ds.map fun d => { d with severity := Diagnostic.errorSeverity } := by
  induction ds with
  | nil => rfl
  | cons d ds ih =>
    obtain ⟨hd, hds⟩ := List.forall_mem_cons.mp hds
    rw [List.flatMap_cons, hd.ofLines_printedLines, ih hds, List.map_cons]

/-- With or without the removal of colours, the lines read are those printed. -/
theorem lines_flatMap_printed (reading : Reading) :
    reading.lines (ds.flatMap printed) = ds.flatMap printedLines := by
  have hplain : ∀ line ∈ ds.flatMap printedLines, ∀ c ∈ line, IsPlain c := by
    intro line hline
    obtain ⟨d, hd, hline⟩ := List.mem_flatMap.mp hline
    exact (hds d hd).isPlain_of_mem_printedLines line hline
  have hunbroken : ∀ line ∈ ds.flatMap printedLines, Text.Unbroken line := fun line hline =>
    ⟨fun hr => (hplain line hline _ hr).1 rfl, fun hn => (hplain line hline _ hn).2.1 rfl⟩
  have hstrip : ∀ line ∈ ds.flatMap printedLines, Sgr.strip line = line := fun line hline =>
    Sgr.strip_eq_self fun he => (hplain line hline _ he).2.2 rfl
  have htext : ds.flatMap printed =
      (ds.flatMap printedLines).flatMap fun line => line ++ ['\n'] := by
    rw [List.flatMap_assoc]
    exact List.flatMap_congr fun d _ => printed_eq_lines d
  have hlines : (Text.splitLines (ds.flatMap printed)).map (·.text) =
      ds.flatMap printedLines := by
    rw [Text.map_text_splitLines, htext, Text.linePieces_fed hunbroken, List.map_map]
    exact List.map_id _
  rw [← hlines, List.forall_mem_map] at hstrip
  rw [← hlines, Reading.lines]
  refine List.map_congr_left fun line hline => ?_
  rw [hstrip line hline, ite_self]

end Run

/-- Printed diagnostics are read back as errors, whatever the policy and whether or not colours
are removed. -/
theorem parseOutput_printed (reading : Reading) {ds : List Diagnostic}
    (hds : ∀ d ∈ ds, Printable d) :
    parseOutput reading (ds.flatMap printed) =
      ds.map fun d => { d with severity := Diagnostic.errorSeverity } := by
  rw [parseOutput, parseLines_eq_blocks, map_lineText_outputLines, lines_flatMap_printed hds,
    ofLines_flatMap_printedLines hds]

/-- A message of three lines behind a file with a space, and no message at all. -/
def sampleDiagnostics : List Diagnostic :=
  [⟨"no such name\n\n  let x = y".toList, some "my file.ab".toList, 999999999999999999, 1,
      Diagnostic.errorSeverity, by decide⟩,
    ⟨[], some "b.ab".toList, 1, 20, "warning".toList, by decide⟩]

theorem parseOutput_printed_sample :
    (∀ d ∈ sampleDiagnostics, Printable d) ∧
      parseOutput {} (sampleDiagnostics.flatMap printed) =
        sampleDiagnostics.map fun d => { d with severity := Diagnostic.errorSeverity } := by
  have hprintable : ∀ d ∈ sampleDiagnostics, Printable d := by decide +kernel
  exact ⟨hprintable, parseOutput_printed {} hprintable⟩

end Compiler
end AmberTools
