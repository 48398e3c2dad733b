import AmberTools.Diagnostic.Report
import AmberTools.Proofs.Compiler.Blocks
import AmberTools.Proofs.Compiler.Checked
import AmberTools.Proofs.Compiler.Classified
import AmberTools.Proofs.Text.Colours

/-!
# Well-formed diagnostics

Whatever a compiler puts out, the diagnostics that are read from it are errors with a trimmed first
line and without carriage returns. A diagnostic with a place has a file without colons and line
breaks, and a line and column of at most eighteen digits, counted from one. Without a place, file,
line and column are all missing, and the policy is to keep such diagnostics. All this is so because
a diagnostic consists of lines of one block: its message starts with what a header announces, and
its place is what a location gives.

## Main definitions

* `Compiler.Located`, `Compiler.WellFormed`: what holds of every diagnostic.

## Main results

* `Compiler.Block.exists_header_of_mem`, `Compiler.Block.exists_message_of_mem`: the lines that
  a diagnostic consists of.
* `Compiler.wellFormed_of_mem_parseOutput`: diagnostics of an output are well formed.
* `Compiler.parseChecked_wellFormed`: every output is read to its end, into such diagnostics.
-/

namespace AmberTools
namespace Compiler

/-- A diagnostic with a position in a file, whose name can stand in front of it. -/
structure Located (d : Diagnostic) (file : Text) : Prop where
  file_eq : d.file = some file
  ne_nil : file ≠ []
  colon_notMem : ':' ∉ file
  unbroken : Text.Unbroken file
  line : 1 ≤ d.line ∧ d.line ≤ 10 ^ 18 - 1
  column : 1 ≤ d.column ∧ d.column ≤ 10 ^ 18 - 1

/-- What holds of every diagnostic that is read with a policy. -/
structure WellFormed (policy : UnlocatedPolicy) (d : Diagnostic) : Prop where
  severity : d.severity = Diagnostic.errorSeverity
  return_notMem : '\r' ∉ d.message
  trimmed : Text.trim d.summary = d.summary
  place : (∃ file, Located d file) ∨
    (d.file = none ∧ d.line = 0 ∧ d.column = 0) ∧ policy = .keep

/-! ### The lines of a diagnostic -/

namespace Block

variable {lines : List Text} {block : Block}

/-- A block starts at a header, and its other lines are lines of the output as well. -/
theorem exists_header_of_mem (h : block ∈ ofLines lines) :
    (∃ line ∈ lines, Line.classify line = .header block.message) ∧
      ∀ line ∈ block.body, line ∈ lines := by
  induction lines with
  | nil => exact absurd h List.not_mem_nil
  | cons line lines ih =>
    have hlater (h : block ∈ ofLines lines) :
        (∃ l ∈ line :: lines, Line.classify l = .header block.message) ∧
          ∀ l ∈ block.body, l ∈ line :: lines := by
      obtain ⟨⟨l, hl, hheader⟩, hbody⟩ := ih h
      exact ⟨⟨l, List.mem_cons_of_mem _ hl, hheader⟩,
        fun l hl => List.mem_cons_of_mem _ (hbody l hl)⟩
    by_cases hheader : (Line.classify line).isHeader = true
    · obtain ⟨message, hline⟩ := Line.isHeader_iff.mp hheader
      rw [ofLines_header hline, List.mem_cons] at h
      rcases h with rfl | h
      · refine ⟨⟨line, List.mem_cons_self, hline⟩, fun l hl => List.mem_cons_of_mem _ ?_⟩
        exact (List.takeWhile_prefix _).subset (by simpa [extended, untilHeader] using hl)
      · exact hlater h
    · rw [ofLines_other (by simpa using hheader)] at h
      exact hlater h

/-- The message of a diagnostic consists of its block's message and further lines of the block,
and its place is that of a location in the block. It has none only if it is kept without one. -/
theorem exists_message_of_mem {policy : UnlocatedPolicy} {d : Diagnostic}
    (h : d ∈ block.diagnostics policy) :
    d.severity = Diagnostic.errorSeverity ∧
      (∃ body, body ⊆ block.body ∧ d.message = Text.joinWith ['\n'] (block.message :: body)) ∧
      ((∃ line ∈ block.body, ∃ file number column pos,
          Line.classify line = .location file number column pos ∧
            d.file = some file ∧ d.line = number ∧ d.column = column) ∨
        (d.file = none ∧ d.line = 0 ∧ d.column = 0) ∧ policy = .keep) := by
  unfold diagnostics at h
  split at h
  · rename_i file number column pos hfind
    obtain rfl := List.mem_singleton.mp h
    obtain ⟨line, hline, hlocation⟩ := List.mem_map.mp (List.mem_of_find?_eq_some hfind)
    exact ⟨rfl, ⟨_, (List.takeWhile_prefix _).subset, rfl⟩,
      .inl ⟨line, hline, file, number, column, pos, hlocation, rfl, rfl, rfl⟩⟩
  · cases policy with
    | drop => exact absurd h List.not_mem_nil
    | keep =>
      obtain rfl := List.mem_singleton.mp h
      exact ⟨rfl, ⟨block.body, List.Subset.refl _, rfl⟩, .inr ⟨⟨rfl, rfl, rfl⟩, rfl⟩⟩

end Block

/-! ### Well-formedness -/

/-- No line that is read has a line break in it. -/
theorem unbroken_of_mem_lines {reading : Reading} {output line : Text}
    (h : line ∈ reading.lines output) : Text.Unbroken line := by
  obtain ⟨source, hsource, rfl⟩ := List.mem_map.mp h
  have hunbroken := Text.unbroken_of_mem_splitLines hsource
  split
  · exact hunbroken.sublist (Sgr.strip_sublist _)
  · exact hunbroken

/-- The first of some joined lines is in front of the first line feed. -/
theorem takeWhile_joinWith {line : Text} (h : '\n' ∉ line) (lines : List Text) :
    (Text.joinWith ['\n'] (line :: lines)).takeWhile (· != '\n') = line := by
  obtain ⟨rest, hjoin, hrest⟩ := Text.exists_joinWith_cons '\n' line lines
  rw [hjoin]
  refine Text.takeWhile_append (fun c hc => ?_) fun c hc => by simp [hrest c hc]
  simpa using fun hn : c = '\n' => h (hn ▸ hc)

/-- A diagnostic that is read from an output is well formed. -/
theorem wellFormed_of_mem_parseOutput {reading : Reading} {output : Text} {d : Diagnostic}
    (h : d ∈ parseOutput reading output) : WellFormed reading.unlocated d := by
  rw [parseOutput, parseLines_eq_blocks, map_lineText_outputLines, List.mem_flatMap] at h
  obtain ⟨block, hblock, hd⟩ := h
  obtain ⟨⟨header, hheader, hclassify⟩, hlines⟩ := Block.exists_header_of_mem hblock
  obtain ⟨hseverity, ⟨body, hbody, hmessage⟩, hplace⟩ := Block.exists_message_of_mem hd
  obtain ⟨htrimmed, hfeed, hchars⟩ := Line.header_of_classify hclassify
  refine ⟨hseverity, ?_, ?_, hplace.imp_left ?_⟩
  · -- a carriage return would stand in the header or in a line behind it
    rw [hmessage]
    intro hreturn
    rcases Text.mem_of_mem_joinWith hreturn with hc | ⟨piece, hpiece, hc⟩
    · exact absurd hc (by decide)
    · rcases List.mem_cons.mp hpiece with rfl | hpiece
      · exact (unbroken_of_mem_lines hheader).1 (hchars _ hc)
      · exact (unbroken_of_mem_lines (hlines _ (hbody hpiece))).1 hc
  · rw [Diagnostic.summary, hmessage, takeWhile_joinWith hfeed, htrimmed]
  · rintro ⟨line, hline, file, number, column, pos, hlocation, hfile, rfl, rfl⟩
    obtain ⟨hne, hcolon, hnumber, hcolumn, hchars⟩ := Line.location_of_classify hlocation
    have hunbroken := unbroken_of_mem_lines (hlines _ hline)
    exact ⟨file, hfile, hne, hcolon,
      ⟨fun hr => hunbroken.1 (hchars _ hr), fun hn => hunbroken.2 (hchars _ hn)⟩,
      ⟨pos.1, Nat.le_pred_of_lt hnumber⟩, ⟨pos.2, Nat.le_pred_of_lt hcolumn⟩⟩

/-- Reading an output breaks no check, whatever the output, with or without colours, and with
either policy. Every diagnostic that it gives is well formed, and so there is an error if and only
if there is a diagnostic at all. -/
theorem parseChecked_wellFormed (reading : Reading) (output : Text) :
    parseChecked reading.stripColours reading.unlocated.name output =
        .ok (parseOutput reading output) ∧
      (∀ d ∈ parseOutput reading output, WellFormed reading.unlocated d) ∧
      (Diagnostic.anyError (parseOutput reading output) = true ↔
        parseOutput reading output ≠ []) := by
  have hwell : ∀ d ∈ parseOutput reading output, WellFormed reading.unlocated d :=
    fun _ => wellFormed_of_mem_parseOutput
  refine ⟨parseChecked_eq reading output, hwell, ?_⟩
  rw [Diagnostic.anyError, List.any_eq_true]
  constructor
  · rintro ⟨d, hd, -⟩
    exact List.ne_nil_of_mem hd
  · intro hne
    obtain ⟨d, hd⟩ := List.exists_mem_of_ne_nil _ hne
    exact ⟨d, hd, by rw [Diagnostic.isError, (hwell d hd).severity, beq_self_eq_true]⟩

end Compiler
end AmberTools
