import AmberTools.Proofs.CommandLine.Indent
import AmberTools.Proofs.Reindent.Unified

/-!
# Line breaks of overwritten files

A file is read with every line break as a line feed, and overwritten with line feeds only. Nothing
is written to a file whose lines are at their places already, whatever line breaks it has. So a file
keeps its terminators in two cases: there is nothing to move, or there is no carriage return. In any
other file all line breaks become line feeds along with the move.

## Main results

* `CommandLine.runRequest_inPlace_bytes`: the bytes of a file behind the command.
* `CommandLine.inPlace_keeps_terminators_iff`: the files that keep their terminators.
-/

namespace AmberTools
namespace CommandLine

open Arguments

section Runs

variable [Value.Writing] [Yaml.Reader] [Formatter.Others] {s : Surroundings} {config : Given Text}
  {unit : Given Int} {path : Text} {loaded settings : Settings} {log : List LogRecord}
  {bytes : List UInt8} {text : Text}

/-- The file at the path has its old bytes, or those of the reindented text without carriage
returns. -/
theorem runRequest_inPlace_bytes
    (hbytes : Source.readBytes s.files (Path.ofText path) = .ok bytes)
    (htext : Utf8.decode bytes = .ok text)
    (hload : loadSettings s.files config = .ok (loaded, log))
    (hsettings : loaded.override (unitOverrides unit) = .ok settings) (verbosity : Nat) :
    Source.readBytes
        (runRequest s { verbosity, config, command := .indent path .inPlace unit }).files
        (Path.ofText path) =
      .ok (if Reindent.reindent settings.indentUnit (Text.unifyBreaks text) = Text.unifyBreaks text
        then bytes
        else Utf8.encode (Reindent.reindent settings.indentUnit (Text.unifyBreaks text))) := by
  have hfiles := (runRequest_inPlace hload hsettings (read_eq hbytes htext) verbosity).1
  rw [show (runRequest s _).files = _ from hfiles, Reindent.Outcome.changed, Reindent.run]
  by_cases hsame :
      Reindent.reindent settings.indentUnit (Text.unifyBreaks text) = Text.unifyBreaks text
  · rw [if_pos hsame, if_neg (by simp [hsame])]
    exact hbytes
  · rw [if_neg hsame, if_pos (by simp [hsame])]
    exact Source.readBytes_write_self hbytes _

/-- Overwriting a file that has no blank line succeeds, and afterwards the file is UTF-8 again. If
its lines are at their places already, it has the same text as before. Otherwise it has the
reindented text with all line breaks unified. So it has the reindented text itself, and each line
has the terminator that it had, if and only if there is nothing to move or no carriage return. -/
theorem inPlace_keeps_terminators_iff
    (hbytes : Source.readBytes s.files (Path.ofText path) = .ok bytes)
    (htext : Utf8.decode bytes = .ok text)
    (hload : loadSettings s.files config = .ok (loaded, log))
    (hsettings : loaded.override (unitOverrides unit) = .ok settings)
    (hvisible : ∀ line ∈ Text.splitLines text, line.isBlank = false) (verbosity : Nat) :
    let o := runRequest s { verbosity, config, command := .indent path .inPlace unit }
    let formatted := (Reindent.run settings text).formatted
    let terminators := fun text => (Text.splitLines text).map (·.terminator)
    o.ending = .exit 0 ∧
      ∃ after written, Source.readBytes o.files (Path.ofText path) = .ok after ∧
        Utf8.decode after = .ok written ∧
        written = (if formatted = text then text else Text.unifyBreaks formatted) ∧
        (written = formatted ↔ formatted = text ∨ '\r' ∉ text) ∧
        (terminators written = terminators text ↔ formatted = text ∨ '\r' ∉ text) := by
  intro o formatted terminators
  have hending := (runRequest_inPlace hload hsettings (read_eq hbytes htext) verbosity).2
  have hafter := runRequest_inPlace_bytes hbytes htext hload hsettings verbosity
  have hpieces : ∀ piece ∈ Text.linePieces text, Text.allBlank piece.1 = false := by
    rw [← Text.map_splitLines]
    exact List.forall_mem_map.mpr hvisible
  have hterminators (text : Text) :
      terminators text = (Text.linePieces text).map Prod.snd := by
    rw [← Text.map_splitLines, List.map_map]
    rfl
  have hkept : (Text.linePieces formatted).map Prod.snd = (Text.linePieces text).map Prod.snd :=
    Reindent.map_snd_linePieces_reindent hpieces
  refine ⟨hending, ?_⟩
  by_cases hsame : formatted = text
  · -- nothing is written
    have hread := (Reindent.reindent_unifyBreaks_eq_self_iff text).mpr hsame
    rw [if_pos hread] at hafter
    refine ⟨bytes, text, hafter, htext, (if_pos hsame).symm, ?_, ?_⟩
    · exact iff_of_true hsame.symm (.inl hsame)
    · exact iff_of_true rfl (.inl hsame)
  · have hread := mt (Reindent.reindent_unifyBreaks_eq_self_iff text).mp hsame
    rw [if_neg hread, Reindent.reindent_unifyBreaks hpieces] at hafter
    refine ⟨_, _, hafter, Utf8.decode_encode _, (if_neg hsame).symm, ?_, ?_⟩
    · rw [or_iff_right hsame, Text.return_mem_iff, ← hkept, ← Text.return_mem_iff]
      exact Text.unifyBreaks_eq_self_iff
    · rw [or_iff_right hsame, hterminators, hterminators, Text.linePieces_unifyBreaks,
        List.map_map, ← Text.map_unifyBreaks_terminators_eq_self_iff, ← hkept, List.map_map]
      rfl

end Runs

/-- A file with all three line breaks, and the same file with its second line out of place. -/
def returnFiles : FileSet :=
  .ofList [("even.ab".toList, Utf8.encode "if a \x7b\r\n    b\r\x7d\n".toList),
    ("uneven.ab".toList, Utf8.encode "if a \x7b\r\nb\r\x7d\n".toList)]

/-- Lines that are at their places keep all three line breaks. -/
theorem inPlace_keeps_terminators_returnFiles :
    let o := runRequest { files := returnFiles }
      { command := .indent "even.ab".toList .inPlace .omitted }
    ∃ after, Source.readBytes o.files (Path.ofText "even.ab".toList) = .ok after ∧
      Utf8.decode after = .ok "if a \x7b\r\n    b\r\x7d\n".toList := by
  intro o
  have hbytes : Source.readBytes returnFiles (Path.ofText "even.ab".toList) =
      .ok (Utf8.encode "if a \x7b\r\n    b\r\x7d\n".toList) := by decide +kernel
  have hvisible : ∀ line ∈ Text.splitLines "if a \x7b\r\n    b\r\x7d\n".toList,
      line.isBlank = false := by decide +kernel
  obtain ⟨-, after, written, hafter, hwritten, htext, -, -⟩ :=
    inPlace_keeps_terminators_iff (s := { files := returnFiles }) hbytes (Utf8.decode_encode _)
      (rfl : loadSettings returnFiles .omitted = .ok (.default, []))
      (rfl : Settings.default.override (unitOverrides .omitted) = .ok .default) hvisible 0
  have hsame : (Reindent.run .default "if a \x7b\r\n    b\r\x7d\n".toList).formatted =
      "if a \x7b\r\n    b\r\x7d\n".toList := by decide +kernel
  rw [htext, if_pos hsame] at hwritten
  exact ⟨after, hafter, hwritten⟩

/-- A line that is moved takes the carriage returns of all lines with it. -/
theorem inPlace_loses_returns :
    let o := runRequest { files := returnFiles }
      { command := .indent "uneven.ab".toList .inPlace .omitted }
    let text := "if a \x7b\r\nb\r\x7d\n".toList
    Source.readBytes returnFiles (Path.ofText "uneven.ab".toList) = .ok (Utf8.encode text) ∧
      (∀ line ∈ Text.splitLines text, line.isBlank = false) ∧
      ¬ ∃ after, Source.readBytes o.files (Path.ofText "uneven.ab".toList) = .ok after ∧
        Utf8.decode after = .ok (Reindent.run .default text).formatted := by
  intro o text
  have hbytes : Source.readBytes returnFiles (Path.ofText "uneven.ab".toList) =
      .ok (Utf8.encode text) := by decide +kernel
  refine ⟨hbytes, by decide +kernel, ?_⟩
  rintro ⟨after, hafter, hwritten⟩
  have hnew : Source.readBytes o.files (Path.ofText "uneven.ab".toList) =
      .ok (Utf8.encode "if a \x7b\n    b\n\x7d\n".toList) := by decide +kernel
  obtain rfl := Except.ok.inj (hnew.symm.trans hafter)
  rw [Utf8.decode_encode] at hwritten
  revert hwritten
  decide +kernel

end CommandLine
end AmberTools
