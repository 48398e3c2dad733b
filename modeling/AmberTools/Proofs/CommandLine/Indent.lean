import AmberTools.CommandLine.Run
import AmberTools.Proofs.Files.Written
import AmberTools.Proofs.Reindent.Structure
import AmberTools.Proofs.Settings.Held
import AmberTools.Proofs.Text.Feeds
import AmberTools.Proofs.Text.Utf8

/-!
# The modes of reindenting a file

A file can be reindented in three ways: the new text is printed, the file is overwritten, or it is
only told whether there is anything to do. All three read the file in the same way, with every line
break as a line feed, and compare the reindented text with what they have read. So the file is
overwritten just when there is something to do, and with what is printed. Overwriting also changes
carriage returns into line feeds, but not on its own account. Afterwards there is nothing left to
do, since the bytes that have been written are read as the text that they were made of, and since
reindenting is idempotent.

## Main results

* `CommandLine.runRequest_indent`: what the command does, by its mode.
* `CommandLine.loadSettings_write`: overwriting a file leaves settings in other files alone.
* `CommandLine.indent_modes_agree`: the modes agree, also behind a file that has been overwritten.
-/

namespace AmberTools
namespace CommandLine

open Arguments

variable {s : Surroundings} {config : Given Text} {unit : Given Int} {path : Text}
  {loaded settings : Settings} {log : List LogRecord} {source : Text}

/-! ### The command -/

section Runs

variable [Value.Writing] [Yaml.Reader] [Formatter.Others]

/-- The outcome of the command, from the file's text and the settings. -/
theorem runRequest_indent (hload : loadSettings s.files config = .ok (loaded, log))
    (hsettings : loaded.override (unitOverrides unit) = .ok settings)
    (hsource : Source.read s.files (Path.ofText path) = .ok source) (mode : IndentMode)
    (verbosity : Nat) :
    let done := finishIndent s.files (Path.ofText path) mode (Reindent.run settings source)
    runRequest s { verbosity, config, command := .indent path mode unit } =
      CommandResult.outcome verbosity { done with effects := done.effects.behind log } := by
  simp only [runRequest, hload, runCommand, runIndent, hsettings, hsource]

section Modes

variable (hload : loadSettings s.files config = .ok (loaded, log))
  (hsettings : loaded.override (unitOverrides unit) = .ok settings)
  (hsource : Source.read s.files (Path.ofText path) = .ok source) (verbosity : Nat)
include hload hsettings hsource

/-- The check tells whether reindenting changes the text. -/
theorem runRequest_check :
    let o := runRequest s { verbosity, config, command := .indent path .check unit }
    o.ending = .exit (if (Reindent.run settings source).changed then 1 else 0) ∧
      o.files = s.files := by
  rw [runRequest_indent hload hsettings hsource]
  cases hchanged : (Reindent.run settings source).changed <;>
    simp [finishIndent, hchanged, CommandResult.outcome, Effects.behind, exitFindings, exitOkay]

/-- The reindented text is printed. -/
theorem runRequest_print :
    let o := runRequest s { verbosity, config, command := .indent path .print unit }
    o.output = (Reindent.run settings source).formatted ∧ o.ending = .exit 0 ∧
      o.files = s.files := by
  rw [runRequest_indent hload hsettings hsource]
  exact ⟨rfl, rfl, rfl⟩

/-- The file is overwritten if reindenting changes the text. -/
theorem runRequest_inPlace :
    let o := runRequest s { verbosity, config, command := .indent path .inPlace unit }
    o.files = (if (Reindent.run settings source).changed then
        s.files.write (Path.ofText path) (Utf8.encode (Reindent.run settings source).formatted)
      else s.files) ∧ o.ending = .exit 0 := by
  rw [runRequest_indent hload hsettings hsource]
  cases hchanged : (Reindent.run settings source).changed <;>
    simp [finishIndent, hchanged, CommandResult.outcome, Effects.behind, exitOkay]

end Modes

end Runs

/-! ### Files that have been overwritten -/

/-- Settings do not depend on the file that is overwritten if they are in another one. -/
theorem loadSettings_write [Value.Writing] [Yaml.Reader] {files : FileSet} {path : Path}
    (h : ∀ name, config = .value name → files.place? (Path.ofText name) ≠ files.place? path)
    (bytes : List UInt8) :
    loadSettings (files.write path bytes) config = loadSettings files config := by
  cases config with
  | omitted => rfl
  | empty => rfl
  | value name => simp only [loadSettings, Settings.load_write_of_ne (h name rfl)]

theorem read_eq {files : FileSet} {path : Path} {bytes : List UInt8} {text : Text}
    (hbytes : Source.readBytes files path = .ok bytes) (htext : Utf8.decode bytes = .ok text) :
    Source.read files path = .ok (Text.unifyBreaks text) := by
  rw [Source.read, hbytes]
  dsimp only
  rw [Source.decode, htext]
  rfl

/-- A text without carriage returns is read from the file that it has been written to. -/
theorem read_write {files : FileSet} {path : Path} {old : List UInt8} {written : Text}
    (hbytes : Source.readBytes files path = .ok old) (hreturn : '\r' ∉ written) :
    Source.read (files.write path (Utf8.encode written)) path = .ok written := by
  rw [read_eq (Source.readBytes_write_self hbytes _) (Utf8.decode_encode written),
    Text.unifyBreaks_eq_self hreturn]

/-- Bytes that are read as another text than the one written are changed by writing. -/
theorem encode_ne {bytes : List UInt8} {text written : Text} (htext : Utf8.decode bytes = .ok text)
    (hreturn : '\r' ∉ written) (hne : written ≠ Text.unifyBreaks text) :
    Utf8.encode written ≠ bytes := by
  rintro rfl
  obtain rfl := Except.ok.inj ((Utf8.decode_encode written).symm.trans htext)
  exact hne (Text.unifyBreaks_eq_self hreturn).symm

/-! ### Agreement -/

section Agreement

variable [Value.Writing] [Yaml.Reader] [Formatter.Others]

/-- Nothing is left to do for a text that reindenting does not change. -/
theorem runRequest_unchanged (hload : loadSettings s.files config = .ok (loaded, log))
    (hsettings : loaded.override (unitOverrides unit) = .ok settings)
    (hsource : Source.read s.files (Path.ofText path) = .ok source)
    (hsame : Reindent.reindent settings.indentUnit source = source) (verbosity : Nat) :
    (runRequest s { verbosity, config, command := .indent path .check unit }).ending = .exit 0 ∧
      (runRequest s { verbosity, config, command := .indent path .inPlace unit }).files =
        s.files := by
  have hchanged : (Reindent.run settings source).changed = false := by
    simp only [Reindent.Outcome.changed, Reindent.run, hsame, bne_self_eq_false]
  have hcheck := (runRequest_check hload hsettings hsource verbosity).1
  have hinPlace := (runRequest_inPlace hload hsettings hsource verbosity).1
  rw [hchanged] at hcheck hinPlace
  exact ⟨hcheck, hinPlace⟩

/-- Nothing is left to do behind a file that has been overwritten with a reindented text. -/
theorem runRequest_written {old : List UInt8}
    (hbytes : Source.readBytes s.files (Path.ofText path) = .ok old)
    (hload : loadSettings s.files config = .ok (loaded, log))
    (hother : ∀ name, config = .value name →
      s.files.place? (Path.ofText name) ≠ s.files.place? (Path.ofText path))
    (hsettings : loaded.override (unitOverrides unit) = .ok settings) (hreturn : '\r' ∉ source)
    (verbosity : Nat) :
    let files := s.files.write (Path.ofText path)
      (Utf8.encode (Reindent.run settings source).formatted)
    (runRequest { s with files }
        { verbosity, config, command := .indent path .check unit }).ending = .exit 0 ∧
      (runRequest { s with files }
        { verbosity, config, command := .indent path .inPlace unit }).files = files := by
  intro files
  have hload' : loadSettings files config = .ok (loaded, log) :=
    (loadSettings_write hother _).trans hload
  have hread : Source.read files (Path.ofText path) =
      .ok (Reindent.run settings source).formatted :=
    read_write hbytes (Reindent.return_notMem_formatted settings hreturn)
  exact runRequest_unchanged (s := { s with files }) hload' hsettings hread
    (Reindent.reindent_reindent settings.indentUnit source) verbosity

/-- The modes of reindenting a file agree, for settings that do not come from the file itself. The
check finds something just when overwriting changes the bytes of the file, and just when what is
printed differs from what is read. Then the bytes written are those of what is printed, and
otherwise nothing is written. Behind that, the check finds nothing, and overwriting the file again
changes nothing. -/
theorem indent_modes_agree {bytes : List UInt8} {text : Text}
    (hbytes : Source.readBytes s.files (Path.ofText path) = .ok bytes)
    (htext : Utf8.decode bytes = .ok text)
    (hload : loadSettings s.files config = .ok (loaded, log))
    (hother : ∀ name, config = .value name →
      s.files.place? (Path.ofText name) ≠ s.files.place? (Path.ofText path))
    (hsettings : loaded.override (unitOverrides unit) = .ok settings) :
    let run := fun (files : FileSet) (mode : IndentMode) (verbosity : Nat) =>
      runRequest { s with files } { verbosity, config, command := .indent path mode unit }
    let bytesIn := fun files => Source.readBytes files (Path.ofText path)
    ∀ v w,
      let checked := run s.files .check v
      let written := run s.files .inPlace w
      let printed := run s.files .print w
      (checked.ending = .exit 1 ∨ checked.ending = .exit 0) ∧ checked.files = s.files ∧
        (written.ending = .exit 0 ∧ printed.ending = .exit 0) ∧
        (checked.ending = .exit 1 ↔ bytesIn written.files ≠ .ok bytes) ∧
        (checked.ending = .exit 1 ↔ printed.output ≠ Text.unifyBreaks text) ∧
        (checked.ending = .exit 1 →
          bytesIn written.files = .ok (Utf8.encode printed.output)) ∧
        (checked.ending = .exit 0 → written.files = s.files) ∧
        (run written.files .check v).ending = .exit 0 ∧
        (run written.files .inPlace v).files = written.files := by
  intro run bytesIn v w checked written printed
  have hsource := read_eq hbytes htext
  obtain ⟨hchecked, hcheckedFiles⟩ := runRequest_check hload hsettings hsource v
  obtain ⟨hwritten, hwrittenExit⟩ := runRequest_inPlace hload hsettings hsource w
  obtain ⟨hprinted, hprintedExit, -⟩ := runRequest_print hload hsettings hsource w
  have hreturn := Reindent.return_notMem_formatted settings (Text.return_notMem_unifyBreaks text)
  by_cases hsame : (Reindent.run settings (Text.unifyBreaks text)).formatted =
      Text.unifyBreaks text
  · -- nothing is done
    have hagain := runRequest_unchanged hload hsettings hsource hsame
    have hexit : checked.ending = .exit 0 := (hagain v).1
    have hfiles : written.files = s.files := (hagain w).2
    have hshown : printed.output = Text.unifyBreaks text := hprinted.trans hsame
    have hold : bytesIn written.files = .ok bytes := by
      rw [hfiles]
      exact hbytes
    have hno : checked.ending ≠ .exit 1 := by
      rw [hexit]
      exact nofun
    refine ⟨.inr hexit, hcheckedFiles, ⟨hwrittenExit, hprintedExit⟩,
      ⟨fun h => absurd h hno, fun h => absurd hold h⟩,
      ⟨fun h => absurd h hno, fun h => absurd hshown h⟩, fun h => absurd h hno, fun _ => hfiles, ?_⟩
    rw [hfiles]
    exact hagain v
  · -- the file is overwritten, and read again
    have hchanged : (Reindent.run settings (Text.unifyBreaks text)).changed = true :=
      bne_iff_ne.mpr hsame
    rw [hchanged] at hchecked hwritten
    have hexit : checked.ending = .exit 1 := hchecked
    have hfiles : written.files = s.files.write (Path.ofText path)
        (Utf8.encode (Reindent.run settings (Text.unifyBreaks text)).formatted) := hwritten
    have hshown : printed.output = (Reindent.run settings (Text.unifyBreaks text)).formatted :=
      hprinted
    have hnew : bytesIn written.files = .ok (Utf8.encode printed.output) := by
      rw [hshown, hfiles]
      exact Source.readBytes_write_self hbytes _
    have hbytesNe : bytesIn written.files ≠ .ok bytes := by
      rw [hnew, hshown]
      exact fun h => encode_ne htext hreturn hsame (Except.ok.inj h)
    have hno : checked.ending ≠ .exit 0 := by
      rw [hexit]
      exact nofun
    refine ⟨.inl hexit, hcheckedFiles, ⟨hwrittenExit, hprintedExit⟩,
      ⟨fun _ => hbytesNe, fun _ => hexit⟩, ⟨fun _ => hshown ▸ hsame, fun _ => hexit⟩,
      fun _ => hnew, fun h => absurd h hno, ?_⟩
    rw [hfiles]
    exact runRequest_written hbytes hload hother hsettings
      (Text.return_notMem_unifyBreaks text) v

end Agreement

/-- Settings, and a file with carriage returns whose second line is to be moved. -/
def unevenFiles : FileSet :=
  .ofList [("amber.yml".toList, Utf8.encode "amberpy:\n  indent_unit: 2\n".toList),
    ("main.ab".toList, Utf8.encode "fun f() \x7b\r\necho 1\r\n\x7d\n".toList)]

/-- Carriage returns become line feeds along with the move. -/
theorem indent_modes_agree_unevenFiles :
    let run := fun (files : FileSet) (mode : IndentMode) =>
      runRequest { files }
        { verbosity := 0, config := .value "amber.yml".toList,
          command := .indent "main.ab".toList mode .omitted }
    let written := (run unevenFiles .inPlace).files
    (run unevenFiles .check).ending = .exit 1 ∧
      Source.readBytes written (Path.ofText "main.ab".toList) =
        .ok (Utf8.encode "fun f() \x7b\n  echo 1\n\x7d\n".toList) ∧
      (run written .check).ending = .exit 0 := by
  intro run written
  have hbytes : Source.readBytes unevenFiles (Path.ofText "main.ab".toList) =
      .ok (Utf8.encode "fun f() \x7b\r\necho 1\r\n\x7d\n".toList) := by decide +kernel
  have hload : (loadSettings unevenFiles (.value "amber.yml".toList)).toOption.map (·.1) =
      some { indentUnit := 2 } := by decide +kernel
  obtain ⟨⟨loaded, log⟩, hresult, rfl⟩ := Option.map_eq_some_iff.mp hload
  have hloaded := Settings.eq_ok_of_toOption hresult
  have hother : ∀ name, Arguments.Given.value "amber.yml".toList = .value name →
      unevenFiles.place? (Path.ofText name) ≠
        unevenFiles.place? (Path.ofText "main.ab".toList) := by
    rintro name h
    obtain rfl := Given.value.inj h
    decide +kernel
  have hsettings : Settings.override { indentUnit := 2 } (unitOverrides .omitted) =
      .ok { indentUnit := 2 } := rfl
  have hsource := read_eq hbytes (Utf8.decode_encode _)
  have hshown : (run unevenFiles .print).output = "fun f() \x7b\n  echo 1\n\x7d\n".toList := by
    refine (runRequest_print (s := { files := unevenFiles }) hloaded hsettings hsource 0).1.trans ?_
    decide +kernel
  obtain ⟨-, -, -, -, hdiffers, hwritten, -, hagain, -⟩ := indent_modes_agree
    (s := { files := unevenFiles }) hbytes (Utf8.decode_encode _) hloaded hother hsettings 0 0
  have hexit : (run unevenFiles .check).ending = .exit 1 := by
    refine hdiffers.mpr ?_
    rw [show _ = _ from hshown]
    decide +kernel
  refine ⟨hexit, ?_, hagain⟩
  rw [← hshown]
  exact hwritten hexit

end CommandLine
end AmberTools
