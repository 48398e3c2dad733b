import AmberTools.Proofs.CommandLine.Failures
import AmberTools.Proofs.Settings.Faults

/-!
# Runs with a settings file

A settings file that is at fault should end a run with the exit code for failures, whatever else
the run is to do. It does so where loading fails with a fault of the settings, and where the file is
not UTF-8, which is known from other files. Where loading fails in one of the other ways that are
not foreseen, the failure escapes.

## Main results

* `CommandLine.ending_of_load_error`: how a run ends whose settings file fails.
* `CommandLine.settings_file_outcomes`: the files with one way to fail, and how runs end.
-/

namespace AmberTools
namespace CommandLine

variable {s : Surroundings} {name : Text} {fault : Settings.LoadFault}

/-- A run whose settings file fails ends as the failure does. -/
theorem ending_of_load_error [Value.Writing] [Yaml.Reader] [Formatter.Others]
    (h : Settings.load s.files (Path.ofText name) = .error fault)
    (verbosity : Nat) (command : Command) :
    (runRequest s { verbosity, config := .value name, command }).ending =
      (Failure.ofLoad fault).ending := by
  refine Fails.ending (.loading ?_)
  rw [loadSettings, h]

/-- Faults of the settings have an exit code. -/
theorem ofLoad_ending_of_isSettings (h : fault.isSettings = true) :
    (Failure.ofLoad fault).ending = .exit 2 := by
  cases fault with
  | invalid fault =>
    cases fault with
    | unwritable => exact nomatch h
    | _ => rfl
  | encoding => exact nomatch h
  | nullCharacter => exact nomatch h
  | reader => exact nomatch h
  | _ => rfl

/-- Of the others, only that of the file's encoding has one. -/
theorem ofLoad_ending_of_not_isSettings (h : fault.isSettings = false) :
    (∃ e, fault = .encoding e) ∧ (Failure.ofLoad fault).ending = .exit 2 ∨
      (∀ e, fault ≠ .encoding e) ∧ ∃ e, (Failure.ofLoad fault).ending = .escaped e := by
  cases fault with
  | encoding e => exact .inl ⟨⟨e, rfl⟩, rfl⟩
  | nullCharacter => exact .inr ⟨nofun, _, rfl⟩
  | reader => exact .inr ⟨nofun, _, rfl⟩
  | invalid fault =>
    cases fault with
    | unwritable => exact .inr ⟨nofun, _, rfl⟩
    | _ => exact nomatch h
  | _ => exact nomatch h

/-- A settings file gives settings or fails with a fault of the settings if and only if it fails in
none of the ways that are not foreseen. A fault of the settings ends every command with the exit
code for failures. If loading fails in a way that is not foreseen, then a run ends with that code
only where the file is not UTF-8, and otherwise with a failure that escapes. This holds whatever a
reader of YAML texts makes of the file, and whatever values are written. -/
theorem settings_file_outcomes [Value.Writing] [Yaml.Reader] [Formatter.Others]
    (s : Surroundings) (name : Text) (verbosity : Nat) (command : Command) :
    let loading := Settings.load s.files (Path.ofText name)
    let ending := (runRequest s { verbosity, config := .value name, command }).ending
    (((∃ loaded, loading = .ok loaded) ∨
        ∃ fault, loading = .error fault ∧ fault.isSettings = true) ↔
      ∀ fault, ¬ Settings.Unforeseen s.files (Path.ofText name) fault) ∧
    (∀ fault, loading = .error fault → fault.isSettings = true → ending = .exit 2) ∧
    ∀ fault, Settings.Unforeseen s.files (Path.ofText name) fault →
      loading = .error fault ∧
        ((∃ e, fault = .encoding e) ∧ ending = .exit 2 ∨
          (∀ e, fault ≠ .encoding e) ∧ ∃ e, ending = .escaped e) := by
  intro loading ending
  have hending {fault : Settings.LoadFault} (h : loading = .error fault) :
      ending = (Failure.ofLoad fault).ending := ending_of_load_error h verbosity command
  refine ⟨⟨?_, fun hnone => ?_⟩, fun fault h hfault => ?_, fun fault h => ?_⟩
  · rintro (⟨loaded, hloaded⟩ | ⟨fault, hfault, hsettings⟩) other hother
    · exact nomatch hloaded.symm.trans (Settings.load_unforeseen_iff.mpr hother).1
    · obtain ⟨hloading, hnot⟩ := Settings.load_unforeseen_iff.mpr hother
      obtain rfl := Except.error.inj (hfault.symm.trans hloading)
      exact Bool.false_ne_true (hnot.symm.trans hsettings)
  · cases hloading : loading with
    | ok loaded => exact .inl ⟨loaded, rfl⟩
    | error fault =>
      cases hfault : fault.isSettings with
      | true => exact .inr ⟨fault, rfl, hfault⟩
      | false =>
        exact absurd (Settings.load_unforeseen_iff.mp ⟨hloading, hfault⟩) (hnone fault)
  · rw [hending h, ofLoad_ending_of_isSettings hfault]
  · obtain ⟨hloading, hfault⟩ := Settings.load_unforeseen_iff.mpr h
    rw [hending hloading]
    exact ⟨hloading, ofLoad_ending_of_not_isSettings hfault⟩

/-- A source file, and settings with a date whose month is none. -/
def misdatedFiles : FileSet :=
  .ofList [("c.yml".toList, Utf8.encode "indent_unit: 2020-13-45\n".toList),
    ("m.ab".toList, Utf8.encode "let a = 1\n".toList)]

/-- The date is no fault of the settings, and it escapes. -/
theorem misdated_settings_escape :
    (∃ fault, Settings.load misdatedFiles (Path.ofText "c.yml".toList) = .error fault ∧
        fault.isSettings = false) ∧
      ∃ e, (runRequest { files := misdatedFiles }
        { config := .value "c.yml".toList,
          command := .indent "m.ab".toList .print .omitted }).ending = .escaped e := by
  have hload : ∃ fault, Settings.load misdatedFiles (Path.ofText "c.yml".toList) =
      .error (.reader fault) := by
    have h : (match Settings.load misdatedFiles (Path.ofText "c.yml".toList) with
        | .error (.reader _) => true
        | _ => false) = true := by decide +kernel
    split at h
    · exact ⟨_, ‹_›⟩
    · exact nomatch h
  obtain ⟨fault, hload⟩ := hload
  exact ⟨⟨_, hload, rfl⟩, _, ending_of_load_error (s := { files := misdatedFiles }) hload _ _⟩

end CommandLine
end AmberTools
