import AmberTools.CommandLine.Run
import AmberTools.Proofs.Settings.Overrides

/-!
# Options that override settings

Commands take options that override settings. The options of a report always fit. A unit and a
compiler are checked as they are in a file, and they are the only ones at fault if overriding fails,
since all other fields come from settings.

## Main results

* `CommandLine.override_diagnosticOverrides`: the settings behind the options of a report.
* `CommandLine.override_unitOverrides`: the settings behind a unit.
* `CommandLine.override_checkOverrides`: the settings behind a compiler and the options of a report.
-/

namespace AmberTools
namespace CommandLine

open Arguments

variable (s : Settings) (o : DiagnosticOptions) {unit : Given Int} {executable : Given Text}

/-- The settings with the changes that the options of a report ask for. -/
def DiagnosticOptions.changed : Settings :=
  { s with
    stripColours := s.stripColours && !o.keepColours
    unlocated := if o.keepUnlocated then .keep else s.unlocated }

/-! ### Drafts behind options -/

theorem known_unitOverrides (unit : Given Int) :
    ∀ change ∈ unitOverrides unit, ∃ field : Settings.Field, change.1 = field.name := by
  simp [unitOverrides]

theorem known_checkOverrides (executable : Given Text) :
    ∀ change ∈ checkOverrides executable o, ∃ field : Settings.Field, change.1 = field.name := by
  simp [checkOverrides, diagnosticOverrides]

/-- The options of a report turn settings into settings, whatever the compiler is to be. -/
theorem overridden_diagnosticOverrides (compiler : Value) :
    (s.draft.set .executable compiler).overridden (diagnosticOverrides o) =
      (o.changed s).draft.set .executable compiler := by
  obtain ⟨form, keepColours, keepUnlocated⟩ := o
  cases keepColours <;> cases keepUnlocated <;>
    simp [diagnosticOverrides, Settings.Draft.overridden_cons, Settings.Draft.overridden_nil,
      Settings.isNull, DiagnosticOptions.changed, Settings.draft, Settings.Draft.set]

theorem isNull_overrideBy {α : Type} {toValue : α → Value} {given : Given α}
    (htoValue : ∀ a, Settings.isNull (toValue a) = false) (h : given ≠ .omitted) :
    Settings.isNull (overrideBy toValue given) = false := by
  cases given with
  | omitted => exact absurd rfl h
  | empty => rfl
  | value a => exact htoValue a

/-! ### Settings behind options -/

variable [Value.Writing]

theorem override_diagnosticOverrides : s.override (diagnosticOverrides o) = .ok (o.changed s) :=
  (Settings.override_eq_ok_iff fun change h =>
      known_checkOverrides o .omitted change (List.mem_cons_of_mem _ h)).mpr
    (overridden_diagnosticOverrides s o s.draft.executable)

/-- A unit that is left out is the one of the settings. -/
theorem override_unitOverrides_omitted : s.override (unitOverrides .omitted) = .ok s := rfl

/-- A unit that is given, with or without a value, is checked. -/
theorem override_unitOverrides (h : unit ≠ .omitted) :
    s.override (unitOverrides unit) =
      ((Settings.Draft.checkUnit (overrideBy .int unit)).map fun unit =>
        { s with indentUnit := unit.1, indentUnit_pos := unit.2 }).mapError .invalid := by
  rw [Settings.override_eq_check (known_unitOverrides unit), unitOverrides,
    Settings.Draft.overridden_cons, isNull_overrideBy (fun _ => rfl) h,
    ← Settings.check_set_indentUnit]
  rfl

/-- A compiler that is left out is the one of the settings. -/
theorem override_checkOverrides_omitted :
    s.override (checkOverrides .omitted o) = .ok (o.changed s) := by
  rw [Settings.override_eq_ok_iff (known_checkOverrides o .omitted), checkOverrides,
    Settings.Draft.overridden_cons]
  exact overridden_diagnosticOverrides s o s.draft.executable

/-- A compiler that is given, with or without a value, is checked. -/
theorem override_checkOverrides (h : executable ≠ .omitted) :
    s.override (checkOverrides executable o) =
      ((Settings.Draft.checkExecutable (overrideBy (.text ·.wide) executable)).map
        fun executable => o.changed
          { s with executable := executable.1, executable_visible := executable.2 }).mapError
        .invalid := by
  rw [Settings.override_eq_check (known_checkOverrides o executable), checkOverrides,
    Settings.Draft.overridden_cons, isNull_overrideBy (fun _ => rfl) h,
    if_neg Bool.false_ne_true, overridden_diagnosticOverrides, Settings.check_set_executable]
  rfl

end CommandLine
end AmberTools
