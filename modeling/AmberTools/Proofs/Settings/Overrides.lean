import AmberTools.Proofs.Settings.Held

/-!
# Overrides by names

An override names the field that it changes. Where all names are those of fields, overriding is no
more than putting the values that count into the draft of the settings and checking it.

## Main results

* `Settings.Draft.overridden_cons`: overrides change a draft one by one.
* `Settings.check_set_indentUnit`, `Settings.check_set_executable`: a single field that is new.
* `Settings.override_eq_check`: overriding is the check of the changed draft.
* `Settings.override_eq_ok_iff`: overriding succeeds if the changed draft shows settings.
-/

namespace AmberTools
namespace Settings

/-! ### Overrides of drafts -/

theorem Field.ofName?_name (field : Field) : Field.ofName? field.name = some field := by
  cases field <;> decide +kernel

/-- A field is found by its name. -/
theorem Field.ofKey?_name (field : Field) : Field.ofKey? (.text field.name.wide) = some field := by
  rw [Field.ofKey?, WideText.narrow?_eq_some_iff.mpr rfl, Option.bind_some, Field.ofName?_name]

theorem Draft.overridden_nil (d : Draft) : d.overridden [] = d := rfl

/-- An override sets its field, unless it is one by nothing. -/
theorem Draft.overridden_cons (d : Draft) (field : Field) (v : Value)
    (overrides : List (Text × Value)) :
    d.overridden ((field.name, v) :: overrides) =
      (if isNull v then d else d.set field v).overridden overrides := by
  unfold Draft.overridden
  cases hnull : isNull v with
  | true =>
    rw [List.filter_cons_of_neg (by simpa using hnull)]
    rfl
  | false =>
    rw [List.filter_cons_of_pos (by simpa using hnull), List.map_cons, Draft.setAll_cons, Draft.put,
      Field.ofKey?_name]
    rfl

/-! ### One field that is new -/

section New

variable [Value.Writing] (s : Settings) (v : Value)

theorem checkUnit_draft :
    Draft.checkUnit s.draft.indentUnit = .ok ⟨s.indentUnit, s.indentUnit_pos⟩ :=
  Draft.checkUnit_eq_ok_iff.mpr rfl

theorem checkStrip_draft : Draft.checkStrip s.draft.stripColours = .ok s.stripColours :=
  Draft.checkStrip_eq_ok_iff.mpr rfl

omit [Value.Writing] in
theorem checkExecutable_draft :
    Draft.checkExecutable s.draft.executable = .ok ⟨s.executable, s.executable_visible⟩ :=
  Draft.checkExecutable_eq_ok_iff.mpr rfl

theorem checkUnlocated_draft : Draft.checkUnlocated s.draft.unlocated = .ok s.unlocated :=
  Draft.checkUnlocated_eq_ok_iff.mpr rfl

/-- If a unit is all that is new in settings, then it alone is checked. -/
theorem check_set_indentUnit :
    (s.draft.set .indentUnit v).check =
      (Draft.checkUnit v).map fun unit =>
        { s with indentUnit := unit.1, indentUnit_pos := unit.2 } := by
  simp only [Draft.check, Draft.set, checkStrip_draft, checkExecutable_draft, checkUnlocated_draft]
  cases Draft.checkUnit v <;> rfl

/-- If a compiler is all that is new in settings, then it alone is checked. -/
theorem check_set_executable :
    (s.draft.set .executable v).check =
      (Draft.checkExecutable v).map fun executable =>
        { s with executable := executable.1, executable_visible := executable.2 } := by
  simp only [Draft.check, Draft.set, checkUnit_draft, checkStrip_draft, checkUnlocated_draft]
  cases Draft.checkExecutable v <;> rfl

end New

/-! ### Overriding -/

section Overriding

variable [Value.Writing] {s next : Settings} {overrides : List (Text × Value)}

/-- Overrides are checked together if all that count are of known fields. -/
theorem override_eq_check_of_counting
    (hknown : ∀ change ∈ overrides, isNull change.2 = false →
      ∃ field : Field, change.1 = field.name) :
    s.override overrides = (s.draft.overridden overrides).check.mapError .invalid := by
  unfold override
  dsimp only
  split_ifs with hnone hunknown
  · rw [Draft.overridden, List.isEmpty_iff.mp hnone]
    exact congrArg (Except.mapError OverrideFault.invalid) (Draft.check_draft s).symm
  · obtain ⟨change, hmem, hfield⟩ := List.any_eq_true.mp hunknown
    obtain ⟨hmem, hcounts⟩ := List.mem_filter.mp hmem
    obtain ⟨field, hname⟩ := hknown change hmem (by simpa using hcounts)
    simp [hname, Field.ofName?_name] at hfield
  · rfl

section Known

variable (hknown : ∀ change ∈ overrides, ∃ field : Field, change.1 = field.name)
include hknown

/-- Overrides of known fields are checked together. -/
theorem override_eq_check :
    s.override overrides = (s.draft.overridden overrides).check.mapError .invalid :=
  override_eq_check_of_counting fun change hmem _ => hknown change hmem

theorem override_eq_ok_iff :
    s.override overrides = .ok next ↔ s.draft.overridden overrides = next.draft := by
  rw [override_eq_check hknown, mapError_eq_ok_iff, Draft.check_eq_ok_iff]

end Known

end Overriding

end Settings
end AmberTools
