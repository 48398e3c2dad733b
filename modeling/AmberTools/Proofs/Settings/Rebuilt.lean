import AmberTools.Proofs.Settings.Overrides

/-!
# Overriding is rebuilding

Settings are a mapping of the names of the fields to the values that show them. Overriding puts the
values that count into this mapping and builds settings from it, by the checks that any mapping has
to pass and with the same faults. Of several values for one field only the last one matters. So
overrides one after the other are as good as a single one, in which the later values have taken the
place of the earlier ones.

## Main definitions

* `Settings.updated`: a mapping with some changes.
* `Settings.entries`: settings as a mapping.

## Main results

* `Settings.Draft.setAll_updated`: changes are put in behind what they change.
* `Settings.ofEntries_updated_entries`: settings that are rebuilt with some changes.
* `Settings.override_rebuilds`: overriding is rebuilding, and overrides compose.
-/

namespace AmberTools
namespace Settings

/-! ### Mappings of names -/

/-- A mapping with some changes, which take the place of the entries with their names. -/
def updated (entries changes : List (Text × Value)) : List (Text × Value) :=
  (entries.filter fun entry => entry.1 ∉ changes.map (·.1)) ++ changes

/-- The overrides that count: all but those by nothing. -/
def counting (overrides : List (Text × Value)) : List (Text × Value) :=
  overrides.filter fun change => !isNull change.2

/-- A mapping of names as one of values. -/
def keyed (entries : List (Text × Value)) : List (Value × Value) :=
  entries.map fun entry => (.text entry.1.wide, entry.2)

/-- Settings as a mapping of the names of the fields. -/
def entries (s : Settings) : List (Text × Value) :=
  [(Field.indentUnit.name, .int s.indentUnit),
    (Field.stripColours.name, .bool s.stripColours),
    (Field.executable.name, .text s.executable),
    (Field.unlocated.name, .text s.unlocated.name.wide)]

section Mappings

variable {entries changes overrides : List (Text × Value)} {entry change : Text × Value}

theorem updated_cons_of_mem (h : entry.1 ∈ changes.map (·.1)) :
    updated (entry :: entries) changes = updated entries changes := by
  rw [updated, List.filter_cons_of_neg (by simpa using h), updated]

theorem updated_cons_of_notMem (h : entry.1 ∉ changes.map (·.1)) :
    updated (entry :: entries) changes = entry :: updated entries changes := by
  rw [updated, List.filter_cons_of_pos (by simpa using h), updated, List.cons_append]

theorem mem_counting_iff :
    change ∈ counting overrides ↔ change ∈ overrides ∧ isNull change.2 = false := by
  simp [counting]

/-- Overrides by nothing may be left out before or behind a change. -/
theorem counting_updated_counting (overrides further : List (Text × Value)) :
    counting (updated overrides (counting further)) =
      updated (counting overrides) (counting further) := by
  have hagain : counting (counting further) = counting further := by simp [counting]
  rw [updated, counting, List.filter_append, ← counting, ← counting, hagain, updated, counting,
    counting.eq_def overrides, List.filter_filter, List.filter_filter]
  simp only [Bool.and_comm]

end Mappings

/-! ### Drafts with entries put in -/

namespace Field

theorem ofName?_eq_some_iff {name : Text} {field : Field} :
    ofName? name = some field ↔ name = field.name := by
  constructor
  · intro h
    rw [ofName?] at h
    have hname := List.find?_some h
    exact (beq_iff_eq.mp hname).symm
  · rintro rfl
    exact ofName?_name field

theorem ofKey?_wide (name : Text) : ofKey? (.text name.wide) = ofName? name := by
  rw [ofKey?, WideText.narrow?_eq_some_iff.mpr rfl, Option.bind_some]

end Field

namespace Draft

variable {d : Draft} {field : Field} {v : Value} {entries : List (Text × Value)}

theorem set_set (d : Draft) (field : Field) (v w : Value) :
    (d.set field v).set field w = d.set field w := by
  cases field <;> rfl

theorem set_comm (d : Draft) {field other : Field} (h : field ≠ other) (v w : Value) :
    (d.set field v).set other w = (d.set other w).set field v := by
  cases field <;> cases other <;> simp [set] at h ⊢

theorem setAll_keyed_cons (d : Draft) (entry : Text × Value) (entries : List (Text × Value)) :
    d.setAll (keyed (entry :: entries)) =
      ((Field.ofName? entry.1).elim d fun field => d.set field entry.2).setAll (keyed entries) := by
  rw [← Field.ofKey?_wide]
  rfl

theorem setAll_keyed_append (d : Draft) (a b : List (Text × Value)) :
    d.setAll (keyed (a ++ b)) = (d.setAll (keyed a)).setAll (keyed b) := by
  rw [keyed, List.map_append]
  exact List.foldl_append

/-- A value in front of another one for the same field has no effect. -/
theorem setAll_set_of_mem (h : field.name ∈ entries.map (·.1)) :
    (d.set field v).setAll (keyed entries) = d.setAll (keyed entries) := by
  induction entries generalizing d with
  | nil => exact nomatch h
  | cons entry entries ih =>
    rw [List.map_cons, List.mem_cons] at h
    rw [setAll_keyed_cons, setAll_keyed_cons]
    by_cases hfield : Field.ofName? entry.1 = some field
    · simp only [hfield, Option.elim_some, set_set]
    · have hrest : field.name ∈ entries.map (·.1) := h.resolve_left fun hname =>
        hfield (Field.ofName?_eq_some_iff.mpr hname.symm)
      cases hother : Field.ofName? entry.1 with
      | none => exact ih hrest
      | some other =>
        have hne : field ≠ other := by
          rintro rfl
          exact hfield hother
        simp only [Option.elim_some, set_comm d hne]
        exact ih hrest

/-- Changes are put in behind what they change. -/
theorem setAll_updated (d : Draft) (entries changes : List (Text × Value)) :
    d.setAll (keyed (updated entries changes)) =
      (d.setAll (keyed entries)).setAll (keyed changes) := by
  rw [← setAll_keyed_append]
  induction entries generalizing d with
  | nil => rfl
  | cons entry entries ih =>
    rw [List.cons_append, setAll_keyed_cons]
    by_cases hmem : entry.1 ∈ changes.map (·.1)
    · rw [updated_cons_of_mem hmem, ih]
      cases hfield : Field.ofName? entry.1 with
      | none => rfl
      | some field =>
        have hname := Field.ofName?_eq_some_iff.mp hfield
        refine (setAll_set_of_mem ?_).symm
        rw [List.map_append, ← hname]
        exact List.mem_append_right _ hmem
    · rw [updated_cons_of_notMem hmem, setAll_keyed_cons, ih]

/-- The entries of settings make up a draft, whatever it was before. -/
theorem setAll_entries (d : Draft) (s : Settings) : d.setAll (keyed s.entries) = s.draft := by
  simp only [Settings.entries, setAll_keyed_cons, Field.ofName?_name, Option.elim_some]
  rfl

end Draft

/-! ### Rebuilt settings -/

section Rebuilt

variable [Value.Writing] {s next : Settings} {entries changes overrides further : List (Text × Value)}

/-- A mapping of known names is checked as a draft. -/
theorem ofEntries_keyed (h : ∀ entry ∈ entries, Field.ofName? entry.1 ≠ none) :
    ofEntries (keyed entries) = (default.draft.setAll (keyed entries)).check := by
  have hknown : unknownKeys ((keyed entries).map (·.1)) = [] := by
    refine List.filter_eq_nil_iff.mpr fun key hkey => ?_
    rw [keyed, List.map_map] at hkey
    obtain ⟨entry, hmem, rfl⟩ := List.mem_map.mp hkey
    simpa [Field.ofKey?_wide] using h entry hmem
  rw [ofEntries, hknown]
  rfl

omit [Value.Writing] in
theorem known_of_mem_entries : ∀ entry ∈ s.entries, Field.ofName? entry.1 ≠ none := by
  simp [Settings.entries, Field.ofName?_name]

/-- Settings with some changes are the settings that the changed draft shows. -/
theorem ofEntries_updated_entries (s : Settings)
    (h : ∀ change ∈ changes, Field.ofName? change.1 ≠ none) :
    ofEntries (keyed (updated s.entries changes)) = (s.draft.setAll (keyed changes)).check := by
  have hknown : ∀ entry ∈ updated s.entries changes, Field.ofName? entry.1 ≠ none := by
    intro entry hmem
    rcases List.mem_append.mp hmem with hmem | hmem
    · exact known_of_mem_entries entry (List.mem_of_mem_filter hmem)
    · exact h entry hmem
  rw [ofEntries_keyed hknown, Draft.setAll_updated, Draft.setAll_entries]

/-- One override that counts and has an unknown name is enough for a fault. -/
theorem override_of_unknown
    (h : ∃ change ∈ counting overrides, Field.ofName? change.1 = none) :
    s.override overrides = .error .unknownField := by
  obtain ⟨change, hmem, hname⟩ := h
  have hany : ((counting overrides).any fun change => (Field.ofName? change.1).isNone) = true :=
    List.any_eq_true.mpr ⟨change, hmem, Option.isNone_iff_eq_none.mpr hname⟩
  have hsome : (counting overrides).isEmpty = false := by
    simpa using List.ne_nil_of_mem hmem
  rw [override, ← counting, hsome, hany]
  rfl

/-- Overrides of which those that count have known names are checked together. -/
theorem override_of_known (h : ∀ change ∈ counting overrides, Field.ofName? change.1 ≠ none) :
    s.override overrides =
      (s.draft.setAll (keyed (counting overrides))).check.mapError .invalid :=
  override_eq_check_of_counting fun change hmem hcounts => by
    obtain ⟨field, hfield⟩ := Option.ne_none_iff_exists'.mp
      (h change (mem_counting_iff.mpr ⟨hmem, hcounts⟩))
    exact ⟨field, Field.ofName?_eq_some_iff.mp hfield⟩

theorem known_of_override (h : s.override overrides = .ok next) :
    ∀ change ∈ counting overrides, Field.ofName? change.1 ≠ none := by
  intro change hmem hname
  rw [override_of_unknown ⟨change, hmem, hname⟩] at h
  exact nomatch h

/-- Overriding twice is overriding once by what counts in the end. -/
theorem override_override (h : s.override overrides = .ok next)
    (further : List (Text × Value)) :
    next.override further = s.override (updated overrides (counting further)) := by
  have hcounting := counting_updated_counting overrides further
  by_cases hknown : ∀ change ∈ counting further, Field.ofName? change.1 ≠ none
  · have hboth : ∀ change ∈ counting (updated overrides (counting further)),
        Field.ofName? change.1 ≠ none := by
      rw [hcounting]
      intro change hmem
      rcases List.mem_append.mp hmem with hmem | hmem
      · exact known_of_override h change (List.mem_of_mem_filter hmem)
      · exact hknown change hmem
    have hdraft : s.draft.setAll (keyed (counting overrides)) = next.draft := overridden_draft h
    rw [override_of_known hknown, override_of_known hboth, hcounting, Draft.setAll_updated, hdraft]
  · push Not at hknown
    have hunknown : ∃ change ∈ counting (updated overrides (counting further)),
        Field.ofName? change.1 = none := by
      obtain ⟨change, hmem, hname⟩ := hknown
      rw [hcounting]
      exact ⟨change, List.mem_append_right _ hmem, hname⟩
    rw [override_of_unknown hknown, override_of_unknown hunknown]

end Rebuilt

/-- An override that counts and names no field is a fault, whatever the others are. Without such
overrides, overriding has the outcome of building settings from the mapping of the old ones, changed
by the overrides that count: the same settings or the same fault. And if overriding succeeds, then
overriding the result again has the outcome of a single override, changed by what counts in the
second one. -/
theorem override_rebuilds [Value.Writing] (s : Settings) :
    (∀ overrides, (∃ change ∈ counting overrides, Field.ofName? change.1 = none) →
      s.override overrides = .error .unknownField) ∧
    (∀ overrides, (∀ change ∈ counting overrides, Field.ofName? change.1 ≠ none) →
      s.override overrides =
        (ofEntries (keyed (updated s.entries (counting overrides)))).mapError .invalid) ∧
    ∀ overrides next, s.override overrides = .ok next →
      ∀ further, next.override further = s.override (updated overrides (counting further)) := by
  refine ⟨fun _ => override_of_unknown, fun overrides h => ?_, fun overrides next h =>
    override_override h⟩
  rw [override_of_known h, ofEntries_updated_entries s h]

/-- Overrides for a field that does not exist: by a value, behind a name that no compiler has, by
nothing behind the same name, and by nothing in front of further overrides. -/
theorem override_rebuilds_colour :
    let colour := "colour".toList
    let unit := Field.indentUnit.name
    let keep := (Field.unlocated.name, Value.text Compiler.UnlocatedPolicy.keep.name.wide)
    let blank := (Field.executable.name, Value.text [.char ' '])
    default.override [blank, (colour, .bool true)] = .error .unknownField ∧
      default.override [blank, (colour, .null)] = .error (.invalid .executableBlank) ∧
      default.override [(unit, .int 2), (colour, .null)] = .ok { indentUnit := 2 } ∧
      Settings.override { indentUnit := 2 } [keep, (unit, .int 8)] =
        default.override [(colour, .null), keep, (unit, .int 8)] := by
  intro colour unit keep blank
  obtain ⟨hunknown, hrebuilt, hcomposed⟩ := override_rebuilds default
  have hfirst : default.override [(unit, .int 2), (colour, .null)] = .ok { indentUnit := 2 } :=
    eq_ok_of_toOption (by decide +kernel)
  refine ⟨hunknown _ ⟨(colour, .bool true), ?_, by decide +kernel⟩, ?_, hfirst, ?_⟩
  · simp [counting, isNull]
  · rw [hrebuilt _ (by simp [counting, isNull, blank, Field.ofName?_name])]
    rfl
  · exact hcomposed _ _ hfirst [keep, (unit, .int 8)]

end Settings
end AmberTools
