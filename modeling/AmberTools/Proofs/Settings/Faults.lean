import AmberTools.Proofs.Files.Unread
import AmberTools.Proofs.Settings.Held
import AmberTools.Proofs.Yaml.DocumentFaults

/-!
# Settings files that fail otherwise

A file that gives no settings fails with a fault of the settings, which says what is wrong. There
are four other ways to fail. The path has a null character, or the bytes are not UTF-8. The reader
of YAML texts stops at something that is not a matter of form. And a value that a message would have
to show cannot be written.

What a reader stops at is its own affair. The one that is described in this project stops at an
escape, at a version, at what is too deep, or at a scalar whose text does not suit its type.

## Main definitions

* `Settings.Unforeseen`: the other ways to fail.

## Main results

* `Settings.exists_unwritable`: a value that cannot be written stands somewhere in the mapping.
* `Settings.load_unforeseen_iff`: files fail otherwise in just these ways.
* `Settings.breaks_of_unforeseen`: where the reader of this project stops.
-/

namespace AmberTools
namespace Settings

open Value (Writing)

/-! ### Values that cannot be written -/

section Writing

variable [Writing] {reason : Value.Unwritable} {v : Value}

theorem refusal?_ne_of_isPlain (h : v.isPlain = true) (reason : Value.Unwritable) :
    Writing.refusal? v ≠ some reason := by
  rw [Writing.refusal?_of_isPlain v h]
  exact nofun

theorem about_eq_unwritable_iff {fault : Value → Fault} (hfault : fault v ≠ .unwritable reason) :
    Fault.about fault v = .unwritable reason ↔ Writing.refusal? v = some reason := by
  cases h : Writing.refusal? v <;> simp [Fault.about, h, hfault]

namespace Draft

/-- None of the values that a message may show is refused for a given reason. -/
structure Avoids (d : Draft) (reason : Value.Unwritable) : Prop where
  indentUnit : Writing.refusal? d.indentUnit ≠ some reason
  stripColours : Writing.refusal? d.stripColours ≠ some reason
  unlocated : Writing.refusal? d.unlocated ≠ some reason

theorem avoids_default (reason : Value.Unwritable) : default.draft.Avoids reason where
  indentUnit := refusal?_ne_of_isPlain (by decide +kernel) reason
  stripColours := refusal?_ne_of_isPlain rfl reason
  unlocated := refusal?_ne_of_isPlain rfl reason

variable {d : Draft}

theorem Avoids.set (h : d.Avoids reason) (field : Field)
    (hv : Writing.refusal? v ≠ some reason) : (d.set field v).Avoids reason := by
  cases field
  · exact ⟨hv, h.stripColours, h.unlocated⟩
  · exact ⟨h.indentUnit, hv, h.unlocated⟩
  · exact ⟨h.indentUnit, h.stripColours, h.unlocated⟩
  · exact ⟨h.indentUnit, h.stripColours, hv⟩

theorem Avoids.put (h : d.Avoids reason) {entry : Value × Value}
    (hentry : Writing.refusal? entry.2 ≠ some reason) : (d.put entry).Avoids reason := by
  unfold Draft.put
  cases Field.ofKey? entry.1 with
  | none => exact h
  | some field => exact h.set field hentry

theorem Avoids.setAll (h : d.Avoids reason) {entries : List (Value × Value)}
    (hentries : ∀ entry ∈ entries, Writing.refusal? entry.2 ≠ some reason) :
    (d.setAll entries).Avoids reason := by
  induction entries generalizing d with
  | nil => exact h
  | cons entry entries ih =>
    obtain ⟨hentry, hrest⟩ := List.forall_mem_cons.mp hentries
    exact ih (h.put hentry) hrest

theorem checkUnit_ne_unwritable (h : Writing.refusal? v ≠ some reason) :
    checkUnit v ≠ .error (.unwritable reason) := by
  cases v with
  | int n =>
    unfold checkUnit
    dsimp only
    split
    · exact nofun
    · simp [about_eq_unwritable_iff, h]
  | _ => simp [checkUnit, about_eq_unwritable_iff, h]

theorem checkStrip_ne_unwritable (h : Writing.refusal? v ≠ some reason) :
    checkStrip v ≠ .error (.unwritable reason) := by
  cases v with
  | bool b => exact nofun
  | _ => simp [checkStrip, about_eq_unwritable_iff, h]

omit [Writing] in
theorem checkExecutable_ne_unwritable (v : Value) :
    checkExecutable v ≠ .error (.unwritable reason) := by
  cases v with
  | text t =>
    unfold checkExecutable
    dsimp only
    split <;> exact nofun
  | _ => exact nofun

theorem checkUnlocated_ne_unwritable (h : Writing.refusal? v ≠ some reason) :
    checkUnlocated v ≠ .error (.unwritable reason) := by
  cases v with
  | text t =>
    unfold checkUnlocated
    dsimp only
    split
    · exact nofun
    · simp
  | _ => simp [checkUnlocated, about_eq_unwritable_iff, h]

/-- Only a value that is refused stops the check for its sake. -/
theorem check_ne_unwritable (h : d.Avoids reason) : d.check ≠ .error (.unwritable reason) := by
  have hbind {α β : Type} {x : Except Fault α} {f : α → Except Fault β}
      (hx : x ≠ .error (.unwritable reason)) (hf : ∀ a, f a ≠ .error (.unwritable reason)) :
      x >>= f ≠ .error (.unwritable reason) := by
    cases x with
    | ok a => exact hf a
    | error fault => exact fun heq => hx (congrArg Except.error (Except.error.inj heq))
  refine hbind (checkUnit_ne_unwritable h.indentUnit) fun _ => ?_
  refine hbind (checkStrip_ne_unwritable h.stripColours) fun _ => ?_
  refine hbind (checkExecutable_ne_unwritable _) fun _ => ?_
  exact hbind (checkUnlocated_ne_unwritable h.unlocated) fun _ => nofun

end Draft

/-- If a mapping is refused for the sake of a value that cannot be written, that is a key of one of
its entries, or a value that is refused for the same reason. -/
theorem exists_unwritable {entries : List (Value × Value)}
    (h : ofEntries entries = .error (.unwritable reason)) :
    ∃ entry ∈ entries, entry.1.isWritable = false ∨ Writing.refusal? entry.2 = some reason := by
  by_contra! hnone
  have hkeys : ∀ entry ∈ entries, entry.1.isWritable = true :=
    fun entry hmem => eq_true_of_ne_false (hnone entry hmem).1
  have hunknown : (unknownKeys (entries.map (·.1))).all Value.isWritable = true := by
    refine List.all_eq_true.mpr fun key hkey => ?_
    obtain ⟨entry, hmem, rfl⟩ := List.mem_map.mp (List.mem_of_mem_filter hkey)
    exact hkeys entry hmem
  unfold ofEntries at h
  dsimp only at h
  split_ifs at h
  · refine Draft.check_ne_unwritable ((Draft.avoids_default reason).setAll ?_) h
    exact fun entry hmem => (hnone entry hmem).2
  · exact nomatch h

end Writing

/-! ### Loading -/

section Loading

variable [Writing] [Yaml.Reader]

/-- The ways in which loading a file fails but with a fault of the settings. -/
inductive Unforeseen (files : FileSet) (path : Path) : LoadFault → Prop
  | nullCharacter (h : '\x00' ∈ path.text) : Unforeseen files path .nullCharacter
  /-- The bytes of the file are not UTF-8. -/
  | encoding {bytes : List UInt8} {fault : Utf8.Fault}
      (hbytes : Source.readBytes files path = .ok bytes) (h : Utf8.decode bytes = .error fault) :
      Unforeseen files path (.encoding fault)
  /-- The reader of YAML texts stops, and not at the form of the text. -/
  | reader {text : Text} {fault : Yaml.Fault} (htext : Source.read files path = .ok text)
      (h : Yaml.Reader.read text = .error fault) (hne : fault ≠ .malformed) :
      Unforeseen files path (.reader fault)
  /-- A message would have to show a key or a value that cannot be written. -/
  | unwritable {values : List (Value × Value)} {reason : Value.Unwritable}
      (hvalues : fileValues files path = .ok values)
      (h : ofEntries values = .error (.unwritable reason))
      (hcause : ∃ entry ∈ values,
        entry.1.isWritable = false ∨ Writing.refusal? entry.2 = some reason) :
      Unforeseen files path (.invalid (.unwritable reason))

variable {files : FileSet} {path : Path} {fault : LoadFault}

/-- Loading fails because there are no values, or because they are no settings. -/
theorem load_eq_error_iff :
    load files path = .error fault ↔
      fileValues files path = .error fault ∨
        ∃ values, fileValues files path = .ok values ∧
          ∃ invalid, ofEntries values = .error invalid ∧ fault = .invalid invalid := by
  have hmap : load files path = .error fault ↔
      (load files path).map (·.settings) = .error fault := by
    cases load files path <;> simp [Except.map]
  rw [hmap, map_settings_load]
  cases fileValues files path with
  | error => simp [bind, Except.bind]
  | ok values =>
    cases hentries : ofEntries values <;>
      simp [bind, Except.bind, Except.mapError, hentries, eq_comm]

omit [Writing] [Yaml.Reader] in
/-- The values of a document that has some are missing only for a reason of the settings. -/
theorem isSettings_of_documentValues {name : Text} {d : Yaml.Document}
    (h : documentValues name d = .error fault) : fault.isSettings = true := by
  unfold documentValues at h
  split_ifs at h
  split at h
  · obtain rfl := Except.error.inj h
    rfl
  · split at h
    · unfold sectionValues at h
      split at h
      · exact nomatch h
      · split_ifs at h
        obtain rfl := Except.error.inj h
        rfl
    · exact nomatch h

theorem unforeseen_of_fileValues (h : fileValues files path = .error fault)
    (hfault : fault.isSettings = false) : Unforeseen files path fault := by
  unfold fileValues at h
  split at h
  · obtain rfl := Except.error.inj h
    exact nomatch hfault
  · rename_i hread
    obtain rfl := Except.error.inj h
    obtain ⟨bytes, hbytes, hdecode⟩ := Source.read_eq_encoding_iff.mp hread
    exact .encoding hbytes hdecode
  · rename_i hread
    obtain rfl := Except.error.inj h
    exact .nullCharacter (Source.read_eq_nullCharacter_iff.mp hread)
  · rename_i text htext
    split at h
    · obtain rfl := Except.error.inj h
      exact nomatch hfault
    · rename_i hne hdocument
      obtain rfl := Except.error.inj h
      exact .reader htext hdocument hne
    · exact nomatch h
    · rw [isSettings_of_documentValues h] at hfault
      exact nomatch hfault

/-- Loading fails otherwise than with a fault of the settings in just these ways. -/
theorem load_unforeseen_iff :
    load files path = .error fault ∧ fault.isSettings = false ↔ Unforeseen files path fault := by
  constructor
  · rintro ⟨h, hfault⟩
    obtain hvalues | ⟨values, hvalues, invalid, hentries, rfl⟩ := load_eq_error_iff.mp h
    · exact unforeseen_of_fileValues hvalues hfault
    · cases invalid with
      | unwritable reason => exact .unwritable hvalues hentries (exists_unwritable hentries)
      | _ => exact nomatch hfault
  · intro h
    cases h with
    | nullCharacter h =>
      rw [load, Source.read_eq_nullCharacter_iff.mpr h]
      exact ⟨rfl, rfl⟩
    | encoding hbytes h =>
      rw [load, Source.read_eq_encoding_iff.mpr ⟨_, hbytes, h⟩]
      exact ⟨rfl, rfl⟩
    | @reader text stopped htext h hne =>
      rw [load, htext]
      unfold ofYaml
      dsimp only
      rw [h]
      cases stopped with
      | malformed => exact absurd rfl hne
      | _ => exact ⟨rfl, rfl⟩
    | unwritable hvalues h =>
      exact ⟨load_eq_error_iff.mpr (.inr ⟨_, hvalues, _, h, rfl⟩), rfl⟩

end Loading

/-- The reader that is described in this project stops for reasons that are known. -/
theorem breaks_of_unforeseen [Writing] {limits : Yaml.Limits} {files : FileSet} {path : Path}
    {fault : Yaml.Fault} (h : @Unforeseen _ (.within limits) files path (.reader fault)) :
    ∃ text, Source.read files path = .ok text ∧ Yaml.Document.Breaks limits text fault := by
  cases h with
  | reader htext h hne => exact ⟨_, htext, Yaml.Document.breaks_of_ofText h hne⟩

end Settings
end AmberTools
