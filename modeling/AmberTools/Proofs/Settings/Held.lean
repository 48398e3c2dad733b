import AmberTools.Proofs.Compiler.Checked
import AmberTools.Proofs.Reindent.Checked
import AmberTools.Proofs.Settings.Drafts
import AmberTools.Settings.Load

/-!
# Settings that are held

A host starts with the defaults, with a mapping or with a file, and goes on to override settings as
often as it likes. If that fails, it keeps what it has. Whatever values it tries on the way, and
whatever a reader of YAML texts makes of a file, the settings that it holds show the values that
their fields were last given: a positive integer, a truth value, a text that is not blank, and the
name of a policy. With these values, no check fails in reindenting a text, in finding the column of
a line and in reading output.

## Main definitions

* `Settings.fileValues`: the mapping of values that a file has for the settings.
* `Settings.Held`: settings after some history, with the values that their fields were given.

## Main results

* `Settings.map_settings_load`: settings from a file are settings from a mapping.
* `Settings.Held.eq_draft`: settings that are held show the values of their fields.
* `Settings.Held.runs_on_every_text`: settings that are held can be used on every text.
-/

namespace AmberTools
namespace Settings

/-- Rewording a fault makes no success. -/
theorem mapError_eq_ok_iff {ε ε' α : Type} {x : Except ε α} {f : ε → ε'} {a : α} :
    x.mapError f = .ok a ↔ x = .ok a := by
  cases x <;> simp [Except.mapError]

theorem eq_ok_of_toOption {ε α : Type} {x : Except ε α} {a : α} (h : x.toOption = some a) :
    x = .ok a := by
  cases x with
  | ok b => exact congrArg _ (Option.some.inj h)
  | error fault => exact nomatch h

/-! ### Settings from files -/

/-- The values of some entries of an item. -/
def itemValues (d : Yaml.Document) (entries : List (Value × Nat)) : List (Value × Value) :=
  entries.map fun e => (e.1, d.value e.2)

/-- The values in a section, of which nothing may stand for an empty one. -/
def sectionValues (path : Text) (d : Yaml.Document) (item : Nat) :
    Except LoadFault (List (Value × Value)) :=
  match d.entries? item with
  | some entries => .ok (itemValues d entries)
  | none => if (d.value item).isVacant then .ok [] else .error (.sectionNotMapping path)

/-- The values in a document. -/
def documentValues (path : Text) (d : Yaml.Document) : Except LoadFault (List (Value × Value)) :=
  if isNull (d.value d.root) then .ok []
  else match d.entries? d.root with
    | none => .error (.notMapping path)
    | some entries =>
      match entries.find? isSection with
      | some entry => sectionValues path d entry.2
      | none => .ok (itemValues d entries)

/-- The values in the file at a path. -/
def fileValues [Yaml.Reader] (files : FileSet) (path : Path) : Except LoadFault (List (Value × Value)) :=
  match Source.read files path with
  | .error (.file fault path) => .error (.unreadable path fault)
  | .error (.encoding fault) => .error (.encoding fault)
  | .error .nullCharacter => .error .nullCharacter
  | .ok text =>
    match Yaml.Reader.read text with
    | .error .malformed => .error (.malformed path.text)
    | .error fault => .error (.reader fault)
    | .ok none => .ok []
    | .ok (some d) => documentValues path.text d

section History

variable [Value.Writing]

/-- An empty mapping leaves the defaults. -/
theorem ofEntries_nil : ofEntries [] = .ok default := Draft.check_draft default

theorem ofSection_eq (path : Text) (d : Yaml.Document) (item : Nat) :
    ofSection path d item =
      sectionValues path d item >>= fun values => (ofEntries values).mapError .invalid := by
  unfold ofSection sectionValues
  cases d.entries? item with
  | some entries => rfl
  | none => cases (d.value item).isVacant <;> rfl

theorem map_settings_ofDocument (path : Text) (d : Yaml.Document) :
    (ofDocument path d).map (·.settings) =
      documentValues path d >>= fun values => (ofEntries values).mapError .invalid := by
  have hmap (x : Except LoadFault Settings) :
      (x.map fun s => (⟨s, false⟩ : Loaded)).map (·.settings) = x := by
    cases x <;> rfl
  unfold ofDocument documentValues
  cases isNull (d.value d.root) with
  | true => exact congrArg (Except.mapError LoadFault.invalid) ofEntries_nil.symm
  | false =>
    cases d.entries? d.root with
    | none => rfl
    | some entries =>
      cases hsection : entries.find? isSection with
      | none =>
        simp only [hsection]
        exact hmap _
      | some entry =>
        simp only [hsection]
        exact (hmap _).trans (ofSection_eq path d entry.2)

/-- Settings from a file are settings from the mapping of values in it. -/
theorem map_settings_load [Yaml.Reader] (files : FileSet) (path : Path) :
    (load files path).map (·.settings) =
      fileValues files path >>= fun values => (ofEntries values).mapError .invalid := by
  unfold load fileValues ofYaml
  cases Source.read files path with
  | error fault => cases fault <;> rfl
  | ok text =>
    dsimp only
    cases Yaml.Reader.read text with
    | error fault => cases fault <;> rfl
    | ok d =>
      cases d with
      | none => exact congrArg (Except.mapError LoadFault.invalid) ofEntries_nil.symm
      | some d => exact map_settings_ofDocument path.text d

theorem exists_fileValues_of_load [Yaml.Reader] {files : FileSet} {path : Path} {loaded : Loaded}
    (h : load files path = .ok loaded) :
    ∃ values, fileValues files path = .ok values ∧ ofEntries values = .ok loaded.settings := by
  have hsettings := map_settings_load files path
  rw [h] at hsettings
  cases hvalues : fileValues files path with
  | error fault =>
    rw [hvalues] at hsettings
    exact nomatch hsettings
  | ok values =>
    rw [hvalues] at hsettings
    exact ⟨values, rfl, mapError_eq_ok_iff.mp hsettings.symm⟩

/-! ### Histories -/

/-- The values of the fields behind some overrides, of which those by nothing do not count. -/
def Draft.overridden (d : Draft) (overrides : List (Text × Value)) : Draft :=
  d.setAll ((overrides.filter fun change => !isNull change.2).map fun change =>
    (.text change.1.wide, change.2))

/-- The settings that are held after some history, with the values that their fields were last
given. -/
inductive Held [Yaml.Reader] : Draft → Settings → Prop
  | untouched : Held default.draft default
  | ofEntries {entries : List (Value × Value)} {s : Settings} (h : ofEntries entries = .ok s) :
      Held (default.draft.setAll entries) s
  | load {files : FileSet} {path : Path} {values : List (Value × Value)} {loaded : Loaded}
      (hvalues : fileValues files path = .ok values) (h : load files path = .ok loaded) :
      Held (default.draft.setAll values) loaded.settings
  | overridden {d : Draft} {s next : Settings} {overrides : List (Text × Value)}
      (hheld : Held d s) (h : s.override overrides = .ok next) : Held (d.overridden overrides) next
  /-- An override fails, and the settings stay. -/
  | kept {d : Draft} {s : Settings} {overrides : List (Text × Value)} {fault : OverrideFault}
      (hheld : Held d s) (h : s.override overrides = .error fault) : Held d s

/-- Settings from a mapping show its values and, for fields that it does not name, the defaults. -/
theorem setAll_eq_draft {entries : List (Value × Value)} {s : Settings}
    (h : ofEntries entries = .ok s) : default.draft.setAll entries = s.draft := by
  unfold ofEntries at h
  dsimp only at h
  split_ifs at h
  exact Draft.check_eq_ok_iff.mp h

/-- Overridden settings show the new values, and the others as before. -/
theorem overridden_draft {s next : Settings} {overrides : List (Text × Value)}
    (h : s.override overrides = .ok next) : s.draft.overridden overrides = next.draft := by
  unfold override at h
  dsimp only at h
  rw [Draft.overridden]
  split_ifs at h with hnone
  · obtain rfl := Except.ok.inj h
    rw [List.isEmpty_iff.mp hnone]
    rfl
  · refine Draft.check_eq_ok_iff.mp ?_
    exact mapError_eq_ok_iff.mp h

namespace Held

variable [Yaml.Reader] {d : Draft} {s : Settings}

/-- Settings that are held show the values of their fields. -/
theorem eq_draft (h : Held d s) : d = s.draft := by
  induction h with
  | untouched => rfl
  | ofEntries h => exact setAll_eq_draft h
  | @load files path values loaded hvalues h =>
    obtain ⟨values', hvalues', hentries⟩ := exists_fileValues_of_load h
    obtain rfl := Except.ok.inj (hvalues.symm.trans hvalues')
    exact setAll_eq_draft hentries
  | overridden _ h ih =>
    rw [ih]
    exact overridden_draft h
  | kept _ _ ih => exact ih

/-- Settings that are held, after any history, come from a positive integer, a truth value, a text
that is not blank, and the name of a policy. With them every text is reindented, the line at every
index of a text has a column, and every output is read. No check fails in that. -/
theorem runs_on_every_text (h : Held d s) :
    ∃ (unit : Int) (strip : Bool) (executable : WideText) (policy : Compiler.UnlocatedPolicy),
      d = ⟨.int unit, .bool strip, .text executable, .text policy.name.wide⟩ ∧
        1 ≤ unit ∧ executable.allBlank = false ∧
        ∀ text,
          Reindent.runChecked unit text = .ok (Reindent.run s text) ∧
          (∀ index : Int, 0 ≤ index →
            Reindent.lineColumnChecked unit text index =
              .ok (Reindent.lineColumn s text index.toNat)) ∧
          Compiler.parseChecked strip policy.name text =
            .ok (Compiler.parseOutput s.reading text) :=
  ⟨s.indentUnit, s.stripColours, s.executable, s.unlocated, h.eq_draft,
    by exact_mod_cast s.indentUnit_pos, s.executable_visible, fun text =>
      ⟨Reindent.runChecked_eq s text, fun _ => Reindent.lineColumnChecked_eq s text,
        Compiler.parseChecked_eq s.reading text⟩⟩

end Held

end History

/-- A file with settings in a section of their own. -/
def sharedFiles : FileSet :=
  .ofList [("amber.yml".toList, Utf8.encode "amberpy:\n  indent_unit: 2\n".toList)]

/-- The settings of the file are overridden, at first by a truth value for the unit, which fails. -/
theorem runs_on_every_text_sharedFiles :
    Held ⟨.int 2, .bool true, .text (WideText.ofString "amber"), .text (Text.wide "keep".toList)⟩
        { indentUnit := 2, unlocated := .keep } ∧
      ∀ text, Reindent.runChecked 2 text =
        .ok (Reindent.run { indentUnit := 2, unlocated := .keep } text) := by
  let loaded : Settings := { indentUnit := 2 }
  have hloaded : Held loaded.draft loaded := by
    have hload : (load sharedFiles (Path.ofText "amber.yml".toList)).toOption.map (·.settings) =
        some loaded := by decide +kernel
    obtain ⟨result, hresult, hsettings⟩ := Option.map_eq_some_iff.mp hload
    obtain ⟨values, hvalues, -⟩ := exists_fileValues_of_load (eq_ok_of_toOption hresult)
    have hheld := Held.load hvalues (eq_ok_of_toOption hresult)
    rwa [hheld.eq_draft, hsettings] at hheld
  have hkept : Held loaded.draft loaded := by
    have hfails : (loaded.override [(Field.indentUnit.name, .bool true)]).toOption = none := by
      decide +kernel
    cases hfault : loaded.override [(Field.indentUnit.name, .bool true)] with
    | ok next => rw [hfault] at hfails; exact nomatch hfails
    | error fault => exact .kept hloaded hfault
  have hheld := Held.overridden hkept (eq_ok_of_toOption
    (show (loaded.override [(Field.unlocated.name, .text (Text.wide "keep".toList)),
      (Field.executable.name, .null)]).toOption = some { indentUnit := 2, unlocated := .keep } by
      decide +kernel))
  rw [hheld.eq_draft] at hheld
  refine ⟨hheld, fun text => ?_⟩
  obtain ⟨unit, strip, executable, policy, hvalues, -, -, hruns⟩ := hheld.runs_on_every_text
  obtain ⟨hunit, -, -, -⟩ := Draft.mk.inj hvalues
  obtain rfl := Value.int.inj hunit
  exact (hruns text).1

end Settings
end AmberTools
