import AmberTools.Proofs.Settings.Held

/-!
# Settings files by their containers

Settings stand in a mapping. A file with another value at its top is refused. If the mapping at the
top has a section for the settings, only what that section holds matters. Nothing in its place stands
for an empty mapping, and most values that are no mapping are refused. But values that count as
absent stand for an empty mapping as well: falsehood, zeros, and what is empty. A section that holds
one of these is not refused, and gives the defaults.

## Main definitions

* `Settings.sectionItem?`: the section of a document.
* `Settings.StandsForAbsent`: the values besides nothing that count as absent.

## Main results

* `Settings.ofDocument_of_section`: only what the section holds matters.
* `Settings.load_by_container`: the containers that are refused.
-/

namespace AmberTools

namespace Yaml
namespace Document

variable {d : Document} {i : Nat}

/-- An item with entries has a mapping for its value. -/
theorem exists_value_eq_map {entries : List (Value × Nat)} (h : d.entries? i = some entries) :
    ∃ shown, d.value i = .map shown := by
  unfold entries? at h
  split at h
  · rename_i items hitem
    rw [value, valueInside, hitem]
    exact ⟨_, rfl⟩
  · exact nomatch h

/-- An item whose value is no mapping has no entries. -/
theorem entries?_eq_none (h : ∀ shown, d.value i ≠ .map shown) : d.entries? i = none := by
  refine Option.eq_none_iff_forall_ne_some.mpr fun entries hentries => ?_
  obtain ⟨shown, hshown⟩ := exists_value_eq_map hentries
  exact h shown hshown

end Document
end Yaml

namespace Settings

/-! ### Values that count as absent -/

/-- The values besides nothing and the empty mapping that count as absent. -/
inductive StandsForAbsent : Value → Prop
  | falsehood : StandsForAbsent (.bool false)
  | zero : StandsForAbsent (.int 0)
  /-- A zero of either sign. -/
  | float {x : Binary64} (h : x.isZero = true) : StandsForAbsent (.float x)
  | text : StandsForAbsent (.text [])
  | bytes : StandsForAbsent (.bytes [])
  | list : StandsForAbsent (.list [])
  | set : StandsForAbsent (.set [])

theorem isVacant_iff {v : Value} (hnull : isNull v = false) (hmap : ∀ shown, v ≠ .map shown) :
    v.isVacant = true ↔ StandsForAbsent v := by
  constructor
  · intro h
    cases v with
    | null => exact nomatch hnull
    | map shown => exact absurd rfl (hmap shown)
    | bool b =>
      cases b with
      | false => exact .falsehood
      | true => exact nomatch h
    | int n =>
      obtain rfl : n = 0 := by simpa [Value.isVacant] using h
      exact .zero
    | float x => exact .float h
    | text t =>
      obtain rfl := List.isEmpty_iff.mp h
      exact .text
    | bytes bs =>
      obtain rfl := List.isEmpty_iff.mp h
      exact .bytes
    | list items =>
      obtain rfl := List.isEmpty_iff.mp h
      exact .list
    | set members =>
      obtain rfl := List.isEmpty_iff.mp h
      exact .set
    | _ => exact nomatch h
  · rintro (_ | _ | h | _ | _ | _ | _)
    · rfl
    · rfl
    · exact h
    all_goals rfl

/-! ### Documents -/

/-- The item under the section's name in the mapping at the top of a document. -/
def sectionItem? (d : Yaml.Document) : Option Nat :=
  (d.entries? d.root).bind fun entries => (entries.find? isSection).map (·.2)

section Documents

variable [Value.Writing] {path : Text} {d : Yaml.Document} {item : Nat}

/-- A value at the top that is neither nothing nor a mapping is refused. -/
theorem ofDocument_of_not_mapping (hnull : isNull (d.value d.root) = false)
    (hmap : ∀ shown, d.value d.root ≠ .map shown) :
    ofDocument path d = .error (.notMapping path) := by
  rw [ofDocument, hnull, Yaml.Document.entries?_eq_none hmap]
  rfl

/-- If a document has a section, the rest of it does not matter. -/
theorem ofDocument_of_section (h : sectionItem? d = some item) :
    ofDocument path d = (ofSection path d item).map (⟨·, false⟩) := by
  obtain ⟨entries, hentries, hfound⟩ := Option.bind_eq_some_iff.mp h
  obtain ⟨entry, hentry, rfl⟩ := Option.map_eq_some_iff.mp hfound
  obtain ⟨shown, hshown⟩ := Yaml.Document.exists_value_eq_map hentries
  rw [ofDocument, hshown, hentries]
  simp only [hentry]
  rfl

theorem ofSection_of_entries {entries : List (Value × Nat)} (h : d.entries? item = some entries) :
    ofSection path d item = (ofEntries (itemValues d entries)).mapError .invalid := by
  rw [ofSection, h]
  rfl

/-- A value that is no mapping either stands for an empty one or is refused. -/
theorem ofSection_of_not_mapping (hmap : ∀ shown, d.value item ≠ .map shown) :
    ofSection path d item =
      if (d.value item).isVacant then .ok default else .error (.sectionNotMapping path) := by
  rw [ofSection, Yaml.Document.entries?_eq_none hmap, ofItem, List.map_nil, ofEntries_nil]
  rfl

end Documents

/-! ### Files -/

section Files

variable [Value.Writing] [Yaml.Reader] {files : FileSet} {path : Path} {text : Text} {d : Yaml.Document}

theorem load_eq_ofDocument (hread : Source.read files path = .ok text)
    (hdocument : Yaml.Reader.read text = .ok (some d)) :
    load files path = ofDocument path.text d := by
  rw [load, hread]
  dsimp only
  rw [ofYaml, hdocument]

/-- A file whose value is neither nothing nor a mapping is refused. If its value is a mapping with a
section for the settings, then the result depends only on what the section holds. A mapping there is
read as settings, and nothing stands for an empty mapping. Any other value is refused, except that
one which counts as absent stands for an empty mapping too. This holds for every reader of YAML
texts. -/
theorem load_by_container (hread : Source.read files path = .ok text)
    (hdocument : Yaml.Reader.read text = .ok (some d)) :
    (isNull (d.value d.root) = false → (∀ shown, d.value d.root ≠ .map shown) →
      load files path = .error (.notMapping path.text)) ∧
    ∀ item, sectionItem? d = some item →
      (∀ entries, d.entries? item = some entries →
        load files path =
          ((ofEntries (itemValues d entries)).mapError .invalid).map (⟨·, false⟩)) ∧
      (isNull (d.value item) = true → load files path = .ok ⟨default, false⟩) ∧
      (isNull (d.value item) = false → (∀ shown, d.value item ≠ .map shown) →
        (load files path = .error (.sectionNotMapping path.text) ↔
          ¬ StandsForAbsent (d.value item)) ∧
        (load files path = .ok ⟨default, false⟩ ↔ StandsForAbsent (d.value item))) := by
  rw [load_eq_ofDocument hread hdocument]
  refine ⟨ofDocument_of_not_mapping, fun item hsection => ?_⟩
  rw [ofDocument_of_section hsection]
  refine ⟨fun entries hentries => ?_, fun hnull => ?_, fun hnull hmap => ?_⟩
  · rw [ofSection_of_entries hentries]
  · have hvalue : d.value item = .null := by
      cases hvalue : d.value item with
      | null => rfl
      | _ => rw [hvalue] at hnull; exact nomatch hnull
    rw [ofSection_of_not_mapping (by simp [hvalue]), hvalue]
    rfl
  · rw [ofSection_of_not_mapping hmap, ← isVacant_iff hnull hmap]
    cases (d.value item).isVacant <;> simp [Except.map]

end Files

/-- A text has a document that passes a test. -/
theorem exists_document [Yaml.Reader] (text : Text) (test : Yaml.Document → Bool)
    (h : (Yaml.Reader.read text).toOption.join.any test = true) :
    ∃ d, Yaml.Reader.read text = .ok (some d) ∧ test d = true := by
  obtain ⟨d, hd⟩ : ∃ d, (Yaml.Reader.read text).toOption.join = some d :=
    Option.isSome_iff_exists.mp (Option.isSome_of_any h)
  rw [hd] at h
  exact ⟨d, eq_ok_of_toOption (Option.join_eq_some_iff.mp hd), h⟩

/-- The length of a list. -/
def listLength? : Value → Option Nat
  | .list items => some items.length
  | _ => none

theorem listLength?_eq_some_iff {v : Value} {n : Nat} :
    listLength? v = some n ↔ ∃ items, v = .list items ∧ items.length = n := by
  cases v <;> simp [listLength?]

/-- A text whose section has a list has a document with that list. -/
theorem exists_listed [Yaml.Reader] (text : Text) (item n : Nat)
    (h : (Yaml.Reader.read text).toOption.join.any
      (fun d => sectionItem? d == some item && listLength? (d.value item) == some n) = true) :
    ∃ d items, Yaml.Reader.read text = .ok (some d) ∧ sectionItem? d = some item ∧
      d.value item = .list items ∧ items.length = n := by
  obtain ⟨d, hdocument, htest⟩ := exists_document text _ h
  obtain ⟨hsection, hlength⟩ := Bool.and_eq_true_iff.mp htest
  obtain ⟨items, hvalue, hitems⟩ := listLength?_eq_some_iff.mp (beq_iff_eq.mp hlength)
  exact ⟨d, items, hdocument, beq_iff_eq.mp hsection, hvalue, hitems⟩

/-- Files with a list in the section. -/
def listedFiles : FileSet :=
  .ofList [("one.yml".toList, Utf8.encode "amberpy: [2]\n".toList),
    ("none.yml".toList, Utf8.encode "amberpy: []\n".toList)]

/-- A list of one number is refused. -/
theorem load_by_container_one :
    Source.read listedFiles (Path.ofText "one.yml".toList) = .ok "amberpy: [2]\n".toList ∧
      (∃ d v, Yaml.Reader.read "amberpy: [2]\n".toList = .ok (some d) ∧
        sectionItem? d = some 2 ∧ d.value 2 = .list [v]) ∧
      load listedFiles (Path.ofText "one.yml".toList) =
        .error (.sectionNotMapping "one.yml".toList) := by
  have hread : Source.read listedFiles (Path.ofText "one.yml".toList) =
      .ok "amberpy: [2]\n".toList := by decide +kernel
  obtain ⟨d, items, hdocument, hsection, hvalue, hitems⟩ :=
    exists_listed "amberpy: [2]\n".toList 2 1 (by decide +kernel)
  obtain ⟨v, rfl⟩ := List.length_eq_one_iff.mp hitems
  obtain ⟨-, hrefused⟩ := (load_by_container hread hdocument).2 2 hsection |>.2
  refine ⟨hread, ⟨d, v, hdocument, hsection, hvalue⟩, ?_⟩
  refine (hrefused (by rw [hvalue]; rfl) (by simp [hvalue])).1.mpr ?_
  rw [hvalue]
  rintro ⟨⟩

/-- An empty list is not refused, and gives the defaults. -/
theorem load_admits_empty_list :
    Source.read listedFiles (Path.ofText "none.yml".toList) = .ok "amberpy: []\n".toList ∧
      (∃ d, Yaml.Reader.read "amberpy: []\n".toList = .ok (some d) ∧
        sectionItem? d = some 2 ∧ d.value 2 = .list []) ∧
      load listedFiles (Path.ofText "none.yml".toList) = .ok ⟨default, false⟩ := by
  have hread : Source.read listedFiles (Path.ofText "none.yml".toList) =
      .ok "amberpy: []\n".toList := by decide +kernel
  obtain ⟨d, items, hdocument, hsection, hvalue, hitems⟩ :=
    exists_listed "amberpy: []\n".toList 2 0 (by decide +kernel)
  obtain rfl := List.length_eq_zero_iff.mp hitems
  refine ⟨hread, ⟨d, hdocument, hsection, hvalue⟩, ?_⟩
  rw [load_eq_ofDocument hread hdocument, ofDocument_of_section hsection,
    ofSection_of_not_mapping (by simp [hvalue]), hvalue]
  rfl

end Settings
end AmberTools
