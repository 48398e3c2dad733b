import AmberTools.Settings.Load
import Mathlib.Tactic.SplitIfs

/-!
# Written files

Writing to a file replaces its bytes and nothing else. Which places paths lead to depends only on
which places are directories, so that every path leads where it did before. At the place of the file
the new bytes are read, and at any other place what was there already.

## Main definitions

* `FileSet.place?`: the place that a path leads to.
* `FileSet.replaced`: a file set with other bytes at a place.

## Main results

* `FileSet.find_replaced`: paths in a file set with other bytes at a place.
* `FileSet.read_eq_ok_iff`: the places that bytes are read from.
* `FileSet.read_write_self`, `FileSet.read_write_of_ne`: what is read behind a write.
* `Source.exists_of_read`: where a text is read from.
* `Settings.load_write_of_ne`: settings do not depend on what is written elsewhere.
-/

namespace AmberTools

namespace FileSet

/-- The place that a path leads to. -/
def place? (files : FileSet) (path : Path) : Option Place := (files.find path).toOption.map (·.1)

/-- The set with other bytes at a place. -/
def replaced (files : FileSet) (found : Path) (bytes : List UInt8) : FileSet :=
  ⟨files.entries.map fun e => if e.1 = found then (e.1, .file bytes) else e⟩

variable {files : FileSet} {path found : Path} {place : Place} {entry : FileEntry}
  {old : List UInt8}

/-! ### Places with other bytes -/

theorem at?_of_find (h : files.find path = .ok (place, entry)) : files.at? place = some entry := by
  unfold find at h
  split_ifs at h
  split at h
  · exact nomatch h
  · split at h
    · rename_i place' _ entry' hentry
      obtain ⟨rfl, rfl⟩ := Prod.mk.inj (Except.ok.inj h)
      exact hentry
    · exact nomatch h

/-- No file is above the directory that a program runs in. -/
theorem exists_within_of_at? (h : files.at? place = some (.file old)) :
    ∃ found, place = .within found := by
  cases place with
  | within found => exact ⟨found, rfl⟩
  | above => exact nomatch h

/-- The entry found for a path is the same, with other bytes if it is the one at the place. -/
theorem find?_entries_replaced (files : FileSet) (found : Path) (bytes : List UInt8) (path : Path) :
    (files.replaced found bytes).entries.find? (fun e => e.1 == path) =
      (files.entries.find? fun e => e.1 == path).map
        fun e => if e.1 = found then (e.1, .file bytes) else e := by
  rw [replaced, List.find?_map]
  refine congrArg _ (congrArg (files.entries.find? ·) (funext fun e => ?_))
  dsimp only [Function.comp_apply]
  split_ifs <;> rfl

theorem any_leadsTo_replaced (files : FileSet) (found : Path) (bytes : List UInt8) (path : Path) :
    (files.replaced found bytes).entries.any (fun e => leadsTo path e.1) =
      files.entries.any fun e => leadsTo path e.1 := by
  rw [replaced, List.any_map]
  refine congrArg (files.entries.any ·) (funext fun e => ?_)
  dsimp only [Function.comp_apply]
  split_ifs <;> rfl

/-- A file has an entry of its own; only directories can be there without one. -/
theorem exists_find?_of_entry? (h : files.entry? found = some (.file old)) :
    found.names.isEmpty = false ∧
      ∃ e, files.entries.find? (fun e => e.1 == found) = some e ∧ e.1 = found := by
  unfold entry? at h
  by_cases hnames : found.names.isEmpty = true
  · rw [if_pos hnames] at h
    exact nomatch h
  · rw [if_neg hnames] at h
    refine ⟨Bool.eq_false_iff.mpr hnames, ?_⟩
    cases he : files.entries.find? fun e => e.1 == found with
    | none =>
      rw [he] at h
      dsimp only at h
      split_ifs at h
      exact nomatch h
    | some e => exact ⟨e, rfl, by simpa using List.find?_some he⟩

/-- Only the entry at the place itself changes. -/
theorem entry?_replaced (h : files.entry? found = some (.file old)) (bytes : List UInt8)
    (path : Path) :
    entry? (files.replaced found bytes) path =
      if path = found then some (.file bytes) else files.entry? path := by
  unfold entry?
  rw [find?_entries_replaced, any_leadsTo_replaced]
  by_cases hpath : path = found
  · subst hpath
    obtain ⟨hnames, e, he, hkey⟩ := exists_find?_of_entry? h
    rw [if_pos rfl, hnames, if_neg Bool.false_ne_true, he, Option.map_some, if_pos hkey]
  · rw [if_neg hpath]
    cases he : files.entries.find? fun e => e.1 == path with
    | none => rfl
    | some e =>
      have hkey : e.1 = path := by simpa using List.find?_some he
      rw [Option.map_some, if_neg fun hfound => hpath (hkey.symm.trans hfound)]

theorem at?_replaced (h : files.at? (.within found) = some (.file old)) (bytes : List UInt8)
    (place : Place) :
    (files.replaced found bytes).at? place =
      if place = .within found then some (.file bytes) else files.at? place := by
  cases place with
  | above => rfl
  | within path =>
    simp only [at?, entry?_replaced h, Place.within.injEq]

/-! ### Paths in a set with other bytes -/

/-- Only directories lead further, and the same places are directories. -/
theorem follow_replaced (h : files.at? (.within found) = some (.file old)) (bytes : List UInt8)
    (place : Place) (names : List Text) :
    (files.replaced found bytes).follow place names = files.follow place names := by
  induction names generalizing place with
  | nil => rfl
  | cons name names ih =>
    rw [follow, follow, at?_replaced h]
    by_cases hplace : place = .within found
    · rw [if_pos hplace, hplace, h]
    · simp only [if_neg hplace, ih]

/-- Paths lead where they did, and to other bytes at the place itself. -/
theorem find_replaced (h : files.at? (.within found) = some (.file old)) (bytes : List UInt8)
    (path : Path) :
    (files.replaced found bytes).find path =
      (files.find path).map fun end_ =>
        (end_.1, if end_.1 = .within found then .file bytes else end_.2) := by
  unfold find
  split_ifs
  · rfl
  · rw [follow_replaced h]
    cases files.follow (.within ⟨path.root, []⟩) path.names with
    | error fault => rfl
    | ok place =>
      dsimp only
      rw [at?_replaced h]
      by_cases hplace : place = .within found
      · rw [if_pos hplace, hplace, h]
        simp [Except.map]
      · rw [if_neg hplace]
        cases files.at? place <;> simp [Except.map, hplace]

/-! ### Writing -/

theorem write_eq_replaced (h : files.find path = .ok (.within found, .file old))
    (bytes : List UInt8) : files.write path bytes = files.replaced found bytes := by
  rw [write, h]
  rfl

/-- Bytes are read from a file at a place that is known. -/
theorem read_eq_ok_iff :
    files.read path = .ok old ↔ ∃ found, files.find path = .ok (.within found, .file old) := by
  constructor
  · intro h
    unfold read at h
    split at h
    · rename_i hfind
      obtain ⟨found, rfl⟩ := exists_within_of_at? (at?_of_find hfind)
      obtain rfl := Except.ok.inj h
      exact ⟨found, hfind⟩
    · exact nomatch h
    · exact nomatch h
  · rintro ⟨found, hfind⟩
    rw [read, hfind]

/-- The bytes that have been written are read. -/
theorem read_write_self (h : files.read path = .ok old) (bytes : List UInt8) :
    (files.write path bytes).read path = .ok bytes := by
  obtain ⟨found, hfind⟩ := read_eq_ok_iff.mp h
  rw [write_eq_replaced hfind, read, find_replaced (at?_of_find hfind), hfind]
  simp [Except.map]

/-- At other places the same bytes are read as before. -/
theorem read_write_of_ne {other : Path} (h : files.place? other ≠ files.place? path)
    (bytes : List UInt8) : (files.write path bytes).read other = files.read other := by
  by_cases hfile : ∃ found old, files.find path = .ok (.within found, .file old)
  · obtain ⟨found, old, hfind⟩ := hfile
    rw [write_eq_replaced hfind, read, read, find_replaced (at?_of_find hfind)]
    cases hother : files.find other with
    | error fault => rfl
    | ok reached =>
      have hplace : reached.1 ≠ .within found := by
        rintro heq
        refine h ?_
        rw [place?, place?, hother, hfind]
        exact congrArg some heq
      simp only [Except.map, if_neg hplace]
  · have hsame : files.write path bytes = files := by
      unfold write
      split
      · rename_i found old hfind
        exact absurd ⟨found, old, hfind⟩ hfile
      · rfl
    rw [hsame]

end FileSet

namespace Source

variable {files : FileSet} {path other : Path} {old : List UInt8}

theorem readBytes_write_self (h : readBytes files path = .ok old) (bytes : List UInt8) :
    readBytes (files.write path bytes) path = .ok bytes := by
  unfold readBytes at h ⊢
  split_ifs at h ⊢
  cases hread : files.read path with
  | error fault =>
    rw [hread] at h
    exact nomatch h
  | ok old => rw [FileSet.read_write_self hread]; rfl

theorem readBytes_write_of_ne (h : files.place? other ≠ files.place? path) (bytes : List UInt8) :
    readBytes (files.write path bytes) other = readBytes files other := by
  rw [readBytes, readBytes, FileSet.read_write_of_ne h]

/-- The text of a file is that of bytes at a known place. -/
theorem exists_of_read {text : Text} (h : read files path = .ok text) :
    ∃ found bytes old, files.find path = .ok (.within found, .file bytes) ∧
      Utf8.decode bytes = .ok old ∧ text = Text.unifyBreaks old := by
  unfold read readBytes at h
  split_ifs at h
  cases hread : files.read path with
  | error fault =>
    rw [hread] at h
    exact nomatch h
  | ok bytes =>
    obtain ⟨found, hfind⟩ := FileSet.read_eq_ok_iff.mp hread
    rw [hread] at h
    change (decode bytes).mapError ReadFault.encoding = Except.ok text at h
    cases hold : Utf8.decode bytes with
    | error fault =>
      rw [decode, hold] at h
      exact nomatch h
    | ok old =>
      rw [decode, hold] at h
      exact ⟨found, bytes, old, hfind, hold, (Except.ok.inj h).symm⟩

end Source

/-- Settings are read from their own file only. -/
theorem Settings.load_write_of_ne [Value.Writing] [Yaml.Reader] {files : FileSet} {path other : Path}
    (h : files.place? other ≠ files.place? path) (bytes : List UInt8) :
    load (files.write path bytes) other = load files other := by
  rw [load, load, Source.read, Source.read, Source.readBytes_write_of_ne h]

end AmberTools
