import AmberTools.Proofs.Text.Settled
import Mathlib.Data.Option.Basic

/-!
# Canonical lines

A text and its lines say the same. The lines make the text when they are put one behind the other,
and the text gives the lines back when it is cut. Not every list of lines is given back: the numbers
have to count up from one, line breaks have to stand behind the lines and nowhere else, and what
settling would change must not occur, an empty line without a line break and a line feed alone
behind a carriage return. Lists of lines without these flaws are canonical, and cutting is a
bijection between the texts and the canonical lists.

## Main definitions

* `SourceLine.piece`: a line without its number.
* `Text.Numbered`: lines whose numbers count up from one.
* `Text.Canonical`: lists of lines that a text can have.

## Main results

* `Text.terminated_iff`: terminated pieces by their line breaks.
* `Text.linePieces_eq_iff`: the pieces of a text are the settled ones that make it.
* `Text.splitLines_eq_iff`: the lines of a text are the canonical ones that make it.
-/

namespace AmberTools

/-- A line without its number. -/
def SourceLine.piece (line : SourceLine) : Text × Text := (line.text, line.terminator)

namespace Text

/-- The numbers of the lines count up from one. -/
def Numbered (lines : List SourceLine) : Prop :=
  lines.map SourceLine.number = List.range' 1 lines.length

/-- Lists of lines that a text can have. -/
structure Canonical (lines : List SourceLine) : Prop where
  numbered : Numbered lines
  unbroken : ∀ line ∈ lines, Unbroken line.text
  /-- All lines but the last one end with a line break. -/
  ended : ∀ line ∈ lines.dropLast, line.terminator ∈ breaks
  /-- The last line may lack its line break if something stands on it. -/
  last_ended : ∀ line ∈ lines.getLast?,
    line.terminator ∈ breaks ∨ line.terminator = [] ∧ line.text ≠ []
  /-- No line that a carriage return ends is followed by nothing but a line feed. -/
  parted : lines.IsChain fun line next =>
    ¬ (line.terminator = ['\r'] ∧ next.text = [] ∧ next.terminator = ['\n'])

instance (lines : List SourceLine) : Decidable (Numbered lines) :=
  inferInstanceAs (Decidable (_ = _))

instance (lines : List SourceLine) : Decidable (Canonical lines) :=
  letI (terminator : Text) : Decidable (terminator ∈ breaks) :=
    decidable_of_bool (breaks.contains terminator) List.contains_iff_mem
  decidable_of_iff
    (Numbered lines ∧ (∀ line ∈ lines, Unbroken line.text) ∧
      (∀ line ∈ lines.dropLast, line.terminator ∈ breaks) ∧
      (∀ line ∈ lines.getLast?,
        line.terminator ∈ breaks ∨ line.terminator = [] ∧ line.text ≠ []) ∧
      lines.IsChain fun line next =>
        ¬ (line.terminator = ['\r'] ∧ next.text = [] ∧ next.terminator = ['\n']))
    ⟨fun ⟨hnumbered, hunbroken, hended, hlast, hparted⟩ =>
      ⟨hnumbered, hunbroken, hended, hlast, hparted⟩,
      fun h => ⟨h.numbered, h.unbroken, h.ended, h.last_ended, h.parted⟩⟩

variable {text : Text} {lines : List SourceLine} {pieces : List (Text × Text)}

/-! ### Pieces -/

/-- Pieces are terminated if and only if no line contains a line break, and each line but perhaps
the last one has one behind it. -/
theorem terminated_iff :
    Terminated pieces ↔
      (∀ piece ∈ pieces, Unbroken piece.1) ∧ (∀ piece ∈ pieces.dropLast, piece.2 ∈ breaks) ∧
        ∀ piece ∈ pieces.getLast?, piece.2 ∈ breaks ∨ piece.2 = [] := by
  induction pieces with
  | nil => exact iff_of_true .nil (by simp)
  | cons piece pieces ih =>
    rw [terminated_cons_iff]
    cases pieces with
    | nil => simp [Terminated.nil, or_comm]
    | cons next pieces =>
      rw [ih, List.dropLast_cons_cons, List.getLast?_cons_cons]
      simp only [reduceCtorEq, and_false, false_or, List.forall_mem_cons]
      tauto

theorem nil_notMem_breaks : [] ∉ breaks := by simp [breaks]

/-- Of terminated pieces only the last one can be empty. -/
theorem Terminated.nil_mem_iff (h : Terminated pieces) :
    ([], []) ∈ pieces ↔ pieces.getLast? = some ([], []) := by
  induction h with
  | nil => simp
  | last => simp [eq_comm]
  | @cons line terminator pieces _ hterminator _ ih =>
    have hfirst : (line, terminator) ≠ ([], []) := by
      rintro heq
      exact nil_notMem_breaks ((Prod.mk.inj heq).2 ▸ hterminator)
    rw [List.mem_cons, or_iff_right hfirst.symm, ih]
    cases pieces with
    | nil => simpa using hfirst
    | cons next pieces => rw [List.getLast?_cons_cons]

/-- The pieces of a text are the settled ones that make it. -/
theorem linePieces_eq_iff :
    linePieces text = pieces ↔
      Terminated pieces ∧ settle pieces = pieces ∧ joined pieces = text := by
  constructor
  · rintro rfl
    exact ⟨terminated_linePieces text, settle_linePieces text, joined_linePieces text⟩
  · rintro ⟨hterminated, hsettle, rfl⟩
    rw [linePieces_joined hterminated, hsettle]

/-! ### Numbered lines -/

theorem numbered_iff :
    Numbered lines ↔ ∀ (i : Nat) (line : SourceLine), lines[i]? = some line → line.index = i := by
  have hget (i : Nat) : (lines.map SourceLine.number)[i]? =
      lines[i]?.map fun line => line.index + 1 := List.getElem?_map
  constructor
  · intro h i line hline
    have hi : i < lines.length := (List.getElem?_eq_some_iff.mp hline).1
    have hnumber := hget i
    rw [h, hline, List.getElem?_range' hi, Option.map_some, Option.some.injEq] at hnumber
    omega
  · intro h
    refine List.ext_getElem? fun i => ?_
    rw [hget]
    cases hline : lines[i]? with
    | none =>
      rw [List.getElem?_eq_none_iff] at hline
      simp [hline]
    | some line =>
      have hi : i < lines.length := (List.getElem?_eq_some_iff.mp hline).1
      rw [List.getElem?_range' hi, Option.map_some, h i line hline, Nat.one_mul, Nat.add_comm]

/-- A text has some lines if they are numbered and its pieces are those of the lines. -/
theorem splitLines_eq_iff_piece :
    splitLines text = lines ↔ Numbered lines ∧ linePieces text = lines.map SourceLine.piece := by
  constructor
  · rintro rfl
    refine ⟨numbered_iff.mpr fun i line hline => ?_, (map_splitLines text).symm⟩
    exact (getElem?_splitLines_eq_some_iff.mp hline).1
  · rintro ⟨hnumbered, hpieces⟩
    refine List.ext_getElem? fun i => Option.ext fun line => ?_
    rw [getElem?_splitLines_eq_some_iff, hpieces, List.getElem?_map, Option.map_eq_some_iff]
    constructor
    · rintro ⟨hindex, ⟨index, line, terminator⟩, hline, hpiece⟩
      obtain ⟨rfl, rfl⟩ := Prod.mk.inj hpiece
      obtain rfl : index = i := numbered_iff.mp hnumbered i _ hline
      rw [hline, ← hindex]
    · intro hline
      exact ⟨numbered_iff.mp hnumbered i line hline, line, hline, rfl⟩

/-! ### Canonical lines -/

theorem terminated_map_piece_iff :
    Terminated (lines.map SourceLine.piece) ↔
      (∀ line ∈ lines, Unbroken line.text) ∧ (∀ line ∈ lines.dropLast, line.terminator ∈ breaks) ∧
        ∀ line ∈ lines.getLast?, line.terminator ∈ breaks ∨ line.terminator = [] := by
  rw [terminated_iff, ← List.map_dropLast, List.getLast?_map, List.forall_mem_map,
    List.forall_mem_map, Option.forall_mem_map]
  rfl

/-- Of terminated lines the last one is left out if and only if it is empty. -/
theorem nil_notMem_map_piece_iff (h : Terminated (lines.map SourceLine.piece)) :
    ([], []) ∉ lines.map SourceLine.piece ↔
      ∀ line ∈ lines.getLast?, line.terminator = [] → line.text ≠ [] := by
  rw [h.nil_mem_iff, List.getLast?_map]
  cases lines.getLast? with
  | none => simp
  | some last => simp [SourceLine.piece, imp_not_comm]

/-- Lines are canonical if and only if they are numbered and their pieces are settled. -/
theorem canonical_iff :
    Canonical lines ↔
      Numbered lines ∧ Terminated (lines.map SourceLine.piece) ∧
        settle (lines.map SourceLine.piece) = lines.map SourceLine.piece := by
  have hparted : ((lines.map SourceLine.piece).IsChain fun piece next => ¬ Fused piece next) ↔
      lines.IsChain fun line next =>
        ¬ (line.terminator = ['\r'] ∧ next.text = [] ∧ next.terminator = ['\n']) := by
    simp only [List.isChain_map, Fused, SourceLine.piece, Prod.mk.injEq]
  rw [settle_eq_self_iff, hparted]
  constructor
  · intro h
    have hterminated : Terminated (lines.map SourceLine.piece) :=
      terminated_map_piece_iff.mpr ⟨h.unbroken, h.ended, fun line hline =>
        (h.last_ended line hline).imp_right And.left⟩
    refine ⟨h.numbered, hterminated, ?_, h.parted⟩
    refine (nil_notMem_map_piece_iff hterminated).mpr fun line hline hnil => ?_
    have hbreaks : line.terminator ∉ breaks := hnil ▸ nil_notMem_breaks
    exact ((h.last_ended line hline).resolve_left hbreaks).2
  · rintro ⟨hnumbered, hterminated, hnone, hchain⟩
    obtain ⟨hunbroken, hended, hlast⟩ := terminated_map_piece_iff.mp hterminated
    refine ⟨hnumbered, hunbroken, hended, fun line hline => ?_, hchain⟩
    exact (hlast line hline).imp_right fun hnil =>
      ⟨hnil, (nil_notMem_map_piece_iff hterminated).mp hnone line hline hnil⟩

/-- The lines of a text are the canonical ones that make it: cutting a text gives canonical lines
whose texts and terminators are the text, and canonical lines are given back when the text that
they make is cut. -/
theorem splitLines_eq_iff (text : Text) (lines : List SourceLine) :
    splitLines text = lines ↔ Canonical lines ∧ lines.flatMap SourceLine.full = text := by
  have hjoined : joined (lines.map SourceLine.piece) = lines.flatMap SourceLine.full :=
    List.flatMap_map ..
  rw [splitLines_eq_iff_piece, linePieces_eq_iff, canonical_iff, hjoined, and_assoc, and_assoc]

-- three lines, the middle one empty, and the same line breaks in another order
example : Canonical [⟨0, ['a'], ['\n']⟩, ⟨1, [], ['\r']⟩, ⟨2, ['b'], []⟩] ∧
    ¬ Canonical [⟨0, ['a'], ['\r']⟩, ⟨1, [], ['\n']⟩, ⟨2, ['b'], []⟩] := by
  decide

end Text
end AmberTools
