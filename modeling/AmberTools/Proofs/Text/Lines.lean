import AmberTools.Text.Line
import Mathlib.Data.List.Basic
import Mathlib.Tactic.Tauto

/-!
# Lines and the texts they make

A text is cut into pieces, each a line and its terminator. Conversely, lines with terminators
make a text. Cutting that text again gives the same pieces, up to two effects: a carriage return
that ends a line takes a line feed right behind it into its own line break, and an empty line
without terminator leaves no trace. Both effects concern one piece and what follows it, so they
are described by `Text.attach`, which puts a piece in front of others.

## Main definitions

* `Text.Unbroken`: lines without the characters of a line break.
* `Text.Terminated`: lists of pieces in which only the last line may lack its line break.
* `Text.attach`, `Text.settle`: pieces as they are read back from the text they make.
* `Text.numberLines`: pieces as lines, each made with its number.

## Main results

* `Text.linePieces_joined`: the pieces read back from a text made of terminated pieces.
* `Text.linePieces_fed`: lines that end with line feeds are read back unchanged.
* `Text.terminated_linePieces`: the pieces of any text are terminated.
* `Text.numberLines_linePieces`: every line of a text can be made.
-/

namespace AmberTools
namespace Text

/-- A line contains neither of the two characters of line breaks. -/
def Unbroken (line : Text) : Prop := '\r' ∉ line ∧ '\n' ∉ line

instance (line : Text) : Decidable (Unbroken line) := inferInstanceAs (Decidable (_ ∧ _))

/-- The line breaks. -/
def breaks : List Text := [['\n'], ['\r', '\n'], ['\r']]

/-- The text that pieces make. -/
def joined (pieces : List (Text × Text)) : Text := pieces.flatMap fun piece => piece.1 ++ piece.2

/-- Lists of pieces in which every line but the last has a line break behind it. -/
inductive Terminated : List (Text × Text) → Prop
  | nil : Terminated []
  | last {line : Text} (hline : Unbroken line) : Terminated [(line, [])]
  | cons {line terminator : Text} {pieces : List (Text × Text)} (hline : Unbroken line)
      (hterminator : terminator ∈ breaks) (hpieces : Terminated pieces) :
      Terminated ((line, terminator) :: pieces)

/-- A piece in front of others, as the text they make is read. A carriage return takes the line
feed of an empty line behind it, and an empty piece disappears. -/
def attach (piece : Text × Text) (pieces : List (Text × Text)) : List (Text × Text) :=
  if piece.2 = ['\r'] ∧ pieces.head? = some ([], ['\n']) then
    (piece.1, ['\r', '\n']) :: pieces.tail
  else if piece = ([], []) then pieces
  else piece :: pieces

/-- Pieces as they are read back from the text they make. -/
def settle (pieces : List (Text × Text)) : List (Text × Text) := pieces.foldr attach []

/-! ### Unbroken lines -/

theorem unbroken_nil : Unbroken [] := by simp [Unbroken]

theorem unbroken_cons_iff {c : Char} {line : Text} :
    Unbroken (c :: line) ↔ (c ≠ '\r' ∧ c ≠ '\n') ∧ Unbroken line := by
  simp only [Unbroken, List.mem_cons, not_or, ne_eq, eq_comm (a := c)]
  tauto

theorem unbroken_append_iff {a b : Text} : Unbroken (a ++ b) ↔ Unbroken a ∧ Unbroken b := by
  simp only [Unbroken, List.mem_append, not_or]
  tauto

/-- A part of an unbroken line is unbroken. -/
theorem Unbroken.sublist {a b : Text} (hb : Unbroken b) (h : a.Sublist b) : Unbroken a :=
  ⟨fun hr => hb.1 (h.subset hr), fun hn => hb.2 (h.subset hn)⟩

/-! ### Reading a line at the head of a text -/

/-- A character inside a line joins the line that follows it. -/
theorem linePieces_cons {c : Char} (hr : c ≠ '\r') (hn : c ≠ '\n') (rest : Text) :
    linePieces (c :: rest) =
      match linePieces rest with
      | [] => [([c], [])]
      | (line, terminator) :: pieces => (c :: line, terminator) :: pieces := by
  rw [linePieces.eq_def]
  split
  · contradiction
  · rename_i heq
    exact absurd (List.cons.inj heq).1 hr
  · rename_i heq
    exact absurd (List.cons.inj heq).1 hr
  · rename_i heq
    exact absurd (List.cons.inj heq).1 hn
  · rename_i heq
    obtain ⟨rfl, rfl⟩ := List.cons.inj heq
    rfl

/-- The characters of a line do not matter for how it is attached, if a line break ends it. -/
theorem attach_cons_line {c : Char} {line terminator : Text} (h : terminator ∈ breaks)
    (pieces : List (Text × Text)) :
    (match attach (line, terminator) pieces with
      | [] => [([c], [])]
      | (line, terminator) :: pieces => (c :: line, terminator) :: pieces) =
      attach (c :: line, terminator) pieces := by
  have hne : terminator ≠ [] := by
    rintro rfl
    simp [breaks] at h
  unfold attach
  by_cases hglue : terminator = ['\r'] ∧ pieces.head? = some ([], ['\n'])
  · rw [if_pos hglue, if_pos hglue]
  · rw [if_neg hglue, if_neg hglue, if_neg (by simp [hne]), if_neg (by simp)]

/-- A line break alone is an empty line in front of the rest. -/
theorem linePieces_break {terminator : Text} (h : terminator ∈ breaks) (rest : Text) :
    linePieces (terminator ++ rest) = attach ([], terminator) (linePieces rest) := by
  simp only [breaks, List.mem_cons, List.not_mem_nil, or_false] at h
  rcases h with rfl | rfl | rfl
  · simp [linePieces, attach]
  · simp [linePieces, attach]
  · -- whether a line feed follows decides which break the carriage return belongs to
    cases rest with
    | nil => simp [linePieces, attach]
    | cons c rest =>
      by_cases hn : c = '\n'
      · subst hn
        simp [linePieces, attach]
      · have hhead : (linePieces (c :: rest)).head? ≠ some ([], ['\n']) := by
          by_cases hr : c = '\r'
          · subst hr
            cases rest with
            | nil => simp [linePieces]
            | cons d rest => by_cases hd : d = '\n' <;> simp [linePieces, hd]
          · rw [linePieces_cons hr hn]
            split <;> simp
        have hcr : linePieces ('\r' :: c :: rest) = ([], ['\r']) :: linePieces (c :: rest) := by
          rw [linePieces]
          intro _ hc
          exact hn (List.cons.inj hc).1
        simpa [attach, hhead] using hcr

/-- A line with its line break is read off the head of a text. -/
theorem linePieces_append {line terminator : Text} (hline : Unbroken line)
    (h : terminator ∈ breaks) (rest : Text) :
    linePieces (line ++ terminator ++ rest) = attach (line, terminator) (linePieces rest) := by
  induction line with
  | nil => exact linePieces_break h rest
  | cons c line ih =>
    obtain ⟨⟨hr, hn⟩, hline⟩ := unbroken_cons_iff.mp hline
    rw [List.cons_append, List.cons_append, linePieces_cons hr hn, ih hline]
    exact attach_cons_line h (linePieces rest)

/-- An unbroken text is one line without terminator. -/
theorem linePieces_of_unbroken {line : Text} (hline : Unbroken line) :
    linePieces line = attach (line, []) [] := by
  induction line with
  | nil => simp [linePieces, attach]
  | cons c line ih =>
    obtain ⟨⟨hr, hn⟩, hline⟩ := unbroken_cons_iff.mp hline
    rw [linePieces_cons hr hn, ih hline]
    by_cases hnil : line = [] <;> simp [attach, hnil]

/-! ### Reading a joined text -/

/-- The pieces of a text made of terminated pieces. -/
theorem linePieces_joined {pieces : List (Text × Text)} (h : Terminated pieces) :
    linePieces (joined pieces) = settle pieces := by
  induction h with
  | nil => rfl
  | last hline => simpa [joined, settle] using linePieces_of_unbroken hline
  | cons hline hterminator _ ih =>
    rw [joined, List.flatMap_cons, linePieces_append hline hterminator]
    exact congrArg (attach _) ih

/-- Lines that each end with a line feed are read back one by one. -/
theorem linePieces_fed {lines : List Text} (h : ∀ line ∈ lines, Unbroken line) :
    linePieces (lines.flatMap fun line => line ++ ['\n']) =
      lines.map fun line => (line, ['\n']) := by
  induction lines with
  | nil => rfl
  | cons line lines ih =>
    have hfeed : ['\n'] ∈ breaks := by simp [breaks]
    rw [List.flatMap_cons, linePieces_append (h line List.mem_cons_self) hfeed,
      ih fun l hl => h l (List.mem_cons_of_mem _ hl)]
    simp [attach]

/-! ### The pieces of any text -/

/-- A longer first line leaves pieces terminated. -/
theorem Terminated.cons_line {c : Char} {line terminator : Text} {pieces : List (Text × Text)}
    (hr : c ≠ '\r') (hn : c ≠ '\n') (h : Terminated ((line, terminator) :: pieces)) :
    Terminated ((c :: line, terminator) :: pieces) := by
  cases h with
  | last hline => exact .last (unbroken_cons_iff.mpr ⟨⟨hr, hn⟩, hline⟩)
  | cons hline hterminator hpieces =>
    exact .cons (unbroken_cons_iff.mpr ⟨⟨hr, hn⟩, hline⟩) hterminator hpieces

/-- The pieces of a text are terminated. -/
theorem terminated_linePieces (text : Text) : Terminated (linePieces text) := by
  fun_induction linePieces text with
  | case1 => exact .nil
  | case2 rest ih => exact .cons unbroken_nil (by simp [breaks]) ih
  | case3 rest _ ih => exact .cons unbroken_nil (by simp [breaks]) ih
  | case4 rest ih => exact .cons unbroken_nil (by simp [breaks]) ih
  | case5 c rest _ hr hn _ _ => exact .last (unbroken_cons_iff.mpr ⟨⟨hr, hn⟩, unbroken_nil⟩)
  | case6 c rest _ hr hn line terminator pieces heq ih => exact (heq ▸ ih).cons_line hr hn

/-- No line of terminated pieces contains a line break. -/
theorem Terminated.unbroken {pieces : List (Text × Text)} (h : Terminated pieces) :
    ∀ piece ∈ pieces, Unbroken piece.1 := by
  induction h with
  | nil => simp
  | last hline => simpa using hline
  | cons hline _ _ ih => exact List.forall_mem_cons.mpr ⟨hline, ih⟩

/-- The lines of a text carry its pieces. -/
theorem map_splitLines (text : Text) :
    (splitLines text).map (fun line => (line.text, line.terminator)) = linePieces text := by
  apply List.ext_getElem?
  intro i
  rw [splitLines, List.getElem?_map, List.getElem?_mapIdx, Option.map_map]
  exact congrFun Option.map_id _

theorem map_text_splitLines (text : Text) :
    (splitLines text).map (·.text) = (linePieces text).map (·.1) := by
  rw [← map_splitLines, List.map_map]
  rfl

/-- No line of a text contains a line break. -/
theorem unbroken_of_mem_splitLines {text : Text} {line : SourceLine}
    (h : line ∈ splitLines text) : Unbroken line.text := by
  have hpiece : (line.text, line.terminator) ∈ linePieces text := by
    rw [← map_splitLines]
    exact List.mem_map_of_mem h
  exact (terminated_linePieces text).unbroken _ hpiece

/-! ### Numbers of lines -/

/-- The lines of some pieces, each made with its number. -/
def numberLines (number : Int) : List (Text × Text) → Except SourceLine.Fault (List SourceLine)
  | [] => .ok []
  | (line, terminator) :: pieces => do
    let first ← SourceLine.ofNumber number line terminator
    let others ← numberLines (number + 1) pieces
    return first :: others

/-- Numbers counted up from one are numbers of lines. -/
theorem numberLines_eq (i : Nat) (pieces : List (Text × Text)) :
    numberLines (i + 1) pieces =
      .ok (pieces.mapIdx fun j piece => ⟨i + j, piece.1, piece.2⟩) := by
  induction pieces generalizing i with
  | nil => rfl
  | cons piece pieces ih =>
    have hfirst : SourceLine.ofNumber (i + 1) piece.1 piece.2 = .ok ⟨i, piece.1, piece.2⟩ := by
      rw [SourceLine.ofNumber, if_neg (by omega), Int.add_sub_cancel, Int.toNat_natCast]
    have hothers := ih (i + 1)
    rw [Int.natCast_add, Int.natCast_one] at hothers
    have hindex : (fun (j : Nat) (piece : Text × Text) =>
        (⟨i + 1 + j, piece.1, piece.2⟩ : SourceLine)) =
          fun j piece => ⟨i + (j + 1), piece.1, piece.2⟩ := by
      funext j piece
      rw [Nat.add_assoc, Nat.add_comm 1 j]
    rw [numberLines, hfirst, hothers, List.mapIdx_cons, hindex]
    rfl

/-- The lines of a text are made without a fault. -/
theorem numberLines_linePieces (text : Text) :
    numberLines 1 (linePieces text) = .ok (splitLines text) := by
  simpa [splitLines] using numberLines_eq 0 (linePieces text)

end Text
end AmberTools
