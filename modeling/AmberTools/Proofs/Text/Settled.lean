import AmberTools.Proofs.Text.Lines
import Mathlib.Data.List.Chain

/-!
# Settled pieces

Pieces are settled if they are read back from the text they make just as they are. What can go
wrong is known: an empty piece disappears, and a carriage return takes in the line feed of an
empty line behind it. Either makes one piece fewer, so pieces are settled as soon as none is lost
in reading.

## Main definitions

* `Text.Fused`: pieces whose line breaks are read as one.
* `Text.Parted`: texts between which a line ends.

## Main results

* `Text.settle_eq_self_of_length`: pieces of which none is lost are settled.
* `Text.settle_eq_self_iff`: the settled pieces.
* `Text.settle_append_singleton`: a last line that stands apart is read back as it is.
* `Text.linePieces_joined_append`: a line behind pieces with line breaks.
* `Text.joined_linePieces`: the pieces of a text make it.
* `Text.linePieces_joined_map`: other lines in place of those of a text.
* `Text.linePieces_append_of_parted`: the pieces of parted texts side by side.
-/

namespace AmberTools
namespace Text

variable {piece : Text × Text} {pieces : List (Text × Text)}

theorem settle_cons (piece : Text × Text) (pieces : List (Text × Text)) :
    settle (piece :: pieces) = attach piece (settle pieces) := rfl

/-! ### Lost pieces -/

theorem length_attach_le (piece : Text × Text) (pieces : List (Text × Text)) :
    (attach piece pieces).length ≤ pieces.length + 1 := by
  unfold attach
  split_ifs
  · simp only [List.length_cons, List.length_tail]
    omega
  · exact Nat.le_succ _
  · exact Nat.le_refl _

/-- A piece that makes one piece more stands in front of the others as it is. -/
theorem attach_eq_cons_of_length (h : (attach piece pieces).length = pieces.length + 1) :
    attach piece pieces = piece :: pieces := by
  unfold attach at h ⊢
  split_ifs at h ⊢ with hglue
  · -- the line feed taken in stood in a piece of its own
    cases pieces with
    | nil => simp at hglue
    | cons next pieces => simp at h
  · omega
  · rfl

theorem length_settle_le (pieces : List (Text × Text)) :
    (settle pieces).length ≤ pieces.length := by
  induction pieces with
  | nil => exact Nat.le_refl _
  | cons piece pieces ih =>
    have hattach := length_attach_le piece (settle pieces)
    rw [settle_cons, List.length_cons]
    omega

/-- Pieces of which none is lost are settled. -/
theorem settle_eq_self_of_length (h : (settle pieces).length = pieces.length) :
    settle pieces = pieces := by
  induction pieces with
  | nil => rfl
  | cons piece pieces ih =>
    rw [settle_cons, List.length_cons] at h
    have hattach := length_attach_le piece (settle pieces)
    have hsettle := length_settle_le pieces
    have hrest : settle pieces = pieces := ih (by omega)
    rw [hrest] at h
    rw [settle_cons, hrest, attach_eq_cons_of_length h]

/-- A carriage return and the line feed of an empty line right behind it. -/
def Fused (piece next : Text × Text) : Prop := piece.2 = ['\r'] ∧ next = ([], ['\n'])

/-- Pieces are settled if and only if none of them is empty and no two neighbours are fused. -/
theorem settle_eq_self_iff :
    settle pieces = pieces ↔
      ([], []) ∉ pieces ∧ pieces.IsChain fun piece next => ¬ Fused piece next := by
  induction pieces with
  | nil => simp [settle]
  | cons piece pieces ih =>
    have hhead : (∀ next ∈ pieces.head?, ¬ Fused piece next) ↔
        ¬ (piece.2 = ['\r'] ∧ pieces.head? = some ([], ['\n'])) := by
      cases pieces <;> simp [Fused]
    rw [List.mem_cons, not_or, List.isChain_cons, hhead]
    constructor
    · intro h
      have hattach := length_attach_le piece (settle pieces)
      have hsettle := length_settle_le pieces
      have hlength := congrArg List.length h
      rw [settle_cons, List.length_cons] at hlength
      have hrest : settle pieces = pieces := settle_eq_self_of_length (by omega)
      obtain ⟨hnone, hchain⟩ := ih.mp hrest
      rw [settle_cons, hrest, attach] at h
      split_ifs at h with hfuse hempty
      · obtain ⟨heq, -⟩ := List.cons.inj h
        rw [← heq] at hfuse
        simp at hfuse
      · exact absurd h (List.cons_ne_self _ _).symm
      · exact ⟨⟨Ne.symm hempty, hnone⟩, hfuse, hchain⟩
    · rintro ⟨⟨hne, hnone⟩, hfuse, hchain⟩
      have hrest : settle pieces = pieces := ih.mpr ⟨hnone, hchain⟩
      rw [settle_cons, hrest, attach, if_neg hfuse, if_neg (Ne.symm hne)]

/-- Pieces with lines that are not empty are settled. -/
theorem settle_eq_self_of_ne_nil (h : ∀ piece ∈ pieces, piece.1 ≠ []) :
    settle pieces = pieces := by
  refine settle_eq_self_iff.mpr ⟨fun hmem => h _ hmem rfl, ?_⟩
  rw [List.isChain_iff_forall_rel_of_append_cons_cons]
  rintro piece next front back rfl ⟨-, hnext⟩
  exact h next (by simp) (by rw [hnext])

/-! ### Single pieces -/

/-- Empty pieces leave no trace. -/
theorem settle_filter_ne_nil (pieces : List (Text × Text)) :
    settle (pieces.filter fun piece => decide (piece ≠ ([], []))) = settle pieces := by
  induction pieces with
  | nil => rfl
  | cons piece pieces ih =>
    by_cases hnone : piece = ([], [])
    · subst hnone
      simpa [settle_cons, attach] using ih
    · rw [List.filter_cons_of_pos (by simpa using hnone), settle_cons, settle_cons, ih]

/-- Only an empty line with a line feed is read as one at the head of other pieces. -/
theorem head?_settle_cons_eq_feed (hnone : piece ≠ ([], [])) (pieces : List (Text × Text)) :
    (settle (piece :: pieces)).head? = some ([], ['\n']) ↔ piece = ([], ['\n']) := by
  rw [settle_cons, attach]
  split_ifs with hglue
  · obtain ⟨line, terminator⟩ := piece
    obtain ⟨rfl, -⟩ := hglue
    simp
  · simp

/-- A piece that is not empty stands in front of others as it is, unless its carriage return takes
a line feed in. -/
theorem settle_cons_of_not_fused (hnone : piece ≠ ([], []))
    (hfuse : ¬ (piece.2 = ['\r'] ∧ (settle pieces).head? = some ([], ['\n']))) :
    settle (piece :: pieces) = piece :: settle pieces := by
  rw [settle_cons, attach, if_neg hfuse, if_neg hnone]

/-- A last piece that is neither empty nor an empty line with a line feed is read back as it is,
whatever stands in front of it. -/
theorem settle_append_singleton (hnone : piece ≠ ([], [])) (hfeed : piece ≠ ([], ['\n']))
    (pieces : List (Text × Text)) : settle (pieces ++ [piece]) = settle pieces ++ [piece] := by
  induction pieces with
  | nil => simp [settle, attach, hnone]
  | cons first pieces ih =>
    have hhead : (settle pieces ++ [piece]).head? = some ([], ['\n']) ↔
        (settle pieces).head? = some ([], ['\n']) := by
      cases settle pieces with
      | nil => simp [hfeed]
      | cons next rest => simp
    rw [List.cons_append, settle_cons, settle_cons, ih]
    simp only [attach, hhead]
    split_ifs with hglue
    · rw [List.tail_append_of_ne_nil (by rintro h; simp [h] at hglue), List.cons_append]
    · rfl
    · rfl

/-! ### Beginnings of terminated pieces -/

theorem terminated_cons_iff :
    Terminated (piece :: pieces) ↔
      Unbroken piece.1 ∧
        (piece.2 = [] ∧ pieces = [] ∨ piece.2 ∈ breaks ∧ Terminated pieces) := by
  constructor
  · intro h
    cases h with
    | last hline => exact ⟨hline, .inl ⟨rfl, rfl⟩⟩
    | cons hline hterminator hpieces => exact ⟨hline, .inr ⟨hterminator, hpieces⟩⟩
  · obtain ⟨line, terminator⟩ := piece
    rintro ⟨hline, ⟨rfl, rfl⟩ | ⟨hterminator, hpieces⟩⟩
    · exact .last hline
    · exact .cons hline hterminator hpieces

theorem Terminated.of_append {front back : List (Text × Text)} (h : Terminated (front ++ back)) :
    Terminated front := by
  induction front with
  | nil => exact .nil
  | cons piece front ih =>
    obtain ⟨hline, ⟨hterminator, hnil⟩ | ⟨hterminator, hrest⟩⟩ := terminated_cons_iff.mp h
    · rw [(List.append_eq_nil_iff.mp hnil).1]
      exact terminated_cons_iff.mpr ⟨hline, .inl ⟨hterminator, rfl⟩⟩
    · exact terminated_cons_iff.mpr ⟨hline, .inr ⟨hterminator, ih hrest⟩⟩

/-- All pieces in front of another have line breaks, so a line may take the place of the rest. -/
theorem Terminated.append_line {front back : List (Text × Text)}
    (h : Terminated (front ++ piece :: back)) {line : Text} (hline : Unbroken line) :
    Terminated (front ++ [(line, [])]) := by
  induction front with
  | nil => exact .last hline
  | cons first front ih =>
    obtain ⟨hfirst, ⟨-, hnil⟩ | ⟨hterminator, hrest⟩⟩ := terminated_cons_iff.mp h
    · exact absurd hnil (by simp)
    · exact terminated_cons_iff.mpr ⟨hfirst, .inr ⟨hterminator, ih hrest⟩⟩

/-- A line is read behind pieces with line breaks as it is. -/
theorem linePieces_joined_append {front back : List (Text × Text)}
    (h : Terminated (front ++ piece :: back)) {line : Text} (hline : Unbroken line)
    (hne : line ≠ []) :
    linePieces (joined front ++ line) = linePieces (joined front) ++ [(line, [])] := by
  have hjoined : joined front ++ line = joined (front ++ [(line, [])]) := by simp [joined]
  rw [hjoined, linePieces_joined (h.append_line hline), linePieces_joined h.of_append,
    settle_append_singleton (by simp [hne]) (by simp)]

/-- A piece in front of another has a line break. -/
theorem Terminated.mem_breaks {front back : List (Text × Text)} {next : Text × Text}
    (h : Terminated (front ++ piece :: next :: back)) : piece.2 ∈ breaks := by
  induction front with
  | nil =>
    obtain ⟨-, ⟨-, hnil⟩ | ⟨hterminator, -⟩⟩ := terminated_cons_iff.mp h
    · contradiction
    · exact hterminator
  | cons first front ih =>
    obtain ⟨-, ⟨-, hnil⟩ | ⟨-, hrest⟩⟩ := terminated_cons_iff.mp h
    · simp at hnil
    · exact ih hrest

/-- Where no line ends with a carriage return alone, reading pieces back only loses an empty one at
the end. -/
theorem getElem?_settle_eq_some_iff (h : Terminated pieces)
    (hreturn : ['\r'] ∉ pieces.map Prod.snd) (hnone : piece ≠ ([], [])) {i : Nat} :
    (settle pieces)[i]? = some piece ↔ pieces[i]? = some piece := by
  induction h generalizing i with
  | nil => rfl
  | @last line _ =>
    by_cases hline : line = []
    · subst hline
      cases i <;> simp [settle, attach, hnone.symm]
    · simp [settle, attach, hline]
  | @cons line terminator pieces _ hterminator _ ih =>
    rw [List.map_cons, List.mem_cons, not_or] at hreturn
    have hfirst : (line, terminator) ≠ ([], []) := by
      rintro heq
      simp [(Prod.mk.inj heq).2, breaks] at hterminator
    rw [settle_cons_of_not_fused hfirst fun hfuse => hreturn.1 hfuse.1.symm]
    cases i with
    | zero => rfl
    | succ i => exact ih hreturn.2

/-! ### The pieces of a text -/

/-- No piece of a text is empty. -/
theorem nil_notMem_linePieces (text : Text) : ([], []) ∉ linePieces text := by
  fun_induction linePieces text with
  | case1 => simp
  | case2 rest ih => simpa using ih
  | case3 rest _ ih => simpa using ih
  | case4 rest ih => simpa using ih
  | case5 c rest _ _ _ heq ih => simp
  | case6 c rest _ _ _ line terminator pieces heq ih =>
    rw [heq, List.mem_cons, not_or] at ih
    simpa using ih.2

/-- The pieces of a text make it. -/
theorem joined_linePieces (text : Text) : joined (linePieces text) = text := by
  fun_induction linePieces text with
  | case1 => rfl
  | case2 rest ih => simpa [joined] using ih
  | case3 rest _ ih => simpa [joined] using ih
  | case4 rest ih => simpa [joined] using ih
  | case5 c rest _ _ _ heq ih =>
    rw [heq] at ih
    simpa [joined] using ih
  | case6 c rest _ _ _ line terminator pieces heq ih =>
    rw [heq] at ih
    simpa [joined] using ih

/-- The pieces of a text are settled. -/
theorem settle_linePieces (text : Text) : settle (linePieces text) = linePieces text := by
  rw [← linePieces_joined (terminated_linePieces text), joined_linePieces]

theorem linePieces_eq_nil_iff {text : Text} : linePieces text = [] ↔ text = [] := by
  constructor
  · intro h
    rw [← joined_linePieces text, h]
    rfl
  · rintro rfl
    rfl

/-- In a text without carriage returns, line feeds end the lines. -/
theorem return_notMem_terminator {text : Text} (h : '\r' ∉ text) :
    ∀ terminator ∈ (linePieces text).map Prod.snd, '\r' ∉ terminator := by
  intro terminator hmem hreturn
  obtain ⟨piece, hpiece, rfl⟩ := List.mem_map.mp hmem
  apply h
  rw [← joined_linePieces text]
  exact List.mem_flatMap.mpr ⟨piece, hpiece, List.mem_append_right _ hreturn⟩

/-- Lines that no carriage return ends make a text without carriage returns. -/
theorem Terminated.return_notMem_joined {pieces : List (Text × Text)} (h : Terminated pieces)
    (hreturn : ∀ terminator ∈ pieces.map Prod.snd, '\r' ∉ terminator) : '\r' ∉ joined pieces := by
  rw [joined, List.mem_flatMap]
  rintro ⟨piece, hpiece, hmem⟩
  rcases List.mem_append.mp hmem with hmem | hmem
  · exact (h.unbroken piece hpiece).1 hmem
  · exact hreturn piece.2 (List.mem_map_of_mem hpiece) hmem

theorem getElem?_splitLines_eq_some_iff {text : Text} {i : Nat} {line : SourceLine} :
    (splitLines text)[i]? = some line ↔
      line.index = i ∧ (linePieces text)[i]? = some (line.text, line.terminator) := by
  rw [splitLines, List.getElem?_mapIdx, Option.map_eq_some_iff]
  constructor
  · rintro ⟨piece, hpiece, rfl⟩
    exact ⟨rfl, hpiece⟩
  · rintro ⟨rfl, hpiece⟩
    exact ⟨_, hpiece, rfl⟩

/-- The lines at the beginning of a text make the pieces at its beginning. -/
theorem flatMap_full_take_splitLines (text : Text) (i : Nat) :
    ((splitLines text).take i).flatMap SourceLine.full = joined ((linePieces text).take i) := by
  rw [← map_splitLines, ← List.map_take, joined, List.flatMap_map]
  rfl

/-- A line of a text stands between the pieces in front of it and others. -/
theorem exists_linePieces_eq {text : Text} {i : Nat} {line : SourceLine}
    (h : (splitLines text)[i]? = some line) :
    ∃ back, linePieces text =
      (linePieces text).take i ++ (line.text, line.terminator) :: back := by
  obtain ⟨-, hget⟩ := getElem?_splitLines_eq_some_iff.mp h
  obtain ⟨hi, hget⟩ := List.getElem?_eq_some_iff.mp hget
  refine ⟨(linePieces text).drop (i + 1), ?_⟩
  rw [← hget, ← List.drop_eq_getElem_cons hi, List.take_append_drop]

/-! ### Other lines in place of those of a text -/

section Replaced

variable {f : Text → Text} (hf : ∀ line, Unbroken line → Unbroken (f line))
include hf

/-- Other unbroken lines in place of those of terminated pieces leave them terminated. -/
theorem Terminated.map_line {pieces : List (Text × Text)} (h : Terminated pieces) :
    Terminated (pieces.map fun piece => (f piece.1, piece.2)) := by
  induction h with
  | nil => exact .nil
  | last hline => exact .last (hf _ hline)
  | cons hline hterminator _ ih => exact .cons (hf _ hline) hterminator ih

/-- Other lines in place of those of a text are read back if none of them is newly empty. -/
theorem linePieces_joined_map (hnil : ∀ line, f line = [] → line = []) (text : Text) :
    linePieces (joined ((linePieces text).map fun piece => (f piece.1, piece.2))) =
      (linePieces text).map fun piece => (f piece.1, piece.2) := by
  obtain ⟨hnone, hchain⟩ := settle_eq_self_iff.mp (settle_linePieces text)
  rw [linePieces_joined ((terminated_linePieces text).map_line hf), settle_eq_self_iff,
    List.isChain_map]
  constructor
  · intro hmem
    obtain ⟨⟨line, terminator⟩, hpiece, heq⟩ := List.mem_map.mp hmem
    obtain ⟨hline, rfl⟩ := Prod.mk.inj heq
    rw [hnil line hline] at hpiece
    exact hnone hpiece
  · refine hchain.imp fun piece next hfuse => ?_
    rintro ⟨hreturn, hnext⟩
    obtain ⟨hline, hfeed⟩ := Prod.mk.inj hnext
    exact hfuse ⟨hreturn, Prod.ext (hnil _ hline) hfeed⟩

end Replaced

/-! ### Texts side by side -/

/-- No line runs from the first text into the second. The first one is empty or ends with a line
break, and a carriage return at its end does not meet a line feed. -/
def Parted (a b : Text) : Prop :=
  a = [] ∨ a.getLast? = some '\n' ∨ a.getLast? = some '\r' ∧ b.head? ≠ some '\n'

instance (a b : Text) : Decidable (Parted a b) := inferInstanceAs (Decidable (_ ∨ _ ∨ _ ∧ _))

theorem Parted.tail {c : Char} {a b : Text} (h : Parted (c :: a) b) : Parted a b := by
  by_cases ha : a = []
  · exact .inl ha
  · rw [Parted, List.getLast?_cons_of_ne_nil ha, or_iff_right (List.cons_ne_nil c a)] at h
    exact .inr h

/-- A last line without a line break stands apart from the lines in front of it. -/
theorem parted_joined {front : List (Text × Text)} {line : Text}
    (h : Terminated (front ++ [(line, [])])) : Parted (joined front) line := by
  rcases List.eq_nil_or_concat' front with rfl | ⟨front, ⟨last, terminator⟩, rfl⟩
  · exact .inl rfl
  · have hline : Unbroken line := h.unbroken (line, []) (by simp)
    have hjoined : joined (front ++ [(last, terminator)]) =
        joined front ++ last ++ terminator := by simp [joined]
    rw [List.append_assoc] at h
    have hterminator : terminator ∈ breaks := h.mem_breaks
    rw [Parted, hjoined]
    simp only [breaks, List.mem_cons, List.not_mem_nil, or_false] at hterminator
    rcases hterminator with rfl | rfl | rfl
    · exact .inr (.inl (by simp))
    · exact .inr (.inl (by simp))
    · refine .inr (.inr ⟨by simp, fun hhead => ?_⟩)
      exact hline.2 (List.mem_of_head? hhead)

/-- A carriage return without a line feed behind it is a line break of its own. -/
theorem linePieces_return {rest : Text} (h : rest.head? ≠ some '\n') :
    linePieces ('\r' :: rest) = ([], ['\r']) :: linePieces rest := by
  rw [linePieces.eq_def]
  split
  · contradiction
  · rename_i heq
    rw [(List.cons.inj heq).2] at h
    exact absurd rfl h
  · rename_i heq
    rw [(List.cons.inj heq).2]
  · rename_i heq
    exact absurd (List.cons.inj heq).1 (by decide)
  · rename_i hr _ heq
    exact absurd (List.cons.inj heq).1.symm hr

/-- The pieces of parted texts side by side are those of the one and those of the other. -/
theorem linePieces_append_of_parted {a b : Text} (h : Parted a b) :
    linePieces (a ++ b) = linePieces a ++ linePieces b := by
  fun_induction linePieces a with
  | case1 => rfl
  | case2 rest ih => simp [linePieces, ih h.tail.tail]
  | case3 rest hfeed ih =>
    have hhead : (rest ++ b).head? ≠ some '\n' := by
      cases rest with
      | nil => simpa [Parted] using h
      | cons c rest =>
        rw [List.cons_append, List.head?_cons, ne_eq, Option.some.injEq]
        rintro rfl
        exact hfeed rest rfl
    rw [List.cons_append, linePieces_return hhead, ih h.tail, List.cons_append]
  | case4 rest ih => simp [linePieces, ih h.tail]
  | case5 c rest _ hr hn heq ih =>
    obtain rfl := linePieces_eq_nil_iff.mp heq
    rcases h with h | h | ⟨h, -⟩
    · contradiction
    · exact absurd (Option.some.inj h) hn
    · exact absurd (Option.some.inj h) hr
  | case6 c rest _ hr hn line terminator pieces heq ih =>
    rw [List.cons_append, linePieces_cons hr hn, ih h.tail, heq]
    rfl

end Text
end AmberTools
