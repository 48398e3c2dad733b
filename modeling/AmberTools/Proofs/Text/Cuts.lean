import AmberTools.Text.Basic
import Mathlib.Data.List.TakeWhile

/-!
# Cutting texts

Readers take a text apart from its start: they drop an expected beginning, take the longest run
of characters of a kind, or cut at a separator. On a text that was put together from the parts
that they look for, they give back just these parts.

## Main results

* `Text.takeWhile_append`, `Text.dropWhile_append`: a run ends where the test fails.
* `Text.takeWhile_append_of_ends`, `Text.dropWhile_append_of_ends`: a run in a longer text.
* `Text.dropStart?_append`, `Text.cutAt?_append`: a beginning and a separator are found.
* `Text.joinWith_splitOn`: the pieces between separators make up the text.
-/

namespace AmberTools
namespace Text

/-! ### Runs -/

section Run

variable {α : Type} {p : α → Bool} {run rest text : List α}

/-- A run ends in front of the first character that fails the test. -/
theorem takeWhile_append (hrun : ∀ c ∈ run, p c = true) (hrest : ∀ c ∈ rest.head?, p c = false) :
    (run ++ rest).takeWhile p = run := by
  rw [List.takeWhile_append_of_pos hrun]
  cases rest with
  | nil => simp
  | cons c rest => simp [hrest c rfl]

/-- What follows a run starts with the first character that fails the test. -/
theorem dropWhile_append (hrun : ∀ c ∈ run, p c = true) (hrest : ∀ c ∈ rest.head?, p c = false) :
    (run ++ rest).dropWhile p = rest := by
  rw [List.dropWhile_append_of_pos hrun]
  cases rest with
  | nil => rfl
  | cons c rest => simp [hrest c rfl]

/-- A text tells where a run at its start ends. -/
theorem run_append_inj {run' rest' : List α} (hrun : ∀ c ∈ run, p c = true)
    (hrest : ∀ c ∈ rest.head?, p c = false) (hrun' : ∀ c ∈ run', p c = true)
    (hrest' : ∀ c ∈ rest'.head?, p c = false) (h : run ++ rest = run' ++ rest') :
    run = run' ∧ rest = rest' := by
  have htake := congrArg (List.takeWhile p) h
  have hdrop := congrArg (List.dropWhile p) h
  rw [takeWhile_append hrun hrest, takeWhile_append hrun' hrest'] at htake
  rw [dropWhile_append hrun hrest, dropWhile_append hrun' hrest'] at hdrop
  exact ⟨htake, hdrop⟩

/-- A run ends within a text, or else in front of what follows. -/
theorem head?_dropWhile_append (h : text.dropWhile p = [] → ∀ c ∈ rest.head?, p c = false) :
    ∀ c ∈ (text.dropWhile p ++ rest).head?, p c = false := by
  cases hend : text.dropWhile p with
  | nil => exact h hend
  | cons d more =>
    intro c hc
    obtain rfl : d = c := Option.some.inj hc
    have hhead := List.head?_dropWhile_not p text
    rw [hend] at hhead
    exact hhead

theorem append_eq_run_append (p : α → Bool) (text rest : List α) :
    text ++ rest = text.takeWhile p ++ (text.dropWhile p ++ rest) := by
  rw [← List.append_assoc, List.takeWhile_append_dropWhile]

/-- A run that ends is the same in a longer text. -/
theorem takeWhile_append_of_ends (h : text.dropWhile p = [] → ∀ c ∈ rest.head?, p c = false) :
    (text ++ rest).takeWhile p = text.takeWhile p := by
  rw [append_eq_run_append p]
  exact takeWhile_append (fun _ => List.mem_takeWhile_imp) (head?_dropWhile_append h)

theorem dropWhile_append_of_ends (h : text.dropWhile p = [] → ∀ c ∈ rest.head?, p c = false) :
    (text ++ rest).dropWhile p = text.dropWhile p ++ rest := by
  rw [append_eq_run_append p]
  exact dropWhile_append (fun _ => List.mem_takeWhile_imp) (head?_dropWhile_append h)

end Run

/-! ### Beginnings and separators -/

theorem dropStart?_append (start rest : Text) : dropStart? start (start ++ rest) = some rest := by
  induction start with
  | nil => rfl
  | cons c start ih => simpa [dropStart?] using ih

theorem dropStart?_eq_some_iff {start text rest : Text} :
    dropStart? start text = some rest ↔ text = start ++ rest := by
  constructor
  · intro h
    fun_induction dropStart? start text with
    | case1 text => exact Option.some.inj h
    | case2 => contradiction
    | case3 d start text ih => rw [ih h, List.cons_append]
    | case4 => contradiction
  · rintro rfl
    exact dropStart?_append start rest

/-- A text without the separator runs on to its end. -/
theorem bne_of_notMem {sep : Char} {text : Text} (h : sep ∉ text) :
    ∀ c ∈ text, (c != sep) = true := by
  intro c hc
  rw [bne_iff_ne]
  rintro rfl
  exact h hc

/-- A text without the separator is found in front of it. -/
theorem cutAt?_append {sep : Char} {front : Text} (h : sep ∉ front) (rest : Text) :
    cutAt? sep (front ++ sep :: rest) = some (front, rest) := by
  have hrun : ∀ c ∈ front, (c != sep) = true := bne_of_notMem h
  have hrest : ∀ c ∈ (sep :: rest).head?, (c != sep) = false := by simp
  rw [cutAt?, dropWhile_append hrun hrest, takeWhile_append hrun hrest]

theorem cutAt?_eq_some_iff {sep : Char} {text front rest : Text} :
    cutAt? sep text = some (front, rest) ↔ sep ∉ front ∧ text = front ++ sep :: rest := by
  constructor
  · intro h
    rw [cutAt?] at h
    split at h
    · contradiction
    · rename_i c tail hdrop
      obtain ⟨rfl, rfl⟩ := Prod.mk.inj (Option.some.inj h)
      have hc : c = sep := by
        simpa [hdrop] using List.head?_dropWhile_not (· != sep) text
      refine ⟨fun hmem => ?_, ?_⟩
      · simpa using List.mem_takeWhile_imp hmem
      · rw [← hc, ← hdrop, hc, List.takeWhile_append_dropWhile]
  · rintro ⟨hfront, rfl⟩
    exact cutAt?_append hfront rest

/-- Texts that go on behind a separator are equal only if they are so on both sides of it. -/
theorem append_sep_inj {sep : Char} {front front' rest rest' : Text} (h : sep ∉ front)
    (h' : sep ∉ front') (heq : front ++ sep :: rest = front' ++ sep :: rest') :
    front = front' ∧ rest = rest' := by
  have hcut := cutAt?_append h rest
  rw [heq, cutAt?_append h' rest'] at hcut
  obtain ⟨rfl, rfl⟩ := Prod.mk.inj (Option.some.inj hcut)
  exact ⟨rfl, rfl⟩

/-! ### Pieces between separators -/

theorem splitOn_eq (sep : Char) (text : Text) : splitOn sep text = List.splitOn sep text := by
  induction text with
  | nil => rfl
  | cons c rest ih =>
    rw [List.splitOn_cons_eq_if_modifyHead, splitOn, ih]
    by_cases h : c = sep
    · simp [h]
    · obtain ⟨piece, pieces, hsplit⟩ := List.exists_cons_of_ne_nil (List.splitOn_ne_nil sep rest)
      simp [h, hsplit]

theorem joinWith_cons_cons (sep piece next : Text) (pieces : List Text) :
    joinWith sep (piece :: next :: pieces) = piece ++ sep ++ joinWith sep (next :: pieces) := rfl

theorem joinWith_eq (sep : Text) (pieces : List Text) :
    joinWith sep pieces = sep.intercalate pieces := by
  induction pieces with
  | nil => rfl
  | cons piece pieces ih =>
    cases pieces with
    | nil => simp [joinWith]
    | cons next pieces => rw [joinWith_cons_cons, ih, List.intercalate_cons_cons]

/-- The pieces between separators make up the text. -/
theorem joinWith_splitOn (sep : Char) (text : Text) : joinWith [sep] (splitOn sep text) = text := by
  rw [joinWith_eq, splitOn_eq, List.intercalate_splitOn]

/-- The first piece is what stands in front of the first separator. -/
theorem splitOn_eq_cons (sep : Char) (text : Text) :
    splitOn sep text = text.takeWhile (· != sep) :: (splitOn sep text).tail := by
  induction text with
  | nil => rfl
  | cons c rest ih =>
    by_cases h : c = sep
    · simp [splitOn, h]
    · rw [splitOn, if_neg h, ih]
      simp [h]

/-- A piece has no characters but those of the text, and not the separator. -/
theorem mem_of_mem_splitOn {sep c : Char} {text piece : Text} (hpiece : piece ∈ splitOn sep text)
    (hc : c ∈ piece) : c ∈ text ∧ c ≠ sep := by
  induction text generalizing piece with
  | nil =>
    rw [splitOn, List.mem_singleton] at hpiece
    simp [hpiece] at hc
  | cons d rest ih =>
    by_cases h : d = sep
    · rw [splitOn, if_pos h, List.mem_cons] at hpiece
      rcases hpiece with rfl | hpiece
      · simp at hc
      · obtain ⟨hmem, hne⟩ := ih hpiece hc
        exact ⟨List.mem_cons_of_mem _ hmem, hne⟩
    · rw [splitOn, if_neg h, splitOn_eq_cons] at hpiece
      rcases List.mem_cons.mp hpiece with rfl | hpiece
      · rcases List.mem_cons.mp hc with rfl | hc
        · exact ⟨List.mem_cons_self, h⟩
        · obtain ⟨hmem, hne⟩ := ih (by rw [splitOn_eq_cons]; exact List.mem_cons_self) hc
          exact ⟨List.mem_cons_of_mem _ hmem, hne⟩
      · obtain ⟨hmem, hne⟩ := ih (List.mem_of_mem_tail hpiece) hc
        exact ⟨List.mem_cons_of_mem _ hmem, hne⟩

/-- A separator behind the last of some pieces makes one behind each of them. -/
theorem joinWith_append_sep (sep piece : Text) (pieces : List Text) :
    joinWith sep (piece :: pieces) ++ sep = (piece :: pieces).flatMap (· ++ sep) := by
  induction pieces generalizing piece with
  | nil => simp [joinWith]
  | cons next pieces ih =>
    rw [joinWith_cons_cons, List.append_assoc, ih next]
    rfl

/-- A separator in front of each piece but the first joins them. -/
theorem joinWith_cons_eq (sep piece : Text) (pieces : List Text) :
    joinWith sep (piece :: pieces) = piece ++ pieces.flatMap (sep ++ ·) := by
  induction pieces generalizing piece with
  | nil => simp [joinWith]
  | cons next pieces ih =>
    rw [joinWith_cons_cons, ih next, List.flatMap_cons, List.append_assoc, List.append_assoc]

/-- Behind the first of joined pieces stands a separator or nothing. -/
theorem exists_joinWith_cons (sep : Char) (piece : Text) (pieces : List Text) :
    ∃ rest, joinWith [sep] (piece :: pieces) = piece ++ rest ∧ ∀ c ∈ rest.head?, c = sep := by
  cases pieces with
  | nil => exact ⟨[], by simp [joinWith], by simp⟩
  | cons next pieces =>
    refine ⟨sep :: joinWith [sep] (next :: pieces), ?_, by simp⟩
    rw [joinWith_cons_cons, List.append_assoc, List.singleton_append]

/-- Joined pieces have no characters but those of the pieces and the separator. -/
theorem mem_of_mem_joinWith {sep c : Char} {pieces : List Text} (h : c ∈ joinWith [sep] pieces) :
    c = sep ∨ ∃ piece ∈ pieces, c ∈ piece := by
  cases pieces with
  | nil => exact absurd h List.not_mem_nil
  | cons piece pieces =>
    have hmem : c ∈ joinWith [sep] (piece :: pieces) ++ [sep] := List.mem_append_left _ h
    rw [joinWith_append_sep, List.mem_flatMap] at hmem
    obtain ⟨other, hother, hc⟩ := hmem
    rcases List.mem_append.mp hc with hc | hc
    · exact .inr ⟨other, hother, hc⟩
    · exact .inl (List.mem_singleton.mp hc)

end Text
end AmberTools
