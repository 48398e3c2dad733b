import AmberTools.Proofs.Token.Lines
import Mathlib.Data.List.Basic

/-!
# Shifted texts

Two texts are shifted against each other if they have the same lines, except that blank characters
behind a line feed may differ. A text is shifted part by part: parts of a line are the same in both
texts, and a run of characters among which are all blank ones ends at the same place in both, since
it takes in whatever differs.

## Main definitions

* `Inset`: blank characters within a line.
* `Shifted`: shifted texts, with the lines that stay where they are.

## Main results

* `Shifted.eq_iff`: shifted texts are equal if all lines stay where they are.
* `Shifted.of_append`: a part of a line in shifted texts.
* `Shifted.span`: a run in shifted texts.
-/

namespace AmberTools

/-- Blank characters within a line. -/
def Inset (inset : Text) : Prop := ∀ c ∈ inset, Text.isBlank c = true ∧ c ≠ '\n'

/-- Texts that differ only in insets behind line feeds. The list says of each line feed whether the
insets behind it are the same. -/
inductive Shifted : List Bool → Text → Text → Prop
  | nil : Shifted [] [] []
  | char {same : List Bool} {u v : Text} {c : Char} (hc : c ≠ '\n') (h : Shifted same u v) :
      Shifted same (c :: u) (c :: v)
  | feed {same : List Bool} {u v m n : Text} (hm : Inset m) (hn : Inset n)
      (h : Shifted same u v) :
      Shifted (decide (m = n) :: same) ('\n' :: (m ++ u)) ('\n' :: (n ++ v))

theorem Inset.feed_notMem {m : Text} (hm : Inset m) : '\n' ∉ m := fun hmem => (hm _ hmem).2 rfl

namespace Text

/-- The code points of the blank characters. -/
def blankCodes : List Nat :=
  List.range' 0x09 5 ++ List.range' 0x1c 5 ++ List.range' 0x2000 11 ++
    [0x85, 0xa0, 0x1680, 0x2028, 0x2029, 0x202f, 0x205f, 0x3000]

theorem toNat_mem_blankCodes {c : Char} (h : isBlank c = true) : c.toNat ∈ blankCodes := by
  simp only [isBlank, Bool.or_eq_true, Bool.and_eq_true, decide_eq_true_eq, beq_iff_eq] at h
  simp only [blankCodes, List.mem_append, List.mem_range'_1, List.mem_cons, List.not_mem_nil,
    or_false]
  omega

/-- Blank characters are no word characters. -/
theorem isWord_of_isBlank {c : Char} (h : isBlank c = true) : isWord c = false := by
  have hcodes : ∀ n ∈ blankCodes, isWord (Char.ofNat n) = false := by decide +kernel
  rw [← Char.ofNat_toNat c]
  exact hcodes _ (toNat_mem_blankCodes h)

theorem isBlank_of_isWord {c : Char} (h : isWord c = true) : isBlank c = false := by
  by_contra hblank
  rw [isWord_of_isBlank (by simpa using hblank)] at h
  contradiction

/-- No word character stands at the end of blank ones. -/
theorem any_isWord_getLast?_of_blank {blank : Text} (h : ∀ c ∈ blank, isBlank c = true) :
    blank.getLast?.any isWord = false := by
  cases hlast : blank.getLast? with
  | none => rfl
  | some c => exact isWord_of_isBlank (h c (List.mem_of_getLast? hlast))

end Text

namespace Shifted

variable {same back : List Bool} {u v w x y : Text}

theorem symm (h : Shifted same u v) : Shifted same v u := by
  induction h with
  | nil => exact .nil
  | char hc _ ih => exact .char hc ih
  | @feed same u v m n hm hn _ ih =>
    rw [show decide (m = n) = decide (n = m) by simp only [eq_comm]]
    exact .feed hn hm ih

/-- A text within a line is shifted against itself. -/
theorem refl_of_line (hx : '\n' ∉ x) : Shifted [] x x := by
  induction x with
  | nil => exact .nil
  | cons c x ih =>
    rw [List.mem_cons, not_or] at hx
    exact .char (Ne.symm hx.1) (ih hx.2)

theorem append (h : Shifted same u v) (h' : Shifted back x y) :
    Shifted (same ++ back) (u ++ x) (v ++ y) := by
  induction h with
  | nil => exact h'
  | char hc _ ih => exact .char hc ih
  | @feed same u v m n hm hn _ ih =>
    rw [List.cons_append, List.cons_append, List.cons_append, List.append_assoc, List.append_assoc]
    exact .feed hm hn ih

/-! ### What shifted texts have in common -/

theorem count_feed (h : Shifted same u v) : u.count '\n' = same.length := by
  induction h with
  | nil => rfl
  | char hc _ ih => rw [List.count_cons_of_ne hc, ih]
  | feed hm _ _ ih =>
    rw [List.count_cons_self, List.count_append, List.count_eq_zero.mpr hm.feed_notMem, ih,
      List.length_cons, Nat.zero_add]

theorem firstLine_eq (h : Shifted same u v) : Text.firstLine u = Text.firstLine v := by
  induction h with
  | nil => rfl
  | char hc _ ih => rw [Text.firstLine_cons hc, Text.firstLine_cons hc, ih]
  | feed => rfl

theorem eq_nil_iff (h : Shifted same u v) : u = [] ↔ v = [] := by
  cases h <;> simp

/-- Shifted texts are equal if and only if all their lines stay where they are. -/
theorem eq_iff (h : Shifted same u v) : v = u ↔ ∀ stays ∈ same, stays = true := by
  induction h with
  | nil => simp
  | char _ _ ih => rw [List.cons_inj_right, ih]
  | @feed same u v m n hm hn h ih =>
    rw [List.cons_inj_right, List.forall_mem_cons, decide_eq_true_eq, ← ih]
    constructor
    · intro heq
      -- behind the insets, the lines go on alike
      have hline := congrArg Text.firstLine heq
      rw [Text.firstLine_append hn.feed_notMem, Text.firstLine_append hm.feed_notMem,
        h.firstLine_eq] at hline
      obtain rfl := List.append_cancel_right hline
      exact ⟨rfl, List.append_cancel_left heq⟩
    · rintro ⟨rfl, rfl⟩
      rfl

/-- Shifted texts end alike, but for blank characters. -/
theorem any_isWord_getLast? (h : Shifted same u v) :
    u.getLast?.any Text.isWord = v.getLast?.any Text.isWord := by
  have hinset (m : Text) (hm : Inset m) : ('\n' :: m).getLast?.any Text.isWord = false :=
    Text.any_isWord_getLast?_of_blank
      (List.forall_mem_cons.mpr ⟨by decide, fun c hc => (hm c hc).1⟩)
  induction h with
  | nil => rfl
  | @char same u v c hc h ih =>
    by_cases hu : u = []
    · rw [hu, h.eq_nil_iff.mp hu]
    · have hv : v ≠ [] := mt h.eq_nil_iff.mpr hu
      rw [List.getLast?_cons_of_ne_nil hu, List.getLast?_cons_of_ne_nil hv, ih]
  | @feed same u v m n hm hn h ih =>
    by_cases hu : u = []
    · rw [hu, h.eq_nil_iff.mp hu, List.append_nil, List.append_nil, hinset m hm, hinset n hn]
    · have hv : v ≠ [] := mt h.eq_nil_iff.mpr hu
      rw [← List.cons_append, ← List.cons_append, List.getLast?_append_of_ne_nil _ hu,
        List.getLast?_append_of_ne_nil _ hv, ih]

/-! ### Parts of shifted texts -/

/-- A part of a line is the same in shifted texts. -/
theorem of_append (hx : '\n' ∉ x) (h : Shifted same (x ++ u) w) :
    ∃ v, w = x ++ v ∧ Shifted same u v := by
  induction x generalizing w with
  | nil => exact ⟨w, rfl, h⟩
  | cons c x ih =>
    rw [List.mem_cons, not_or] at hx
    generalize hrest : c :: x ++ u = text at h
    cases h with
    | nil => contradiction
    | char _ h =>
      obtain ⟨rfl, rfl⟩ := List.cons.inj hrest
      obtain ⟨v, rfl, hv⟩ := ih hx.2 h
      exact ⟨v, rfl, hv⟩
    | feed => exact absurd (List.cons.inj hrest).1.symm hx.1

/-- Runs of characters among which are all blank ones end at the same place in shifted texts. -/
theorem span {p : Char → Bool} (hblank : ∀ c, Text.isBlank c = true → p c = true)
    (h : Shifted same u v) :
    ∃ front back, same = front ++ back ∧ Shifted front (u.takeWhile p) (v.takeWhile p) ∧
      Shifted back (u.dropWhile p) (v.dropWhile p) := by
  induction h with
  | nil => exact ⟨[], [], rfl, .nil, .nil⟩
  | @char same u v c hc h ih =>
    by_cases hpc : p c = true
    · obtain ⟨front, back, hsame, hfront, hback⟩ := ih
      refine ⟨front, back, hsame, ?_, ?_⟩
      · rw [List.takeWhile_cons_of_pos hpc, List.takeWhile_cons_of_pos hpc]
        exact .char hc hfront
      · rwa [List.dropWhile_cons_of_pos hpc, List.dropWhile_cons_of_pos hpc]
    · refine ⟨[], same, rfl, ?_, ?_⟩
      · rw [List.takeWhile_cons_of_neg hpc, List.takeWhile_cons_of_neg hpc]
        exact .nil
      · rw [List.dropWhile_cons_of_neg hpc, List.dropWhile_cons_of_neg hpc]
        exact .char hc h
  | @feed same u v m n hm hn _ ih =>
    obtain ⟨front, back, hsame, hfront, hback⟩ := ih
    have hfeed : p '\n' = true := hblank _ (by decide)
    have hpm : ∀ c ∈ m, p c = true := fun c hc => hblank c (hm c hc).1
    have hpn : ∀ c ∈ n, p c = true := fun c hc => hblank c (hn c hc).1
    refine ⟨decide (m = n) :: front, back, by rw [hsame]; rfl, ?_, ?_⟩
    · rw [List.takeWhile_cons_of_pos hfeed, List.takeWhile_cons_of_pos hfeed,
        List.takeWhile_append_of_pos hpm, List.takeWhile_append_of_pos hpn]
      exact .feed hm hn hfront
    · rwa [List.dropWhile_cons_of_pos hfeed, List.dropWhile_cons_of_pos hfeed,
        List.dropWhile_append_of_pos hpm, List.dropWhile_append_of_pos hpn]

end Shifted
end AmberTools
