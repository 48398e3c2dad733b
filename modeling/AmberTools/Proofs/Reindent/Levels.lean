import AmberTools.Proofs.Reindent.SingleLine
import AmberTools.Proofs.Reindent.Visible

/-!
# Levels

The base that is passed from line to line is a multiple of the unit: it grows by the unit behind a
line that starts a block, and a closing bracket takes the unit off again, down to the left edge at
most. Multiplication commutes with both, so the columns for any unit are those for the unit one,
multiplied. The latter are the levels of the lines. From one line to the next, a level changes by
one at most.

## Main definitions

* `Reindent.levelsBelow`: the levels of lines below others.
* `Reindent.LevelStep`: how a level may follow another.
* `Reindent.Graded`: lines and their levels.

## Main results

* `Reindent.placedLines_standAt`: lines at their places stand at the multiples of their levels.
* `Reindent.existsUnique_levels`: the levels of a text, which are the same for all units.
-/

namespace AmberTools
namespace Reindent

open Indent

/-- The levels of lines, below lines that give a level to the next one. -/
def levelsBelow : Nat → List Text → List Nat
  | _, [] => []
  | level, line :: lines => columnAt 1 level line :: levelsBelow (baseAfter 1 level line) lines

/-- From a line with its level to the next one, the level changes by one at most. It rises only
behind a line that starts a block, and not for a line that starts with a closing bracket. -/
structure LevelStep (above below : Nat × Text) : Prop where
  rise_le : below.1 ≤ above.1 + 1
  fall_le : above.1 ≤ below.1 + 1
  opens_of_rise : above.1 < below.1 →
    Role.ofLine above.2 = .opener ∧ startsClosing below.2 = false

/-- Levels of lines, one for each: the first one is nought, and each follows from the one before. -/
structure Graded (lines : List Text) (levels : List Nat) : Prop where
  length_eq : levels.length = lines.length
  head_eq_zero : ∀ level ∈ levels.head?, level = 0
  steps : (levels.zip lines).IsChain LevelStep

variable {level : Nat} {line : Text} {lines : List Text}

/-! ### Multiples of a unit -/

theorem columnAt_mul (unit level : Nat) (line : Text) :
    columnAt unit (unit * level) line = unit * columnAt 1 level line := by
  unfold columnAt
  split_ifs
  · rw [Nat.mul_sub, Nat.mul_one]
  · rfl

theorem baseAfter_mul (unit level : Nat) (line : Text) :
    baseAfter unit (unit * level) line = unit * baseAfter 1 level line := by
  unfold baseAfter
  rw [columnAt_mul]
  split <;> rfl

/-- A line at its place stands at the column computed for it. -/
theorem standsAt_placedText {unit base : Nat} :
    StandsAt (columnAt unit base line) (placedText unit base line) := by
  have hcolumn : columnAt unit base (placedText unit base line) = columnAt unit base line :=
    columnAt_congr trimLeft_placedText
  rw [← hcolumn]
  exact placedText_eq_self_iff.mp (placedText_placedText base)

/-- Lines at their places stand at the multiples of their levels. -/
theorem placedLines_standAt (unit level : Nat) (lines : List Text) :
    List.Forall₂ (fun level line => StandsAt (unit * level) line) (levelsBelow level lines)
      (placedLines unit (unit * level) lines) := by
  induction lines generalizing level with
  | nil => exact .nil
  | cons line lines ih =>
    rw [levelsBelow, placedLines, baseAfter_mul]
    refine .cons ?_ (ih _)
    rw [← columnAt_mul]
    exact standsAt_placedText

/-- A visible line stands at one column only, which its margin shows. -/
theorem width_of_standsAt {column : Nat} (h : StandsAt column line)
    (hvisible : Text.allBlank line = false) (tabWidth : Nat) :
    Margin.width tabWidth line = column := by
  rw [StandsAt, if_neg (by simp [hvisible])] at h
  obtain ⟨c, rest, hc, rfl⟩ := h
  exact Margin.width_spaces_append hc _ _ _

/-- Visible lines that stand at multiples of levels show the levels. -/
theorem levels_eq_of_standAt {unit : Nat} (hunit : 0 < unit) {a b : List Nat}
    (hvisible : ∀ line ∈ lines, Text.allBlank line = false)
    (ha : List.Forall₂ (fun level line => StandsAt (unit * level) line) a lines)
    (hb : List.Forall₂ (fun level line => StandsAt (unit * level) line) b lines) : a = b := by
  induction ha generalizing b with
  | nil => exact (List.forall₂_nil_right_iff.mp hb).symm
  | cons hline _ ih =>
    obtain ⟨level, b, hlevel, hrest, rfl⟩ := List.forall₂_cons_right_iff.mp hb
    obtain ⟨hfirst, hvisible⟩ := List.forall_mem_cons.mp hvisible
    have hcolumn := (width_of_standsAt hline hfirst unit).symm.trans
      (width_of_standsAt hlevel hfirst unit)
    rw [Nat.eq_of_mul_eq_mul_left hunit hcolumn, ih hvisible hrest]

/-! ### Steps from line to line -/

theorem length_levelsBelow (level : Nat) (lines : List Text) :
    (levelsBelow level lines).length = lines.length := by
  induction lines generalizing level with
  | nil => rfl
  | cons line lines ih => rw [levelsBelow, List.length_cons, List.length_cons, ih]

/-- A visible line gives its own level to the next one, or one more if it starts a block. -/
theorem baseAfter_of_visible (h : Text.allBlank line = false) :
    baseAfter 1 level line =
      columnAt 1 level line + if Role.ofLine line = .opener then 1 else 0 := by
  unfold baseAfter
  cases hrole : Role.ofLine line with
  | opener => rfl
  | closer => rfl
  | plain => rfl
  | blank => exact absurd (h.symm.trans (Role.ofLine_eq_blank_iff.mp hrole)) Bool.false_ne_true

theorem levelStep_columnAt (h : Text.allBlank line = false) (below : Text) :
    LevelStep (columnAt 1 level line, line)
      (columnAt 1 (baseAfter 1 level line) below, below) := by
  rw [baseAfter_of_visible h]
  generalize columnAt 1 level line = own
  have hcolumn (base : Nat) :
      columnAt 1 base below = base - if startsClosing below = true then 1 else 0 := by
    unfold columnAt
    split_ifs <;> rfl
  rw [hcolumn]
  constructor
  · dsimp only
    split_ifs <;> omega
  · dsimp only
    split_ifs <;> omega
  · dsimp only
    intro hrise
    split_ifs at hrise with hopener hclosing hclosing
    · omega
    · exact ⟨hopener, by simpa using hclosing⟩
    · omega
    · omega

theorem isChain_levelsBelow (h : ∀ line ∈ lines, Text.allBlank line = false) (level : Nat) :
    ((levelsBelow level lines).zip lines).IsChain LevelStep := by
  induction lines generalizing level with
  | nil => exact .nil
  | cons line lines ih =>
    obtain ⟨hline, hlines⟩ := List.forall_mem_cons.mp h
    have hrest := ih hlines (baseAfter 1 level line)
    cases lines with
    | nil => exact .singleton _
    | cons below lines => exact List.isChain_cons_cons.mpr ⟨levelStep_columnAt hline below, hrest⟩

theorem graded_levelsBelow (h : ∀ line ∈ lines, Text.allBlank line = false) :
    Graded lines (levelsBelow 0 lines) where
  length_eq := length_levelsBelow 0 lines
  head_eq_zero := by
    cases lines with
    | nil => simp [levelsBelow]
    | cons line lines => simp [levelsBelow, columnAt]
  steps := isChain_levelsBelow h 0

/-! ### Levels of a text -/

/-- Every text has exactly one list of levels, one for each visible line, such that reindenting by
any unit puts just as many units of spaces in front of the line's body as its level says, and no
other space or tab behind them. The first level is nought, a level changes by one at most from line
to line, and it rises only where a block starts. -/
theorem existsUnique_levels (text : Text) :
    ∃! levels : List Nat, Graded (Text.visibleLines text) levels ∧
      ∀ settings : Settings,
        let shown := Text.visibleLines (run settings text).formatted
        shown.map Margin.body = (Text.visibleLines text).map Margin.body ∧
          List.Forall₂ (fun level line => StandsAt (settings.indentUnit * level) line) levels
            shown := by
  have hvisible (text : Text) : ∀ line ∈ Text.visibleLines text, Text.allBlank line = false :=
    fun _ => Text.allBlank_of_mem_visibleLines
  have hstand (settings : Settings) :
      List.Forall₂ (fun level line => StandsAt (settings.indentUnit * level) line)
        (levelsBelow 0 (Text.visibleLines text))
        (Text.visibleLines (run settings text).formatted) := by
    rw [visibleLines_run]
    exact placedLines_standAt settings.indentUnit 0 _
  refine ⟨levelsBelow 0 (Text.visibleLines text), ⟨?_, fun settings => ⟨?_, hstand settings⟩⟩, ?_⟩
  · exact graded_levelsBelow (hvisible text)
  · rw [visibleLines_run, map_body_placedLines (hvisible text)]
  · rintro levels ⟨-, hlevels⟩
    -- a single unit shows the levels
    exact levels_eq_of_standAt Settings.default.indentUnit_pos (hvisible _) (hlevels .default).2
      (hstand .default)

/-- A bracket takes back one level, and at the left edge none. -/
example :
    levelsBelow 0 (Text.visibleLines "loop \x7b\n if a \x7b\n\n  b\n\x7d\n\x7d\n\x7d\nc\n".toList) =
      [0, 1, 2, 1, 0, 0, 0] := by
  decide +kernel

end Reindent
end AmberTools
