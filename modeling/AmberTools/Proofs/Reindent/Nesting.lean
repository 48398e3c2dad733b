import AmberTools.Proofs.Reindent.Layout

/-!
# Nested blocks

A source in blocks is a list of items: a blank line, a plain line that does not start with a
closing bracket, or a block, which has further items between a line that starts a block and a
line that ends one. Reindenting puts every line at as many units as there are blocks around it.

The layout knows only the base that the line above gives, not how many blocks are open. It still
recovers the depth, because the items at one depth leave the base as they find it: a block raises
it by a unit behind its first line and takes the unit back with its last line.

## Main definitions

* `Reindent.Item`: items of a source in blocks.
* `Reindent.Item.allLines`: the lines of items with the number of blocks around each.

## Main results

* `Reindent.layOut_allLines`: items are laid out by depth and leave the base as it was.
* `Reindent.run_sourceText`: sources in blocks are indented by depth.
-/

namespace AmberTools
namespace Reindent

open Indent

/-- A line of a given role. -/
structure LineOf (role : Role) where
  text : Text
  unbroken : Text.Unbroken text
  role_eq : Role.ofLine text = role

/-- An item of a source in blocks. The lines may have any margins. -/
inductive Item where
  | blank (line : LineOf .blank)
  | plain (line : LineOf .plain) (notClosing : startsClosing line.text = false)
  | block (opener : LineOf .opener) (items : List Item) (closer : LineOf .closer)

namespace Item

mutual

/-- The lines of an item, each with the number of blocks around it. The first and the last line
of a block count as outside it. -/
def lines (depth : Nat) : Item → List (Nat × Text)
  | blank line => [(depth, line.text)]
  | plain line _ => [(depth, line.text)]
  | block opener items closer =>
    (depth, opener.text) :: (allLines (depth + 1) items ++ [(depth, closer.text)])

/-- The lines of several items. -/
def allLines (depth : Nat) : List Item → List (Nat × Text)
  | [] => []
  | item :: items => item.lines depth ++ allLines depth items

end

end Item

/-- The source made of items, a line feed behind each line. -/
def sourceText (items : List Item) : Text :=
  (Item.allLines 0 items).flatMap fun line => line.2 ++ ['\n']

/-- A line behind a margin of so many units, or nothing of a blank line. -/
def atDepth (unit depth : Nat) (line : Text) : Text :=
  if Text.allBlank line then [] else Margin.spaces (depth * unit) ++ Margin.body line

/-! ### Single lines -/

section Line

variable {unit base depth : Nat}

theorem placedText_eq_atDepth {line : Text} (h : columnAt unit base line = depth * unit) :
    placedText unit base line = atDepth unit depth line := by
  rw [placedText, atDepth, Margin.indented, h]

theorem columnAt_of_not_closing {line : Text} (h : startsClosing line = false) :
    columnAt unit base line = base := by
  simp only [columnAt, h, Bool.false_eq_true, if_false]

theorem startsClosing_of_blank {line : Text} (h : Role.ofLine line = .blank) :
    startsClosing line = false := by
  have htrim := Text.allBlank_iff_trimLeft.mp (Role.ofLine_eq_blank_iff.mp h)
  rw [startsClosing, Text.firstSignificant?, htrim]
  rfl

/-- A line that ends a block goes back by one unit. -/
theorem columnAt_of_closer {line : Text} (h : Role.ofLine line = .closer) :
    columnAt unit ((depth + 1) * unit) line = depth * unit := by
  rw [columnAt, startsClosing_of_closer h, if_pos rfl, Nat.succ_mul, Nat.add_sub_cancel]

end Line

/-! ### Items -/

mutual

/-- An item is laid out by depth and leaves the base as it was. -/
theorem layOut_lines (unit depth : Nat) (item : Item) (rest : List (Text × Text)) :
    layOut unit (depth * unit) ((item.lines depth).map (fun l => (l.2, ['\n'])) ++ rest) =
      (item.lines depth).map (fun l => (atDepth unit l.1 l.2, ['\n'])) ++
        layOut unit (depth * unit) rest := by
  match item with
  | .blank line =>
    have hcolumn : columnAt unit (depth * unit) line.text = depth * unit :=
      columnAt_of_not_closing (startsClosing_of_blank line.role_eq)
    have hbase : baseAfter unit (depth * unit) line.text = depth * unit :=
      baseAfter_of_blank (Role.ofLine_eq_blank_iff.mp line.role_eq)
    simp only [Item.lines, List.map_cons, List.map_nil, List.singleton_append, layOut, hbase,
      placedText_eq_atDepth hcolumn]
  | .plain line notClosing =>
    have hcolumn : columnAt unit (depth * unit) line.text = depth * unit :=
      columnAt_of_not_closing notClosing
    have hbase : baseAfter unit (depth * unit) line.text = depth * unit := by
      rw [baseAfter, line.role_eq, hcolumn]
    simp only [Item.lines, List.map_cons, List.map_nil, List.singleton_append, layOut, hbase,
      placedText_eq_atDepth hcolumn]
  | .block opener items closer =>
    have hopener : columnAt unit (depth * unit) opener.text = depth * unit :=
      columnAt_of_not_closing (startsClosing_of_opener opener.role_eq)
    have hraised : baseAfter unit (depth * unit) opener.text = (depth + 1) * unit := by
      rw [baseAfter, opener.role_eq, hopener, Nat.succ_mul]
    have hcloser : columnAt unit ((depth + 1) * unit) closer.text = depth * unit :=
      columnAt_of_closer closer.role_eq
    have hlowered : baseAfter unit ((depth + 1) * unit) closer.text = depth * unit := by
      rw [baseAfter, closer.role_eq, hcloser]
    have hitems := layOut_allLines unit (depth + 1) items ((closer.text, ['\n']) :: rest)
    simp only [Item.lines, List.map_cons, List.map_append, List.map_nil, List.cons_append,
      List.append_assoc, List.nil_append, layOut, hraised, hitems, hlowered,
      placedText_eq_atDepth hopener, placedText_eq_atDepth hcloser]

/-- Items are laid out by depth and leave the base as it was. -/
theorem layOut_allLines (unit depth : Nat) (items : List Item) (rest : List (Text × Text)) :
    layOut unit (depth * unit) ((Item.allLines depth items).map (fun l => (l.2, ['\n'])) ++ rest) =
      (Item.allLines depth items).map (fun l => (atDepth unit l.1 l.2, ['\n'])) ++
        layOut unit (depth * unit) rest := by
  match items with
  | [] => simp only [Item.allLines, List.map_nil, List.nil_append]
  | item :: items =>
    rw [Item.allLines, List.map_append, List.map_append, List.append_assoc, List.append_assoc,
      layOut_lines, layOut_allLines]

end

mutual

theorem unbroken_of_mem_lines (depth : Nat) (item : Item) :
    ∀ l ∈ item.lines depth, Text.Unbroken l.2 := by
  match item with
  | .blank line => simpa [Item.lines] using line.unbroken
  | .plain line notClosing => simpa [Item.lines] using line.unbroken
  | .block opener items closer =>
    simp only [Item.lines, List.forall_mem_cons, List.forall_mem_append]
    exact ⟨opener.unbroken, unbroken_of_mem_allLines (depth + 1) items, closer.unbroken, by simp⟩

theorem unbroken_of_mem_allLines (depth : Nat) (items : List Item) :
    ∀ l ∈ Item.allLines depth items, Text.Unbroken l.2 := by
  match items with
  | [] => simp [Item.allLines]
  | item :: items =>
    rw [Item.allLines, List.forall_mem_append]
    exact ⟨unbroken_of_mem_lines depth item, unbroken_of_mem_allLines depth items⟩

end

/-- The pieces of a source in blocks are its lines. -/
theorem linePieces_sourceText (items : List Item) :
    Text.linePieces (sourceText items) = (Item.allLines 0 items).map fun l => (l.2, ['\n']) := by
  have hunbroken : ∀ line ∈ (Item.allLines 0 items).map (·.2), Text.Unbroken line :=
    List.forall_mem_map.mpr (unbroken_of_mem_allLines 0 items)
  have hpieces := Text.linePieces_fed hunbroken
  rwa [List.flatMap_map, List.map_map] at hpieces

/-- In a source in blocks, every line is put at as many units as there are blocks around it, and
blank lines are emptied. -/
theorem run_sourceText (settings : Settings) (items : List Item) :
    (run settings (sourceText items)).formatted =
      (Item.allLines 0 items).flatMap fun line =>
        atDepth settings.indentUnit line.1 line.2 ++ ['\n'] := by
  have hlayout := layOut_allLines settings.indentUnit 0 items []
  rw [Nat.zero_mul, List.append_nil, ← linePieces_sourceText, layOut, List.append_nil] at hlayout
  rw [run, reindent_eq_layOut, hlayout, Text.joined, List.flatMap_map]

/-- The depth is recovered behind a blank line and an empty block. -/
example :
    (run .default "fun f \x7b\n \n\tloop \x7b\n\x7d\nx\n  \x7d\n".toList).formatted =
      "fun f \x7b\n\n    loop \x7b\n    \x7d\n    x\n\x7d\n".toList := by
  decide +kernel

end Reindent
end AmberTools
