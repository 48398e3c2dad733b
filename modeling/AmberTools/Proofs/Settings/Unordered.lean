import AmberTools.Proofs.Settings.Faults
import AmberTools.Proofs.Settings.Rebuilt
import Mathlib.Data.List.Lex
import Mathlib.Data.List.Pairwise
import Mathlib.Data.List.Perm.Basic

/-!
# Mappings without an order

The settings that a mapping describes, or the fault that is found in it, do not depend on the order
of its entries. A mapping has no key twice, so no two of its entries are for one field, and they can
be put into a draft in any order. The fields are checked in an order of their own. Keys that name no
field are found before any value is looked at, and a message lists them all, ordered by the numbers
of their code points. But a message has to be written: where a key or a value that it would show is
refused, there are no settings, and no fault is found in them either.

## Main definitions

* `Settings.IsMapping`: no two of some entries have the same key.
* `Settings.Draft.Exchangeable`: entries that can be put into a draft in either order.

## Main results

* `WideText.le_iff`: wide texts are ordered as the lists of their numbers.
* `Settings.shownKeys_perm`: keys are shown in the same order wherever they stand.
* `Settings.Draft.setAll_perm`: the entries of a mapping are put in in any order.
* `Settings.ofEntries_unordered`: the outcome does not depend on the order of the entries.
-/

namespace AmberTools

/-! ### The order of wide texts -/

namespace CodePoint

/-- The numbers of the halves are those that no character has. -/
theorem number_char_ne_number_half (c : Char) (index : Fin 0x800) :
    number (char c) ≠ number (half index) := by
  intro h
  have hvalid := c.valid
  have hindex := index.isLt
  simp only [number, firstHalf, Char.toNat] at h
  simp only [UInt32.isValidChar, Nat.isValidChar] at hvalid
  omega

theorem number_injective : Function.Injective number := by
  intro a b h
  cases a with
  | char c =>
    cases b with
    | char d => exact congrArg char (Char.toNat_inj.mp h)
    | half j => exact absurd h (number_char_ne_number_half c j)
  | half i =>
    cases b with
    | char d => exact absurd h.symm (number_char_ne_number_half d i)
    | half j => exact congrArg half (Fin.ext (Nat.add_left_cancel h))

end CodePoint

namespace WideText

/-- The numbers of the code points of a text. -/
def numbers (text : WideText) : List Nat := text.map CodePoint.number

theorem numbers_injective : Function.Injective numbers :=
  List.map_injective_iff.mpr CodePoint.number_injective

/-- Wide texts are ordered as the lists of their numbers. -/
theorem le_iff {s t : WideText} : le s t = true ↔ s.numbers ≤ t.numbers := by
  induction s generalizing t with
  | nil => exact iff_of_true rfl (not_lt.mp (List.not_lt_nil t.numbers))
  | cons a s ih =>
    cases t with
    | nil => exact iff_of_false Bool.false_ne_true (not_le.mpr (List.nil_lt_cons _ _))
    | cons b t =>
      have hcons : numbers (a :: s) ≤ numbers (b :: t) ↔
          a.number < b.number ∨ a.number = b.number ∧ numbers s ≤ numbers t := by
        simp only [numbers, List.map_cons, le_iff_eq_or_lt, List.cons_lt_cons_iff,
          List.cons.injEq]
        tauto
      rw [hcons, le, Bool.or_eq_true, decide_eq_true_iff, Bool.and_eq_true, decide_eq_true_iff, ih,
        CodePoint.number_injective.eq_iff]

theorem le_trans {s t u : WideText} (hst : le s t = true) (htu : le t u = true) :
    le s u = true :=
  le_iff.mpr ((le_iff.mp hst).trans (le_iff.mp htu))

theorem le_total (s t : WideText) : (le s t || le t s) = true := by
  rw [Bool.or_eq_true, le_iff, le_iff]
  exact LinearOrder.le_total s.numbers t.numbers

end WideText

namespace Settings

/-! ### Shown keys -/

section Shown

variable {keys others : List Value}

theorem pairwise_shownKeys (keys : List Value) :
    (shownKeys keys).Pairwise fun a b => a.numbers ≤ b.numbers := by
  have hsorted : (shownKeys keys).Pairwise fun a b => WideText.le a b = true := by
    refine List.pairwise_mergeSort ?_ WideText.le_total _
    exact fun _ _ _ => WideText.le_trans
  exact hsorted.imp WideText.le_iff.mp

theorem perm_shownKeys (keys : List Value) : (shownKeys keys).Perm (keys.map Value.shown) :=
  List.mergeSort_perm _ _

/-- Keys are shown in the same order wherever they stand. -/
theorem shownKeys_perm (h : keys.Perm others) : shownKeys keys = shownKeys others :=
  List.Perm.eq_of_pairwise
    (fun _ _ _ _ hab hba => WideText.numbers_injective (le_antisymm hab hba))
    (pairwise_shownKeys keys) (pairwise_shownKeys others)
    ((perm_shownKeys keys).trans ((h.map _).trans (perm_shownKeys others).symm))

theorem unknownKeys_perm (h : keys.Perm others) : (unknownKeys keys).Perm (unknownKeys others) :=
  h.filter _

end Shown

/-! ### Entries in any order -/

/-- No two of some entries have the same key. -/
def IsMapping (entries : List (Value × Value)) : Prop :=
  entries.Pairwise fun entry other => entry.1.sameKey other.1 = false

instance (entries : List (Value × Value)) : Decidable (IsMapping entries) :=
  inferInstanceAs (Decidable (entries.Pairwise _))

namespace Field

theorem ofKey?_eq_some_iff {key : Value} {field : Field} :
    ofKey? key = some field ↔ key = .text field.name.wide := by
  constructor
  · intro h
    cases key with
    | text wide =>
      obtain ⟨name, hname, hfield⟩ := Option.bind_eq_some_iff.mp h
      rw [WideText.narrow?_eq_some_iff.mp hname, ofName?_eq_some_iff.mp hfield]
    | _ => exact nomatch h
  · rintro rfl
    exact ofKey?_name field

/-- Different keys do not name one field. -/
theorem ne_of_sameKey {key other : Value} {field field' : Field}
    (h : key.sameKey other = false) (hfield : ofKey? key = some field)
    (hfield' : ofKey? other = some field') : field ≠ field' := by
  rintro rfl
  rw [ofKey?_eq_some_iff.mp hfield, ofKey?_eq_some_iff.mp hfield', Value.sameKey, beq_self_eq_true]
    at h
  exact Bool.noConfusion h

end Field

namespace Draft

/-- Two entries can be put in in either order. -/
def Exchangeable (entry other : Value × Value) : Prop :=
  ∀ d : Draft, (d.put entry).put other = (d.put other).put entry

instance : Std.Symm Exchangeable := ⟨fun _ _ h d => (h d).symm⟩

theorem exchangeable_of_sameKey {entry other : Value × Value}
    (h : entry.1.sameKey other.1 = false) : Exchangeable entry other := by
  intro d
  cases hentry : Field.ofKey? entry.1 with
  | none => simp only [put, hentry, Option.elim_none]
  | some field =>
    cases hother : Field.ofKey? other.1 with
    | none => simp only [put, hother, Option.elim_none]
    | some field' =>
      simp only [put, hentry, hother, Option.elim_some]
      exact d.set_comm (Field.ne_of_sameKey h hentry hother) _ _

/-- The entries of a mapping are put in in any order. -/
theorem setAll_perm {entries others : List (Value × Value)} (hmapping : IsMapping entries)
    (h : entries.Perm others) (d : Draft) : d.setAll entries = d.setAll others := by
  have hexchange := List.Pairwise.forall_of_forall (R := Exchangeable) (fun _ _ _ => rfl)
    (hmapping.imp exchangeable_of_sameKey)
  rw [setAll_eq_foldl, setAll_eq_foldl]
  exact h.foldl_eq' (fun _ hentry _ hother => hexchange hentry hother) d

end Draft

/-! ### The outcome -/

section Outcome

variable [Value.Writing] {entries others : List (Value × Value)}

theorem ofEntries_perm (hmapping : IsMapping entries) (h : entries.Perm others) :
    ofEntries entries = ofEntries others := by
  have hunknown := unknownKeys_perm (h.map (·.1))
  unfold ofEntries
  dsimp only
  rw [hunknown.isEmpty_eq, hunknown.all_eq, shownKeys_perm hunknown,
    Draft.setAll_perm hmapping h]

/-- Keys that name no field come before all values. -/
theorem ofEntries_of_unknown (hunknown : unknownKeys (entries.map (·.1)) ≠ [])
    (hkeys : ∀ key ∈ unknownKeys (entries.map (·.1)), key.isWritable = true) :
    ofEntries entries = .error (.unknownKeys (shownKeys (unknownKeys (entries.map (·.1))))) := by
  unfold ofEntries
  rw [if_neg (mt List.isEmpty_iff.mp hunknown), if_pos (List.all_eq_true.mpr hkeys)]

/-- If one of these keys cannot be written, they are not listed. -/
theorem ofEntries_of_unwritable
    (h : ∃ key ∈ unknownKeys (entries.map (·.1)), key.isWritable = false) :
    ofEntries entries = .error (.unwritable .tooManyDigits) := by
  obtain ⟨key, hmem, hkey⟩ := h
  have hall : (unknownKeys (entries.map (·.1))).all Value.isWritable ≠ true := fun hall =>
    Bool.false_ne_true (hkey.symm.trans (List.all_eq_true.mp hall key hmem))
  unfold ofEntries
  rw [if_neg (mt List.isEmpty_iff.mp (List.ne_nil_of_mem hmem)), if_neg hall]

/-- The entries of a mapping have the same outcome in every order: the same settings or the same
fault, with its message. If keys name no field, they are the fault, whatever the values are: the
message lists what each of them shows, ordered by the numbers of the code points. No fault is found
only where a message cannot be written. That is so if one of these keys cannot be, and it is never
so but for a key that cannot be, or for a value that is refused. -/
theorem ofEntries_unordered (hmapping : IsMapping entries) (h : entries.Perm others) :
    ofEntries others = ofEntries entries ∧
      (unknownKeys (entries.map (·.1)) ≠ [] →
        (∀ key ∈ unknownKeys (entries.map (·.1)), key.isWritable = true) →
        ∃ shown : List WideText,
          shown.Perm ((unknownKeys (entries.map (·.1))).map Value.shown) ∧
            shown.Pairwise (fun a b => a.numbers ≤ b.numbers) ∧
            ofEntries entries = .error (.unknownKeys shown) ∧
            (Fault.unknownKeys shown).message =
              WideText.ofString "Unknown configuration keys: " ++
                WideText.joinWith (WideText.ofString ", ") shown) ∧
      ((∃ key ∈ unknownKeys (entries.map (·.1)), key.isWritable = false) →
        ofEntries entries = .error (.unwritable .tooManyDigits)) ∧
      ∀ reason, ofEntries entries = .error (.unwritable reason) →
        ∃ entry ∈ entries,
          entry.1.isWritable = false ∨ Value.Writing.refusal? entry.2 = some reason := by
  refine ⟨(ofEntries_perm hmapping h).symm, fun hunknown hkeys => ?_, ofEntries_of_unwritable,
    fun reason => exists_unwritable⟩
  exact ⟨_, perm_shownKeys _, pairwise_shownKeys _, ofEntries_of_unknown hunknown hkeys, rfl⟩

end Outcome

/-- A value out of range, a text and a number that name no field, and their reverse. -/
theorem ofEntries_unordered_tabs :
    let unit := (Value.text Field.indentUnit.name.wide, Value.int 0)
    let tabs := (Value.text (WideText.ofString "tabs"), Value.bool true)
    let seven := (Value.int 7, Value.null)
    ofEntries [seven, tabs, unit] = ofEntries [unit, tabs, seven] ∧
      ∃ shown : List WideText,
        shown.Perm [WideText.ofString "tabs", WideText.ofString "7"] ∧
          shown.Pairwise (fun a b => a.numbers ≤ b.numbers) ∧
          ofEntries [seven, tabs, unit] = .error (.unknownKeys shown) := by
  intro unit tabs seven
  have hunknown : unknownKeys [unit.1, tabs.1, seven.1] = [tabs.1, seven.1] := rfl
  have hreverse : [unit, tabs, seven].Perm [seven, tabs, unit] := (List.reverse_perm _).symm
  obtain ⟨hsame, hlisted, -⟩ := ofEntries_unordered (show IsMapping [unit, tabs, seven] by decide)
    hreverse
  have hkeys : ∀ key ∈ [tabs.1, seven.1], key.isWritable = true := by
    simp only [List.forall_mem_cons, tabs, seven]
    decide +kernel
  obtain ⟨shown, hperm, hsorted, hfault, -⟩ := hlisted
    (hunknown ▸ List.cons_ne_nil _ _) (hunknown ▸ hkeys)
  exact ⟨hsame, shown, hperm, hsorted, hsame.trans hfault⟩

/-! ### Units that cannot be written -/

/-- Lists of which each holds the next, around an empty one. -/
def nested : Nat → Value
  | 0 => .list []
  | n + 1 => .list [nested n]

/-- Lists are refused if there is no room for the innermost one. -/
theorem refusalWithin_nested (digits : Nat) {n depth : Nat} (h : depth ≤ n) :
    (nested n).refusalWithin digits depth = some .tooDeep := by
  induction n generalizing depth with
  | zero =>
    obtain rfl := Nat.le_zero.mp h
    rfl
  | succ n ih =>
    cases depth with
    | zero => rfl
    | succ depth =>
      simp only [nested, Value.refusalWithin, Value.insideOf, Value.refusalAmong,
        ih (Nat.le_of_succ_le_succ h), Option.some_or]

/-- A negative power of ten is refused if it has one digit too many. -/
theorem refusalWithin_neg_pow (digits depth : Nat) :
    (Value.int (-Int.ofNat (Nat.pow 10 digits))).refusalWithin digits depth =
      some .tooManyDigits := by
  rw [Value.refusalWithin, Int.natAbs_neg]
  exact if_neg (Nat.lt_irrefl _)

/-- A unit that is no positive integer is not found to be wrong if it cannot be written. -/
theorem ofEntries_of_refusal? [Value.Writing] {v : Value} {reason : Value.Unwritable}
    (h : Value.Writing.refusal? v = some reason) (hunit : ∀ n, v = .int n → n ≤ 0) :
    ofEntries [(.text Field.indentUnit.name.wide, v)] = .error (.unwritable reason) := by
  have hunit : Draft.checkUnit v = .error (.unwritable reason) := by
    cases v with
    | int n =>
      have hn : ¬ 0 < n := Int.not_lt.mpr (hunit n rfl)
      simp [Draft.checkUnit, hn, Fault.about, h]
    | _ => simp [Draft.checkUnit, Fault.about, h]
  have hchecked : ofEntries [(.text Field.indentUnit.name.wide, v)] =
      (default.draft.set .indentUnit v).check := rfl
  rw [hchecked, check_set_indentUnit, hunit]
  rfl

/-- As a rule a unit that is no integer is refused as such only if it can be written, and so is one
that is not positive. Otherwise there are neither settings nor a fault of the settings. -/
theorem ofEntries_unwritable_unit :
    let ofUnit := fun v => ofEntries [(Value.text Field.indentUnit.name.wide, v)]
    ofUnit (nested Value.usualDepth) = .error (.unwritable .tooDeep) ∧
      ofUnit (.int (-Int.ofNat (Nat.pow 10 Value.usualDigits))) =
        .error (.unwritable .tooManyDigits) ∧
      ∀ reason, (LoadFault.invalid (.unwritable reason)).isSettings = false := by
  intro ofUnit
  have hneg (k : Nat) (n : Int) (hn : Value.int (-Int.ofNat k) = .int n) : n ≤ 0 := by
    rw [← Value.int.inj hn]
    exact Int.neg_nonpos_of_nonneg (Int.natCast_nonneg k)
  refine ⟨ofEntries_of_refusal? (refusalWithin_nested _ (Nat.le_refl _)) ?_,
    ofEntries_of_refusal? (refusalWithin_neg_pow _ _) (hneg _), fun _ => rfl⟩
  exact fun n => nofun

end Settings
end AmberTools
