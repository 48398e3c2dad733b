import AmberTools.Settings.OfValues
import Mathlib.Data.Option.Basic
import Mathlib.Tactic.SplitIfs

/-!
# Drafts that pass

A draft proposes a value for each setting, and its check makes settings of it. Nothing is converted
on the way but the name of a policy: a draft that passes consists of the very values that show the
settings which it gives. So the settings say which values were proposed, and settings can be checked
again at any time.

## Main definitions

* `Settings.Draft.put`: a draft with one entry put in.

## Main results

* `Settings.Draft.checkUnit_eq_ok_iff` and its siblings: the values that single fields admit.
* `Settings.Draft.check_eq_ok_iff`: a draft passes if and only if it shows the settings it gives.
-/

namespace AmberTools

namespace WideText

theorem narrow?_cons (point : CodePoint) (wide : WideText) :
    narrow? (point :: wide) = point.char?.bind fun c => (narrow? wide).map (c :: ·) := by
  rw [narrow?, List.mapM_cons, ← narrow?]
  cases point.char? <;> cases narrow? wide <;> rfl

/-- A wide text is a text if and only if it is that text written widely. -/
theorem narrow?_eq_some_iff {wide : WideText} {text : Text} :
    narrow? wide = some text ↔ wide = text.wide := by
  induction wide generalizing text with
  | nil => cases text <;> simp [narrow?, Text.wide]
  | cons point wide ih =>
    simp only [narrow?_cons, Option.bind_eq_some_iff, Option.map_eq_some_iff, ih]
    constructor
    · rintro ⟨c, hc, text, rfl, rfl⟩
      cases point with
      | char d =>
        obtain rfl := Option.some.inj hc
        rfl
      | half => exact nomatch hc
    · intro h
      cases text with
      | nil => exact nomatch h
      | cons c text =>
        obtain ⟨rfl, rfl⟩ := List.cons.inj h
        exact ⟨c, rfl, text, rfl, rfl⟩

end WideText

/-- The policies are found by their names, and by nothing else. -/
theorem Compiler.UnlocatedPolicy.ofName?_eq_some_iff {name : Text} {policy : UnlocatedPolicy} :
    ofName? name = some policy ↔ name = policy.name := by
  constructor
  · intro h
    rw [ofName?] at h
    have hname := List.find?_some h
    exact (beq_iff_eq.mp hname).symm
  · rintro rfl
    cases policy <;> decide +kernel

namespace Settings
namespace Draft

/-! ### Entries -/

/-- The draft with one entry put in, or left out if its key names no field. -/
def put (d : Draft) (entry : Value × Value) : Draft :=
  (Field.ofKey? entry.1).elim d fun field => d.set field entry.2

theorem setAll_eq_foldl (d : Draft) (entries : List (Value × Value)) :
    d.setAll entries = entries.foldl put d := rfl

theorem setAll_cons (d : Draft) (entry : Value × Value) (entries : List (Value × Value)) :
    d.setAll (entry :: entries) = (d.put entry).setAll entries := rfl

/-! ### Single fields -/

variable [Value.Writing] {v : Value}

/-- A unit is a positive integer. -/
theorem checkUnit_eq_ok_iff {unit : { n : Nat // 0 < n }} :
    checkUnit v = .ok unit ↔ v = .int unit.1 := by
  cases v with
  | int n =>
    have hpos := unit.2
    unfold checkUnit
    dsimp only
    split_ifs with h
    · simp only [Except.ok.injEq, Subtype.ext_iff, Value.int.injEq]
      omega
    · simp only [Value.int.injEq, false_iff]
      omega
  | _ => simp [checkUnit]

/-- Whether colours are removed is a truth value. -/
theorem checkStrip_eq_ok_iff {strip : Bool} : checkStrip v = .ok strip ↔ v = .bool strip := by
  cases v <;> simp [checkStrip]

omit [Value.Writing] in
/-- A compiler is a text that is not blank. -/
theorem checkExecutable_eq_ok_iff {executable : { t : WideText // WideText.allBlank t = false }} :
    checkExecutable v = .ok executable ↔ v = .text executable.1 := by
  cases v with
  | text t =>
    unfold checkExecutable
    dsimp only
    split
    · simp only [Except.ok.injEq, Subtype.ext_iff, Value.text.injEq]
    · rename_i hblank
      simp only [reduceCtorEq, Value.text.injEq, false_iff]
      rintro rfl
      exact Bool.false_ne_true (executable.2.symm.trans hblank)
  | _ => simp [checkExecutable]

/-- A policy is given by its name. -/
theorem checkUnlocated_eq_ok_iff {policy : Compiler.UnlocatedPolicy} :
    checkUnlocated v = .ok policy ↔ v = .text policy.name.wide := by
  cases v with
  | text t =>
    have hname : (WideText.narrow? t).bind Compiler.UnlocatedPolicy.ofName? = some policy ↔
        t = policy.name.wide := by
      simp only [Option.bind_eq_some_iff, WideText.narrow?_eq_some_iff,
        Compiler.UnlocatedPolicy.ofName?_eq_some_iff, exists_eq_right]
    unfold checkUnlocated
    dsimp only
    rw [Value.text.injEq, ← hname]
    split
    · rename_i found h
      rw [h, Except.ok.injEq, Option.some.injEq]
    · rename_i h
      simp only [h, reduceCtorEq]
  | _ => simp [checkUnlocated]

/-! ### Whole drafts -/

/-- A draft passes if and only if it shows the settings that it gives. -/
theorem check_eq_ok_iff {d : Draft} {s : Settings} : d.check = .ok s ↔ d = s.draft := by
  have hbind {α β : Type} {x : Except Fault α} {f : α → Except Fault β} {b : β} :
      x >>= f = .ok b ↔ ∃ a, x = .ok a ∧ f a = .ok b := by
    cases x <;> simp [bind, Except.bind]
  simp only [check, hbind, checkUnit_eq_ok_iff, checkStrip_eq_ok_iff, checkExecutable_eq_ok_iff,
    checkUnlocated_eq_ok_iff]
  obtain ⟨unit, strip, executable, unlocated⟩ := d
  constructor
  · rintro ⟨unit, rfl, strip, rfl, executable, rfl, policy, rfl, hs⟩
    obtain rfl := Except.ok.inj hs
    rfl
  · intro hd
    obtain ⟨rfl, rfl, rfl, rfl⟩ := Draft.mk.inj hd
    exact ⟨⟨_, s.indentUnit_pos⟩, rfl, _, rfl, ⟨_, s.executable_visible⟩, rfl, _, rfl, rfl⟩

/-- The values that show settings pass. -/
theorem check_draft (s : Settings) : s.draft.check = .ok s := check_eq_ok_iff.mpr rfl

end Draft
end Settings
end AmberTools
