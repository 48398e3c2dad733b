import AmberTools.Yaml.TokenReader

/-!
# Faults of tokens

Reading tokens stops where the text is malformed. Beyond that it stops at three things only: at a
version with too many digits, and at an escape that names no character or too large a number. And
like every reader with a number of steps it stops when these are taken.

## Main definitions

* `Yaml.Within`: a result, or a fault that satisfies a condition.
* `Yaml.TokenFault`: the faults at which reading stops.

## Main results

* `Yaml.tokenFault_of_tokensOf`: the tokens of a text end at such faults only.
-/

namespace AmberTools
namespace Yaml

section Within

variable {α β : Type} {P : Fault → Prop} {x y : Except Fault α} {f : α → Except Fault β}

/-- A result or a fault that satisfies a condition. -/
def Within (P : Fault → Prop) (x : Except Fault α) : Prop := ∀ fault, x = .error fault → P fault

@[simp] theorem within_ok (a : α) : Within P (.ok a) := nofun

@[simp] theorem within_pure (a : α) : Within P (pure a : Except Fault α) := nofun

@[simp] theorem within_error_iff {fault : Fault} :
    Within P (.error fault : Except Fault α) ↔ P fault :=
  ⟨fun h => h fault rfl, fun h _ heq => Except.error.inj heq ▸ h⟩

@[simp] theorem within_throw_iff {fault : Fault} :
    Within P (throw fault : Except Fault α) ↔ P fault := within_error_iff

@[simp] theorem within_bind_iff :
    Within P (x >>= f) ↔ Within P x ∧ ∀ a, x = .ok a → Within P (f a) := by
  cases x with
  | ok a => simp [bind, Except.bind]
  | error fault => simp [bind, Except.bind]

@[simp] theorem within_map_iff {g : α → β} : Within P (x.map g) ↔ Within P x := by
  cases x <;> simp [Except.map]

@[simp] theorem within_functor_map_iff {g : α → β} : Within P (g <$> x) ↔ Within P x :=
  within_map_iff

@[simp] theorem within_ite_iff {c : Prop} [Decidable c] :
    Within P (if c then x else y) ↔ (c → Within P x) ∧ (¬ c → Within P y) := by
  by_cases h : c <;> simp [h]

end Within

/-- The faults at which a reader of tokens stops: the text is malformed, a version has too many
digits, an escape names no character, or there are no more steps. -/
inductive TokenFault : Fault → Prop
  | malformed : TokenFault .malformed
  | tooManyDigits (digits : Nat) : TokenFault (.tooManyDigits digits)
  | noSuchCharacter : TokenFault .noSuchCharacter
  | escapeTooLarge : TokenFault .escapeTooLarge
  | outOfSteps : TokenFault .outOfSteps

attribute [simp] TokenFault.malformed TokenFault.tooManyDigits TokenFault.noSuchCharacter
  TokenFault.escapeTooLarge TokenFault.outOfSteps

/-! ### Anchors, tags and directives -/

@[simp] theorem within_finishLine (k : Cursor) : Within TokenFault k.finishLine := by
  simp [Cursor.finishLine]

@[simp] theorem within_readAnchor (k : Cursor) : Within TokenFault (readAnchor k) := by
  simp [readAnchor]

@[simp] theorem within_tagText (fuel : Nat) (text : Text) :
    Within TokenFault (tagText fuel text) := by
  fun_induction tagText fuel text <;> simp_all

@[simp] theorem within_readTagText (k : Cursor) : Within TokenFault (readTagText k) := by
  have h := within_tagText k.rest.length k.rest
  unfold readTagText
  split <;> simp_all

@[simp] theorem within_readHandle (k : Cursor) : Within TokenFault (readHandle k) := by
  simp [readHandle]

@[simp] theorem within_readTag (k : Cursor) : Within TokenFault (readTag k) := by
  simp [readTag]

@[simp] theorem within_readNumber (k : Cursor) : Within TokenFault (readNumber k) := by
  simp [readNumber]

@[simp] theorem within_readVersion (k : Cursor) : Within TokenFault (readVersion k) := by
  simp [readVersion]

@[simp] theorem within_readHandleMeaning (k : Cursor) :
    Within TokenFault (readHandleMeaning k) := by
  simp [readHandleMeaning]

@[simp] theorem within_readDirective (k : Cursor) : Within TokenFault (readDirective k) := by
  simp [readDirective]

/-! ### Scalars -/

@[simp] theorem within_quotedBreaks (fuel : Nat) (k : Cursor) :
    Within TokenFault (quotedBreaks fuel k) := by
  fun_induction quotedBreaks fuel k <;> simp_all

@[simp] theorem within_quotedGap (k : Cursor) : Within TokenFault (quotedGap k) := by
  unfold quotedGap
  dsimp only
  split
  · simp
  · split
    · simp
    · split
      · simp
      · exact within_error_iff.mpr (within_quotedBreaks _ _ _ ‹_›)

@[simp] theorem within_readEscape (k : Cursor) : Within TokenFault (readEscape k) := by
  unfold readEscape
  split
  · simp
  · split
    · simp
    · dsimp only
      split
      · simp only [within_error_iff, within_ite_iff, TokenFault.malformed,
          TokenFault.escapeTooLarge, implies_true, true_and]
        intros
        split <;> simp
      · simp
    · split <;> simp

@[simp] theorem within_quotedText (double : Bool) (fuel : Nat) (k : Cursor) :
    Within TokenFault (quotedText double fuel k) := by
  fun_induction quotedText double fuel k with
  | case1 | case2 | case4 | case5 => simp
  | case7 => exact within_error_iff.mpr (within_readEscape _ _ ‹_›)
  | case9 => exact within_error_iff.mpr (within_quotedGap _ _ ‹_›)
  | case3 | case6 | case8 | case10 =>
    rename_i ih
    dsimp +zetaDelta only
    split
    · simp
    · exact within_error_iff.mpr (ih _ _ ‹_›)

@[simp] theorem within_readQuoted (double : Bool) (k : Cursor) :
    Within TokenFault (readQuoted double k) := by
  simp [readQuoted]

@[simp] theorem within_readBlockHead (k : Cursor) : Within TokenFault (readBlockHead k) := by
  simp [readBlockHead]

@[simp] theorem within_readBlock (folded : Bool) (indent : Int) (k : Cursor) :
    Within TokenFault (readBlock folded indent k) := by
  simp [readBlock]

/-! ### The reader -/

namespace TokenReader

variable (r : TokenReader)

@[simp] theorem within_dropStale : Within TokenFault r.dropStale := by
  simp [dropStale]

@[simp] theorem within_dropPlace : Within TokenFault r.dropPlace := by
  simp [dropPlace]

@[simp] theorem within_markPlace : Within TokenFault r.markPlace := by
  simp [markPlace]

@[simp] theorem within_readWord {read : Cursor → Except Fault (Token × Cursor)}
    (h : ∀ k, Within TokenFault (read k)) : Within TokenFault (r.readWord read) := by
  simp [readWord, h]

@[simp] theorem within_readValue : Within TokenFault r.readValue := by
  unfold readValue
  split <;> simp

@[simp] theorem within_readReference (make : Text → Token) (k : Cursor) :
    Within TokenFault (readReference make k) := by
  simp [readReference]

@[simp] theorem within_readToken (c : Char) : Within TokenFault (r.readToken c) := by
  simp [readToken, readDirectiveLine, readDocumentMark, readFlowStart, readFlowEnd, readFlowEntry,
    readBlockEntry, readKey, readBlockScalar, readPlainScalar]

@[simp] theorem within_step : Within TokenFault r.step := by
  simp only [step, within_bind_iff, within_dropStale, true_and]
  intro next _
  split
  · simp [readEnd]
  · simp

/-- Reading stops only at faults of tokens. -/
theorem tokenFault_of_readAll {fuel : Nat} {fault : Fault} (h : (r.readAll fuel).2 = some fault) :
    TokenFault fault := by
  fun_induction readAll fuel r with
  | case1 =>
    obtain rfl := Option.some.inj h
    exact .outOfSteps
  | case2 fuel r stopped hstep =>
    obtain rfl := Option.some.inj h
    exact within_step r _ hstep
  | case3 => exact nomatch h
  | case4 _ _ _ _ ih => exact ih h

end TokenReader

/-- The tokens of a text end at faults of tokens only. -/
theorem tokenFault_of_tokensOf {text : Text} {fault : Fault}
    (h : (tokensOf text).2 = some fault) : TokenFault fault :=
  TokenReader.tokenFault_of_readAll _ h

end Yaml
end AmberTools
