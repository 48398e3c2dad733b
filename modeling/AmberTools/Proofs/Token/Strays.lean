import AmberTools.Proofs.Token.Candidates
import AmberTools.Proofs.Token.Stack

/-!
# Stray characters

In every state there are characters with which nothing can start. In a literal this is a backslash
that has no character to escape on its line. In program text it is any character outside those of
words, numbers, white space, literals, operators and punctuation. Such a stray character is an error
by itself, and the lexer goes on behind it as if it had not been there. Nothing else is an error:
where a rule fails halfway, such as that for declarations or for numbers with a point, a later rule
still recognises something.

## Main definitions

* `Text.isProgramChar`: the characters with which something may start in program text.
* `LexState.Stray`: a text that starts with a stray character.

## Main results

* `Lexer.firstMatch?_eq_none_iff`: no rule recognises anything just at stray characters.
* `Lexer.error_iff_stray`: the errors of every text.
-/

namespace AmberTools

/-- The characters with which something may start in program text: those of words and numbers, blank
ones, the delimiters of literals, and all operators and punctuation. -/
def Text.isProgramChar (c : Char) : Bool :=
  isBlank c || isAsciiLetter c || c == '_' || isDigit c ||
    "\"$+-*/%<>=!?\x7b\x7d()[],:;.".toList.contains c

namespace LexState

/-- In a state, the text starts with a character with which nothing can start there. In a literal
this is a backslash at the end of a line or of the whole text. -/
inductive Stray : LexState → Text → Prop
  | backslash {state : LexState} {rest : Text} (hstate : state.readsProgram = false)
      (hrest : ∀ d ∈ rest.head?, d = '\n') : Stray state ('\\' :: rest)
  | sign {state : LexState} {c : Char} {rest : Text} (hstate : state.readsProgram = true)
      (hc : Text.isProgramChar c = false) : Stray state (c :: rest)

variable {state : LexState} {c : Char} {rest : Text}

theorem stray_program_iff (hstate : state.readsProgram = true) :
    state.Stray (c :: rest) ↔ Text.isProgramChar c = false := by
  constructor
  · intro h
    cases h with
    | backslash hliteral => exact absurd (hliteral.symm.trans hstate) Bool.false_ne_true
    | sign _ hc => exact hc
  · exact .sign hstate

theorem stray_literal_iff (hstate : state.readsProgram = false) :
    state.Stray (c :: rest) ↔ c = '\\' ∧ ∀ d ∈ rest.head?, d = '\n' := by
  constructor
  · intro h
    cases h with
    | backslash _ hrest => exact ⟨rfl, hrest⟩
    | sign hprogram => exact absurd (hstate.symm.trans hprogram) Bool.false_ne_true
  · rintro ⟨rfl, hrest⟩
    exact .backslash hstate hrest

end LexState

namespace LexClass

/-- Two classes of characters start nothing in program text. -/
theorem isProgramChar_eq (c : Char) :
    Text.isProgramChar c = (ofChar c != backslash && ofChar c != other) := by
  by_cases hblank : Text.isBlank c = true
  · rw [ofChar_of_isBlank hblank, Text.isProgramChar, hblank]
    rfl
  by_cases hletter : Text.isNameStart c = true
  · rw [ofChar_of_isNameStart hletter, Text.isProgramChar]
    rw [Text.isNameStart, Bool.or_eq_true] at hletter
    rcases hletter with hletter | hletter <;> simp [hletter]
  by_cases hdigit : Text.isDigit c = true
  · rw [ofChar_of_isDigit hdigit, Text.isProgramChar, hdigit]
    simp
  have hsign : ofChar c = ofSign c := by
    rw [ofChar, if_neg hblank, if_neg hletter, if_neg hdigit]
  rw [Text.isNameStart, Bool.or_eq_true, not_or] at hletter
  rw [hsign]
  simp only [Text.isProgramChar, hblank, hletter, hdigit, Bool.false_or]
  unfold ofSign
  split
  case h_24 => simp_all
  all_goals rfl

end LexClass

namespace Lexer

open Token LexState

variable {text : Text} {p q : Point} {positioned : List (Nat × Token)} {state : LexState}
  {before : Option Char} {c : Char} {rest : Text}

/-! ### Where no rule recognises anything -/

theorem firstMatch?_program_ne_none (hstate : state.readsProgram = true)
    (hc : Text.isProgramChar c = true) (before : Option Char) (rest : Text) :
    firstMatch? state.rules before (c :: rest) ≠ none := by
  have hsigns : ∀ d ∈ "\"$+-*/%<>=!?\x7b\x7d()[],:;.".toList,
      d = '"' ∨ d = '$' ∨ (d = '?' ∨ LexRule.isComposable d = true) ∨
        LexRule.isPunctuation d = true :=
    List.all_iff_forall_prop.mp (by decide)
  have hopening (e : Enclosure) (hhost : state ∈ e.hosts) :
      firstMatch? state.rules before (e.opening :: rest) ≠ none := by
    obtain ⟨rule, hfirst, -⟩ := exists_firstMatch?_opening hhost before rest
    exact hfirst ▸ Option.some_ne_none _
  have hprogram (h : Text.isNameStart c = true ∨ Text.isDigit c = true ∨ Text.isBlank c = true ∨
      (c = '?' ∨ LexRule.isComposable c = true) ∨ LexRule.isPunctuation c = true) :
      firstMatch? state.rules before (c :: rest) ≠ none := by
    obtain ⟨rule, hrule, hmatch⟩ := LexRule.exists_match?_ne_none h before rest
    refine firstMatch?_ne_none ?_ hmatch
    cases state with
    | root => exact hrule
    | interpolation => exact List.mem_cons_of_mem _ hrule
    | string | command => exact absurd hstate (by decide)
  simp only [Text.isProgramChar, Bool.or_eq_true, List.contains_iff_mem] at hc
  rcases hc with (((hblank | hletter) | hunderscore) | hdigit) | hsign
  · exact hprogram (.inr (.inr (.inl hblank)))
  · exact hprogram (.inl (by simp [Text.isNameStart, hletter]))
  · exact hprogram (.inl (by simp [Text.isNameStart, hunderscore]))
  · exact hprogram (.inr (.inl hdigit))
  · rcases hsigns c hsign with rfl | rfl | hsign
    · exact hopening .string (by revert hstate; cases state <;> decide)
    · exact hopening .command (by revert hstate; cases state <;> decide)
    · exact hprogram (.inr (.inr (.inr hsign)))

theorem firstMatch?_program_eq_none_iff (hstate : state.readsProgram = true) :
    firstMatch? state.rules before (c :: rest) = none ↔ Text.isProgramChar c = false := by
  constructor
  · intro hnone
    by_contra hc
    exact firstMatch?_program_ne_none hstate (by simpa using hc) before rest hnone
  · intro hc
    rw [LexClass.isProgramChar_eq, Bool.and_eq_false_iff, bne_eq_false_iff_eq,
      bne_eq_false_iff_eq] at hc
    have hcandidates : state.candidates (.ofChar c) = [] := by
      rcases hc with hc | hc <;> rw [hc] <;> revert hstate <;> cases state <;> decide
    rw [← firstMatch?_candidates, hcandidates]
    rfl

/-- In a literal, what is no backslash is plain text or a delimiter. -/
theorem firstMatch?_literal_ne_none {e : Enclosure} (he : e ≠ .interpolation) (hc : c ≠ '\\')
    (before : Option Char) (rest : Text) :
    firstMatch? e.state.rules before (c :: rest) ≠ none := by
  by_cases hplain : e.isPlain c = true
  · obtain ⟨rule, hrule, hmatch⟩ := exists_match?_plain hplain before rest
    exact firstMatch?_ne_none hrule hmatch
  · have hdelimiter : c = e.closing ∨ c = '\x7b' := by
      cases e with
      | string | command =>
        by_contra hother
        rw [not_or] at hother
        exact hplain (by simpa [Enclosure.isPlain, LexRule.isLiteralText, hc] using! hother)
      | interpolation => contradiction
    rcases hdelimiter with rfl | rfl
    · obtain ⟨rule, hfirst, -⟩ := exists_firstMatch?_closing e before rest
      exact hfirst ▸ Option.some_ne_none _
    · have hhost : e.state ∈ Enclosure.interpolation.hosts := by
        revert he
        cases e <;> decide
      obtain ⟨rule, hfirst, -⟩ := exists_firstMatch?_opening hhost before rest
      exact hfirst ▸ Option.some_ne_none _

theorem firstMatch?_backslash_eq_none_iff {e : Enclosure} (he : e ≠ .interpolation)
    (before : Option Char) (rest : Text) :
    firstMatch? e.state.rules before ('\\' :: rest) = none ↔ ∀ d ∈ rest.head?, d = '\n' := by
  constructor
  · intro hnone d hd
    by_contra hfeed
    obtain ⟨after, rfl⟩ := List.head?_eq_some_iff.mp hd
    rw [firstMatch?_escape he hfeed] at hnone
    contradiction
  · intro hrest
    have hcandidates : e.state.candidates (.ofChar '\\') = [.escape] := by
      revert he
      cases e <;> decide
    rw [← firstMatch?_candidates, hcandidates, Option.eq_none_iff_forall_ne_some]
    rintro ⟨rule, tokens⟩ hfirst
    obtain ⟨hrule, hmatch⟩ := firstMatch?_eq_some hfirst
    obtain rfl := List.mem_singleton.mp hrule
    obtain ⟨d, -, hd, hfeed, -⟩ := LexRule.escape?_cons_eq_some_iff.mp hmatch
    exact hfeed (hrest d hd)

theorem firstMatch?_literal_eq_none_iff {e : Enclosure} (he : e ≠ .interpolation) :
    firstMatch? e.state.rules before (c :: rest) = none ↔
      c = '\\' ∧ ∀ d ∈ rest.head?, d = '\n' := by
  by_cases hc : c = '\\'
  · subst hc
    rw [firstMatch?_backslash_eq_none_iff he, and_iff_right rfl]
  · simp [hc, firstMatch?_literal_ne_none he hc before rest]

/-- No rule recognises anything just where a stray character stands. -/
theorem firstMatch?_eq_none_iff (state : LexState) (before : Option Char) (c : Char) (rest : Text) :
    firstMatch? state.rules before (c :: rest) = none ↔ state.Stray (c :: rest) := by
  cases hstate : state.readsProgram with
  | true => exact (firstMatch?_program_eq_none_iff hstate).trans (stray_program_iff hstate).symm
  | false =>
    obtain ⟨e, he, rfl⟩ : ∃ e : Enclosure, e ≠ .interpolation ∧ state = e.state := by
      cases state with
      | string => exact ⟨.string, by decide, rfl⟩
      | command => exact ⟨.command, by decide, rfl⟩
      | root | interpolation => contradiction
    exact (firstMatch?_literal_eq_none_iff he).trans (stray_literal_iff hstate).symm

/-! ### The errors of a text -/

/-- All parts of a declaration start like something in program text. -/
theorem isProgramChar_of_declaration {input : Text} {tokens : List Token}
    (h : LexRule.declaration? input = some tokens) :
    ∀ t ∈ tokens, ∀ d ∈ t.value.head?, Text.isProgramChar d = true := by
  obtain ⟨rest, name, rfl, -, hname, rfl⟩ := LexRule.declaration?_eq_some_iff.mp h
  obtain ⟨first, letters, -, hfirst, rfl⟩ := LexRule.name?_eq_some_iff.mp hname
  have hgap : ∀ d ∈ (rest.takeWhile Text.isBlank).head?, Text.isProgramChar d = true := by
    intro d hd
    have hblank : Text.isBlank d = true := List.mem_takeWhile_imp (List.mem_of_mem_head? hd)
    simp [Text.isProgramChar, hblank]
  have hstart : Text.isProgramChar first = true := by
    rw [LexClass.isProgramChar_eq, LexClass.ofChar_of_isNameStart hfirst]
    rfl
  have hkeyword : Text.isProgramChar 'f' = true := by decide
  simpa [hkeyword, hstart] using hgap

/-- Where a rule recognises something, none of its tokens starts with a stray character. -/
theorem not_stray_of_recognised {rule : LexRule} {tokens : List Token} {entry : Nat × Token}
    (hfirst : recognised? text p = some (rule, tokens))
    (hturn : turn? text p = some (positioned, q))
    (hpositioned : positioned = withPositions p.position tokens) (hentry : entry ∈ positioned) :
    ¬ p.stack.top.Stray (text.drop entry.1) := by
  obtain ⟨hrule, hmatch⟩ := firstMatch?_eq_some hfirst
  by_cases hdeclaration : rule = .declaration
  · subst hdeclaration
    have hprogram := readsProgram_of_declaration hrule
    obtain ⟨after, hafter⟩ := prefix_of_mem_turn? hturn hentry
    have hmem : entry.2 ∈ tokens := mem_of_mem_withPositions (hpositioned ▸ hentry)
    obtain ⟨d, value, hvalue⟩ := List.exists_cons_of_ne_nil (ne_nil_of_turn? hturn entry hentry)
    have hd : Text.isProgramChar d = true :=
      isProgramChar_of_declaration hmatch _ hmem d (by rw [hvalue]; rfl)
    rw [← hafter, hvalue, List.cons_append, stray_program_iff hprogram, hd]
    decide
  · obtain ⟨value, rfl⟩ := LexRule.exists_single_of_match? hdeclaration hmatch
    obtain rfl : entry = (p.position, ⟨rule.kind, value⟩) := by
      rw [hpositioned] at hentry
      exact List.mem_singleton.mp hentry
    intro hstray
    rw [recognised?] at hfirst
    cases hdrop : text.drop p.position with
    | nil =>
      rw [hdrop, firstMatch?_nil] at hfirst
      contradiction
    | cons c rest =>
      rw [hdrop] at hfirst hstray
      rw [(firstMatch?_eq_none_iff _ _ c rest).mpr hstray] at hfirst
      contradiction

/-- Every token of a text is put out by a turn at a point on the way through the text. A token of a
turn is an error if and only if the text there starts with a character that is a stray one in the
state at the point. An error is one character, it is the only token of its turn, and the lexer goes
on at the next character with the same stack. -/
theorem error_iff_stray (text : Text) :
    (∀ entry ∈ withPositions 0 (tokens text), ∃ earlier p positioned q,
      Leads text .start earlier p ∧ turn? text p = some (positioned, q) ∧ entry ∈ positioned) ∧
    ∀ p positioned q, turn? text p = some (positioned, q) → ∀ entry ∈ positioned,
      (entry.2.kind = .error ↔ p.stack.top.Stray (text.drop entry.1)) ∧
      (entry.2.kind = .error →
        positioned = [entry] ∧ entry.2.value.length = 1 ∧ q = ⟨entry.1 + 1, p.stack⟩) := by
  constructor
  · intro entry hentry
    obtain ⟨last, hleads, -⟩ : ∃ last, Leads text .start (withPositions 0 (tokens text)) last ∧
        last.position = text.length := leads_tokensAt (Nat.zero_le _)
    exact hleads.exists_turn_of_mem hentry
  · intro p positioned q hturn entry hentry
    rcases turn?_cases hturn with ⟨rule, tokens, hfirst, hpositioned, -⟩ | ⟨hnone, c, hc, rfl, rfl⟩
    · have hmem : entry.2 ∈ tokens := mem_of_mem_withPositions (hpositioned ▸ hentry)
      have hkind : entry.2.kind ≠ .error :=
        (LexRule.ne_nil_and_ne_error_of_match? (firstMatch?_eq_some hfirst).2 _ hmem).2
      exact ⟨iff_of_false hkind (not_stray_of_recognised hfirst hturn hpositioned hentry),
        fun herror => absurd herror hkind⟩
    · obtain rfl := List.mem_singleton.mp hentry
      obtain ⟨rest, hdrop⟩ := exists_drop_eq_cons hc
      rw [recognised?, hdrop, firstMatch?_eq_none_iff, ← hdrop] at hnone
      exact ⟨iff_of_true rfl hnone, fun _ => ⟨rfl, rfl, rfl⟩⟩

/-- A sign that no rule reads in front of a string, and a backslash at the end of the text. -/
theorem error_iff_stray_unfinishedString :
    let text := "§\"\\".toList
    let p : Point := ⟨2, ⟨.string, [.root]⟩⟩
    withPositions 0 (tokens text) =
        [(0, ⟨.error, ['§']⟩), (1, ⟨.stringDouble, ['"']⟩), (2, ⟨.error, ['\\']⟩)] ∧
      LexState.root.Stray text ∧ ¬ LexState.root.Stray (text.drop 1) ∧
      turn? text p = some ([(2, ⟨.error, ['\\']⟩)], ⟨3, p.stack⟩) ∧
      LexState.string.Stray (text.drop 2) := by
  intro text p
  have hsign : turn? text .start = some ([(0, ⟨.error, ['§']⟩)], ⟨1, LexStack.initial⟩) := by
    decide +kernel
  have hquote : turn? text ⟨1, LexStack.initial⟩ = some ([(1, ⟨.stringDouble, ['"']⟩)], p) := by
    decide +kernel
  have hbackslash : turn? text p = some ([(2, ⟨.error, ['\\']⟩)], ⟨3, p.stack⟩) := by
    decide +kernel
  have htokens : tokensAt text .start = _ :=
    (Leads.turn hsign (.turn hquote (.turn hbackslash (.refl _)))).tokensAt_eq
  have hend : tokensAt text ⟨3, p.stack⟩ = [] := tokensAt_of_length_le (by decide)
  rw [hend] at htokens
  obtain ⟨-, hturns⟩ := error_iff_stray text
  exact ⟨htokens, (hturns _ _ _ hsign _ (List.mem_singleton_self _)).1.mp rfl,
    fun hstray => absurd ((hturns _ _ _ hquote _ (List.mem_singleton_self _)).1.mpr hstray)
      (by decide), hbackslash, (hturns _ _ _ hbackslash _ (List.mem_singleton_self _)).1.mp rfl⟩

end Lexer
end AmberTools
