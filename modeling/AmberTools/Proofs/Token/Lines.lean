import AmberTools.Proofs.Token.Steps

/-!
# Rules within a line

Most rules look no further than the end of the line. What they recognise depends on the rest of
the line only and lies within it. The exceptions are white space, the text of literals, which may
run over several lines, and a function's declaration, whose name may stand on a later line than
its keyword.

## Main definitions

* `Text.firstLine`: a text up to its first line feed.
* `LexRule.crossesLines`: the rules that look further.

## Main results

* `LexRule.match?_firstLine`: all other rules depend on the first line only.
* `LexRule.text_prefix_firstLine`: they recognise a part of it.
-/

namespace AmberTools

namespace Text

/-- The text up to its first line feed. -/
def firstLine (text : Text) : Text := text.takeWhile (· != '\n')

variable {c : Char} {text : Text} {p : Char → Bool}

theorem firstLine_feed (rest : Text) : firstLine ('\n' :: rest) = [] := rfl

theorem firstLine_cons (hc : c ≠ '\n') (rest : Text) :
    firstLine (c :: rest) = c :: firstLine rest := by
  simp [firstLine, hc]

theorem feed_not_mem_firstLine (text : Text) : '\n' ∉ firstLine text := by
  intro hmem
  simpa using List.mem_takeWhile_imp hmem

theorem firstLine_append {x : Text} (hx : '\n' ∉ x) (u : Text) :
    firstLine (x ++ u) = x ++ firstLine u := by
  refine List.takeWhile_append_of_pos fun c hc => ?_
  rw [bne_iff_ne]
  rintro rfl
  exact hx hc

theorem head?_firstLine_eq_some_iff (hc : c ≠ '\n') (text : Text) :
    (firstLine text).head? = some c ↔ text.head? = some c := by
  cases text with
  | nil => rfl
  | cons d rest =>
    by_cases hd : d = '\n'
    · simp [hd, firstLine_feed, Ne.symm hc]
    · simp [firstLine_cons hd]

theorem tail_firstLine (hc : c ≠ '\n') (h : text.head? = some c) :
    (firstLine text).tail = firstLine text.tail := by
  obtain ⟨rest, rfl⟩ := List.head?_eq_some_iff.mp h
  rw [firstLine_cons hc, List.tail_cons, List.tail_cons]

/-- A run without line feeds lies within the line. -/
theorem takeWhile_firstLine (hp : p '\n' = false) (text : Text) :
    (firstLine text).takeWhile p = text.takeWhile p := by
  induction text with
  | nil => rfl
  | cons c rest ih =>
    by_cases hc : c = '\n'
    · simp [hc, firstLine_feed, hp]
    · simp [firstLine_cons hc, List.takeWhile_cons, ih]

theorem dropWhile_firstLine (hp : p '\n' = false) (text : Text) :
    (firstLine text).dropWhile p = firstLine (text.dropWhile p) := by
  induction text with
  | nil => rfl
  | cons c rest ih =>
    by_cases hc : c = '\n'
    · simp [hc, firstLine_feed, hp]
    · by_cases hpc : p c = true
      · simp [firstLine_cons hc, hpc, ih]
      · simp [firstLine_cons hc, hpc]

end Text

namespace LexRule

open Text

/-- The rules that look beyond the end of the line. -/
def crossesLines : LexRule → Bool
  | whitespace => true
  | declaration => true
  | stringText => true
  | commandText => true
  | _ => false

variable {before : Option Char} {c : Char}

/-! ### Rules by the first characters -/

theorem operator?_cons (c : Char) (rest : Text) :
    operator? (c :: rest) =
      if c = '.' then
        if rest.head? = some '.' then
          some [⟨.operator, if rest.tail.head? = some '=' then ['.', '.', '='] else ['.', '.']⟩]
        else none
      else if c = '?' then some [⟨.operator, ['?']⟩]
      else if isComposable c then
        some [⟨.operator, if rest.head? = some '=' then [c, '='] else [c]⟩]
      else none := by
  rw [operator?.eq_def]
  split <;> simp_all [isComposable, List.head?_eq_some_iff]

theorem comment?_cons (c : Char) (rest : Text) :
    comment? (c :: rest) =
      if c = '/' ∧ rest.head? = some '/' then
        some [⟨.commentSingle, '/' :: '/' :: firstLine rest.tail⟩]
      else none := by
  rw [comment?.eq_def]
  split <;> simp_all [List.head?_eq_some_iff, firstLine]

theorem escape?_cons_eq_some_iff {tokens : List Token} {rest : Text} :
    escape? (c :: rest) = some tokens ↔
      ∃ d, c = '\\' ∧ rest.head? = some d ∧ d ≠ '\n' ∧ [⟨.stringEscape, ['\\', d]⟩] = tokens := by
  rw [escape?.eq_def]
  split
  · rename_i d _ heq
    obtain ⟨rfl, rfl⟩ := List.cons.inj heq
    by_cases hd : d = '\n' <;> simp [hd]
  · rename_i hnone
    constructor
    · intro h
      contradiction
    · rintro ⟨d, rfl, hhead, -⟩
      obtain ⟨tail, rfl⟩ := List.head?_eq_some_iff.mp hhead
      exact absurd rfl (hnone d tail)

/-! ### Rules that stay within the line -/

theorem operator?_firstLine (c : Char) (rest : Text) :
    operator? (c :: firstLine rest) = operator? (c :: rest) := by
  have hpoint := head?_firstLine_eq_some_iff (by decide : '.' ≠ '\n')
  have hequals := head?_firstLine_eq_some_iff (by decide : '=' ≠ '\n')
  rw [operator?_cons, operator?_cons]
  by_cases hhead : rest.head? = some '.'
  · simp only [tail_firstLine (by decide) hhead, hpoint, hequals]
  · simp only [hpoint, hequals, if_neg hhead]

theorem comment?_firstLine (c : Char) (rest : Text) :
    comment? (c :: firstLine rest) = comment? (c :: rest) := by
  rw [comment?_cons, comment?_cons]
  by_cases hslash : rest.head? = some '/'
  · have hidem : firstLine (firstLine rest.tail) = firstLine rest.tail := List.takeWhile_idem
    simp only [tail_firstLine (by decide) hslash, hidem,
      head?_firstLine_eq_some_iff (by decide : '/' ≠ '\n')]
  · simp only [head?_firstLine_eq_some_iff (by decide : '/' ≠ '\n'), hslash, and_false, if_false]

theorem escape?_firstLine (c : Char) (rest : Text) :
    escape? (c :: firstLine rest) = escape? (c :: rest) := by
  ext tokens
  rw [escape?_cons_eq_some_iff, escape?_cons_eq_some_iff]
  refine exists_congr fun d => and_congr_right fun _ => ?_
  by_cases hd : d = '\n'
  · simp [hd]
  · rw [head?_firstLine_eq_some_iff hd]

theorem float?_firstLine (input : Text) : float? (firstLine input) = float? input := by
  have hdigit : Text.isDigit '\n' = false := by decide
  simp only [float?, takeWhile_firstLine hdigit, dropWhile_firstLine hdigit]
  cases input.dropWhile Text.isDigit with
  | nil => rfl
  | cons d rest =>
    by_cases hd : d = '\n'
    · subst hd
      rfl
    by_cases hpoint : d = '.'
    · subst hpoint
      simp only [firstLine_cons hd, takeWhile_firstLine hdigit]
    · rw [firstLine_cons hd]
      split <;> simp_all

/-- At the end of a line such rules recognise nothing. -/
theorem match?_feed {rule : LexRule} (hrule : rule.crossesLines = false) (before : Option Char)
    (rest : Text) : rule.match? before ('\n' :: rest) = none := by
  cases rule with
  | words table =>
    have hword : ('\n' :: rest).takeWhile Text.isWord = [] :=
      List.takeWhile_cons_of_neg (by decide)
    simp [match?, words?, hword, nil_not_mem_words]
  | float | integer =>
    have hdigit : ('\n' :: rest).takeWhile isDigit = [] := List.takeWhile_cons_of_neg (by decide)
    simp [match?, float?, run?, hdigit]
  | whitespace | declaration | stringText | commandText => simp [crossesLines] at hrule
  | name =>
    have hstart : isNameStart '\n' = false := by decide
    simp [match?, name?, hstart]
  | operator =>
    have hcompose : isComposable '\n' = false := by decide
    simp [match?, operator?_cons, hcompose]
  | _ => rfl

theorem match?_firstLine_cons {rule : LexRule} (hrule : rule.crossesLines = false) (hc : c ≠ '\n')
    (before : Option Char) (rest : Text) :
    rule.match? before (firstLine (c :: rest)) = rule.match? before (c :: rest) := by
  have hword : Text.isWord '\n' = false := by decide
  have hdigit : Text.isDigit '\n' = false := by decide
  cases rule with
  | words table => simp only [match?, words?, takeWhile_firstLine hword]
  | float => exact float?_firstLine _
  | integer => simp only [match?, takeWhile_firstLine hdigit]
  | name => simp only [match?, firstLine_cons hc, name?, takeWhile_firstLine hword]
  | operator => rw [firstLine_cons hc]; exact operator?_firstLine c rest
  | comment => rw [firstLine_cons hc]; exact comment?_firstLine c rest
  | escape => rw [firstLine_cons hc]; exact escape?_firstLine c rest
  | whitespace | declaration | stringText | commandText => simp [crossesLines] at hrule
  | _ => rw [firstLine_cons hc]; rfl

theorem match?_nil (rule : LexRule) (before : Option Char) : rule.match? before [] = none := by
  rw [Option.eq_none_iff_forall_ne_some]
  intro tokens h
  obtain ⟨hne, hstart⟩ := begin_of_match? h
  exact hne (List.prefix_nil.mp hstart)

/-- A rule that does not look beyond the line depends on the line only. -/
theorem match?_firstLine {rule : LexRule} (hrule : rule.crossesLines = false)
    (before : Option Char) (input : Text) :
    rule.match? before (firstLine input) = rule.match? before input := by
  cases input with
  | nil => rfl
  | cons c rest =>
    by_cases hc : c = '\n'
    · rw [hc, firstLine_feed, match?_nil, match?_feed hrule]
    · exact match?_firstLine_cons hrule hc before rest

/-- Within the line lies all that such a rule recognises. -/
theorem text_prefix_firstLine {rule : LexRule} {input : Text} {tokens : List Token}
    (hrule : rule.crossesLines = false) (h : rule.match? before input = some tokens) :
    Token.text tokens <+: firstLine input := by
  rw [← match?_firstLine hrule] at h
  exact (begin_of_match? h).2

end LexRule
end AmberTools
