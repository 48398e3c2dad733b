import AmberTools.Token.Lexer
import Mathlib.Data.List.TakeWhile

/-!
# The steps of the lexer

The tokens of a step stand for a beginning of the text that is not empty, whichever rule gives
them. So lexing a text is a walk that cuts such beginnings off, and the character in front of the
next position is the last one of what has just been cut off. That character matters only in so far
as it may be a word character.

## Main definitions

* `Token.Begin`: tokens that stand for a beginning of a text.
* `LexRule.kind`: the kind of a rule's token.

## Main results

* `LexRule.begin_of_match?`, `Lexer.begin_step`: rules and steps recognise beginnings.
* `LexRule.ne_nil_and_ne_error_of_match?`: tokens of rules are neither empty nor errors.
* `Lexer.tokensFrom_of_step`: lexing continues behind the tokens of a step.
* `Lexer.tokensFrom_congr`: the character in front matters only as a word character.
-/

namespace AmberTools

namespace Token

/-- Tokens that stand for a beginning of a text, and not for nothing. -/
def Begin (tokens : List Token) (text : Text) : Prop :=
  Token.text tokens ≠ [] ∧ Token.text tokens <+: text

theorem text_append (a b : List Token) : text (a ++ b) = text a ++ text b := List.flatMap_append

theorem text_singleton (t : Token) : text [t] = t.value := List.flatMap_singleton ..

end Token

namespace LexRule

open Token

variable {before : Option Char} {input : Text} {tokens : List Token}

/-! ### What single rules recognise -/

theorem run?_eq_some_iff {kind : TokenKind} {value : Text} :
    run? kind value = some tokens ↔ value ≠ [] ∧ tokens = [⟨kind, value⟩] := by
  rw [run?]
  cases value with
  | nil => simp
  | cons c value => simp [eq_comm]

/-- There is a run where its first character is. -/
theorem run?_ne_none {p : Char → Bool} {c : Char} (hc : p c = true) (kind : TokenKind)
    (rest : Text) : run? kind ((c :: rest).takeWhile p) ≠ none := by
  simp [run?, List.takeWhile_cons_of_pos hc]

theorem begin_run? {kind : TokenKind} {value : Text} (h : run? kind value = some tokens)
    (hstart : value <+: input) : Begin tokens input := by
  obtain ⟨hne, rfl⟩ := run?_eq_some_iff.mp h
  rw [Begin, text_singleton]
  exact ⟨hne, hstart⟩

theorem single?_eq_some_iff {kind : TokenKind} {c : Char} :
    single? kind c input = some tokens ↔ input.head? = some c ∧ tokens = [⟨kind, [c]⟩] := by
  cases input with
  | nil => simp [single?]
  | cons d rest => simp [single?, eq_comm]

theorem begin_single? {kind : TokenKind} {c : Char} (h : single? kind c input = some tokens) :
    Begin tokens input := by
  obtain ⟨hhead, rfl⟩ := single?_eq_some_iff.mp h
  obtain ⟨rest, rfl⟩ := List.head?_eq_some_iff.mp hhead
  exact ⟨by simp [text_singleton], by simp [text_singleton]⟩

theorem comment?_eq_some_iff :
    comment? input = some tokens ↔ ∃ rest, input = '/' :: '/' :: rest ∧
      tokens = [⟨.commentSingle, '/' :: '/' :: rest.takeWhile (· != '\n')⟩] := by
  constructor
  · intro h
    unfold comment? at h
    split at h
    · exact ⟨_, rfl, (Option.some.inj h).symm⟩
    · contradiction
  · rintro ⟨rest, rfl, rfl⟩
    rfl

theorem begin_comment? (h : comment? input = some tokens) : Begin tokens input := by
  obtain ⟨rest, rfl, rfl⟩ := comment?_eq_some_iff.mp h
  rw [Begin, text_singleton]
  exact ⟨by simp, by simpa using List.takeWhile_prefix _⟩

theorem name?_eq_some_iff {name : Text} :
    name? input = some name ↔ ∃ c rest, input = c :: rest ∧ Text.isNameStart c = true ∧
      name = c :: rest.takeWhile Text.isWord := by
  cases input with
  | nil => simp [name?]
  | cons c rest =>
    rw [name?]
    constructor
    · intro h
      split_ifs at h with hc
      exact ⟨c, rest, rfl, hc, (Option.some.inj h).symm⟩
    · rintro ⟨_, _, hinput, hc, rfl⟩
      obtain ⟨rfl, rfl⟩ := List.cons.inj hinput
      exact if_pos hc

theorem prefix_of_name? {name : Text} (h : name? input = some name) : name <+: input := by
  obtain ⟨c, rest, rfl, -, rfl⟩ := name?_eq_some_iff.mp h
  simpa using List.takeWhile_prefix _

theorem declaration?_eq_some_iff :
    declaration? input = some tokens ↔ ∃ rest name, input = 'f' :: 'u' :: 'n' :: rest ∧
      rest.takeWhile Text.isBlank ≠ [] ∧ name? (rest.dropWhile Text.isBlank) = some name ∧
      tokens = [⟨.keywordDeclaration, ['f', 'u', 'n']⟩,
        ⟨.whitespace, rest.takeWhile Text.isBlank⟩, ⟨.nameFunction, name⟩] := by
  constructor
  · intro h
    unfold declaration? at h
    split at h
    · rename_i rest
      simp only [List.isEmpty_iff] at h
      split_ifs at h with hgap
      obtain ⟨name, hname, rfl⟩ := Option.map_eq_some_iff.mp h
      exact ⟨rest, name, rfl, hgap, hname, rfl⟩
    · contradiction
  · rintro ⟨rest, name, rfl, hgap, hname, rfl⟩
    simp only [declaration?, List.isEmpty_iff, if_neg hgap, hname, Option.map_some]

theorem begin_declaration? (h : declaration? input = some tokens) : Begin tokens input := by
  obtain ⟨rest, name, rfl, -, hname, rfl⟩ := declaration?_eq_some_iff.mp h
  obtain ⟨after, hafter⟩ := prefix_of_name? hname
  exact ⟨by simp [Token.text], after, by simp [Token.text, hafter]⟩

theorem nil_not_mem_words (table : WordTable) : [] ∉ table.words := by
  cases table <;> decide

theorem words?_eq_some_iff {table : WordTable} :
    words? table before input = some tokens ↔ before.any Text.isWord = false ∧
      input.takeWhile Text.isWord ∈ table.words ∧
      tokens = [⟨table.kind, input.takeWhile Text.isWord⟩] := by
  simp only [words?, List.contains_iff_mem]
  split_ifs with hbefore hword
  · simp [hbefore]
  · simp [hbefore, hword, eq_comm]
  · simp [hword]

theorem begin_words? {table : WordTable} (h : words? table before input = some tokens) :
    Begin tokens input := by
  obtain ⟨-, hword, rfl⟩ := words?_eq_some_iff.mp h
  rw [Begin, text_singleton]
  exact ⟨fun hnil => nil_not_mem_words table (hnil ▸ hword), List.takeWhile_prefix _⟩

theorem float?_eq_some_iff :
    float? input = some tokens ↔ ∃ rest, input.takeWhile Text.isDigit ≠ [] ∧
      input.dropWhile Text.isDigit = '.' :: rest ∧ rest.takeWhile Text.isDigit ≠ [] ∧
      tokens = [⟨.numberFloat,
        input.takeWhile Text.isDigit ++ '.' :: rest.takeWhile Text.isDigit⟩] := by
  constructor
  · intro h
    simp only [float?, List.isEmpty_iff] at h
    split_ifs at h with hwhole
    split at h
    · rename_i rest hrest
      split_ifs at h with hplaces
      exact ⟨rest, hwhole, hrest, hplaces, (Option.some.inj h).symm⟩
    · contradiction
  · rintro ⟨rest, hwhole, hrest, hplaces, rfl⟩
    simp only [float?, List.isEmpty_iff, if_neg hwhole, hrest, if_neg hplaces]

theorem begin_float? (h : float? input = some tokens) : Begin tokens input := by
  obtain ⟨rest, -, hrest, -, rfl⟩ := float?_eq_some_iff.mp h
  rw [Begin, text_singleton]
  refine ⟨by simp, rest.dropWhile Text.isDigit, ?_⟩
  rw [List.append_assoc, List.cons_append, List.takeWhile_append_dropWhile, ← hrest,
    List.takeWhile_append_dropWhile]

theorem begin_operator? (h : operator? input = some tokens) : Begin tokens input := by
  unfold operator? at h
  split at h
  case h_1 | h_2 | h_3 =>
    obtain rfl := Option.some.inj h
    exact ⟨by simp [text_singleton], by simp [text_singleton]⟩
  case h_4 | h_5 =>
    split_ifs at h
    obtain rfl := Option.some.inj h
    exact ⟨by simp [text_singleton], by simp [text_singleton]⟩
  case h_6 => contradiction

theorem punctuation?_eq_some_iff :
    punctuation? input = some tokens ↔ ∃ c rest, input = c :: rest ∧ isPunctuation c = true ∧
      tokens = [⟨.punctuation, [c]⟩] := by
  cases input with
  | nil => simp [punctuation?]
  | cons c rest =>
    rw [punctuation?]
    constructor
    · intro h
      split_ifs at h with hc
      exact ⟨c, rest, rfl, hc, (Option.some.inj h).symm⟩
    · rintro ⟨_, _, hinput, hc, rfl⟩
      obtain ⟨rfl, rfl⟩ := List.cons.inj hinput
      exact if_pos hc

theorem begin_punctuation? (h : punctuation? input = some tokens) : Begin tokens input := by
  obtain ⟨c, rest, rfl, -, rfl⟩ := punctuation?_eq_some_iff.mp h
  exact ⟨by simp [text_singleton], by simp [text_singleton]⟩

theorem begin_escape? (h : escape? input = some tokens) : Begin tokens input := by
  unfold escape? at h
  split at h
  · split_ifs at h
    obtain rfl := Option.some.inj h
    exact ⟨by simp [text_singleton], by simp [text_singleton]⟩
  · contradiction

/-! ### All rules -/

/-- Every rule recognises a beginning of the text. -/
theorem begin_of_match? {rule : LexRule} (h : rule.match? before input = some tokens) :
    Begin tokens input := by
  cases rule with
  | whitespace => exact begin_run? h (List.takeWhile_prefix _)
  | comment => exact begin_comment? h
  | openString => exact begin_single? h
  | openCommand => exact begin_single? h
  | declaration => exact begin_declaration? h
  | words table => exact begin_words? h
  | float => exact begin_float? h
  | integer => exact begin_run? h (List.takeWhile_prefix _)
  | name =>
    obtain ⟨name, hname, rfl⟩ := Option.map_eq_some_iff.mp h
    obtain ⟨c, rest, rfl, -, rfl⟩ := name?_eq_some_iff.mp hname
    exact ⟨by simp [text_singleton], by simpa [text_singleton] using List.takeWhile_prefix _⟩
  | operator => exact begin_operator? h
  | punctuation => exact begin_punctuation? h
  | escape => exact begin_escape? h
  | openInterpolation => exact begin_single? h
  | closeString => exact begin_single? h
  | stringText => exact begin_run? h (List.takeWhile_prefix _)
  | closeCommand => exact begin_single? h
  | commandText => exact begin_run? h (List.takeWhile_prefix _)
  | closeInterpolation => exact begin_single? h

/-! ### Tokens of rules -/

/-- The kind of a rule's token. A declaration starts with a token of its kind. -/
def kind : LexRule → TokenKind
  | whitespace => .whitespace
  | comment => .commentSingle
  | openString | closeString | stringText => .stringDouble
  | openCommand | closeCommand | commandText => .stringBacktick
  | declaration => .keywordDeclaration
  | words table => table.kind
  | float => .numberFloat
  | integer => .numberInteger
  | name => .plainName
  | operator => .operator
  | punctuation => .punctuation
  | escape => .stringEscape
  | openInterpolation | closeInterpolation => .stringInterpol

theorem kind_ne_error (rule : LexRule) : rule.kind ≠ .error := by
  cases rule with
  | words table => cases table <;> decide
  | _ => decide

/-- Every rule but that for declarations recognises a single token. -/
theorem exists_single_of_match? {rule : LexRule} (hrule : rule ≠ .declaration)
    (h : rule.match? before input = some tokens) :
    ∃ value, tokens = [⟨rule.kind, value⟩] := by
  cases rule with
  | declaration => exact absurd rfl hrule
  | whitespace | integer | stringText | commandText => exact ⟨_, (run?_eq_some_iff.mp h).2⟩
  | openString | openCommand | openInterpolation | closeString | closeCommand
  | closeInterpolation => exact ⟨_, (single?_eq_some_iff.mp h).2⟩
  | name =>
    obtain ⟨value, -, rfl⟩ := Option.map_eq_some_iff.mp h
    exact ⟨value, rfl⟩
  | words table => exact ⟨_, (words?_eq_some_iff.mp h).2.2⟩
  | float =>
    obtain ⟨rest, -, -, -, rfl⟩ := float?_eq_some_iff.mp h
    exact ⟨_, rfl⟩
  | comment =>
    obtain ⟨rest, -, rfl⟩ := comment?_eq_some_iff.mp h
    exact ⟨_, rfl⟩
  | operator =>
    simp only [match?, operator?.eq_def] at h
    split at h
    case h_1 | h_2 | h_3 => exact ⟨_, (Option.some.inj h).symm⟩
    case h_4 | h_5 =>
      split_ifs at h
      exact ⟨_, (Option.some.inj h).symm⟩
    case h_6 => contradiction
  | punctuation =>
    obtain ⟨c, rest, -, -, rfl⟩ := punctuation?_eq_some_iff.mp h
    exact ⟨_, rfl⟩
  | escape =>
    simp only [match?, escape?.eq_def] at h
    split at h
    · split_ifs at h
      exact ⟨_, (Option.some.inj h).symm⟩
    · contradiction

/-- The tokens that a rule recognises are neither empty nor errors. -/
theorem ne_nil_and_ne_error_of_match? {rule : LexRule}
    (h : rule.match? before input = some tokens) :
    ∀ t ∈ tokens, t.value ≠ [] ∧ t.kind ≠ .error := by
  by_cases hrule : rule = .declaration
  · subst hrule
    obtain ⟨rest, name, -, hgap, hname, rfl⟩ := declaration?_eq_some_iff.mp h
    obtain ⟨c, _, -, -, rfl⟩ := name?_eq_some_iff.mp hname
    simpa using hgap
  · obtain ⟨value, rfl⟩ := exists_single_of_match? hrule h
    have hne := (begin_of_match? h).1
    rw [Token.text_singleton] at hne
    simpa using ⟨hne, kind_ne_error rule⟩

/-! ### The character in front -/

/-- The character in front matters to a rule only as a word character. -/
theorem match?_congr {before' : Option Char}
    (h : before.any Text.isWord = before'.any Text.isWord) (rule : LexRule) (input : Text) :
    rule.match? before input = rule.match? before' input := by
  cases rule with
  | words table => simp only [match?, words?, h]
  | _ => rfl

end LexRule

namespace Lexer

open Token

variable {stack next : LexStack} {before : Option Char} {c : Char} {rest : Text}
  {tokens : List Token}

/-- Rules are tried alike where each of them recognises the same. -/
theorem firstMatch?_congr {rules : List LexRule} {before' : Option Char} {a b : Text}
    (h : ∀ rule ∈ rules, rule.match? before a = rule.match? before' b) :
    firstMatch? rules before a = firstMatch? rules before' b := by
  induction rules with
  | nil => rfl
  | cons rule rules ih =>
    obtain ⟨hrule, hrules⟩ := List.forall_mem_cons.mp h
    have hrest := ih hrules
    simp only [firstMatch?] at hrest ⊢
    rw [List.findSome?_cons, List.findSome?_cons, hrule, hrest]

theorem firstMatch?_eq_some {rules : List LexRule} {rule : LexRule} {input : Text}
    (h : firstMatch? rules before input = some (rule, tokens)) :
    rule ∈ rules ∧ rule.match? before input = some tokens := by
  obtain ⟨found, hmem, hfound⟩ := List.exists_of_findSome?_eq_some h
  obtain ⟨_, hmatch, hpair⟩ := Option.map_eq_some_iff.mp hfound
  obtain ⟨rfl, rfl⟩ := Prod.mk.inj hpair
  exact ⟨hmem, hmatch⟩

/-- Where some rule recognises something, there is a first such rule. -/
theorem firstMatch?_ne_none {rules : List LexRule} {rule : LexRule} {input : Text}
    (hrule : rule ∈ rules) (h : rule.match? before input ≠ none) :
    firstMatch? rules before input ≠ none := by
  intro hnone
  exact h (Option.map_eq_none_iff.mp (List.findSome?_eq_none_iff.mp hnone rule hrule))

/-- The first rule that recognises something gives the step. -/
theorem step_of_firstMatch? {rule : LexRule}
    (h : firstMatch? stack.top.rules before (c :: rest) = some (rule, tokens)) :
    step stack before c rest = (tokens, stack.move rule.move) := by
  rw [step, h]

/-- The tokens of a step stand for a beginning of the text. -/
theorem begin_step (stack : LexStack) (before : Option Char) (c : Char) (rest : Text) :
    Begin (step stack before c rest).1 (c :: rest) := by
  rw [step]
  split
  · rename_i rule tokens hfirst
    exact LexRule.begin_of_match? (firstMatch?_eq_some hfirst).2
  · split_ifs with hfeed
    · exact ⟨by simp [text_singleton], by simp [text_singleton, hfeed]⟩
    · exact ⟨by simp [text_singleton], by simp [text_singleton]⟩

theorem begin_of_step (h : step stack before c rest = (tokens, next)) :
    Begin tokens (c :: rest) := by
  have hbegin := begin_step stack before c rest
  rwa [h] at hbegin

/-- No token of a step is empty. -/
theorem ne_nil_of_step (h : step stack before c rest = (tokens, next)) :
    ∀ t ∈ tokens, t.value ≠ [] := by
  rw [step] at h
  split at h
  · rename_i rule tokens hfirst
    obtain ⟨rfl, -⟩ := Prod.mk.inj h
    exact fun t ht =>
      (LexRule.ne_nil_and_ne_error_of_match? (firstMatch?_eq_some hfirst).2 t ht).1
  · split_ifs at h
    · obtain ⟨rfl, -⟩ := Prod.mk.inj h
      simp
    · obtain ⟨rfl, -⟩ := Prod.mk.inj h
      simp

/-- Lexing continues behind the tokens of a step, with their last character in front. -/
theorem tokensFrom_of_step {after : Text} (h : step stack before c rest = (tokens, next))
    (hafter : c :: rest = Token.text tokens ++ after) :
    tokensFrom stack before (c :: rest) =
      tokens ++ tokensFrom next (Token.text tokens).getLast? after := by
  have hne : Token.text tokens ≠ [] := (begin_of_step h).1
  obtain ⟨n, hlength⟩ : ∃ n, (Token.text tokens).length = n + 1 :=
    Nat.exists_eq_succ_of_ne_zero fun hzero => hne (List.length_eq_zero_iff.mp hzero)
  have htake : (c :: rest).take (n + 1) = Token.text tokens := by
    rw [hafter, ← hlength, List.take_left]
  have hdrop : rest.drop n = after := by
    rw [← List.drop_succ_cons (a := c), hafter, ← hlength, List.drop_left]
  rw [tokensFrom, stepsFrom]
  simp only [h, hlength, htake, Nat.add_sub_cancel, hdrop, List.flatMap_cons]
  rfl

/-- The character in front of a text matters only as a word character. -/
theorem tokensFrom_congr {before' : Option Char}
    (h : before.any Text.isWord = before'.any Text.isWord) (stack : LexStack) (input : Text) :
    tokensFrom stack before input = tokensFrom stack before' input := by
  cases input with
  | nil => rw [tokensFrom, tokensFrom, stepsFrom, stepsFrom]
  | cons c rest =>
    have hfirst : firstMatch? stack.top.rules before (c :: rest) =
        firstMatch? stack.top.rules before' (c :: rest) :=
      firstMatch?_congr fun rule _ => LexRule.match?_congr h rule _
    have hstep : step stack before c rest = step stack before' c rest := by
      rw [step, step, hfirst]
    rw [tokensFrom, tokensFrom, stepsFrom, stepsFrom]
    simp only [hstep]

end Lexer
end AmberTools
