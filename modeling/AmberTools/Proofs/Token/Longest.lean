import AmberTools.Proofs.Token.Candidates
import AmberTools.Proofs.Token.Points

/-!
# The longest match

The lexer takes the first rule that recognises something and does not compare lengths. The order of
the rules makes this the longest match all the same. At each class of characters a state has few
candidates, and of any two of them the one in front recognises at least as much: a comment as much
as an operator, a declaration as much as a word, a word of a table as much as a name, a number with
a point as much as one without, an operator as much as a point. Words are the delicate case, as
the rule for a table reads a whole word or nothing, and so does the one for names.

## Main definitions

* `LexRule.Outlasts`: a rule that recognises at least as much as another one.
* `LexRule.ReadsWord`: a rule that recognises whole words only.

## Main results

* `LexRule.declaration_outlasts`, `LexRule.comment_outlasts`: the pairs of rules that overlap.
* `LexState.pairwise_candidates`: candidates outlast those behind them.
* `Lexer.first_rule_is_longest`: the lexer uses a longest match.
-/

namespace AmberTools

namespace LexRule

open Token

/-- Wherever both rules recognise something, the first one recognises at least as much. -/
def Outlasts (rule other : LexRule) : Prop :=
  ∀ ⦃before : Option Char⦄ ⦃input : Text⦄ ⦃tokens tokens' : List Token⦄,
    rule.match? before input = some tokens → other.match? before input = some tokens' →
      (text tokens').length ≤ (text tokens).length

/-- A rule that recognises whole words and nothing else. -/
def ReadsWord (rule : LexRule) : Prop :=
  ∀ ⦃before : Option Char⦄ ⦃input : Text⦄ ⦃tokens : List Token⦄,
    rule.match? before input = some tokens → text tokens = input.takeWhile Text.isWord

variable {rule other : LexRule}

theorem readsWord_words (table : WordTable) : (words table).ReadsWord := by
  intro before input tokens h
  obtain ⟨-, -, rfl⟩ := words?_eq_some_iff.mp h
  rw [text_singleton]

theorem readsWord_name : name.ReadsWord := by
  intro before input tokens h
  obtain ⟨value, hvalue, rfl⟩ := Option.map_eq_some_iff.mp h
  obtain ⟨c, rest, rfl, hc, rfl⟩ := name?_eq_some_iff.mp hvalue
  rw [text_singleton, List.takeWhile_cons_of_pos (Text.isWord_of_isNameStart hc)]

/-! ### Pairs of rules -/

theorem ReadsWord.outlasts (h : rule.ReadsWord) (h' : other.ReadsWord) : rule.Outlasts other := by
  intro before input tokens tokens' hmatch hother
  rw [h hmatch, h' hother]

/-- A declaration goes on behind the word with which it starts. -/
theorem declaration_outlasts (h : other.ReadsWord) : declaration.Outlasts other := by
  intro before input tokens tokens' hmatch hother
  obtain ⟨hhead, hword⟩ := head?_of_declaration hmatch
  obtain ⟨more, rfl⟩ := List.head?_eq_some_iff.mp hhead
  rw [h hother, hword, ← List.singleton_append, text_append, text_singleton, List.length_append]
  exact Nat.le_add_right _ _

theorem float_outlasts : float.Outlasts integer := by
  intro before input tokens tokens' hmatch hother
  obtain ⟨rest, -, -, -, rfl⟩ := float?_eq_some_iff.mp hmatch
  obtain ⟨-, rfl⟩ := run?_eq_some_iff.mp hother
  rw [text_singleton, text_singleton, List.length_append]
  exact Nat.le_add_right _ _

/-- Where a comment starts, the operator there is a single slash. -/
theorem comment_outlasts : comment.Outlasts operator := by
  intro before input tokens tokens' hmatch hother
  obtain ⟨rest, rfl, rfl⟩ := comment?_eq_some_iff.mp hmatch
  obtain rfl : [⟨.operator, ['/']⟩] = tokens' := Option.some.inj hother
  rw [text_singleton, text_singleton]
  exact Nat.le_add_left 1 _

/-- No rule recognises less than one character. -/
theorem outlasts_punctuation (rule : LexRule) : rule.Outlasts punctuation := by
  intro before input tokens tokens' hmatch hother
  obtain ⟨c, rest, -, -, rfl⟩ := punctuation?_eq_some_iff.mp hother
  rw [text_singleton]
  exact List.length_pos_iff.mpr (begin_of_match? hmatch).1

/-! ### Candidates in order -/

theorem pairwise_programRules (k : LexClass) :
    (programRules.filter (·.admits k)).Pairwise Outlasts := by
  cases k with
  | letter =>
    have hwords : ∀ rule ∈ [words .keywords, words .types, words .constants, words .builtins, name],
        rule.ReadsWord := by
      simp only [List.forall_mem_cons, List.not_mem_nil, false_imp_iff, implies_true, and_true]
      exact ⟨readsWord_words _, readsWord_words _, readsWord_words _, readsWord_words _,
        readsWord_name⟩
    exact .cons (fun rule h => declaration_outlasts (hwords rule h))
      (List.pairwise_of_forall_mem_list fun rule h other h' =>
        (hwords rule h).outlasts (hwords other h'))
  | digit => exact List.pairwise_pair.mpr float_outlasts
  | slash => exact List.pairwise_pair.mpr comment_outlasts
  | point => exact List.pairwise_pair.mpr (outlasts_punctuation _)
  | blank | quote | dollar | openBrace | closeBrace | sign | bracket =>
    exact List.pairwise_singleton _ _
  | backslash | other => exact .nil

end LexRule

/-- Of two candidates the one in front outlasts the other. -/
theorem LexState.pairwise_candidates (state : LexState) (k : LexClass) :
    (state.candidates k).Pairwise LexRule.Outlasts := by
  cases state with
  | root => exact LexRule.pairwise_programRules k
  | string | command => cases k <;> exact List.pairwise_singleton _ _
  | interpolation =>
    have hprogram := LexRule.pairwise_programRules k
    cases k with
    | closeBrace => exact List.pairwise_pair.mpr (LexRule.outlasts_punctuation _)
    | _ => exact hprogram

namespace Lexer

open Token

/-- The first rule that recognises something recognises at least as much as any other one. -/
theorem length_le_of_firstMatch? {state : LexState} {before : Option Char} {input : Text}
    {rule other : LexRule} {tokens tokens' : List Token}
    (hfirst : firstMatch? state.rules before input = some (rule, tokens))
    (hother : other ∈ state.rules) (hmatch : other.match? before input = some tokens') :
    (Token.text tokens').length ≤ (Token.text tokens).length := by
  cases input with
  | nil =>
    rw [LexRule.match?_nil] at hmatch
    contradiction
  | cons c rest =>
    have hcandidate : other ∈ state.candidates (.ofChar c) :=
      List.mem_filter.mpr ⟨hother, LexRule.admits_of_match? hmatch⟩
    have hpairwise := state.pairwise_candidates (.ofChar c)
    rw [← firstMatch?_candidates] at hfirst
    obtain ⟨earlier, later, hsplit, hrule, hearlier⟩ := firstMatch?_eq_some_iff.mp hfirst
    rw [hsplit] at hcandidate hpairwise
    rcases List.mem_append.mp hcandidate with hfront | hback
    · rw [hearlier other hfront] at hmatch
      contradiction
    · rcases List.mem_cons.mp hback with rfl | hbehind
      · rw [Option.some.inj (hrule.symm.trans hmatch)]
      · exact List.rel_of_pairwise_cons (List.pairwise_append.mp hpairwise).2.1 hbehind hrule hmatch

/-- Where some rule of the state recognises something, the lexer takes the first such rule in the
order of the state, and what this rule recognises is at least as long as what any other rule of the
state recognises there. -/
theorem first_rule_is_longest {text : Text} {p : Point} {candidate : LexRule} {found : List Token}
    (hcandidate : candidate ∈ p.stack.top.rules)
    (hfound : candidate.match? (text.take p.position).getLast? (text.drop p.position) =
      some found) :
    ∃ earlier rule later tokens,
      let before := (text.take p.position).getLast?
      let input := text.drop p.position
      p.stack.top.rules = earlier ++ rule :: later ∧
        (∀ other ∈ earlier, other.match? before input = none) ∧
        rule.match? before input = some tokens ∧
        turn? text p = some (withPositions p.position tokens,
          ⟨p.position + (Token.text tokens).length, p.stack.move rule.move⟩) ∧
        ∀ other ∈ p.stack.top.rules, ∀ tokens', other.match? before input = some tokens' →
          (Token.text tokens').length ≤ (Token.text tokens).length := by
  obtain ⟨⟨rule, tokens⟩, hfirst⟩ := Option.ne_none_iff_exists'.mp
    (firstMatch?_ne_none hcandidate (hfound ▸ Option.some_ne_none found))
  obtain ⟨earlier, later, hsplit, hrule, hearlier⟩ := firstMatch?_eq_some_iff.mp hfirst
  exact ⟨earlier, rule, later, tokens, hsplit, hearlier, hrule, turn?_of_firstMatch? hfirst,
    fun other hother tokens' hmatch => length_le_of_firstMatch? hfirst hother hmatch⟩

/-- In front of a function's name, the word of a declaration is a keyword and a name as well. -/
theorem first_rule_is_longest_declaration :
    let text := "fun failed_1()".toList
    let p := Point.start
    LexRule.words .keywords ∈ p.stack.top.rules ∧
      (LexRule.words .keywords).match? (text.take p.position).getLast? (text.drop p.position) =
        some [⟨.keyword, "fun".toList⟩] ∧
      ∃ earlier rule later tokens,
        p.stack.top.rules = earlier ++ rule :: later ∧
          (∀ other ∈ earlier, other.match? none text = none) ∧
          rule.match? none text = some tokens ∧
          turn? text p = some (withPositions 0 tokens,
            ⟨0 + (Token.text tokens).length, p.stack.move rule.move⟩) ∧
          ∀ other ∈ p.stack.top.rules, ∀ tokens', other.match? none text = some tokens' →
            (Token.text tokens').length ≤ (Token.text tokens).length := by
  intro text p
  have hcandidate : LexRule.words .keywords ∈ p.stack.top.rules := by decide
  have hfound : (LexRule.words .keywords).match? (text.take p.position).getLast?
      (text.drop p.position) = some [⟨.keyword, "fun".toList⟩] := by decide +kernel
  exact ⟨hcandidate, hfound, first_rule_is_longest hcandidate hfound⟩

end Lexer
end AmberTools
