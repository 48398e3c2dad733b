import AmberTools.Proofs.Indent.Roles
import AmberTools.Proofs.Token.First

/-!
# Roles of lines by their tokens

The role of a line is read off its characters, without lexing it. It is nevertheless the one that
its tokens tell, white space aside. The first token stands right where the line starts, so that no
word character is in front of it and it is a keyword if and only if the first word is one. A closing
brace at the start is a token of its own, and what follows it is lexed like a text of its own.

## Main definitions

* `Token.OpensBlock`: tokens that start with an opening brace or an opener word.
* `Token.EndsBlock`: a closing brace alone, but for a comment.
* `Token.StartsClosing`: tokens that start with a closing bracket.

## Main results

* `Indent.startsBlock_iff`, `Indent.isDanglingCloser_iff`, `Indent.startsClosing_iff`: what is read
  off a line is told by its tokens.
* `Indent.role_iff_tokens`: a line and its tokens have the same role.
-/

namespace AmberTools

namespace Token

/-- The token of an opening brace, or a keyword that is an opener word. -/
def IsOpener (t : Token) : Prop :=
  t = ⟨.punctuation, ['\x7b']⟩ ∨
    (t.kind = .keyword ∨ t.kind = .keywordDeclaration) ∧ t.value ∈ Indent.openerWords

/-- Tokens that start with an opening brace or with an opener word. -/
def OpensBlock (tokens : List Token) : Prop := ∃ t, tokens.head? = some t ∧ t.IsOpener

/-- A closing brace alone, but for a comment. -/
def EndsBlock (tokens : List Token) : Prop :=
  tokens = [⟨.punctuation, ['\x7d']⟩] ∨
    ∃ comment, tokens = [⟨.punctuation, ['\x7d']⟩, ⟨.commentSingle, comment⟩]

/-- Tokens that start with a closing bracket. -/
def StartsClosing (tokens : List Token) : Prop :=
  ∃ c ∈ Indent.closingBrackets, tokens.head? = some ⟨.punctuation, [c]⟩

theorem not_opensBlock_of_endsBlock {tokens : List Token} (h : EndsBlock tokens) :
    ¬ OpensBlock tokens := by
  rintro ⟨t, ht, hopener⟩
  have hbrace : t = ⟨.punctuation, ['\x7d']⟩ := by
    rcases h with rfl | ⟨comment, rfl⟩ <;> exact (Option.some.inj ht).symm
  subst hbrace
  rcases hopener with heq | ⟨hkind | hkind, -⟩ <;> contradiction

end Token

namespace Indent

open Lexer Token

variable {line text : Text} {c : Char} {rest : Text}

theorem mem_keywords_of_mem_openerWords {word : Text} (h : word ∈ openerWords) :
    word ∈ WordTable.keywords.words := by
  have hall : ∀ w ∈ openerWords, w ∈ WordTable.keywords.words := by decide
  exact hall word h

/-- A text whose first token is a punctuation character starts with it. -/
theorem eq_of_head?_punctuation {d : Char} (hblank : Text.isBlank c = false)
    (h : (significant (tokens (c :: rest))).head? = some ⟨.punctuation, [d]⟩) : c = d := by
  obtain ⟨more, hmatch⟩ :=
    match?_of_head?_significant hblank h .punctuation (by decide) rfl
  rw [LexRule.match?, LexRule.punctuation?_eq_some_iff] at hmatch
  obtain ⟨_, _, hinput, -, htokens⟩ := hmatch
  obtain ⟨rfl, -⟩ := List.cons.inj hinput
  simpa using (Token.mk.inj (List.cons.inj htokens).1).2.symm

/-! ### Blocks -/

theorem startsBlock_iff : startsBlock line = true ↔ OpensBlock (significant (tokens line)) := by
  rw [(tokens_trimLeft line).1, startsBlock]
  cases htrim : Text.trimLeft line with
  | nil => simp [tokens_nil, significant, OpensBlock]
  | cons c rest =>
    have hblank := Text.isBlank_of_trimLeft htrim
    simp only [Bool.or_eq_true, beq_iff_eq, List.contains_iff_mem]
    constructor
    · rintro (rfl | hword)
      · exact ⟨⟨.punctuation, ['\x7b']⟩, by rw [tokens_bracket (by decide)]; rfl, .inl rfl⟩
      · obtain ⟨t, ht, hkind, hvalue⟩ :=
          exists_head?_significant_of_keyword (mem_keywords_of_mem_openerWords hword)
        exact ⟨t, ht, .inr ⟨hkind, hvalue ▸ hword⟩⟩
    · rintro ⟨t, ht, rfl | ⟨hkind | hkind, hvalue⟩⟩
      · exact .inl (eq_of_head?_punctuation hblank ht)
      · obtain ⟨more, hmatch⟩ :=
          match?_of_head?_significant hblank ht (.words .keywords) (by decide) hkind
        rw [LexRule.match?, LexRule.words?_eq_some_iff] at hmatch
        obtain ⟨rfl, -⟩ := List.cons.inj hmatch.2.2
        exact .inr hvalue
      · obtain ⟨more, hmatch⟩ :=
          match?_of_head?_significant hblank ht .declaration (by decide) hkind
        obtain ⟨-, hword⟩ := LexRule.head?_of_declaration hmatch
        exact .inr (hword ▸ by decide)

/-! ### Ends of blocks -/

/-- Within a line, a comment takes in all that follows. -/
theorem isLastComment_iff (h : '\n' ∉ text) :
    isLastComment (Text.trimLeft text) = true ↔
      ∃ comment, significant (tokens text) = [⟨.commentSingle, comment⟩] := by
  have htrimmed : '\n' ∉ Text.trimLeft text := Text.notMem_trimLeft h
  rw [(tokens_trimLeft text).1]
  constructor
  · intro hcomment
    unfold isLastComment at hcomment
    split at hcomment
    · rename_i rest htrim
      rw [htrim, List.mem_cons, not_or, List.mem_cons, not_or] at htrimmed
      exact ⟨_, by rw [htrim, tokens_comment htrimmed.2.2]; rfl⟩
    · contradiction
  · rintro ⟨comment, htokens⟩
    cases htrim : Text.trimLeft text with
    | nil =>
      rw [htrim] at htokens
      simp [tokens_nil, significant] at htokens
    | cons c rest =>
      rw [htrim] at htokens htrimmed
      have hhead : (significant (tokens (c :: rest))).head? = some ⟨.commentSingle, comment⟩ := by
        rw [htokens]
        rfl
      obtain ⟨more, hmatch⟩ := match?_of_head?_significant (Text.isBlank_of_trimLeft htrim) hhead
        .comment (by decide) rfl
      obtain ⟨rest', hinput, -⟩ := LexRule.comment?_eq_some_iff.mp hmatch
      rw [hinput, List.mem_cons, not_or, List.mem_cons, not_or] at htrimmed
      rw [hinput, isLastComment]
      have hnone : rest'.dropWhile (· != '\n') = [] :=
        List.dropWhile_eq_nil_iff.mpr (Text.bne_of_notMem htrimmed.2.2)
      simp [hnone]

theorem isDanglingCloser_iff (h : '\n' ∉ line) :
    isDanglingCloser line = true ↔ EndsBlock (significant (tokens line)) := by
  rw [(tokens_trimLeft line).1]
  unfold isDanglingCloser
  split
  · rename_i rest htrim
    have hrest : '\n' ∉ rest := by
      intro hmem
      refine h ((List.dropWhile_sublist Text.isBlank).subset ?_)
      rw [← Text.trimLeft, htrim]
      exact List.mem_cons_of_mem _ hmem
    have htokens : significant (tokens ('\x7d' :: rest)) =
        ⟨.punctuation, ['\x7d']⟩ :: significant (tokens rest) := by
      rw [tokens_bracket (by decide)]
      rfl
    rw [htrim, htokens, Bool.or_eq_true, Text.allBlank_iff_trimLeft, ← significant_eq_nil_iff,
      isLastComment_iff hrest, EndsBlock]
    simp only [List.cons.injEq, true_and]
  · rename_i hother
    constructor
    · intro hfalse
      contradiction
    · intro hends
      have hhead : (significant (tokens (Text.trimLeft line))).head? =
          some ⟨.punctuation, ['\x7d']⟩ := by
        rcases hends with hends | ⟨comment, hends⟩ <;> rw [hends] <;> rfl
      cases htrim : Text.trimLeft line with
      | nil =>
        rw [htrim] at hhead
        simp [tokens_nil, significant] at hhead
      | cons c rest =>
        rw [htrim] at hhead
        obtain rfl := eq_of_head?_punctuation (Text.isBlank_of_trimLeft htrim) hhead
        exact absurd htrim (hother rest)

theorem startsClosing_iff :
    startsClosing line = true ↔ StartsClosing (significant (tokens line)) := by
  rw [(tokens_trimLeft line).1, startsClosing, Text.firstSignificant?]
  cases htrim : Text.trimLeft line with
  | nil => simp [tokens_nil, significant, StartsClosing]
  | cons c rest =>
    rw [List.head?_cons]
    constructor
    · intro hc
      have hmem : c ∈ closingBrackets := by simpa using hc
      refine ⟨c, hmem, ?_⟩
      rw [tokens_bracket (List.mem_cons_of_mem _ hmem)]
      rfl
    · rintro ⟨d, hd, hhead⟩
      obtain rfl := eq_of_head?_punctuation (Text.isBlank_of_trimLeft htrim) hhead
      simpa using hd

/-- The role of a line is told by its tokens other than white space: it is blank if there are none,
it starts a block if the first one is an opening brace or an opener word as a keyword, it ends one
if they are a closing brace with at most a comment behind it, and it is plain otherwise. It starts
with a closing bracket if the first token is one. -/
theorem role_iff_tokens (h : '\n' ∉ line) :
    let found := significant (tokens line)
    (Role.ofLine line = .blank ↔ found = []) ∧
      (Role.ofLine line = .opener ↔ OpensBlock found) ∧
      (Role.ofLine line = .closer ↔ EndsBlock found) ∧
      (Role.ofLine line = .plain ↔ found ≠ [] ∧ ¬ OpensBlock found ∧ ¬ EndsBlock found) ∧
      (startsClosing line = true ↔ StartsClosing found) := by
  intro found
  have hblank : Text.allBlank line = true ↔ found = [] :=
    Text.allBlank_iff_trimLeft.trans significant_eq_nil_iff.symm
  have hopens : startsBlock line = true ↔ OpensBlock found := startsBlock_iff
  have hends : isDanglingCloser line = true ↔ EndsBlock found := isDanglingCloser_iff h
  refine and_assoc.mp (and_assoc.mp (and_assoc.mp ⟨?_, startsClosing_iff⟩))
  by_cases hnil : found = []
  · have hrole : Role.ofLine line = .blank := by rw [Role.ofLine, if_pos (hblank.mpr hnil)]
    simp [hrole, hnil, OpensBlock, EndsBlock]
  have hfull : ¬ Text.allBlank line = true := hnil ∘ hblank.mp
  by_cases hopen : OpensBlock found
  · have hrole : Role.ofLine line = .opener := by
      rw [Role.ofLine, if_neg hfull, if_pos (hopens.mpr hopen)]
    have hend : ¬ EndsBlock found := fun hend => not_opensBlock_of_endsBlock hend hopen
    simp [hrole, hnil, hopen, hend]
  have hstays : ¬ startsBlock line = true := hopen ∘ hopens.mp
  by_cases hend : EndsBlock found
  · have hrole : Role.ofLine line = .closer := by
      rw [Role.ofLine, if_neg hfull, if_neg hstays, if_pos (hends.mpr hend)]
    simp [hrole, hnil, hopen, hend]
  · have hrole : Role.ofLine line = .plain := by
      rw [Role.ofLine, if_neg hfull, if_neg hstays, if_neg (hend ∘ hends.mp)]
    simp [hrole, hnil, hopen, hend]

/-- A closing brace with blank characters outside ASCII around it, and a comment with an opener word
and a brace in it. -/
theorem role_iff_tokens_commentedCloser :
    let line := "\t\x7d\u3000// if x \x7b".toList
    '\n' ∉ line ∧ Role.ofLine line = .closer ∧ EndsBlock (significant (tokens line)) ∧
      ¬ OpensBlock (significant (tokens line)) ∧ StartsClosing (significant (tokens line)) := by
  intro line
  have hline : '\n' ∉ line := by decide +kernel
  have hrole : Role.ofLine line = .closer := by decide +kernel
  obtain ⟨-, hopener, hcloser, -, hclosing⟩ := role_iff_tokens hline
  refine ⟨hline, hrole, hcloser.mp hrole, fun hopens => ?_, hclosing.mp (by decide +kernel)⟩
  exact absurd (hopener.mpr hopens) (by rw [hrole]; decide)

end Indent
end AmberTools
