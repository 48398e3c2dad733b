import AmberTools.Proofs.Token.Shifted

/-!
# Tokens of shifted texts

Lexing two shifted texts goes through the same stacks by the same rules. A rule that looks no
further than the end of the line recognises the same in both. White space and the gap of a
declaration take the difference of the texts in, and so does the text of a literal, where it shows.
So the tokens other than white space are the same in both texts if and only if every line that
starts inside a literal stays where it is.

## Main definitions

* `Token.significant`: the tokens other than white space.
* `Token.literalFeeds`: whether the line feeds of tokens stand in literals.
* `Token.Alike`: tokens of shifted texts.
* `Token.Parallel`: shifted texts that begin with alike tokens.

## Main results

* `LexRule.exists_match?_of_shifted`: what a rule recognises in shifted texts.
* `Lexer.step_of_shifted`: a step of the lexer in shifted texts.
* `Lexer.alike_of_shifted`: the tokens of shifted texts are alike.
* `Lexer.tokens_feed`: a line feed in front of a text.
-/

namespace AmberTools

namespace Token

/-- The tokens other than white space. -/
def significant (tokens : List Token) : List Token := tokens.filter (·.kind != .whitespace)

/-- A delimiter or the text of a string or command. -/
def isLiteral (t : Token) : Bool := t.kind == .stringDouble || t.kind == .stringBacktick

/-- For each line feed of the text that tokens stand for, whether it stands in a literal. -/
def literalFeeds (tokens : List Token) : List Bool :=
  tokens.flatMap fun t => List.replicate (t.value.count '\n') t.isLiteral

/-- Where a first list says that it matters, a second one says that the lines stay. -/
def Kept (inside same : List Bool) : Prop := ∀ p ∈ inside.zip same, p.1 = true → p.2 = true

/-- Tokens that stand for shifted texts. Those other than white space are the same if and only if
every line that starts inside a literal stays where it is. -/
structure Alike (same : List Bool) (tokens tokens' : List Token) : Prop where
  shifted : Shifted same (text tokens) (text tokens')
  length_significant : (significant tokens').length = (significant tokens).length
  significant_eq_iff : significant tokens' = significant tokens ↔ Kept (literalFeeds tokens) same

/-- Texts that begin with alike tokens and are shifted behind them. -/
def Parallel (same : List Bool) (u v : Text) (tokens tokens' : List Token) : Prop :=
  ∃ front back after after', same = front ++ back ∧ u = text tokens ++ after ∧
    v = text tokens' ++ after' ∧ Alike front tokens tokens' ∧ Shifted back after after'

variable {same front back : List Bool} {tokens tokens' more more' : List Token} {u v : Text}

/-! ### Line feeds in literals -/

theorem significant_append (a b : List Token) :
    significant (a ++ b) = significant a ++ significant b := List.filter_append ..

theorem literalFeeds_append (a b : List Token) :
    literalFeeds (a ++ b) = literalFeeds a ++ literalFeeds b := List.flatMap_append

theorem literalFeeds_singleton (t : Token) :
    literalFeeds [t] = List.replicate (t.value.count '\n') t.isLiteral :=
  List.flatMap_singleton ..

theorem length_literalFeeds (tokens : List Token) :
    (literalFeeds tokens).length = (text tokens).count '\n' := by
  induction tokens with
  | nil => rfl
  | cons t tokens ih =>
    rw [← List.singleton_append, literalFeeds_append, text_append, List.length_append,
      List.count_append, ih, literalFeeds_singleton, text_singleton, List.length_replicate]

theorem kept_append {a b c d : List Bool} (h : a.length = b.length) :
    Kept (a ++ c) (b ++ d) ↔ Kept a b ∧ Kept c d := by
  rw [Kept, List.zip_append h, List.forall_mem_append]
  rfl

theorem kept_replicate_false (k : Nat) (same : List Bool) :
    Kept (List.replicate k false) same := by
  rintro ⟨inside, stays⟩ hmem hinside
  have hfalse := List.eq_of_mem_replicate (List.of_mem_zip hmem).1
  exact absurd (hinside.symm.trans hfalse) (by decide)

theorem kept_replicate_true (same : List Bool) :
    Kept (List.replicate same.length true) same ↔ ∀ stays ∈ same, stays = true := by
  induction same with
  | nil => simp [Kept]
  | cons stays same ih =>
    rw [Kept] at ih ⊢
    rw [List.length_cons, List.replicate_succ, List.zip_cons_cons, List.forall_mem_cons,
      List.forall_mem_cons, ih]
    simp

/-- Lines of which a second list says nothing are left aside, and so are further ones that stay. -/
theorem kept_append_replicate_true {inside same : List Bool} {k : Nat} :
    Kept inside (same ++ List.replicate k true) ↔
      ∀ (i : Nat) (stays : Bool), same[i]? = some stays → inside[i]? = some true →
        stays = true := by
  constructor
  · intro h i stays hstays hinside
    have hlength : i < same.length := (List.getElem?_eq_some_iff.mp hstays).1
    refine h (true, stays) (List.mem_of_getElem? (i := i) ?_) rfl
    rw [List.getElem?_zip_eq_some, List.getElem?_append_left hlength]
    exact ⟨hinside, hstays⟩
  · rintro h ⟨inside', stays⟩ hmem rfl
    obtain ⟨i, hi⟩ := List.getElem?_of_mem hmem
    obtain ⟨hinside, hstays⟩ := List.getElem?_zip_eq_some.mp hi
    by_cases hlength : i < same.length
    · rw [List.getElem?_append_left hlength] at hstays
      exact h i stays hstays hinside
    · rw [List.getElem?_append_right (by omega)] at hstays
      exact List.eq_of_mem_replicate (List.mem_of_getElem? hstays)

/-! ### Alike tokens -/

namespace Alike

theorem append (h : Alike front tokens tokens') (h' : Alike back more more') :
    Alike (front ++ back) (tokens ++ more) (tokens' ++ more') where
  shifted := by
    rw [text_append, text_append]
    exact h.shifted.append h'.shifted
  length_significant := by
    rw [significant_append, significant_append, List.length_append, List.length_append,
      h.length_significant, h'.length_significant]
  significant_eq_iff := by
    have hfeeds : (literalFeeds tokens).length = front.length := by
      rw [length_literalFeeds, h.shifted.count_feed]
    rw [significant_append, significant_append, literalFeeds_append, kept_append hfeeds,
      ← h.significant_eq_iff, ← h'.significant_eq_iff]
    constructor
    · intro heq
      exact List.append_inj heq h.length_significant
    · rintro ⟨hfront, hback⟩
      rw [hfront, hback]

/-- Tokens of a single line are alike. -/
theorem refl_of_line (h : '\n' ∉ text tokens) : Alike [] tokens tokens where
  shifted := .refl_of_line h
  length_significant := rfl
  significant_eq_iff := by simp [Kept]

theorem whitespace (h : Shifted same u v) : Alike same [⟨.whitespace, u⟩] [⟨.whitespace, v⟩] where
  shifted := by rwa [text_singleton, text_singleton]
  length_significant := rfl
  significant_eq_iff := by
    rw [literalFeeds_singleton]
    exact iff_of_true rfl (kept_replicate_false _ _)

theorem literal {kind : TokenKind} (hkind : kind = .stringDouble ∨ kind = .stringBacktick)
    (h : Shifted same u v) : Alike same [⟨kind, u⟩] [⟨kind, v⟩] where
  shifted := by rwa [text_singleton, text_singleton]
  length_significant := by
    rcases hkind with rfl | rfl <;> rfl
  significant_eq_iff := by
    have hsignificant (w : Text) : significant [⟨kind, w⟩] = [⟨kind, w⟩] := by
      rcases hkind with rfl | rfl <;> rfl
    have hliteral : isLiteral ⟨kind, u⟩ = true := by
      rcases hkind with rfl | rfl <;> rfl
    rw [hsignificant, hsignificant, literalFeeds_singleton, hliteral, h.count_feed,
      kept_replicate_true, ← h.eq_iff]
    simp

end Alike

/-- Tokens of a single line stand at the head of both texts if they stand at the head of one. -/
theorem parallel_of_line {after : Text} (hline : '\n' ∉ text tokens)
    (h : Shifted same (text tokens ++ after) v) :
    Parallel same (text tokens ++ after) v tokens tokens := by
  obtain ⟨after', rfl, hafter⟩ := h.of_append hline
  exact ⟨[], same, after, after', rfl, rfl, rfl, .refl_of_line hline, hafter⟩

end Token

/-! ### Rules -/

namespace LexRule

open Token

variable {same : List Bool} {u v : Text} {before : Option Char} {tokens : List Token}
  {rule : LexRule}

/-- Rules that do not look beyond the line recognise the same in shifted texts. -/
theorem match?_of_shifted (hrule : rule.crossesLines = false) (h : Shifted same u v)
    (hmatch : rule.match? before u = some tokens) :
    rule.match? before v = some tokens ∧ '\n' ∉ text tokens := by
  constructor
  · rw [← match?_firstLine hrule, ← h.firstLine_eq, match?_firstLine hrule, hmatch]
  · intro hmem
    exact Text.feed_not_mem_firstLine _ ((text_prefix_firstLine hrule hmatch).subset hmem)

/-- Runs of characters among which are all blank ones are recognised together in shifted texts. -/
theorem run?_of_shifted {kind : TokenKind} {p : Char → Bool}
    (hblank : ∀ c, Text.isBlank c = true → p c = true)
    (halike : ∀ {same u v}, Shifted same u v → Alike same [⟨kind, u⟩] [⟨kind, v⟩])
    (h : Shifted same u v) (hrun : run? kind (u.takeWhile p) = some tokens) :
    ∃ tokens', run? kind (v.takeWhile p) = some tokens' ∧ Parallel same u v tokens tokens' := by
  obtain ⟨hne, rfl⟩ := run?_eq_some_iff.mp hrun
  obtain ⟨front, back, hsame, hfront, hback⟩ := h.span hblank
  refine ⟨_, run?_eq_some_iff.mpr ⟨mt hfront.eq_nil_iff.mpr hne, rfl⟩, front, back, _, _, hsame,
    ?_, ?_, halike hfront, hback⟩
  · rw [text_singleton, List.takeWhile_append_dropWhile]
  · rw [text_singleton, List.takeWhile_append_dropWhile]

/-- Declarations are recognised together in shifted texts, and their gaps are alike. -/
theorem declaration?_of_shifted (h : Shifted same u v)
    (hdeclaration : declaration? u = some tokens) :
    ∃ tokens', declaration? v = some tokens' ∧ Parallel same u v tokens tokens' := by
  obtain ⟨rest, name, rfl, hgap, hname, rfl⟩ := declaration?_eq_some_iff.mp hdeclaration
  obtain ⟨rest', rfl, hrest⟩ :=
    Shifted.of_append (by decide : '\n' ∉ ['f', 'u', 'n']) h
  obtain ⟨front, back, rfl, hfront, hback⟩ := hrest.span fun _ hc => hc
  have hmatch : LexRule.name.match? none (rest.dropWhile Text.isBlank) =
      some [⟨.plainName, name⟩] := by
    rw [match?, hname, Option.map_some]
  obtain ⟨hmatch', hline⟩ := match?_of_shifted rfl hback hmatch
  rw [text_singleton] at hline
  have hname' : name? (rest'.dropWhile Text.isBlank) = some name := by
    obtain ⟨name', hname', heq⟩ := Option.map_eq_some_iff.mp hmatch'
    obtain rfl : name' = name := by simpa using heq
    exact hname'
  obtain ⟨after, hafter⟩ := prefix_of_name? hname
  rw [← hafter] at hback
  obtain ⟨after', hafter', hshifted⟩ := hback.of_append hline
  refine ⟨_, declaration?_eq_some_iff.mpr
    ⟨rest', name, rfl, mt hfront.eq_nil_iff.mpr hgap, hname', rfl⟩,
    front, back, after, after', rfl, ?_, ?_, ?_, hshifted⟩
  · simp [text, hafter]
  · simp [text, ← hafter']
  · have hfun : Alike [] [⟨.keywordDeclaration, ['f', 'u', 'n']⟩]
        [⟨.keywordDeclaration, ['f', 'u', 'n']⟩] := .refl_of_line (by decide)
    have hname : Alike [] [⟨.nameFunction, name⟩] [⟨.nameFunction, name⟩] :=
      .refl_of_line (by rwa [text_singleton])
    simpa using hfun.append ((Alike.whitespace hfront).append hname)

/-- What a rule recognises in a text, it recognises in a shifted text, too. -/
theorem exists_match?_of_shifted (h : Shifted same u v)
    (hmatch : rule.match? before u = some tokens) :
    ∃ tokens', rule.match? before v = some tokens' ∧ Parallel same u v tokens tokens' := by
  have hliteral (delimiter : Char) (hdelimiter : Text.isBlank delimiter = false) (c : Char)
      (hc : Text.isBlank c = true) : isLiteralText delimiter c = true := by
    have hne (d : Char) (hd : Text.isBlank d = false) : c ≠ d := by
      rintro rfl
      simp [hc] at hd
    simp [isLiteralText, hne _ hdelimiter, hne '\\' (by decide), hne '\x7b' (by decide)]
  by_cases hrule : rule.crossesLines = false
  · obtain ⟨hmatch', hline⟩ := match?_of_shifted hrule h hmatch
    obtain ⟨after, rfl⟩ := (begin_of_match? hmatch).2
    exact ⟨tokens, hmatch', parallel_of_line hline h⟩
  · cases rule with
    | whitespace => exact run?_of_shifted (fun _ hc => hc) .whitespace h hmatch
    | declaration => exact declaration?_of_shifted h hmatch
    | stringText => exact run?_of_shifted (hliteral _ (by decide)) (.literal (.inl rfl)) h hmatch
    | commandText => exact run?_of_shifted (hliteral _ (by decide)) (.literal (.inr rfl)) h hmatch
    | _ => exact absurd rfl hrule

theorem match?_eq_none_of_shifted (h : Shifted same u v) (hnone : rule.match? before u = none) :
    rule.match? before v = none := by
  rw [Option.eq_none_iff_forall_ne_some]
  intro tokens hmatch
  obtain ⟨tokens', hmatch', -⟩ := exists_match?_of_shifted h.symm hmatch
  rw [hnone] at hmatch'
  contradiction

end LexRule

/-! ### Steps and runs -/

namespace Lexer

open Token

variable {same : List Bool} {u v : Text} {before : Option Char} {c : Char}

/-- In shifted texts the same rule is the first to recognise something. -/
theorem firstMatch?_of_shifted {rules : List LexRule} {rule : LexRule} {tokens : List Token}
    (h : Shifted same u v) (hfirst : firstMatch? rules before u = some (rule, tokens)) :
    ∃ tokens', firstMatch? rules before v = some (rule, tokens') ∧
      Parallel same u v tokens tokens' := by
  induction rules with
  | nil => contradiction
  | cons first rules ih =>
    rw [firstMatch?, List.findSome?_cons] at hfirst ⊢
    cases hmatch : first.match? before u with
    | none =>
      rw [hmatch] at hfirst
      rw [LexRule.match?_eq_none_of_shifted h hmatch]
      exact ih hfirst
    | some found =>
      obtain ⟨found', hmatch', hparallel⟩ := LexRule.exists_match?_of_shifted h hmatch
      rw [hmatch] at hfirst
      obtain ⟨rfl, rfl⟩ := Prod.mk.inj (Option.some.inj hfirst)
      rw [hmatch']
      exact ⟨found', rfl, hparallel⟩

theorem firstMatch?_eq_none_of_shifted {rules : List LexRule} (h : Shifted same u v)
    (hnone : firstMatch? rules before u = none) : firstMatch? rules before v = none := by
  rw [Option.eq_none_iff_forall_ne_some]
  rintro ⟨rule, tokens⟩ hfirst
  obtain ⟨tokens', hfirst', -⟩ := firstMatch?_of_shifted h.symm hfirst
  rw [hnone] at hfirst'
  contradiction

/-- Every state has a rule that recognises a line feed. -/
theorem firstMatch?_feed_ne_none (state : LexState) (before : Option Char) (rest : Text) :
    firstMatch? state.rules before ('\n' :: rest) ≠ none := by
  have hblank : LexRule.whitespace.match? before ('\n' :: rest) ≠ none :=
    LexRule.run?_ne_none (by decide) _ rest
  have hstring : LexRule.stringText.match? before ('\n' :: rest) ≠ none :=
    LexRule.run?_ne_none (by decide) _ rest
  have hcommand : LexRule.commandText.match? before ('\n' :: rest) ≠ none :=
    LexRule.run?_ne_none (by decide) _ rest
  cases state with
  | root => exact firstMatch?_ne_none (by decide) hblank
  | string => exact firstMatch?_ne_none (by decide) hstring
  | command => exact firstMatch?_ne_none (by decide) hcommand
  | interpolation => exact firstMatch?_ne_none (by decide) hblank

/-- A step in shifted texts leads to the same stack by alike tokens. -/
theorem step_of_shifted (stack : LexStack) (before : Option Char)
    (h : Shifted same (c :: u) (c :: v)) :
    ∃ tokens tokens' next, step stack before c u = (tokens, next) ∧
      step stack before c v = (tokens', next) ∧
      Parallel same (c :: u) (c :: v) tokens tokens' := by
  cases hfirst : firstMatch? stack.top.rules before (c :: u) with
  | some found =>
    obtain ⟨rule, tokens⟩ := found
    obtain ⟨tokens', hfirst', hparallel⟩ := firstMatch?_of_shifted h hfirst
    exact ⟨tokens, tokens', stack.move rule.move, step_of_firstMatch? hfirst,
      step_of_firstMatch? hfirst', hparallel⟩
  | none =>
    have hfirst' := firstMatch?_eq_none_of_shifted h hfirst
    have hc : c ≠ '\n' := by
      rintro rfl
      exact firstMatch?_feed_ne_none _ _ _ hfirst
    have hline : '\n' ∉ text [⟨.error, [c]⟩] := by simpa [text_singleton] using hc.symm
    refine ⟨[⟨.error, [c]⟩], [⟨.error, [c]⟩], stack, ?_, ?_, parallel_of_line hline h⟩
    · rw [step, hfirst, if_neg hc]
    · rw [step, hfirst', if_neg hc]

/-- The tokens of shifted texts are alike. -/
theorem alike_of_shifted (h : Shifted same u v) (stack : LexStack) (before : Option Char) :
    Alike same (tokensFrom stack before u) (tokensFrom stack before v) := by
  induction hlength : u.length using Nat.strong_induction_on
    generalizing same u v stack before with
  | _ length ih =>
    cases u with
    | nil =>
      obtain rfl := h.eq_nil_iff.mp rfl
      cases h
      exact .refl_of_line (by simp [tokensFrom, stepsFrom, text])
    | cons c u =>
      obtain ⟨v, rfl⟩ : ∃ rest, v = c :: rest := by
        cases h with
        | char => exact ⟨_, rfl⟩
        | feed => exact ⟨_, rfl⟩
      obtain ⟨tokens, tokens', next, hstep, hstep', hparallel⟩ := step_of_shifted stack before h
      obtain ⟨front, back, after, after', rfl, hafter, hafter', halike, hback⟩ := hparallel
      have hne : text tokens ≠ [] := (begin_of_step hstep).1
      have hshorter : after.length < length := by
        have hpos := List.length_pos_iff.mpr hne
        rw [← hlength, hafter, List.length_append]
        omega
      rw [tokensFrom_of_step hstep hafter, tokensFrom_of_step hstep' hafter',
        tokensFrom_congr halike.shifted.any_isWord_getLast?]
      exact halike.append (ih after.length hshorter hback next _ rfl)

/-! ### White space at the start -/

/-- Where the rule for white space is the first to recognise something, all white space is one
token, and it does not matter to what follows. -/
theorem tokensFrom_of_whitespace {stack : LexStack}
    (h : firstMatch? stack.top.rules before (c :: u) =
      some (.whitespace, [⟨.whitespace, (c :: u).takeWhile Text.isBlank⟩])) :
    tokensFrom stack before (c :: u) =
      ⟨.whitespace, (c :: u).takeWhile Text.isBlank⟩ ::
        tokensFrom stack none ((c :: u).dropWhile Text.isBlank) := by
  have hstep : step stack before c u =
      ([⟨.whitespace, (c :: u).takeWhile Text.isBlank⟩], stack) := step_of_firstMatch? h
  have hword : ((c :: u).takeWhile Text.isBlank).getLast?.any Text.isWord = false :=
    Text.any_isWord_getLast?_of_blank fun d hd => List.mem_takeWhile_imp hd
  have hbefore : tokensFrom stack ((c :: u).takeWhile Text.isBlank).getLast?
      ((c :: u).dropWhile Text.isBlank) =
      tokensFrom stack none ((c :: u).dropWhile Text.isBlank) := tokensFrom_congr hword _ _
  have hafter : c :: u = text [⟨.whitespace, (c :: u).takeWhile Text.isBlank⟩] ++
      (c :: u).dropWhile Text.isBlank := by
    rw [text_singleton, List.takeWhile_append_dropWhile]
  rw [tokensFrom_of_step hstep hafter, text_singleton, hbefore]
  rfl

/-- White space at the start of program text is one token. -/
theorem tokensFrom_initial_blank (hblank : Text.isBlank c = true) (before : Option Char)
    (rest : Text) :
    tokensFrom LexStack.initial before (c :: rest) =
      ⟨.whitespace, c :: rest.takeWhile Text.isBlank⟩ ::
        tokensFrom LexStack.initial none (rest.dropWhile Text.isBlank) := by
  have hrun : (c :: rest).takeWhile Text.isBlank = c :: rest.takeWhile Text.isBlank :=
    List.takeWhile_cons_of_pos hblank
  have hfirst : firstMatch? LexStack.initial.top.rules before (c :: rest) =
      some (.whitespace, [⟨.whitespace, (c :: rest).takeWhile Text.isBlank⟩]) := by
    simp [firstMatch?, LexStack.initial, LexState.rules, LexRule.programRules, LexRule.match?,
      LexRule.run?, hrun]
  rw [tokensFrom_of_whitespace hfirst, hrun, List.dropWhile_cons_of_pos hblank]

/-- White space at the start of a text makes no difference to other tokens. -/
theorem tokens_trimLeft (source : Text) :
    significant (tokens source) = significant (tokens (Text.trimLeft source)) ∧
      literalFeeds (tokens source) =
        List.replicate ((source.takeWhile Text.isBlank).count '\n') false ++
          literalFeeds (tokens (Text.trimLeft source)) := by
  cases source with
  | nil => exact ⟨rfl, rfl⟩
  | cons c rest =>
    rw [Text.trimLeft]
    by_cases hblank : Text.isBlank c = true
    · rw [tokens, tokensFrom_initial_blank hblank, List.takeWhile_cons_of_pos hblank,
        List.dropWhile_cons_of_pos hblank]
      exact ⟨rfl, rfl⟩
    · rw [List.takeWhile_cons_of_neg hblank, List.dropWhile_cons_of_neg hblank]
      exact ⟨rfl, rfl⟩

/-- A line feed in front of a text is one more line feed outside of literals. -/
theorem tokens_feed (source : Text) :
    significant (tokens ('\n' :: source)) = significant (tokens source) ∧
      literalFeeds (tokens ('\n' :: source)) = false :: literalFeeds (tokens source) := by
  have hfeed : Text.isBlank '\n' = true := by decide
  have htrim : Text.trimLeft ('\n' :: source) = Text.trimLeft source :=
    List.dropWhile_cons_of_pos hfeed
  obtain ⟨hsignificant, hfeeds⟩ := tokens_trimLeft source
  obtain ⟨hsignificant', hfeeds'⟩ := tokens_trimLeft ('\n' :: source)
  rw [htrim] at hsignificant' hfeeds'
  refine ⟨hsignificant'.trans hsignificant.symm, ?_⟩
  rw [hfeeds', hfeeds, List.takeWhile_cons_of_pos hfeed, List.count_cons_self,
    List.replicate_succ, List.cons_append]

end Lexer
end AmberTools
