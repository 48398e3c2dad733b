import AmberTools.Indent.Line
import AmberTools.Proofs.Text.Cuts
import AmberTools.Proofs.Token.Alike
import Mathlib.Data.Bool.AllAny

/-!
# The first token of a text

Each rule recognises something at certain characters only, and each rule of program text has a
token of its own kind. So the first token of a text, white space aside, tells the rule and with it
the characters at the start of the text. A bracket there is a token of its own, and what follows it
is lexed like a text of its own. A keyword there is lexed as one, and so is a comment.

## Main definitions

* `LexRule.startsAt`: the characters at which a rule may recognise something.

## Main results

* `LexRule.startsAt_of_match?`: a rule recognises nothing elsewhere.
* `LexRule.eq_of_kind_eq`: the kind of a token tells the rule.
* `Lexer.match?_of_head?_significant`: what the first token of a text is recognised by.
* `Lexer.significant_eq_nil_iff`: the texts of white space.
* `Lexer.tokens_bracket`: a bracket and what follows it.
-/

namespace AmberTools

/-- What is left of a text behind its blank characters does not start with one. -/
theorem Text.isBlank_of_trimLeft {text rest : Text} {c : Char} (h : trimLeft text = c :: rest) :
    isBlank c = false := by
  have hhead := List.head?_dropWhile_not isBlank text
  rw [← trimLeft, h] at hhead
  exact hhead

namespace LexRule

variable {rule : LexRule} {before : Option Char} {c : Char} {input rest : Text}
  {tokens : List Token}

/-! ### First characters -/

/-- The characters at which a rule may recognise something. -/
def startsAt (rule : LexRule) (c : Char) : Bool :=
  match rule with
  | whitespace => Text.isBlank c
  | comment => c == '/'
  | openString | closeString => c == '"'
  | openCommand | closeCommand => c == '$'
  | declaration => c == 'f'
  | words _ => Text.isWord c
  | float | integer => Text.isDigit c
  | name => Text.isNameStart c
  | operator => c == '.' || c == '?' || isComposable c
  | punctuation => isPunctuation c
  | escape => c == '\\'
  | openInterpolation => c == '\x7b'
  | stringText => isLiteralText '"' c
  | commandText => isLiteralText '$' c
  | closeInterpolation => c == '\x7d'

theorem of_takeWhile_ne_nil {p : Char → Bool} (h : (c :: rest).takeWhile p ≠ []) : p c = true := by
  by_contra hc
  exact h (List.takeWhile_cons_of_neg hc)

/-- A rule recognises nothing at other characters. -/
theorem startsAt_of_match? (h : rule.match? before (c :: rest) = some tokens) :
    rule.startsAt c = true := by
  cases rule with
  | whitespace | integer | stringText | commandText =>
    exact of_takeWhile_ne_nil (run?_eq_some_iff.mp h).1
  | openString | openCommand | openInterpolation | closeString | closeCommand
  | closeInterpolation =>
    rw [match?, single?_eq_some_iff] at h
    obtain rfl := Option.some.inj h.1
    rfl
  | comment =>
    obtain ⟨_, hinput, -⟩ := comment?_eq_some_iff.mp h
    obtain ⟨rfl, -⟩ := List.cons.inj hinput
    rfl
  | declaration =>
    obtain ⟨_, _, hinput, -⟩ := declaration?_eq_some_iff.mp h
    obtain ⟨rfl, -⟩ := List.cons.inj hinput
    rfl
  | words table =>
    obtain ⟨-, hword, -⟩ := words?_eq_some_iff.mp h
    exact of_takeWhile_ne_nil fun hnil => nil_not_mem_words table (hnil ▸ hword)
  | float =>
    obtain ⟨_, hwhole, -⟩ := float?_eq_some_iff.mp h
    exact of_takeWhile_ne_nil hwhole
  | name =>
    obtain ⟨_, hname, -⟩ := Option.map_eq_some_iff.mp h
    obtain ⟨_, _, hinput, hstart, -⟩ := name?_eq_some_iff.mp hname
    obtain ⟨rfl, -⟩ := List.cons.inj hinput
    exact hstart
  | operator =>
    rw [match?, operator?_cons] at h
    split_ifs at h <;> simp_all [startsAt]
  | punctuation =>
    rw [match?, punctuation?_eq_some_iff] at h
    obtain ⟨_, _, hinput, hc, -⟩ := h
    obtain ⟨rfl, -⟩ := List.cons.inj hinput
    exact hc
  | escape =>
    obtain ⟨_, rfl, -⟩ := escape?_cons_eq_some_iff.mp h
    rfl

/-! ### Kinds of rules -/

/-- Rules of program text are told apart by the kinds of their tokens. -/
theorem eq_of_kind_eq {rule' : LexRule} (h : rule ∈ programRules) (h' : rule' ∈ programRules)
    (hkind : rule.kind = rule'.kind) : rule = rule' := by
  have hall : ∀ a ∈ programRules, ∀ b ∈ programRules, a.kind = b.kind → a = b := by decide
  exact hall rule h rule' h' hkind

/-- A rule's first token is of the rule's kind. -/
theorem exists_cons_of_match? (h : rule.match? before input = some tokens) :
    ∃ t more, tokens = t :: more ∧ t.kind = rule.kind := by
  by_cases hrule : rule = .declaration
  · subst hrule
    obtain ⟨rest, name, -, -, -, rfl⟩ := declaration?_eq_some_iff.mp h
    exact ⟨_, _, rfl, rfl⟩
  · obtain ⟨value, rfl⟩ := exists_single_of_match? hrule h
    exact ⟨_, _, rfl, rfl⟩

/-- A declaration starts with the whole word `fun`. -/
theorem head?_of_declaration (h : declaration.match? before input = some tokens) :
    tokens.head? = some ⟨.keywordDeclaration, "fun".toList⟩ ∧
      input.takeWhile Text.isWord = "fun".toList := by
  obtain ⟨rest, name, rfl, hgap, -, rfl⟩ := declaration?_eq_some_iff.mp h
  refine ⟨rfl, ?_⟩
  have hword : ∀ d ∈ "fun".toList, Text.isWord d = true := List.all_iff_forall_prop.mp (by decide)
  have hrest : ∀ d ∈ rest.head?, Text.isWord d = false := by
    intro d hd
    obtain ⟨after, rfl⟩ := List.head?_eq_some_iff.mp hd
    exact Text.isWord_of_isBlank (of_takeWhile_ne_nil hgap)
  exact Text.takeWhile_append hword hrest

end LexRule

namespace Lexer

open Token

variable {c : Char} {rest after : Text} {first : List Token} {rule : LexRule} {t : Token}

/-! ### The first token of a text -/

theorem tokens_nil : tokens [] = [] := by
  rw [tokens, tokensFrom, stepsFrom]
  rfl

/-- What the first rule recognises at the start of a text is lexed first. -/
theorem tokens_of_firstMatch?
    (h : firstMatch? LexRule.programRules none (c :: rest) = some (rule, first))
    (hafter : c :: rest = Token.text first ++ after) :
    tokens (c :: rest) =
      first ++ tokensFrom (LexStack.initial.move rule.move) (Token.text first).getLast? after :=
  tokensFrom_of_step (step_of_firstMatch? h) hafter

theorem head?_significant_cons (hkind : t.kind ≠ .whitespace) (more : List Token) :
    (significant (t :: more)).head? = some t := by
  rw [significant, List.filter_cons_of_pos (by simpa using hkind), List.head?_cons]

/-- Where no white space is, there is a token of the first rule that recognises something there, or
else an error. -/
theorem exists_head?_significant (hblank : Text.isBlank c = false) (rest : Text) :
    ∃ t, (significant (tokens (c :: rest))).head? = some t ∧
      ((∃ rule more, firstMatch? LexRule.programRules none (c :: rest) = some (rule, t :: more) ∧
        t.kind = rule.kind) ∨
      firstMatch? LexRule.programRules none (c :: rest) = none ∧ t.kind = .error) := by
  cases hfirst : firstMatch? LexRule.programRules none (c :: rest) with
  | some found =>
    obtain ⟨rule, first⟩ := found
    obtain ⟨hrule, hmatch⟩ := firstMatch?_eq_some hfirst
    obtain ⟨after, hafter⟩ := (LexRule.begin_of_match? hmatch).2
    obtain ⟨t, more, rfl, hkind⟩ := LexRule.exists_cons_of_match? hmatch
    have hspace : t.kind ≠ .whitespace := by
      intro hspace
      obtain rfl : rule = .whitespace :=
        LexRule.eq_of_kind_eq hrule (by decide) (hkind.symm.trans hspace)
      have hstarts : Text.isBlank c = true := LexRule.startsAt_of_match? hmatch
      rw [hstarts] at hblank
      contradiction
    refine ⟨t, ?_, .inl ⟨rule, more, rfl, hkind⟩⟩
    rw [tokens_of_firstMatch? hfirst hafter.symm]
    exact head?_significant_cons hspace _
  | none =>
    have hfeed : c ≠ '\n' := by
      rintro rfl
      exact absurd hblank (by decide)
    have hstep : step LexStack.initial none c rest = ([⟨.error, [c]⟩], LexStack.initial) := by
      simp only [step, LexStack.initial, LexState.rules, hfirst, if_neg hfeed]
    have hafter : c :: rest = Token.text [⟨.error, [c]⟩] ++ rest := by
      rw [text_singleton, List.singleton_append]
    refine ⟨⟨.error, [c]⟩, ?_, .inr ⟨rfl, rfl⟩⟩
    rw [tokens, tokensFrom_of_step hstep hafter]
    exact head?_significant_cons TokenKind.noConfusion _

/-- Further rules do not matter where an earlier one recognises something. -/
theorem firstMatch?_append {rules more : List LexRule} {before : Option Char} {input : Text}
    (h : firstMatch? rules before input ≠ none) :
    firstMatch? (rules ++ more) before input = firstMatch? rules before input := by
  obtain ⟨found, hfound⟩ := Option.ne_none_iff_exists'.mp h
  rw [hfound]
  rw [firstMatch?] at hfound ⊢
  rw [List.findSome?_append, hfound, Option.some_or]

/-- A rule is the first to recognise something where no rule in front of it may do so. -/
theorem firstMatch?_of_only {rules : List LexRule} {before : Option Char}
    (hmatch : rule.match? before (c :: rest) = some first) (hrule : rule ∈ rules)
    (honly : ∀ rule' ∈ rules, rule'.startsAt c = true → rule' = rule) (more : List LexRule) :
    firstMatch? (rules ++ more) before (c :: rest) = some (rule, first) := by
  have hsome : firstMatch? rules before (c :: rest) ≠ none :=
    firstMatch?_ne_none hrule (hmatch ▸ Option.some_ne_none _)
  obtain ⟨⟨rule', first'⟩, hfirst⟩ := Option.ne_none_iff_exists'.mp hsome
  obtain ⟨hrule', hmatch'⟩ := firstMatch?_eq_some hfirst
  obtain rfl := honly rule' hrule' (LexRule.startsAt_of_match? hmatch')
  rw [firstMatch?_append hsome, hfirst, Option.some.inj (hmatch'.symm.trans hmatch)]

/-- A first token of the kind of a rule is what that rule recognises. -/
theorem match?_of_head?_significant (hblank : Text.isBlank c = false)
    (h : (significant (tokens (c :: rest))).head? = some t) (rule : LexRule)
    (hrule : rule ∈ LexRule.programRules) (hkind : t.kind = rule.kind) :
    ∃ more, rule.match? none (c :: rest) = some (t :: more) := by
  obtain ⟨t', ht', hfirst⟩ := exists_head?_significant hblank rest
  obtain rfl : t' = t := Option.some.inj (ht'.symm.trans h)
  rcases hfirst with ⟨rule', more, hfirst, hkind'⟩ | ⟨-, herror⟩
  · obtain ⟨hrule', hmatch⟩ := firstMatch?_eq_some hfirst
    obtain rfl := LexRule.eq_of_kind_eq hrule hrule' (hkind.symm.trans hkind')
    exact ⟨more, hmatch⟩
  · exact absurd (hkind.symm.trans herror) (LexRule.kind_ne_error rule)

/-- The texts without tokens but white space are blank. -/
theorem significant_eq_nil_iff {text : Text} :
    significant (tokens text) = [] ↔ Text.trimLeft text = [] := by
  rw [(tokens_trimLeft text).1]
  cases htrim : Text.trimLeft text with
  | nil => simp [tokens_nil, significant]
  | cons c rest =>
    obtain ⟨t, ht, -⟩ := exists_head?_significant (Text.isBlank_of_trimLeft htrim) rest
    have hne : significant (tokens (c :: rest)) ≠ [] := by
      intro hnil
      rw [hnil] at ht
      contradiction
    simp [hne]

/-! ### Brackets, words and comments -/

/-- A brace or closing bracket is lexed on its own, and what follows it like a text of its own. -/
theorem tokens_bracket (hc : c ∈ '\x7b' :: Indent.closingBrackets) (rest : Text) :
    tokens (c :: rest) = ⟨.punctuation, [c]⟩ :: tokens rest := by
  have hbrackets : ∀ d ∈ '\x7b' :: Indent.closingBrackets, LexRule.isPunctuation d = true ∧
      Text.isWord d = false ∧
      ∀ rule ∈ LexRule.programRules, rule.startsAt d = true → rule = .punctuation :=
    List.all_iff_forall_prop.mp (by decide)
  obtain ⟨hpunctuation, hword, honly⟩ := hbrackets c hc
  have hmatch : LexRule.punctuation.match? none (c :: rest) = some [⟨.punctuation, [c]⟩] :=
    LexRule.punctuation?_eq_some_iff.mpr ⟨c, rest, rfl, hpunctuation, rfl⟩
  have hfirst : firstMatch? LexRule.programRules none (c :: rest) =
      some (.punctuation, [⟨.punctuation, [c]⟩]) :=
    firstMatch?_of_only hmatch (by decide) honly []
  have hafter : c :: rest = Token.text [⟨.punctuation, [c]⟩] ++ rest := by
    rw [text_singleton, List.singleton_append]
  have hbefore : (Token.text [⟨.punctuation, [c]⟩]).getLast?.any Text.isWord =
      (none : Option Char).any Text.isWord := hword
  rw [tokens_of_firstMatch? hfirst hafter, tokensFrom_congr hbefore]
  rfl

/-- A keyword at the start of a text is lexed as one, by itself or in a declaration. -/
theorem exists_head?_significant_of_keyword
    (h : (c :: rest).takeWhile Text.isWord ∈ WordTable.keywords.words) :
    ∃ t, (significant (tokens (c :: rest))).head? = some t ∧
      (t.kind = .keyword ∨ t.kind = .keywordDeclaration) ∧
      t.value = (c :: rest).takeWhile Text.isWord := by
  have hc : Text.isWord c = true :=
    LexRule.of_takeWhile_ne_nil fun hnil => LexRule.nil_not_mem_words _ (hnil ▸ h)
  have hblank : Text.isBlank c = false := Text.isBlank_of_isWord hc
  -- the rule for keywords recognises the word if no earlier rule recognises anything
  let upToKeywords : List LexRule :=
    [.whitespace, .comment, .openString, .openCommand, .declaration, .words .keywords]
  have hkeyword : (LexRule.words .keywords).match? none (c :: rest) ≠ none := by
    have hwords : LexRule.words? .keywords none (c :: rest) = some _ :=
      LexRule.words?_eq_some_iff.mpr ⟨rfl, h, rfl⟩
    rw [LexRule.match?, hwords]
    exact Option.some_ne_none _
  have hsome : firstMatch? upToKeywords none (c :: rest) ≠ none :=
    firstMatch?_ne_none (by decide) hkeyword
  obtain ⟨t, ht, ⟨rule, more, hfirst, -⟩ | ⟨hnone, -⟩⟩ := exists_head?_significant hblank rest
  · rw [show LexRule.programRules = upToKeywords ++ LexRule.programRules.drop 6 from rfl,
      firstMatch?_append hsome] at hfirst
    obtain ⟨hrule, hmatch⟩ := firstMatch?_eq_some hfirst
    have hstarts := LexRule.startsAt_of_match? hmatch
    have hsign {d : Char} (hd : Text.isWord d = false) : (c == d) = false := by
      rw [beq_eq_false_iff_ne]
      rintro rfl
      exact Bool.false_ne_true (hd.symm.trans hc)
    simp only [upToKeywords, List.mem_cons, List.not_mem_nil, or_false] at hrule
    rcases hrule with rfl | rfl | rfl | rfl | rfl | rfl
    · exact absurd hstarts (Bool.eq_false_iff.mp hblank)
    · exact absurd hstarts (Bool.eq_false_iff.mp (hsign (by decide)))
    · exact absurd hstarts (Bool.eq_false_iff.mp (hsign (by decide)))
    · exact absurd hstarts (Bool.eq_false_iff.mp (hsign (by decide)))
    · obtain ⟨hhead, hword⟩ := LexRule.head?_of_declaration hmatch
      obtain rfl := Option.some.inj hhead
      exact ⟨_, ht, .inr rfl, hword.symm⟩
    · rw [LexRule.match?, LexRule.words?_eq_some_iff] at hmatch
      obtain ⟨-, -, hword⟩ := hmatch
      obtain ⟨rfl, -⟩ := List.cons.inj hword
      exact ⟨_, ht, .inl rfl, rfl⟩
  · exact absurd hnone (firstMatch?_ne_none (by decide) hkeyword)

/-- Where a comment starts, it is the only token up to the end of the line. -/
theorem tokens_comment (h : '\n' ∉ rest) :
    tokens ('/' :: '/' :: rest) = [⟨.commentSingle, '/' :: '/' :: rest⟩] := by
  have hline : rest.takeWhile (· != '\n') = rest :=
    List.takeWhile_eq_self_iff.mpr (Text.bne_of_notMem h)
  have hmatch : LexRule.comment.match? none ('/' :: '/' :: rest) =
      some [⟨.commentSingle, '/' :: '/' :: rest⟩] := by
    rw [LexRule.match?, LexRule.comment?, hline]
  have hmem : LexRule.comment ∈ [LexRule.whitespace, .comment] := by decide
  have hfirst : firstMatch? LexRule.programRules none ('/' :: '/' :: rest) =
      some (.comment, [⟨.commentSingle, '/' :: '/' :: rest⟩]) :=
    firstMatch?_of_only hmatch hmem (by decide) (LexRule.programRules.drop 2)
  have hafter : '/' :: '/' :: rest = Token.text [⟨.commentSingle, '/' :: '/' :: rest⟩] ++ [] := by
    rw [text_singleton, List.append_nil]
  rw [tokens_of_firstMatch? hfirst hafter, tokensFrom, stepsFrom]
  rfl

end Lexer
end AmberTools
