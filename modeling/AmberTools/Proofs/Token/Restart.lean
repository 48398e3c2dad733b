import AmberTools.Proofs.Token.WholeWords
import AmberTools.Proofs.Token.Stack

/-!
# Lexing from a later line on

A text can be lexed in two parts if the second one starts at a quiet line: the first part ends with
a line feed at the top level, and the second one does not start with white space. The rules that
stay within a line do not notice what stands behind the line feed. Of the other rules, that for
white space stops at the second part anyway. Those for plain text in a literal would go on in it
only if the literal were still open. And that for declarations would go on only if all that is left
of the first part were the word `fun` and blank characters, and then `fun` would be its last token.

## Main definitions

* `LexRule.Unfinished`: texts at the end of which a rule may still go on.

## Main results

* `LexRule.match?_append`: rules that do not go on recognise the same in a longer text.
* `Lexer.not_unfinished_of_leads`: at the top level no rule goes on.
* `Lexer.Leads.append_right`: the way through a text is the same in a longer one.
* `Lexer.lexing_restarts_at_quiet_line`: the tokens of two parts of a text.
-/

namespace AmberTools

namespace Text

variable {u : Text} {p : Char → Bool}

/-- What is left at the end of a text that ends with a line feed does so, too. -/
theorem getLast?_of_suffix {a : Text} (hfeed : a.getLast? = some '\n') (hu : u <:+ a)
    (hne : u ≠ []) : u.getLast? = some '\n' := by
  obtain ⟨front, rfl⟩ := hu
  rwa [List.getLast?_append_of_ne_nil _ hne] at hfeed

/-- A run without line feeds ends within such a text. -/
theorem dropWhile_ne_nil_of_feed (hfeed : u.getLast? = some '\n') (hp : p '\n' = false) :
    u.dropWhile p ≠ [] := by
  intro hnil
  have hall := List.dropWhile_eq_nil_iff.mp hnil '\n' (List.mem_of_getLast? hfeed)
  rw [hp] at hall
  contradiction

end Text

namespace LexRule

open Text

variable {rule : LexRule} {u b : Text}

/-- At the end of the text, the rule may still go on: nothing is left but the word `fun` and blank
characters, or plain text of a literal. -/
inductive Unfinished : LexRule → Text → Prop
  | declaration {u : Text} (hword : firstWord u = "fun".toList)
      (hend : (u.dropWhile isWord).dropWhile isBlank = []) : Unfinished declaration u
  | stringText {u : Text} (hend : u.dropWhile (isLiteralText '"') = []) : Unfinished stringText u
  | commandText {u : Text} (hend : u.dropWhile (isLiteralText '$') = []) :
      Unfinished commandText u

/-- The word, the gap and the name make a declaration. -/
theorem declaration?_congr {v : Text} (hword : firstWord u = firstWord v) (hgap : gap u = gap v)
    (hname : secondWord u = secondWord v) : declaration? u = declaration? v := by
  have hdeclares : Declares u ↔ Declares v := by
    constructor
    · rintro ⟨h, h', h''⟩
      exact ⟨hword ▸ h, hgap ▸ h', hname ▸ h''⟩
    · rintro ⟨h, h', h''⟩
      exact ⟨hword ▸ h, hgap ▸ h', hname ▸ h''⟩
  ext tokens
  rw [declaration?_eq_some_iff_declares, declaration?_eq_some_iff_declares, hdeclares, hword, hgap,
    hname]

theorem declaration?_append (hfeed : u.getLast? = some '\n')
    (hb : ∀ c ∈ b.head?, isBlank c = false) (h : ¬ Unfinished declaration u) :
    declaration? (u ++ b) = declaration? u := by
  have hends : u.dropWhile isWord ≠ [] := dropWhile_ne_nil_of_feed hfeed (by decide)
  have hfirst : firstWord (u ++ b) = firstWord u :=
    takeWhile_append_of_ends fun hnil => absurd hnil hends
  have hbehind : (u ++ b).dropWhile isWord = u.dropWhile isWord ++ b :=
    dropWhile_append_of_ends fun hnil => absurd hnil hends
  by_cases hword : firstWord u = "fun".toList
  · have hgap : gap (u ++ b) = gap u := by
      rw [gap, hbehind]
      exact takeWhile_append_of_ends fun _ => hb
    -- the name ends within the text, since the line feed at the end belongs to no name
    have hrest : (u.dropWhile isWord).dropWhile isBlank ≠ [] := fun hend =>
      h (.declaration hword hend)
    have hrestFeed : ((u.dropWhile isWord).dropWhile isBlank).getLast? = some '\n' :=
      getLast?_of_suffix hfeed
        ((List.dropWhile_suffix _).trans (List.dropWhile_suffix _)) hrest
    have hname : secondWord (u ++ b) = secondWord u := by
      rw [secondWord, hbehind, dropWhile_append_of_ends fun _ => hb]
      exact takeWhile_append_of_ends fun hnil =>
        absurd hnil (dropWhile_ne_nil_of_feed hrestFeed (by decide))
    exact declaration?_congr hfirst hgap hname
  · rw [declaration?_eq_none_iff.mpr fun h => hword h.firstWord_eq,
      declaration?_eq_none_iff.mpr fun h => hword (hfirst ▸ h.firstWord_eq)]

/-- A rule that does not go on at the end of a text recognises the same in a longer text. -/
theorem match?_append (hfeed : u.getLast? = some '\n') (hb : ∀ c ∈ b.head?, isBlank c = false)
    (h : ¬ rule.Unfinished u) (before : Option Char) :
    rule.match? before (u ++ b) = rule.match? before u := by
  by_cases hrule : rule.crossesLines = false
  · have hline : firstLine (u ++ b) = firstLine u :=
      takeWhile_append_of_ends fun hnil =>
        absurd hnil (dropWhile_ne_nil_of_feed hfeed (by decide))
    rw [← match?_firstLine hrule, hline, match?_firstLine hrule]
  · cases rule with
    | whitespace => rw [match?, match?, takeWhile_append_of_ends fun _ => hb]
    | declaration => exact declaration?_append hfeed hb h
    | stringText =>
      rw [match?, match?, takeWhile_append_of_ends fun hend => absurd (.stringText hend) h]
    | commandText =>
      rw [match?, match?, takeWhile_append_of_ends fun hend => absurd (.commandText hend) h]
    | _ => exact absurd rfl hrule

end LexRule

namespace Lexer

open Token LexRule Text

variable {a b text : Text} {p q : Point} {positioned : List (Nat × Token)}

/-! ### Turns in a longer text -/

theorem turn?_append (hfeed : a.getLast? = some '\n') (hb : ∀ c ∈ b.head?, isBlank c = false)
    (hp : p.position < a.length)
    (h : ∀ rule ∈ p.stack.top.rules, ¬ rule.Unfinished (a.drop p.position)) :
    turn? (a ++ b) p = turn? a p := by
  have hleft : (a.drop p.position).getLast? = some '\n' :=
    getLast?_of_suffix hfeed (List.drop_suffix _ _) (by simpa using hp)
  have hfirst (before : Option Char) :
      firstMatch? p.stack.top.rules before (a.drop p.position ++ b) =
        firstMatch? p.stack.top.rules before (a.drop p.position) :=
    firstMatch?_congr fun rule hrule => match?_append hleft hb (h rule hrule) before
  rw [turn?, turn?, List.take_append_of_le_length hp.le, List.drop_append_of_le_length hp.le,
    List.getElem?_append_left hp, hfirst]

/-! ### Rules at the top level -/

/-- Plain text of an enclosure opens and closes nothing. -/
theorem Leads.stack_eq_of_plain {e : Enclosure} (h : Leads text p positioned q)
    (htop : p.stack.top = e.state) (hplain : ∀ c ∈ text.drop p.position, e.isPlain c = true) :
    q.stack = p.stack := by
  induction h with
  | refl => rfl
  | @turn p q r tokens more hturn _ ih =>
    have hstack : q.stack = p.stack := by
      rcases turn?_cases hturn with ⟨rule, found, hfirst, -, rfl⟩ | ⟨-, c, -, -, rfl⟩
      · obtain ⟨c, rest, _, hdrop, -⟩ := turn?_eq_some_iff.mp hturn
        rw [recognised?, hdrop, htop] at hfirst
        obtain ⟨hrule, hmatch⟩ := firstMatch?_eq_some hfirst
        have hc : e.isPlain c = true := hplain c (hdrop ▸ List.mem_cons_self)
        have hmove := (move_and_breaks_of_match? hc hrule hmatch).1
        rw [hmove]
        rfl
      · rfl
    have hsuffix : text.drop q.position <:+ text.drop p.position :=
      List.drop_suffix_drop_left _ (position_lt_of_turn? hturn).1.le
    exact (ih (hstack ▸ htop) fun c hc => hplain c (hsuffix.mem hc)).trans hstack

/-- Where nothing but white space is left of program text, there are no other tokens. -/
theorem significant_tokensFrom_blank {stack : LexStack} {u : Text}
    (hstate : stack.top.readsProgram = true) (hblank : ∀ c ∈ u, isBlank c = true)
    (before : Option Char) : significant (tokensFrom stack before u) = [] := by
  cases u with
  | nil =>
    rw [tokensFrom, stepsFrom]
    rfl
  | cons c rest =>
    have hc : isBlank c = true := hblank c List.mem_cons_self
    have hcandidates : stack.top.candidates .blank = [.whitespace] := by
      revert hstate
      cases stack.top <;> decide
    have hfirst : firstMatch? stack.top.rules before (c :: rest) =
        some (.whitespace, [⟨.whitespace, (c :: rest).takeWhile isBlank⟩]) := by
      rw [← firstMatch?_candidates, LexClass.ofChar_of_isBlank hc, hcandidates]
      simp [firstMatch?, match?, run?, hc]
    rw [tokensFrom_of_whitespace hfirst, List.dropWhile_eq_nil_iff.mpr hblank, tokensFrom,
      stepsFrom]
    rfl

/-- Where nothing but the word `fun` and white space is left of program text, `fun` is the only
token but white space. -/
theorem exists_significant_tokensFrom_fun {stack : LexStack} {u : Text}
    (hstate : stack.top.readsProgram = true) (hword : firstWord u = "fun".toList)
    (hend : (u.dropWhile isWord).dropWhile isBlank = []) (before : Option Char) :
    ∃ kind, significant (tokensFrom stack before u) = [⟨kind, "fun".toList⟩] := by
  obtain ⟨c, rest, rfl, hc⟩ := exists_cons_of_startsName ⟨'f', by rw [hword]; rfl, by decide⟩
  have hnone : declaration? (c :: rest) = none := by
    rw [declaration?_eq_none_iff]
    intro hdeclares
    obtain ⟨d, hd, -⟩ := hdeclares.startsName
    rw [secondWord, hend] at hd
    contradiction
  obtain ⟨rule, kind, hfirst, hmove, hkind, -⟩ := exists_firstMatch?_word hstate hc hnone before
  have hstep : step stack before c rest = ([⟨kind, "fun".toList⟩], stack) := by
    rw [step_of_firstMatch? hfirst, hmove, hword]
    rfl
  have hafter : c :: rest =
      Token.text [⟨kind, "fun".toList⟩] ++ (c :: rest).dropWhile isWord := by
    rw [text_singleton, ← hword, firstWord, List.takeWhile_append_dropWhile]
  refine ⟨kind, ?_⟩
  rw [tokensFrom_of_step hstep hafter, significant_append,
    significant_tokensFrom_blank hstate (List.dropWhile_eq_nil_iff.mp hend)]
  simp [significant, hkind]

/-- At a point of a text that ends at the top level, and whose last token but white space is not
`fun`, no rule goes on at the end. -/
theorem not_unfinished_of_leads {rule : LexRule}
    (h : Leads a p positioned ⟨a.length, LexStack.initial⟩)
    (hfun : ∀ t ∈ (significant (positioned.map Prod.snd)).getLast?, t.value ≠ "fun".toList)
    (hrule : rule ∈ p.stack.top.rules) : ¬ rule.Unfinished (a.drop p.position) := by
  have hliteral (e : Enclosure) (htop : p.stack.top = e.state)
      (hplain : ∀ c ∈ a.drop p.position, e.isPlain c = true) : False := by
    have hstack := h.stack_eq_of_plain htop hplain
    rw [← hstack] at htop
    exact e.state_ne_root htop.symm
  intro hunfinished
  cases hunfinished with
  | declaration hword hend =>
    have hstate := LexState.readsProgram_of_declaration hrule
    obtain ⟨kind, hkind⟩ := exists_significant_tokensFrom_fun hstate hword hend
      (a.take p.position).getLast?
    have hpositioned : tokensAt a p = positioned := by
      rw [h.tokensAt_eq, tokensAt_of_length_le le_rfl, List.append_nil]
    rw [← hpositioned, tokensAt, map_snd_withPositions, hkind] at hfun
    exact hfun _ rfl rfl
  | stringText hend =>
    refine hliteral .string ?_ (List.dropWhile_eq_nil_iff.mp hend)
    revert hrule
    cases p.stack.top <;> decide
  | commandText hend =>
    refine hliteral .command ?_ (List.dropWhile_eq_nil_iff.mp hend)
    revert hrule
    cases p.stack.top <;> decide

/-- The way to the end of such a text is the same in a longer text. -/
theorem Leads.append_right (hfeed : a.getLast? = some '\n')
    (hb : ∀ c ∈ b.head?, isBlank c = false)
    (h : Leads a p positioned ⟨a.length, LexStack.initial⟩)
    (hfun : ∀ t ∈ (significant (positioned.map Prod.snd)).getLast?, t.value ≠ "fun".toList) :
    Leads (a ++ b) p positioned ⟨a.length, LexStack.initial⟩ := by
  generalize hlast : (⟨a.length, LexStack.initial⟩ : Point) = last at h ⊢
  induction h with
  | refl p => exact .refl p
  | @turn p q last tokens more hturn hmore ih =>
    subst hlast
    have hsettled : ∀ rule ∈ p.stack.top.rules, ¬ rule.Unfinished (a.drop p.position) :=
      fun rule => not_unfinished_of_leads (.turn hturn hmore) hfun
    have hp : p.position < a.length :=
      (position_lt_of_turn? hturn).1.trans_le (position_lt_of_turn? hturn).2
    -- the last token of the rest of the way is the last one of the whole
    have hlater : ∀ t ∈ (significant (more.map Prod.snd)).getLast?, t.value ≠ "fun".toList := by
      intro t ht
      refine hfun t ?_
      rw [List.map_append, significant_append, List.getLast?_append, ht]
      rfl
    exact .turn ((turn?_append hfeed hb hp hsettled).trans hturn) (ih hlater rfl)

/-- Lexing can start anew at a quiet line. Where the first part of a text ends with a line feed at
the top level, its last token but white space is not `fun`, and the second part does not start with
white space, the tokens of the text are those of the first part and behind them those of the second
part, at positions moved by the length of the first. -/
theorem lexing_restarts_at_quiet_line (hfeed : a.getLast? = some '\n')
    (hend : Leads a .start (withPositions 0 (tokens a)) ⟨a.length, LexStack.initial⟩)
    (hfun : ∀ t ∈ (significant (tokens a)).getLast?, t.value ≠ "fun".toList)
    (hb : ∀ c ∈ b.head?, isBlank c = false) :
    withPositions 0 (tokens (a ++ b)) =
      withPositions 0 (tokens a) ++
        (withPositions 0 (tokens b)).map fun entry => (a.length + entry.1, entry.2) := by
  have hway : Leads (a ++ b) .start (withPositions 0 (tokens a)) ⟨a.length, LexStack.initial⟩ :=
    hend.append_right hfeed hb (by rwa [map_snd_withPositions])
  have hbefore : ((a ++ b).take a.length).getLast?.any isWord =
      (none : Option Char).any isWord := by
    rw [List.take_left, hfeed]
    decide
  calc withPositions 0 (tokens (a ++ b)) = tokensAt (a ++ b) .start := rfl
    _ = withPositions 0 (tokens a) ++ tokensAt (a ++ b) ⟨a.length, LexStack.initial⟩ :=
      hway.tokensAt_eq
    _ = withPositions 0 (tokens a) ++ withPositions a.length (tokens b) := by
      rw [tokensAt, List.drop_left, tokensFrom_congr hbefore]
      rfl
    _ = _ := by rw [← withPositions_add, Nat.add_zero]

/-- A name on a later line than its keyword and a string that ends on a later line are read to
their ends in the first part, and the keyword behind them starts the second one. -/
theorem lexing_restarts_at_quiet_line_keyword :
    let a := "fun\nf \"\n\"\n".toList
    let b := "in".toList
    let front : List (Nat × Token) :=
      [(0, ⟨.keywordDeclaration, "fun".toList⟩), (3, ⟨.whitespace, ['\n']⟩),
        (4, ⟨.nameFunction, ['f']⟩), (5, ⟨.whitespace, [' ']⟩), (6, ⟨.stringDouble, ['"']⟩),
        (7, ⟨.stringDouble, ['\n']⟩), (8, ⟨.stringDouble, ['"']⟩), (9, ⟨.whitespace, ['\n']⟩)]
    a.getLast? = some '\n' ∧ withPositions 0 (tokens a) = front ∧
      Leads a .start front ⟨10, LexStack.initial⟩ ∧
      withPositions 0 (tokens (a ++ b)) = front ++ [(10, ⟨.keyword, "in".toList⟩)] := by
  intro a b front
  have hdeclaration : turn? a .start = some (front.take 3, ⟨5, LexStack.initial⟩) := by
    decide +kernel
  have hgap : turn? a ⟨5, LexStack.initial⟩ =
      some ([(5, ⟨.whitespace, [' ']⟩)], ⟨6, LexStack.initial⟩) := by decide +kernel
  have hopen : turn? a ⟨6, LexStack.initial⟩ =
      some ([(6, ⟨.stringDouble, ['"']⟩)], ⟨7, ⟨.string, [.root]⟩⟩) := by decide +kernel
  have hplain : turn? a ⟨7, ⟨.string, [.root]⟩⟩ =
      some ([(7, ⟨.stringDouble, ['\n']⟩)], ⟨8, ⟨.string, [.root]⟩⟩) := by decide +kernel
  have hclose : turn? a ⟨8, ⟨.string, [.root]⟩⟩ =
      some ([(8, ⟨.stringDouble, ['"']⟩)], ⟨9, LexStack.initial⟩) := by decide +kernel
  have hfeed : turn? a ⟨9, LexStack.initial⟩ =
      some ([(9, ⟨.whitespace, ['\n']⟩)], ⟨10, LexStack.initial⟩) := by decide +kernel
  have hway : Leads a .start front ⟨10, LexStack.initial⟩ :=
    .turn hdeclaration (.turn hgap (.turn hopen (.turn hplain (.turn hclose
      (.turn hfeed (.refl _))))))
  have hfront : withPositions 0 (tokens a) = front := by
    have htokens : tokensAt a .start = front ++ tokensAt a ⟨10, LexStack.initial⟩ :=
      hway.tokensAt_eq
    have hend : tokensAt a ⟨10, LexStack.initial⟩ = [] := tokensAt_of_length_le (by decide)
    rwa [hend, List.append_nil] at htokens
  have hword : turn? b .start = some ([(0, ⟨.keyword, "in".toList⟩)], ⟨2, LexStack.initial⟩) := by
    decide +kernel
  have hback : withPositions 0 (tokens b) = [(0, ⟨.keyword, "in".toList⟩)] := by
    have htokens : tokensAt b .start = _ := tokensAt_of_turn? hword
    have hend : tokensAt b ⟨2, LexStack.initial⟩ = [] := tokensAt_of_length_le (by decide)
    rwa [hend, List.append_nil] at htokens
  have hvalues : tokens a = front.map Prod.snd := by
    rw [← hfront, map_snd_withPositions]
  have hletter : ∀ c ∈ b.head?, isBlank c = false := by
    intro c hc
    obtain rfl : 'i' = c := Option.some.inj hc
    decide
  have hrestart := lexing_restarts_at_quiet_line (by decide +kernel) (hfront ▸ hway)
    (by rw [hvalues]; decide +kernel) hletter
  rw [hfront, hback] at hrestart
  exact ⟨by decide +kernel, hfront, hway, hrestart⟩

end Lexer
end AmberTools
