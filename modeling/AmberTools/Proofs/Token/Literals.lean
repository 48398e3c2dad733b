import AmberTools.Proofs.Token.Points
import Mathlib.Data.Bool.AllAny

/-!
# Complete literals

A literal is complete if all that is opened in it is closed there, too. It may hold interpolations,
and these hold program text with further literals, at any depth. The lexer passes over a complete
literal by tokens none of which is an error, and behind it the stack is the one in front of it.
What carries this through all depths is that no rule runs on over a character at which something
is opened or closed, whatever stands around that character.

## Main definitions

* `Enclosure`: what is opened and closed by delimiters.
* `Complete`: texts in an enclosure in which all that is opened is closed.
* `Lexer.Passes`: the lexer passes over a part of a text without errors.

## Main results

* `Complete.exists_append`: what holds no delimiter is split off a complete text.
* `Lexer.exists_firstMatch?_plain`: in an enclosure, rules stop in front of delimiters.
* `Lexer.exists_passes`: the lexer passes over complete texts.
* `Lexer.enclosure_lexes_without_errors`: a complete literal lexes without errors wherever it may
  stand.
-/

namespace AmberTools

/-! ### Enclosures -/

/-- What is opened and closed by delimiters: the two kinds of literals, and interpolations. -/
inductive Enclosure where
  | string
  | command
  | interpolation
  deriving DecidableEq, Repr

namespace Enclosure

/-- The character that opens an enclosure. -/
def opening : Enclosure → Char
  | string => '"'
  | command => '$'
  | interpolation => '\x7b'

/-- The character that closes an enclosure. -/
def closing : Enclosure → Char
  | string => '"'
  | command => '$'
  | interpolation => '\x7d'

/-- The kind of the tokens at both ends. -/
def kind : Enclosure → TokenKind
  | string => .stringDouble
  | command => .stringBacktick
  | interpolation => .stringInterpol

/-- The state of the lexer in an enclosure. -/
def state : Enclosure → LexState
  | string => .string
  | command => .command
  | interpolation => .interpolation

/-- The states in which an enclosure opens: literals open in program text and interpolations open
in literals. -/
def hosts : Enclosure → List LexState
  | string => [.root, .interpolation]
  | command => [.root, .interpolation]
  | interpolation => [.string, .command]

def openingToken (e : Enclosure) : Token := ⟨e.kind, [e.opening]⟩

def closingToken (e : Enclosure) : Token := ⟨e.kind, [e.closing]⟩

/-- The characters of program text that neither open nor close anything. The slash is left out, as
two of them start a comment, in which a closing brace would be lost. -/
def isProgramText (c : Char) : Bool :=
  Text.isNameStart c || Text.isDigit c || Text.isBlank c ||
    "+-*%<>=!?()[],:;.".toList.contains c

/-- The characters that stand for themselves. -/
def isPlain : Enclosure → Char → Bool
  | string => LexRule.isLiteralText '"'
  | command => LexRule.isLiteralText '$'
  | interpolation => isProgramText

/-- The characters at which the plain text of an enclosure ends. -/
def breaks : Enclosure → List Char
  | string => ['"', '\\', '\x7b']
  | command => ['$', '\\', '\x7b']
  | interpolation => ['"', '$', '\x7d']

theorem closing_mem_breaks (e : Enclosure) : e.closing ∈ e.breaks := by
  cases e <;> decide

theorem opening_mem_breaks {e f : Enclosure} (h : e.state ∈ f.hosts) : f.opening ∈ e.breaks := by
  revert h
  cases e <;> cases f <;> decide

theorem escape_mem_breaks {e : Enclosure} (h : e ≠ interpolation) : '\\' ∈ e.breaks := by
  revert h
  cases e <;> decide

theorem notMem_breaks_of_isPlain {e : Enclosure} {c : Char} (h : e.isPlain c = true) :
    c ∉ e.breaks := by
  have hbreaks : ∀ d ∈ e.breaks, e.isPlain d = false :=
    List.all_iff_forall_prop.mp (by cases e <;> decide)
  intro hmem
  exact Bool.false_ne_true ((hbreaks c hmem).symm.trans h)

end Enclosure

/-- Texts in an enclosure in which all that is opened is closed. -/
inductive Complete : Enclosure → Text → Prop
  | nil (e : Enclosure) : Complete e []
  | plain {e : Enclosure} {c : Char} {u : Text} (hc : e.isPlain c = true) (hu : Complete e u) :
      Complete e (c :: u)
  | escape {e : Enclosure} {c : Char} {u : Text} (he : e ≠ .interpolation) (hc : c ≠ '\n')
      (hu : Complete e u) : Complete e ('\\' :: c :: u)
  | enclosed {e f : Enclosure} {v u : Text} (hhost : e.state ∈ f.hosts) (hv : Complete f v)
      (hu : Complete e u) : Complete e (f.opening :: (v ++ f.closing :: u))

/-- What holds no delimiter is split off a complete text, and does not reach beyond it. -/
theorem Complete.exists_append {e : Enclosure} {u w rest : Text} (h : Complete e u)
    (hw : w <+: u ++ e.closing :: rest) (hbreaks : ∀ d ∈ w, d ∉ e.breaks) :
    ∃ after, u = w ++ after ∧ Complete e after := by
  induction w generalizing u with
  | nil => exact ⟨u, rfl, h⟩
  | cons d w ih =>
    obtain ⟨hd, hbreaks⟩ := List.forall_mem_cons.mp hbreaks
    cases h with
    | nil =>
      obtain ⟨rfl, -⟩ := List.cons_prefix_cons.mp hw
      exact absurd e.closing_mem_breaks hd
    | plain _ hu =>
      obtain ⟨rfl, hrest⟩ := List.cons_prefix_cons.mp hw
      obtain ⟨after, rfl, hafter⟩ := ih hu hrest hbreaks
      exact ⟨after, rfl, hafter⟩
    | escape he =>
      obtain ⟨rfl, -⟩ := List.cons_prefix_cons.mp hw
      exact absurd (Enclosure.escape_mem_breaks he) hd
    | enclosed hhost =>
      obtain ⟨rfl, -⟩ := List.cons_prefix_cons.mp hw
      exact absurd (Enclosure.opening_mem_breaks hhost) hd

/-! ### Rules in enclosures -/

/-- Names start with characters of ASCII. -/
theorem Text.toNat_lt_of_isNameStart {c : Char} (h : isNameStart c = true) : c.toNat < 0x80 := by
  simp only [isNameStart, Bool.or_eq_true, beq_iff_eq] at h
  rcases h with hletter | rfl
  · simp only [isAsciiLetter, Bool.or_eq_true, Bool.and_eq_true, decide_eq_true_eq] at hletter
    have hz : c ≤ 'z' := by
      rcases hletter with ⟨-, hlower⟩ | ⟨-, hupper⟩
      · exact hlower
      · exact Char.le_trans hupper (by decide)
    exact Nat.lt_of_le_of_lt (UInt32.le_iff_toNat_le.mp hz) (by decide)
  · decide

/-- A character with which a name starts is a word character. -/
theorem Text.isWord_of_isNameStart {c : Char} (h : isNameStart c = true) : isWord c = true := by
  have hascii := toNat_lt_of_isNameStart h
  simp only [isNameStart, Bool.or_eq_true, beq_iff_eq] at h
  simp only [isWord, if_pos hascii, Bool.or_eq_true, beq_iff_eq]
  exact h.imp .inl id

namespace LexRule

variable {before : Option Char} {c : Char} {rest : Text} {tokens : List Token}

/-- The characters that rules of program text pass over behind a first one. -/
def isInner (d : Char) : Bool :=
  Text.isWord d || Text.isDigit d || Text.isBlank d || d == '.' || d == '='

/-- Behind the first character, rules of program text other than comments pass over words, digits,
white space, points and equals signs only. -/
theorem eq_or_isInner_of_match? {rule : LexRule} (hrule : rule ∈ programRules)
    (hcomment : rule ≠ .comment) (h : rule.match? before (c :: rest) = some tokens) :
    ∀ d ∈ Token.text tokens, d = c ∨ isInner d = true := by
  have hrun {p : Char → Bool} (hp : ∀ d, p d = true → isInner d = true) (input : Text) :
      ∀ d ∈ input.takeWhile p, d = c ∨ isInner d = true :=
    fun d hd => .inr (hp d (List.mem_takeWhile_imp hd))
  have hword := @hrun Text.isWord (by simp +contextual [isInner])
  have hdigit := @hrun Text.isDigit (by simp +contextual [isInner])
  have hblank := @hrun Text.isBlank (by simp +contextual [isInner])
  cases rule with
  | comment => exact absurd rfl hcomment
  | whitespace =>
    obtain ⟨-, rfl⟩ := run?_eq_some_iff.mp h
    simpa only [Token.text_singleton] using hblank (c :: rest)
  | integer =>
    obtain ⟨-, rfl⟩ := run?_eq_some_iff.mp h
    simpa only [Token.text_singleton] using hdigit (c :: rest)
  | openString | openCommand =>
    rw [match?, single?_eq_some_iff] at h
    obtain ⟨hhead, rfl⟩ := h
    obtain rfl := Option.some.inj hhead
    simp [Token.text_singleton]
  | declaration =>
    obtain ⟨after, name, hinput, -, hname, rfl⟩ := declaration?_eq_some_iff.mp h
    obtain ⟨first, letters, -, hfirst, rfl⟩ := name?_eq_some_iff.mp hname
    have hkeyword : ∀ d ∈ ['f', 'u', 'n'], d = c ∨ isInner d = true := hword ['f', 'u', 'n']
    have hstart : isInner first = true := by simp [isInner, Text.isWord_of_isNameStart hfirst]
    have hname' := List.forall_mem_cons.mpr ⟨.inr hstart, hword letters⟩
    simpa [Token.text] using
      List.forall_mem_append.mpr ⟨hkeyword, List.forall_mem_append.mpr ⟨hblank after, hname'⟩⟩
  | words table =>
    obtain ⟨-, -, rfl⟩ := words?_eq_some_iff.mp h
    simpa only [Token.text_singleton] using hword (c :: rest)
  | float =>
    obtain ⟨places, -, -, -, rfl⟩ := float?_eq_some_iff.mp h
    rw [Token.text_singleton, List.forall_mem_append, List.forall_mem_cons]
    exact ⟨hdigit _, .inr rfl, hdigit _⟩
  | name =>
    obtain ⟨name, hname, rfl⟩ := Option.map_eq_some_iff.mp h
    obtain ⟨_, letters, hinput, -, rfl⟩ := name?_eq_some_iff.mp hname
    obtain ⟨rfl, rfl⟩ := List.cons.inj hinput
    rw [Token.text_singleton, List.forall_mem_cons]
    exact ⟨.inl rfl, hword _⟩
  | operator =>
    have hpoint : isInner '.' = true := by decide
    have hequals : isInner '=' = true := by decide
    rw [match?, operator?_cons] at h
    split_ifs at h <;> obtain rfl := Option.some.inj h <;> simp_all [Token.text_singleton]
  | punctuation =>
    rw [match?, punctuation?_eq_some_iff] at h
    obtain ⟨_, _, hinput, -, rfl⟩ := h
    obtain ⟨rfl, rfl⟩ := List.cons.inj hinput
    simp [Token.text_singleton]
  | escape | openInterpolation | closeString | stringText | closeCommand | commandText
  | closeInterpolation => exact absurd hrule (by decide)

theorem operator?_ne_none (hc : c = '?' ∨ isComposable c = true) (rest : Text) :
    operator? (c :: rest) ≠ none := by
  have hpoint : c ≠ '.' := by
    rintro rfl
    revert hc
    decide
  rw [operator?_cons, if_neg hpoint]
  by_cases hask : c = '?'
  · rw [if_pos hask]
    exact Option.some_ne_none _
  · rw [if_neg hask, if_pos (hc.resolve_left hask)]
    exact Option.some_ne_none _

/-- Some rule of program text recognises something at the head of a word, a number, white space,
an operator or punctuation. -/
theorem exists_match?_ne_none (hc : Text.isNameStart c = true ∨ Text.isDigit c = true ∨
      Text.isBlank c = true ∨ (c = '?' ∨ isComposable c = true) ∨ isPunctuation c = true)
    (before : Option Char) (rest : Text) :
    ∃ rule ∈ programRules, rule.match? before (c :: rest) ≠ none := by
  rcases hc with hname | hdigit | hblank | hoperator | hpunctuation
  · exact ⟨.name, by decide, by simp [match?, name?, hname]⟩
  · exact ⟨.integer, by decide, run?_ne_none hdigit _ rest⟩
  · exact ⟨.whitespace, by decide, run?_ne_none hblank _ rest⟩
  · exact ⟨.operator, by decide, operator?_ne_none hoperator rest⟩
  · exact ⟨.punctuation, by decide, by simp [match?, punctuation?, hpunctuation]⟩

end LexRule

namespace Lexer

open Token Enclosure

variable {e : Enclosure} {before : Option Char} {c : Char} {rest : Text}

theorem exists_firstMatch?_opening {state : LexState} (hhost : state ∈ e.hosts)
    (before : Option Char) (rest : Text) :
    ∃ rule, firstMatch? state.rules before (e.opening :: rest) = some (rule, [e.openingToken]) ∧
      rule.move = .enter e.state := by
  cases e with
  | string =>
    rcases List.mem_pair.mp hhost with rfl | rfl <;> exact ⟨.openString, rfl, rfl⟩
  | command =>
    rcases List.mem_pair.mp hhost with rfl | rfl <;> exact ⟨.openCommand, rfl, rfl⟩
  | interpolation =>
    rcases List.mem_pair.mp hhost with rfl | rfl <;> exact ⟨.openInterpolation, rfl, rfl⟩

theorem exists_firstMatch?_closing (e : Enclosure) (before : Option Char) (rest : Text) :
    ∃ rule, firstMatch? e.state.rules before (e.closing :: rest) = some (rule, [e.closingToken]) ∧
      rule.move = .leave := by
  cases e with
  | string => exact ⟨.closeString, rfl, rfl⟩
  | command => exact ⟨.closeCommand, rfl, rfl⟩
  | interpolation => exact ⟨.closeInterpolation, rfl, rfl⟩

theorem firstMatch?_escape (he : e ≠ .interpolation) (hc : c ≠ '\n') (before : Option Char)
    (rest : Text) :
    firstMatch? e.state.rules before ('\\' :: c :: rest) =
      some (.escape, [⟨.stringEscape, ['\\', c]⟩]) := by
  have hmatch : LexRule.escape.match? before ('\\' :: c :: rest) =
      some [⟨.stringEscape, ['\\', c]⟩] := by simp [LexRule.match?, LexRule.escape?, hc]
  cases e with
  | string | command => simp [firstMatch?, Enclosure.state, LexState.rules, hmatch]
  | interpolation => contradiction

theorem exists_match?_plain (hc : e.isPlain c = true) (before : Option Char) (rest : Text) :
    ∃ rule ∈ e.state.rules, rule.match? before (c :: rest) ≠ none := by
  cases e with
  | string => exact ⟨.stringText, by decide, LexRule.run?_ne_none hc _ rest⟩
  | command => exact ⟨.commandText, by decide, LexRule.run?_ne_none hc _ rest⟩
  | interpolation =>
    have hsigns : ∀ d ∈ "+-*%<>=!?()[],:;.".toList,
        (d = '?' ∨ LexRule.isComposable d = true) ∨ LexRule.isPunctuation d = true :=
      List.all_iff_forall_prop.mp (by decide)
    simp only [isPlain, isProgramText, Bool.or_eq_true, List.contains_iff_mem, or_assoc] at hc
    obtain ⟨rule, hrule, hmatch⟩ := LexRule.exists_match?_ne_none
      (hc.imp_right (Or.imp_right (Or.imp_right (hsigns c)))) before rest
    exact ⟨rule, List.mem_cons_of_mem _ hrule, hmatch⟩

/-- What is recognised at plain text stops in front of all that opens or closes. -/
theorem move_and_breaks_of_match? {rule : LexRule} {tokens : List Token} (hc : e.isPlain c = true)
    (hrule : rule ∈ e.state.rules) (h : rule.match? before (c :: rest) = some tokens) :
    rule.move = .stay ∧ ∀ d ∈ Token.text tokens, d ∉ e.breaks := by
  have hbreak := notMem_breaks_of_isPlain hc
  have hsingle {kind : TokenKind} {d : Char} (hd : d ∈ e.breaks) :
      LexRule.single? kind d (c :: rest) ≠ some tokens := by
    intro hsome
    obtain rfl := Option.some.inj (LexRule.single?_eq_some_iff.mp hsome).1
    exact hbreak hd
  cases e with
  | string | command =>
    simp only [Enclosure.state, LexState.rules, List.mem_cons, List.not_mem_nil, or_false] at hrule
    rcases hrule with rfl | rfl | rfl | rfl
    · obtain ⟨_, rfl, -⟩ := LexRule.escape?_cons_eq_some_iff.mp h
      exact absurd (by decide) hbreak
    · exact absurd h (hsingle (by decide))
    · exact absurd h (hsingle (by decide))
    · obtain ⟨-, rfl⟩ := LexRule.run?_eq_some_iff.mp h
      rw [text_singleton]
      exact ⟨rfl, fun d hd => notMem_breaks_of_isPlain (List.mem_takeWhile_imp hd)⟩
  | interpolation =>
    -- the rules of program text that could run on over a delimiter start with no plain character
    have hinner : ∀ d ∈ Enclosure.interpolation.breaks, LexRule.isInner d = false :=
      List.all_iff_forall_prop.mp (by decide)
    have hstay : ∀ rule ∈ LexRule.programRules, rule ≠ .openString → rule ≠ .openCommand →
        rule.move = .stay := by decide
    rcases List.mem_cons.mp hrule with rfl | hrule
    · exact absurd h (hsingle (by decide))
    have hstring : rule ≠ .openString := by
      rintro rfl
      exact hsingle (by decide) h
    have hcommand : rule ≠ .openCommand := by
      rintro rfl
      exact hsingle (by decide) h
    have hcomment : rule ≠ .comment := by
      rintro rfl
      obtain ⟨_, hinput, -⟩ := LexRule.comment?_eq_some_iff.mp h
      obtain ⟨rfl, -⟩ := List.cons.inj hinput
      exact absurd hc (by decide)
    refine ⟨hstay rule hrule hstring hcommand, fun d hd hmem => ?_⟩
    rcases LexRule.eq_or_isInner_of_match? hrule hcomment h d hd with rfl | hd
    · exact hbreak hmem
    · exact Bool.false_ne_true ((hinner d hmem).symm.trans hd)

theorem exists_firstMatch?_plain (hc : e.isPlain c = true) (before : Option Char) (rest : Text) :
    ∃ rule tokens, firstMatch? e.state.rules before (c :: rest) = some (rule, tokens) ∧
      rule.move = .stay ∧ ∀ d ∈ Token.text tokens, d ∉ e.breaks := by
  obtain ⟨candidate, hmem, hcandidate⟩ := exists_match?_plain hc before rest
  obtain ⟨⟨rule, tokens⟩, hfirst⟩ :=
    Option.ne_none_iff_exists'.mp (firstMatch?_ne_none hmem hcandidate)
  obtain ⟨hrule, hmatch⟩ := firstMatch?_eq_some hfirst
  exact ⟨rule, tokens, hfirst, move_and_breaks_of_match? hc hrule hmatch⟩

end Lexer

/-! ### Passing over complete texts -/

/-- Leaving a state leads back to the stack on which it was entered. -/
theorem LexStack.move_enter_leave (stack : LexStack) (state : LexState) :
    (stack.move (.enter state)).move .leave = stack := rfl

namespace Lexer

open Token

variable {e : Enclosure} {c : Char} {rest : Text}

/-- Behind a front, the lexer passes over a part of a text by tokens none of which is an error. -/
structure Passes (front : Text) (stack : LexStack) (part rest : Text) (tokens : List Token)
    (next : LexStack) : Prop where
  leads : Leads (front ++ (part ++ rest)) ⟨front.length, stack⟩
    (withPositions front.length tokens) ⟨front.length + part.length, next⟩
  text_eq : Token.text tokens = part
  kind_ne_error : ∀ t ∈ tokens, t.kind ≠ .error

namespace Passes

variable {front u v : Text} {stack middle next : LexStack} {a b tokens : List Token}
  {rule : LexRule}

theorem nil (front : Text) (stack : LexStack) (rest : Text) :
    Passes front stack [] rest [] stack :=
  ⟨.refl _, rfl, by simp⟩

theorem append (ha : Passes front stack u (v ++ rest) a middle)
    (hb : Passes (front ++ u) middle v rest b next) :
    Passes front stack (u ++ v) rest (a ++ b) next where
  leads := by
    have hleads := hb.leads
    rw [List.append_assoc, List.length_append] at hleads
    rw [List.append_assoc, withPositions_append, ha.text_eq, List.length_append, ← Nat.add_assoc]
    exact ha.leads.trans hleads
  text_eq := by rw [text_append, ha.text_eq, hb.text_eq]
  kind_ne_error := List.forall_mem_append.mpr ⟨ha.kind_ne_error, hb.kind_ne_error⟩

/-- The lexer passes over what its first rule recognises. -/
theorem of_rule (h : firstMatch? stack.top.rules front.getLast? (u ++ rest) = some (rule, tokens))
    (hu : Token.text tokens = u) : Passes front stack u rest tokens (stack.move rule.move) := by
  have hmatch := (firstMatch?_eq_some h).2
  obtain ⟨c, part, rfl⟩ : ∃ c part, u = c :: part :=
    List.exists_cons_of_ne_nil (hu ▸ (LexRule.begin_of_match? hmatch).1)
  have hstep : step stack front.getLast? c (part ++ rest) = (tokens, stack.move rule.move) :=
    step_of_firstMatch? h
  have hleads := leads_of_step hstep
  rw [hu] at hleads
  exact ⟨hleads, hu, fun t ht => (LexRule.ne_nil_and_ne_error_of_match? hmatch t ht).2⟩

/-- An enclosure is passed over if what it holds is. -/
theorem enclosed (hhost : stack.top ∈ e.hosts)
    (h : Passes (front ++ [e.opening]) (stack.move (.enter e.state)) v (e.closing :: rest) tokens
      (stack.move (.enter e.state))) :
    Passes front stack (e.opening :: (v ++ [e.closing])) rest
      (e.openingToken :: (tokens ++ [e.closingToken])) stack := by
  obtain ⟨enter, henter, hmove⟩ :=
    exists_firstMatch?_opening hhost front.getLast? (v ++ [e.closing] ++ rest)
  obtain ⟨leave, hleave, hmove'⟩ :=
    exists_firstMatch?_closing e (front ++ [e.opening] ++ v).getLast? rest
  have hopen : Passes front stack [e.opening] (v ++ [e.closing] ++ rest) [e.openingToken]
      (stack.move enter.move) := of_rule henter (text_singleton _)
  have hclose : Passes (front ++ [e.opening] ++ v) (stack.move (.enter e.state)) [e.closing] rest
      [e.closingToken] ((stack.move (.enter e.state)).move leave.move) :=
    of_rule hleave (text_singleton _)
  rw [hmove] at hopen
  rw [hmove', LexStack.move_enter_leave] at hclose
  exact hopen.append (h.append hclose)

end Passes

/-- At plain text the lexer passes over some of it, and what is left is complete, too. -/
theorem exists_passes_plain {u : Text} (hc : e.isPlain c = true) (h : Complete e (c :: u))
    (front : Text) (stack : LexStack) (htop : stack.top = e.state) (rest : Text) :
    ∃ tokens after, c :: u = Token.text tokens ++ after ∧ Token.text tokens ≠ [] ∧
      Complete e after ∧
      Passes front stack (Token.text tokens) (after ++ e.closing :: rest) tokens stack := by
  obtain ⟨rule, tokens, hfirst, hmove, hbreaks⟩ :=
    exists_firstMatch?_plain hc front.getLast? (u ++ e.closing :: rest)
  obtain ⟨hne, hstart⟩ := LexRule.begin_of_match? (firstMatch?_eq_some hfirst).2
  -- what the rule recognises does not reach the end of the enclosure
  obtain ⟨after, hsplit, hafter⟩ := h.exists_append hstart hbreaks
  rw [← List.cons_append, hsplit, List.append_assoc, ← htop] at hfirst
  have hpasses := Passes.of_rule hfirst rfl
  rw [hmove] at hpasses
  exact ⟨tokens, after, hsplit, hne, hafter, hpasses⟩

/-- The lexer passes over a complete text up to the end of its enclosure, and comes back to the
stack in front of it. -/
theorem exists_passes {u : Text} (h : Complete e u) (front : Text) (stack : LexStack)
    (htop : stack.top = e.state) (rest : Text) :
    ∃ tokens, Passes front stack u (e.closing :: rest) tokens stack := by
  -- by length, as a rule passes over several plain characters at once
  induction hlength : u.length using Nat.strong_induction_on
    generalizing e u front stack rest with
  | _ length ih =>
    cases h with
    | nil => exact ⟨[], .nil front stack _⟩
    | @plain _ c u hc hu =>
      obtain ⟨tokens, after, hsplit, hne, hafter, hpasses⟩ :=
        exists_passes_plain hc (.plain hc hu) front stack htop rest
      have hshorter : after.length < length := by
        have hpos := List.length_pos_iff.mpr hne
        rw [← hlength, hsplit, List.length_append]
        omega
      obtain ⟨more, hmore⟩ := ih after.length hshorter hafter (front ++ Token.text tokens) stack
        htop rest rfl
      exact ⟨tokens ++ more, hsplit ▸ hpasses.append hmore⟩
    | @escape _ c u he hc hu =>
      have hfirst := firstMatch?_escape he hc front.getLast? (u ++ e.closing :: rest)
      rw [← htop] at hfirst
      have hescape : Passes front stack ['\\', c] (u ++ e.closing :: rest)
          [⟨.stringEscape, ['\\', c]⟩] (stack.move LexRule.escape.move) :=
        .of_rule hfirst (text_singleton _)
      have hshorter : u.length < length := by
        rw [← hlength, List.length_cons, List.length_cons]
        omega
      obtain ⟨more, hmore⟩ := ih u.length hshorter hu (front ++ ['\\', c]) stack htop rest rfl
      exact ⟨_, hescape.append hmore⟩
    | @enclosed _ f v u hhost hv hu =>
      rw [List.length_cons, List.length_append, List.length_cons] at hlength
      obtain ⟨held, hheld⟩ := ih v.length (by omega) hv (front ++ [f.opening])
        (stack.move (.enter f.state)) rfl (u ++ e.closing :: rest) rfl
      obtain ⟨more, hmore⟩ := ih u.length (by omega) hu (front ++ f.opening :: (v ++ [f.closing]))
        stack htop rest rfl
      have hpasses := (Passes.enclosed (htop ▸ hhost) hheld).append hmore
      rw [List.cons_append, List.append_assoc, List.singleton_append] at hpasses
      exact ⟨_, hpasses⟩

/-- An enclosure in which all that is opened is closed lexes without errors at every point where it
may open: a literal in program text, at the top level or in an interpolation, and an interpolation
in a literal. Its tokens stand for all of it, the delimiters have tokens of their own at both ends,
and behind it the lexer has the stack that it had in front of it. -/
theorem enclosure_lexes_without_errors {text inner : Text} {p : Point}
    {earlier : List (Nat × Token)} (hinner : Complete e inner)
    (hp : Leads text .start earlier p) (hhost : p.stack.top ∈ e.hosts)
    (hfollows : e.opening :: (inner ++ [e.closing]) <+: text.drop p.position) :
    ∃ middle,
      let whole := e.opening :: (inner ++ [e.closing])
      let emitted := e.openingToken :: (middle ++ [e.closingToken])
      let behind : Point := ⟨p.position + whole.length, p.stack⟩
      Token.text emitted = whole ∧ (∀ t ∈ emitted, t.kind ≠ .error) ∧
        Leads text p (withPositions p.position emitted) behind ∧
        withPositions 0 (tokens text) =
          earlier ++ withPositions p.position emitted ++ tokensAt text behind := by
  obtain ⟨rest, hrest⟩ := hfollows
  have hlength : (text.take p.position).length = p.position := by
    have hdrop := congrArg List.length hrest
    rw [List.length_drop, List.length_append, List.length_cons] at hdrop
    rw [List.length_take]
    omega
  obtain ⟨middle, hmiddle⟩ := exists_passes hinner (text.take p.position ++ [e.opening])
    (p.stack.move (.enter e.state)) rfl rest
  obtain ⟨hleads, htext, herror⟩ := Passes.enclosed hhost hmiddle
  rw [hrest, List.take_append_drop, hlength] at hleads
  refine ⟨middle, htext, herror, hleads, ?_⟩
  calc withPositions 0 (tokens text) = tokensAt text .start := rfl
    _ = earlier ++ tokensAt text p := hp.tokensAt_eq
    _ = _ := by rw [hleads.tokensAt_eq, List.append_assoc]

/-- A string with a command in an interpolation, behind the word that prints it. -/
theorem enclosure_lexes_without_errors_nested :
    let text := "echo \"\x7b$pwd$\x7d!\"".toList
    let inner := "\x7b$pwd$\x7d!".toList
    let earlier := [(0, (⟨.nameBuiltin, "echo".toList⟩ : Token)), (4, ⟨.whitespace, [' ']⟩)]
    let p : Point := ⟨5, LexStack.initial⟩
    Complete .string inner ∧ Leads text .start earlier p ∧ p.stack.top ∈ Enclosure.string.hosts ∧
      '"' :: (inner ++ ['"']) <+: text.drop p.position ∧
      ∃ middle,
        let emitted : List Token :=
          ⟨.stringDouble, ['"']⟩ :: (middle ++ [⟨.stringDouble, ['"']⟩])
        Token.text emitted = '"' :: (inner ++ ['"']) ∧ (∀ t ∈ emitted, t.kind ≠ .error) ∧
          Leads text p (withPositions p.position emitted) ⟨15, LexStack.initial⟩ ∧
          withPositions 0 (tokens text) =
            earlier ++ withPositions p.position emitted ++
              tokensAt text ⟨15, LexStack.initial⟩ := by
  intro text inner earlier p
  have hcommand : Complete .interpolation ['$', 'p', 'w', 'd', '$'] :=
    .enclosed (f := .command) (v := ['p', 'w', 'd']) (by decide)
      (.plain rfl (.plain rfl (.plain rfl (.nil _)))) (.nil _)
  have hinner : Complete .string inner :=
    .enclosed (f := .interpolation) (by decide) hcommand (.plain rfl (.nil _))
  have hword : turn? text .start =
      some ([(0, ⟨.nameBuiltin, "echo".toList⟩)], ⟨4, LexStack.initial⟩) := by decide +kernel
  have hgap : turn? text ⟨4, LexStack.initial⟩ = some ([(4, ⟨.whitespace, [' ']⟩)], p) := by
    decide +kernel
  have hp : Leads text .start earlier p := .turn hword (.turn hgap (.refl p))
  have hhost : p.stack.top ∈ Enclosure.string.hosts := by decide
  have hfollows : '"' :: (inner ++ ['"']) <+: text.drop p.position := by decide +kernel
  exact ⟨hinner, hp, hhost, hfollows,
    enclosure_lexes_without_errors hinner hp hhost hfollows⟩

end Lexer
end AmberTools
