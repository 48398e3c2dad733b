import AmberTools.Proofs.Token.First
import AmberTools.Proofs.Token.Literals

/-!
# Rules by the class of a character

The character at a position says which rules can recognise anything there. Characters fall into
classes, and at each class a state has few candidates: the rules that may start with a character
of the class. All other rules of the state are out of the question, so the first rule that
recognises something is the first candidate that does.

## Main definitions

* `LexClass`: the classes of characters that rules tell apart.
* `LexRule.admits`: the classes at which a rule may start.
* `LexState.readsProgram`: the states for program text, at the top level or in an interpolation.
* `LexState.candidates`: the rules of a state that may start at a class.

## Main results

* `LexRule.admits_of_match?`: a rule recognises nothing at characters of other classes.
* `Lexer.firstMatch?_candidates`: only candidates need to be tried.
-/

namespace AmberTools

namespace Text

variable {c : Char}

theorem isDigit_of_isBlank (h : isBlank c = true) : isDigit c = false := by
  have hcodes : ∀ n ∈ blankCodes, isDigit (Char.ofNat n) = false := by decide +kernel
  rw [← Char.ofNat_toNat c]
  exact hcodes _ (toNat_mem_blankCodes h)

theorem isDigit_of_isNameStart (h : isNameStart c = true) : isDigit c = false := by
  have hcodes : ∀ n < 0x80, isNameStart (Char.ofNat n) = true → isDigit (Char.ofNat n) = false := by
    decide +kernel
  rw [← Char.ofNat_toNat c] at h ⊢
  rw [Char.ofNat_toNat] at h
  exact hcodes _ (toNat_lt_of_isNameStart h) (by rwa [Char.ofNat_toNat])

end Text

/-- The classes of characters that rules tell apart. A sign is an operator by itself, and brackets
are all punctuation but points and braces. -/
inductive LexClass where
  | blank
  | letter
  | digit
  | quote
  | dollar
  | slash
  | point
  | openBrace
  | closeBrace
  | backslash
  | sign
  | bracket
  | other
  deriving DecidableEq, Repr

namespace LexClass

/-- The class of a character that starts no name and no number and is not blank. -/
def ofSign : Char → LexClass
  | '"' => quote
  | '$' => dollar
  | '/' => slash
  | '.' => point
  | '\x7b' => openBrace
  | '\x7d' => closeBrace
  | '\\' => backslash
  | '=' | '!' | '<' | '>' | '+' | '-' | '*' | '%' | '?' => sign
  | '(' | ')' | '[' | ']' | ',' | ':' | ';' => bracket
  | _ => other

/-- The class of a character. -/
def ofChar (c : Char) : LexClass :=
  if Text.isBlank c then blank
  else if Text.isNameStart c then letter
  else if Text.isDigit c then digit
  else ofSign c

/-- The character of a class that has only one. -/
def char? : LexClass → Option Char
  | quote => some '"'
  | dollar => some '$'
  | slash => some '/'
  | point => some '.'
  | openBrace => some '\x7b'
  | closeBrace => some '\x7d'
  | backslash => some '\\'
  | _ => none

variable {c d : Char}

theorem ofChar_of_isBlank (h : Text.isBlank c = true) : ofChar c = blank := by
  rw [ofChar, if_pos h]

theorem ofChar_of_isNameStart (h : Text.isNameStart c = true) : ofChar c = letter := by
  have hblank := Text.isBlank_of_isWord (Text.isWord_of_isNameStart h)
  rw [ofChar, if_neg (Bool.eq_false_iff.mp hblank), if_pos h]

theorem ofChar_of_isDigit (h : Text.isDigit c = true) : ofChar c = digit := by
  have hblank : Text.isBlank c ≠ true := fun hblank =>
    Bool.false_ne_true ((Text.isDigit_of_isBlank hblank).symm.trans h)
  have hletter : Text.isNameStart c ≠ true := fun hletter =>
    Bool.false_ne_true ((Text.isDigit_of_isNameStart hletter).symm.trans h)
  rw [ofChar, if_neg hblank, if_neg hletter, if_pos h]

theorem eq_of_char?_ofChar (h : (ofChar c).char? = some d) : c = d := by
  rw [ofChar] at h
  split_ifs at h
  · contradiction
  · contradiction
  · contradiction
  · unfold ofSign at h
    split at h <;> first | exact Option.some.inj h | contradiction

theorem ofChar_ne {k : LexClass} (hk : k.char? = some d) (hc : c ≠ d) : ofChar c ≠ k := by
  rintro rfl
  exact hc (eq_of_char?_ofChar hk)

end LexClass

namespace LexRule

open LexClass

variable {rule : LexRule} {before : Option Char} {c : Char} {rest : Text} {tokens : List Token}

/-- Whether a rule may start at the characters of a class. -/
def admits : LexRule → LexClass → Bool
  | whitespace, k => k == blank
  | comment, k => k == slash
  | openString, k | closeString, k => k == quote
  | openCommand, k | closeCommand, k => k == dollar
  | declaration, k | words _, k | name, k => k == letter
  | float, k | integer, k => k == digit
  | operator, k => k == slash || k == point || k == sign
  | punctuation, k => k == point || k == openBrace || k == closeBrace || k == bracket
  | escape, k => k == backslash
  | openInterpolation, k => k == openBrace
  | closeInterpolation, k => k == closeBrace
  | stringText, k => k != quote && k != backslash && k != openBrace
  | commandText, k => k != dollar && k != backslash && k != openBrace

/-- The words of all tables are names. -/
theorem isNameStart_of_words? {table : WordTable}
    (h : words? table before (c :: rest) = some tokens) : Text.isNameStart c = true := by
  have hhead : ∀ word ∈ table.words, word.head?.all Text.isNameStart = true :=
    List.all_iff_forall_prop.mp (by cases table <;> decide)
  obtain ⟨-, hword, -⟩ := words?_eq_some_iff.mp h
  have hc : Text.isWord c = true :=
    of_takeWhile_ne_nil fun hnil => nil_not_mem_words table (hnil ▸ hword)
  have hstart := hhead _ hword
  rwa [List.takeWhile_cons_of_pos hc, List.head?_cons, Option.all_some] at hstart

theorem admits_of_match? (h : rule.match? before (c :: rest) = some tokens) :
    rule.admits (ofChar c) = true := by
  have hstarts := startsAt_of_match? h
  cases rule with
  | whitespace => rw [ofChar_of_isBlank hstarts]; rfl
  | float | integer => rw [ofChar_of_isDigit hstarts]; rfl
  | name => rw [ofChar_of_isNameStart hstarts]; rfl
  | words table => rw [ofChar_of_isNameStart (isNameStart_of_words? h)]; rfl
  | comment | openString | openCommand | declaration | escape | openInterpolation | closeString
  | closeCommand | closeInterpolation =>
    obtain rfl := eq_of_beq hstarts
    decide
  | operator =>
    have hsigns : ∀ d ∈ ".?=!<>+-*/%".toList, operator.admits (ofChar d) = true :=
      List.all_iff_forall_prop.mp (by decide)
    refine hsigns c ?_
    simpa [startsAt, isComposable, or_assoc] using hstarts
  | punctuation =>
    have hsigns : ∀ d ∈ "\x7b\x7d()[],:;.".toList, punctuation.admits (ofChar d) = true :=
      List.all_iff_forall_prop.mp (by decide)
    refine hsigns c ?_
    simpa [startsAt, isPunctuation, or_assoc] using hstarts
  | stringText =>
    simp only [startsAt, isLiteralText, Bool.and_eq_true, bne_iff_ne] at hstarts
    obtain ⟨⟨hquote, hbackslash⟩, hbrace⟩ := hstarts
    simp [admits, ofChar_ne (k := quote) rfl hquote, ofChar_ne (k := backslash) rfl hbackslash,
      ofChar_ne (k := openBrace) rfl hbrace]
  | commandText =>
    simp only [startsAt, isLiteralText, Bool.and_eq_true, bne_iff_ne] at hstarts
    obtain ⟨⟨hdollar, hbackslash⟩, hbrace⟩ := hstarts
    simp [admits, ofChar_ne (k := dollar) rfl hdollar, ofChar_ne (k := backslash) rfl hbackslash,
      ofChar_ne (k := openBrace) rfl hbrace]

end LexRule

/-- The states in which program text is read. -/
def LexState.readsProgram : LexState → Bool
  | root | interpolation => true
  | string | command => false

/-- Declarations stand in program text only. -/
theorem LexState.readsProgram_of_declaration {state : LexState} (h : .declaration ∈ state.rules) :
    state.readsProgram = true := by
  revert h
  cases state <;> decide

/-- The rules of a state that may start at the characters of a class, in order. -/
def LexState.candidates (state : LexState) (k : LexClass) : List LexRule :=
  state.rules.filter (·.admits k)

namespace Lexer

/-- The first rule that recognises something is the one in front of which no rule does. -/
theorem firstMatch?_eq_some_iff {rules : List LexRule} {before : Option Char} {input : Text}
    {rule : LexRule} {tokens : List Token} :
    firstMatch? rules before input = some (rule, tokens) ↔
      ∃ earlier later, rules = earlier ++ rule :: later ∧
        rule.match? before input = some tokens ∧
        ∀ other ∈ earlier, other.match? before input = none := by
  rw [firstMatch?, List.findSome?_eq_some_iff]
  constructor
  · rintro ⟨earlier, rule', later, hsplit, hrule, hearlier⟩
    obtain ⟨_, hmatch, hpair⟩ := Option.map_eq_some_iff.mp hrule
    obtain ⟨rfl, rfl⟩ := Prod.mk.inj hpair
    exact ⟨earlier, later, hsplit, hmatch, fun other hother =>
      Option.map_eq_none_iff.mp (hearlier other hother)⟩
  · rintro ⟨earlier, later, hsplit, hmatch, hearlier⟩
    refine ⟨earlier, rule, later, hsplit, ?_, fun other hother => ?_⟩
    · rw [hmatch, Option.map_some]
    · rw [hearlier other hother, Option.map_none]

/-- Rules that recognise nothing can be left aside. -/
theorem firstMatch?_filter {rules : List LexRule} {before : Option Char} {input : Text}
    {p : LexRule → Bool} (h : ∀ rule ∈ rules, rule.match? before input ≠ none → p rule = true) :
    firstMatch? (rules.filter p) before input = firstMatch? rules before input := by
  induction rules with
  | nil => rfl
  | cons rule rules ih =>
    obtain ⟨hrule, hrules⟩ := List.forall_mem_cons.mp h
    have hrest := ih hrules
    by_cases hp : p rule = true
    · rw [List.filter_cons_of_pos hp]
      rw [firstMatch?] at hrest ⊢
      rw [firstMatch?, List.findSome?_cons, List.findSome?_cons, hrest, firstMatch?]
    · have hnone : rule.match? before input = none := not_not.mp (mt hrule hp)
      rw [List.filter_cons_of_neg hp, hrest, firstMatch?, firstMatch?, List.findSome?_cons, hnone,
        Option.map_none]

/-- In each state only the candidates at the first character need to be tried. -/
theorem firstMatch?_candidates (state : LexState) (before : Option Char) (c : Char) (rest : Text) :
    firstMatch? (state.candidates (.ofChar c)) before (c :: rest) =
      firstMatch? state.rules before (c :: rest) := by
  refine firstMatch?_filter fun rule _ hmatch => ?_
  obtain ⟨tokens, htokens⟩ := Option.ne_none_iff_exists'.mp hmatch
  exact LexRule.admits_of_match? htokens

end Lexer
end AmberTools
