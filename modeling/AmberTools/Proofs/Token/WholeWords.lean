import AmberTools.Proofs.Token.Candidates
import AmberTools.Proofs.Token.Points

/-!
# Whole words

In program text a word is never split. At its first character only the rules for declarations,
tables and names come into question. A declaration needs the word `fun`, blank characters and the
start of a name, and takes the whole of all three. Otherwise the word is one token, of the kind of
the table in which it stands, which is at most one, and a plain name if it stands in none. A word of
a table at the start of a longer word does not count, since the run of word characters goes on.

## Main definitions

* `LexRule.Declares`: texts with a function's declaration at the start.
* `Lexer.GoesOn`: the tokens with which lexing goes on at a point.

## Main results

* `LexRule.declaration?_eq_some_iff_declares`: what a declaration is, word by word.
* `Lexer.exists_firstMatch?_word`: the token of a word.
* `Lexer.word_is_never_split`: words at every point of every text.
-/

namespace AmberTools

/-- No word is in two tables. -/
theorem WordTable.eq_of_mem_words {table table' : WordTable} {word : Text}
    (h : word ∈ table.words) (h' : word ∈ table'.words) : table = table' := by
  have hall : ∀ w ∈ table.words, w ∈ table'.words → table = table' := by
    cases table <;> cases table' <;> decide
  exact hall word h h'

namespace Text

/-- The word at the start of a text, the blank characters behind it, and the word behind these. -/
def firstWord (text : Text) : Text := text.takeWhile isWord

@[inherit_doc firstWord]
def gap (text : Text) : Text := (text.dropWhile isWord).takeWhile isBlank

@[inherit_doc firstWord]
def secondWord (text : Text) : Text := firstWord ((text.dropWhile isWord).dropWhile isBlank)

variable {text : Text}

theorem firstWord_of_isNameStart {c : Char} (hc : isNameStart c = true) (rest : Text) :
    firstWord (c :: rest) = c :: firstWord rest :=
  List.takeWhile_cons_of_pos (isWord_of_isNameStart hc)

theorem exists_cons_of_startsName (h : ∃ c ∈ (firstWord text).head?, isNameStart c = true) :
    ∃ c rest, text = c :: rest ∧ isNameStart c = true := by
  obtain ⟨c, hc, hstart⟩ := h
  obtain ⟨more, hmore⟩ := List.head?_eq_some_iff.mp hc
  obtain ⟨rest, hrest⟩ : c :: more <+: text := hmore ▸ List.takeWhile_prefix _
  exact ⟨c, more ++ rest, hrest.symm, hstart⟩

end Text

namespace LexRule

open Text

variable {input : Text} {tokens : List Token}

/-- The rules that are tried at a word before that for names. -/
def wordRules : List LexRule :=
  [declaration, words .keywords, words .types, words .constants, words .builtins]

theorem words_mem_wordRules (table : WordTable) : words table ∈ wordRules := by
  cases table <;> decide

/-- A declaration at the start of a text: the word `fun`, blank characters and a name. -/
structure Declares (input : Text) : Prop where
  firstWord_eq : firstWord input = "fun".toList
  gap_ne_nil : gap input ≠ []
  startsName : ∃ c ∈ (secondWord input).head?, isNameStart c = true

theorem name?_eq_some_iff_firstWord {name : Text} :
    name? input = some name ↔
      (∃ c ∈ (firstWord input).head?, isNameStart c = true) ∧ name = firstWord input := by
  rw [name?_eq_some_iff]
  constructor
  · rintro ⟨c, rest, rfl, hc, rfl⟩
    rw [firstWord_of_isNameStart hc]
    exact ⟨⟨c, rfl, hc⟩, rfl⟩
  · rintro ⟨hstarts, rfl⟩
    obtain ⟨c, rest, rfl, hc⟩ := exists_cons_of_startsName hstarts
    exact ⟨c, rest, rfl, hc, firstWord_of_isNameStart hc rest⟩

/-- A declaration takes the word `fun`, the gap behind it and the name, all of them whole. -/
theorem declaration?_eq_some_iff_declares :
    declaration? input = some tokens ↔ Declares input ∧
      tokens = [⟨.keywordDeclaration, firstWord input⟩, ⟨.whitespace, gap input⟩,
        ⟨.nameFunction, secondWord input⟩] := by
  constructor
  · intro h
    obtain ⟨rest, name, rfl, hgap, hname, rfl⟩ := declaration?_eq_some_iff.mp h
    obtain ⟨hstarts, rfl⟩ := name?_eq_some_iff_firstWord.mp hname
    -- the word ends where the gap begins
    have hrun : ∀ d ∈ "fun".toList, isWord d = true := List.all_iff_forall_prop.mp (by decide)
    have hrest : ∀ d ∈ rest.head?, isWord d = false := by
      intro d hd
      obtain ⟨after, rfl⟩ := List.head?_eq_some_iff.mp hd
      exact isWord_of_isBlank (of_takeWhile_ne_nil hgap)
    have hword : firstWord ('f' :: 'u' :: 'n' :: rest) = "fun".toList :=
      takeWhile_append hrun hrest
    have hbehind : ('f' :: 'u' :: 'n' :: rest).dropWhile isWord = rest :=
      dropWhile_append hrun hrest
    have hgap' : gap ('f' :: 'u' :: 'n' :: rest) = rest.takeWhile isBlank := by rw [gap, hbehind]
    have hname' : secondWord ('f' :: 'u' :: 'n' :: rest) = firstWord (rest.dropWhile isBlank) := by
      rw [secondWord, hbehind]
    rw [hword, hgap', hname']
    exact ⟨⟨hword, hgap' ▸ hgap, hname' ▸ hstarts⟩, rfl⟩
  · rintro ⟨⟨hword, hgap, hstarts⟩, rfl⟩
    have hinput : input = 'f' :: 'u' :: 'n' :: input.dropWhile isWord := by
      conv_lhs => rw [← List.takeWhile_append_dropWhile (p := isWord) (l := input)]
      exact congrArg (· ++ input.dropWhile isWord) hword
    rw [hword]
    exact declaration?_eq_some_iff.mpr
      ⟨_, _, hinput, hgap, name?_eq_some_iff_firstWord.mpr ⟨hstarts, rfl⟩, rfl⟩

theorem declaration?_eq_none_iff : declaration? input = none ↔ ¬ Declares input := by
  rw [← not_iff_not, not_not, ← ne_eq, Option.ne_none_iff_exists']
  simp [declaration?_eq_some_iff_declares]

end LexRule

namespace Lexer

open Text Token LexRule

variable {text : Text} {p : Point} {earlier : List (Nat × Token)} {state : LexState}
  {before : Option Char} {c : Char} {rest : Text}

/-- At the start of a name the candidates are the rules for words. -/
theorem firstMatch?_of_isNameStart (hstate : state.readsProgram = true)
    (hc : isNameStart c = true) (before : Option Char) (rest : Text) :
    firstMatch? state.rules before (c :: rest) =
      firstMatch? (wordRules ++ [name]) before (c :: rest) := by
  rw [← firstMatch?_candidates, LexClass.ofChar_of_isNameStart hc]
  cases state with
  | root | interpolation => rfl
  | string | command => contradiction

theorem firstMatch?_declaration {input : Text} {tokens : List Token}
    (hstate : state.readsProgram = true) (h : declaration? input = some tokens)
    (before : Option Char) : firstMatch? state.rules before input = some (declaration, tokens) := by
  have hmatch : declaration.match? before input = some tokens := h
  obtain ⟨rest, _, rfl, -⟩ := declaration?_eq_some_iff.mp h
  rw [firstMatch?_of_isNameStart hstate (by decide)]
  exact firstMatch?_eq_some_iff.mpr ⟨[], _, rfl, hmatch, by simp⟩

/-- Where no declaration is, only words of the tables are recognised in front of names. -/
theorem exists_table_of_firstMatch? {input : Text} {rule : LexRule} {tokens : List Token}
    (hnone : declaration? input = none)
    (h : firstMatch? wordRules before input = some (rule, tokens)) :
    ∃ table : WordTable, rule = words table ∧ firstWord input ∈ table.words ∧
      tokens = [⟨table.kind, firstWord input⟩] := by
  obtain ⟨hrule, hmatch⟩ := firstMatch?_eq_some h
  cases rule with
  | declaration =>
    rw [match?, hnone] at hmatch
    contradiction
  | words table =>
    obtain ⟨-, hmem, rfl⟩ := words?_eq_some_iff.mp hmatch
    exact ⟨table, rfl, hmem, rfl⟩
  | _ => exact absurd hrule (by decide)

/-- Where no declaration is, a word is one token. The character in front matters for its kind
only. -/
theorem exists_firstMatch?_word (hstate : state.readsProgram = true) (hc : isNameStart c = true)
    (hnone : declaration? (c :: rest) = none) (before : Option Char) :
    ∃ rule kind, firstMatch? state.rules before (c :: rest) =
        some (rule, [⟨kind, firstWord (c :: rest)⟩]) ∧
      rule.move = .stay ∧ kind ≠ .whitespace ∧
      (before.any isWord = false →
        (∀ table : WordTable, firstWord (c :: rest) ∈ table.words → kind = table.kind) ∧
        ((∀ table : WordTable, firstWord (c :: rest) ∉ table.words) → kind = .plainName)) := by
  rw [firstMatch?_of_isNameStart hstate hc]
  cases hfirst : firstMatch? wordRules before (c :: rest) with
  | some found =>
    obtain ⟨table, hrule, hmem, htokens⟩ := exists_table_of_firstMatch? hnone hfirst
    have hsome : firstMatch? wordRules before (c :: rest) ≠ none := hfirst ▸ Option.some_ne_none _
    have hkind : table.kind ≠ .whitespace := by cases table <;> decide
    refine ⟨words table, table.kind, ?_, rfl, hkind, fun _ =>
      ⟨fun other hother => ?_, fun hno => ?_⟩⟩
    · rw [firstMatch?_append hsome, hfirst, ← hrule, ← htokens]
    · rw [WordTable.eq_of_mem_words hmem hother]
    · exact absurd hmem (hno table)
  | none =>
    have hname : name.match? before (c :: rest) = some [⟨.plainName, firstWord (c :: rest)⟩] := by
      have hvalue : name? (c :: rest) = some (firstWord (c :: rest)) :=
        name?_eq_some_iff_firstWord.mpr ⟨⟨c, by rw [firstWord_of_isNameStart hc]; rfl, hc⟩, rfl⟩
      rw [match?, hvalue, Option.map_some]
    have hfront : ∀ rule ∈ wordRules, rule.match? before (c :: rest) = none := by
      intro rule hrule
      by_contra hmatch
      exact firstMatch?_ne_none hrule hmatch hfirst
    refine ⟨name, .plainName, firstMatch?_eq_some_iff.mpr ⟨_, [], rfl, hname, hfront⟩, rfl,
      by decide, fun hbefore => ⟨fun table hmem => ?_, fun _ => rfl⟩⟩
    -- a word of a table would have been recognised in front of the name
    have hmatch : words? table before (c :: rest) = some _ :=
      words?_eq_some_iff.mpr ⟨hbefore, hmem, rfl⟩
    rw [← match?, hfront _ (words_mem_wordRules table)] at hmatch
    contradiction

/-- Behind earlier tokens, lexing goes on at a point by these tokens of one turn, and then with the
same stack. -/
structure GoesOn (text : Text) (earlier : List (Nat × Token)) (p : Point) (tokens : List Token) :
    Prop where
  turn : turn? text p = some (withPositions p.position tokens,
    ⟨p.position + (Token.text tokens).length, p.stack⟩)
  tokens_eq : withPositions 0 (Lexer.tokens text) =
    earlier ++ withPositions p.position tokens ++
      tokensAt text ⟨p.position + (Token.text tokens).length, p.stack⟩

theorem GoesOn.of_firstMatch? {rule : LexRule} {tokens : List Token}
    (hp : Leads text .start earlier p)
    (hfirst : firstMatch? p.stack.top.rules (text.take p.position).getLast?
      (text.drop p.position) = some (rule, tokens)) (hmove : rule.move = .stay) :
    GoesOn text earlier p tokens := by
  have hturn : turn? text p = some (withPositions p.position tokens,
      ⟨p.position + (Token.text tokens).length, p.stack⟩) := by
    rw [turn?_of_firstMatch? hfirst, hmove]
    rfl
  refine ⟨hturn, ?_⟩
  calc withPositions 0 (Lexer.tokens text) = tokensAt text .start := rfl
    _ = earlier ++ tokensAt text p := hp.tokensAt_eq
    _ = _ := by rw [tokensAt_of_turn? hturn, List.append_assoc]

/-- A word at a point in program text is never split. The word `fun` in front of blank characters
and a name is a declaration, which comes in three tokens for the word, the whole gap and the whole
name. Any other word that does not continue another one is a single token. Its kind is that of
every table in which the word stands, and it is a plain name if there is no such table. -/
theorem word_is_never_split (hp : Leads text .start earlier p)
    (hstate : p.stack.top = .root ∨ p.stack.top = .interpolation)
    (hstart : ∃ c ∈ text[p.position]?, isNameStart c = true)
    (hbefore : (text.take p.position).getLast?.any isWord = false) :
    let input := text.drop p.position
    (Declares input → GoesOn text earlier p
      [⟨.keywordDeclaration, firstWord input⟩, ⟨.whitespace, gap input⟩,
        ⟨.nameFunction, secondWord input⟩]) ∧
    (¬ Declares input → ∃ kind, GoesOn text earlier p [⟨kind, firstWord input⟩] ∧
      (∀ table : WordTable, firstWord input ∈ table.words → kind = table.kind) ∧
      ((∀ table : WordTable, firstWord input ∉ table.words) → kind = .plainName)) := by
  have hprogram : p.stack.top.readsProgram = true := by
    rcases hstate with htop | htop <;> rw [htop] <;> rfl
  obtain ⟨c, hc, hname⟩ := hstart
  obtain ⟨rest, hrest⟩ := exists_drop_eq_cons hc
  intro input
  constructor
  · intro hdeclares
    have hmatch := declaration?_eq_some_iff_declares.mpr ⟨hdeclares, rfl⟩
    exact .of_firstMatch? hp (firstMatch?_declaration hprogram hmatch _) rfl
  · intro hdeclares
    have hnone : declaration? (c :: rest) = none :=
      declaration?_eq_none_iff.mpr (hrest ▸ hdeclares)
    obtain ⟨rule, kind, hfirst, hmove, -, hkind⟩ :=
      exists_firstMatch?_word hprogram hname hnone (text.take p.position).getLast?
    rw [← hrest] at hfirst hkind
    exact ⟨kind, .of_firstMatch? hp hfirst hmove, hkind hbefore⟩

/-- A function named like a word of a table, and behind it a longer word that starts with one. -/
theorem word_is_never_split_failedFunction :
    let text := "fun failed exités".toList
    let declared : List Token :=
      [⟨.keywordDeclaration, "fun".toList⟩, ⟨.whitespace, [' ']⟩, ⟨.nameFunction, "failed".toList⟩]
    let earlier := withPositions 0 declared ++ [(10, (⟨.whitespace, [' ']⟩ : Token))]
    let p : Point := ⟨11, LexStack.initial⟩
    Leads text .start earlier p ∧ Declares text ∧ ¬ Declares (text.drop 11) ∧
      GoesOn text [] .start declared ∧ GoesOn text earlier p [⟨.plainName, "exités".toList⟩] := by
  intro text declared earlier p
  have hdeclares : Declares text :=
    ⟨by decide +kernel, by decide +kernel, 'f', by decide +kernel, by decide⟩
  have hplain : ¬ Declares (text.drop 11) := fun h => absurd h.firstWord_eq (by decide +kernel)
  have hdeclared : GoesOn text [] .start declared :=
    (word_is_never_split (.refl _) (.inl rfl) ⟨'f', rfl, by decide⟩ rfl).1 hdeclares
  have hgap : turn? text ⟨10, LexStack.initial⟩ = some ([(10, ⟨.whitespace, [' ']⟩)], p) := by
    decide +kernel
  have hp : Leads text .start earlier p := .turn hdeclared.turn (.turn hgap (.refl p))
  obtain ⟨kind, hword, -, hkind⟩ :=
    (word_is_never_split hp (.inl rfl) ⟨'e', rfl, by decide⟩ (by decide +kernel)).2 hplain
  have hnone : ∀ table : WordTable, firstWord (text.drop 11) ∉ table.words := by
    intro table
    cases table <;> decide +kernel
  obtain rfl := hkind hnone
  exact ⟨hp, hdeclares, hplain, hdeclared, hword⟩

end Lexer
end AmberTools
