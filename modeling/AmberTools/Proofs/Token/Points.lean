import AmberTools.Proofs.Token.Lines
import Mathlib.Data.List.Basic

/-!
# Points of a text

The lexer goes through a text from point to point. A point is a position together with the stack
of states there. A turn at a point tries the rules of the top state and passes over what the first
of them recognises, over a single character where none of them recognises anything, and over
nothing at the end of the text only. Each turn passes over some characters, so the lexer comes to
the end of any text, and the tokens it has put out by then stand for the text without gaps.

## Main definitions

* `Lexer.Point`: a position with the stack there.
* `Lexer.turn?`: one turn of the lexer, with the tokens it puts out and their positions.
* `Lexer.Leads`: the turns that lead from one point to another.
* `Lexer.tokensAt`: the tokens from a point on, with their positions.

## Main results

* `Lexer.turn?_eq_some_iff`: a turn is a step of the lexer at its position.
* `Lexer.Leads.take_eq`: tokens between two points stand for the text between them.
* `Lexer.Leads.tokensAt_eq`: lexing goes on behind the tokens that lead to a point.
* `Lexer.leads_tokensAt`: the lexer comes to the end of the text by its tokens.
* `Lexer.text_tokens`: the tokens of a text are the text.
* `Lexer.tokens_lossless`: lexing any text ends and loses nothing.
-/

namespace AmberTools

namespace Token

/-! ### Positions -/

variable {first : Nat}

theorem withPositions_append (first : Nat) (a b : List Token) :
    withPositions first (a ++ b) =
      withPositions first a ++ withPositions (first + (text a).length) b := by
  induction a generalizing first with
  | nil => rfl
  | cons t a ih =>
    have hlength : (text (t :: a)).length = t.value.length + (text a).length := by
      rw [text, List.flatMap_cons, List.length_append, text]
    rw [List.cons_append, withPositions, withPositions, ih, List.cons_append, hlength,
      Nat.add_assoc]

/-- Positions counted from a later one are moved. -/
theorem withPositions_add (n first : Nat) (tokens : List Token) :
    withPositions (n + first) tokens =
      (withPositions first tokens).map fun entry => (n + entry.1, entry.2) := by
  induction tokens generalizing first with
  | nil => rfl
  | cons t tokens ih =>
    rw [withPositions, withPositions, List.map_cons, Nat.add_assoc, ih]

theorem map_snd_withPositions (first : Nat) (tokens : List Token) :
    (withPositions first tokens).map Prod.snd = tokens := by
  induction tokens generalizing first with
  | nil => rfl
  | cons t tokens ih => rw [withPositions, List.map_cons, ih]

theorem mem_of_mem_withPositions {tokens : List Token} {entry : Nat × Token}
    (h : entry ∈ withPositions first tokens) : entry.2 ∈ tokens := by
  rw [← map_snd_withPositions first tokens]
  exact List.mem_map_of_mem h

/-- The first position is the one from which positions are counted. -/
theorem fst_of_head?_withPositions {tokens : List Token} {entry : Nat × Token}
    (h : (withPositions first tokens).head? = some entry) : entry.1 = first := by
  cases tokens with
  | nil => contradiction
  | cons t tokens => rw [← Option.some.inj h]

/-- Positions follow each other by the lengths of the values. -/
theorem fst_of_getElem?_withPositions {tokens : List Token} {i : Nat} {entry next : Nat × Token}
    (h : (withPositions first tokens)[i]? = some entry)
    (hnext : (withPositions first tokens)[i + 1]? = some next) :
    next.1 = entry.1 + entry.2.value.length := by
  induction tokens generalizing first i with
  | nil => contradiction
  | cons t tokens ih =>
    cases i with
    | zero =>
      obtain rfl : (first, t) = entry := Option.some.inj h
      exact fst_of_head?_withPositions (by rw [List.head?_eq_getElem?]; exact hnext)
    | succ i => exact ih h hnext

/-- A token stands behind the tokens in front of it. -/
theorem exists_split_of_mem_withPositions {tokens : List Token} {entry : Nat × Token}
    (h : entry ∈ withPositions first tokens) :
    ∃ front back, tokens = front ++ entry.2 :: back ∧ entry.1 = first + (text front).length := by
  induction tokens generalizing first with
  | nil => contradiction
  | cons t tokens ih =>
    rw [withPositions, List.mem_cons] at h
    rcases h with rfl | h
    · exact ⟨[], tokens, rfl, rfl⟩
    · obtain ⟨front, back, rfl, hfirst⟩ := ih h
      refine ⟨t :: front, back, rfl, ?_⟩
      rw [hfirst, ← List.singleton_append, text_append, text_singleton, List.length_append,
        Nat.add_assoc]

end Token

namespace Lexer

open Token

/-- Where the lexer stands in a text: the number of characters behind it, and the stack there. -/
structure Point where
  position : Nat
  stack : LexStack
  deriving DecidableEq, Repr

/-- The point in front of a text. -/
def Point.start : Point := ⟨0, LexStack.initial⟩

/-- A turn at a point: the tokens with their positions, and the point behind them. The rules of the
top state are tried first, at the end of the text, too. There is no turn where they recognise
nothing and the text is at its end. -/
def turn? (text : Text) (p : Point) : Option (List (Nat × Token) × Point) :=
  match firstMatch? p.stack.top.rules (text.take p.position).getLast? (text.drop p.position) with
  | some (rule, tokens) =>
    some (withPositions p.position tokens,
      ⟨p.position + (Token.text tokens).length, p.stack.move rule.move⟩)
  | none =>
    match text[p.position]? with
    | none => none
    | some c =>
      if c = '\n' then
        some ([(p.position, ⟨.whitespace, ['\n']⟩)], ⟨p.position + 1, LexStack.initial⟩)
      else some ([(p.position, ⟨.error, [c]⟩)], ⟨p.position + 1, p.stack⟩)

/-- The turns that lead from one point of a text to another put out these tokens. -/
inductive Leads (text : Text) : Point → List (Nat × Token) → Point → Prop
  | refl (p : Point) : Leads text p [] p
  | turn {p q r : Point} {tokens more : List (Nat × Token)} (h : turn? text p = some (tokens, q))
      (hmore : Leads text q more r) : Leads text p (tokens ++ more) r

/-- The tokens of what is left of a text at a point, with their positions. -/
def tokensAt (text : Text) (p : Point) : List (Nat × Token) :=
  withPositions p.position
    (tokensFrom p.stack (text.take p.position).getLast? (text.drop p.position))

variable {text : Text} {p q r : Point} {positioned more : List (Nat × Token)}

/-! ### Single turns -/

/-- The character at a position is the first one of what is left there. -/
theorem exists_drop_eq_cons {i : Nat} {c : Char} (h : text[i]? = some c) :
    ∃ rest, text.drop i = c :: rest := by
  rw [← List.head?_drop] at h
  exact List.head?_eq_some_iff.mp h

/-- No rule recognises anything at the end of a text. -/
theorem firstMatch?_nil (rules : List LexRule) (before : Option Char) :
    firstMatch? rules before [] = none := by
  rw [firstMatch?, List.findSome?_eq_none_iff]
  intro rule _
  rw [LexRule.match?_nil, Option.map_none]

theorem turn?_of_drop_nil (h : text.drop p.position = []) : turn? text p = none := by
  have hend : text[p.position]? = none := by
    rw [List.getElem?_eq_none_iff]
    exact List.drop_eq_nil_iff.mp h
  rw [turn?, h, firstMatch?_nil, hend]

/-- A turn is a step at its position. -/
theorem turn?_of_drop_cons {c : Char} {rest : Text} {tokens : List Token} {next : LexStack}
    (h : text.drop p.position = c :: rest)
    (hstep : step p.stack (text.take p.position).getLast? c rest = (tokens, next)) :
    turn? text p = some (withPositions p.position tokens,
      ⟨p.position + (Token.text tokens).length, next⟩) := by
  have hchar : text[p.position]? = some c := by
    rw [← List.head?_drop, h, List.head?_cons]
  rw [turn?, h, hchar]
  rw [step] at hstep
  cases hfirst : firstMatch? p.stack.top.rules (text.take p.position).getLast? (c :: rest) with
  | some found =>
    rw [hfirst] at hstep
    obtain ⟨rfl, rfl⟩ := Prod.mk.inj hstep
    rfl
  | none =>
    rw [hfirst] at hstep
    dsimp only at hstep ⊢
    split_ifs at hstep ⊢
    · obtain ⟨rfl, rfl⟩ := Prod.mk.inj hstep
      rfl
    · obtain ⟨rfl, rfl⟩ := Prod.mk.inj hstep
      rfl

/-- The first rule that recognises something at a point gives the turn. -/
theorem turn?_of_firstMatch? {rule : LexRule} {tokens : List Token}
    (h : firstMatch? p.stack.top.rules (text.take p.position).getLast? (text.drop p.position) =
      some (rule, tokens)) :
    turn? text p = some (withPositions p.position tokens,
      ⟨p.position + (Token.text tokens).length, p.stack.move rule.move⟩) := by
  rw [turn?, h]

/-- What a turn does: it takes a step, unless the text is at its end. -/
theorem turn?_eq_some_iff :
    turn? text p = some (positioned, q) ↔
      ∃ c rest tokens, text.drop p.position = c :: rest ∧
        step p.stack (text.take p.position).getLast? c rest = (tokens, q.stack) ∧
        positioned = withPositions p.position tokens ∧
        q.position = p.position + (Token.text tokens).length := by
  constructor
  · intro h
    cases hdrop : text.drop p.position with
    | nil =>
      rw [turn?_of_drop_nil hdrop] at h
      contradiction
    | cons c rest =>
      obtain ⟨tokens, next, hstep⟩ :
          ∃ tokens next, step p.stack (text.take p.position).getLast? c rest = (tokens, next) :=
        ⟨_, _, rfl⟩
      rw [turn?_of_drop_cons hdrop hstep] at h
      obtain ⟨rfl, rfl⟩ := Prod.mk.inj (Option.some.inj h)
      exact ⟨c, rest, tokens, rfl, hstep, rfl, rfl⟩
  · rintro ⟨c, rest, tokens, hdrop, hstep, rfl, hposition⟩
    rw [turn?_of_drop_cons hdrop hstep, ← hposition]

/-- What a turn passes over is what its tokens stand for, and is not empty. -/
theorem take_of_turn? (h : turn? text p = some (positioned, q)) :
    Token.text (positioned.map Prod.snd) ≠ [] ∧
      text.take q.position = text.take p.position ++ Token.text (positioned.map Prod.snd) ∧
      q.position = p.position + (Token.text (positioned.map Prod.snd)).length ∧
      q.position ≤ text.length := by
  obtain ⟨c, rest, tokens, hdrop, hstep, rfl, hposition⟩ := turn?_eq_some_iff.mp h
  obtain ⟨hne, after, hafter⟩ : Begin tokens (c :: rest) := begin_of_step hstep
  rw [map_snd_withPositions]
  refine ⟨hne, ?_, hposition, ?_⟩
  · rw [hposition, List.take_add, hdrop, ← hafter, List.take_left]
  · have hlength := congrArg List.length hdrop
    rw [← hafter, List.length_drop, List.length_append] at hlength
    have hpos := List.length_pos_iff.mpr hne
    omega

/-- A turn puts out no empty token. -/
theorem ne_nil_of_turn? (h : turn? text p = some (positioned, q)) :
    ∀ entry ∈ positioned, entry.2.value ≠ [] := by
  obtain ⟨c, rest, tokens, -, hstep, rfl, -⟩ := turn?_eq_some_iff.mp h
  exact fun entry hentry => ne_nil_of_step hstep entry.2 (mem_of_mem_withPositions hentry)

/-- Each token of a turn stands at its position in the text. -/
theorem prefix_of_mem_turn? {entry : Nat × Token} (h : turn? text p = some (positioned, q))
    (hentry : entry ∈ positioned) : entry.2.value <+: text.drop entry.1 := by
  obtain ⟨c, rest, tokens, hdrop, hstep, rfl, -⟩ := turn?_eq_some_iff.mp h
  obtain ⟨-, after, hafter⟩ : Begin tokens (c :: rest) := begin_of_step hstep
  obtain ⟨front, back, rfl, hposition⟩ := exists_split_of_mem_withPositions hentry
  refine ⟨Token.text back ++ after, ?_⟩
  rw [hposition, ← List.drop_drop, hdrop, ← hafter, text_append, List.append_assoc, List.drop_left,
    ← List.singleton_append, text_append, text_singleton, List.append_assoc]

/-- Every turn moves forward within the text. -/
theorem position_lt_of_turn? (h : turn? text p = some (positioned, q)) :
    p.position < q.position ∧ q.position ≤ text.length := by
  obtain ⟨hne, -, hposition, hle⟩ := take_of_turn? h
  have hpos := List.length_pos_iff.mpr hne
  exact ⟨by omega, hle⟩

/-- There is a turn everywhere but at the end of the text. -/
theorem length_le_of_turn? (h : turn? text p = none) : text.length ≤ p.position := by
  rw [← List.drop_eq_nil_iff]
  cases hdrop : text.drop p.position with
  | nil => rfl
  | cons c rest =>
    rw [turn?_of_drop_cons hdrop rfl] at h
    contradiction

/-! ### Tokens from a point on -/

theorem tokensAt_of_length_le (h : text.length ≤ p.position) : tokensAt text p = [] := by
  rw [tokensAt, List.drop_of_length_le h, tokensFrom, stepsFrom]
  rfl

/-- Lexing goes on behind the tokens of a turn. -/
theorem tokensAt_of_turn? (h : turn? text p = some (positioned, q)) :
    tokensAt text p = positioned ++ tokensAt text q := by
  obtain ⟨hne, htake, -, -⟩ := take_of_turn? h
  obtain ⟨c, rest, tokens, hdrop, hstep, rfl, hposition⟩ := turn?_eq_some_iff.mp h
  obtain ⟨-, after, hafter⟩ : Begin tokens (c :: rest) := begin_of_step hstep
  rw [map_snd_withPositions] at hne htake
  have hleft : text.drop q.position = after := by
    rw [hposition, ← List.drop_drop, hdrop, ← hafter, List.drop_left]
  rw [tokensAt, hdrop, tokensFrom_of_step hstep hafter.symm, withPositions_append, tokensAt,
    hleft, htake, List.getLast?_append_of_ne_nil _ hne, hposition]

/-! ### Several turns -/

namespace Leads

theorem trans (h : Leads text p positioned q) (h' : Leads text q more r) :
    Leads text p (positioned ++ more) r := by
  induction h with
  | refl => exact h'
  | turn hturn _ ih =>
    rw [List.append_assoc]
    exact .turn hturn (ih h')

/-- The tokens between two points stand for the text between them. -/
theorem take_eq (h : Leads text p positioned q) :
    text.take q.position = text.take p.position ++ Token.text (positioned.map Prod.snd) := by
  induction h with
  | refl => simp [Token.text]
  | turn hturn _ ih =>
    rw [ih, (take_of_turn? hturn).2.1, List.map_append, text_append, List.append_assoc]

/-- Lexing goes on behind the tokens that lead to a point. -/
theorem tokensAt_eq (h : Leads text p positioned q) :
    tokensAt text p = positioned ++ tokensAt text q := by
  induction h with
  | refl => rfl
  | turn hturn _ ih => rw [tokensAt_of_turn? hturn, ih, List.append_assoc]

/-- Each token on the way is put out by a turn on the way. -/
theorem exists_turn_of_mem {entry : Nat × Token} (h : Leads text p positioned q)
    (hentry : entry ∈ positioned) :
    ∃ earlier r tokens next, Leads text p earlier r ∧ turn? text r = some (tokens, next) ∧
      entry ∈ tokens := by
  induction h with
  | refl => contradiction
  | @turn p q r tokens more hturn _ ih =>
    rcases List.mem_append.mp hentry with hhere | hlater
    · exact ⟨[], p, tokens, q, .refl p, hturn, hhere⟩
    · obtain ⟨earlier, r', tokens', next, hleads, hturn', hmem⟩ := ih hlater
      exact ⟨tokens ++ earlier, r', tokens', next, .turn hturn hleads, hturn', hmem⟩

theorem ne_nil (h : Leads text p positioned q) : ∀ entry ∈ positioned, entry.2.value ≠ [] := by
  induction h with
  | refl => simp
  | turn hturn _ ih => exact List.forall_mem_append.mpr ⟨ne_nil_of_turn? hturn, ih⟩

end Leads

/-- A step of the lexer leads over the tokens of the step. -/
theorem leads_of_step {stack next : LexStack} {front rest : Text} {c : Char} {tokens : List Token}
    (h : step stack front.getLast? c rest = (tokens, next)) :
    Leads (front ++ c :: rest) ⟨front.length, stack⟩ (withPositions front.length tokens)
      ⟨front.length + (Token.text tokens).length, next⟩ := by
  have hturn : turn? (front ++ c :: rest) ⟨front.length, stack⟩ =
      some (withPositions front.length tokens, ⟨front.length + (Token.text tokens).length, next⟩) :=
    turn?_of_drop_cons List.drop_left (by rw [List.take_left]; exact h)
  simpa using Leads.turn hturn (.refl _)

/-- From any point, the lexer comes to the end of the text by the tokens of what is left. -/
theorem leads_tokensAt (hp : p.position ≤ text.length) :
    ∃ last, Leads text p (tokensAt text p) last ∧ last.position = text.length := by
  induction hleft : text.length - p.position using Nat.strong_induction_on generalizing p with
  | _ left ih =>
    cases hturn : turn? text p with
    | none =>
      have hend : p.position = text.length := le_antisymm hp (length_le_of_turn? hturn)
      refine ⟨p, ?_, hend⟩
      rw [tokensAt_of_length_le hend.ge]
      exact .refl p
    | some found =>
      obtain ⟨positioned, q⟩ := found
      obtain ⟨hlt, hle⟩ := position_lt_of_turn? hturn
      obtain ⟨last, hlast, hend⟩ := ih (text.length - q.position) (by omega) hle rfl
      refine ⟨last, ?_, hend⟩
      rw [tokensAt_of_turn? hturn]
      exact .turn hturn hlast

/-- The tokens of a text are the text. -/
theorem text_tokens (text : Text) : Token.text (tokens text) = text := by
  obtain ⟨last, hleads, hlast⟩ : ∃ last, Leads text .start (withPositions 0 (tokens text)) last ∧
      last.position = text.length := leads_tokensAt (Nat.zero_le _)
  have htake := hleads.take_eq
  rw [hlast, List.take_length, map_snd_withPositions] at htake
  exact htake.symm

/-- Lexing any text ends, since every turn passes over at least one character. It comes to the end
of the text, where no turn is left, by just the tokens of the text with their positions. These are
not empty, they follow each other without gaps from the start of the text, and together they are
the text. -/
theorem tokens_lossless (text : Text) :
    let positioned := withPositions 0 (tokens text)
    (∀ p entries q, turn? text p = some (entries, q) →
      p.position < q.position ∧ q.position ≤ text.length) ∧
    (∃ last, Leads text .start positioned last ∧ turn? text last = none ∧
      last.position = text.length) ∧
    (∀ entry ∈ positioned, entry.2.value ≠ []) ∧
    (∀ entry ∈ positioned.head?, entry.1 = 0) ∧
    (∀ (i : Nat) (entry next : Nat × Token), positioned[i]? = some entry →
      positioned[i + 1]? = some next → next.1 = entry.1 + entry.2.value.length) ∧
    positioned.flatMap (·.2.value) = text := by
  intro positioned
  obtain ⟨last, hleads, hlast⟩ : ∃ last, Leads text .start positioned last ∧
      last.position = text.length := leads_tokensAt (Nat.zero_le _)
  have hend : turn? text last = none :=
    turn?_of_drop_nil (List.drop_eq_nil_iff.mpr hlast.ge)
  refine ⟨fun p entries q => position_lt_of_turn?, ⟨last, hleads, hend, hlast⟩, hleads.ne_nil,
    fun entry => fst_of_head?_withPositions, fun i entry next => fst_of_getElem?_withPositions, ?_⟩
  have htake := hleads.take_eq
  rw [hlast, List.take_length, Token.text, List.flatMap_map] at htake
  exact htake.symm

end Lexer
end AmberTools
