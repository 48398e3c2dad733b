import AmberTools.Proofs.Token.Alike
import AmberTools.Proofs.Token.Literals
import Mathlib.Data.List.Chain

/-!
# The stack of the lexer

The stack of states tells what is open at a point. At its bottom is the top level. Directly above
program text only a literal can stand, and directly above a literal only an interpolation. A turn
leaves the stack alone, puts the state of an enclosure on it by the opening delimiter, or takes
that state away by the closing delimiter. Every state recognises a line feed, so that the lexer
never falls back to the top level, and what is open stays open until its own delimiter closes it.

## Main definitions

* `LexStack.Alternates`: stacks in which program text and literals alternate above the top level.
* `Lexer.recognised?`: what the rules of the top state recognise at a point.
* `Lexer.Effect`: what a turn does to the stack.
* `Lexer.Closes`: the top state of a stack is closed by its delimiter between two points.

## Main results

* `LexRule.move_of_match?`: delimiters, and nothing else, enter and leave states.
* `Lexer.Effect.alternates`: a turn keeps the alternation.
* `Lexer.Leads.open_or_closed`: what is open stays open up to its delimiter.
* `Lexer.stack_discipline`: the stack at every point of every text.
-/

namespace AmberTools

/-- The states that can stand directly above a state. -/
def LexState.inner : LexState → List LexState
  | root | interpolation => [string, command]
  | string | command => [interpolation]

theorem Enclosure.state_ne_root (e : Enclosure) : e.state ≠ .root := by
  cases e <;> decide

theorem Enclosure.state_mem_inner_iff {e : Enclosure} {state : LexState} :
    e.state ∈ state.inner ↔ state ∈ e.hosts := by
  cases e <;> cases state <;> decide

namespace LexStack

/-- The states of a stack from the top to the bottom. -/
def states (stack : LexStack) : List LexState := stack.top :: stack.below

/-- The top level is at the bottom, and each state can stand on the one directly below it. -/
structure Alternates (stack : LexStack) : Prop where
  bottom : stack.states.getLast? = some .root
  chain : stack.states.IsChain fun above below => above ∈ below.inner

theorem alternates_initial : Alternates initial := ⟨rfl, .singleton _⟩

/-- Below the state of an enclosure there is another state. -/
theorem Alternates.exists_below {stack : LexStack} {e : Enclosure} (h : stack.Alternates)
    (htop : stack.top = e.state) : ∃ host below, stack = ⟨e.state, host :: below⟩ := by
  obtain ⟨top, below⟩ := stack
  obtain rfl : top = e.state := htop
  cases below with
  | nil =>
    exact absurd (by simpa [states] using h.bottom) e.state_ne_root
  | cons host below => exact ⟨host, below, rfl⟩

end LexStack

/-! ### Moves of rules -/

/-- A rule enters a state by an opening delimiter, where the enclosure may open, and leaves one by
the closing delimiter of the enclosure. -/
theorem LexRule.move_of_match? {rule : LexRule} {state : LexState} {before : Option Char}
    {input : Text} {tokens : List Token} (hrule : rule ∈ state.rules)
    (h : rule.match? before input = some tokens) :
    rule.move = .stay ∨
      (∃ e : Enclosure, rule.move = .enter e.state ∧ state ∈ e.hosts ∧
        tokens = [e.openingToken]) ∨
      ∃ e : Enclosure, rule.move = .leave ∧ state = e.state ∧ tokens = [e.closingToken] := by
  have hdelimiter {kind : TokenKind} {c : Char} (hsingle : single? kind c input = some tokens) :
      tokens = [⟨kind, [c]⟩] := (single?_eq_some_iff.mp hsingle).2
  cases rule with
  | openString =>
    exact .inr (.inl ⟨.string, rfl, by cases state <;> revert hrule <;> decide, hdelimiter h⟩)
  | openCommand =>
    exact .inr (.inl ⟨.command, rfl, by cases state <;> revert hrule <;> decide, hdelimiter h⟩)
  | openInterpolation =>
    exact .inr (.inl
      ⟨.interpolation, rfl, by cases state <;> revert hrule <;> decide, hdelimiter h⟩)
  | closeString =>
    exact .inr (.inr ⟨.string, rfl, by cases state <;> revert hrule <;> decide, hdelimiter h⟩)
  | closeCommand =>
    exact .inr (.inr ⟨.command, rfl, by cases state <;> revert hrule <;> decide, hdelimiter h⟩)
  | closeInterpolation =>
    exact .inr (.inr
      ⟨.interpolation, rfl, by cases state <;> revert hrule <;> decide, hdelimiter h⟩)
  | _ => exact .inl rfl

namespace Lexer

open Token

variable {text : Text} {p q : Point} {positioned : List (Nat × Token)} {e : Enclosure}

/-! ### Turns -/

/-- The first rule of the top state that recognises something at a point, with what it
recognises. -/
def recognised? (text : Text) (p : Point) : Option (LexRule × List Token) :=
  firstMatch? p.stack.top.rules (text.take p.position).getLast? (text.drop p.position)

/-- The point behind the delimiter at a point. -/
def Point.behind (p : Point) (move : LexRule.Move) : Point := ⟨p.position + 1, p.stack.move move⟩

/-- What a turn does to the stack. It leaves the stack alone, or its only token is a delimiter that
opens or closes an enclosure. -/
inductive Effect (p : Point) : List (Nat × Token) → Point → Prop
  | stays {positioned : List (Nat × Token)} {q : Point} (hstack : q.stack = p.stack) :
      Effect p positioned q
  | opens {e : Enclosure} (hhost : p.stack.top ∈ e.hosts) :
      Effect p [(p.position, e.openingToken)] (p.behind (.enter e.state))
  | closes {e : Enclosure} (htop : p.stack.top = e.state) :
      Effect p [(p.position, e.closingToken)] (p.behind .leave)

/-- The lexer does not fall back to the top level at a line feed. -/
theorem getElem?_ne_feed_of_unrecognised (h : recognised? text p = none) :
    text[p.position]? ≠ some '\n' := by
  intro hfeed
  rw [← List.head?_drop] at hfeed
  obtain ⟨rest, hrest⟩ := List.head?_eq_some_iff.mp hfeed
  rw [recognised?, hrest] at h
  exact firstMatch?_feed_ne_none _ _ _ h

/-- A turn puts out what the first rule recognises, or else the next character as an error. -/
theorem turn?_cases (h : turn? text p = some (positioned, q)) :
    (∃ rule tokens, recognised? text p = some (rule, tokens) ∧
      positioned = withPositions p.position tokens ∧
      q = ⟨p.position + (Token.text tokens).length, p.stack.move rule.move⟩) ∨
    (recognised? text p = none ∧ ∃ c, text[p.position]? = some c ∧
      positioned = [(p.position, ⟨.error, [c]⟩)] ∧ q = ⟨p.position + 1, p.stack⟩) := by
  rw [turn?] at h
  split at h
  · rename_i rule tokens hfirst
    obtain ⟨rfl, rfl⟩ := Prod.mk.inj (Option.some.inj h)
    exact .inl ⟨rule, tokens, hfirst, rfl, rfl⟩
  · rename_i hnone
    split at h
    · contradiction
    · rename_i c hc
      have hfeed : c ≠ '\n' := by
        rintro rfl
        exact getElem?_ne_feed_of_unrecognised hnone hc
      rw [if_neg hfeed] at h
      obtain ⟨rfl, rfl⟩ := Prod.mk.inj (Option.some.inj h)
      exact .inr ⟨hnone, c, hc, rfl, rfl⟩

theorem effect_of_turn? (h : turn? text p = some (positioned, q)) : Effect p positioned q := by
  rcases turn?_cases h with ⟨rule, tokens, hfirst, rfl, rfl⟩ | ⟨-, c, -, rfl, rfl⟩
  · obtain ⟨hrule, hmatch⟩ := firstMatch?_eq_some hfirst
    rcases LexRule.move_of_match? hrule hmatch with
      hmove | ⟨e, hmove, hhost, rfl⟩ | ⟨e, hmove, htop, rfl⟩
    · rw [hmove]
      exact .stays rfl
    · rw [hmove]
      exact .opens hhost
    · rw [hmove]
      exact .closes htop
  · exact .stays rfl

theorem Effect.alternates (h : Effect p positioned q) (hp : p.stack.Alternates) :
    q.stack.Alternates := by
  cases h with
  | stays hstack => rwa [hstack]
  | @opens e hhost =>
    refine ⟨?_, ?_⟩
    · exact (List.getLast?_cons_of_ne_nil (List.cons_ne_nil _ _)).trans hp.bottom
    · exact .cons_cons (Enclosure.state_mem_inner_iff.mpr hhost) hp.chain
  | @closes e htop =>
    obtain ⟨host, below, hstack⟩ := hp.exists_below htop
    have hleave : (p.behind .leave).stack = ⟨host, below⟩ := by
      rw [Point.behind, hstack]
      rfl
    have hbottom := hp.bottom
    have hchain := hp.chain
    rw [hstack, LexStack.states] at hbottom hchain
    rw [hleave]
    refine ⟨?_, hchain.tail⟩
    rwa [List.getLast?_cons_of_ne_nil (List.cons_ne_nil _ _)] at hbottom

/-! ### Runs -/

/-- On the way between two points, the closing delimiter of the top state of a stack is recognised
at a point with just this stack. -/
def Closes (text : Text) (stack : LexStack) (p : Point) (positioned : List (Nat × Token))
    (q : Point) : Prop :=
  ∃ (e : Enclosure) (r : Point) (front back : List (Nat × Token)),
    stack.top = e.state ∧ r.stack = stack ∧ Leads text p front r ∧
      turn? text r = some ([(r.position, e.closingToken)], r.behind .leave) ∧
      Leads text (r.behind .leave) back q ∧
      positioned = front ++ (r.position, e.closingToken) :: back

theorem Closes.turn {stack : LexStack} {r : Point} {tokens more : List (Nat × Token)}
    (h : Closes text stack q more r) (hturn : turn? text p = some (tokens, q)) :
    Closes text stack p (tokens ++ more) r := by
  obtain ⟨e, s, front, back, htop, hs, hfront, hclose, hback, rfl⟩ := h
  exact ⟨e, s, tokens ++ front, back, htop, hs, .turn hturn hfront, hclose, hback,
    (List.append_assoc ..).symm⟩

namespace Leads

theorem alternates (h : Leads text p positioned q) (hp : p.stack.Alternates) :
    q.stack.Alternates := by
  induction h with
  | refl => exact hp
  | turn hturn _ ih => exact ih ((effect_of_turn? hturn).alternates hp)

/-- While the lexer goes on, a stack stays below the present one, or else it has been closed. -/
theorem open_or_closed {stack : LexStack} (h : Leads text p positioned q)
    (hp : p.stack.Alternates) (hstack : stack.states <:+ p.stack.states) :
    stack.states <:+ q.stack.states ∨ Closes text stack p positioned q := by
  induction h with
  | refl => exact .inl hstack
  | @turn p q' r tokens more hturn hmore ih =>
    have heffect := effect_of_turn? hturn
    -- as long as the stack stays, a closing turn is a later one
    have hlater (hstays : stack.states <:+ q'.stack.states) :
        stack.states <:+ r.stack.states ∨ Closes text stack p (tokens ++ more) r :=
      (ih (heffect.alternates hp) hstays).imp_right fun hcloses => hcloses.turn hturn
    cases heffect with
    | stays hsame => exact hlater (hsame ▸ hstack)
    | opens => exact hlater (hstack.trans (List.suffix_cons _ _))
    | @closes e htop =>
      obtain ⟨host, below, hbelow⟩ := hp.exists_below htop
      have hleave : (p.behind .leave).stack.states = host :: below := by
        rw [Point.behind, hbelow]
        rfl
      have hsuffix : stack.states <:+ e.state :: host :: below := by
        rw [hbelow] at hstack
        exact hstack
      rcases List.suffix_cons_iff.mp hsuffix with heq | hrest
      · obtain ⟨htop', hbelow'⟩ := List.cons.inj heq
        have hsame : p.stack = stack := by
          rw [hbelow, ← htop', ← hbelow']
        exact .inr ⟨e, p, [], more, htop', hsame, .refl p, hturn, hmore, rfl⟩
      · exact hlater (hleave ▸ hrest)

end Leads

/-- At every point of every text the stack is the top level with literals and interpolations above
it by turns. No rule leaves the last state of the stack, and the lexer never falls back to the top
level at a line feed. So whatever is open there is open later on as well, unless its own closing
delimiter has been recognised at a point with the same stack. -/
theorem stack_discipline {earlier : List (Nat × Token)} (hp : Leads text .start earlier p) :
    p.stack.Alternates ∧
      (∀ rule tokens, recognised? text p = some (rule, tokens) → rule.move = .leave →
        p.stack.top ≠ .root ∧ p.stack.below ≠ []) ∧
      (recognised? text p = none → text[p.position]? ≠ some '\n') ∧
      ∀ later q, Leads text p later q →
        p.stack.states <:+ q.stack.states ∨ Closes text p.stack p later q := by
  have halternates : p.stack.Alternates := hp.alternates LexStack.alternates_initial
  refine ⟨halternates, fun rule tokens hfirst hleave => ?_, getElem?_ne_feed_of_unrecognised,
    fun later q hq => hq.open_or_closed halternates (List.suffix_refl _)⟩
  obtain ⟨hrule, hmatch⟩ := firstMatch?_eq_some hfirst
  rcases LexRule.move_of_match? hrule hmatch with hmove | ⟨e, hmove, -⟩ | ⟨e, -, htop, -⟩
  · rw [hleave] at hmove
    contradiction
  · rw [hleave] at hmove
    contradiction
  · obtain ⟨host, below, hstack⟩ := halternates.exists_below htop
    rw [hstack]
    exact ⟨e.state_ne_root, List.cons_ne_nil _ _⟩

/-- A string with a backslash at the end of its first line. The line feed behind the backslash does
not end the string, and the quote on the next line does. -/
theorem stack_discipline_loneBackslash :
    let text := "\"a\\\n\" b".toList
    let earlier := [(0, (⟨.stringDouble, ['"']⟩ : Token)), (1, ⟨.stringDouble, ['a']⟩),
      (2, ⟨.error, ['\\']⟩)]
    let later := [(3, (⟨.stringDouble, ['\n']⟩ : Token)), (4, ⟨.stringDouble, ['"']⟩)]
    let p : Point := ⟨3, ⟨.string, [.root]⟩⟩
    let q : Point := ⟨5, LexStack.initial⟩
    Leads text .start earlier p ∧ Leads text p later q ∧ text[p.position]? = some '\n' ∧
      p.stack.Alternates ∧ recognised? text p ≠ none ∧ Closes text p.stack p later q := by
  intro text earlier later p q
  have hquote : turn? text .start = some ([(0, ⟨.stringDouble, ['"']⟩)], ⟨1, p.stack⟩) := by
    decide +kernel
  have hplain : turn? text ⟨1, p.stack⟩ = some ([(1, ⟨.stringDouble, ['a']⟩)], ⟨2, p.stack⟩) := by
    decide +kernel
  have hlone : turn? text ⟨2, p.stack⟩ = some ([(2, ⟨.error, ['\\']⟩)], p) := by decide +kernel
  have hfeed : turn? text p = some ([(3, ⟨.stringDouble, ['\n']⟩)], ⟨4, p.stack⟩) := by
    decide +kernel
  have hclose : turn? text ⟨4, p.stack⟩ = some ([(4, ⟨.stringDouble, ['"']⟩)], q) := by
    decide +kernel
  have hp : Leads text .start earlier p := .turn hquote (.turn hplain (.turn hlone (.refl p)))
  have hq : Leads text p later q := .turn hfeed (.turn hclose (.refl q))
  have hchar : text[p.position]? = some '\n' := by decide +kernel
  obtain ⟨halternates, -, hfallback, hopen⟩ := stack_discipline hp
  exact ⟨hp, hq, hchar, halternates, fun hnone => hfallback hnone hchar,
    (hopen later q hq).resolve_left (by decide)⟩

end Lexer
end AmberTools
