import AmberTools.Highlight.Formatter
import Mathlib.Tactic.SplitIfs

/-!
# Formatters by name

Without options, the name alone decides whether a formatter is one of those that are described here,
and which. A source is always shown by these. By any other name it is shown, or not shown, as the
formatter of that name has it, which may not be there.

## Main definitions

* `Formatter.names`: the names of the formatters that are described here.
* `Formatter.Others.render`: a source by one of the others.

## Main results

* `Formatter.ofName?_nil`: the names that stand for formatters.
* `Formatter.render_eq_bytes_iff`: the formatter that writes bytes.
* `Formatter.highlight_of_mem`, `Formatter.highlight_of_notMem`: a source by a name.
-/

namespace AmberTools
namespace Formatter

/-- The names of the formatters that are described here. -/
def names : List String :=
  ["text", "null", "raw", "tokens", "terminal", "console", "html"]

/-- A source as a formatter that is not described here shows it, without options. -/
def Others.render [Others] (name : Text) (source : Text) : Except Fault Rendering := do
  let write ← Others.find name []
  write (Lexer.preparedTokens source)

/-- Without options there is a formatter for each of the names, and two of them stand for the one
that writes a list. -/
theorem ofName?_nil (name : Text) :
    (String.ofList name ∉ names ∧ ofName? name [] = none) ∨
      (String.ofList name ∈ names ∧
        ∃ formatter, ofName? name [] = some (.ok formatter) ∧
          (formatter = .list ↔ String.ofList name = "raw" ∨ String.ofList name = "tokens")) := by
  unfold ofName?
  dsimp only
  split_ifs with hplain hlist hterminal hhtml
  · refine .inr ⟨by rcases hplain with h | h <;> simp [names, h], _, rfl, ?_⟩
    exact iff_of_false nofun fun h => by rcases hplain with h' | h' <;> simp [h'] at h
  · exact .inr ⟨by rcases hlist with h | h <;> simp [names, h], _, rfl,
      iff_of_true rfl hlist⟩
  · exact .inr ⟨by rcases hterminal with h | h <;> simp [names, h], _, rfl,
      iff_of_false nofun hlist⟩
  · exact .inr ⟨by simp [names, hhtml], _, rfl, iff_of_false nofun hlist⟩
  · exact .inl ⟨by simp_all [names], rfl⟩

theorem render_eq_bytes_iff {formatter : Formatter} {tokens : List Token} :
    (∃ shown, formatter.render tokens = .bytes shown) ↔ formatter = .list := by
  cases formatter <;> simp [Formatter.render]

section Names

variable [Others] {name : Text} (source : Text)

/-- By one of the names a source is shown. -/
theorem highlight_of_mem (h : String.ofList name ∈ names) :
    ∃ formatter, highlight source name [] =
        .ok (render formatter (Lexer.preparedTokens source)) ∧
      (formatter = .list ↔ String.ofList name = "raw" ∨ String.ofList name = "tokens") := by
  obtain ⟨hname, -⟩ | ⟨-, formatter, hformatter, hlist⟩ := ofName?_nil name
  · exact absurd h hname
  · refine ⟨formatter, ?_, hlist⟩
    rw [highlight, writer, hformatter]
    rfl

/-- By any other name a source is shown as the other formatters have it. -/
theorem highlight_of_notMem (h : String.ofList name ∉ names) :
    highlight source name [] = Others.render name source := by
  obtain ⟨-, hnone⟩ | ⟨hname, -⟩ := ofName?_nil name
  · rw [highlight, writer, hnone, Others.render]
  · exact absurd hname h

end Names

end Formatter
end AmberTools
