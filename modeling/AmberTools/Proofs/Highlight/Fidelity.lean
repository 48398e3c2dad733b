import AmberTools.Highlight.Formatter
import AmberTools.Proofs.Highlight.Html
import AmberTools.Proofs.Highlight.Terminal
import AmberTools.Proofs.Text.Feeds
import AmberTools.Proofs.Token.Points

/-!
# Highlighting keeps the text

Whatever a formatter adds to a source, the source in plain form can be read back from it. The
tokens are the text, colours are removed together with the sequences that turn them on and off, and
a page without tags shows the text with special characters by their names.

## Main definitions

* `Formatter.Unnumbered`: options for a terminal without line numbers.

## Main results

* `Lexer.mem_of_mem_prepare`: a plain form has no new characters but line feeds.
* `highlight_keeps_text`: the text of a source is read back from each of three formatters.
-/

namespace AmberTools

namespace Lexer

/-- A plain form has no new characters but line feeds. -/
theorem mem_of_mem_prepare {source : Text} {c : Char} (h : c ∈ prepare source) :
    c ∈ source ∨ c = '\n' := by
  have hmark {c : Char} (hc : c ∈ dropMark source) : c ∈ source := by
    rw [dropMark.eq_def] at hc
    split at hc
    · exact List.mem_cons_of_mem _ hc
    · exact hc
  rcases List.mem_append.mp h with h | h
  · have hunified : c ∈ Text.unifyBreaks (dropMark source) :=
      (List.dropWhile_sublist _).subset ((List.rdropWhile_prefix _ _).subset h)
    exact (Text.mem_of_mem_unifyBreaks hunified).imp_left hmark
  · exact .inr (List.mem_singleton.mp h)

end Lexer

namespace Formatter

/-- Options that choose a background for a terminal, or none, and no line numbers. -/
structure Unnumbered (options : Options) : Prop where
  background : ∀ v ∈ option? options "bg",
    v = .text (WideText.ofString "light") ∨ v = .text (WideText.ofString "dark")
  numbers : ∀ v ∈ option? options "linenos", v.isVacant = true

theorem Unnumbered.terminalOptions_eq {options : Options} (h : Unnumbered options) :
    ∃ background, terminalOptions options = .ok ⟨background, false⟩ := by
  have hnumbers : ((option? options "linenos").map (!·.isVacant)).getD false = false := by
    cases hv : option? options "linenos" with
    | none => rfl
    | some v => simp [h.numbers v hv]
  obtain ⟨shade, hshade⟩ : ∃ shade, Formatter.background options = .ok shade := by
    rw [Formatter.background]
    cases hv : option? options "bg" with
    | none => exact ⟨_, rfl⟩
    | some v =>
      rcases h.background v hv with rfl | rfl
      · exact ⟨.light, rfl⟩
      · exact ⟨.dark, rfl⟩
  exact ⟨shade, by rw [terminalOptions, hshade, hnumbers]; rfl⟩

end Formatter

/-- Highlighting never alters the text of a source in plain form. Without colours it is just this
text. In colours, a source without escape characters is this text once the colours are removed. In
rows of a page, it is this text once the tags of spans are left out and special characters have
taken the place of their names, and in each row spans are opened and closed in turn. -/
theorem highlight_keeps_text [Formatter.Others] (source : Text) :
    highlight source "text".toList [] = .ok (.text (Lexer.prepare source)) ∧
    (Sgr.escape ∉ source → ∀ options, Formatter.Unnumbered options →
      ∃ coloured, highlight source "terminal".toList options = .ok (.text coloured) ∧
        Sgr.strip coloured = Lexer.prepare source) ∧
    ∃ rows, highlight source "html".toList [("nowrap".toList, .bool true)] = .ok (.text rows) ∧
      Html.unescape (Html.withoutTags rows) = Lexer.prepare source ∧
      ∀ row ∈ Text.splitOn '\n' rows, Html.Alternating (Html.onlyTags row) := by
  have htext : Token.text (Lexer.preparedTokens source) = Lexer.prepare source :=
    Lexer.text_tokens _
  refine ⟨?_, fun hescape options hoptions => ?_, ?_⟩
  · rw [← htext]
    rfl
  · obtain ⟨background, hterminal⟩ := hoptions.terminalOptions_eq
    have hplain : Sgr.escape ∉ Token.text (Lexer.preparedTokens source) := by
      rw [htext]
      exact fun hmem => (Lexer.mem_of_mem_prepare hmem).elim hescape (by decide)
    refine ⟨Terminal.render ⟨background, false⟩ (Lexer.preparedTokens source), ?_, ?_⟩
    · have hformatter : Formatter.ofName? "terminal".toList options =
          some ((Formatter.terminalOptions options).map .terminal) := rfl
      rw [highlight, Formatter.writer, hformatter, hterminal]
      rfl
    · rw [Terminal.strip_render hplain, htext]
  · let options : Html.Options := { bare := true }
    have hrows : Html.Rows (Html.render options (Lexer.preparedTokens source))
        (Html.escape (Lexer.prepare source)) := by
      rw [← htext]
      exact Html.rows_render (by simp [options]) (by simp [options]) rfl htext
    refine ⟨Html.render options (Lexer.preparedTokens source), rfl, ?_, hrows.alternating⟩
    rw [hrows.withoutTags_eq, Html.unescape_escape]

/-- A source with empty lines around it, several line breaks, special characters and a string that
runs over lines. -/
def framedSource : Text := "\ufeff\n\r\nlet a = \"<b>\r\n\n&amp; \x7b 1 > x \x7d\" // c\r\r".toList

/-- Options for a dark terminal. -/
def darkOptions : Formatter.Options :=
  [("bg".toList, .text (WideText.ofString "dark")), ("linenos".toList, .bool false)]

theorem highlight_keeps_text_framedSource :
    Sgr.escape ∉ framedSource ∧ Formatter.Unnumbered darkOptions ∧
      ∃ coloured, highlight framedSource "terminal".toList darkOptions = .ok (.text coloured) ∧
        Sgr.strip coloured = Lexer.prepare framedSource := by
  have hescape : Sgr.escape ∉ framedSource := by decide
  have hoptions : Formatter.Unnumbered darkOptions :=
    ⟨fun v hv => .inr (Option.some.inj hv).symm, fun v hv => (Option.some.inj hv) ▸ rfl⟩
  exact ⟨hescape, hoptions, (highlight_keeps_text framedSource).2.1 hescape darkOptions hoptions⟩

end AmberTools
