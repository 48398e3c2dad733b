import AmberTools.Highlight.Terminal
import AmberTools.Proofs.Text.Colours
import AmberTools.Proofs.Text.Trim

/-!
# Texts under their colours

Tokens are written for a terminal line by line. A line loses the line feed at its end, which is
written again behind its colour, and a line has no other line feeds. So without line numbers, all
that is added to a text are the sequences that turn colours on and off.

## Main results

* `Terminal.flatten_lines`: the lines of a value make up the value.
* `Terminal.feed_notMem_dropLast`: line feeds stand only at the ends of lines.
* `Terminal.isRun_of_mem_colour?`: a colour is a run of sequences.
* `Terminal.strip_render`: the text is left when the colours are removed.
-/

namespace AmberTools
namespace Terminal

open Sgr (IsRun strip)

variable {line text : Text} {background : Background} {kind : TokenKind}

/-! ### Lines -/

/-- The lines of a value make up the value. -/
theorem flatten_lines (text : Text) : (lines text).flatten = text := by
  fun_induction lines text with
  | case1 => rfl
  | case2 rest ih => simpa using ih
  | case3 c rest _ _ ih => simpa using ih
  | case4 c rest _ _ heq ih => simpa [heq] using ih
  | case5 c rest _ _ line more heq ih => simpa [heq] using ih

/-- Line feeds stand only at the ends of lines. -/
theorem feed_notMem_dropLast (h : line ∈ lines text) : '\n' ∉ line.dropLast := by
  fun_induction lines text generalizing line with
  | case1 => simp at h
  | case2 rest ih =>
    rcases List.mem_cons.mp h with rfl | h
    · decide
    · exact ih h
  | case3 c rest _ _ ih =>
    rcases List.mem_cons.mp h with rfl | h
    · simp
    · exact ih h
  | case4 c rest =>
    rw [List.mem_singleton.mp h]
    simp
  | case5 c rest _ hend first more heq ih =>
    rw [heq] at ih
    have hc : c ≠ '\n' := by
      rintro rfl
      exact hend rfl
    rcases List.mem_cons.mp h with rfl | h
    · cases hfirst : first with
      | nil => simp
      | cons d rest =>
        rw [List.dropLast_cons_of_ne_nil (List.cons_ne_nil d rest), List.mem_cons, not_or, ← hfirst]
        exact ⟨hc.symm, ih List.mem_cons_self⟩
    · exact ih (List.mem_cons_of_mem _ h)

/-! ### Colours -/

/-- A colour is a run of sequences. -/
theorem isRun_of_mem_colour? : ∀ colour ∈ colour? background kind, IsRun colour := by
  cases background <;> cases kind <;> decide +kernel

theorem isRun_reset : IsRun reset := by decide +kernel

/-- What is left of a painted line are its characters without the line feeds at the end. -/
theorem strip_paint_append {options : Options} (h : Sgr.escape ∉ line) (rest : Text) :
    strip (paint options kind line ++ rest) =
      Text.dropRightWhile (· == '\n') line ++ strip rest := by
  have hvisible : Sgr.escape ∉ Text.dropRightWhile (· == '\n') line := fun hmem =>
    h ((List.rdropWhile_prefix _ line).subset hmem)
  rw [paint]
  cases hcolour : colour? options.background kind with
  | none => exact Sgr.strip_append_of_notMem hvisible rest
  | some colour =>
    dsimp only
    rw [List.append_assoc, List.append_assoc, Sgr.strip_run_append (isRun_of_mem_colour? _ hcolour),
      Sgr.strip_append_of_notMem hvisible, Sgr.strip_run_append isRun_reset]

/-! ### Pieces -/

/-- A line as it is written shows its characters, the line feed at its end included. -/
theorem strip_writeLine_append (hescape : Sgr.escape ∉ line) (hfeed : '\n' ∉ line.dropLast)
    (numbers : Nat) (rest : Text) :
    strip ((writeLine ⟨background, false⟩ kind numbers line).1 ++ rest) = line ++ strip rest := by
  rcases List.eq_nil_or_concat' line with rfl | ⟨front, c, rfl⟩
  · exact strip_paint_append hescape rest
  rw [List.dropLast_concat] at hfeed
  have hfront : Text.dropRightWhile (· == '\n') front = front :=
    Text.dropRightWhile_eq_self fun d hd => by
      simpa using fun heq : d = '\n' => hfeed (heq ▸ hd)
  by_cases hc : c = '\n'
  · subst hc
    have hvisible : Text.dropRightWhile (· == '\n') (front ++ ['\n']) = front := by
      rw [Text.dropRightWhile_append (by simp), hfront]
    rw [writeLine, if_pos (by simp), List.append_assoc, strip_paint_append hescape, hvisible,
      List.append_assoc]
    exact congrArg (front ++ ·) (Sgr.strip_cons_of_ne (by decide) rest)
  · have hvisible : Text.dropRightWhile (· == '\n') (front ++ [c]) = front ++ [c] :=
      List.rdropWhile_eq_self_iff.mpr fun _ => by simpa using hc
    rw [writeLine, if_neg (by simpa using hc), strip_paint_append hescape, hvisible]

/-- Lines as they are written show their characters. -/
theorem strip_writePieces {pieces : List (TokenKind × Text)}
    (h : ∀ piece ∈ pieces, Sgr.escape ∉ piece.2 ∧ '\n' ∉ piece.2.dropLast) (numbers : Nat) :
    strip (writePieces ⟨background, false⟩ numbers pieces) = pieces.flatMap Prod.snd := by
  induction pieces generalizing numbers with
  | nil => exact Sgr.strip_nil
  | cons piece pieces ih =>
    obtain ⟨kind, line⟩ := piece
    obtain ⟨⟨hescape, hfeed⟩, hpieces⟩ := List.forall_mem_cons.mp h
    rw [writePieces, strip_writeLine_append hescape hfeed, ih hpieces, List.flatMap_cons]

theorem flatMap_pieces (tokens : List Token) :
    (pieces tokens).flatMap Prod.snd = Token.text tokens := by
  induction tokens with
  | nil => rfl
  | cons token tokens ih =>
    rw [pieces, List.flatMap_cons, List.flatMap_append, ← pieces, ih, List.flatMap_map]
    exact congrArg (· ++ Token.text tokens) (by simpa using flatten_lines token.value)

/-- A text without escape characters is left when the colours of its tokens are removed. -/
theorem strip_render {tokens : List Token} (h : Sgr.escape ∉ Token.text tokens) :
    strip (render ⟨background, false⟩ tokens) = Token.text tokens := by
  have hpieces : ∀ piece ∈ pieces tokens, Sgr.escape ∉ piece.2 ∧ '\n' ∉ piece.2.dropLast := by
    intro piece hpiece
    refine ⟨fun hescape => h ?_, ?_⟩
    · rw [← flatMap_pieces]
      exact List.mem_flatMap_of_mem hpiece hescape
    · obtain ⟨token, -, hline⟩ := List.mem_flatMap.mp hpiece
      obtain ⟨line, hmem, rfl⟩ := List.mem_map.mp hline
      exact feed_notMem_dropLast hmem
  rw [← flatMap_pieces]
  exact strip_writePieces hpieces 0

end Terminal
end AmberTools
