import AmberTools.Proofs.Reindent.Structure
import AmberTools.Proofs.Token.Alike

/-!
# Tokens of a reindented text

Reindenting shifts the lines of a text: only blank characters at the beginnings of lines differ.
To program text this makes no difference. But reindenting does not know of literals, so it shifts
the lines of a string or a command over several lines, too, and what is blank at the beginning of
such a line belongs to the literal. So a reindented text without carriage returns has the tokens of
its source if and only if all lines that start inside literals have been at their places before.

## Main definitions

* `Lexer.literalStarts`: whether the lines of a text start inside literals.
* `Reindent.stays`: whether lines are at their places.

## Main results

* `Reindent.exists_shifted_layOut`: reindenting shifts the lines of a text.
* `Reindent.significant_tokens_run_iff`: when reindenting keeps the tokens of a text.
-/

namespace AmberTools

/-- For each line of a text, whether it starts inside a string or command. -/
def Lexer.literalStarts (text : Text) : List Bool :=
  false :: Token.literalFeeds (Lexer.tokens text)

namespace Reindent

open Token

/-- For each piece, whether its line is at its place below lines that give a base. -/
def stays (unit base : Nat) (pieces : List (Text × Text)) : List Bool :=
  List.zipWith (fun piece placed => decide (placed.1 = piece.1)) pieces (layOut unit base pieces)

variable {unit base : Nat} {line : Text} {pieces : List (Text × Text)} {same : List Bool}
  {u v : Text}

/-! ### Reindenting shifts lines -/

theorem inset_of_margin {m : Text} (h : ∀ c ∈ m, Margin.isMargin c = true) : Inset m := by
  intro c hc
  refine ⟨Margin.isBlank_of_isMargin (h c hc), ?_⟩
  rintro rfl
  exact absurd (h _ hc) (by decide)

theorem inset_of_allBlank (hline : '\n' ∉ line) (h : Text.allBlank line = true) : Inset line := by
  intro c hc
  refine ⟨List.all_eq_true.mp h c hc, ?_⟩
  rintro rfl
  exact hline hc

theorem indented_eq_self_iff {column : Nat} :
    Margin.indented column line = line ↔
      line.takeWhile Margin.isMargin = Margin.spaces column := by
  constructor
  · intro heq
    conv_rhs at heq => rw [← Margin.takeWhile_append_body line]
    exact (List.append_cancel_right heq).symm
  · intro heq
    rw [Margin.indented, ← heq, Margin.takeWhile_append_body]

/-- Putting a line at its place shifts it. -/
theorem shifted_placedText (unit base : Nat) (hline : '\n' ∉ line) (h : Shifted same u v) :
    Shifted (decide (placedText unit base line = line) :: same)
      ('\n' :: (line ++ u)) ('\n' :: (placedText unit base line ++ v)) := by
  unfold placedText
  split_ifs with hblank
  · have hflag : decide ([] = line) = decide (line = []) := by simp only [eq_comm]
    rw [hflag]
    exact .feed (inset_of_allBlank hline hblank) (inset_of_margin (by simp)) h
  · have hbody : '\n' ∉ Margin.body line := fun hmem =>
      hline ((List.dropWhile_sublist _).subset hmem)
    have hmargin : Inset (line.takeWhile Margin.isMargin) :=
      inset_of_margin fun c hc => List.mem_takeWhile_imp hc
    have hspaces : Inset (Margin.spaces (columnAt unit base line)) :=
      inset_of_margin fun c hc => Margin.isMargin_of_mem_spaces hc
    have hshifted := Shifted.feed hmargin hspaces ((Shifted.refl_of_line hbody).append h)
    rwa [decide_eq_decide.mpr indented_eq_self_iff.symm, ← List.append_assoc,
      ← List.append_assoc, Margin.takeWhile_append_body, ← Margin.indented] at hshifted

/-- Reindenting shifts the lines of a text, each of which starts behind a line feed if one is put in
front of the text. -/
theorem exists_shifted_layOut (unit base : Nat) (h : Text.Terminated pieces)
    (hreturn : ∀ terminator ∈ pieces.map Prod.snd, '\r' ∉ terminator) :
    ∃ k, Shifted (stays unit base pieces ++ List.replicate k true)
      ('\n' :: Text.joined pieces) ('\n' :: Text.joined (layOut unit base pieces)) := by
  -- behind the line feed that ends the last line, nothing can be shifted
  induction h generalizing base with
  | nil =>
    have hempty : Inset [] := inset_of_margin (by simp)
    exact ⟨1, .feed hempty hempty .nil⟩
  | @last line hline =>
    have hshifted : Shifted _ ('\n' :: (line ++ [])) _ :=
      shifted_placedText unit base hline.2 .nil
    exact ⟨0, by simpa [stays, layOut, Text.joined] using hshifted⟩
  | @cons line terminator pieces hline hterminator _ ih =>
    rw [List.map_cons, List.forall_mem_cons] at hreturn
    obtain rfl : terminator = ['\n'] := by
      have hnone := hreturn.1
      simp only [Text.breaks, List.mem_cons, List.not_mem_nil, or_false] at hterminator
      rcases hterminator with rfl | rfl | rfl
      · rfl
      · simp at hnone
      · simp at hnone
    obtain ⟨k, hrest⟩ := ih (baseAfter unit base line) hreturn.2
    have hshifted := shifted_placedText unit base hline.2 hrest
    exact ⟨k, by simpa [stays, layOut, Text.joined] using hshifted⟩

/-! ### Lines of the reindented text -/

theorem getElem?_layOut (unit base : Nat) {i : Nat} {piece : Text × Text}
    (h : pieces[i]? = some piece) :
    ∃ base', (layOut unit base pieces)[i]? = some (placedText unit base' piece.1, piece.2) := by
  induction pieces generalizing base i with
  | nil => simp at h
  | cons first pieces ih =>
    cases i with
    | zero =>
      obtain rfl : first = piece := by simpa using h
      exact ⟨base, rfl⟩
    | succ i => exact ih _ (by simpa using h)

/-- A line of a text without carriage returns is at its place if the reindented text has the same
line there. -/
theorem getElem?_stays (settings : Settings) {text : Text} (h : '\r' ∉ text) {i : Nat}
    {line : SourceLine} (hline : (Text.splitLines text)[i]? = some line) :
    (stays settings.indentUnit 0 (Text.linePieces text))[i]? =
      some (decide ((Text.splitLines (run settings text).formatted)[i]? = some line)) := by
  obtain ⟨hindex, hpiece⟩ := Text.getElem?_splitLines_eq_some_iff.mp hline
  obtain ⟨base, hplaced⟩ := getElem?_layOut settings.indentUnit 0 hpiece
  have hterminated : Text.Terminated (layOut settings.indentUnit 0 (Text.linePieces text)) :=
    terminated_layOut (Text.terminated_linePieces text)
  have hreturn : ['\r'] ∉
      (layOut settings.indentUnit 0 (Text.linePieces text)).map Prod.snd := by
    rw [map_snd_layOut]
    intro hmem
    exact Text.return_notMem_terminator h _ hmem List.mem_cons_self
  have hnone : (line.text, line.terminator) ≠ ([], []) := fun heq =>
    Text.nil_notMem_linePieces text (heq ▸ List.mem_of_getElem? hpiece)
  have hread : (Text.splitLines (run settings text).formatted)[i]? = some line ↔
      placedText settings.indentUnit base line.text = line.text := by
    rw [Text.getElem?_splitLines_eq_some_iff, run, reindent_eq_layOut,
      Text.linePieces_joined hterminated,
      Text.getElem?_settle_eq_some_iff hterminated hreturn hnone, hplaced]
    simp [hindex]
  rw [stays, List.getElem?_zipWith, hpiece, hplaced]
  simp only [hread]

/-- Reindenting a text without carriage returns keeps all tokens but white space if and only if it
keeps every line that starts inside a string or command. -/
theorem significant_tokens_run_iff (settings : Settings) (text : Text) (h : '\r' ∉ text) :
    significant (Lexer.tokens (run settings text).formatted) = significant (Lexer.tokens text) ↔
      ∀ (i : Nat) (line : SourceLine), (Text.splitLines text)[i]? = some line →
        (Lexer.literalStarts text)[i]? = some true →
        (Text.splitLines (run settings text).formatted)[i]? = some line := by
  obtain ⟨k, hshifted⟩ := exists_shifted_layOut settings.indentUnit 0
    (Text.terminated_linePieces text) (Text.return_notMem_terminator h)
  rw [Text.joined_linePieces, ← reindent_eq_layOut] at hshifted
  have halike := (Lexer.alike_of_shifted hshifted LexStack.initial none).significant_eq_iff
  rw [← Lexer.tokens, ← Lexer.tokens, (Lexer.tokens_feed _).1, (Lexer.tokens_feed _).1,
    (Lexer.tokens_feed _).2, ← Lexer.literalStarts, kept_append_replicate_true] at halike
  rw [run, halike]
  constructor
  · intro hkept i line hline hstart
    exact of_decide_eq_true (hkept i _ (getElem?_stays settings h hline) hstart)
  · intro hlines i stays hstays hstart
    obtain ⟨line, hline⟩ : ∃ line, (Text.splitLines text)[i]? = some line := by
      obtain ⟨piece, -, hpiece, -⟩ := List.getElem?_zipWith_eq_some.mp hstays
      rw [← Text.map_splitLines, List.getElem?_map] at hpiece
      obtain ⟨line, hline, -⟩ := Option.map_eq_some_iff.mp hpiece
      exact ⟨line, hline⟩
    rw [getElem?_stays settings h hline] at hstays
    obtain rfl := Option.some.inj hstays
    exact decide_eq_true (hlines i line hline hstart)

/-- A source with a string over four lines, of which the third starts inside an interpolation. Only
that one and the lines outside of the string may be shifted. -/
def interpolatedSource : Text :=
  "fun f() \x7b\n\techo \"a\n    b \x7bg(\n1)\x7d c\n    d\"\n \x7d\n".toList

theorem significant_tokens_run_interpolatedSource :
    '\r' ∉ interpolatedSource ∧ (run .default interpolatedSource).changed = true ∧
      significant (Lexer.tokens (run .default interpolatedSource).formatted) =
        significant (Lexer.tokens interpolatedSource) := by
  have hreturn : '\r' ∉ interpolatedSource := by decide +kernel
  have hstarts : Lexer.literalStarts interpolatedSource =
      [false, false, true, false, true, false, false] := by decide +kernel
  refine ⟨hreturn, by decide +kernel,
    (significant_tokens_run_iff .default interpolatedSource hreturn).mpr ?_⟩
  intro i line hline hstart
  rw [hstarts] at hstart
  rw [← hline]
  rcases i with _ | _ | _ | _ | _ | _ | _ | i <;> simp at hstart
  · decide +kernel
  · decide +kernel

/-- The second line of a string is moved to the left edge, and the string is another one then. -/
theorem significant_tokens_run_ne :
    '\r' ∉ "\"a\n  b\"\n".toList ∧
      significant (Lexer.tokens (run .default "\"a\n  b\"\n".toList).formatted) ≠
        significant (Lexer.tokens "\"a\n  b\"\n".toList) := by
  decide +kernel

end Reindent
end AmberTools
