import AmberTools.Proofs.Compiler.Classified

/-!
# The grammar of output lines

Lines of compiler output have a grammar of four rules. A header is `ERROR` between blank characters
with anything behind it, of which the message is the trimmed rest. A location is `at`, a space, a
file without colons, and two numbers of at most eighteen digits that are not zero. A line of neither
form is blank or context. No two rules fit one line, and the parts of a location cannot be told
in two ways, so the grammar gives each line one role, and that is the role as which it is recognised.

## Main definitions

* `Compiler.Line.HeaderForm`, `Compiler.Line.LocationForm`: the forms of headers and locations.
* `Compiler.Line.Grammar`: the grammar.

## Main results

* `Compiler.Line.header?_eq_some_iff`: headers by their parts.
* `Compiler.Line.classify_eq_iff_grammar`: lines are recognised by the grammar.
-/

namespace AmberTools
namespace Compiler
namespace Line

/-! ### Forms -/

/-- The value of decimal digits. -/
def decimal (digits : Text) : Nat := Nat.ofDigitChars 10 digits 0

/-- A header: blank characters or none, `ERROR`, at least one blank character, and a rest. -/
def HeaderForm (text rest : Text) : Prop :=
  ∃ before blank, text = before ++ ("ERROR".toList ++ (blank ++ rest)) ∧
    Text.allBlank before = true ∧ Text.allBlank blank = true ∧ blank ≠ []

/-- A location: blank characters or none, `at` and a space, a file without colons, a colon, one to
eighteen digits, a colon, one to eighteen digits, and blank characters or none. Neither of the
numbers is zero. -/
def LocationForm (text file lineDigits columnDigits : Text) : Prop :=
  ∃ before after, text = before ++ (locationStart ++ (file ++ ':' ::
      (lineDigits ++ ':' :: (columnDigits ++ after)))) ∧
    Text.allBlank before = true ∧ (file ≠ [] ∧ ':' ∉ file) ∧
    IsNumber lineDigits ∧ IsNumber columnDigits ∧ Text.allBlank after = true ∧
    0 < decimal lineDigits ∧ 0 < decimal columnDigits

section Forms

variable {text rest file lineDigits columnDigits : Text}

theorem LocationForm.pos (h : LocationForm text file lineDigits columnDigits) :
    0 < decimal lineDigits ∧ 0 < decimal columnDigits := by
  obtain ⟨-, -, -, -, -, -, -, -, hpos⟩ := h
  exact hpos

/-- Numbers of at most eighteen digits are below `10 ^ 18`. -/
theorem LocationForm.lt (h : LocationForm text file lineDigits columnDigits) :
    decimal lineDigits < 10 ^ 18 ∧ decimal columnDigits < 10 ^ 18 := by
  obtain ⟨-, -, -, -, -, hline, hcolumn, -⟩ := h
  exact ⟨hline.digitsValue_lt, hcolumn.digitsValue_lt⟩

/-- The parts of a location are read from it. -/
theorem LocationForm.location? (h : LocationForm text file lineDigits columnDigits) :
    location? text = some (file, decimal lineDigits, decimal columnDigits) := by
  obtain ⟨before, after, htext, hbefore, hfile, hline, hcolumn, hafter, -⟩ := h
  exact location?_eq_some_iff.mpr ⟨before, lineDigits, columnDigits, after, htext, hbefore, hfile,
    ⟨hline, rfl⟩, ⟨hcolumn, rfl⟩, hafter⟩

/-- A location has one file only. -/
theorem LocationForm.file_eq {file' lineDigits' columnDigits' : Text}
    (h : LocationForm text file lineDigits columnDigits)
    (h' : LocationForm text file' lineDigits' columnDigits') : file' = file := by
  have hparts := h'.location?.symm.trans h.location?
  exact (Prod.mk.inj (Option.some.inj hparts)).1

end Forms

/-- The grammar of lines: what a line's role is by its form. -/
inductive Grammar (text : Text) : Line → Prop
  | header {rest : Text} (h : HeaderForm text rest) : Grammar text (.header (Text.trim rest))
  | location {file lineDigits columnDigits : Text}
      (h : LocationForm text file lineDigits columnDigits) :
      Grammar text (.location file (decimal lineDigits) (decimal columnDigits) h.pos)
  | blank (h : Text.allBlank text = true) : Grammar text .blank
  /-- All other lines are context. -/
  | context (hheader : ∀ rest, ¬ HeaderForm text rest)
      (hlocation : ∀ file lineDigits columnDigits,
        ¬ LocationForm text file lineDigits columnDigits)
      (hblank : ¬ Text.allBlank text = true) : Grammar text .context

/-! ### Recognised lines -/

section Recognised

variable {text : Text}

/-- Blank characters in front of a line do not make it a header, nor prevent that. -/
theorem header?_append {before : Text} (h : Text.allBlank before = true) (text : Text) :
    header? (before ++ text) = header? text := by
  rw [header?, header?, Text.trimLeft_append (List.all_eq_true.mp h)]

/-- A line in one piece is a header if it has the form of one, and its message is the trimmed
rest. -/
theorem header?_eq_some_iff {message : Text} (hfeed : '\n' ∉ text) :
    header? text = some message ↔ ∃ rest, HeaderForm text rest ∧ message = Text.trim rest := by
  constructor
  · intro h
    obtain ⟨before, blank, rest, line, rfl, hbefore, hblank, hline, rfl⟩ := exists_of_header? h
    have hrest : '\n' ∉ rest := fun hmem => hfeed (by simp [hmem])
    rw [beforeFinalFeed?_eq_some (Text.notMem_trimLeft hrest)] at hline
    obtain rfl := Option.some.inj hline
    exact ⟨rest, ⟨before, [blank], rfl, hbefore, by simpa [Text.allBlank] using hblank, by simp⟩,
      rfl⟩
  · rintro ⟨rest, ⟨before, blank, rfl, hbefore, hblank, hne⟩, rfl⟩
    obtain ⟨first, blank, rfl⟩ := List.exists_cons_of_ne_nil hne
    obtain ⟨hfirst, hblank⟩ := List.forall_mem_cons.mp (List.all_eq_true.mp hblank)
    have hrest : '\n' ∉ rest := fun hmem => hfeed (by simp [hmem])
    have hstart : Text.trimLeft ("ERROR".toList ++ (first :: blank ++ rest)) =
        "ERROR".toList ++ first :: (blank ++ rest) := trimLeft_of_head (by decide) _
    rw [header?_append hbefore, header?, hstart, Text.dropStart?_append]
    simp only [hfirst, if_true, Text.trimLeft_append hblank,
      beforeFinalFeed?_eq_some (Text.notMem_trimLeft hrest), Option.map_some, Text.trim]

/-- A location is no header, since one starts with `at` and the other with `ERROR`. -/
theorem header?_of_location? {file : Text} {line column : Nat}
    (h : location? text = some (file, line, column)) : header? text = none := by
  obtain ⟨before, lineDigits, columnDigits, after, rfl, hbefore, -⟩ := location?_eq_some_iff.mp h
  rw [header?_append hbefore, header?_locationStart]

theorem classify_of_header? {message : Text} (h : header? text = some message) :
    classify text = .header message := by
  rw [classify, h]

/-- A line that has the form of a location is recognised as one. -/
theorem LocationForm.classify {file lineDigits columnDigits : Text}
    (h : LocationForm text file lineDigits columnDigits) :
    classify text = .location file (decimal lineDigits) (decimal columnDigits) h.pos := by
  rw [Line.classify, header?_of_location? h.location?]
  simp only [h.location?, h.pos, and_self, dite_true]

/-- Without the form of a header and that of a location, only blank characters matter. -/
theorem classify_eq_other (hheader : header? text = none)
    (hlocation : ∀ file lineDigits columnDigits,
      ¬ LocationForm text file lineDigits columnDigits) : classify text = other text := by
  rw [classify, hheader]
  cases hplace : location? text with
  | none => rfl
  | some place =>
    obtain ⟨file, line, column⟩ := place
    refine dif_neg fun hpos => ?_
    -- a location-shaped line fails to be a location only by a zero
    obtain ⟨before, lineDigits, columnDigits, after, htext, hbefore, hfile, ⟨hline, rfl⟩,
      ⟨hcolumn, rfl⟩, hafter⟩ := location?_eq_some_iff.mp hplace
    exact hlocation file lineDigits columnDigits
      ⟨before, after, htext, hbefore, hfile, hline, hcolumn, hafter, hpos⟩

/-- A blank line has neither form. -/
theorem classify_of_allBlank (h : Text.allBlank text = true) : classify text = .blank := by
  have hnil : Text.trimLeft text = [] := Text.allBlank_iff_trimLeft.mp h
  have hheader : header? text = none := by
    rw [header?, hnil]
    rfl
  have hlocation : location? text = none := by
    rw [location?, hnil]
    rfl
  rw [classify, hheader, hlocation]
  exact if_pos h

/-- The grammar gives a line no role but the one as which it is recognised. -/
theorem Grammar.classify_eq (hfeed : '\n' ∉ text) {line : Line} (h : Grammar text line) :
    classify text = line := by
  cases h with
  | header h => exact classify_of_header? ((header?_eq_some_iff hfeed).mpr ⟨_, h, rfl⟩)
  | location h => exact h.classify
  | blank h => exact classify_of_allBlank h
  | context hheader hlocation hblank =>
    have hnone : header? text = none := Option.eq_none_iff_forall_ne_some.mpr fun message h => by
      obtain ⟨rest, hform, -⟩ := (header?_eq_some_iff hfeed).mp h
      exact hheader rest hform
    rw [classify_eq_other hnone hlocation]
    exact if_neg hblank

/-- The grammar gives every line a role. -/
theorem exists_grammar (text : Text) : ∃ line, Grammar text line := by
  by_cases hheader : ∃ rest, HeaderForm text rest
  · obtain ⟨rest, h⟩ := hheader
    exact ⟨_, .header h⟩
  by_cases hlocation : ∃ file lineDigits columnDigits,
      LocationForm text file lineDigits columnDigits
  · obtain ⟨file, lineDigits, columnDigits, h⟩ := hlocation
    exact ⟨_, .location h⟩
  by_cases hblank : Text.allBlank text = true
  · exact ⟨_, .blank hblank⟩
  · exact ⟨_, .context (fun rest h => hheader ⟨rest, h⟩)
      (fun file lineDigits columnDigits h => hlocation ⟨file, lineDigits, columnDigits, h⟩) hblank⟩

end Recognised

/-- A line in one piece is recognised as just what the grammar makes of it. The form of a location
determines its file, and both of its numbers are below `10 ^ 18`. -/
theorem classify_eq_iff_grammar {text : Text} (hfeed : '\n' ∉ text) :
    (∀ line, classify text = line ↔ Grammar text line) ∧
      ∀ file lineDigits columnDigits, LocationForm text file lineDigits columnDigits →
        decimal lineDigits < 10 ^ 18 ∧ decimal columnDigits < 10 ^ 18 ∧
          ∀ file' lineDigits' columnDigits',
            LocationForm text file' lineDigits' columnDigits' → file' = file := by
  refine ⟨fun line => ⟨?_, fun h => h.classify_eq hfeed⟩, fun file lineDigits columnDigits h => ?_⟩
  · rintro rfl
    obtain ⟨line, h⟩ := exists_grammar text
    rwa [h.classify_eq hfeed]
  · exact ⟨h.lt.1, h.lt.2, fun _ _ _ h' => h.file_eq h'⟩

/-- A location with a file that has spaces and with a number that has zeros in front. -/
theorem classify_eq_iff_grammar_spacedFile :
    '\n' ∉ "\t at  my file:007:12 \u2003".toList ∧
      Grammar "\t at  my file:007:12 \u2003".toList
        (.location " my file".toList 7 12 (by decide)) := by
  have hfeed : '\n' ∉ "\t at  my file:007:12 \u2003".toList := by decide
  exact ⟨hfeed, ((classify_eq_iff_grammar hfeed).1 _).mp (by decide +kernel)⟩

end Line
end Compiler
end AmberTools
