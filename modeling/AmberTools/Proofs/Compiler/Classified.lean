import AmberTools.Proofs.Compiler.Forms

/-!
# What classified lines consist of

A header consists of blank characters, `ERROR`, more blank characters and a message, and a location
of blank characters, `at`, a space, and file, line and column between colons. What a line is
recognised as can be read back from it: the message is trimmed, the file has no colon, and each of
the two numbers has at most eighteen digits. Neither message nor file has characters that the line
does not have.

## Main definitions

* `Compiler.Line.IsNumber`: one to eighteen decimal digits.

## Main results

* `Compiler.Line.number?_eq_some_iff`, `Compiler.Line.location?_eq_some_iff`,
  `Compiler.Line.exists_of_header?`: lines by their parts.
* `Compiler.Line.header_of_classify`, `Compiler.Line.location_of_classify`: what holds of messages
  and places.
-/

namespace AmberTools
namespace Compiler
namespace Line

/-! ### Numbers -/

/-- One to eighteen decimal digits. -/
def IsNumber (digits : Text) : Prop :=
  (∀ c ∈ digits, isDigit c = true) ∧ 1 ≤ digits.length ∧ digits.length ≤ 18

theorem toNat_of_isDigit {c : Char} (h : isDigit c = true) : c.toNat - '0'.toNat < 10 := by
  have hle : c ≤ '9' := by
    rw [isDigit, Bool.and_eq_true, decide_eq_true_iff, decide_eq_true_iff] at h
    exact h.2
  have hnat : c.toNat ≤ '9'.toNat := hle
  have hzero : '0'.toNat = 48 := rfl
  have hnine : '9'.toNat = 57 := rfl
  omega

/-- Digits have a value below the power of ten of their number. -/
theorem digitsValue_lt {digits : Text} (h : ∀ c ∈ digits, isDigit c = true) :
    digitsValue digits < 10 ^ digits.length := by
  induction digits using List.reverseRecOn with
  | nil => decide
  | append_singleton digits c ih =>
    rw [List.forall_mem_append, List.forall_mem_singleton] at h
    have hlast := toNat_of_isDigit h.2
    have hfront := ih h.1
    rw [digitsValue, List.foldl_append, List.foldl_cons, List.foldl_nil, ← digitsValue,
      List.length_append, List.length_singleton, Nat.pow_succ]
    omega

theorem IsNumber.digitsValue_lt {digits : Text} (h : IsNumber digits) :
    digitsValue digits < 10 ^ 18 :=
  (Line.digitsValue_lt h.1).trans_le (Nat.pow_le_pow_right (by omega) h.2.2)

/-- A number is the longest run of digits at the start of a text. -/
theorem number?_eq_some_iff {text rest : Text} {n : Nat} :
    number? text = some (n, rest) ↔
      ∃ digits, IsNumber digits ∧ n = digitsValue digits ∧ text = digits ++ rest ∧
        ∀ c ∈ rest.head?, isDigit c = false := by
  constructor
  · intro h
    unfold number? at h
    dsimp only at h
    split_ifs at h with hlength
    obtain ⟨rfl, rfl⟩ := Prod.mk.inj (Option.some.inj h)
    refine ⟨text.takeWhile isDigit, ⟨fun c hc => List.mem_takeWhile_imp hc, hlength⟩, rfl,
      List.takeWhile_append_dropWhile.symm, fun c hc => ?_⟩
    have hhead := List.head?_dropWhile_not isDigit text
    rw [hc] at hhead
    simpa using hhead
  · rintro ⟨digits, ⟨hdigits, hlength⟩, rfl, rfl, hrest⟩
    unfold number?
    rw [Text.takeWhile_append hdigits hrest, Text.dropWhile_append hdigits hrest]
    exact if_pos hlength

/-! ### Locations -/

theorem isDigit_of_isBlank {c : Char} (h : Text.isBlank c = true) : isDigit c = false := by
  by_contra hdigit
  rw [Bool.not_eq_false, isDigit, Bool.and_eq_true, decide_eq_true_iff, decide_eq_true_iff]
    at hdigit
  have hge : '0'.toNat ≤ c.toNat := hdigit.1
  have hle : c.toNat ≤ '9'.toNat := hdigit.2
  have hzero : '0'.toNat = 48 := rfl
  have hnine : '9'.toNat = 57 := rfl
  simp only [Text.isBlank, Bool.or_eq_true, Bool.and_eq_true, decide_eq_true_eq, beq_iff_eq] at h
  omega

/-- A text is its blank start and what follows it. -/
theorem takeWhile_append_trimLeft (text : Text) :
    text.takeWhile Text.isBlank ++ Text.trimLeft text = text :=
  List.takeWhile_append_dropWhile

theorem allBlank_takeWhile (text : Text) : Text.allBlank (text.takeWhile Text.isBlank) = true :=
  List.all_eq_true.mpr fun _ hc => List.mem_takeWhile_imp hc

/-- A location-shaped line by its parts. -/
theorem location?_eq_some_iff {text file : Text} {line column : Nat} :
    location? text = some (file, line, column) ↔
      ∃ before lineDigits columnDigits after,
        text = before ++ (locationStart ++ (file ++ ':' ::
          (lineDigits ++ ':' :: (columnDigits ++ after)))) ∧
        Text.allBlank before = true ∧ (file ≠ [] ∧ ':' ∉ file) ∧
        (IsNumber lineDigits ∧ line = digitsValue lineDigits) ∧
        (IsNumber columnDigits ∧ column = digitsValue columnDigits) ∧
        Text.allBlank after = true := by
  constructor
  · intro h
    simp only [location?, Option.bind_eq_bind, Option.bind_eq_some_iff] at h
    obtain ⟨rest, hstart, ⟨file', rest'⟩, hcut, h⟩ := h
    have hempty : file'.isEmpty = false := by
      by_contra hempty
      rw [if_pos (by simpa using hempty)] at h
      contradiction
    rw [if_neg (by simpa using hempty)] at h
    simp only [Option.bind_eq_some_iff] at h
    obtain ⟨⟨line', rest''⟩, hline, tail, hsep, ⟨column', after⟩, hcolumn, h⟩ := h
    split_ifs at h with hafter
    obtain ⟨rfl, rfl, rfl⟩ : file' = file ∧ line' = line ∧ column' = column := by
      simpa using h
    rw [Text.dropStart?_eq_some_iff] at hstart hsep
    obtain ⟨hcolon, rfl⟩ := Text.cutAt?_eq_some_iff.mp hcut
    obtain ⟨lineDigits, hlineDigits, hlineValue, rfl, -⟩ := number?_eq_some_iff.mp hline
    subst hsep
    obtain ⟨columnDigits, hcolumnDigits, hcolumnValue, rfl, -⟩ := number?_eq_some_iff.mp hcolumn
    refine ⟨text.takeWhile Text.isBlank, lineDigits, columnDigits, after, ?_,
      allBlank_takeWhile text, ⟨by simpa using hempty, hcolon⟩, ⟨hlineDigits, hlineValue⟩,
      ⟨hcolumnDigits, hcolumnValue⟩, hafter⟩
    have htext := takeWhile_append_trimLeft text
    rw [hstart] at htext
    exact htext.symm
  · rintro ⟨before, lineDigits, columnDigits, after, rfl, hbefore, ⟨hne, hcolon⟩,
      ⟨hlineDigits, rfl⟩, ⟨hcolumnDigits, rfl⟩, hafter⟩
    have hempty : file.isEmpty = false := by simpa using hne
    have hend : ∀ c ∈ after.head?, isDigit c = false := fun c hc =>
      isDigit_of_isBlank (List.all_eq_true.mp hafter c (List.mem_of_mem_head? hc))
    have hline : number? (lineDigits ++ ':' :: (columnDigits ++ after)) =
        some (digitsValue lineDigits, ':' :: (columnDigits ++ after)) :=
      number?_eq_some_iff.mpr ⟨lineDigits, hlineDigits, rfl, rfl, by simp [isDigit]⟩
    have hsep : Text.dropStart? [':'] (':' :: (columnDigits ++ after)) =
        some (columnDigits ++ after) := Text.dropStart?_append [':'] _
    have hcolumn : number? (columnDigits ++ after) = some (digitsValue columnDigits, after) :=
      number?_eq_some_iff.mpr ⟨columnDigits, hcolumnDigits, rfl, rfl, hend⟩
    rw [location?, Text.trimLeft_append (List.all_eq_true.mp hbefore), trimLeft_locationStart,
      locationStart, Text.dropStart?_append]
    simp only [Option.bind_eq_bind, Option.bind_some, Text.cutAt?_append hcolon, hempty,
      Bool.false_eq_true, if_false, hline, hsep, hcolumn, hafter, if_true]

/-! ### Headers -/

/-- The text before a final line feed is all of a text in one piece. -/
theorem beforeFinalFeed?_prefix {text line : Text} (h : beforeFinalFeed? text = some line) :
    line <+: text ∧ '\n' ∉ line := by
  have htake : line = text.takeWhile (· != '\n') := by
    unfold beforeFinalFeed? at h
    dsimp only at h
    split at h
    · exact (Option.some.inj h).symm
    · exact (Option.some.inj h).symm
    · contradiction
  rw [htake]
  exact ⟨List.takeWhile_prefix _, fun hfeed => by simpa using List.mem_takeWhile_imp hfeed⟩

/-- A header by its parts, of which the last one is read up to a line feed. -/
theorem exists_of_header? {text message : Text} (h : header? text = some message) :
    ∃ before blank rest line,
      text = before ++ ("ERROR".toList ++ blank :: rest) ∧
      Text.allBlank before = true ∧ Text.isBlank blank = true ∧
      beforeFinalFeed? (Text.trimLeft rest) = some line ∧ message = Text.trimRight line := by
  unfold header? at h
  split at h
  · rename_i blank rest hstart
    split_ifs at h with hblank
    obtain ⟨line, hline, rfl⟩ := Option.map_eq_some_iff.mp h
    refine ⟨text.takeWhile Text.isBlank, blank, rest, line, ?_, allBlank_takeWhile text, hblank,
      hline, rfl⟩
    rw [← Text.dropStart?_eq_some_iff.mp hstart, takeWhile_append_trimLeft]
  · contradiction

/-! ### Classified lines -/

section Classified

variable {text : Text}

theorem other_ne_header (text message : Text) : other text ≠ .header message := by
  unfold other
  split_ifs <;> simp

theorem other_ne_location (text file : Text) (line column : Nat) (pos : 0 < line ∧ 0 < column) :
    other text ≠ .location file line column pos := by
  unfold other
  split_ifs <;> simp

/-- The message of a header is trimmed, in one piece, and part of the line. -/
theorem header_of_classify {message : Text} (h : classify text = .header message) :
    Text.trim message = message ∧ '\n' ∉ message ∧ ∀ c ∈ message, c ∈ text := by
  have hheader : header? text = some message := by
    unfold classify at h
    split at h
    · rename_i message' hmessage
      rw [hmessage, Line.header.inj h]
    · split at h
      · split_ifs at h
        exact absurd h (other_ne_header _ _)
      · exact absurd h (other_ne_header _ _)
  obtain ⟨before, blank, rest, line, rfl, -, -, hline, rfl⟩ := exists_of_header? hheader
  obtain ⟨hline, hfeed⟩ := beforeFinalFeed?_prefix hline
  have hmessage : Text.trimRight line <+: line := List.rdropWhile_prefix _ _
  have hleft : Text.trimLeft (Text.trimRight line) = Text.trimRight line :=
    Text.trimLeft_of_prefix (hmessage.trans hline) (Text.trimLeft_trimLeft rest)
  refine ⟨Text.trim_eq_self_iff.mpr ⟨hleft, Text.trimRight_trimRight line⟩,
    fun hn => hfeed (hmessage.subset hn), fun c hc => ?_⟩
  have hrest : c ∈ rest :=
    (List.dropWhile_suffix _).subset (hline.subset (hmessage.subset hc))
  simp [hrest]

/-- The place in a location has a file without colons, and its numbers have at most eighteen
digits. -/
theorem location_of_classify {file : Text} {line column : Nat} {pos : 0 < line ∧ 0 < column}
    (h : classify text = .location file line column pos) :
    file ≠ [] ∧ ':' ∉ file ∧ line < 10 ^ 18 ∧ column < 10 ^ 18 ∧ ∀ c ∈ file, c ∈ text := by
  have hlocation : location? text = some (file, line, column) := by
    unfold classify at h
    split at h
    · contradiction
    · split at h
      · rename_i file' line' column' hplace
        split_ifs at h
        · obtain ⟨rfl, rfl, rfl⟩ := Line.location.inj h
          exact hplace
        · exact absurd h (other_ne_location _ _ _ _ _)
      · exact absurd h (other_ne_location _ _ _ _ _)
  obtain ⟨before, lineDigits, columnDigits, after, rfl, -, ⟨hne, hcolon⟩, ⟨hline, rfl⟩,
    ⟨hcolumn, rfl⟩, -⟩ := location?_eq_some_iff.mp hlocation
  exact ⟨hne, hcolon, hline.digitsValue_lt, hcolumn.digitsValue_lt, fun c hc => by simp [hc]⟩

end Classified

end Line
end Compiler
end AmberTools
