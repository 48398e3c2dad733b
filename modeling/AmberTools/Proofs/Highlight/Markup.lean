import AmberTools.Highlight.Html
import AmberTools.Proofs.Text.Cuts

/-!
# Reading spans

A reader of the lines of a page tells the tags of spans from characters, from left to right. What
is read of a text is put together from what is read of its parts, if no tag runs on over their
ends. Leaving out the tags and replacing the names of special characters by the characters gives
what a page shows.

## Main definitions

* `Html.items`: the tags and characters of a text.
* `Html.withoutTags`, `Html.onlyTags`: the characters and the tags alone.
* `Html.unescape`: special characters by their names are replaced.
* `Html.Reads`: texts that are read in the same way whatever follows them.

## Main results

* `Html.Reads.append`: what is read of two texts, one behind the other.
* `Html.reads_openSpan`, `Html.reads_closeSpan`: each tag is read as one.
* `Html.unescape_escape`: special characters come back.
-/

namespace AmberTools
namespace Html

/-- The tags of spans. -/
inductive Tag where
  | opens
  | closes
  deriving DecidableEq, Repr

/-- The tag with which a text starts, if it starts with one, and what follows the tag. -/
def tag? (text : Text) : Option (Tag × Text) :=
  match Text.dropStart? "</span>".toList text with
  | some rest => some (.closes, rest)
  | none => do
    let (_, rest) ← Text.cutAt? '>' (← Text.dropStart? "<span ".toList text)
    return (.opens, rest)

/-- A tag is never empty. -/
theorem length_lt_of_tag? {tag : Tag} {text rest : Text} (h : tag? text = some (tag, rest)) :
    rest.length < text.length := by
  rw [tag?] at h
  split at h
  · rename_i after hclose
    obtain ⟨-, rfl⟩ := Prod.mk.inj (Option.some.inj h)
    rw [Text.dropStart?_eq_some_iff.mp hclose]
    simp
    omega
  · obtain ⟨attributes, hopen, hcut⟩ := Option.bind_eq_some_iff.mp h
    obtain ⟨⟨front, after⟩, hafter, heq⟩ := Option.bind_eq_some_iff.mp hcut
    obtain ⟨-, rfl⟩ := Prod.mk.inj (Option.some.inj heq)
    rw [Text.dropStart?_eq_some_iff.mp hopen, (Text.cutAt?_eq_some_iff.mp hafter).2]
    simp
    omega

/-- The tags and characters of a text, from left to right. -/
def items (text : Text) : List (Tag ⊕ Char) :=
  match text with
  | [] => []
  | c :: rest =>
    match _h : tag? (c :: rest) with
    | some (tag, behind) => .inl tag :: items behind
    | none => .inr c :: items rest
termination_by text.length
decreasing_by
  · exact length_lt_of_tag? _h
  · simp

/-- The characters among some items. -/
def characters (items : List (Tag ⊕ Char)) : Text := items.filterMap Sum.getRight?

/-- The tags among some items. -/
def tags (items : List (Tag ⊕ Char)) : List Tag := items.filterMap Sum.getLeft?

/-- The text without its tags. -/
def withoutTags (text : Text) : Text := characters (items text)

/-- The tags of a text. -/
def onlyTags (text : Text) : List Tag := tags (items text)

/-- The text with special characters in place of their names. -/
def unescape : Text → Text
  | '&' :: 'l' :: 't' :: ';' :: rest => '<' :: unescape rest
  | '&' :: 'g' :: 't' :: ';' :: rest => '>' :: unescape rest
  | '&' :: 'a' :: 'm' :: 'p' :: ';' :: rest => '&' :: unescape rest
  | c :: rest => c :: unescape rest
  | [] => []

/-! ### Special characters -/

theorem unescape_cons_of_ne {c : Char} (h : c ≠ '&') (rest : Text) :
    unescape (c :: rest) = c :: unescape rest := by
  rw [unescape.eq_def]
  split
  · rename_i heq
    exact absurd (List.cons.inj heq).1 h
  · rename_i heq
    exact absurd (List.cons.inj heq).1 h
  · rename_i heq
    exact absurd (List.cons.inj heq).1 h
  · rename_i heq
    obtain ⟨rfl, rfl⟩ := List.cons.inj heq
    rfl
  · contradiction

theorem unescape_escapeChar_append (c : Char) (rest : Text) :
    unescape (escapeChar c ++ rest) = c :: unescape rest := by
  rw [escapeChar]
  split_ifs with hand hless hgreater
  · subst hand
    rfl
  · subst hless
    rfl
  · subst hgreater
    rfl
  · exact unescape_cons_of_ne hand rest

/-- Special characters come back. -/
theorem unescape_escape (text : Text) : unescape (escape text) = text := by
  induction text with
  | nil => rfl
  | cons c text ih => rw [escape, List.flatMap_cons, unescape_escapeChar_append, ← escape, ih]

/-- No tag starts in a text whose special characters go by their names. -/
theorem less_notMem_escape (text : Text) : '<' ∉ escape text := by
  intro h
  obtain ⟨c, -, hmem⟩ := List.mem_flatMap.mp h
  rw [escapeChar] at hmem
  split_ifs at hmem with hand hless hgreater
  · exact absurd hmem (by decide)
  · exact absurd hmem (by decide)
  · exact absurd hmem (by decide)
  · exact hless (List.mem_singleton.mp hmem).symm

/-! ### Tags and characters -/

variable {c : Char} {tag : Tag} {a b text rest : Text} {read more : List (Tag ⊕ Char)}

theorem items_nil : items [] = [] := by rw [items]

theorem items_of_tag? (h : tag? text = some (tag, rest)) : items text = .inl tag :: items rest := by
  cases text with
  | nil => contradiction
  | cons c text =>
    rw [items]
    split
    · rename_i tag' rest' h'
      obtain ⟨rfl, rfl⟩ := Prod.mk.inj (Option.some.inj (h.symm.trans h'))
      rfl
    · rename_i hnone
      rw [h] at hnone
      contradiction

theorem tag?_cons_of_ne (h : c ≠ '<') (rest : Text) : tag? (c :: rest) = none := by
  simp [tag?, Text.dropStart?, Ne.symm h]

theorem items_cons_of_ne (h : c ≠ '<') (rest : Text) :
    items (c :: rest) = .inr c :: items rest := by
  rw [items]
  split
  · rename_i htag
    rw [tag?_cons_of_ne h] at htag
    contradiction
  · rfl

/-- A text is read as these items, whatever follows it. -/
def Reads (text : Text) (read : List (Tag ⊕ Char)) : Prop :=
  ∀ rest, items (text ++ rest) = read ++ items rest

theorem Reads.items_eq (h : Reads text read) : items text = read := by
  have hnil := h []
  rwa [List.append_nil, items_nil, List.append_nil] at hnil

theorem reads_nil : Reads [] [] := fun _ => rfl

theorem Reads.append (ha : Reads a read) (hb : Reads b more) : Reads (a ++ b) (read ++ more) :=
  fun rest => by rw [List.append_assoc, ha, hb, List.append_assoc]

/-- A text in which no tag starts is read as its characters. -/
theorem reads_of_notMem (h : '<' ∉ text) : Reads text (text.map .inr) := by
  induction text with
  | nil => exact reads_nil
  | cons c text ih =>
    rw [List.mem_cons, not_or] at h
    intro rest
    rw [List.cons_append, items_cons_of_ne (Ne.symm h.1), ih h.2, List.map_cons, List.cons_append]

theorem reads_closeSpan : Reads closeSpan [.inl .closes] := fun _ => items_of_tag? rfl

theorem tag?_open {attributes : Text} (h : '>' ∉ attributes) (rest : Text) :
    tag? ("<span ".toList ++ (attributes ++ '>' :: rest)) = some (.opens, rest) := by
  have hclose : Text.dropStart? "</span>".toList ("<span ".toList ++ (attributes ++ '>' :: rest)) =
      none := rfl
  rw [tag?, hclose, Text.dropStart?_append]
  simp [Text.cutAt?_append h]

theorem isAlphanum_className (kind : TokenKind) :
    (className kind).toList.all Char.isAlphanum = true := by
  cases kind <;> decide

/-- A class holds letters and digits only. -/
theorem notMem_className (hc : c.isAlphanum = false) (kind : TokenKind) :
    c ∉ (className kind).toList := fun hmem =>
  absurd (List.all_eq_true.mp (isAlphanum_className kind) c hmem) (Bool.eq_false_iff.mp hc)

/-- A tag that opens a span is read as one, unless its class ends the tag. -/
theorem reads_openSpan {options : Options} (h : '>' ∉ options.classStart) (kind : TokenKind) :
    Reads (openSpan options kind) [.inl .opens] := by
  have hattribute : '>' ∉ "class=\"".toList ++ (options.classStart ++
      ((className kind).toList ++ ['"'])) := by
    simp only [List.mem_append, not_or]
    exact ⟨by decide, h, notMem_className (by decide) kind, by decide⟩
  have hspan : openSpan options kind = "<span ".toList ++ ("class=\"".toList ++
      (options.classStart ++ ((className kind).toList ++ ['"'])) ++ ['>']) := by
    unfold openSpan
    simp
  intro rest
  refine items_of_tag? ?_
  rw [hspan, List.append_assoc, List.append_assoc _ ['>'], List.singleton_append,
    tag?_open hattribute]

end Html
end AmberTools
