import AmberTools.Proofs.Highlight.Markup
import Mathlib.Data.List.Basic

/-!
# Rows of spans

The text of tokens is written row by row. In every row, spans are opened and closed in turn, and
between their tags stands just the text of the row. A piece of a token goes on with the open span,
closes it and opens the next one, or opens the first one of a row, so what a started row shows only
ever grows by the piece. A row that is not ended by the last token is ended for it.

## Main definitions

* `Html.Alternating`: tags that open and close spans in turn.
* `Html.Row`: lines that show a text in spans.
* `Html.Started`: lines being written, with what they show so far.
* `Html.Rows`: rows with line feeds behind them, with what they show.

## Main results

* `Html.Started.add`, `Html.Started.close`: a started line goes on with a piece, or ends.
* `Html.exists_rows_addPieces`: the pieces of a token go on with a line, and end some.
* `Html.exists_rows_writeLines`: tokens are written in rows.
-/

namespace AmberTools
namespace Html

/-! ### Tags in turn -/

/-- Tags that open and close spans in turn. -/
def Alternating (tags : List Tag) : Prop :=
  ∃ n, tags = (List.replicate n [Tag.opens, Tag.closes]).flatten

theorem alternating_nil : Alternating [] := ⟨0, rfl⟩

theorem Alternating.append_span {tags : List Tag} (h : Alternating tags) :
    Alternating (tags ++ [.opens, .closes]) := by
  obtain ⟨n, rfl⟩ := h
  exact ⟨n + 1, by rw [List.replicate_succ', List.flatten_append, List.flatten_singleton]⟩

section Items

variable (tag : Tag) (a b : List (Tag ⊕ Char)) (text : Text)

@[simp]
theorem characters_nil : characters [] = [] := rfl

@[simp]
theorem characters_append : characters (a ++ b) = characters a ++ characters b :=
  List.filterMap_append

@[simp]
theorem characters_inl_cons : characters (.inl tag :: a) = characters a := rfl

@[simp]
theorem characters_map_inr : characters (text.map .inr) = text := by
  simp [characters, List.filterMap_map, Function.comp_def]

@[simp]
theorem tags_nil : tags [] = [] := rfl

@[simp]
theorem tags_append : tags (a ++ b) = tags a ++ tags b :=
  List.filterMap_append

@[simp]
theorem tags_inl_cons : tags (.inl tag :: a) = tag :: tags a := rfl

@[simp]
theorem tags_map_inr : tags (text.map .inr) = [] := by
  simp [tags]

end Items

/-! ### Rows -/

/-- A line that shows a text in spans, opened and closed in turn. -/
structure Row (line shown : Text) : Prop where
  feed_notMem : '\n' ∉ line
  reads : ∃ read, Reads line read ∧ characters read = shown ∧ Alternating (tags read)

/-- Rows with line feeds behind them, and what they show. -/
inductive Rows : Text → Text → Prop
  | nil : Rows [] []
  | cons {line shown text more : Text} (hrow : Row line shown) (hrows : Rows text more) :
      Rows (line ++ '\n' :: text) (shown ++ '\n' :: more)

namespace Rows

variable {text shown a b : Text}

theorem append (ha : Rows a shown) {more : Text} (hb : Rows b more) :
    Rows (a ++ b) (shown ++ more) := by
  induction ha with
  | nil => exact hb
  | cons hrow _ ih => simpa using cons hrow ih

/-- Without their tags, rows are what they show. -/
theorem withoutTags_eq (h : Rows text shown) : withoutTags text = shown := by
  induction h with
  | nil => rw [withoutTags, items_nil, characters, List.filterMap_nil]
  | @cons line _ text _ hrow _ ih =>
    obtain ⟨read, hreads, rfl, -⟩ := hrow.reads
    have hfeed : withoutTags ('\n' :: text) = '\n' :: withoutTags text := by
      rw [withoutTags, items_cons_of_ne (by decide)]
      rfl
    rw [withoutTags, hreads, characters_append, ← withoutTags, hfeed, ih]

/-- In every row, spans are opened and closed in turn. -/
theorem alternating (h : Rows text shown) :
    ∀ line ∈ Text.splitOn '\n' text, Alternating (onlyTags line) := by
  have hnil : Alternating (onlyTags []) := by
    rw [onlyTags, items_nil]
    exact alternating_nil
  induction h with
  | nil => simpa [Text.splitOn] using hnil
  | @cons line _ text _ hrow _ ih =>
    obtain ⟨read, hreads, -, hturn⟩ := hrow.reads
    rw [Text.splitOn_eq, List.splitOn_append_cons_self_of_not_mem hrow.feed_notMem,
      ← Text.splitOn_eq, List.forall_mem_cons, onlyTags, hreads.items_eq]
    exact ⟨hturn, ih⟩

end Rows

/-! ### Lines being written -/

/-- A line being written, and what it shows so far. A line with an open span shows something. -/
inductive Started : Line → Text → Prop
  | fresh : Started .fresh []
  | within {kind : TokenKind} {text shown : Text} {read : List (Tag ⊕ Char)} {done : List Tag}
      (hfeed : '\n' ∉ text) (hreads : Reads text read) (hread : characters read = shown)
      (htags : tags read = done ++ [.opens]) (hdone : Alternating done) (hshown : '\n' ∉ shown)
      (hne : shown ≠ []) : Started (.within kind text) shown

theorem feed_notMem_openSpan {options : Options} (h : '\n' ∉ options.classStart)
    (kind : TokenKind) : '\n' ∉ openSpan options kind := by
  unfold openSpan
  simp only [List.mem_append, not_or]
  exact ⟨⟨⟨by decide, h⟩, notMem_className (by decide) kind⟩, by decide⟩

theorem feed_notMem_closeSpan : '\n' ∉ closeSpan := by decide

namespace Started

variable {line : Line} {shown : Text}

theorem feed_notMem (h : Started line shown) : '\n' ∉ shown := by
  cases h with
  | fresh => simp
  | within _ _ _ _ _ hshown => exact hshown

/-- A line that ends shows what it shows so far. -/
theorem close (h : Started line shown) : ∃ row, line.close = row ++ ['\n'] ∧ Row row shown := by
  cases h with
  | fresh => exact ⟨[], rfl, by simp, [], reads_nil, rfl, alternating_nil⟩
  | @within kind text shown read done hfeed hreads hread htags hdone _ _ =>
    refine ⟨text ++ closeSpan, rfl, ?_, _, hreads.append reads_closeSpan, ?_, ?_⟩
    · simp [hfeed, feed_notMem_closeSpan]
    · simpa using hread
    · simpa [htags] using hdone.append_span

/-- A line that no further token follows is ended unless it shows nothing. -/
theorem last (h : Started line shown) :
    Rows line.last (if shown.isEmpty then [] else shown ++ ['\n']) := by
  obtain ⟨row, hclose, hrow⟩ := h.close
  cases h with
  | fresh => exact .nil
  | within _ _ _ _ _ _ hne =>
    rw [Line.last, hclose, if_neg (by simpa using hne)]
    exact .cons hrow .nil

end Started

/-! ### Tokens -/

section Tokens

-- the class of a span ends neither its tag nor its row
variable {options : Options} (hgreater : '>' ∉ options.classStart)
  (hfeed : '\n' ∉ options.classStart) {line : Line} {shown : Text}

include hgreater hfeed

/-- A piece is shown behind what a line shows so far. -/
theorem Started.add {piece : Text} (h : Started line shown) (hless : '<' ∉ piece)
    (hpiece : '\n' ∉ piece) (kind : TokenKind) :
    Started (line.add options kind piece) (shown ++ piece) := by
  by_cases hempty : piece = []
  · subst hempty
    rw [List.append_nil]
    cases h with
    | fresh => exact .fresh
    | within htext hreads hread htags hdone hshown hne =>
      exact .within htext hreads hread htags hdone hshown hne
  have hnonempty : ¬ piece.isEmpty = true := by simpa using hempty
  have hreadsPiece : Reads piece (piece.map .inr) := reads_of_notMem hless
  have hreadsOpen : Reads (openSpan options kind) [.inl .opens] := reads_openSpan hgreater kind
  have hopen : '\n' ∉ openSpan options kind := feed_notMem_openSpan hfeed kind
  cases h with
  | fresh =>
    rw [Line.add, if_neg hnonempty]
    exact .within (by simp [hopen, hpiece]) (hreadsOpen.append hreadsPiece) (by simp) (by simp)
      alternating_nil hpiece hempty
  | within htext hreads hread htags hdone hshown hne =>
    rw [Line.add, if_neg hnonempty]
    split_ifs
    · -- the open span goes on
      exact .within (by simp [htext, hpiece]) (hreads.append hreadsPiece) (by simp [hread])
        (by simp [htags]) hdone (by simp [hshown, hpiece]) (by simp [hne])
    · -- the open span is closed and the next one opened
      exact .within (by simp [htext, hopen, hpiece, feed_notMem_closeSpan])
        (((hreads.append reads_closeSpan).append hreadsOpen).append hreadsPiece)
        (by simp [hread]) (by simp [htags]) hdone.append_span (by simp [hshown, hpiece])
        (by simp [hne])

/-- The pieces of a token end lines and start the next one, which show all of the pieces. -/
theorem exists_rows_addPieces (kind : TokenKind) {pieces : List Text}
    (hpieces : ∀ piece ∈ pieces, '<' ∉ piece ∧ '\n' ∉ piece) (h : Started line shown) :
    ∃ front last, shown ++ Text.joinWith ['\n'] pieces = front ++ last ∧
      Rows (addPieces options kind line pieces).1 front ∧
      Started (addPieces options kind line pieces).2 last := by
  fun_induction addPieces options kind line pieces generalizing shown with
  | case1 line => exact ⟨[], shown, by simp [Text.joinWith], .nil, h⟩
  | case2 line piece =>
    obtain ⟨hless, hpiece⟩ := hpieces piece List.mem_cons_self
    exact ⟨[], shown ++ piece, rfl, .nil, h.add hgreater hfeed hless hpiece kind⟩
  | @case3 line piece pieces hne rest ih =>
    obtain ⟨⟨hless, hpiece⟩, hpieces⟩ := List.forall_mem_cons.mp hpieces
    obtain ⟨row, hclose, hrow⟩ := (h.add hgreater hfeed hless hpiece kind).close
    obtain ⟨front, last, heq, hrows, hlast⟩ := ih hpieces .fresh
    refine ⟨shown ++ piece ++ '\n' :: front, last, ?_, ?_, hlast⟩
    · obtain ⟨next, more, rfl⟩ := List.exists_cons_of_ne_nil hne
      rw [List.nil_append] at heq
      simp [Text.joinWith_cons_cons, heq]
    · dsimp only
      rw [hclose, List.append_assoc]
      exact .cons hrow hrows

/-- Tokens are written in rows that show their text, started by what a line shows so far. If the
last row is not ended by the tokens, it is ended for them. -/
theorem exists_rows_writeLines (h : Started line shown) (tokens : List Token) :
    ∃ front last, shown ++ escape (Token.text tokens) = front ++ last ∧ '\n' ∉ last ∧
      Rows (writeLines options line tokens)
        (front ++ if last.isEmpty then [] else last ++ ['\n']) := by
  induction tokens generalizing line shown with
  | nil => exact ⟨[], shown, by simp [Token.text, escape], h.feed_notMem, h.last⟩
  | cons token tokens ih =>
    have hpieces : ∀ piece ∈ Text.splitOn '\n' (escape token.value), '<' ∉ piece ∧ '\n' ∉ piece :=
      fun piece hpiece =>
        ⟨fun hc => less_notMem_escape _ (Text.mem_of_mem_splitOn hpiece hc).1,
          fun hc => (Text.mem_of_mem_splitOn hpiece hc).2 rfl⟩
    obtain ⟨front, next, heq, hrows, hnext⟩ :=
      exists_rows_addPieces hgreater hfeed token.kind hpieces h
    obtain ⟨more, last, hmore, hlast, hrest⟩ := ih hnext
    rw [Text.joinWith_splitOn] at heq
    refine ⟨front ++ more, last, ?_, hlast, ?_⟩
    · calc shown ++ escape (Token.text (token :: tokens))
        _ = shown ++ escape token.value ++ escape (Token.text tokens) := by
          simp [Token.text, escape]
        _ = front ++ more ++ last := by rw [heq, List.append_assoc, hmore, List.append_assoc]
    · rw [List.append_assoc]
      exact hrows.append hrest

/-- Tokens of a text that ends with a line feed are written in rows that show the text. -/
theorem rows_render (hbare : options.bare = true) {tokens : List Token} {front : Text}
    (h : Token.text tokens = front ++ ['\n']) :
    Rows (render options tokens) (escape (Token.text tokens)) := by
  obtain ⟨rows, last, heq, hlast, hrows⟩ := exists_rows_writeLines hgreater hfeed .fresh tokens
  obtain rfl : last = [] := by
    rcases List.eq_nil_or_concat' last with rfl | ⟨last, c, rfl⟩
    · rfl
    · have hc : c = '\n' := by
        have hends := congrArg List.getLast? heq
        simpa [h, escape, escapeChar, eq_comm] using hends
      simp [hc] at hlast
  rw [List.nil_append, List.append_nil] at heq
  rw [List.isEmpty_nil, if_pos rfl, List.append_nil, ← heq] at hrows
  rw [render, if_pos hbare]
  exact hrows

end Tokens

end Html
end AmberTools
