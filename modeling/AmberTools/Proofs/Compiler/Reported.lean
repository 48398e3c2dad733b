import AmberTools.Proofs.Compiler.Printed
import AmberTools.Proofs.Compiler.WellFormed

/-!
# Text reports are unambiguous

In a text report each diagnostic has a record: a line with its place and the first line of its
message, and a line behind two spaces for each further line of the message. No message can make
records look like others. The first lines of records are those that do not start with two spaces, if
no file does. In such a line, the first colon ends the file, or the mark for an unknown place. Behind
a file stands a digit and behind the mark a space, so a file may even have the mark as its name.

## Main definitions

* `Compiler.recordLines`: the lines of a record.
* `Compiler.Recordable`: diagnostics whose records can be told apart.

## Main results

* `Compiler.textReport_eq_lines`: a text report consists of the lines of its records.
* `Compiler.Recordable.eq_of_recordLines_append`: the first record of some is read back.
* `Compiler.eq_of_textReport_eq`: reports of outputs are equal only for equal diagnostics.
-/

namespace AmberTools
namespace Compiler

/-! ### Lines of reports -/

/-- The first line of a record. -/
def recordHead (d : Diagnostic) : Text :=
  d.location ++ ": ".toList ++ d.severity ++ ": ".toList ++ d.summary

/-- A further line of a record. -/
def continuation (line : Text) : Text := ' ' :: ' ' :: line

/-- The lines of a record. -/
def recordLines (d : Diagnostic) : List Text := recordHead d :: (laterLines d).map continuation

/-- A record consists of its lines. -/
theorem format_eq (d : Diagnostic) : d.format = Text.joinWith ['\n'] (recordLines d) := by
  rw [recordLines, Text.joinWith_cons_eq, List.flatMap_map, Diagnostic.format,
    splitOn_message]
  rfl

/-- A report consists of the lines of its records, each with a line feed. -/
theorem textReport_eq_lines (ds : List Diagnostic) :
    Diagnostic.textReport ds = (ds.flatMap recordLines).flatMap fun line => line ++ ['\n'] := by
  rw [Diagnostic.textReport, List.flatMap_assoc]
  refine List.flatMap_congr fun d _ => ?_
  rw [format_eq, recordLines, Text.joinWith_append_sep]

/-! ### Places in front of messages -/

/-- Diagnostics whose records can be told apart from others: those that are well formed, whatever
the policy, with a file that does not start with two spaces. -/
structure Recordable (d : Diagnostic) : Prop where
  severity : d.severity = Diagnostic.errorSeverity
  return_notMem : '\r' ∉ d.message
  place : (∃ file, Located d file ∧ ¬ [' ', ' '] <+: file) ∨
    d.file = none ∧ d.line = 0 ∧ d.column = 0

theorem WellFormed.recordable {policy : UnlocatedPolicy} {d : Diagnostic} (h : WellFormed policy d)
    (hspaces : ∀ file ∈ d.file, ¬ [' ', ' '] <+: file) : Recordable d where
  severity := h.severity
  return_notMem := h.return_notMem
  place := by
    rcases h.place with ⟨file, hlocated⟩ | ⟨hnone, -⟩
    · exact .inl ⟨file, hlocated, hspaces file hlocated.file_eq⟩
    · exact .inr hnone

theorem colon_notMem_ofNat (n : Nat) : ':' ∉ Text.ofNat n := fun h =>
  absurd (Line.isDigit_of_mem_ofNat h) (by decide)

theorem ofNat_injective : Function.Injective Text.ofNat := fun m n h => by
  rw [← Line.digitsValue_ofNat m, h, Line.digitsValue_ofNat]

/-- A number starts with a digit. -/
theorem exists_ofNat_eq_cons (n : Nat) :
    ∃ c rest, Text.ofNat n = c :: rest ∧ Line.isDigit c = true := by
  obtain ⟨c, rest, h⟩ := List.exists_cons_of_length_pos
    (show 0 < (Text.ofNat n).length from Nat.length_toDigits_pos)
  exact ⟨c, rest, h, Line.isDigit_of_mem_ofNat (h ▸ List.mem_cons_self)⟩

/-- What stands between a place and a message. -/
def severityMark : Text := " error: ".toList

section Head

variable {d e : Diagnostic}

/-- In the first line of a record, a colon stands behind a file, a line and a column. -/
theorem recordHead_of_located {file : Text} (hfile : d.file = some file)
    (hseverity : d.severity = Diagnostic.errorSeverity) :
    recordHead d = file ++ ':' :: (Text.ofNat d.line ++ ':' ::
      (Text.ofNat d.column ++ ':' :: (severityMark ++ d.summary))) := by
  rw [recordHead, location_eq hfile, hseverity]
  simp only [List.append_assoc, List.cons_append]
  rfl

/-- And a colon stands behind the mark for an unknown place. -/
theorem recordHead_of_unlocated (hfile : d.file = none)
    (hseverity : d.severity = Diagnostic.errorSeverity) :
    recordHead d = "<unknown>".toList ++ ':' :: (severityMark ++ d.summary) := by
  rw [recordHead, Diagnostic.location, hfile, hseverity]
  rfl

/-- A place in a file does not read like an unknown one. -/
theorem recordHead_ne {file : Text} (hd : Located d file) (hfile : e.file = none)
    (hdseverity : d.severity = Diagnostic.errorSeverity)
    (heseverity : e.severity = Diagnostic.errorSeverity) : recordHead d ≠ recordHead e := by
  intro h
  rw [recordHead_of_located hd.file_eq hdseverity, recordHead_of_unlocated hfile heseverity] at h
  obtain ⟨-, hrest⟩ := Text.append_sep_inj hd.colon_notMem (by decide) h
  obtain ⟨c, rest, hline, hdigit⟩ := exists_ofNat_eq_cons d.line
  rw [hline] at hrest
  obtain rfl : c = ' ' := (List.cons.inj hrest).1
  exact absurd hdigit (by decide)

/-- The first line of a record shows the place and the first line of the message. -/
theorem Recordable.eq_of_recordHead (hd : Recordable d) (he : Recordable e)
    (h : recordHead d = recordHead e) :
    d.file = e.file ∧ d.line = e.line ∧ d.column = e.column ∧ d.summary = e.summary := by
  rcases hd.place with ⟨file, hdfile, -⟩ | ⟨hdfile, hdline, hdcolumn⟩ <;>
    rcases he.place with ⟨file', hefile, -⟩ | ⟨hefile, heline, hecolumn⟩
  · rw [recordHead_of_located hdfile.file_eq hd.severity,
      recordHead_of_located hefile.file_eq he.severity] at h
    obtain ⟨rfl, hplace⟩ := Text.append_sep_inj hdfile.colon_notMem hefile.colon_notMem h
    obtain ⟨hline, hrest⟩ :=
      Text.append_sep_inj (colon_notMem_ofNat _) (colon_notMem_ofNat _) hplace
    obtain ⟨hcolumn, hmessage⟩ :=
      Text.append_sep_inj (colon_notMem_ofNat _) (colon_notMem_ofNat _) hrest
    exact ⟨hdfile.file_eq.trans hefile.file_eq.symm, ofNat_injective hline,
      ofNat_injective hcolumn, List.append_cancel_left hmessage⟩
  · exact absurd h (recordHead_ne hdfile hefile hd.severity he.severity)
  · exact absurd h.symm (recordHead_ne hefile hdfile he.severity hd.severity)
  · rw [recordHead_of_unlocated hdfile hd.severity, recordHead_of_unlocated hefile he.severity] at h
    obtain ⟨-, hmessage⟩ := Text.append_sep_inj (by decide) (by decide) h
    exact ⟨hdfile.trans hefile.symm, hdline.trans heline.symm, hdcolumn.trans hecolumn.symm,
      List.append_cancel_left hmessage⟩

end Head

/-! ### Records -/

/-- A line that starts with two spaces. -/
def isContinuation (line : Text) : Bool := [' ', ' '].isPrefixOf line

theorem isContinuation_continuation (line : Text) : isContinuation (continuation line) = true :=
  List.isPrefixOf_iff_prefix.mpr ⟨line, rfl⟩

section Records

variable {d e : Diagnostic} {ds es : List Diagnostic}

/-- The first line of a record does not look like a further one. -/
theorem Recordable.isContinuation_recordHead (h : Recordable d) :
    isContinuation (recordHead d) = false := by
  rcases h.place with ⟨file, hfile, hspaces⟩ | ⟨hfile, -⟩
  · rw [recordHead_of_located hfile.file_eq h.severity]
    refine eq_false_of_ne_true fun hprefix => hspaces ?_
    obtain ⟨rest, hrest⟩ := List.isPrefixOf_iff_prefix.mp hprefix
    -- the colon behind a file of one character is no space
    match file, hfile.ne_nil with
    | [_], _ => simp at hrest
    | _ :: _ :: _, _ =>
      obtain ⟨rfl, htail⟩ := List.cons.inj hrest
      obtain ⟨rfl, -⟩ := List.cons.inj htail
      exact ⟨_, rfl⟩
  · rw [recordHead_of_unlocated hfile h.severity]
    rfl

/-- Behind a record stands the first line of another one, or nothing. -/
theorem isContinuation_of_head? (hds : ∀ d ∈ ds, Recordable d) :
    ∀ line ∈ (ds.flatMap recordLines).head?, isContinuation line = false := by
  cases ds with
  | nil => simp
  | cons d ds =>
    intro line hline
    obtain rfl : recordHead d = line := Option.some.inj hline
    exact (hds d List.mem_cons_self).isContinuation_recordHead

theorem isContinuation_of_mem {line : Text} (h : line ∈ (laterLines d).map continuation) :
    isContinuation line = true := by
  obtain ⟨later, -, rfl⟩ := List.mem_map.mp h
  exact isContinuation_continuation later

/-- A diagnostic is read back from its lines, and the others stand behind them. -/
theorem Recordable.eq_of_recordLines_append (hd : Recordable d) (he : Recordable e)
    (hds : ∀ d ∈ ds, Recordable d) (hes : ∀ e ∈ es, Recordable e)
    (h : recordLines d ++ ds.flatMap recordLines = recordLines e ++ es.flatMap recordLines) :
    d = e ∧ ds.flatMap recordLines = es.flatMap recordLines := by
  obtain ⟨hfile, hline, hcolumn, hsummary⟩ := hd.eq_of_recordHead he (List.cons.inj h).1
  have hbehind : (laterLines d).map continuation ++ ds.flatMap recordLines =
      (laterLines e).map continuation ++ es.flatMap recordLines := (List.cons.inj h).2
  obtain ⟨hlater, hrest⟩ := Text.run_append_inj (fun _ => isContinuation_of_mem)
    (isContinuation_of_head? hds) (fun _ => isContinuation_of_mem) (isContinuation_of_head? hes)
    hbehind
  have hlines : laterLines d = laterLines e :=
    List.map_injective_iff.mpr (fun a b hab => (List.cons.inj (List.cons.inj hab).2).2) hlater
  have hmessage : d.message = e.message := by
    rw [← joinWith_summary_laterLines d, hsummary, hlines, joinWith_summary_laterLines]
  have hseverity := hd.severity.trans he.severity.symm
  cases d
  cases e
  simp only at hmessage hfile hline hcolumn hseverity
  subst hmessage hfile hline hcolumn hseverity
  exact ⟨rfl, hrest⟩

/-- Records are read back from their lines, one after the other. -/
theorem eq_of_flatMap_recordLines (hds : ∀ d ∈ ds, Recordable d) (hes : ∀ e ∈ es, Recordable e)
    (h : ds.flatMap recordLines = es.flatMap recordLines) : ds = es := by
  induction ds generalizing es with
  | nil =>
    cases es with
    | nil => rfl
    | cons e es => exact nomatch h
  | cons d ds ih =>
    cases es with
    | nil => exact nomatch h
    | cons e es =>
      obtain ⟨hd, hds⟩ := List.forall_mem_cons.mp hds
      obtain ⟨he, hes⟩ := List.forall_mem_cons.mp hes
      obtain ⟨hfirst, hrest⟩ := hd.eq_of_recordLines_append he hds hes h
      rw [hfirst, ih hds hes hrest]

end Records

/-! ### Reports -/

section Unbroken

variable {d : Diagnostic} {line : Text}

theorem unbroken_ofNat (n : Nat) : Text.Unbroken (Text.ofNat n) := by
  constructor <;> exact fun hmem => absurd (Line.isDigit_of_mem_ofNat hmem) (by decide)

theorem unbroken_colon {rest : Text} (h : Text.Unbroken rest) : Text.Unbroken (':' :: rest) :=
  Text.unbroken_cons_iff.mpr ⟨by decide, h⟩

/-- No line of a message has a line break in it. -/
theorem Recordable.unbroken_message (h : Recordable d)
    (hline : line = d.summary ∨ line ∈ laterLines d) : Text.Unbroken line := by
  have hmem {c : Char} (hc : c ∈ line) := Text.mem_of_mem_splitOn (mem_splitOn_message hline) hc
  exact ⟨fun hr => h.return_notMem (hmem hr).1, fun hn => (hmem hn).2 rfl⟩

theorem Recordable.unbroken_recordHead (h : Recordable d) : Text.Unbroken (recordHead d) := by
  have hsummary : Text.Unbroken (severityMark ++ d.summary) :=
    Text.unbroken_append_iff.mpr ⟨by decide, h.unbroken_message (.inl rfl)⟩
  rcases h.place with ⟨file, hfile, -⟩ | ⟨hfile, -⟩
  · rw [recordHead_of_located hfile.file_eq h.severity]
    refine Text.unbroken_append_iff.mpr ⟨hfile.unbroken, unbroken_colon ?_⟩
    refine Text.unbroken_append_iff.mpr ⟨unbroken_ofNat _, unbroken_colon ?_⟩
    exact Text.unbroken_append_iff.mpr ⟨unbroken_ofNat _, unbroken_colon hsummary⟩
  · rw [recordHead_of_unlocated hfile h.severity]
    exact Text.unbroken_append_iff.mpr ⟨by decide, unbroken_colon hsummary⟩

/-- No line of a record has a line break in it. -/
theorem Recordable.unbroken_of_mem (h : Recordable d) (hline : line ∈ recordLines d) :
    Text.Unbroken line := by
  rcases List.mem_cons.mp hline with rfl | hline
  · exact h.unbroken_recordHead
  · obtain ⟨later, hlater, rfl⟩ := List.mem_map.mp hline
    have hspaces : Text.Unbroken [' ', ' '] := by decide
    exact Text.unbroken_append_iff.mpr ⟨hspaces, h.unbroken_message (.inr hlater)⟩

end Unbroken

/-- The lines of a report are read back. -/
theorem linePieces_textReport {ds : List Diagnostic} (h : ∀ d ∈ ds, Recordable d) :
    Text.linePieces (Diagnostic.textReport ds) =
      (ds.flatMap recordLines).map fun line => (line, ['\n']) := by
  rw [textReport_eq_lines]
  refine Text.linePieces_fed fun line hline => ?_
  obtain ⟨d, hd, hline⟩ := List.mem_flatMap.mp hline
  exact (h d hd).unbroken_of_mem hline

/-- Two outputs, each read in its own way, have one text report only if they have the same
diagnostics, provided that no file starts with two spaces. -/
theorem eq_of_textReport_eq {reading reading' : Reading} {output output' : Text}
    (hfiles : ∀ d ∈ parseOutput reading output, ∀ file ∈ d.file, ¬ [' ', ' '] <+: file)
    (hfiles' : ∀ d ∈ parseOutput reading' output', ∀ file ∈ d.file, ¬ [' ', ' '] <+: file)
    (h : Diagnostic.textReport (parseOutput reading output) =
      Diagnostic.textReport (parseOutput reading' output')) :
    parseOutput reading output = parseOutput reading' output' := by
  have hrecordable : ∀ d ∈ parseOutput reading output, Recordable d := fun d hd =>
    (wellFormed_of_mem_parseOutput hd).recordable (hfiles d hd)
  have hrecordable' : ∀ d ∈ parseOutput reading' output', Recordable d := fun d hd =>
    (wellFormed_of_mem_parseOutput hd).recordable (hfiles' d hd)
  have hpieces := congrArg Text.linePieces h
  rw [linePieces_textReport hrecordable, linePieces_textReport hrecordable'] at hpieces
  refine eq_of_flatMap_recordLines hrecordable hrecordable' ?_
  exact List.map_injective_iff.mpr (fun _ _ hpair => (Prod.mk.inj hpair).1) hpieces

/-- A message with a line that looks like a record, and a file with the name of the mark. -/
def confusingOutput : Text :=
  "ERROR a\nf:1:2: error: b\nERROR c\nat <unknown>:1:20\n".toList

/-- The same with other line breaks, blank characters and colours, and with zeros in front. -/
def disguisedOutput : Text :=
  "noise\r\n\x1b[1mERROR\x1b[0m  a \rf:1:2: error: b\n\tERROR c\r  at <unknown>:01:020".toList

theorem eq_of_textReport_eq_disguisedOutput :
    (∀ d ∈ parseOutput { unlocated := .keep } confusingOutput,
        ∀ file ∈ d.file, ¬ [' ', ' '] <+: file) ∧
      (∀ d ∈ parseOutput { unlocated := .keep } disguisedOutput,
        ∀ file ∈ d.file, ¬ [' ', ' '] <+: file) ∧
      Diagnostic.textReport (parseOutput { unlocated := .keep } confusingOutput) =
        "<unknown>: error: a\n  f:1:2: error: b\n<unknown>:1:20: error: c\n".toList ∧
      parseOutput { unlocated := .keep } confusingOutput =
        parseOutput { unlocated := .keep } disguisedOutput := by
  have hfiles : ∀ d ∈ parseOutput { unlocated := .keep } confusingOutput,
      ∀ file ∈ d.file, ¬ [' ', ' '] <+: file := by decide +kernel
  have hfiles' : ∀ d ∈ parseOutput { unlocated := .keep } disguisedOutput,
      ∀ file ∈ d.file, ¬ [' ', ' '] <+: file := by decide +kernel
  exact ⟨hfiles, hfiles', by decide +kernel, eq_of_textReport_eq hfiles hfiles' (by decide +kernel)⟩

/-- A file that starts with two spaces reads like a further line of the message above it. -/
example :
    let folded := parseOutput {} "ERROR a\nx:1:1: error: b\nat f:1:1\n".toList
    let listed := parseOutput {} "ERROR a\nat f:1:1\nERROR b\nat   x:1:1\n".toList
    Diagnostic.textReport folded = Diagnostic.textReport listed ∧
      folded.length = 1 ∧ listed.length = 2 := by
  decide +kernel

end Compiler
end AmberTools
