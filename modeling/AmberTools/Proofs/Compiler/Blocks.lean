import AmberTools.Proofs.Compiler.Steps
import AmberTools.Proofs.Text.Lines
import AmberTools.Proofs.Text.Trim

/-!
# Compiler output as a sequence of blocks

A block is a header's message with the lines behind the header up to the next one. Lines in
front of the first header belong to no block. A block tells its diagnostic at once: its first
location closes the message, and without a location the policy decides. A scanner sees the same
lines one at a time. It agrees with the block reading because its pending diagnostic holds just
the part of the present block that it has read.

## Main definitions

* `Compiler.Block.ofLines`: the blocks of some lines.
* `Compiler.Block.diagnostics`: what a block tells under a policy.
* `Compiler.Scanner.Within`: the invariant between two lines.

## Main results

* `Compiler.Scanner.found_of_within`: a scanner finds what the remaining blocks tell.
* `Compiler.parseOutput_eq_blocks`: compiler output is read block by block.
-/

namespace AmberTools
namespace Compiler

/-- The lines of an output, without colours if they are to be removed. -/
def Reading.lines (reading : Reading) (output : Text) : List Text :=
  (Text.splitLines output).map fun line =>
    if reading.stripColours then Sgr.strip line.text else line.text

/-- A header's message and the lines behind the header up to the next header. -/
structure Block where
  message : Text
  body : List Text
  deriving DecidableEq, Repr

namespace Block

/-- The lines up to the first header. -/
def untilHeader (lines : List Text) : List Text :=
  lines.takeWhile fun line => !(Line.classify line).isHeader

/-- The lines up to the first location. -/
def untilLocation (lines : List Text) : List Text :=
  lines.takeWhile fun line => !(Line.classify line).isLocation

/-- The blocks of some lines in the order of their headers. -/
def ofLines : List Text → List Block
  | [] => []
  | line :: lines =>
    match Line.classify line with
    | .header message => ⟨message, untilHeader lines⟩ :: ofLines lines
    | _ => ofLines lines

/-- What a block tells. Its first location gives the place, and the message then ends in front of
that line. Without a location all lines of the block are the message. -/
def diagnostics (policy : UnlocatedPolicy) (block : Block) : List Diagnostic :=
  match (block.body.map Line.classify).find? Line.isLocation with
  | some (.location file line column pos) =>
    [⟨Text.joinWith ['\n'] (block.message :: untilLocation block.body), some file, line, column,
      Diagnostic.errorSeverity, fun _ => pos⟩]
  | _ =>
    match policy with
    | .drop => []
    | .keep => [Diagnostic.unlocated (Text.joinWith ['\n'] (block.message :: block.body))]

/-- The block with the lines that follow, as far as they belong to it. -/
def extended (block : Block) (lines : List Text) : Block :=
  { block with body := block.body ++ untilHeader lines }

/-! ### Blocks line by line -/

variable {line : Text} {lines : List Text} {block : Block}

theorem ofLines_header {message : Text} (h : Line.classify line = .header message) :
    ofLines (line :: lines) = extended ⟨message, []⟩ lines :: ofLines lines := by
  simp only [ofLines, h, extended, List.nil_append]

theorem ofLines_other (h : (Line.classify line).isHeader = false) :
    ofLines (line :: lines) = ofLines lines := by
  rw [ofLines]
  split
  · simp_all [Line.isHeader]
  · rfl

theorem extended_header (h : (Line.classify line).isHeader = true) :
    block.extended (line :: lines) = block := by
  simp [extended, untilHeader, h]

theorem extended_nil : block.extended [] = block := by
  simp [extended, untilHeader]

/-- A line that is no header moves from the following lines into the block. -/
theorem extended_other (h : (Line.classify line).isHeader = false) :
    block.extended (line :: lines) =
      extended { block with body := block.body ++ [line] } lines := by
  simp [extended, untilHeader, h]

/-- Lines that are no headers begin no block. -/
theorem ofLines_append {front : List Text}
    (hfront : ∀ l ∈ front, (Line.classify l).isHeader = false) (rest : List Text) :
    ofLines (front ++ rest) = ofLines rest := by
  induction front with
  | nil => rfl
  | cons line front ih =>
    rw [List.cons_append, ofLines_other (hfront line List.mem_cons_self),
      ih fun l hl => hfront l (List.mem_cons_of_mem _ hl)]

theorem untilHeader_append {front : List Text}
    (hfront : ∀ l ∈ front, (Line.classify l).isHeader = false) (rest : List Text) :
    untilHeader (front ++ rest) = front ++ untilHeader rest :=
  List.takeWhile_append_of_pos fun l hl => by simp [hfront l hl]

/-! ### What a block tells -/

/-- Lines that are no locations do not hide a location behind them. -/
theorem find?_location_append {body rest : List Text}
    (hbody : ∀ l ∈ body, (Line.classify l).isLocation = false) :
    ((body ++ rest).map Line.classify).find? Line.isLocation =
      (rest.map Line.classify).find? Line.isLocation := by
  have hnone : (body.map Line.classify).find? Line.isLocation = none := by
    simpa [List.find?_eq_none] using hbody
  rw [List.map_append, List.find?_append, hnone, Option.none_or]

theorem untilLocation_append {body rest : List Text}
    (hbody : ∀ l ∈ body, (Line.classify l).isLocation = false) :
    untilLocation (body ++ rest) = body ++ untilLocation rest :=
  List.takeWhile_append_of_pos fun l hl => by simp [hbody l hl]

/-- The lines behind the first location contribute nothing. -/
theorem diagnostics_of_location (policy : UnlocatedPolicy) (rest : List Text) {file : Text}
    {number column : Nat} {pos : 0 < number ∧ 0 < column}
    (hbody : ∀ l ∈ block.body, (Line.classify l).isLocation = false)
    (h : Line.classify line = .location file number column pos) :
    diagnostics policy { block with body := block.body ++ line :: rest } =
      [⟨Text.joinWith ['\n'] (block.message :: block.body), some file, number, column,
        Diagnostic.errorSeverity, fun _ => pos⟩] := by
  have hfind : ((block.body ++ line :: rest).map Line.classify).find? Line.isLocation =
      some (.location file number column pos) := by
    rw [find?_location_append hbody]
    simp [h, Line.isLocation]
  have huntil : untilLocation (block.body ++ line :: rest) = block.body := by
    rw [untilLocation_append hbody]
    simp [untilLocation, h, Line.isLocation]
  simp only [diagnostics, hfind, huntil]

/-- A block without a location tells what giving up its diagnostic puts out. -/
theorem diagnostics_of_no_location (policy : UnlocatedPolicy) (reason : Abandonment)
    {p : Pending} (hbody : ∀ l ∈ block.body, (Line.classify l).isLocation = false)
    (hp : p.messageLines = block.message :: block.body) :
    diagnostics policy block = (Scanner.abandon policy p reason).diagnostics := by
  have hfind : (block.body.map Line.classify).find? Line.isLocation = none := by
    simpa [List.find?_eq_none] using hbody
  simp only [diagnostics, hfind, Scanner.abandon, Pending.message, hp]
  cases policy <;> rfl

end Block

/-! ### A scanner inside its block -/

namespace Scanner

/-- The block a scanner is in, as far as it has been read. It is in none in front of the first
header and behind a block's location. -/
inductive Within : Scanner → Option Block → Prop
  | outside {s : Scanner} (hs : s.finished = false) (hp : s.pending = none) : Within s none
  | inside {s : Scanner} {p : Pending} {block : Block} (hs : s.finished = false)
      (hp : s.pending = some p) (hmessage : p.messageLines = block.message :: block.body)
      (hbody : ∀ l ∈ block.body, (Line.classify l).isLocation = false) : Within s (some block)

/-- The blocks that remain to be told: the present one with what follows, and all later ones. -/
def remaining (current : Option Block) (lines : List Text) : List Block :=
  (current.map (·.extended lines)).toList ++ Block.ofLines lines

variable {s : Scanner} {current : Option Block} {text : Text} {rest : List Text}

/-- A header ends the present block and begins a new one. -/
theorem remaining_header {message : Text} (h : Line.classify text = .header message) :
    remaining current (text :: rest) = current.toList ++ remaining (some ⟨message, []⟩) rest := by
  have hheader : (Line.classify text).isHeader = true := Line.isHeader_iff.mpr ⟨message, h⟩
  have hcurrent : current.map (·.extended (text :: rest)) = current := by
    cases current <;> simp [Block.extended_header hheader]
  rw [remaining, hcurrent, Block.ofLines_header h]
  rfl

/-- Any other line moves into the present block, if there is one. -/
theorem remaining_other (h : (Line.classify text).isHeader = false) :
    remaining current (text :: rest) =
      remaining (current.map fun block => { block with body := block.body ++ [text] }) rest := by
  rw [remaining, remaining, Block.ofLines_other h]
  cases current with
  | none => rfl
  | some block => rw [Option.map_some, Option.map_some, Option.map_some, Block.extended_other h]

/-- A location tells the present block, whose remaining lines no longer matter. -/
theorem remaining_location (policy : UnlocatedPolicy) {block : Block} {file : Text}
    {number column : Nat} {pos : 0 < number ∧ 0 < column}
    (hbody : ∀ l ∈ block.body, (Line.classify l).isLocation = false)
    (h : Line.classify text = .location file number column pos) :
    (remaining (some block) (text :: rest)).flatMap (Block.diagnostics policy) =
      ⟨Text.joinWith ['\n'] (block.message :: block.body), some file, number, column,
          Diagnostic.errorSeverity, fun _ => pos⟩ ::
        (remaining none rest).flatMap (Block.diagnostics policy) := by
  have hheader : (Line.classify text).isHeader = false := by
    rw [h]
    rfl
  have hblock : block.extended (text :: rest) =
      { block with body := block.body ++ text :: Block.untilHeader rest } := by
    simp [Block.extended, Block.untilHeader, hheader]
  rw [remaining, Option.map_some, hblock, Block.ofLines_other hheader, Option.toList_some,
    List.singleton_append, List.flatMap_cons, Block.diagnostics_of_location policy _ hbody h]
  rfl

/-- Giving up what is pending puts out what the present block tells. -/
theorem Within.abandonAny_diagnostics (h : Within s current) (policy : UnlocatedPolicy)
    (reason : Abandonment) :
    (abandonAny policy s.pending reason).diagnostics =
      current.toList.flatMap (Block.diagnostics policy) := by
  cases h with
  | outside hs hp => simp [hp, abandonAny]
  | inside hs hp hmessage hbody =>
    simp [hp, abandonAny, Block.diagnostics_of_no_location policy reason hbody hmessage]

/-- One step keeps the scanner inside a block and puts out what this block has told by then. -/
theorem Within.advance (h : Within s current) (text : Text) (rest : List Text) :
    ∃ next, Within (s.advance text).2 next ∧
      (remaining current (text :: rest)).flatMap (Block.diagnostics s.reading.unlocated) =
        (s.advance text).1.diagnostics ++
          (remaining next rest).flatMap (Block.diagnostics s.reading.unlocated) := by
  by_cases hheader : (Line.classify text).isHeader = true
  · obtain ⟨message, hline⟩ := Line.isHeader_iff.mp hheader
    refine ⟨some ⟨message, []⟩, ?_, ?_⟩
    · rw [advance_header hline]
      cases h with
      | outside hs hp => exact .inside hs rfl rfl (by simp)
      | inside hs hp hmessage hbody => exact .inside hs rfl rfl (by simp)
    · rw [advance_header hline, h.abandonAny_diagnostics, remaining_header hline,
        List.flatMap_append]
  · rw [Bool.not_eq_true] at hheader
    cases h with
    | outside hs hp =>
      refine ⟨none, ?_, ?_⟩
      · rw [advance_idle hheader hp]
        exact .outside hs hp
      · rw [advance_idle hheader hp, remaining_other hheader]
        rfl
    | @inside p block hs hp hmessage hbody =>
      by_cases hlocation : (Line.classify text).isLocation = true
      · obtain ⟨file, number, column, pos, hline⟩ := Line.isLocation_iff.mp hlocation
        refine ⟨none, ?_, ?_⟩
        · rw [advance_location hline hp]
          exact .outside hs rfl
        · rw [advance_location hline hp, remaining_location _ hbody hline, Pending.message,
            hmessage]
          rfl
      · rw [Bool.not_eq_true] at hlocation
        refine ⟨some { block with body := block.body ++ [text] }, ?_, ?_⟩
        · rw [advance_message hheader hlocation hp]
          refine .inside hs rfl (by simp [hmessage]) ?_
          intro l hl
          rcases List.mem_append.mp hl with hl | hl
          · exact hbody l hl
          · rw [List.mem_singleton.mp hl]
            exact hlocation
        · rw [advance_message hheader hlocation hp, remaining_other hheader]
          rfl

/-- A scanner inside a block finds what this block and all later ones tell. -/
theorem found_of_within (h : Within s current) (lines : List Text) :
    s.found lines =
      (remaining current (lines.map s.reading.lineText)).flatMap
        (Block.diagnostics s.reading.unlocated) := by
  induction lines generalizing s current with
  | nil =>
    have hs : s.finished = false := by cases h <;> assumption
    have hcurrent : current.map (·.extended []) = current := by
      cases current <;> simp [Block.extended_nil]
    rw [found_nil, finish, hs, List.map_nil, remaining, hcurrent]
    simpa [Block.ofLines] using h.abandonAny_diagnostics s.reading.unlocated .endOfOutput
  | cons line lines ih =>
    obtain ⟨next, hnext, hstep⟩ :=
      h.advance (s.reading.lineText line) (lines.map s.reading.lineText)
    rw [found_cons, ih hnext, reading_advance, List.map_cons, hstep]

end Scanner

/-! ### Whole outputs -/

/-- The lines of an output end without line breaks, so that only the colours may go. -/
theorem map_lineText_outputLines (reading : Reading) (output : Text) :
    (outputLines output).map reading.lineText = reading.lines output := by
  rw [outputLines, Reading.lines, List.map_map]
  refine List.map_congr_left fun line hline => ?_
  have hunbroken := Text.unbroken_of_mem_splitLines hline
  have hdrop : Text.dropRightWhile (fun c => c == '\r' || c == '\n') line.text = line.text := by
    refine Text.dropRightWhile_eq_self fun c hc => ?_
    have hr : c ≠ '\r' := fun h => hunbroken.1 (h ▸ hc)
    have hn : c ≠ '\n' := fun h => hunbroken.2 (h ▸ hc)
    simp [hr, hn]
  simp only [Function.comp_apply, Reading.lineText, hdrop]

/-- The diagnostics of some lines are what the blocks of their texts tell. -/
theorem parseLines_eq_blocks (reading : Reading) (lines : List Text) :
    parseLines reading lines =
      (Block.ofLines (lines.map reading.lineText)).flatMap
        (Block.diagnostics reading.unlocated) := by
  have hwithin : Scanner.Within { reading } none := .outside rfl rfl
  exact Scanner.found_of_within hwithin lines

/-- The diagnostics of compiler output are what its blocks tell, block by block. -/
theorem parseOutput_eq_blocks (reading : Reading) (output : Text) :
    parseOutput reading output =
      (Block.ofLines (reading.lines output)).flatMap (Block.diagnostics reading.unlocated) := by
  rw [parseOutput, parseLines_eq_blocks, map_lineText_outputLines]

/-- The first block is superseded, and the second location belongs to no block any more. -/
example :
    parseOutput { unlocated := .keep }
        "noise\nERROR a\nERROR b\n  at f:0:2\nat f:1:2\nat g:3:4".toList =
      [Diagnostic.unlocated "a".toList,
        ⟨"b\n  at f:0:2".toList, some "f".toList, 1, 2, Diagnostic.errorSeverity, by decide⟩] := by
  decide +kernel

end Compiler
end AmberTools
