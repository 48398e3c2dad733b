import AmberTools.Diagnostic.Report
import AmberTools.Proofs.Compiler.Blocks
import AmberTools.Proofs.Compiler.Calls
import AmberTools.Proofs.Text.Settled

/-!
# Outputs one behind the other

Two compiler outputs one behind the other tell what the one and the other tell, if nothing runs
across the seam. A line must not, and a diagnostic must not: either the first output leaves none
pending, or the second one gives it up at once by starting with a header. Giving it up there puts
out what the end of the first output would have put out.

## Main results

* `Compiler.outputLines_append`: the lines of parted outputs.
* `Compiler.Scanner.exists_found_append`: a scanner goes on behind some lines.
* `Compiler.Scanner.remaining_eq_append`: when no block runs across the seam.
* `Compiler.parseOutput_append`: the diagnostics of outputs one behind the other.
-/

namespace AmberTools
namespace Compiler

theorem outputLines_append {a b : Text} (h : Text.Parted a b) :
    outputLines (a ++ b) = outputLines a ++ outputLines b := by
  simp only [outputLines, Text.map_text_splitLines, Text.linePieces_append_of_parted h,
    List.map_append]

namespace Scanner

variable {s : Scanner} {current : Option Block} {texts : List Text}

/-- Behind some lines a scanner puts out what it puts out from the state it is in there. -/
theorem exists_found_append (hs : s.finished = false) (lines : List Text) :
    ∃ front, ∀ more, s.found (lines ++ more) =
      front ++ (s.after (lines.map .feed)).found more := by
  induction lines generalizing s with
  | nil => exact ⟨[], fun more => rfl⟩
  | cons line lines ih =>
    obtain ⟨front, hfront⟩ :=
      ih (s := (s.advance (s.reading.lineText line)).2) (finished_advance.trans hs)
    refine ⟨(s.advance (s.reading.lineText line)).1.diagnostics ++ front, fun more => ?_⟩
    rw [List.cons_append, found_cons, hfront, List.map_cons, after, call_feed hs,
      List.append_assoc]

/-- A scanner stays inside a block, or outside of all blocks. -/
theorem Within.after (h : Within s current) (lines : List Text) :
    ∃ next, Within (s.after (lines.map .feed)) next := by
  induction lines generalizing s current with
  | nil => exact ⟨current, h⟩
  | cons line lines ih =>
    have hs : s.finished = false := by cases h <;> assumption
    obtain ⟨next, hnext, -⟩ := h.advance (s.reading.lineText line) []
    rw [List.map_cons, Scanner.after, call_feed hs]
    exact ih hnext

/-- The present block is told as it is if there is none, if nothing follows or if a header does. -/
theorem remaining_eq_append (h : current = none ∨ texts = [] ∨
    ∃ text ∈ texts.head?, (Line.classify text).isHeader = true) :
    remaining current texts = current.toList ++ Block.ofLines texts := by
  rcases h with rfl | rfl | ⟨text, htext, hheader⟩
  · rfl
  · cases current with
    | none => rfl
    | some block => rw [remaining, Option.map_some, Block.extended_nil]
  · obtain ⟨rest, rfl⟩ := List.head?_eq_some_iff.mp htext
    obtain ⟨message, hline⟩ := Line.isHeader_iff.mp hheader
    rw [remaining_header hline, Block.ofLines_header hline]
    rfl

end Scanner

/-- Two outputs, one behind the other, tell the diagnostics of the one and then those of the other,
if no line runs from the one into the other and if moreover the first one leaves no diagnostic
pending, the second one has no lines, or its first line is a header. -/
theorem parseOutput_append (reading : Reading) (a b : Text) (hparted : Text.Parted a b)
    (hpending : (Scanner.after { reading } ((outputLines a).map .feed)).pending = none ∨
      outputLines b = [] ∨
      ∃ line ∈ (reading.lines b).head?, (Line.classify line).isHeader = true) :
    parseOutput reading (a ++ b) =
      Diagnostic.collect [parseOutput reading a, parseOutput reading b] := by
  let s := Scanner.after { reading } ((outputLines a).map .feed)
  have hreading : s.reading = reading := Scanner.reading_after _ _
  obtain ⟨front, hfront⟩ := Scanner.exists_found_append (s := { reading }) rfl (outputLines a)
  obtain ⟨current, hwithin⟩ : ∃ current, Scanner.Within s current :=
    Scanner.Within.after (.outside rfl rfl) (outputLines a)
  have hseam : current = none ∨ reading.lines b = [] ∨
      ∃ line ∈ (reading.lines b).head?, (Line.classify line).isHeader = true := by
    rcases hpending with hnone | hempty | hheader
    · cases hwithin with
      | outside => exact .inl rfl
      | inside _ hp =>
        rw [hnone] at hp
        contradiction
    · rw [← map_lineText_outputLines, hempty]
      exact .inr (.inl rfl)
    · exact .inr (.inr hheader)
  -- the end of the first output and the seam tell the same of what is pending
  have hends : s.found [] = current.toList.flatMap (Block.diagnostics reading.unlocated) := by
    rw [Scanner.found_of_within hwithin, hreading, List.map_nil,
      Scanner.remaining_eq_append (.inr (.inl rfl)), Block.ofLines, List.append_nil]
  have hgoes : s.found (outputLines b) = s.found [] ++ parseOutput reading b := by
    rw [Scanner.found_of_within hwithin, hreading, map_lineText_outputLines,
      Scanner.remaining_eq_append hseam, List.flatMap_append, hends, parseOutput,
      parseLines_eq_blocks, map_lineText_outputLines]
  have hfirst : parseOutput reading a = front ++ s.found [] := by
    rw [← hfront, List.append_nil]
    rfl
  calc
    parseOutput reading (a ++ b)
    _ = Scanner.found { reading } (outputLines a ++ outputLines b) := by
      rw [parseOutput, outputLines_append hparted]
      rfl
    _ = front ++ (s.found [] ++ parseOutput reading b) := by rw [hfront, hgoes]
    _ = Diagnostic.collect [parseOutput reading a, parseOutput reading b] := by
      simp only [Diagnostic.collect, List.flatten_cons, List.flatten_nil, List.append_nil, hfirst,
        List.append_assoc]

/-- An output that ends inside a message, with a carriage return as its last line break. -/
def openOutput : Text := "ERROR a\nat f:1:2\n\x1b[1mERROR b\x1b[0m\n  c\r".toList

/-- An output that starts with a header. -/
def headedOutput : Text := "\x1b[31m ERROR d\r\nat g:3:4".toList

theorem parseOutput_append_openOutput :
    Text.Parted openOutput headedOutput ∧
      (Scanner.after { reading := ⟨true, .keep⟩ } ((outputLines openOutput).map .feed)).pending =
        some ⟨3, ["b".toList, "  c".toList]⟩ ∧
      (∃ line ∈ (Reading.lines ⟨true, .keep⟩ headedOutput).head?,
        (Line.classify line).isHeader = true) ∧
      parseOutput ⟨true, .keep⟩ (openOutput ++ headedOutput) =
        Diagnostic.collect [parseOutput ⟨true, .keep⟩ openOutput,
          parseOutput ⟨true, .keep⟩ headedOutput] := by
  have hparted : Text.Parted openOutput headedOutput := by decide +kernel
  have hheader : ∃ line ∈ (Reading.lines ⟨true, .keep⟩ headedOutput).head?,
      (Line.classify line).isHeader = true :=
    ⟨" ERROR d".toList, by decide +kernel, by decide +kernel⟩
  exact ⟨hparted, by decide +kernel, hheader,
    parseOutput_append ⟨true, .keep⟩ openOutput headedOutput hparted (.inr (.inr hheader))⟩

/-- A location at the start of the second output belongs to what the first one leaves pending. -/
example :
    parseOutput {} ("ERROR a\n".toList ++ "at f:1:2".toList) ≠
      Diagnostic.collect [parseOutput {} "ERROR a\n".toList, parseOutput {} "at f:1:2".toList] := by
  decide +kernel

end Compiler
end AmberTools
