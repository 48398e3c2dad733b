import AmberTools.Benchmark.Dataset
import AmberTools.Proofs.Compiler.Blocks
import AmberTools.Proofs.Compiler.Calls
import AmberTools.Proofs.Text.Unified

/-!
# Reading at once and as a stream

Compiler output can be read at once, by feeding a scanner its lines with their terminators, or as a
stream that ends lines at line feeds. A scanner drops the characters of line breaks from the end of
a line before it looks at anything else. So terminators do not matter, and the ways of reading
differ at most where a carriage return stands alone, which a stream does not take for the end of a
line. Outputs that a benchmark loads have no such carriage return, so that its two strategies find
the same number of diagnostics.

## Main results

* `Compiler.parseLines_full`: the terminators of lines do not matter.
* `Compiler.parseOutput_unifyBreaks`: line breaks can be unified before an output is read.
* `Benchmark.returnsFed_of_load`: loaded outputs have no carriage return that stands alone.
* `Compiler.readings_agree`: the ways of reading find the same diagnostics.
-/

namespace AmberTools

namespace Compiler

variable {reading : Reading}

/-- The terminator of a line is dropped together with anything else of a line break. -/
theorem lineText_full {output : Text} {line : SourceLine} (h : line ∈ Text.splitLines output) :
    reading.lineText line.full = reading.lineText line.text := by
  have hpiece : (line.text, line.terminator) ∈ Text.linePieces output := by
    rw [← Text.map_splitLines]
    exact List.mem_map_of_mem h
  have hbreak : ∀ c ∈ line.terminator, (c == '\r' || c == '\n') = true := by
    intro c hc
    have hterminated := Text.terminated_linePieces output
    simpa using hterminated.eq_of_mem_terminator _ hpiece c hc
  simp only [Reading.lineText, SourceLine.full, Text.dropRightWhile_append hbreak]

/-- Lines with terminators are read like the output that they make. -/
theorem parseLines_full (reading : Reading) (output : Text) :
    parseLines reading ((Text.splitLines output).map SourceLine.full) =
      parseOutput reading output := by
  have htexts : ((Text.splitLines output).map SourceLine.full).map reading.lineText =
      (outputLines output).map reading.lineText := by
    rw [outputLines, List.map_map, List.map_map]
    exact List.map_congr_left fun line hline => lineText_full hline
  rw [parseOutput, parseLines_eq_blocks, htexts, ← parseLines_eq_blocks]

/-- A stream is read like the output at once, unless a carriage return stands alone. -/
theorem parseLines_cutAfterFeeds {output : Text} (h : Text.ReturnsFed output) :
    parseLines reading (Text.cutAfterFeeds output) = parseOutput reading output := by
  rw [Text.cutAfterFeeds_eq_map_full h, parseLines_full]

/-- Unified line breaks make no difference for the diagnostics of an output. -/
theorem parseOutput_unifyBreaks (reading : Reading) (output : Text) :
    parseOutput reading (Text.unifyBreaks output) = parseOutput reading output := by
  have hlines : outputLines (Text.unifyBreaks output) = outputLines output := by
    simp only [outputLines, Text.map_text_splitLines, Text.linePieces_unifyBreaks, List.map_map]
    rfl
  rw [parseOutput, hlines, parseOutput]

end Compiler

namespace Benchmark

theorem Strategy.count_oneShot_eq_streamed {output : Text} (h : Text.ReturnsFed output)
    (stripColours : Bool) :
    Strategy.oneShot.count stripColours output = Strategy.streamed.count stripColours output := by
  simp only [Strategy.count, Compiler.parseLines_cutAfterFeeds h]

/-! ### Loaded outputs -/

theorem return_notMem_times {text : Text} (h : '\r' ∉ text) (count : Nat) :
    '\r' ∉ Text.times count text := by
  rw [Text.times, List.mem_flatten]
  rintro ⟨copy, hcopy, hmem⟩
  rw [List.eq_of_mem_replicate hcopy] at hmem
  exact h hmem

theorem return_notMem_sampleBlock : '\r' ∉ sampleBlock := by
  -- string literals are evaluated fast one by one, but not their concatenation
  unfold sampleBlock
  repeat rw [String.toList_append]
  decide +kernel

/-- Captured outputs are read with unified line breaks. -/
theorem exists_unifyBreaks_of_captured {files : FileSet} {root : Path} {d : Dataset}
    (h : captured files root = .ok d) :
    ∀ part ∈ d.parts, ∃ text, part.2 = Text.unifyBreaks text := by
  unfold captured at h
  split at h
  · exact nomatch h
  · split at h
    · exact nomatch h
    · dsimp only at h
      split at h
      · exact nomatch h
      · obtain rfl := Except.ok.inj h
        intro part hpart
        obtain ⟨file, -, rfl⟩ := List.mem_map.mp hpart
        exact ⟨_, rfl⟩
    · exact nomatch h
    · exact nomatch h

/-- In no output that is loaded a carriage return stands alone. -/
theorem returnsFed_of_load {files : FileSet} {origin : Origin} {d : Dataset}
    (h : load files origin = .ok d) : ∀ part ∈ d.parts, Text.ReturnsFed part.2 := by
  intro part hpart
  cases origin with
  | sample count blocks =>
    obtain rfl : synthetic count blocks = d := Except.ok.inj h
    obtain rfl := List.mem_singleton.mp hpart
    exact Text.returnsFed_of_notMem (return_notMem_times return_notMem_sampleBlock _)
  | directory root =>
    obtain ⟨text, htext⟩ := exists_unifyBreaks_of_captured h part hpart
    rw [htext]
    exact Text.returnsFed_of_notMem (Text.return_notMem_unifyBreaks text)

end Benchmark

namespace Compiler

/-- Feeding the lines of an output with their terminators to a scanner and finishing it finds the
diagnostics of the output. So does a stream of the output if every carriage return is directly
followed by a line feed, as it is once line breaks are unified, and then both strategies of the
benchmark count the same. They do on every dataset that is loaded. -/
theorem readings_agree (reading : Reading) (output : Text) :
    (∃ steps : List Emission,
      Scanner.answers { reading }
          ((Text.splitLines output).map (fun line => .feed line.full) ++ [.finish]) =
        steps.map .ok ∧
      steps.flatMap (·.diagnostics) = parseOutput reading output) ∧
    (Text.ReturnsFed output →
      parseLines reading (Text.cutAfterFeeds output) = parseOutput reading output ∧
      ∀ stripColours, Benchmark.Strategy.oneShot.count stripColours output =
        Benchmark.Strategy.streamed.count stripColours output) ∧
    Text.ReturnsFed (Text.unifyBreaks output) ∧
    ∀ files origin d, Benchmark.load files origin = .ok d →
      ∀ stripColours, d.total (Benchmark.Strategy.oneShot.count stripColours) =
        d.total (Benchmark.Strategy.streamed.count stripColours) := by
  refine ⟨⟨(emissions reading ((Text.splitLines output).map SourceLine.full)).map (·.2), ?_, ?_⟩,
    fun h => ⟨parseLines_cutAfterFeeds h, Benchmark.Strategy.count_oneShot_eq_streamed h⟩, ?_, ?_⟩
  · have hanswers := Scanner.answers_feed_finish (s := { reading }) rfl
      ((Text.splitLines output).map SourceLine.full)
    rw [List.map_map] at hanswers
    rw [List.map_map]
    exact hanswers
  · rw [List.flatMap_map, ← parseLines_full]
    rfl
  · exact Text.returnsFed_of_notMem (Text.return_notMem_unifyBreaks output)
  · intro files origin d hload stripColours
    have hpart : ∀ part ∈ d.parts,
        part.1 * Benchmark.Strategy.oneShot.count stripColours part.2 =
          part.1 * Benchmark.Strategy.streamed.count stripColours part.2 := fun part hpart => by
      rw [Benchmark.Strategy.count_oneShot_eq_streamed
        (Benchmark.returnsFed_of_load hload part hpart)]
    rw [Benchmark.Dataset.total, Benchmark.Dataset.total, List.map_congr_left hpart]

/-- An output with both line breaks, a colour sequence in front of one of them, and a last line
without any. -/
def mixedOutput : Text :=
  "\x1b[31mERROR a\x1b[0m\r\n  b\nat f:1:2\r\nERROR c\r\n\nat g:3:4".toList

theorem readings_agree_mixedOutput :
    Text.ReturnsFed mixedOutput ∧
      parseLines {} (Text.cutAfterFeeds mixedOutput) = parseOutput {} mixedOutput ∧
      (parseOutput {} mixedOutput).length = 2 := by
  have hfed : Text.ReturnsFed mixedOutput := by decide +kernel
  exact ⟨hfed, ((readings_agree {} mixedOutput).2.1 hfed).1, by decide +kernel⟩

/-- A stream does not see that a carriage return alone ends the header. -/
example :
    parseLines {} (Text.cutAfterFeeds "ERROR a\rat f:1:2".toList) ≠
      parseOutput {} "ERROR a\rat f:1:2".toList := by
  decide +kernel

end Compiler
end AmberTools
