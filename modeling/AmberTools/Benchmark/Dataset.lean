import AmberTools.Compiler.Scanner
import AmberTools.Files.Source

/-!
# Datasets

A benchmark reads compiler outputs: copies of a made-up one, or the captured outputs below a
directory, which are the files with the endings `.log` and `.txt`.
-/

namespace AmberTools
namespace Benchmark

/-- A block of output with two located diagnostics, one of them in colours. -/
def sampleBlock : Text :=
  ("\x1b[31m ERROR\x1b[0m Variable 'count' does not exist\n" ++
    "  12| echo count + 1\n" ++
    "at src/main.ab:12:6\n" ++
    "\n" ++
    "ERROR Function 'greet' expects 1 argument\n" ++
    "at src/lib/util.ab:3:1\n" ++
    "Compilation failed\n").toList

/-- Outputs with a label. Equal outputs are held once with their number. -/
structure Dataset where
  label : Text
  parts : List (Nat × Text)
  deriving DecidableEq, Repr

/-- The outputs one by one. -/
def Dataset.outputs (d : Dataset) : List Text :=
  d.parts.flatMap fun part => List.replicate part.1 part.2

/-- The number of outputs. -/
def Dataset.size (d : Dataset) : Nat := (d.parts.map (·.1)).foldr (· + ·) 0

/-- The sum of a measure over all outputs. -/
def Dataset.total (d : Dataset) (measure : Text → Nat) : Nat :=
  (d.parts.map fun part => part.1 * measure part.2).foldr (· + ·) 0

/-- The number of line feeds in all outputs. -/
def Dataset.lines (d : Dataset) : Nat := d.total fun output => output.count '\n'

/-- Copies of an output of some sample blocks. Negative numbers give none. -/
def synthetic (count blocks : Int) : Dataset where
  label := "synthetic (".toList ++ Text.ofInt count ++ " x ".toList ++ Text.ofInt blocks ++
    " blocks)".toList
  parts := [(count.toNat, Text.times blocks.toNat sampleBlock)]

/-- Why there is no dataset. -/
inductive Fault where
  | noDirectory (root : Text)
  | noFiles (root : Text)
  | file (fault : FileFault) (path : Text)
  deriving DecidableEq, Repr

/-- The wording of a fault. -/
def Fault.message : Fault → String
  | .noDirectory root => s!"Invalid --output-root: {String.ofList root}"
  | .noFiles root => s!"No .log/.txt files found under {String.ofList root}"
  | .file fault path => fault.message path

/-- Whether a file's name has one of the endings of captured outputs. -/
def isCapture (name : Text) : Bool :=
  ".log".toList.isSuffixOf name || ".txt".toList.isSuffixOf name

/-- The order of sequences of names: name by name, by code point. -/
def namesLe : List Text → List Text → Bool
  | [], _ => true
  | _ :: _, [] => false
  | a :: as, b :: bs => if a = b then namesLe as bs else Text.le a b

/-- The files below a directory with their names, if they are captured outputs. -/
def captures (files : FileSet) (directory : Path) : List (List Text × List UInt8) :=
  files.entries.filterMap fun (path, entry) =>
    match entry with
    | .directory => none
    | .file bytes =>
      if FileSet.leadsTo directory path && (path.names.getLast?).any isCapture then
        some (path.names, bytes)
      else none

/-- The captured outputs below a directory in the order of their paths. -/
def captured (files : FileSet) (root : Path) : Except Fault Dataset :=
  if root.text.contains '\x00' then .error (.noDirectory root.text)
  else match files.find root with
    | .error .nameTooLong => .error (.file .nameTooLong root.text)
    | .ok (.within directory, .directory) =>
      let found := (captures files directory).mergeSort fun a b => namesLe a.1 b.1
      if found.isEmpty then .error (.noFiles root.text)
      else .ok ⟨root.text, found.map fun file => (1, Source.decodeLenient file.2)⟩
    | .ok (.above, .directory) => .error (.noFiles root.text)
    | _ => .error (.noDirectory root.text)

/-- Where outputs come from. -/
inductive Origin where
  /-- Copies of an output of some sample blocks. -/
  | sample (count blocks : Int)
  /-- The captured outputs below a directory. -/
  | directory (root : Text)
  deriving DecidableEq, Repr

/-- The dataset of an origin. -/
def load (files : FileSet) : Origin → Except Fault Dataset
  | .sample count blocks => .ok (synthetic count blocks)
  | .directory root => captured files (Path.ofText root)

/-- The ways of reading an output: at once, or line by line as it comes in. -/
inductive Strategy where
  | oneShot
  | streamed
  deriving DecidableEq, Repr

namespace Strategy

/-- All strategies in the order in which they are measured. -/
def all : List Strategy := [oneShot, streamed]

/-- The name of a strategy. -/
def name : Strategy → String
  | oneShot => "one-shot"
  | streamed => "streamed"

/-- The number of diagnostics that a strategy finds in an output. -/
def count (strategy : Strategy) (stripColours : Bool) (output : Text) : Nat :=
  let reading : Compiler.Reading := { stripColours }
  match strategy with
  | oneShot => (Compiler.parseOutput reading output).length
  | streamed => (Compiler.parseLines reading (Text.cutAfterFeeds output)).length

end Strategy
end Benchmark
end AmberTools
