import AmberTools.Benchmark.Dataset
import AmberTools.CommandLine.Request
import AmberTools.Decimal.Fixed

/-!
# Running the benchmark

Each strategy is measured with and without removal of colours. A measurement reads the clock
before and after each run; the table shows the median of the runs and the lines read in a
second.
-/

namespace AmberTools
namespace Benchmark

open Arguments CommandLine

/-- What is measured. A number is missing if its option is written without a value. -/
structure Plan where
  root : Given Text := .omitted
  count : Option Int := some 200
  blocks : Option Int := some 500
  runs : Option Int := some 3
  deriving DecidableEq, Repr

/-- What a command line asks for. -/
inductive Asked where
  | plan (p : Plan)
  | help
  /-- The command line does not fit. -/
  | misuse
  deriving DecidableEq, Repr

/-- The option that names a directory of captured outputs. -/
def rootOption : OptionSpec := long "output-root" true

/-- The option for the number of made-up outputs. -/
def countOption : OptionSpec := long "synthetic-count" true

/-- The option for the number of blocks of a made-up output. -/
def blocksOption : OptionSpec := long "synthetic-blocks" true

/-- The option for the number of runs. -/
def runsOption : OptionSpec := long "runs" true

/-- The option that shows no progress. -/
def noProgressOption : OptionSpec := long "no-progress" false

/-- The options of the benchmark. -/
def grammar : Grammar :=
  ⟨[helpOption, rootOption, countOption, blocksOption, runsOption, noProgressOption], .none⟩

/-- The plan with one more option. -/
def planStep (p : Plan) (spec : OptionSpec) (value : Option Text) : Except Halt Plan :=
  if spec = rootOption then .ok { p with root := .ofWritten value }
  else if spec = noProgressOption then .ok p
  else (integerValue value).map fun n =>
    if spec = countOption then { p with count := n }
    else if spec = blocksOption then { p with blocks := n }
    else { p with runs := n }

/-- What a command line asks for. -/
def Asked.ofWords (words : List Text) : Asked :=
  match foldReading (grammar.read words) ({} : Plan) planStep (fun p _ => p) with
  | .ok p => .plan p
  | .error .help => .help
  | .error .misuse => .misuse

/-- A clock that advances by given steps over and over, each time it is read. -/
structure TickingClock where
  steps : List Binary64
  /-- The steps before the first is taken again. -/
  remaining : List Binary64
  now : Binary64

/-- The clock at its start. -/
def TickingClock.start (steps : List Binary64) : TickingClock := ⟨steps, steps, .zero⟩

/-- The clock's time after its next step. -/
def TickingClock.read (c : TickingClock) : Binary64 × TickingClock :=
  match c.remaining, c.steps with
  | step :: rest, _ => (c.now.add step, { c with remaining := rest, now := c.now.add step })
  | [], step :: rest =>
    (c.now.add step, { c with remaining := rest, now := c.now.add step })
  | [], [] => (c.now, c)

/-- The durations of some runs. -/
def durations (c : TickingClock) : (runs : Nat) → List Binary64 × TickingClock
  | 0 => ([], c)
  | runs + 1 =>
    let (start, c) := c.read
    let (stop, c) := c.read
    let (rest, c) := durations c runs
    (stop.sub start :: rest, c)

/-- The middle one of some numbers by size, or the mean of the two in the middle. -/
def median (xs : List Binary64) : Binary64 :=
  let sorted := xs.mergeSort fun a b => !b.lt a
  let middle := sorted.length / 2
  let upper := sorted.getD middle .zero
  if sorted.length % 2 = 1 then upper
  else (((sorted.getD (middle - 1) .zero).add upper).div? (.ofInt 2)).getD .zero

/-- A line of the table, from its cells. -/
def tableLine (strategy colours diagnostics seconds rate : Text) : Text :=
  Text.joinWith [' '] [Fixed.padRight 10 strategy, Fixed.padRight 6 colours,
    Fixed.padLeft 12 diagnostics, Fixed.padLeft 10 seconds, Fixed.padLeft 12 rate] ++ ['\n']

/-- The head of the table. -/
def tableHead : Text :=
  tableLine "strategy".toList "ansi".toList "diagnostics".toList "median s".toList
    "lines/s".toList

/-- The lines above the table. -/
def summary (d : Dataset) (runs : Nat) : Text :=
  "Dataset: ".toList ++ d.label ++ ['\n'] ++
    s!"Outputs: {d.size}  Lines: {d.lines}  Runs: {runs}\n".toList

/-- A measurement's line; there is none if no time passed, since no rate exists then. -/
def row? (d : Dataset) (strategy : Strategy) (stripColours : Bool) (times : List Binary64) :
    Option Text :=
  let middle := median times
  ((Binary64.ofInt d.lines).div? middle).map fun rate =>
    tableLine strategy.name.toList (if stripColours then "strip".toList else "raw".toList)
      (Text.ofNat (d.total (strategy.count stripColours))) (Fixed.write 4 middle)
      (Fixed.write 1 rate)

/-- The measurements' lines in order, and whether the last one could be written. -/
def rows (d : Dataset) (runs : Nat) (c : TickingClock) :
    List (Strategy × Bool) → Text × Bool
  | [] => ([], true)
  | (strategy, stripColours) :: rest =>
    let (times, c) := durations c runs
    match row? d strategy stripColours times with
    | none => ([], false)
    | some line =>
      let (more, finished) := rows d runs c rest
      (line ++ more, finished)

/-- All measurements in order. -/
def measurements : List (Strategy × Bool) :=
  Strategy.all.flatMap fun strategy => [(strategy, true), (strategy, false)]

/-- How a benchmark ends. -/
inductive Ending where
  | finished
  | noDataset (fault : Fault)
  /-- The outputs are wanted from a directory that is not named. -/
  | rootUnnamed
  /-- A number that is needed is missing. -/
  | numberMissing
  /-- A measurement took no time. -/
  | noTimePassed

/-- A benchmark's output and ending. -/
structure Outcome where
  output : Text
  ending : Ending

/-- Where the outputs of a plan come from. Captured ones need no numbers. -/
def Plan.origin (p : Plan) : Except Ending Origin :=
  match p.root with
  | .omitted =>
    match p.count, p.blocks with
    | some count, some blocks => .ok (.sample count blocks)
    | _, _ => .error .numberMissing
  | .empty => .error .rootUnnamed
  | .value root => .ok (.directory root)

/-- The dataset of a plan and the number of its runs, of which there is at least one. -/
def Plan.prepare (files : FileSet) (p : Plan) : Except Ending (Dataset × Nat) := do
  let d ← (load files (← p.origin)).mapError .noDataset
  match p.runs with
  | some runs => return (d, (max runs 1).toNat)
  | none => throw .numberMissing

/-- What a plan leads to. -/
def run (files : FileSet) (c : TickingClock) (p : Plan) : Outcome :=
  match p.prepare files with
  | .error ending => ⟨[], ending⟩
  | .ok (d, runs) =>
    let (table, finished) := rows d runs c measurements
    ⟨summary d runs ++ tableHead ++ table, if finished then .finished else .noTimePassed⟩

end Benchmark
end AmberTools
