import AmberTools.CommandLine.Run

/-!
# The program

Reads what a command line names, runs it, and carries out what comes of it. The program starts no
other programs, so the command `check` finds no compiler that could run.
-/

namespace AmberTools
namespace Program

open CommandLine

/-- The paths that a request may read. -/
def pathsOf (r : Request) : List Text :=
  r.config.toList ++
    match r.command with
    | .diagnostics input _ => if input = ['-'] then [] else [input]
    | .indent path _ _ => [path]
    | .highlight path _ => [path]
    | .check path executable _ => path :: executable.toList

/-- Whether a request reads the standard input. -/
def readsInput (r : Request) : Bool :=
  match r.command with
  | .diagnostics input _ => input == ['-']
  | _ => false

/-- What is at the end of a path, if anything is. Only a directory is refused for its kind. -/
def entryAt (path : Path) : IO (Option FileEntry) := do
  try
    return some (.file (← IO.FS.readBinFile (String.ofList path.text)).toList)
  catch
    | .inappropriateType .. => return some .directory
    | _ => return none

/-- The path and the directories on the way to it. -/
def stages (path : Path) : List Path :=
  (List.range (path.names.length + 1)).map fun n => { path with names := path.names.take n }

/-- The files that paths lead to. -/
def gather (paths : List Text) : IO FileSet := do
  let mut entries := []
  for path in paths.flatMap fun p => stages (Path.ofText p) do
    if let some entry ← entryAt path then
      entries := entries ++ [(path, entry)]
  return ⟨entries⟩

/-- All bytes of a stream behind those read already. -/
partial def readRest (stream : IO.FS.Stream) (before : ByteArray) : IO ByteArray := do
  let bytes ← stream.read 65536
  if bytes.isEmpty then return before else readRest stream (before ++ bytes)

/-- The files whose bytes are others than before are written. -/
def store (before after : FileSet) : IO Unit := do
  for (path, entry) in after.entries do
    if before.entry? path != some entry then
      if let .file bytes := entry then
        IO.FS.writeBinFile (String.ofList path.text) (ByteArray.mk bytes.toArray)

/-- Words about a failure that was not foreseen. -/
def escapeText : Escape → String
  | .nullCharacter => Source.nullMessage
  | .unencodable fault => fault.message
  | .reader fault => fault.message
  | .unwritable reason => reason.message
  | .settingsUnnamed => "no settings file is named"
  | .formatter fault => fault.message
  | .bytesAsText => "the formatter writes bytes"

/-- A request is carried out. -/
def carryOut (r : Request) : IO UInt32 := do
  let files ← gather (pathsOf r)
  let input ←
    if readsInput r then readRest (← IO.getStdin) ByteArray.empty else pure ByteArray.empty
  let outcome := runRequest { input := input.toList, files } r
  IO.print (String.ofList outcome.output)
  IO.eprint (String.ofList outcome.errorOutput)
  store files outcome.files
  if let .escaped e := outcome.ending then
    IO.eprintln (escapeText e)
  return UInt32.ofNat outcome.ending.status

/-- Words about how the program is used. -/
def usage : String :=
  "usage: amberpy [-v] [--config FILE] diagnostics|indent|highlight|check ..."

end Program
end AmberTools

/-- The program. -/
def main (args : List String) : IO UInt32 := do
  match AmberTools.CommandLine.Asked.ofWords (args.map (·.toList)) with
  | .request r => AmberTools.Program.carryOut r
  | .help =>
    IO.println AmberTools.Program.usage
    return 0
  | .misuse =>
    IO.eprintln AmberTools.Program.usage
    return 2
