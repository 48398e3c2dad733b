import AmberTools.Text.Basic

/-!
# Diagnostics

A diagnostic is a message with a severity. It usually names the place in a source file that it
is about; a file goes together with a line and a column counted from one.
-/

namespace AmberTools

/-- A message about a source file. -/
structure Diagnostic where
  message : Text
  /-- The file the message is about, if it is known. -/
  file : Option Text
  line : Nat
  column : Nat
  severity : Text := "error".toList
  /-- A known file comes with a line and a column counted from one. -/
  located_pos : file.isSome → 0 < line ∧ 0 < column
  deriving DecidableEq

namespace Diagnostic

/-- Why a diagnostic cannot be made. -/
inductive Fault where
  | negativePosition
  | missingPosition
  deriving DecidableEq, Repr

/-- The wording of a fault. -/
def Fault.message : Fault → String
  | .negativePosition => "Diagnostic line/column cannot be negative"
  | .missingPosition => "Located diagnostic needs 1-based line and column"

/-- The severity of an error. -/
def errorSeverity : Text := "error".toList

/-- The diagnostic with the given fields, if its position can be one. -/
def make (message : Text) (file : Option Text) (line column : Int) (severity : Text) :
    Except Fault Diagnostic :=
  if line < 0 ∨ column < 0 then .error .negativePosition
  else if h : file.isSome → 0 < line.toNat ∧ 0 < column.toNat then
    .ok ⟨message, file, line.toNat, column.toNat, severity, h⟩
  else .error .missingPosition

/-- A diagnostic that names no place. -/
def unlocated (message : Text) (severity : Text := errorSeverity) : Diagnostic :=
  ⟨message, none, 0, 0, severity, by simp⟩

/-- A diagnostic that names its file is located. -/
def isLocated (d : Diagnostic) : Bool := d.file.isSome

/-- The first line of the message. -/
def summary (d : Diagnostic) : Text := d.message.takeWhile (· != '\n')

/-- File, line and column between colons, or a mark that the place is unknown. -/
def location (d : Diagnostic) : Text :=
  match d.file with
  | none => "<unknown>".toList
  | some file => file ++ ':' :: Text.ofNat d.line ++ ':' :: Text.ofNat d.column

/-- A diagnostic of severity `error`. -/
def isError (d : Diagnostic) : Bool := d.severity == errorSeverity

end Diagnostic
end AmberTools
