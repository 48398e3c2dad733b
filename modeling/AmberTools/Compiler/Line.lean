import AmberTools.Text.Blank

/-!
# Lines of compiler output

The compiler announces a diagnostic by a header line, `ERROR` and a message, and gives its
place on a later line, `at` with file, line and column. All other lines are context.
-/

namespace AmberTools
namespace Compiler

/-- A line of compiler output by its role. -/
inductive Line where
  | header (message : Text)
  | location (file : Text) (line column : Nat) (pos : 0 < line ∧ 0 < column)
  | context
  | blank
  deriving DecidableEq

namespace Line

/-- A decimal digit of ASCII. -/
def isDigit (c : Char) : Bool := '0' ≤ c && c ≤ '9'

/-- The value of a run of decimal digits. -/
def digitsValue (digits : Text) : Nat :=
  digits.foldl (fun n c => 10 * n + (c.toNat - '0'.toNat)) 0

/-- The text before a line feed at its end, if there is no other line feed. -/
def beforeFinalFeed? (text : Text) : Option Text :=
  let line := text.takeWhile (· != '\n')
  match text.dropWhile (· != '\n') with
  | [] => some line
  | ['\n'] => some line
  | _ => none

/-- The message of a header: what follows `ERROR` and at least one blank character. -/
def header? (text : Text) : Option Text :=
  match Text.dropStart? "ERROR".toList (Text.trimLeft text) with
  | some (c :: rest) =>
    if Text.isBlank c then (beforeFinalFeed? (Text.trimLeft rest)).map Text.trimRight else none
  | _ => none

/-- A number of one to eighteen digits and what follows it. -/
def number? (text : Text) : Option (Nat × Text) :=
  let digits := text.takeWhile isDigit
  if 1 ≤ digits.length ∧ digits.length ≤ 18 then
    some (digitsValue digits, text.dropWhile isDigit)
  else none

/-- File, line and column of a location-shaped line. -/
def location? (text : Text) : Option (Text × Nat × Nat) := do
  let rest ← Text.dropStart? "at ".toList (Text.trimLeft text)
  let (file, rest) ← Text.cutAt? ':' rest
  if file.isEmpty then none
  let (line, rest) ← number? rest
  let rest ← Text.dropStart? [':'] rest
  let (column, rest) ← number? rest
  if Text.allBlank rest then some (file, line, column) else none

/-- A line that is neither header nor location. -/
def other (text : Text) : Line := if Text.allBlank text then .blank else .context

/-- The role of a line without colours and line break. A line or column of zero makes no
location, since positions count from one. -/
def classify (text : Text) : Line :=
  match header? text with
  | some message => .header message
  | none =>
    match location? text with
    | some (file, line, column) =>
      if h : 0 < line ∧ 0 < column then .location file line column h else other text
    | none => other text

end Line
end Compiler
end AmberTools
