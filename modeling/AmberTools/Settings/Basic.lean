import AmberTools.Compiler.Scanner

/-!
# Settings

The settings say how far a level is indented, whether colours are removed from compiler output,
which program compiles, and what becomes of diagnostics without a place. A level is at least one
column wide, and the compiler's name shows at least one character.
-/

namespace AmberTools

/-- The settings of all tools. -/
structure Settings where
  indentUnit : Nat := 4
  stripColours : Bool := true
  executable : WideText := WideText.ofString "amber"
  unlocated : Compiler.UnlocatedPolicy := .drop
  indentUnit_pos : 0 < indentUnit := by decide
  executable_visible : WideText.allBlank executable = false := by decide
  deriving DecidableEq

namespace Settings

/-- The settings nobody has changed. -/
def default : Settings := {}

/-- How compiler output is read. -/
def reading (s : Settings) : Compiler.Reading := ⟨s.stripColours, s.unlocated⟩

end Settings
end AmberTools
