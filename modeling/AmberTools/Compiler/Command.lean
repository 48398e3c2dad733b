import AmberTools.Files.Path
import AmberTools.Settings.Basic

/-!
# Compile commands

The command that compiles a source file is the compiler's name, the source, and the file to
write if there is one.
-/

namespace AmberTools
namespace Compiler

/-- The words of the command that compiles a source. -/
def command (settings : Settings) (source : Text) (output : Option Text) : List WideText :=
  settings.executable :: source.wide :: (output.map Text.wide).toList

/-- The command for paths in their plain form. -/
def pathCommand (settings : Settings) (source : Text) (output : Option Text) : List WideText :=
  command settings (Path.ofText source).text (output.map fun p => (Path.ofText p).text)

end Compiler
end AmberTools
