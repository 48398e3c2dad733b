/-!
# Values given by options

An option that takes a value may be left out. It may also be written with the separator attached
in place of a value, which counts for nothing: then the option is there and its value is not.
-/

namespace AmberTools
namespace Arguments

/-- What a command line gives for the value of an option. -/
inductive Given (α : Type) where
  /-- The option is left out. -/
  | omitted
  /-- The option is written without a value. -/
  | empty
  | value (a : α)
  deriving DecidableEq, Repr

namespace Given

variable {α : Type}

/-- What an option gives that is written, with or without a value. -/
def ofWritten : Option α → Given α
  | none => empty
  | some a => value a

/-- The values that are given: one or none. -/
def toList : Given α → List α
  | value a => [a]
  | _ => []

end Given
end Arguments
end AmberTools
