import AmberTools.Text.Digit

/-!
# Words of a command line

A word is an operand, the separator behind which all words are operands, or an option. A long
option may be shortened as long as it stays the only one that starts so, and its value may be
attached behind an equals sign; the value of a short option may follow its letter directly, and
further letters may follow one without a value. Negative numbers and words with spaces are operands
unless they name an option.
-/

namespace AmberTools
namespace Arguments

/-- An option: its names, and whether a value belongs to it. -/
structure OptionSpec where
  names : List Text
  takesValue : Bool := false
  deriving DecidableEq, Repr

/-- An option as it is written. -/
structure Written where
  spec : OptionSpec
  /-- Whether it is written by a single hyphen. -/
  short : Bool
  /-- What is attached to its name: behind an equals sign, or right behind the letter of a short
  one. -/
  attached : Option Text
  deriving DecidableEq, Repr

/-- The kinds of words. -/
inductive Word where
  | operand
  | separator
  | option (written : Written)
  | unknownOption
  deriving DecidableEq, Repr

/-- The separator between options and operands. -/
def separator : Text := ['-', '-']

/-- The option of a given name. -/
def named? (specs : List OptionSpec) (name : Text) : Option OptionSpec :=
  specs.find? fun spec => spec.names.contains name

/-- A name written by two hyphens is long. -/
def isLong (name : Text) : Bool := separator.isPrefixOf name

/-- The options that a long name may be short for, with what is attached to it. -/
def longCandidates (specs : List OptionSpec) (word : Text) : List Written :=
  let (start, attached) := match Text.cutAt? '=' word with
    | some (name, value) => (name, some value)
    | none => (word, none)
  specs.flatMap fun spec =>
    (spec.names.filter fun name => start.isPrefixOf name).map fun name =>
      ⟨spec, !isLong name, attached⟩

/-- The options that a word behind a single hyphen may be: the one of its first letter, with what
follows attached, and those whose names it starts. -/
def shortCandidates (specs : List OptionSpec) (word : Text) : List Written :=
  specs.flatMap fun spec =>
    spec.names.filterMap fun name =>
      if name = word.take 2 then some ⟨spec, true, some (word.drop 2)⟩
      else if word.isPrefixOf name then some ⟨spec, !isLong name, none⟩
      else none

/-- A hyphen and digits with at most one point, which has a digit behind it. One line feed may
follow. -/
def isNegativeNumber (word : Text) : Bool :=
  match word with
  | '-' :: digits =>
    let body := if digits.getLast? = some '\n' then digits.dropLast else digits
    match Text.cutAt? '.' body with
    | none => !body.isEmpty && body.all Text.isDigit
    | some (whole, places) =>
      whole.all Text.isDigit && !places.isEmpty && places.all Text.isDigit
  | _ => false

/-- The kind of a word that is not the separator. A word that may be several options has none. -/
def classify? (specs : List OptionSpec) (word : Text) : Option Word :=
  if word.head? != some '-' then some .operand
  else match named? specs word with
    | some spec => some (.option ⟨spec, !isLong word, none⟩)
    | none =>
      let split := (Text.cutAt? '=' word).bind fun cut =>
        (named? specs cut.1).map fun spec => Written.mk spec (!isLong cut.1) (some cut.2)
      if word.length = 1 then some .operand
      else match split with
        | some written => some (.option written)
        | none =>
          let candidates :=
            if isLong word then longCandidates specs word else shortCandidates specs word
          match candidates with
          | [written] => some (.option written)
          | _ :: _ :: _ => none
          | [] =>
            if isNegativeNumber word || word.contains ' ' then some .operand
            else some .unknownOption

/-- The words with their kinds; nothing if one of them may be several options. -/
def classifyAll? (specs : List OptionSpec) : List Text → Option (List (Text × Word))
  | [] => some []
  | word :: words =>
    if word = separator then some ((word, .separator) :: words.map (·, .operand))
    else do
      let kind ← classify? specs word
      let rest ← classifyAll? specs words
      return (word, kind) :: rest

end Arguments
end AmberTools
