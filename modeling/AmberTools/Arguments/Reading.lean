import AmberTools.Arguments.Word

/-!
# Reading a command line

A command line is read from left to right into occurrences of options and operands. Reading may
break off at a word that does not fit; what stands before such a word has been read all the same,
since an option before it may already have ended the program.
-/

namespace AmberTools
namespace Arguments

/-- The operands of a command line: none, one that may be left out, one that must be there, or a
command with words of its own. -/
inductive Operands where
  | none
  | optional
  | required
  | command
  deriving DecidableEq, Repr

/-- What a program accepts. -/
structure Grammar where
  options : List OptionSpec
  operands : Operands
  deriving DecidableEq, Repr

/-- What has been read. An option has no value if it takes none, or if only the separator is
attached to it. -/
inductive Occurrence where
  | option (spec : OptionSpec) (value : Option Text)
  | operand (value : Text)
  | command (name : Text) (words : List Text)
  deriving DecidableEq, Repr

/-- The occurrences of a command line, and whether every word has found its place and nothing is
missing. -/
structure Reading where
  occurrences : List Occurrence
  complete : Bool
  deriving DecidableEq, Repr

/-- A reading that breaks off. -/
def Reading.broken : Reading := ⟨[], false⟩

/-- The reading with an occurrence in front. -/
def Reading.after (occurrence : Occurrence) (r : Reading) : Reading :=
  ⟨occurrence :: r.occurrences, r.complete⟩

/-- The reading with a word that has found no place. -/
def Reading.misfit (r : Reading) : Reading := ⟨r.occurrences, false⟩

/-- What an option stands for as it is written. -/
structure Expansion where
  found : List Occurrence
  /-- The option that may still need a value from the next word. -/
  last : Option OptionSpec
  deriving DecidableEq, Repr

/-- The expansion with an occurrence in front. -/
def Expansion.after (occurrence : Occurrence) (e : Expansion) : Expansion :=
  { e with found := occurrence :: e.found }

/-- The value of an option to which a text is attached: that text, unless it is the separator, which
counts for nothing here too. -/
def attachedValue? (attached : Text) : Option Text :=
  if attached = separator then none else some attached

/-- Options written by letters behind one hyphen, of which the first is known. An option with a
value takes all that follows its letter. A letter that is no option spoils them all. -/
def letters? (specs : List OptionSpec) (spec : OptionSpec) : (attached : Text) → Option Expansion
  | [] => some ⟨[], some spec⟩
  | c :: rest =>
    if spec.takesValue then some ⟨[.option spec (attachedValue? (c :: rest))], none⟩
    else match named? specs ['-', c] with
      | none => none
      | some next => (letters? specs next rest).map (.after (.option spec none))

/-- What an option stands for. What is attached to a letter that takes no value are more letters;
a long option without a value can have nothing attached. -/
def expand? (specs : List OptionSpec) (w : Written) : Option Expansion :=
  match w.attached with
  | none => some ⟨[], some w.spec⟩
  | some attached =>
    if w.spec.takesValue then some ⟨[.option w.spec (attachedValue? attached)], none⟩
    else if w.short && !attached.isEmpty then letters? specs w.spec attached
    else none

/-- The texts without the first separator. -/
def dropSeparator (words : List Text) : List Text := words.erase separator

/-- Whether a word of a kind is an option. -/
def isOption (word : Text × Word) : Bool :=
  match word.2 with
  | .option _ => true
  | .unknownOption => true
  | _ => false

/-- The end of a command line behind its last option: at most one operand, with separators around
it. -/
def readEnd (wanted : Operands) (words : List (Text × Word)) : Reading :=
  let isSeparator := fun word : Text × Word => word.2 == .separator
  let before := words.takeWhile isSeparator
  let found := (words.drop before.length).take 1
  let behind := (words.drop (before.length + found.length)).takeWhile isSeparator
  let used := before ++ found ++ if found.isEmpty then [] else behind
  let rest := words.drop used.length
  let values := dropSeparator (used.map (·.1))
  match wanted with
  | .none => ⟨[], words.isEmpty⟩
  | .optional => ⟨(values.take 1).map .operand, rest.isEmpty⟩
  | .required =>
    if found.isEmpty then .broken else ⟨(values.take 1).map .operand, rest.isEmpty⟩
  | .command =>
    match words with
    | (name, .operand) :: words => ⟨[.command name (words.map (·.1))], true⟩
    | _ => .broken

/-- The reading of classified words, where some operands are still wanted. -/
def read (specs : List OptionSpec) (wanted : Operands) : List (Text × Word) → Reading
  | [] => readEnd wanted []
  | (text, kind) :: words =>
    if !isOption (text, kind) && !words.any isOption then readEnd wanted ((text, kind) :: words)
    else match kind with
      | .unknownOption => (read specs wanted words).misfit
      | .option written =>
        match expand? specs written with
        | none => .broken
        | some ⟨found, none⟩ => found.foldr Reading.after (read specs wanted words)
        | some ⟨found, some spec⟩ =>
          if !spec.takesValue then
            (found ++ [Occurrence.option spec none]).foldr Reading.after (read specs wanted words)
          else match words with
            | (value, .operand) :: rest =>
              (found ++ [Occurrence.option spec (some value)]).foldr Reading.after
                (read specs wanted rest)
            | _ => .broken
      | _ =>
        match wanted with
        | .none => (read specs .none words).misfit
        | .command => ⟨[.command text (words.map (·.1))], true⟩
        | _ => (read specs .none words).after (.operand text)

/-- The reading of a command line. -/
def Grammar.read (g : Grammar) (words : List Text) : Reading :=
  match classifyAll? g.options words with
  | some words => Arguments.read g.options g.operands words
  | none => .broken

end Arguments
end AmberTools
