import AmberTools.Yaml.Property

/-!
# Texts of scalars

A scalar is written plainly, in single or double quotes, or as a block of lines. Line breaks
inside plain and quoted scalars are folded: one break is a space, and of several the first is
dropped. A block keeps its breaks or folds them, and says what becomes of those at its end. Double
quotes may hold escapes, which name any code point, so only they give wide texts.
-/

namespace AmberTools
namespace Yaml

/-- The breaks of a folded line: a break that counts as a line feed is a space on its own, and
nothing before further breaks. -/
def foldBreaks (first : Char) (more : Text) : Text :=
  if first != '\n' then first :: more
  else if more.isEmpty then [' ']
  else more

/-! ### Plain scalars -/

/-- Whether a plain scalar goes on with the character at the head of a text. In a flow collection
its indicators end the scalar. -/
def plainGoesOn (inFlow : Bool) : Text → Bool
  | [] => false
  | c :: rest =>
    let follows := rest.head?
    let flowIndicator := fun c : Char => [',', '[', ']', '\x7b', '\x7d'].contains c
    !(isGap (some c) || (c == ':' && (isGap follows || (inFlow && follows.any flowIndicator))) ||
      (inFlow && (c == '?' || flowIndicator c)))

/-- The characters of a plain scalar up to the next space. -/
def plainWord (inFlow : Bool) : Text → Text
  | [] => []
  | c :: rest => if plainGoesOn inFlow (c :: rest) then c :: plainWord inFlow rest else []

/-- The line breaks and spaces that follow, as breaks; nothing if a document ends there. -/
def plainBreaks : (fuel : Nat) → Cursor → Option Text × Cursor
  | 0, k => (some [], k)
  | fuel + 1, k =>
    if k.at? ' ' then plainBreaks fuel k.next
    else match k.lineBreak? with
      | none => (some [], k)
      | some (c, k) =>
        if k.atDocumentMark then (none, k)
        else
          let (breaks, k) := plainBreaks fuel k
          (breaks.map (c :: ·), k)

/-- The spaces and breaks between two words of a plain scalar. -/
structure PlainGap where
  /-- The text that the gap counts as, if the scalar can go on behind it. -/
  text : Option Text
  /-- Whether a line ended in the gap. -/
  broke : Bool
  behind : Cursor

/-- The gap at a cursor. -/
def plainGap (k : Cursor) : PlainGap :=
  let (spaces, k) := k.span (· == ' ')
  match k.lineBreak? with
  | none => ⟨if spaces.isEmpty then none else some spaces, false, k⟩
  | some (c, k) =>
    if k.atDocumentMark then ⟨none, true, k⟩
    else
      let (breaks, k) := plainBreaks (k.rest.length + 1) k
      ⟨breaks.map (foldBreaks c), true, k⟩

/-- A plain scalar that has been read: its text, whether a line ended behind its last word, and
the cursor. -/
structure PlainScalar where
  text : Text
  broke : Bool
  behind : Cursor

/-- The words of a plain scalar behind a gap that counts as a text. On a further line they must
stand in a column of at least the given one. -/
def plainWords (inFlow : Bool) (column : Int) :
    (fuel : Nat) → (gap : Text) → (broke : Bool) → Cursor → PlainScalar
  | 0, _, broke, k => ⟨[], broke, k⟩
  | fuel + 1, gap, broke, k =>
    let word := if k.at? '#' then [] else plainWord inFlow k.rest
    if word.isEmpty then ⟨[], broke, k⟩
    else
      let after := plainGap (k.advance word.length)
      let stop : PlainScalar := ⟨gap ++ word, after.broke, after.behind⟩
      match after.text with
      | none => stop
      | some spaces =>
        if after.behind.at? '#' || (!inFlow && after.behind.column < column) then stop
        else
          let more := plainWords inFlow column fuel spaces after.broke after.behind
          ⟨gap ++ word ++ more.text, more.broke, more.behind⟩

/-- The plain scalar at a cursor inside a block of a given indentation. -/
def readPlain (inFlow : Bool) (indent : Int) (k : Cursor) : PlainScalar :=
  plainWords inFlow (indent + 1) (k.rest.length + 1) [] false k

/-! ### Quoted scalars -/

/-- The line breaks and blank characters that follow, as breaks. -/
def quotedBreaks : (fuel : Nat) → Cursor → Except Fault (Text × Cursor)
  | 0, k => .ok ([], k)
  | fuel + 1, k =>
    if k.atDocumentMark then .error .malformed
    else
      let k := k.skip fun c => c == ' ' || c == '\t'
      match k.lineBreak? with
      | none => .ok ([], k)
      | some (c, k) =>
        match quotedBreaks fuel k with
        | .ok (breaks, k) => .ok (c :: breaks, k)
        | .error fault => .error fault

/-- The blank characters and breaks at a cursor inside quotes, as the text they count as. -/
def quotedGap (k : Cursor) : Except Fault (Text × Cursor) :=
  let (blanks, k) := k.span fun c => c == ' ' || c == '\t'
  if k.here.isNone then .error .malformed
  else match k.lineBreak? with
    | none => .ok (blanks, k)
    | some (c, k) =>
      match quotedBreaks (k.rest.length + 1) k with
      | .ok (breaks, k) => .ok (foldBreaks c breaks, k)
      | .error fault => .error fault

/-- The characters of one-letter escapes. -/
def escapes : List (Char × Char) :=
  [('0', '\x00'), ('a', '\x07'), ('b', '\x08'), ('t', '\t'), ('\t', '\t'), ('n', '\n'),
   ('v', '\x0b'), ('f', '\x0c'), ('r', '\r'), ('e', '\x1b'), (' ', ' '), ('"', '"'),
   ('\\', '\\'), ('/', '/'), ('N', '\x85'), ('_', '\xa0'), ('L', '\u2028'), ('P', '\u2029')]

/-- The number of hexadecimal digits behind a letter. -/
def escapeLength? (c : Char) : Option Nat :=
  if c = 'x' then some 2 else if c = 'u' then some 4 else if c = 'U' then some 8 else none

/-- The value of hexadecimal digits. -/
def hexValue? (digits : Text) : Option Nat :=
  digits.foldlM (fun n c => (hexDigit? c).map (16 * n + ·)) 0

/-- The text of an escape behind its backslash. A break counts for nothing there. -/
def readEscape (k : Cursor) : Except Fault (WideText × Cursor) :=
  match k.here with
  | none => .error .malformed
  | some c =>
    match (escapes.find? (·.1 == c)), escapeLength? c with
    | some (_, d), _ => .ok ([.char d], k.next)
    | none, some length =>
      let digits := k.next.rest.take length
      match hexValue? digits with
      | some n =>
        if digits.length < length then .error .malformed
        else if 0x7fffffff < n then .error .escapeTooLarge
        else match CodePoint.ofNumber? n with
          | some point => .ok ([point], k.advance (length + 1))
          | none => .error .noSuchCharacter
      | none => .error .malformed
    | none, none =>
      match k.lineBreak? with
      | some (_, k) => (quotedBreaks (k.rest.length + 1) k).map fun read => (read.1.wide, read.2)
      | none => .error .malformed

/-- The characters that stand for themselves in any quotes. -/
def isQuotedPlain (c : Char) : Bool :=
  !(c == '\'' || c == '"' || c == '\\' || isGap (some c))

/-- The text in quotes up to its closing quote, and the cursor behind that. -/
def quotedText (double : Bool) : (fuel : Nat) → Cursor → Except Fault (WideText × Cursor)
  | 0, _ => .error .outOfSteps
  | fuel + 1, k =>
    let resume := fun (text : WideText) (k : Cursor) =>
      match quotedText double fuel k with
      | .ok (more, k) => Except.ok (text ++ more, k)
      | .error fault => .error fault
    let (word, k) := k.span isQuotedPlain
    match k.here with
    | none => .error .malformed
    | some c =>
      if c = '\'' && !double then
        if k.peek 1 == some '\'' then resume (word ++ ['\'']).wide (k.advance 2)
        else .ok (word.wide, k.next)
      else if c = '"' && double then .ok (word.wide, k.next)
      else if c = '\\' && double then
        match readEscape k.next with
        | .ok (text, k) => resume (word.wide ++ text) k
        | .error fault => .error fault
      else if isGap (some c) then
        match quotedGap k with
        | .ok (text, k) => resume (word ++ text).wide k
        | .error fault => .error fault
      else resume (word ++ [c]).wide k.next

/-- The scalar in quotes at a cursor. -/
def readQuoted (double : Bool) (k : Cursor) : Except Fault (Token × Cursor) :=
  (quotedText double (k.rest.length + 1) k.next).map fun read => (.scalar read.1 false, read.2)

/-! ### Blocks -/

/-- What becomes of the breaks at the end of a block: all go, one stays, or all stay. -/
inductive Chomping where
  | strip
  | clip
  | keep
  deriving DecidableEq, Repr

/-- The chomping that a sign asks for. -/
def chomping? : Option Char → Option Chomping
  | some '+' => some .keep
  | some '-' => some .strip
  | _ => none

/-- The indentation that a digit asks for. -/
def indentation? : Option Char → Option Nat
  | some c => if Text.isAsciiDigit c then some (c.toNat - '0'.toNat) else none
  | none => none

/-- The head of a block: chomping and indentation in either order. -/
def readBlockHead (k : Cursor) : Except Fault (Chomping × Option Nat × Cursor) := do
  let (chomping, indentation, k) :=
    match chomping? k.here, indentation? k.here with
    | some c, _ =>
      match indentation? k.next.here with
      | some n => (c, some n, k.advance 2)
      | none => (c, none, k.next)
    | none, some n =>
      match chomping? k.next.here with
      | some c => (c, some n, k.advance 2)
      | none => (.clip, some n, k.next)
    | none, none => (.clip, none, k)
  if indentation = some 0 || !isStop k.here then throw .malformed
  return (chomping, indentation, ← k.finishLine)

/-- The breaks at the start of a block without a stated indentation, and the greatest column that
the spaces there reach. -/
def leadingBreaks : (fuel : Nat) → Cursor → Text × Nat × Cursor
  | 0, k => ([], 0, k)
  | fuel + 1, k =>
    if k.at? ' ' then
      let (breaks, column, after) := leadingBreaks fuel k.next
      (breaks, max k.next.column column, after)
    else match k.lineBreak? with
      | none => ([], 0, k)
      | some (c, k) =>
        let (breaks, column, after) := leadingBreaks fuel k
        (c :: breaks, column, after)

/-- The cursor behind spaces up to a column. -/
def indentTo (column : Nat) (k : Cursor) : Cursor :=
  let spaces := (k.rest.takeWhile (· == ' ')).length
  k.advance (min spaces (column - k.column))

/-- The breaks of empty lines before the next line of a block, which starts in a given column. -/
def blockBreaks (column : Nat) : (fuel : Nat) → Cursor → Text × Cursor
  | 0, k => ([], k)
  | fuel + 1, k =>
    let k := indentTo column k
    match k.lineBreak? with
    | none => ([], k)
    | some (c, k) =>
      let (breaks, k) := blockBreaks column fuel k
      (c :: breaks, k)

/-- Whether a line of a block starts with a space or tab, which keeps the breaks around it. -/
def startsBlank (k : Cursor) : Bool := k.at? ' ' || k.at? '\t'

/-- The breaks at the end of a block as far as chomping leaves them: the last line's own break,
and those of the empty lines after it. -/
def chomp (chomping : Chomping) (own : Text) (empty : Text) : Text :=
  match chomping with
  | .strip => []
  | .clip => own
  | .keep => own ++ empty

/-- The lines of a block from a column on, behind the breaks of empty lines. -/
def blockLines (folded : Bool) (chomping : Chomping) (column : Nat) :
    (fuel : Nat) → (own : Text) → (breaks : Text) → Cursor → Text × Cursor
  | 0, own, breaks, k => (chomp chomping own breaks, k)
  | fuel + 1, own, breaks, k =>
    if k.column != column || k.here.isNone then (chomp chomping own breaks, k)
    else
      let blank := startsBlank k
      let (line, k) := k.span (!isBreak ·)
      let (own, k) := match k.lineBreak? with
        | some (c, k) => ([c], k)
        | none => ([], k)
      let (more, k) := blockBreaks column (k.rest.length + 1) k
      if k.column != column || k.here.isNone then
        (breaks ++ line ++ chomp chomping own more, k)
      else
        let joint :=
          if folded && own == ['\n'] && !blank && !startsBlank k then
            if more.isEmpty then [' '] else []
          else own
        let (rest, k) := blockLines folded chomping column fuel own more k
        (breaks ++ line ++ joint ++ rest, k)

/-- The block scalar at a cursor, inside a block of a given indentation. -/
def readBlock (folded : Bool) (indent : Int) (k : Cursor) : Except Fault (Token × Cursor) := do
  let (chomping, stated, k) ← readBlockHead k.next
  let least := (max (indent + 1) 1).toNat
  let (breaks, column, k) := match stated with
    | some n =>
      let column := least + n - 1
      let (breaks, k) := blockBreaks column (k.rest.length + 1) k
      (breaks, column, k)
    | none =>
      let (breaks, column, k) := leadingBreaks (k.rest.length + 1) k
      (breaks, max least column, k)
  let (text, k) := blockLines folded chomping column (k.rest.length + 1) [] breaks k
  return (.scalar text.wide false, k)

end Yaml
end AmberTools
