import AmberTools.Yaml.ScalarText

/-!
# Reading tokens

Collections in block style start and end by indentation, and a key is known as a key only when
its colon follows. So the reader keeps the indentations of the open blocks, and for each depth
of flow collections the place where a key may have started; when the colon comes, the marks of
the key, and of its mapping if it starts one, are put in front of that place. A key must end on
its line within 1024 characters. Until then it is not settled what stands in front of its place, so
where reading stops at a fault, what may be a key has not been read.
-/

namespace AmberTools
namespace Yaml

/-- The place where a key may have started. -/
structure KeyPlace where
  /-- The depth of flow collections around it. -/
  depth : Nat
  /-- The number of tokens in front of it. -/
  position : Nat
  /-- Whether nothing but a key can stand there. -/
  required : Bool
  index : Nat
  line : Nat
  column : Nat
  deriving DecidableEq, Repr

/-- The state of reading. -/
structure TokenReader where
  cursor : Cursor
  tokens : Array Token := #[]
  /-- The number of open flow collections. -/
  depth : Nat := 0
  /-- The column of the innermost open block, one less than the first column outside all. -/
  indent : Int := -1
  /-- The columns of the blocks around it. -/
  outer : List Int := []
  /-- Whether a key may start here. -/
  keyAllowed : Bool := true
  keyPlaces : List KeyPlace := []

namespace TokenReader

/-- The reader with one more token. -/
def emit (r : TokenReader) (t : Token) : TokenReader := { r with tokens := r.tokens.push t }

/-- The reader some characters on. -/
def advance (r : TokenReader) (n : Nat) : TokenReader := { r with cursor := r.cursor.advance n }

/-- The reader at another cursor with one more token. -/
def emitTo (r : TokenReader) (read : Token × Cursor) : TokenReader :=
  { r.emit read.1 with cursor := read.2 }

/-- Whether keys are allowed from here on. -/
def allowKey (r : TokenReader) (allowed : Bool) : TokenReader := { r with keyAllowed := allowed }

/-- Whether a key can no longer be completed. -/
def isStale (k : Cursor) (place : KeyPlace) : Bool :=
  place.line != k.line || 1024 < k.index - place.index

/-- The reader without the places at which no key can be completed. -/
def dropStale (r : TokenReader) : Except Fault TokenReader :=
  if r.keyPlaces.any fun p => isStale r.cursor p && p.required then .error .malformed
  else .ok { r with keyPlaces := r.keyPlaces.filter fun p => !isStale r.cursor p }

/-- The reader without the place at the present depth. -/
def dropPlace (r : TokenReader) : Except Fault TokenReader :=
  if r.keyPlaces.any fun p => p.depth == r.depth && p.required then .error .malformed
  else .ok { r with keyPlaces := r.keyPlaces.filter (·.depth != r.depth) }

/-- The reader that remembers a key may start here, if one may. At the start of a line of a block
mapping nothing else can. -/
def markPlace (r : TokenReader) : Except Fault TokenReader :=
  if !r.keyAllowed then .ok r
  else do
    let k := r.cursor
    let place : KeyPlace := ⟨r.depth, r.tokens.size, r.depth == 0 && r.indent == k.column,
      k.index, k.line, k.column⟩
    let r ← r.dropPlace
    return { r with keyPlaces := place :: r.keyPlaces }

/-- The reader behind the ends of the blocks that are further in than a column. -/
def closeBlocks (r : TokenReader) (column : Int) : TokenReader :=
  if r.depth != 0 then r
  else
    let rec close : (indent : Int) → (outer : List Int) → TokenReader → TokenReader
      | indent, [], r => { r with indent, outer := [] }
      | indent, next :: outer, r =>
        if column < indent then close next outer (r.emit .blockEnd)
        else { r with indent, outer := next :: outer }
    close r.indent r.outer r

/-- The reader inside a block that starts in a column, and whether a block starts there. -/
def openBlock (r : TokenReader) (column : Nat) : TokenReader × Bool :=
  if r.indent < column then ({ r with indent := column, outer := r.indent :: r.outer }, true)
  else (r, false)

/-- The reader inside a block that starts here, behind the mark of its start. -/
def openHere (r : TokenReader) (start : Token) : TokenReader :=
  match r.openBlock r.cursor.column with
  | (r, true) => r.emit start
  | (r, false) => r

/-! ### Tokens by their first character -/

/-- The end of the text. -/
def readEnd (r : TokenReader) : Except Fault TokenReader := do
  let r ← (r.closeBlocks (-1)).dropPlace
  return { r.emit .streamEnd with keyAllowed := false, keyPlaces := [] }

/-- A directive. -/
def readDirectiveLine (r : TokenReader) : Except Fault TokenReader := do
  let r ← (r.closeBlocks (-1)).dropPlace
  return (r.allowKey false).emitTo (← readDirective r.cursor)

/-- The mark of a document's start or end. -/
def readDocumentMark (r : TokenReader) (mark : Token) : Except Fault TokenReader := do
  let r ← (r.closeBlocks (-1)).dropPlace
  return ((r.allowKey false).advance 3).emit mark

/-- The start of a flow collection, which may be a key itself. -/
def readFlowStart (r : TokenReader) (start : Token) : Except Fault TokenReader := do
  let r ← r.markPlace
  return ((({ r with depth := r.depth + 1 }).allowKey true).advance 1).emit start

/-- The end of a flow collection. One that was never started leaves the depth at zero, and the
grammar refuses it. -/
def readFlowEnd (r : TokenReader) (ending : Token) : Except Fault TokenReader := do
  let r ← r.dropPlace
  if r.depth = 0 then throw .malformed
  return ((({ r with depth := r.depth - 1 }).allowKey false).advance 1).emit ending

/-- The comma of a flow collection. -/
def readFlowEntry (r : TokenReader) : Except Fault TokenReader := do
  let r ← (r.allowKey true).dropPlace
  return (r.advance 1).emit .flowEntry

/-- The hyphen of a block sequence. -/
def readBlockEntry (r : TokenReader) : Except Fault TokenReader := do
  if r.depth == 0 && !r.keyAllowed then throw .malformed
  let r := if r.depth == 0 then r.openHere .blockSequenceStart else r
  let r ← (r.allowKey true).dropPlace
  return (r.advance 1).emit .blockEntry

/-- The question mark of a key. -/
def readKey (r : TokenReader) : Except Fault TokenReader := do
  if r.depth == 0 && !r.keyAllowed then throw .malformed
  let r := if r.depth == 0 then r.openHere .blockMappingStart else r
  let r ← (r.allowKey (r.depth == 0)).dropPlace
  return (r.advance 1).emit .key

/-- The colon of a value. If a key can have started at this depth it has, and its marks are put
in. -/
def readValue (r : TokenReader) : Except Fault TokenReader := do
  match r.keyPlaces.find? (·.depth == r.depth) with
  | some place =>
    let r := { r with keyPlaces := r.keyPlaces.filter (·.depth != r.depth) }
    let (r, starts) := if r.depth == 0 then r.openBlock place.column else (r, false)
    let marks := if starts then #[Token.blockMappingStart, .key] else #[.key]
    let tokens := r.tokens.extract 0 place.position ++ marks ++
      r.tokens.extract place.position r.tokens.size
    return ((({ r with tokens }).allowKey false).advance 1).emit .value
  | none =>
    if r.depth == 0 && !r.keyAllowed then throw .malformed
    let r := if r.depth == 0 then r.openHere .blockMappingStart else r
    let r ← (r.allowKey (r.depth == 0)).dropPlace
    return (r.advance 1).emit .value

/-- An anchor, alias, tag or quoted scalar, any of which may start a key. -/
def readWord (r : TokenReader) (read : Cursor → Except Fault (Token × Cursor)) :
    Except Fault TokenReader := do
  let r ← r.markPlace
  return (r.allowKey false).emitTo (← read r.cursor)

/-- A scalar written as a block. -/
def readBlockScalar (r : TokenReader) (folded : Bool) : Except Fault TokenReader := do
  let r ← (r.allowKey true).dropPlace
  return r.emitTo (← readBlock folded r.indent r.cursor)

/-- A plain scalar. If it ends with a line, a key may start behind it. -/
def readPlainScalar (r : TokenReader) : Except Fault TokenReader := do
  let r ← r.markPlace
  let scalar := readPlain (r.depth != 0) r.indent r.cursor
  return (r.allowKey scalar.broke).emitTo (.scalar scalar.text.wide true, scalar.behind)

/-- Characters that start something other than a plain scalar. -/
def isIndicator (c : Char) : Bool :=
  ['-', '?', ':', ',', '[', ']', '\x7b', '\x7d', '#', '&', '*', '!', '|', '>', '\'', '"', '%',
    '@', '\x60'].contains c

/-- Whether a plain scalar starts at a cursor. Some indicators start one if no space follows. -/
def startsPlain (r : TokenReader) (c : Char) : Bool :=
  !(isGap (some c) || isIndicator c) ||
    (!isGap (r.cursor.peek 1) && (c == '-' || (r.depth == 0 && (c == '?' || c == ':'))))

/-- An alias or anchor. -/
def readReference (make : Text → Token) (k : Cursor) : Except Fault (Token × Cursor) :=
  (readAnchor k).map fun read => (make read.1, read.2)

/-- The next token, of which `c` is the first character. -/
def readToken (r : TokenReader) (c : Char) : Except Fault TokenReader :=
  let k := r.cursor
  let apart := isGap (k.peek 1)
  let mark := fun first => k.column == 0 && c == first && k.atDocumentMark
  if c == '%' && k.column == 0 then r.readDirectiveLine
  else if mark '-' then r.readDocumentMark .documentStart
  else if mark '.' then r.readDocumentMark .documentEnd
  else if c == '[' then r.readFlowStart .flowSequenceStart
  else if c == '\x7b' then r.readFlowStart .flowMappingStart
  else if c == ']' then r.readFlowEnd .flowSequenceEnd
  else if c == '\x7d' then r.readFlowEnd .flowMappingEnd
  else if c == ',' then r.readFlowEntry
  else if c == '-' && apart then r.readBlockEntry
  else if c == '?' && (r.depth != 0 || apart) then r.readKey
  else if c == ':' && (r.depth != 0 || apart) then r.readValue
  else if c == '*' then r.readWord (readReference .alias)
  else if c == '&' then r.readWord (readReference .anchor)
  else if c == '!' then r.readWord readTag
  else if c == '|' && r.depth == 0 then r.readBlockScalar false
  else if c == '>' && r.depth == 0 then r.readBlockScalar true
  else if c == '\'' then r.readWord (readQuoted false)
  else if c == '"' then r.readWord (readQuoted true)
  else if r.startsPlain c then r.readPlainScalar
  else .error .malformed

/-- The reader at the next token: behind spaces, comments and line breaks. A line break in a block
allows a key. -/
def skipToToken : (fuel : Nat) → TokenReader → TokenReader
  | 0, r => r
  | fuel + 1, r =>
    let k := r.cursor.skipSpaces.skipComment
    match k.lineBreak? with
    | some (_, k) =>
      skipToToken fuel { r with cursor := k, keyAllowed := r.keyAllowed || r.depth == 0 }
    | none => { r with cursor := k }

/-- The reader behind the next token, and whether that was the last. -/
def step (r : TokenReader) : Except Fault (TokenReader × Bool) := do
  let r ← (skipToToken (r.cursor.rest.length + 1) r).dropStale
  let r := r.closeBlocks r.cursor.column
  match r.cursor.here with
  | none => return (← r.readEnd, true)
  | some c => return (← r.readToken c, false)

/-- The tokens that need no further reading: those in front of the first one that may still turn
out to be a key. -/
def settled (r : TokenReader) : List Token :=
  let pending := (r.keyPlaces.filter fun p => !isStale r.cursor p).map (·.position)
  r.tokens.toList.take (pending.foldl min r.tokens.size)

/-- The tokens of a text that are settled before reading stops, and the fault at which it stopped
if it did. -/
def readAll : (fuel : Nat) → TokenReader → List Token × Option Fault
  | 0, r => (r.settled, some .outOfSteps)
  | fuel + 1, r =>
    match r.step with
    | .error fault => (r.settled, some fault)
    | .ok (r, true) => (r.tokens.toList, none)
    | .ok (r, false) => readAll fuel r

end TokenReader

/-- The tokens of a text that are settled before reading stops, and the fault at which it stopped
if it did. A byte order mark at the start counts for nothing. -/
def tokensOf (text : Text) : List Token × Option Fault :=
  let start : Cursor := { rest := text }
  let cursor := if start.at? '\ufeff' then start.next else start
  TokenReader.readAll (text.length + 2) { cursor }

end Yaml
end AmberTools
