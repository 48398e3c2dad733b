import AmberTools.Files.FileSet
import AmberTools.Text.Line

/-!
# Reading texts

A text is read from bytes in UTF-8, either strictly or with replacement characters, and every
line break in it becomes a line feed.
-/

namespace AmberTools

/-- Why a path gives no text. -/
inductive ReadFault where
  | file (fault : FileFault) (path : Text)
  | encoding (fault : Utf8.Fault)
  /-- A path with a null character names nothing. -/
  | nullCharacter
  deriving DecidableEq, Repr

namespace Source

/-- The wording for a path with a null character. -/
def nullMessage : String := "embedded null byte"

/-- The text of bytes that must be UTF-8. -/
def decode (bytes : List UInt8) : Except Utf8.Fault Text :=
  (Utf8.decode bytes).map Text.unifyBreaks

/-- The text of any bytes. -/
def decodeLenient (bytes : List UInt8) : Text := Text.unifyBreaks (Utf8.decodeLenient bytes)

/-- The bytes of the file at a path. -/
def readBytes (files : FileSet) (path : Path) : Except ReadFault (List UInt8) :=
  if path.text.contains '\x00' then .error .nullCharacter
  else (files.read path).mapError fun fault => .file fault path.text

/-- The text of the file at a path, which must be UTF-8. -/
def read (files : FileSet) (path : Path) : Except ReadFault Text :=
  match readBytes files path with
  | .ok bytes => (decode bytes).mapError .encoding
  | .error fault => .error fault

/-- The text of the file at a path, whatever its bytes. -/
def readLenient (files : FileSet) (path : Path) : Except ReadFault Text :=
  (readBytes files path).map decodeLenient

end Source
end AmberTools
