import AmberTools.Files.Source
import Mathlib.Tactic.SplitIfs

/-!
# Files that cannot be read

A path gives no bytes if it has a null character, or if no file can be read there. Bytes give no
text if they are not UTF-8 and have to be.

## Main results

* `Source.readBytes_eq_nullCharacter_iff`: the paths that name nothing.
* `Source.read_eq_error_iff`: why a file has no text.
-/

namespace AmberTools
namespace Source

variable {files : FileSet} {path : Path} {fault : ReadFault}

theorem readBytes_eq_nullCharacter_iff :
    readBytes files path = .error .nullCharacter ↔ '\x00' ∈ path.text := by
  rw [readBytes]
  split_ifs with h
  · simpa using h
  · cases files.read path <;> simpa [Except.mapError] using h

/-- Bytes are read as they are. -/
theorem readBytes_ne_encoding {e : Utf8.Fault} : readBytes files path ≠ .error (.encoding e) := by
  rw [readBytes]
  split_ifs
  · exact nofun
  · cases files.read path <;> exact nofun

/-- Bytes have no text if and only if they are not UTF-8. -/
theorem decode_eq_error_iff {bytes : List UInt8} {e : Utf8.Fault} :
    decode bytes = .error e ↔ Utf8.decode bytes = .error e := by
  rw [decode]
  cases Utf8.decode bytes <;> simp [Except.map]

/-- A file has no text if its bytes cannot be read, or if they are not UTF-8. -/
theorem read_eq_error_iff :
    read files path = .error fault ↔
      readBytes files path = .error fault ∨
        ∃ bytes e, readBytes files path = .ok bytes ∧ Utf8.decode bytes = .error e ∧
          fault = .encoding e := by
  rw [read]
  cases readBytes files path with
  | error => simp
  | ok bytes =>
    have hbytes : (decode bytes).mapError ReadFault.encoding = .error fault ↔
        ∃ e, decode bytes = .error e ∧ fault = .encoding e := by
      cases decode bytes <;> simp [Except.mapError, eq_comm]
    simpa [decode_eq_error_iff] using hbytes

/-- With replacement characters, all bytes are a text. -/
theorem readLenient_eq_error_iff :
    readLenient files path = .error fault ↔ readBytes files path = .error fault := by
  rw [readLenient]
  cases readBytes files path <;> simp [Except.map]

theorem read_eq_nullCharacter_iff :
    read files path = .error .nullCharacter ↔ '\x00' ∈ path.text := by
  rw [read_eq_error_iff, readBytes_eq_nullCharacter_iff]
  simp

theorem read_eq_encoding_iff {e : Utf8.Fault} :
    read files path = .error (.encoding e) ↔
      ∃ bytes, readBytes files path = .ok bytes ∧ Utf8.decode bytes = .error e := by
  rw [read_eq_error_iff, or_iff_right readBytes_ne_encoding]
  simp

end Source
end AmberTools
