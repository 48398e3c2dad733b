import AmberTools.Text.CodePoint
import AmberTools.Text.Quoted
import AmberTools.Text.Utf8

/-!
# File names

A file's name is a sequence of bytes. A name is written in UTF-8, and the second halves that
stand for the bytes above ASCII are those bytes themselves; there are no bytes for other halves.
-/

namespace AmberTools
namespace FileName

/-- Where a name has no bytes. -/
structure Fault where
  /-- The number of code points in front of the first half without a byte. -/
  index : Nat
  first : Fin 0x800
  /-- The number of halves that follow it directly. -/
  more : Nat
  deriving DecidableEq, Repr

/-- The wording of a fault. -/
def Fault.message (fault : Fault) : String :=
  let place :=
    if fault.more = 0 then
      let shown := String.ofList (WideText.showPoint (.half fault.first))
      s!"character '{shown}' in position {fault.index}"
    else s!"characters in position {fault.index}-{fault.index + fault.more}"
  s!"'utf-8' codec can't encode {place}: surrogates not allowed"

/-- The byte a half stands for. -/
def escapedByte? (half : Fin 0x800) : Option UInt8 :=
  let n := (CodePoint.half half).number
  if 0xdc80 ≤ n ∧ n ≤ 0xdcff then some (UInt8.ofNat (n - 0xdc00)) else none

/-- The bytes of what follows some code points. -/
def bytesFrom (index : Nat) : WideText → Except Fault (List UInt8)
  | [] => .ok []
  | .char c :: rest => (bytesFrom (index + 1) rest).map (String.utf8EncodeChar c ++ ·)
  | .half h :: rest =>
    match escapedByte? h with
    | some byte => (bytesFrom (index + 1) rest).map (byte :: ·)
    | none => .error ⟨index, h, (rest.takeWhile fun point => point.char?.isNone).length⟩

/-- The bytes of a name. -/
def bytes (name : WideText) : Except Fault (List UInt8) := bytesFrom 0 name

end FileName
end AmberTools
