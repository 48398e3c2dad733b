import AmberTools.Text.Basic

/-!
# UTF-8

Bytes are decoded one sequence at a time. A sequence that cannot be completed is refused as a
whole: its first byte may start no character, a later byte may not continue it, or the bytes
may end too early. The refused part is the longest beginning of a sequence that some character
has, so a lenient reader puts one replacement character in its place.
-/

namespace AmberTools
namespace Utf8

/-- Why bytes are no character. -/
inductive Reason where
  | invalidStart
  | invalidContinuation
  | unexpectedEnd
  deriving DecidableEq, Repr

/-- The outcome at the head of some bytes: a character, or a refused part of a given length. The
length counts the bytes after the first one. -/
inductive Step where
  | char (c : Char) (more : Nat)
  | refused (reason : Reason) (more : Nat)
  deriving DecidableEq, Repr

/-- The bytes that carry on a sequence. -/
def isContinuation (b : UInt8) : Bool := 0x80 ≤ b && b ≤ 0xbf

/-- The six bits a continuation byte carries. -/
def payload (b : UInt8) : Nat := b.toNat - 0x80

/-- Whether a second byte can follow a first one: beside being a continuation byte, it must not
spell a character in more bytes than needed, a surrogate, or a number above the last character. -/
def canFollow (first second : UInt8) : Bool :=
  isContinuation second &&
    (first != 0xe0 || 0xa0 ≤ second) && (first != 0xed || second < 0xa0) &&
    (first != 0xf0 || 0x90 ≤ second) && (first != 0xf4 || second < 0x90)

/-- The outcome for two bytes. -/
def stepTwo (first : UInt8) : List UInt8 → Step
  | [] => .refused .unexpectedEnd 0
  | b :: _ =>
    if canFollow first b then .char (Char.ofNat ((first.toNat - 0xc0) * 0x40 + payload b)) 1
    else .refused .invalidContinuation 0

/-- The outcome for three bytes. -/
def stepThree (first : UInt8) : List UInt8 → Step
  | [] => .refused .unexpectedEnd 0
  | b :: rest =>
    if canFollow first b then
      match rest with
      | [] => .refused .unexpectedEnd 1
      | c :: _ =>
        if isContinuation c then
          .char (Char.ofNat (((first.toNat - 0xe0) * 0x40 + payload b) * 0x40 + payload c)) 2
        else .refused .invalidContinuation 1
    else .refused .invalidContinuation 0

/-- The outcome for four bytes. -/
def stepFour (first : UInt8) : List UInt8 → Step
  | [] => .refused .unexpectedEnd 0
  | b :: rest =>
    if canFollow first b then
      match rest with
      | [] => .refused .unexpectedEnd 1
      | c :: rest =>
        if isContinuation c then
          match rest with
          | [] => .refused .unexpectedEnd 2
          | d :: _ =>
            if isContinuation d then
              .char (Char.ofNat ((((first.toNat - 0xf0) * 0x40 + payload b) * 0x40
                + payload c) * 0x40 + payload d)) 3
            else .refused .invalidContinuation 2
        else .refused .invalidContinuation 1
    else .refused .invalidContinuation 0

/-- The outcome at the head of some bytes. -/
def step (first : UInt8) (rest : List UInt8) : Step :=
  if first < 0x80 then .char (Char.ofNat first.toNat) 0
  else if 0xc2 ≤ first && first < 0xe0 then stepTwo first rest
  else if 0xe0 ≤ first && first < 0xf0 then stepThree first rest
  else if 0xf0 ≤ first && first < 0xf5 then stepFour first rest
  else .refused .invalidStart 0

/-- Where and why decoding stops: the refused bytes, the number of bytes in front of them and
the reason. -/
structure Fault where
  offset : Nat
  first : UInt8
  /-- The number of refused bytes after the first. -/
  more : Nat
  reason : Reason
  deriving DecidableEq, Repr

/-- The character that stands for bytes that are none. -/
def replacement : Char := '\ufffd'

/-- The characters of some bytes, if every byte belongs to one. -/
def decodeFrom (offset : Nat) (bytes : List UInt8) : Except Fault Text :=
  match bytes with
  | [] => .ok []
  | first :: rest =>
    match step first rest with
    | .char c more =>
      match decodeFrom (offset + more + 1) (rest.drop more) with
      | .ok text => .ok (c :: text)
      | .error fault => .error fault
    | .refused reason more => .error ⟨offset, first, more, reason⟩
termination_by bytes.length
decreasing_by simp only [List.length_drop, List.length_cons]; omega

/-- The characters of some bytes, if every byte belongs to one. -/
def decode (bytes : List UInt8) : Except Fault Text := decodeFrom 0 bytes

/-- The characters of some bytes, with one replacement character for each refused part. -/
def decodeLenient (bytes : List UInt8) : Text :=
  match bytes with
  | [] => []
  | first :: rest =>
    match step first rest with
    | .char c more => c :: decodeLenient (rest.drop more)
    | .refused _ more => replacement :: decodeLenient (rest.drop more)
termination_by bytes.length
decreasing_by all_goals (simp only [List.length_drop, List.length_cons]; omega)

/-- The bytes of a text. -/
def encode (text : Text) : List UInt8 := text.flatMap String.utf8EncodeChar

/-- A byte as two hexadecimal digits. -/
def hexByte (b : UInt8) : String :=
  let digits := Nat.toDigits 16 b.toNat
  String.ofList (List.replicate (2 - digits.length) '0' ++ digits)

/-- The wording of a reason. -/
def Reason.message : Reason → String
  | .invalidStart => "invalid start byte"
  | .invalidContinuation => "invalid continuation byte"
  | .unexpectedEnd => "unexpected end of data"

/-- The wording of a fault. -/
def Fault.message (fault : Fault) : String :=
  let place :=
    if fault.more = 0 then s!"byte 0x{hexByte fault.first} in position {fault.offset}"
    else s!"bytes in position {fault.offset}-{fault.offset + fault.more}"
  s!"'utf-8' codec can't decode {place}: {fault.reason.message}"

end Utf8
end AmberTools
