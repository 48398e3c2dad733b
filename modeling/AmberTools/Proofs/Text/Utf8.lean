import AmberTools.Text.Utf8
import Mathlib.Tactic.SplitIfs

/-!
# Texts in UTF-8

A character is written in one to four bytes. The first of them tells how many there are, and each
further one carries six bits of the character's number. No character is written in more bytes than
it needs, and no number between characters is written at all, so that a reader never refuses what
has been written and gets the text back.

## Main results

* `Utf8.canFollow_iff`, `Utf8.step_of_lt`: the tests on bytes as bounds on their numbers.
* `Utf8.step_encodeChar`: a character is read back from its bytes, whatever follows them.
* `Utf8.decode_encode`: a text is read back from its bytes.
* `Utf8.decodeLenient_of_decode`: a lenient reader reads what a strict one reads.
-/

namespace AmberTools
namespace Utf8

variable {first second : UInt8} {rest : List UInt8} {n : Nat}

/-! ### Tests on bytes -/

theorem isContinuation_iff {b : UInt8} :
    isContinuation b = true ↔ 0x80 ≤ b.toNat ∧ b.toNat ≤ 0xbf := by
  simp [isContinuation, UInt8.le_iff_toNat_le]

theorem canFollow_iff :
    canFollow first second = true ↔ (0x80 ≤ second.toNat ∧ second.toNat ≤ 0xbf) ∧
      (first.toNat = 0xe0 → 0xa0 ≤ second.toNat) ∧ (first.toNat = 0xed → second.toNat < 0xa0) ∧
      (first.toNat = 0xf0 → 0x90 ≤ second.toNat) ∧ (first.toNat = 0xf4 → second.toNat < 0x90) := by
  simp only [canFollow, isContinuation_iff, UInt8.le_iff_toNat_le, UInt8.lt_iff_toNat_lt,
    ← UInt8.toNat_inj, UInt8.reduceToNat, Bool.and_eq_true, Bool.or_eq_true, bne_iff_ne, ne_eq,
    decide_eq_true_eq]
  omega

/-- A byte below all starts of longer sequences is a character of its own. -/
theorem step_of_lt (h : first.toNat < 0x80) :
    step first rest = .char (Char.ofNat first.toNat) 0 := by
  simp [step, UInt8.lt_iff_toNat_lt, h]

theorem step_eq_stepTwo (hlow : 0xc2 ≤ first.toNat) (h : first.toNat < 0xe0) :
    step first rest = stepTwo first rest := by
  have hone : ¬ first.toNat < 0x80 := by omega
  simp [step, UInt8.lt_iff_toNat_lt, UInt8.le_iff_toNat_le, hone, hlow, h]

theorem step_eq_stepThree (hlow : 0xe0 ≤ first.toNat) (h : first.toNat < 0xf0) :
    step first rest = stepThree first rest := by
  have hone : ¬ first.toNat < 0x80 := by omega
  have htwo : ¬ first.toNat < 0xe0 := by omega
  simp [step, UInt8.lt_iff_toNat_lt, UInt8.le_iff_toNat_le, hone, htwo, hlow, h]

theorem step_eq_stepFour (hlow : 0xf0 ≤ first.toNat) (h : first.toNat < 0xf5) :
    step first rest = stepFour first rest := by
  have hone : ¬ first.toNat < 0x80 := by omega
  have htwo : ¬ first.toNat < 0xe0 := by omega
  have hthree : ¬ first.toNat < 0xf0 := by omega
  simp [step, UInt8.lt_iff_toNat_lt, UInt8.le_iff_toNat_le, hone, htwo, hthree, hlow, h]

/-! ### Characters -/

theorem toNat_ofNat_of_lt (h : n < 0x100) : (UInt8.ofNat n).toNat = n := by
  rw [UInt8.toNat_ofNat']
  exact Nat.mod_eq_of_lt h

/-- A byte that carries on a sequence, by the six bits that it carries. -/
def carrier (bits : Nat) : UInt8 := UInt8.ofNat (bits % 0x40 + 0x80)

theorem toNat_carrier (bits : Nat) : (carrier bits).toNat = bits % 0x40 + 0x80 :=
  toNat_ofNat_of_lt (by omega)

theorem payload_carrier (bits : Nat) : payload (carrier bits) = bits % 0x40 := by
  have hbyte := toNat_carrier bits
  unfold payload
  omega

theorem isContinuation_carrier (bits : Nat) : isContinuation (carrier bits) = true := by
  rw [isContinuation_iff, toNat_carrier]
  omega

theorem stepTwo_carrier (hlow : 0x80 ≤ n) (h : n < 0x800) :
    step (UInt8.ofNat (n / 0x40 % 0x20 + 0xc0)) (carrier n :: rest) = .char (Char.ofNat n) 1 := by
  have hfirst : (UInt8.ofNat (n / 0x40 % 0x20 + 0xc0)).toNat = n / 0x40 + 0xc0 := by
    rw [toNat_ofNat_of_lt (by omega)]
    omega
  rw [step_eq_stepTwo (by omega) (by omega), stepTwo, if_pos, hfirst, payload_carrier]
  · congr 2
    omega
  · rw [canFollow_iff, hfirst, toNat_carrier]
    omega

theorem stepThree_carrier (hlow : 0x800 ≤ n) (h : n < 0x10000) (hhalf : n < 0xd800 ∨ 0xdfff < n) :
    step (UInt8.ofNat (n / 0x1000 % 0x10 + 0xe0)) (carrier (n / 0x40) :: carrier n :: rest) =
      .char (Char.ofNat n) 2 := by
  have hfirst : (UInt8.ofNat (n / 0x1000 % 0x10 + 0xe0)).toNat = n / 0x1000 + 0xe0 := by
    rw [toNat_ofNat_of_lt (by omega)]
    omega
  rw [step_eq_stepThree (by omega) (by omega), stepThree, if_pos]
  · rw [if_pos (isContinuation_carrier n), hfirst, payload_carrier, payload_carrier]
    congr 2
    omega
  · rw [canFollow_iff, hfirst, toNat_carrier]
    omega

theorem stepFour_carrier (hlow : 0x10000 ≤ n) (h : n < 0x110000) :
    step (UInt8.ofNat (n / 0x40000 % 8 + 0xf0))
        (carrier (n / 0x1000) :: carrier (n / 0x40) :: carrier n :: rest) =
      .char (Char.ofNat n) 3 := by
  have hfirst : (UInt8.ofNat (n / 0x40000 % 8 + 0xf0)).toNat = n / 0x40000 + 0xf0 := by
    rw [toNat_ofNat_of_lt (by omega)]
    omega
  rw [step_eq_stepFour (by omega) (by omega), stepFour, if_pos]
  · rw [if_pos (isContinuation_carrier _), if_pos (isContinuation_carrier n), hfirst,
      payload_carrier, payload_carrier, payload_carrier]
    congr 2
    omega
  · rw [canFollow_iff, hfirst, toNat_carrier]
    omega

/-- The bytes of a character, of which the first one tells how many there are. -/
theorem step_encodeChar (c : Char) (rest : List UInt8) :
    ∃ first more, String.utf8EncodeChar c = first :: more ∧
      step first (more ++ rest) = .char c more.length := by
  have hchar : Char.ofNat c.val.toNat = c := Char.ofNat_toNat c
  have hvalid : c.val.toNat < 0xd800 ∨ 0xdfff < c.val.toNat ∧ c.val.toNat < 0x110000 := c.valid
  rw [String.utf8EncodeChar.eq_1]
  split_ifs with hone htwo hthree
  · refine ⟨_, [], rfl, ?_⟩
    rw [step_of_lt, toNat_ofNat_of_lt (by omega), hchar]
    · rfl
    · rw [toNat_ofNat_of_lt (by omega)]
      omega
  · refine ⟨_, _, rfl, ?_⟩
    exact (stepTwo_carrier (by omega) (by omega)).trans (by rw [hchar]; rfl)
  · refine ⟨_, _, rfl, ?_⟩
    exact (stepThree_carrier (by omega) (by omega) (by omega)).trans (by rw [hchar]; rfl)
  · refine ⟨_, _, rfl, ?_⟩
    exact (stepFour_carrier (by omega) (by omega)).trans (by rw [hchar]; rfl)

/-! ### Texts -/

theorem decodeFrom_encode (offset : Nat) (text : Text) :
    decodeFrom offset (encode text) = .ok text := by
  induction text generalizing offset with
  | nil => rw [encode, List.flatMap_nil, decodeFrom]
  | cons c text ih =>
    obtain ⟨first, more, hbytes, hstep⟩ := step_encodeChar c (encode text)
    rw [encode, List.flatMap_cons, hbytes, ← encode, List.cons_append, decodeFrom, hstep]
    dsimp only
    rw [List.drop_left, ih]

/-- A text is read back from its bytes. -/
theorem decode_encode (text : Text) : decode (encode text) = .ok text := decodeFrom_encode 0 text

theorem decodeLenient_of_decodeFrom {bytes : List UInt8} {text : Text} {offset : Nat}
    (h : decodeFrom offset bytes = .ok text) : decodeLenient bytes = text := by
  fun_induction decodeFrom offset bytes generalizing text with
  | case1 =>
    rw [decodeLenient]
    exact Except.ok.inj h
  | case2 offset first rest c more hstep tail htail ih =>
    obtain rfl := Except.ok.inj h
    rw [decodeLenient, hstep]
    dsimp only
    rw [ih htail]
  | case3 => exact nomatch h
  | case4 => exact nomatch h

/-- Where nothing is refused, a lenient reader reads the same. -/
theorem decodeLenient_of_decode {bytes : List UInt8} {text : Text} (h : decode bytes = .ok text) :
    decodeLenient bytes = text := decodeLenient_of_decodeFrom h

end Utf8
end AmberTools
