import StreamBridge.Base64

/-! Reading Base64, as anyone does who gets a text in it: four characters stand for three bytes, and
only the last four may be filled up. What a payload is written as is read back as the payload. -/

namespace StreamBridge.Proofs.Base64Text
open Base64

/-- The value of a character of the standard alphabet. -/
def value? (letter : UInt8) : Option Nat :=
  if 0x41 ≤ letter && letter ≤ 0x5a then some (letter.toNat - 0x41)
  else if 0x61 ≤ letter && letter ≤ 0x7a then some (letter.toNat - 0x61 + 26)
  else if 0x30 ≤ letter && letter ≤ 0x39 then some (letter.toNat - 0x30 + 52)
  else if letter = 0x2b then some 62
  else if letter = 0x2f then some 63
  else none

/-- Reads the last four characters. Where they are filled up, no bits may be left over. -/
def decodeLast (a b c d : UInt8) : Option Bytes := do
  let a ← value? a
  let b ← value? b
  if d = padding then
    if c = padding then
      if b % 16 = 0 then return [(a * 4 + b / 16).toUInt8] else none
    else
      let c ← value? c
      if c % 4 = 0 then return [(a * 4 + b / 16).toUInt8, (b % 16 * 16 + c / 4).toUInt8] else none
  else
    let c ← value? c
    let d ← value? d
    return [(a * 4 + b / 16).toUInt8, (b % 16 * 16 + c / 4).toUInt8, (c % 4 * 64 + d).toUInt8]

/-- Reads Base64 with the standard alphabet and padding. -/
def decode : Bytes → Option Bytes
  | [] => some []
  | [a, b, c, d] => decodeLast a b c d
  | a :: b :: c :: d :: rest => do
    let a ← value? a
    let b ← value? b
    let c ← value? c
    let d ← value? d
    let rest ← decode rest
    return (a * 4 + b / 16).toUInt8 :: (b % 16 * 16 + c / 4).toUInt8 :: (c % 4 * 64 + d).toUInt8
      :: rest
  | _ => none

theorem value_digit {value : Nat} (small : value < 64) : value? (digit value) = some value := by
  have all : ∀ value : Fin 64, value? (digit value) = some value.val := by decide
  exact all ⟨value, small⟩

theorem digit_padding {value : Nat} (small : value < 64) : digit value ≠ padding := by
  have all : ∀ value : Fin 64, digit value ≠ padding := by decide
  exact all ⟨value, small⟩

/-- Four characters that stand for three bytes, wherever they stand. -/
theorem decode_four {a b c d : Nat} (first : a < 64) (second : b < 64) (third : c < 64)
    (fourth : d < 64) {rest bytes : Bytes} (decoded : decode rest = some bytes) :
    decode (digit a :: digit b :: digit c :: digit d :: rest) =
      some ((a * 4 + b / 16).toUInt8 :: (b % 16 * 16 + c / 4).toUInt8 ::
        (c % 4 * 64 + d).toUInt8 :: bytes) := by
  cases rest with
  | nil =>
    cases decoded
    simp only [decode, decodeLast, value_digit first, value_digit second, value_digit third,
      value_digit fourth, if_neg (digit_padding fourth), bind, Option.bind, pure]
  | cons letter rest =>
    simp only [decode, value_digit first, value_digit second, value_digit third,
      value_digit fourth, decoded, bind, Option.bind, pure]

theorem decode_three {a b c : Nat} (first : a < 64) (second : b < 64) (third : c < 64)
    (even : c % 4 = 0) :
    decode [digit a, digit b, digit c, padding] =
      some [(a * 4 + b / 16).toUInt8, (b % 16 * 16 + c / 4).toUInt8] := by
  change decodeLast (digit a) (digit b) (digit c) padding = _
  simp only [decodeLast, value_digit first, value_digit second, value_digit third,
    if_neg (digit_padding third), if_pos even, if_true, bind, Option.bind, pure]

theorem decode_two {a b : Nat} (first : a < 64) (second : b < 64) (even : b % 16 = 0) :
    decode [digit a, digit b, padding, padding] = some [(a * 4 + b / 16).toUInt8] := by
  change decodeLast (digit a) (digit b) padding padding = _
  simp only [decodeLast, value_digit first, value_digit second, if_pos even, if_true,
    bind, Option.bind, pure]

private theorem byte_of (byte : UInt8) {value : Nat} (same : value = byte.toNat) :
    value.toUInt8 = byte := by
  rw [same]
  exact UInt8.ofNat_toNat

/-- What was written is read back, whatever its length. -/
theorem decode_encode (bytes : Bytes) : decode (encode bytes) = some bytes := by
  fun_induction encode bytes with
  | case1 => rfl
  | case2 a group =>
    have small := a.toNat_lt
    rw [decode_two (by omega) (by omega) (by omega), byte_of a (by omega)]
  | case3 a b group =>
    have small := a.toNat_lt
    have also := b.toNat_lt
    rw [decode_three (by omega) (by omega) (by omega) (by omega), byte_of a (by omega),
      byte_of b (by omega)]
  | case4 a b c rest group ih =>
    have small := a.toNat_lt
    have also := b.toNat_lt
    have too := c.toNat_lt
    rw [decode_four (by omega) (by omega) (by omega) (by omega) ih, byte_of a (by omega),
      byte_of b (by omega), byte_of c (by omega)]

example : decode (Ascii.bytes "TWE=") = some [0x4d, 0x61] := by decide

end StreamBridge.Proofs.Base64Text
