import StreamBridge.Json.Read
import StreamBridge.Json.Print
import StreamBridge.Proofs.DecimalDigits
import StreamBridge.Proofs.TextEncoding

/-! Natural numbers in JSON texts. A written number is read back as far as its digits go, if what
follows does not continue it. -/

namespace StreamBridge.Proofs.JsonNumbers
open Json DecimalDigits

/-- What follows a number does not continue it. -/
def Ends (rest : Bytes) : Prop :=
  ∀ byte ∈ rest.head?, Ascii.isDigit byte = false ∧ byte ≠ Ascii.dot ∧ isExponentMark byte = false

theorem byte_toNat {letter : Char} (digit : letter.isDigit = true) :
    (Ascii.byte letter).toNat = letter.toNat := by
  have bounds := digit_bounds digit
  rw [Ascii.byte, UInt32.toNat_toUInt8]
  exact Nat.mod_eq_of_lt (by change letter.toNat < 256; omega)

theorem byte_digit {letter : Char} (digit : letter.isDigit = true) :
    Ascii.isDigit (Ascii.byte letter) = true := by
  have bounds := digit_bounds digit
  have code := byte_toNat digit
  simp only [Ascii.isDigit, Bool.and_eq_true, decide_eq_true_eq, UInt8.le_iff_toNat_le, code]
  exact bounds

theorem digitValue_byte {letter : Char} (digit : letter.isDigit = true) :
    Ascii.digitValue (Ascii.byte letter) = letter.toNat - '0'.toNat := by
  rw [Ascii.digitValue, byte_toNat digit]
  rfl

theorem digitAhead_ends {rest : Bytes} (ends : Ends rest) : digitAhead rest = false := by
  cases rest with
  | nil => rfl
  | cons byte more => exact (ends byte rfl).1

theorem takeWhile_digits {letters : List Char} {rest : Bytes} (digits : AllDigits letters)
    (ends : Ends rest) :
    (letters.map Ascii.byte ++ rest).takeWhile Ascii.isDigit = letters.map Ascii.byte ∧
      (letters.map Ascii.byte ++ rest).dropWhile Ascii.isDigit = rest := by
  have all : ∀ byte ∈ letters.map Ascii.byte, Ascii.isDigit byte = true := by
    intro byte member
    obtain ⟨letter, present, rfl⟩ := List.mem_map.mp member
    exact byte_digit (digits letter present)
  rw [List.takeWhile_append_of_pos all, List.dropWhile_append_of_pos all]
  cases rest with
  | nil => simp
  | cons byte more => simp [(ends byte rfl).1]

/-- Digits are absorbed to the last one while the number fits in a word. -/
theorem absorb_digits (letters : List Char) (significand count : Nat) (digits : AllDigits letters)
    (fits : Nat.ofDigitChars 10 letters significand ≤ Decimal.maxWord) :
    absorb significand count (letters.map Ascii.byte) =
      (Nat.ofDigitChars 10 letters significand, count + letters.length) := by
  induction letters generalizing significand count with
  | nil => simp [absorb]
  | cons letter letters ih =>
    have digit := digits letter (by simp)
    have next : significand * 10 + (letter.toNat - '0'.toNat) ≤ Decimal.maxWord := by
      rw [Nat.ofDigitChars_cons, Nat.mul_comm 10] at fits
      exact Nat.le_trans (le_ofDigitChars letters _) fits
    rw [Nat.ofDigitChars_cons, Nat.mul_comm 10] at fits ⊢
    rw [List.map_cons, absorb, digitValue_byte digit, if_neg (Nat.not_lt.mpr next),
      ih _ _ digits.tail fits, List.length_cons, Nat.add_right_comm, Nat.add_assoc]

theorem numberTail_whole (significand : Nat) {rest : Bytes} (ends : Ends rest) :
    numberTail false significand 0 rest = .ok (.natural significand, rest) := by
  cases rest with
  | nil => rfl
  | cons byte more =>
    obtain ⟨_, dot, mark⟩ := ends byte rfl
    simp [numberTail, dot, mark, numberTail.whole, integerNumber]

theorem byte_nonzero {letter : Char} (digit : letter.isDigit = true)
    (nonzero : letter ≠ '0') : Ascii.byte letter ≠ Ascii.zero := by
  intro same
  have code := congrArg UInt8.toNat same
  rw [byte_toNat digit] at code
  exact nonzero (Char.toNat_inj.mp code)

theorem number_written (value : Nat) (rest : Bytes) (ends : Ends rest)
    (fits : value ≤ Decimal.maxWord) :
    number false (writeNatural value ++ rest) = .ok (.natural value, rest) := by
  by_cases zero : value = 0
  · subst zero
    change (if digitAhead rest then refuseNext .badNumber rest else numberTail false 0 0 rest) = _
    rw [digitAhead_ends ends, if_neg (by decide), numberTail_whole 0 ends]
  obtain ⟨letter, letters, written, nonzero⟩ := digits_head value (Nat.pos_of_ne_zero zero)
  have digits : AllDigits (letter :: letters) := written ▸ digits_digits value
  have digit := digits letter (by simp)
  have total : Nat.ofDigitChars 10 (letter :: letters) 0 = value := by
    rw [← written]
    exact Nat.ofDigitChars_ten_toDigits
  obtain ⟨front, back⟩ := takeWhile_digits digits ends
  rw [List.map_cons, List.cons_append] at front back
  rw [writeNatural, written, List.map_cons, List.cons_append, number, if_pos (byte_digit digit)]
  · simp only [front, back]
    rw [← List.map_cons, absorb_digits _ 0 0 digits (by rw [total]; exact fits), total]
    simp only [List.length_map, Nat.zero_add, Nat.sub_self]
    exact numberTail_whole value ends
  · exact byte_nonzero digit nonzero

theorem isBlank_digit {byte : UInt8} (digit : Ascii.isDigit byte = true) :
    isBlank byte = false := by
  simp only [Ascii.isDigit, Bool.and_eq_true, decide_eq_true_eq] at digit
  unfold isBlank
  split <;> first | rfl | exact absurd digit (by decide)

theorem written_cons (value : Nat) :
    ∃ byte bytes, writeNatural value = byte :: bytes ∧ Ascii.isDigit byte = true := by
  cases written : Decimal.digits value with
  | nil => exact absurd written Nat.toDigits_ne_nil
  | cons letter letters =>
    refine ⟨Ascii.byte letter, letters.map Ascii.byte, by simp [writeNatural, written], ?_⟩
    exact byte_digit (digits_digits value letter (by simp [written]))

theorem word_written (limit value : Nat) (expected : String) (rest : Bytes) (ends : Ends rest)
    (small : value ≤ limit) (fits : value ≤ Decimal.maxWord) :
    word limit expected (writeNatural value ++ rest) = .ok (value, rest) := by
  have read := number_written value rest ends fits
  obtain ⟨byte, bytes, written, digit⟩ := written_cons value
  rw [written, List.cons_append] at read ⊢
  have blank : skipBlank (byte :: (bytes ++ rest)) = byte :: (bytes ++ rest) := by
    simp [skipBlank, isBlank_digit digit]
  unfold word
  rw [blank]
  split
  next empty => cases empty
  next more minus =>
    cases minus
    cases digit
  next =>
    simp only [digitAhead, digit, if_true, read, bind, Except.bind, asWord, small]

theorem writeNatural_wellFormed (value : Nat) :
    TextEncoding.WellFormed (writeNatural value) := by
  apply TextEncoding.wellFormed_asciis
  intro byte member
  obtain ⟨letter, present, rfl⟩ := List.mem_map.mp member
  have digit := digits_digits value letter present
  have bounds := digit_bounds digit
  rw [UInt8.lt_iff_toNat_lt, byte_toNat digit]
  exact Nat.lt_of_le_of_lt bounds.2 (by decide)

end StreamBridge.Proofs.JsonNumbers
