import Mathlib.Algebra.Group.Nat.Defs
import StreamBridge.Decimal.Integer

/-! Written numbers as lists of digits: their length, their value, and what their first digit is.
Readers of numbers are compared with `Nat.ofDigitChars`, which adds digits to a total. -/

namespace StreamBridge.Proofs.DecimalDigits
open Decimal

/-- Every letter is a decimal digit. -/
def AllDigits (letters : List Char) : Prop := ∀ letter ∈ letters, letter.isDigit = true

instance (letters : List Char) : Decidable (AllDigits letters) :=
  decidable_of_iff (letters.all Char.isDigit = true) List.all_eq_true

theorem AllDigits.tail {letter : Char} {letters : List Char}
    (digits : AllDigits (letter :: letters)) : AllDigits letters :=
  fun other member => digits other (List.mem_cons_of_mem _ member)

theorem digit_bounds {letter : Char} (digit : letter.isDigit = true) :
    48 ≤ letter.toNat ∧ letter.toNat ≤ 57 := by
  simp only [Char.isDigit, Bool.and_eq_true, decide_eq_true_eq] at digit
  exact ⟨UInt32.le_iff_toNat_le.mp digit.1, UInt32.le_iff_toNat_le.mp digit.2⟩

theorem digit_some {letter : Char} (digit : letter.isDigit = true) :
    digit? letter = some (letter.toNat - '0'.toNat) := by
  simp [digit?, digit]

theorem digits_digits (value : Nat) : AllDigits (digits value) :=
  fun _ member => Nat.isDigit_of_mem_toDigits (by decide) (by decide) member

theorem padded_digits (width value : Nat) : AllDigits (padded width value) := by
  intro letter member
  rcases List.mem_append.mp member with zero | digit
  · rw [(List.mem_replicate.mp zero).2]
    rfl
  · exact digits_digits value letter digit

@[simp]
theorem padded_value (width value : Nat) : Nat.ofDigitChars 10 (padded width value) 0 = value := by
  simp [padded, digits, Nat.ofDigitChars_append]

theorem padded_length (width value : Nat) (positive : 0 < width) (fits : value < 10 ^ width) :
    (padded width value).length = width := by
  have short : (digits value).length ≤ width :=
    (Nat.length_toDigits_le_iff (by decide) positive).mpr fits
  simp only [padded, List.length_append, List.length_replicate]
  omega

theorem padded_cons (width value : Nat) :
    ∃ letter letters, padded width value = letter :: letters ∧ letter.isDigit = true := by
  cases written : padded width value with
  | nil =>
    have empty := congrArg List.length written
    have nonempty := Nat.length_toDigits_pos (b := 10) (n := value)
    simp only [padded, digits, List.length_append, List.length_replicate, List.length_nil] at empty
    omega
  | cons letter letters =>
    exact ⟨letter, letters, rfl, padded_digits width value letter (by simp [written])⟩

theorem le_ofDigitChars (letters : List Char) (total : Nat) :
    total ≤ Nat.ofDigitChars 10 letters total := by
  induction letters generalizing total with
  | nil => simp
  | cons letter letters ih =>
    rw [Nat.ofDigitChars_cons]
    exact Nat.le_trans (by omega) (ih _)

/-- Only zero is written with a zero in front. -/
theorem digits_head (value : Nat) (positive : 0 < value) :
    ∃ letter letters, digits value = letter :: letters ∧ letter ≠ '0' := by
  induction value using Nat.strongRecOn with
  | ind value ih =>
    by_cases single : value < 10
    · refine ⟨value.digitChar, [], Nat.toDigits_of_lt_base single, fun zero => ?_⟩
      have code := Nat.toNat_digitChar_of_lt_ten single
      rw [zero] at code
      simp at code
      omega
    · obtain ⟨letter, letters, written, nonzero⟩ := ih (value / 10) (by omega) (by omega)
      refine ⟨letter, letters ++ [(value % 10).digitChar], ?_, nonzero⟩
      rw [digits, Nat.toDigits_of_base_le (by decide) (by omega)]
      rw [digits] at written
      rw [written, List.cons_append]

theorem digitChar_digit {letter : Char} (digit : letter.isDigit = true) :
    (letter.toNat - '0'.toNat).digitChar = letter := by
  have bounds := digit_bounds digit
  have zero : '0'.toNat = 48 := rfl
  apply Char.toNat_inj.mp
  rw [Nat.toNat_digitChar_of_lt_ten (by omega)]
  omega

/-- What has been read by a reader that reports digits it does not know. -/
theorem accumulate_ok {limit : Nat} {beyond : Fault} {letters : List Char} {total number : Nat}
    (reads : accumulate limit beyond total letters = .ok number) :
    AllDigits letters ∧ number = Nat.ofDigitChars 10 letters total := by
  induction letters generalizing total with
  | nil =>
    cases reads
    exact ⟨nofun, rfl⟩
  | cons letter letters ih =>
    by_cases digit : letter.isDigit = true
    · simp only [accumulate, digit_some digit] at reads
      split at reads
      · cases reads
      · obtain ⟨digits, rfl⟩ := ih reads
        refine ⟨List.forall_mem_cons.mpr ⟨digit, digits⟩, ?_⟩
        rw [Nat.ofDigitChars_cons, Nat.mul_comm]
    · simp [accumulate, digit?, digit] at reads

/-- A reader that reports digits it does not know takes all numbers within its limit. -/
theorem accumulate_fits {limit : Nat} (beyond : Fault) {letters : List Char}
    (all : AllDigits letters) {total : Nat} (fits : Nat.ofDigitChars 10 letters total ≤ limit) :
    accumulate limit beyond total letters = .ok (Nat.ofDigitChars 10 letters total) := by
  induction letters generalizing total with
  | nil => rfl
  | cons letter letters ih =>
    rw [Nat.ofDigitChars_cons] at fits ⊢
    have within := Nat.le_trans (le_ofDigitChars letters _) fits
    rw [accumulate, digit_some (all letter (.head _))]
    simp only [Nat.mul_comm total 10]
    rw [if_neg (by omega), ih all.tail fits]

/-- Further digits of a number are written after its own. -/
theorem digits_more {letters : List Char} (all : AllDigits letters) {total : Nat}
    (positive : 0 < total) :
    digits (Nat.ofDigitChars 10 letters total) = digits total ++ letters := by
  induction letters generalizing total with
  | nil => simp
  | cons letter letters ih =>
    have digit := all letter (.head _)
    have bounds := digit_bounds digit
    have zero : '0'.toNat = 48 := rfl
    have small : letter.toNat - '0'.toNat < 10 := by omega
    calc digits (Nat.ofDigitChars 10 (letter :: letters) total)
      _ = digits (10 * total + (letter.toNat - '0'.toNat)) ++ letters := by
        rw [Nat.ofDigitChars_cons, ih all.tail (by omega)]
      _ = digits total ++ [letter] ++ letters := by
        rw [digits, ← Nat.toDigits_append_toDigits (by decide) positive small,
          Nat.toDigits_of_lt_base small, digitChar_digit digit, digits]
      _ = digits total ++ letter :: letters := by simp

/-- A number is written as it was read unless zeros stood in front. -/
theorem digits_read {letter : Char} {letters : List Char} (all : AllDigits (letter :: letters)) :
    digits (Nat.ofDigitChars 10 (letter :: letters) 0) = letter :: letters ↔
      letter ≠ '0' ∨ letters = [] := by
  by_cases zero : letter = '0'
  · subst zero
    simp only [ne_eq, not_true_eq_false, false_or]
    constructor
    · intro same
      rcases Nat.eq_zero_or_pos (Nat.ofDigitChars 10 ('0' :: letters) 0) with none | positive
      · rw [none] at same
        exact (List.cons.inj same).2.symm
      · obtain ⟨_, _, written, nonzero⟩ := digits_head _ positive
        rw [same] at written
        exact absurd (List.cons.inj written).1.symm nonzero
    · rintro rfl
      rfl
  · have digit := all letter (.head _)
    have bounds := digit_bounds digit
    have code : '0'.toNat = 48 := rfl
    have nonzero : letter.toNat ≠ 48 := fun same => zero (Char.toNat_inj.mp same)
    refine ⟨fun _ => .inl zero, fun _ => ?_⟩
    rw [Nat.ofDigitChars_cons, digits_more all.tail (by omega), digits,
      Nat.toDigits_of_lt_base (by omega), Nat.mul_zero, Nat.zero_add, digitChar_digit digit]
    rfl

end StreamBridge.Proofs.DecimalDigits
