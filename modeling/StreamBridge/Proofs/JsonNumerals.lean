import StreamBridge.Proofs.JsonGrammar

/-! Reading numbers in any form. A number is taken off the front whole, or refused; it is taken as a
natural number only where it is written as one that fits in a word. -/

namespace StreamBridge.Proofs.JsonNumerals
open Json JsonNumbers DecimalDigits JsonGrammar

/-! ### Runs of digits -/

/-- No digit is ahead. -/
def Halts (rest : Bytes) : Prop := digitAhead rest = false

theorem takeWhile_run {bytes rest : Bytes} (digits : ∀ byte ∈ bytes, Ascii.isDigit byte = true)
    (halts : Halts rest) :
    (bytes ++ rest).takeWhile Ascii.isDigit = bytes ∧
      (bytes ++ rest).dropWhile Ascii.isDigit = rest := by
  rw [List.takeWhile_append_of_pos digits, List.dropWhile_append_of_pos digits]
  cases rest with
  | nil => simp
  | cons byte more =>
    have other : Ascii.isDigit byte = false := halts
    simp [other]

theorem digits_ahead (digits : Digits) (rest : Bytes) :
    ∃ byte more, digits.bytes ++ rest = byte :: more ∧ Ascii.isDigit byte = true := by
  obtain ⟨byte, more, same⟩ := List.exists_cons_of_ne_nil digits.nonempty
  exact ⟨byte, more ++ rest, by rw [same]; rfl, digits.digits byte (by simp [same])⟩

theorem exponent_halts (exponent : Option Exponent) {rest : Bytes} (ends : Ends rest) :
    Halts (exponent.elim [] Exponent.text ++ rest) := by
  cases exponent with
  | none => exact digitAhead_ends ends
  | some exponent =>
    cases capital : exponent.capital <;> simp only [Option.elim, Exponent.text, capital] <;> rfl

theorem tail_halts (numeral : Numeral) {rest : Bytes} (ends : Ends rest) :
    Halts (numeral.tail ++ rest) := by
  rw [Numeral.tail]
  cases numeral.fraction with
  | none => exact exponent_halts numeral.exponent ends
  | some digits => rfl

/-- The whole part of a number is a zero alone, or digits without one in front. -/
theorem whole_cases (value : Nat) :
    (value = 0 ∧ writeNatural value = [Ascii.zero]) ∨
    ∃ byte bytes, writeNatural value = byte :: bytes ∧ byte ≠ Ascii.zero ∧
      ∀ digit ∈ byte :: bytes, Ascii.isDigit digit = true := by
  by_cases zero : value = 0
  · subst zero
    exact .inl ⟨rfl, rfl⟩
  · obtain ⟨letter, letters, written, nonzero⟩ := digits_head value (Nat.pos_of_ne_zero zero)
    have digits : AllDigits (letter :: letters) := written ▸ digits_digits value
    refine .inr ⟨Ascii.byte letter, letters.map Ascii.byte, by simp [writeNatural, written],
      byte_nonzero (digits letter (by simp)) nonzero, ?_⟩
    intro byte member
    obtain ⟨letter, present, rfl⟩ := List.mem_map.mp (List.map_cons ▸ member)
    exact byte_digit (digits letter present)

/-! ### Numbers that are skipped -/

theorem exponentSign_text (sign : Sign) (digits : Digits) (rest : Bytes) :
    ∃ below,
      exponentSign (sign.text ++ (digits.bytes ++ rest)) = (below, digits.bytes ++ rest) := by
  cases sign with
  | plus => exact ⟨false, rfl⟩
  | minus => exact ⟨true, rfl⟩
  | absent =>
    obtain ⟨byte, more, same, digit⟩ := digits_ahead digits rest
    refine ⟨false, ?_⟩
    rw [Sign.text, List.nil_append, same, exponentSign]
    all_goals
      rintro rest ⟨rfl, rfl⟩
      cases digit

theorem skipExponentAhead_text (exponent : Option Exponent) {rest : Bytes} (ends : Ends rest) :
    skipExponentAhead (exponent.elim [] Exponent.text ++ rest) = .ok rest := by
  cases exponent with
  | none =>
    cases rest with
    | nil => rfl
    | cons byte more => simp [skipExponentAhead, (ends byte rfl).2.2]
  | some exponent =>
    obtain ⟨below, sign⟩ := exponentSign_text exponent.sign exponent.digits rest
    obtain ⟨byte, more, same, digit⟩ := digits_ahead exponent.digits rest
    have run := (takeWhile_run exponent.digits.digits (digitAhead_ends ends)).2
    rw [same, List.dropWhile_cons_of_pos digit] at run
    have read :
        skipExponent (exponent.sign.text ++ (exponent.digits.bytes ++ rest)) = .ok rest := by
      rw [skipExponent, sign, same]
      simp only [digit, if_true, run]
    cases capital : exponent.capital <;>
      simpa [Exponent.text, capital, skipExponentAhead, isExponentMark] using read

theorem exponent_pointless (exponent : Option Exponent) {rest : Bytes} (ends : Ends rest)
    (more : Bytes) : exponent.elim [] Exponent.text ++ rest ≠ Ascii.dot :: more := by
  cases exponent with
  | none =>
    rintro rfl
    exact (ends Ascii.dot rfl).2.1 rfl
  | some exponent =>
    intro same
    have mark := (List.cons.inj same).1
    cases capital : exponent.capital <;>
      exact absurd mark (by simp only [capital]; decide)

theorem skipNumberTail_tail (numeral : Numeral) {rest : Bytes} (ends : Ends rest) :
    skipNumberTail (numeral.tail ++ rest) = .ok rest := by
  have exponent := skipExponentAhead_text numeral.exponent ends
  have pointless := exponent_pointless numeral.exponent ends
  have halts := exponent_halts numeral.exponent ends
  rw [Numeral.tail]
  cases numeral.fraction with
  | none =>
    rw [Option.elim, List.nil_append, skipNumberTail]
    · exact exponent
    · exact pointless
  | some digits =>
    obtain ⟨byte, more, same, digit⟩ :=
      digits_ahead digits (numeral.exponent.elim [] Exponent.text ++ rest)
    have run := (takeWhile_run digits.digits halts).2
    simp only [Option.elim_some, List.cons_append, List.append_assoc]
    change skipFraction (digits.bytes ++ (numeral.exponent.elim [] Exponent.text ++ rest)) = _
    rw [skipFraction, run, same, digitAhead, digit, if_pos rfl, exponent]

theorem skipNumber_unsigned (numeral : Numeral) {rest : Bytes} (ends : Ends rest) :
    skipNumber (numeral.unsigned ++ rest) = .ok rest := by
  have skips := skipNumberTail_tail numeral ends
  have halts : digitAhead (numeral.tail ++ rest) = false := tail_halts numeral ends
  rw [Numeral.unsigned, List.append_assoc]
  obtain ⟨-, written⟩ | ⟨byte, bytes, written, nonzero, digits⟩ := whole_cases numeral.whole
  · rw [written]
    change (if digitAhead (numeral.tail ++ rest) then _ else
      skipNumberTail (numeral.tail ++ rest)) = _
    rw [halts, if_neg (by decide), skips]
  · have run := (takeWhile_run digits halts).2
    have digit := digits byte (.head _)
    rw [List.cons_append, List.dropWhile_cons_of_pos digit] at run
    rw [written, List.cons_append, skipNumber, if_pos digit, run, skips]
    exact nonzero

/-! ### Numbers that are read -/

end StreamBridge.Proofs.JsonNumerals
