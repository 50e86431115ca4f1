import StreamBridge.Time.Timestamp
import StreamBridge.Proofs.DecimalDigits
import StreamBridge.Proofs.CalendarDays

/-! Written moments are read back. The reader is more liberal than the writer, so each part is shown
to end exactly where it was written to end. -/

namespace StreamBridge.Proofs.MomentText
open Timestamp DecimalDigits

/-- A run of digits ends before `rest`: at its limit, or because no digit follows. -/
def EndsAt (limit : Option Nat) (letters rest : List Char) : Prop :=
  limit = some letters.length ∨
    (∀ count ∈ limit, letters.length ≤ count) ∧ ∀ letter ∈ rest.head?, letter.isDigit = false

private theorem readDigits_end (limit : Option Nat) (total : Nat) (rest : List Char)
    (ends : EndsAt limit [] rest) : readDigits limit total rest = .ok (total, rest) := by
  rcases ends with rfl | ⟨_, plain⟩
  · cases rest <;> rfl
  · cases rest with
    | nil => cases limit with
      | none => rfl
      | some count => cases count <;> rfl
    | cons letter rest =>
      have digit : Decimal.digit? letter = none := by simp [Decimal.digit?, plain letter rfl]
      cases limit with
      | none => simp [readDigits, digit]
      | some count => cases count <;> simp [readDigits, digit]

private theorem EndsAt.tail {limit : Option Nat} {letter : Char} {letters rest : List Char}
    (ends : EndsAt limit (letter :: letters) rest) : EndsAt (limit.map (· - 1)) letters rest := by
  rcases ends with rfl | ⟨within, plain⟩
  · exact .inl rfl
  · refine .inr ⟨fun count member => ?_, plain⟩
    obtain ⟨before, present, rfl⟩ := Option.map_eq_some_iff.mp member
    have bound := within before present
    simp only [List.length_cons] at bound
    omega

private theorem EndsAt.positive {limit : Option Nat} {letter : Char} {letters rest : List Char}
    (ends : EndsAt limit (letter :: letters) rest) : limit ≠ some 0 := by
  rintro rfl
  rcases ends with zero | ⟨within, _⟩
  · cases zero
  · exact absurd (within 0 rfl) (by simp)

private theorem readDigits_letters (letters rest : List Char) (limit : Option Nat) (total : Nat)
    (digits : AllDigits letters) (ends : EndsAt limit letters rest)
    (fits : Nat.ofDigitChars 10 letters total ≤ maxNumber) :
    readDigits limit total (letters ++ rest) = .ok (Nat.ofDigitChars 10 letters total, rest) := by
  induction letters generalizing limit total with
  | nil => simpa using readDigits_end limit total rest ends
  | cons letter letters ih =>
    have digit := digit_some (digits letter (by simp))
    rw [Nat.ofDigitChars_cons, Nat.mul_comm 10] at fits ⊢
    have small : ¬ maxNumber < total * 10 + (letter.toNat - '0'.toNat) :=
      Nat.not_lt.mpr (Nat.le_trans (le_ofDigitChars letters _) fits)
    rw [List.cons_append, readDigits]
    · rw [digit]
      simp only [small, if_false]
      exact ih _ _ digits.tail ends.tail fits
    · exact ends.positive

theorem readNumber_padded (limit : Option Nat) (width value : Nat) (rest : List Char)
    (ends : EndsAt limit (Decimal.padded width value) rest) (fits : value ≤ maxNumber) :
    readNumber limit (Decimal.padded width value ++ rest) = .ok (value, rest) := by
  have read := readDigits_letters _ rest limit 0 (padded_digits width value) ends
    (by rw [padded_value]; exact fits)
  rw [padded_value] at read
  obtain ⟨letter, letters, written, digit⟩ := padded_cons width value
  rw [written] at read ⊢
  simp only [List.cons_append, readNumber, digit_some digit]
  exact read

private theorem isBlank_digit {letter : Char} (digit : letter.isDigit = true) :
    Text.isBlank letter = false := by
  simp only [Char.isDigit, Bool.and_eq_true, decide_eq_true_eq, UInt32.le_iff_toNat_le] at digit
  simp only [Text.isBlank, Bool.or_eq_false_iff, Bool.and_eq_false_iff, decide_eq_false_iff_not,
    UInt32.le_iff_toNat_le, beq_eq_false_iff_ne, ne_eq, ← UInt32.toNat_inj]
  simp at digit ⊢
  omega

theorem trimFront_padded (width value : Nat) (rest : List Char) :
    Text.trimFront (Decimal.padded width value ++ rest) = Decimal.padded width value ++ rest := by
  obtain ⟨letter, letters, written, digit⟩ := padded_cons width value
  rw [written]
  simp [Text.trimFront, isBlank_digit digit]

theorem readPart_padded (low high value : Nat) (rest : List Char) (above : low ≤ value)
    (below : value ≤ high) (short : value < 100) :
    readPart low high (Decimal.padded 2 value ++ rest) = .ok (value, rest) := by
  have ends : EndsAt (some 2) (Decimal.padded 2 value) rest :=
    .inl (congrArg some (padded_length 2 value (by decide) short).symm)
  have fits : value ≤ maxNumber := Nat.le_trans (Nat.le_of_lt short) (by decide)
  simp only [readPart, trimFront_padded, readNumber_padded _ _ _ _ ends fits, bind, Except.bind,
    above, below, and_self, if_true]

theorem readMark_ahead (mark : Char) (rest : List Char) (shows : Text.isBlank mark = false) :
    readMark mark (mark :: rest) = .ok rest := by
  simp [readMark, Text.trimFront, shows]

private theorem not_sign {letter : Char} (digit : letter.isDigit = true) :
    letter ≠ '-' ∧ letter ≠ '+' := by
  constructor <;> rintro rfl <;> exact absurd digit (by decide)

/-- A year up to 9999 has no sign, so that its four digits are its end. -/
private theorem readYear_unsigned (year : Nat) (rest : List Char) (short : year ≤ 9999) :
    readYear (Decimal.padded 4 year ++ rest) = .ok ((year : Int), rest) := by
  have ends : EndsAt (some 4) (Decimal.padded 4 year) rest :=
    .inl (congrArg some (padded_length 4 year (by decide) (by omega)).symm)
  have fits : year ≤ maxNumber := Nat.le_trans short (by decide)
  have read := readNumber_padded (some 4) 4 year rest ends fits
  have front := trimFront_padded 4 year rest
  obtain ⟨letter, letters, written, digit⟩ := padded_cons 4 year
  rw [written, List.cons_append] at read front ⊢
  simp only [readYear, front]
  split
  next rest minus => exact absurd (List.cons.inj minus).1 (not_sign digit).1
  next rest plus => exact absurd (List.cons.inj plus).1 (not_sign digit).2
  next =>
    have inRange : -2147483648 ≤ (year : Int) ∧ (year : Int) ≤ 2147483647 := by omega
    simp only [read, bind, Except.bind, inRange, and_self, if_true]

/-- A year with a sign may have any number of digits, so that it ends before the next mark. -/
private theorem readYear_signed (year : Int) (rest : List Char) (plain : ¬ (0 ≤ year ∧ year ≤ 9999))
    (late : -1000000 < year) (early : year < 1000000) :
    readYear (writeYear year ++ '-' :: rest) = .ok (year, '-' :: rest) := by
  have ends : EndsAt none (Decimal.padded 4 year.natAbs) ('-' :: rest) := by
    refine .inr ⟨by simp, ?_⟩
    rintro letter ⟨⟩
    decide
  have fits : year.natAbs ≤ maxNumber := by
    unfold maxNumber
    omega
  have read := readNumber_padded none 4 year.natAbs ('-' :: rest) ends fits
  simp only [writeYear, plain, if_false, List.cons_append]
  by_cases negative : year < 0
  · have value : -(year.natAbs : Int) = year := by omega
    have inRange : -2147483648 ≤ year ∧ year ≤ 2147483647 := by omega
    have front : Text.trimFront ('-' :: (Decimal.padded 4 year.natAbs ++ '-' :: rest)) =
        '-' :: (Decimal.padded 4 year.natAbs ++ '-' :: rest) := by
      simp [Text.trimFront, show Text.isBlank '-' = false by decide]
    simp only [negative, if_true, readYear, front, read, bind, Except.bind, value, inRange,
      and_self]
  · have value : (year.natAbs : Int) = year := by omega
    have inRange : -2147483648 ≤ year ∧ year ≤ 2147483647 := by omega
    have front : Text.trimFront ('+' :: (Decimal.padded 4 year.natAbs ++ '-' :: rest)) =
        '+' :: (Decimal.padded 4 year.natAbs ++ '-' :: rest) := by
      simp [Text.trimFront, show Text.isBlank '+' = false by decide]
    simp only [negative, if_false, readYear, front, read, bind, Except.bind, value, inRange,
      and_self, if_true]

theorem readYear_written (year : Int) (rest : List Char) (late : -1000000 < year)
    (early : year < 1000000) :
    readYear (writeYear year ++ '-' :: rest) = .ok (year, '-' :: rest) := by
  by_cases plain : 0 ≤ year ∧ year ≤ 9999
  · have read := readYear_unsigned year.toNat ('-' :: rest) (by omega)
    have value : (year.toNat : Int) = year := by omega
    rw [value] at read
    rw [writeYear, if_pos plain]
    exact read
  · exact readYear_signed year rest plain late early

private theorem readFraction_padded (width value : Nat) (rest : List Char) (positive : 0 < width)
    (nine : width ≤ 9) (short : value < 10 ^ width) :
    readFraction ('.' :: (Decimal.padded width value ++ 'Z' :: rest)) =
      .ok (value * 10 ^ (9 - width), 'Z' :: rest) := by
  have length := padded_length width value positive short
  have ends : EndsAt (some 9) (Decimal.padded width value) ('Z' :: rest) := by
    refine .inr ⟨?_, ?_⟩
    · rintro count ⟨⟩
      omega
    · rintro letter ⟨⟩
      decide
  have fits : value ≤ maxNumber := by
    have power : (10 : Nat) ^ width ≤ 10 ^ 9 := Nat.pow_le_pow_right (by decide) nine
    exact Nat.le_trans (Nat.le_of_lt (Nat.lt_of_lt_of_le short power)) (by decide)
  have plain : ('Z' :: rest).dropWhile Char.isDigit = 'Z' :: rest := by simp
  simp only [readFraction, readNumber_padded _ _ _ _ ends fits, bind, Except.bind, plain,
    List.length_append, length, Nat.add_sub_cancel]
  rfl

theorem readFraction_written (nanos : Nat) (rest : List Char) (short : nanos < 1000000000) :
    readFraction (writeFraction nanos ++ 'Z' :: rest) = .ok (nanos, 'Z' :: rest) := by
  unfold writeFraction
  split
  next zero =>
    subst zero
    rfl
  split
  next millis =>
    rw [List.cons_append, readFraction_padded 3 _ rest (by decide) (by decide) (by omega)]
    have value : nanos / 1000000 * 10 ^ (9 - 3) = nanos := by omega
    rw [value]
  split
  next micros =>
    rw [List.cons_append, readFraction_padded 6 _ rest (by decide) (by decide) (by omega)]
    have value : nanos / 1000 * 10 ^ (9 - 6) = nanos := by omega
    rw [value]
  next =>
    rw [List.cons_append, readFraction_padded 9 _ rest (by decide) (by decide) (by omega)]
    have value : nanos * 10 ^ (9 - 9) = nanos := by omega
    rw [value]

/-- The clock reading and the nanoseconds that a moment is written with. A leap second is the
second 60, and its nanoseconds are counted from its start. -/
structure Reading (moment : Timestamp) (second nanos : Nat) : Prop where
  second_le : second ≤ 60
  nanos_lt : nanos < 1000000000
  clock : min second 59 = (moment.seconds % 86400).toNat % 60
  exact : (if second = 60 then nanos + 1000000000 else nanos) = moment.nanos

theorem reading (moment : Timestamp) :
    Reading moment
      ((moment.seconds % 86400).toNat % 60 + if 1000000000 ≤ moment.nanos then 1 else 0)
      (if 1000000000 ≤ moment.nanos then moment.nanos - 1000000000 else moment.nanos) := by
  obtain ⟨_, _, nanos⟩ := moment.isMoment
  by_cases leap : 1000000000 ≤ moment.nanos
  · obtain ⟨below, last⟩ := nanos.resolve_left (Nat.not_lt.mpr leap)
    have second : (moment.seconds % 86400).toNat % 60 = 59 := by omega
    simp only [leap, if_true, second]
    exact ⟨by omega, by omega, by omega, by simp; omega⟩
  · have ordinary : ¬ (moment.seconds % 86400).toNat % 60 = 60 := by omega
    simp only [leap, if_false, Nat.add_zero]
    exact ⟨by omega, by omega, by omega, by simp [ordinary]⟩

/-- A clock reading in universal time on the date of a moment is that moment. -/
theorem ofClock_reading (moment : Timestamp) {second nanos : Nat}
    (shown : Reading moment second nanos) :
    ofClock (Time.Date.ofDays (moment.seconds / 86400)) ((moment.seconds % 86400).toNat / 3600)
      ((moment.seconds % 86400).toNat / 60 % 60) second nanos 0 = .ok moment := by
  have total : moment.seconds / 86400 * 86400 +
      ((moment.seconds % 86400).toNat / 3600 : Nat) * 3600 +
      ((moment.seconds % 86400).toNat / 60 % 60 : Nat) * 60 + (min second 59 : Nat) =
        moment.seconds := by
    rw [shown.clock]
    omega
  have whole : (of? moment.seconds 0).isNone = false := by
    obtain ⟨late, early, _⟩ := moment.isMoment
    have valid : Time.IsMoment moment.seconds 0 := ⟨late, early, .inl (by decide)⟩
    simp [of?, valid]
  have found : of? moment.seconds moment.nanos = some moment := by
    simp [of?, moment.isMoment]
  simp only [ofClock, CalendarDays.exists_ofDays, CalendarDays.toDays_ofDays]
  simp only [total, whole, shown.exact, Int.sub_zero, found]
  rfl

private theorem letters_parts (moment : Timestamp) :
    moment.letters =
      writeYear (Time.Date.ofDays (moment.seconds / 86400)).year ++ '-' ::
      (Decimal.padded 2 (Time.Date.ofDays (moment.seconds / 86400)).month ++ '-' ::
      (Decimal.padded 2 (Time.Date.ofDays (moment.seconds / 86400)).day ++ 'T' ::
      (Decimal.padded 2 ((moment.seconds % 86400).toNat / 3600) ++ ':' ::
      (Decimal.padded 2 ((moment.seconds % 86400).toNat / 60 % 60) ++ ':' ::
      (Decimal.padded 2 ((moment.seconds % 86400).toNat % 60 +
        if 1000000000 ≤ moment.nanos then 1 else 0) ++
      (writeFraction (if 1000000000 ≤ moment.nanos then moment.nanos - 1000000000
        else moment.nanos) ++ ['Z'])))))) := by
  simp [letters]

private theorem parts_of_exists {date : Time.Date} (valid : date.exists = true) :
    1 ≤ date.month ∧ date.month ≤ 12 ∧ 1 ≤ date.day ∧ date.day ≤ 31 := by
  simp only [Time.Date.exists, Bool.and_eq_true, decide_eq_true_eq] at valid
  have longest : Time.daysInMonth date.year date.month ≤ 31 := by
    unfold Time.daysInMonth
    repeat' split
    all_goals decide
  omega

private theorem year_bounds (moment : Timestamp) :
    -1000000 < (Time.Date.ofDays (moment.seconds / 86400)).year ∧
      (Time.Date.ofDays (moment.seconds / 86400)).year < 1000000 := by
  obtain ⟨late, early, _⟩ := moment.isMoment
  unfold Time.minSeconds at late
  unfold Time.maxSeconds at early
  exact CalendarDays.year_ofDays _ (by omega) (by omega)

/-- What is written for a moment is read as that moment. -/
theorem read_letters (moment : Timestamp) : Timestamp.read moment.letters = .ok moment := by
  obtain ⟨late, early⟩ := year_bounds moment
  obtain ⟨january, december, firstDay, lastDay⟩ :=
    parts_of_exists (CalendarDays.exists_ofDays (moment.seconds / 86400))
  have shown := reading moment
  have clock := ofClock_reading moment shown
  obtain ⟨second, nanos, _, _⟩ := shown
  have dash : Text.isBlank '-' = false := by decide
  have colon : Text.isBlank ':' = false := by decide
  have hour : (moment.seconds % 86400).toNat / 3600 ≤ 23 := by omega
  have minute : (moment.seconds % 86400).toNat / 60 % 60 ≤ 59 := by omega
  rw [letters_parts]
  simp only [Timestamp.read, bind, Except.bind, readYear_written _ _ late early,
    readMark_ahead '-' _ dash, readMark_ahead ':' _ colon,
    readPart_padded 1 12 _ _ january december (by omega),
    readPart_padded 1 31 _ _ firstDay lastDay (by omega), true_or, if_true,
    readPart_padded 0 23 _ _ (Nat.zero_le _) hour (by omega),
    readPart_padded 0 59 _ _ (Nat.zero_le _) minute (by omega),
    readPart_padded 0 60 _ _ (Nat.zero_le _) second (by omega),
    readFraction_written _ _ nanos]
  exact clock

end StreamBridge.Proofs.MomentText
