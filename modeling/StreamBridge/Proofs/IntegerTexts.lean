import StreamBridge.Proofs.DecimalDigits

/-! Integers in texts: which of them are written as they were read. -/

namespace StreamBridge.Proofs.IntegerTexts
open Decimal DecimalDigits

theorem natural_text (number : Nat) : toString (number : Int) = String.ofList (digits number) := by
  rw [Int.toString_eq_repr, Int.repr_eq_if, if_pos (Int.natCast_nonneg number), Int.toNat_natCast,
    Nat.repr_eq_ofList_toDigits, digits]

theorem negative_text {number : Nat} (positive : 0 < number) :
    toString (-(number : Int)) = String.ofList ('-' :: digits number) := by
  rw [Int.toString_eq_repr, Int.repr_eq_if, if_neg (by omega), Int.neg_neg, Int.toNat_natCast,
    Nat.repr_eq_ofList_toDigits, digits, String.ofList_cons]
  rfl

/-- Integers as they can be read, with their values. -/
inductive Integer : List Char → Int → Prop where
  | minus {digit : Char} {digits : List Char} (all : AllDigits (digit :: digits)) :
    Integer ('-' :: digit :: digits) (-(Nat.ofDigitChars 10 (digit :: digits) 0 : Int))
  | plus {digit : Char} {digits : List Char} (all : AllDigits (digit :: digits)) :
    Integer ('+' :: digit :: digits) (Nat.ofDigitChars 10 (digit :: digits) 0)
  | bare {digit : Char} {digits : List Char} (all : AllDigits (digit :: digits)) :
    Integer (digit :: digits) (Nat.ofDigitChars 10 (digit :: digits) 0)

theorem map_accumulate_ok {limit : Nat} {beyond : Fault} {letters : List Char} {change : Nat → Int}
    {number : Int} (reads : (accumulate limit beyond 0 letters).map change = .ok number) :
    AllDigits letters ∧ number = change (Nat.ofDigitChars 10 letters 0) := by
  cases read : accumulate limit beyond 0 letters with
  | error =>
    rw [read] at reads
    cases reads
  | ok total =>
    obtain ⟨all, rfl⟩ := accumulate_ok read
    rw [read] at reads
    exact ⟨all, (Except.ok.inj reads).symm⟩

/-- Only integers are read. -/
theorem readSigned_ok {bits : Nat} {letters : List Char} {number : Int}
    (reads : readSigned bits letters = .ok number) : Integer letters number := by
  unfold readSigned at reads
  split at reads
  · cases reads
  · cases reads
  · cases reads
  next rest nonempty =>
    have lifted (result : Except Fault Nat) :
        (Nat.cast <$> result).map (fun total : Int => -total) =
          result.map fun total : Nat => -(total : Int) := by
      cases result <;> rfl
    obtain ⟨all, rfl⟩ := map_accumulate_ok ((lifted _).symm.trans reads)
    cases rest with
    | nil => exact absurd rfl nonempty
    | cons digit digits => exact .minus all
  next rest nonempty =>
    obtain ⟨all, rfl⟩ := map_accumulate_ok reads
    cases rest with
    | nil => exact absurd rfl nonempty
    | cons digit digits => exact .plus all
  next nonempty _ _ _ _ =>
    obtain ⟨all, rfl⟩ := map_accumulate_ok reads
    cases letters with
    | nil => exact absurd rfl nonempty
    | cons digit digits => exact .bare all

/-- An integer is read if there are bits enough for it. -/
theorem readSigned_integer {bits : Nat} {letters : List Char} {number : Int}
    (integer : Integer letters number) (low : -(Nat.pow 2 (bits - 1) : Int) ≤ number)
    (high : number < Nat.pow 2 (bits - 1)) : readSigned bits letters = .ok number := by
  have positive {letters : List Char} (all : AllDigits letters)
      (high : (Nat.ofDigitChars 10 letters 0 : Int) < Nat.pow 2 (bits - 1)) :
      accumulate (Nat.pow 2 (bits - 1) - 1) .tooLarge 0 letters =
        .ok (Nat.ofDigitChars 10 letters 0) :=
    accumulate_fits _ all (Nat.le_sub_one_of_lt (Int.ofNat_lt.mp high))
  cases integer with
  | minus all =>
    have above := Int.neg_le_neg low
    rw [Int.neg_neg, Int.neg_neg] at above
    rw [readSigned, accumulate_fits .tooSmall all (Int.ofNat_le.mp above)]
    · rfl
    · exact nofun
  | plus all =>
    rw [readSigned, positive all high]
    · rfl
    · exact nofun
  | @bare digit digits all =>
    have first := all digit (.head _)
    unfold readSigned
    split
    next empty => cases empty
    iterate 4
      next same =>
        cases same
        cases first
    next =>
      rw [positive all high]
      rfl

/-- Whether an integer stands without plus sign and without zeros in front. -/
def isPlain : List Char → Bool
  | ['0'] => true
  | '-' :: digit :: _ => digit != '0'
  | first :: _ => first != '0' && first != '+'
  | [] => false

theorem isPlain_digits {digit : Char} {digits : List Char} (is : digit.isDigit = true) :
    isPlain (digit :: digits) = true ↔ digit ≠ '0' ∨ digits = [] := by
  have unsigned : digit ≠ '-' ∧ digit ≠ '+' :=
    ⟨fun sign => absurd (sign ▸ is) (by decide), fun sign => absurd (sign ▸ is) (by decide)⟩
  by_cases zero : digit = '0'
  · subst zero
    cases digits <;> simp [isPlain]
  · simp [isPlain, zero, unsigned]

/-- An integer is written as it was read if and only if it stood there plainly. -/
theorem integer_kept {letters : List Char} {number : Int} (reads : Integer letters number) :
    toString number = String.ofList letters ↔ isPlain letters = true := by
  cases reads with
  | @minus digit digits all =>
    have plain : isPlain ('-' :: digit :: digits) = true ↔ digit ≠ '0' := by simp [isPlain]
    have kept := digits_read all
    rw [plain]
    rcases Nat.eq_zero_or_pos (Nat.ofDigitChars 10 (digit :: digits) 0) with zero | positive
    · rw [zero] at kept ⊢
      refine iff_of_false (fun same => ?_) fun nonzero => ?_
      · exact absurd (List.cons.inj (String.ofList_inj.mp same)).1 (by decide)
      · exact nonzero (List.cons.inj (kept.mpr (.inl nonzero))).1.symm
    · rw [negative_text positive, String.ofList_inj, List.cons_inj_right, kept]
      refine or_iff_left_of_imp fun single zero => ?_
      subst single zero
      exact absurd positive (by decide)
  | @plus digit digits all =>
    rw [natural_text, String.ofList_inj]
    refine iff_of_false (fun same => ?_) (by simp [isPlain])
    have sign := digits_digits (Nat.ofDigitChars 10 (digit :: digits) 0) '+' (same ▸ .head _)
    exact absurd sign (by decide)
  | @bare digit digits all =>
    rw [natural_text, String.ofList_inj, digits_read all, isPlain_digits (all digit (.head _))]

end StreamBridge.Proofs.IntegerTexts
