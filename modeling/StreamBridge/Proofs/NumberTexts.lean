import StreamBridge.Proofs.IntegerTexts
import StreamBridge.Decimal.Binary

/-! Texts that stand for numbers: the forms of integers, fractions and powers of ten, and the names
of what is no finite number. The reader of numbers takes exactly these. -/

namespace StreamBridge.Proofs.NumberTexts
open Decimal DecimalDigits IntegerTexts

/-! ### Forms -/

/-- What may stand before a number. -/
inductive Sign : List Char → Prop where
  | none : Sign []
  | plus : Sign ['+']
  | minus : Sign ['-']

/-- A power of ten behind a number, or nothing. -/
inductive Exponent : List Char → Prop where
  | none : Exponent []
  | some {mark : Char} {sign digits : List Char} (marked : mark = 'e' ∨ mark = 'E')
    (signed : Sign sign) (nonempty : digits ≠ []) (all : AllDigits digits) :
    Exponent (mark :: (sign ++ digits))

/-- Digits, with a point among them or without, and maybe a power of ten. -/
inductive Unsigned : List Char → Prop where
  | whole {digits exponent : List Char} (nonempty : digits ≠ []) (all : AllDigits digits)
    (raised : Exponent exponent) : Unsigned (digits ++ exponent)
  | pointed {whole fraction exponent : List Char} (nonempty : whole ≠ [] ∨ fraction ≠ [])
    (all : AllDigits whole) (all' : AllDigits fraction) (raised : Exponent exponent) :
    Unsigned (whole ++ '.' :: (fraction ++ exponent))

/-- The names of what is no finite number, in small letters. -/
def names : List (List Char) := ["inf".toList, "infinity".toList, "nan".toList]

/-- A number, or one of the names in any case, with a sign or without. -/
inductive Number : List Char → Prop where
  | written {sign digits : List Char} (signed : Sign sign) (unsigned : Unsigned digits) :
    Number (sign ++ digits)
  | named {sign name : List Char} (signed : Sign sign) (known : name.map Char.toLower ∈ names) :
    Number (sign ++ name)

/-! ### Reading them -/

theorem all_digits {letters : List Char} : letters.all Char.isDigit = true ↔ AllDigits letters :=
  List.all_eq_true

theorem readExponent_isSome (letters : List Char) :
    (readExponent? letters).isSome = true ↔
      ∃ sign digits, letters = sign ++ digits ∧ Sign sign ∧ digits ≠ [] ∧ AllDigits digits := by
  have reads {digits : List Char} {α : Type} (value : α) :
      (if !digits.isEmpty && digits.all Char.isDigit then some value else none).isSome = true ↔
        digits ≠ [] ∧ AllDigits digits := by
    cases digits <;> simp [AllDigits]
  constructor
  · intro some
    unfold readExponent? at some
    split at some
    · exact ⟨_, _, rfl, .minus, (reads _).mp some⟩
    · exact ⟨_, _, rfl, .plus, (reads _).mp some⟩
    · exact ⟨[], _, rfl, .none, (reads _).mp some⟩
  · rintro ⟨sign, digits, rfl, signed, nonempty, all⟩
    cases signed with
    | minus => exact (reads _).mpr ⟨nonempty, all⟩
    | plus => exact (reads _).mpr ⟨nonempty, all⟩
    | none =>
      unfold readExponent?
      split
      next same =>
        exact absurd (all '-' (by rw [show digits = _ from same]; exact .head _)) (by decide)
      next same =>
        exact absurd (all '+' (by rw [show digits = _ from same]; exact .head _)) (by decide)
      · exact (reads _).mpr ⟨nonempty, all⟩

theorem readTail_isSome (significand : Nat) (exponent : Int) (letters : List Char) :
    (readTail? significand exponent letters).isSome = true ↔ Exponent letters := by
  cases letters with
  | nil => exact iff_of_true rfl .none
  | cons mark rest =>
    rw [readTail?]
    by_cases marked : mark = 'e' ∨ mark = 'E'
    · rw [if_pos (by simpa using marked), Option.isSome_map, readExponent_isSome]
      constructor
      · rintro ⟨sign, digits, rfl, signed, nonempty, all⟩
        exact .some marked signed nonempty all
      · intro raised
        cases raised with
        | some _ signed nonempty all => exact ⟨_, _, rfl, signed, nonempty, all⟩
    · rw [if_neg (by simpa using marked)]
      refine iff_of_false (by simp) fun raised => ?_
      cases raised with
      | some known => exact marked known

/-- What a power of ten starts with is no digit. -/
theorem Exponent.halts {letters : List Char} (raised : Exponent letters) :
    ∀ letter ∈ letters.head?, letter.isDigit = false ∧ letter ≠ '.' := by
  cases raised with
  | none => exact nofun
  | some marked =>
    rintro _ ⟨⟩
    rcases marked with rfl | rfl <;> decide

theorem takeWhile_digits {digits rest : List Char} (all : AllDigits digits)
    (halts : ∀ letter ∈ rest.head?, letter.isDigit = false) :
    (digits ++ rest).takeWhile Char.isDigit = digits ∧
      (digits ++ rest).dropWhile Char.isDigit = rest := by
  rw [List.takeWhile_append_of_pos all, List.dropWhile_append_of_pos all]
  cases rest with
  | nil => simp
  | cons letter rest => simp [halts letter rfl]

theorem readUnsignedFloat_isSome (letters : List Char) :
    (readUnsignedFloat? letters).isSome = true ↔ Unsigned letters := by
  have digits (letters : List Char) : AllDigits (letters.takeWhile Char.isDigit) :=
    all_digits.mp List.all_takeWhile
  have cut (letters : List Char) :
      letters.takeWhile Char.isDigit ++ letters.dropWhile Char.isDigit = letters :=
    List.takeWhile_append_dropWhile
  constructor
  · intro some
    unfold readUnsignedFloat? at some
    dsimp only at some
    split at some
    next rest behind =>
      split at some
      · cases some
      next nonempty =>
        rw [← cut letters, behind, ← cut rest]
        refine .pointed ?_ (digits _) (digits _) ((readTail_isSome ..).mp some)
        simpa only [Bool.and_eq_true, List.isEmpty_iff, Decidable.not_and_iff_not_or_not]
          using nonempty
    next =>
      split at some
      · cases some
      next nonempty =>
        rw [← cut letters]
        refine .whole ?_ (digits _) ((readTail_isSome ..).mp some)
        simpa only [List.isEmpty_iff] using nonempty
  · rintro (⟨nonempty, all, raised⟩ | ⟨nonempty, all, all', raised⟩)
    next digits exponent =>
      obtain ⟨before, behind⟩ :=
        takeWhile_digits all fun letter first => (raised.halts letter first).1
      unfold readUnsignedFloat?
      dsimp only
      rw [behind, before]
      split
      next => exact absurd rfl (raised.halts '.' rfl).2
      next =>
        rw [if_neg (by simpa only [List.isEmpty_iff] using nonempty), readTail_isSome]
        exact raised
    next whole fraction exponent =>
      have point : ∀ letter ∈ ('.' :: (fraction ++ exponent)).head?, letter.isDigit = false := by
        rintro _ ⟨⟩
        decide
      obtain ⟨before, behind⟩ := takeWhile_digits all point
      obtain ⟨before', behind'⟩ :=
        takeWhile_digits all' fun letter first => (raised.halts letter first).1
      have some : ¬ (whole.isEmpty && fraction.isEmpty) = true := by
        simpa only [Bool.and_eq_true, List.isEmpty_iff, Decidable.not_and_iff_not_or_not]
          using nonempty
      unfold readUnsignedFloat?
      dsimp only
      rw [behind, before]
      simp only
      rw [before', behind', if_neg some, readTail_isSome]
      exact raised

/-- A number without its sign does not start with one. -/
theorem Unsigned.starts {letters : List Char} (unsigned : Unsigned letters) :
    ∀ letter ∈ letters.head?, letter ≠ '-' ∧ letter ≠ '+' := by
  have digit {letter : Char} (is : letter.isDigit = true) : letter ≠ '-' ∧ letter ≠ '+' :=
    ⟨fun sign => absurd (sign ▸ is) (by decide), fun sign => absurd (sign ▸ is) (by decide)⟩
  cases unsigned with
  | @whole digits _ nonempty all =>
    cases digits with
    | nil => exact absurd rfl nonempty
    | cons first digits =>
      rintro _ ⟨⟩
      exact digit (all first (.head _))
  | @pointed whole _ _ _ all =>
    cases whole with
    | nil =>
      rintro _ ⟨⟩
      decide
    | cons first whole =>
      rintro _ ⟨⟩
      exact digit (all first (.head _))

theorem names_start {name : List Char} (known : name.map Char.toLower ∈ names) :
    ∀ letter ∈ name.head?, letter ≠ '-' ∧ letter ≠ '+' := by
  have letters : ∀ other ∈ names, ∀ letter ∈ other.head?, letter ≠ '-' ∧ letter ≠ '+' := by
    simp [names]
  intro letter first
  have low := letters _ known letter.toLower (by rw [List.head?_map, first]; rfl)
  refine ⟨?_, ?_⟩
  · rintro rfl
    exact low.1 rfl
  · rintro rfl
    exact low.2 rfl

theorem readSize_isSome (letters : List Char) :
    (readSize? letters).isSome = true ↔
      letters.map Char.toLower ∈ names ∨ Unsigned letters := by
  have same (name : String) :
      (String.ofList (letters.map Char.toLower) == name) = true ↔
        letters.map Char.toLower = name.toList := by
    rw [beq_iff_eq, ← String.toList_inj, String.toList_ofList]
  unfold readSize?
  dsimp only
  simp only [names, List.mem_cons, List.not_mem_nil, or_false]
  split
  next known =>
    rw [Bool.or_eq_true, same, same] at known
    exact iff_of_true rfl (.inl (known.imp id .inl))
  next unknown =>
    rw [Bool.or_eq_true, same, same] at unknown
    split
    next known => exact iff_of_true rfl (.inl (.inr (.inr ((same _).mp known))))
    next other =>
      rw [same] at other
      rw [readUnsignedFloat_isSome]
      refine ⟨.inr, fun known => known.resolve_left ?_⟩
      rintro (inf | infinity | nan)
      · exact unknown (.inl inf)
      · exact unknown (.inr infinity)
      · exact other nan

/-- The reader of numbers takes exactly the forms of numbers. -/
theorem readFloat_isSome (letters : List Char) :
    (readFloat? letters).isSome = true ↔ Number letters := by
  have number {sign rest : List Char} (signed : Sign sign) :
      rest.map Char.toLower ∈ names ∨ Unsigned rest → Number (sign ++ rest) := by
    rintro (known | unsigned)
    · exact .named signed known
    · exact .written signed unsigned
  have reads {sign rest : List Char} (signed : Sign sign)
      (starts : ∀ letter ∈ rest.head?, letter ≠ '-' ∧ letter ≠ '+') :
      rest.map Char.toLower ∈ names ∨ Unsigned rest →
        (readFloat? (sign ++ rest)).isSome = true := by
    rw [← readSize_isSome]
    intro sized
    unfold readFloat?
    cases signed with
    | plus => exact sized
    | minus => exact Option.isSome_map.trans sized
    | none =>
      rw [List.nil_append]
      split
      · exact absurd rfl (starts '-' rfl).1
      · exact absurd rfl (starts '+' rfl).2
      · exact sized
  constructor
  · unfold readFloat?
    split
    · rw [Option.isSome_map, readSize_isSome]
      exact number .minus
    · rw [readSize_isSome]
      exact number .plus
    · rw [readSize_isSome]
      exact number .none
  · rintro (⟨signed, unsigned⟩ | ⟨signed, named⟩)
    · exact reads signed unsigned.starts (.inr unsigned)
    · exact reads signed (names_start named) (.inl named)

instance (letters : List Char) : Decidable (Number letters) :=
  decidable_of_iff _ (readFloat_isSome letters)

/-! ### Integers -/

theorem integer_number {letters : List Char} {value : Int} (integer : Integer letters value) :
    Number letters := by
  have digits {digit : Char} {digits : List Char} (all : AllDigits (digit :: digits)) :
      Unsigned (digit :: digits) := by
    simpa using Unsigned.whole (List.cons_ne_nil _ _) all .none
  cases integer with
  | minus all => exact .written .minus (digits all)
  | plus all => exact .written .plus (digits all)
  | bare all => exact .written .none (digits all)

end StreamBridge.Proofs.NumberTexts
