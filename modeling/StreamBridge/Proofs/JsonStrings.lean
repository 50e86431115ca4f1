import StreamBridge.Json.Read
import StreamBridge.Json.Print
import StreamBridge.Proofs.TextEncoding

/-! Strings in JSON texts. A written string is read back whatever stands behind its closing quote:
each character comes back by itself, escaped or not. -/

namespace StreamBridge.Proofs.JsonStrings
open Json Utf8

/-- A byte that stands for itself inside a string. -/
def Plain (byte : UInt8) : Prop :=
  0x20 ≤ byte ∧ byte ≠ Ascii.quote ∧ byte ≠ Ascii.backslash

/-- What the bytes of a character look like inside a string. -/
inductive Spelling (letter : Char) : Bytes → Prop where
  | plain (clear : ∀ byte ∈ String.utf8EncodeChar letter, Plain byte) :
      Spelling letter (String.utf8EncodeChar letter)
  | short (mark byte : UInt8) (unit : mark ≠ Ascii.letterU)
      (stands : shortEscape? mark = some byte) (same : String.utf8EncodeChar letter = [byte]) :
      Spelling letter [Ascii.backslash, mark]
  | unit (control : letter.toNat < 0x20) :
      Spelling letter [Ascii.backslash, Ascii.letterU, Ascii.zero, Ascii.zero,
        Ascii.hexDigit (letter.toNat / 16), Ascii.hexDigit (letter.toNat % 16)]

private theorem letter_of_code {letter : Char} {code : Nat} (same : letter.toNat = code) :
    letter = Char.ofNat code := by
  subst same
  exact (Char.ofNat_toNat letter).symm

private theorem plain_ofNat {value : Nat} (above : 0x20 ≤ value) (small : value < 256)
    (quote : value ≠ 0x22) (backslash : value ≠ 0x5c) : Plain (UInt8.ofNat value) := by
  refine ⟨?_, ?_, ?_⟩
  · rw [UInt8.le_iff_toNat_le, UInt8.toNat_ofNat', Nat.mod_eq_of_lt small]
    exact above
  all_goals
    intro same
    have code := congrArg UInt8.toNat same
    rw [UInt8.toNat_ofNat', Nat.mod_eq_of_lt small] at code
    contradiction

private theorem encodeChar_plain {letter : Char} (above : 0x20 ≤ letter.toNat)
    (quote : letter.toNat ≠ 0x22) (backslash : letter.toNat ≠ 0x5c) :
    ∀ byte ∈ String.utf8EncodeChar letter, Plain byte := by
  intro byte member
  have code : letter.val.toNat = letter.toNat := rfl
  simp only [String.utf8EncodeChar, code] at member
  split at member
  · rw [List.mem_singleton.mp member]
    exact plain_ofNat above (by omega) quote backslash
  all_goals try split at member
  all_goals try split at member
  all_goals
    simp only [List.mem_cons, List.not_mem_nil, or_false] at member
    rcases member with rfl | rfl | rfl | rfl <;>
      exact plain_ofNat (by omega) (by omega) (by omega) (by omega)

theorem writtenChar_spelling (letter : Char) : Spelling letter (writtenChar letter) := by
  simp only [writtenChar]
  iterate 7
    split
    next same =>
      rw [letter_of_code same]
      exact .short _ _ (by decide) rfl rfl
  split
  next control => exact .unit control
  next printable => exact .plain (encodeChar_plain (by omega) (by assumption) (by assumption))

private theorem hexValue_digit {value : Nat} (small : value < 16) :
    Ascii.hexValue? (Ascii.hexDigit value) = some value := by
  have all : ∀ value : Fin 16, Ascii.hexValue? (Ascii.hexDigit value) = some value.val := by decide
  exact all ⟨value, small⟩

theorem escape_unit (letter : Char) (rest : Bytes) (control : letter.toNat < 0x20) :
    escape (Ascii.letterU :: Ascii.zero :: Ascii.zero :: Ascii.hexDigit (letter.toNat / 16) ::
      Ascii.hexDigit (letter.toNat % 16) :: rest) = .ok (String.utf8EncodeChar letter, rest) := by
  have zero : Ascii.hexValue? Ascii.zero = some 0 := rfl
  have code : ((0 * 16 + 0) * 16 + letter.toNat / 16) * 16 + letter.toNat % 16 = letter.toNat := by
    omega
  have leading : isLeading letter.toNat = false := by
    simp only [isLeading, Bool.and_eq_false_iff, decide_eq_false_iff_not]
    omega
  have trailing : isTrailing letter.toNat = false := by
    simp only [isTrailing, Bool.and_eq_false_iff, decide_eq_false_iff_not]
    omega
  have unit : hexUnit (Ascii.zero :: Ascii.zero :: Ascii.hexDigit (letter.toNat / 16) ::
      Ascii.hexDigit (letter.toNat % 16) :: rest) = .ok (letter.toNat, rest) := by
    simp only [hexUnit, zero, hexValue_digit (show letter.toNat / 16 < 16 by omega),
      hexValue_digit (show letter.toNat % 16 < 16 by omega), code]
  change unitEscape _ = _
  simp only [unitEscape, unit, bind, Except.bind, leading, trailing, codePoint, Char.ofNat_toNat,
    Bool.false_eq_true, if_false]

theorem escape_short {mark byte : UInt8} (rest : Bytes) (unit : mark ≠ Ascii.letterU)
    (stands : shortEscape? mark = some byte) : escape (mark :: rest) = .ok ([byte], rest) := by
  rw [escape, stands]
  exact unit

theorem stringBytes_quote (fuel : Nat) (taken rest : Bytes) :
    stringBytes (fuel + 1) taken (Ascii.quote :: rest) = .ok (taken.reverse, rest) := rfl

theorem stringBytes_escape (fuel : Nat) (taken rest : Bytes) {written after : Bytes}
    (read : escape rest = .ok (written, after)) :
    stringBytes (fuel + 1) taken (Ascii.backslash :: rest) =
      stringBytes fuel (written.reverse ++ taken) after := by
  have unfolded := stringBytes.eq_4 taken fuel rest
  rw [read] at unfolded
  rw [← List.reverseAux_eq]
  exact unfolded

theorem stringBytes_plain (fuel : Nat) (taken bytes rest : Bytes)
    (clear : ∀ byte ∈ bytes, Plain byte) :
    stringBytes (fuel + bytes.length) taken (bytes ++ rest) =
      stringBytes fuel (bytes.reverse ++ taken) rest := by
  induction bytes generalizing taken with
  | nil => rfl
  | cons byte bytes ih =>
    obtain ⟨above, quote, backslash⟩ := clear byte (by simp)
    have printable : ¬ byte < 0x20 := UInt8.not_lt.mpr above
    rw [List.length_cons, ← Nat.add_assoc, List.cons_append, stringBytes, if_neg printable,
      ih _ fun other member => clear other (List.mem_cons_of_mem _ member)]
    · simp
    · exact quote
    · exact backslash

/-- One written character is read as its bytes. The fuel that is left still covers what is left to
read. -/
private theorem stringBytes_character (letter : Char) (fuel : Nat) (taken rest : Bytes)
    (enough : (writtenChar letter).length ≤ fuel) :
    ∃ left, fuel ≤ left + (writtenChar letter).length ∧
      stringBytes fuel taken (writtenChar letter ++ rest) =
        stringBytes left ((String.utf8EncodeChar letter).reverse ++ taken) rest := by
  have spelling := writtenChar_spelling letter
  generalize writtenChar letter = bytes at enough spelling ⊢
  cases spelling with
  | plain clear =>
    obtain ⟨left, rfl⟩ := Nat.exists_eq_add_of_le' enough
    exact ⟨left, Nat.le_refl _, stringBytes_plain left taken _ rest clear⟩
  | short mark byte unit stands same =>
    obtain ⟨left, rfl⟩ := Nat.exists_eq_add_of_le' (Nat.le_trans (by simp) enough : 1 ≤ fuel)
    refine ⟨left, by simp, ?_⟩
    rw [same]
    exact stringBytes_escape left taken _ (escape_short rest unit stands)
  | unit control =>
    obtain ⟨left, rfl⟩ := Nat.exists_eq_add_of_le' (Nat.le_trans (by simp) enough : 1 ≤ fuel)
    exact ⟨left, by simp, stringBytes_escape left taken _ (escape_unit letter rest control)⟩

private theorem stringBytes_letters (letters : List Char) (fuel : Nat) (taken rest : Bytes)
    (enough : (letters.flatMap writtenChar).length < fuel) :
    stringBytes fuel taken (letters.flatMap writtenChar ++ Ascii.quote :: rest) =
      .ok (taken.reverse ++ letters.flatMap String.utf8EncodeChar, rest) := by
  induction letters generalizing fuel taken with
  | nil =>
    obtain ⟨fuel, rfl⟩ := Nat.exists_eq_add_of_lt enough
    simp [stringBytes_quote]
  | cons letter letters ih =>
    simp only [List.flatMap_cons, List.length_append] at enough
    obtain ⟨left, remaining, step⟩ := stringBytes_character letter fuel taken
      (letters.flatMap writtenChar ++ Ascii.quote :: rest) (by omega)
    rw [List.flatMap_cons, List.append_assoc, step, ih left _ (by omega)]
    simp

theorem stringText_of_bytes {rest after : Bytes} {text : String}
    (read : stringBytes (rest.length + 1) [] rest = .ok (encode text, after)) :
    stringText rest = .ok (text, after) := by
  simp [stringText, read, TextEncoding.decode_encode, bind, Except.bind]

/-- Behind its opening quote, a written string is read back up to its closing quote. -/
theorem stringText_written (text : String) (rest : Bytes) :
    stringText (text.toList.flatMap writtenChar ++ Ascii.quote :: rest) = .ok (text, rest) := by
  apply stringText_of_bytes
  rw [stringBytes_letters _ _ _ _ (by simp only [List.length_append, List.length_cons]; omega)]
  rfl

/-- A text whose bytes stand for themselves needs no escapes. -/
theorem stringText_plain (text : String) (rest : Bytes)
    (clear : ∀ byte ∈ encode text, Plain byte) :
    stringText (encode text ++ Ascii.quote :: rest) = .ok (text, rest) := by
  apply stringText_of_bytes
  have fuel : (encode text ++ Ascii.quote :: rest).length + 1 =
      (rest.length + 1) + 1 + (encode text).length := by
    simp only [List.length_append, List.length_cons]
    omega
  rw [fuel, stringBytes_plain _ _ _ _ clear, stringBytes_quote]
  simp

theorem writeText_append (text : String) (rest : Bytes) :
    writeText text ++ rest =
      Ascii.quote :: (text.toList.flatMap writtenChar ++ Ascii.quote :: rest) := by
  simp [writeText]

theorem text_written (expected text : String) (rest : Bytes) :
    Json.text expected (writeText text ++ rest) = .ok (text, rest) := by
  rw [writeText_append]
  exact stringText_written text rest

private theorem hexDigit_ascii {value : Nat} (small : value < 16) :
    Ascii.hexDigit value < 0x80 := by
  have all : ∀ value : Fin 16, Ascii.hexDigit value < 0x80 := by decide
  exact all ⟨value, small⟩

private theorem shortEscape_ascii {mark byte : UInt8} (stands : shortEscape? mark = some byte) :
    mark < 0x80 := by
  unfold shortEscape? at stands
  split at stands <;> first | decide | cases stands

theorem writtenChar_wellFormed (letter : Char) : TextEncoding.WellFormed (writtenChar letter) := by
  have spelling := writtenChar_spelling letter
  generalize writtenChar letter = bytes at spelling
  cases spelling with
  | plain clear => exact TextEncoding.wellFormed_character letter
  | short mark byte unit stands same =>
    have backslash : Ascii.backslash < 0x80 := by decide
    apply TextEncoding.wellFormed_asciis
    simpa [shortEscape_ascii stands] using backslash
  | unit control =>
    have marks : Ascii.backslash < 0x80 ∧ Ascii.letterU < 0x80 ∧ Ascii.zero < 0x80 := by decide
    apply TextEncoding.wellFormed_asciis
    simpa [hexDigit_ascii (show letter.toNat / 16 < 16 by omega),
      hexDigit_ascii (show letter.toNat % 16 < 16 by omega)] using marks

theorem writeText_wellFormed (text : String) : TextEncoding.WellFormed (writeText text) := by
  have quote : TextEncoding.WellFormed [Ascii.quote] := TextEncoding.wellFormed_ascii _ (by decide)
  have inside : TextEncoding.WellFormed (text.toList.flatMap writtenChar) :=
    TextEncoding.wellFormed_flatMap fun letter _ => writtenChar_wellFormed letter
  exact (quote.append inside).append quote

private theorem hexDigit_unbroken {value : Nat} (small : value < 16) :
    Ascii.lineFeed ≠ Ascii.hexDigit value := by
  have all : ∀ value : Fin 16, Ascii.lineFeed ≠ Ascii.hexDigit value := by decide
  exact all ⟨value, small⟩

theorem writtenChar_unbroken (letter : Char) : Ascii.lineFeed ∉ writtenChar letter := by
  have spelling := writtenChar_spelling letter
  generalize writtenChar letter = bytes at spelling
  intro breaks
  cases spelling with
  | plain clear => exact absurd (clear _ breaks).1 (by decide)
  | short mark byte unit stands same =>
    simp only [List.mem_cons, List.not_mem_nil, or_false] at breaks
    rcases breaks with breaks | rfl
    · exact absurd breaks (by decide)
    · cases stands
  | unit control =>
    have high := hexDigit_unbroken (show letter.toNat / 16 < 16 by omega)
    have low := hexDigit_unbroken (show letter.toNat % 16 < 16 by omega)
    simp only [List.mem_cons, List.not_mem_nil, high, low, or_false] at breaks
    exact absurd breaks (by decide)

/-- A line feed in a text is escaped. -/
theorem writeText_unbroken (text : String) : Ascii.lineFeed ∉ writeText text := by
  simp [writeText, writtenChar_unbroken, show Ascii.lineFeed ≠ Ascii.quote by decide]

end StreamBridge.Proofs.JsonStrings
