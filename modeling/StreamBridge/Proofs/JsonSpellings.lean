import StreamBridge.Proofs.JsonGrammar
import StreamBridge.Proofs.TextDecoding

/-! Reading strings in any spelling. A string is read exactly as the text it spells, and one that
spells no text is refused; a string that is skipped need not spell one. -/

namespace StreamBridge.Proofs.JsonSpellings
open Json JsonStrings JsonGrammar

/-! ### Escapes -/

theorem hexValue_digit {byte : UInt8} {value : Nat} (digit : HexDigit byte value) :
    Ascii.hexValue? byte = some value := by
  cases digit with
  | decimal small =>
    have all : ∀ value : Fin 10,
      Ascii.hexValue? (UInt8.ofNat (0x30 + value)) = some value.val := by decide
    exact all ⟨_, small⟩
  | upper small =>
    have all : ∀ value : Fin 6,
      Ascii.hexValue? (UInt8.ofNat (0x41 + value)) = some (10 + value.val) := by decide
    exact all ⟨_, small⟩
  | lower small =>
    have all : ∀ value : Fin 6,
      Ascii.hexValue? (UInt8.ofNat (0x61 + value)) = some (10 + value.val) := by decide
    exact all ⟨_, small⟩

theorem hexUnit_digits {digits : Bytes} {code : Nat} (hex : HexUnit digits code) (rest : Bytes) :
    hexUnit (digits ++ rest) = .ok (code, rest) := by
  cases hex with
  | digits one two three four =>
    simp only [hexUnit, List.cons_append, List.nil_append, hexValue_digit one, hexValue_digit two,
      hexValue_digit three, hexValue_digit four]

theorem shortEscape_listed {mark byte : UInt8} (listed : (mark, byte) ∈ shortEscapes) :
    shortEscape? mark = some byte ∧ mark ≠ Ascii.letterU := by
  have all : shortEscapes.all fun escape =>
    shortEscape? escape.1 = some escape.2 ∧ escape.1 ≠ Ascii.letterU := by decide
  exact of_decide_eq_true (List.all_eq_true.mp all _ listed)

theorem code_range (letter : Char) :
    letter.toNat < 0xd800 ∨ (0xdfff < letter.toNat ∧ letter.toNat < 0x110000) := letter.valid

theorem unitEscape_letter {letter : Char} {digits : Bytes} (hex : HexUnit digits letter.toNat)
    (rest : Bytes) : unitEscape (digits ++ rest) = .ok (String.utf8EncodeChar letter, rest) := by
  have range := code_range letter
  have leading : isLeading letter.toNat = false := by
    simp only [isLeading, Bool.and_eq_false_iff, decide_eq_false_iff_not]
    omega
  have trailing : isTrailing letter.toNat = false := by
    simp only [isTrailing, Bool.and_eq_false_iff, decide_eq_false_iff_not]
    omega
  simp only [unitEscape, hexUnit_digits hex, bind, Except.bind, leading, trailing, codePoint,
    Char.ofNat_toNat, Bool.false_eq_true, if_false]

theorem pairedUnit_unit (leading : Nat) {digits : Bytes} {code : Nat} (hex : HexUnit digits code)
    (rest : Bytes) :
    pairedUnit leading (Ascii.backslash :: Ascii.letterU :: (digits ++ rest)) =
      if isTrailing code then
        .ok (codePoint (0x10000 + (leading - 0xd800) * 0x400 + (code - 0xdc00)), rest)
      else refuse .loneSurrogate rest := by
  have unfolded := pairedUnit.eq_2 leading (digits ++ rest)
  rw [hexUnit_digits hex] at unfolded
  exact unfolded

theorem unitEscape_pair {letter : Char} {high low : Bytes} (beyond : 0x10000 ≤ letter.toNat)
    (leading : HexUnit high (0xd800 + (letter.toNat - 0x10000) / 0x400))
    (trailing : HexUnit low (0xdc00 + (letter.toNat - 0x10000) % 0x400)) (rest : Bytes) :
    unitEscape (high ++ Ascii.backslash :: Ascii.letterU :: (low ++ rest)) =
      .ok (String.utf8EncodeChar letter, rest) := by
  have range := code_range letter
  have first : isTrailing (0xd800 + (letter.toNat - 0x10000) / 0x400) = false ∧
      isLeading (0xd800 + (letter.toNat - 0x10000) / 0x400) = true := by
    simp only [isTrailing, isLeading, Bool.and_eq_false_iff, Bool.and_eq_true, decide_eq_true_eq,
      decide_eq_false_iff_not]
    omega
  have second : isTrailing (0xdc00 + (letter.toNat - 0x10000) % 0x400) = true := by
    simp only [isTrailing, Bool.and_eq_true, decide_eq_true_eq]
    omega
  have code : 0x10000 + (0xd800 + (letter.toNat - 0x10000) / 0x400 - 0xd800) * 0x400 +
      (0xdc00 + (letter.toNat - 0x10000) % 0x400 - 0xdc00) = letter.toNat := by omega
  simp only [unitEscape, hexUnit_digits leading, bind, Except.bind, first.1, first.2,
    Bool.false_eq_true, if_false, if_true, pairedUnit_unit _ trailing, second, code, codePoint,
    Char.ofNat_toNat]

theorem stringBytes_denotes {body bytes : Bytes} (denotes : Denotes body bytes) (fuel : Nat)
    (taken rest : Bytes) (enough : body.length < fuel) :
    stringBytes fuel taken (body ++ Ascii.quote :: rest) = .ok (taken.reverse ++ bytes, rest) := by
  induction denotes generalizing fuel taken with
  | nothing =>
    obtain ⟨fuel, rfl⟩ := Nat.exists_eq_add_of_lt enough
    simp [stringBytes_quote]
  | @plain byte body bytes clear more ih =>
    obtain ⟨fuel, rfl⟩ : ∃ fewer, fuel = fewer + 1 := Nat.exists_eq_add_of_le' (by omega)
    have step := stringBytes_plain fuel taken [byte] (body ++ Ascii.quote :: rest) (by simpa)
    simp only [List.length_singleton, List.singleton_append, List.reverse_singleton] at step
    simp only [List.length_cons] at enough
    rw [List.cons_append, step, ih fuel _ (by omega)]
    simp
  | @short mark byte body bytes listed more ih =>
    obtain ⟨fuel, rfl⟩ : ∃ fewer, fuel = fewer + 1 := Nat.exists_eq_add_of_le' (by omega)
    obtain ⟨stands, unit⟩ := shortEscape_listed listed
    simp only [List.length_cons] at enough
    rw [List.cons_append, List.cons_append,
      stringBytes_escape fuel taken _ (escape_short _ unit stands), ih fuel _ (by omega)]
    simp
  | @unit digits body bytes letter hex more ih =>
    obtain ⟨fuel, rfl⟩ : ∃ fewer, fuel = fewer + 1 := Nat.exists_eq_add_of_le' (by omega)
    have read : escape (Ascii.letterU :: (digits ++ (body ++ Ascii.quote :: rest))) = _ :=
      unitEscape_letter hex (body ++ Ascii.quote :: rest)
    simp only [List.length_cons, List.length_append] at enough
    simp only [List.cons_append, List.append_assoc]
    rw [stringBytes_escape fuel taken _ read, ih fuel _ (by omega)]
    simp
  | @pair high low body bytes letter beyond leading trailing more ih =>
    obtain ⟨fuel, rfl⟩ : ∃ fewer, fuel = fewer + 1 := Nat.exists_eq_add_of_le' (by omega)
    have read : escape (Ascii.letterU :: (high ++ Ascii.backslash :: Ascii.letterU ::
        (low ++ (body ++ Ascii.quote :: rest)))) = _ :=
      unitEscape_pair beyond leading trailing (body ++ Ascii.quote :: rest)
    simp only [List.length_cons, List.length_append] at enough
    simp only [List.cons_append, List.append_assoc]
    rw [stringBytes_escape fuel taken _ read, ih fuel _ (by omega)]
    simp

/-- Between quotes, whatever spells a text is read as it. -/
theorem stringText_spelled {text : String} {body : Bytes} (spelled : Spelled text body)
    (rest : Bytes) : stringText (body ++ Ascii.quote :: rest) = .ok (text, rest) := by
  apply stringText_of_bytes
  exact stringBytes_denotes spelled _ [] rest
    (by simp only [List.length_append, List.length_cons]; omega)

theorem spelled_unique {text other : String} {body : Bytes} (spelled : Spelled text body)
    (again : Spelled other body) : text = other := by
  have read := stringText_spelled spelled []
  rw [stringText_spelled again []] at read
  exact (Prod.mk.inj (Except.ok.inj read)).1.symm

/-! ### Strings that are skipped -/

theorem skipEscape_short {mark byte : UInt8} (listed : (mark, byte) ∈ shortEscapes)
    (rest : Bytes) : skipEscape (mark :: rest) = .ok rest := by
  obtain ⟨stands, unit⟩ := shortEscape_listed listed
  rw [skipEscape, stands]
  · rfl
  · exact unit

theorem skipEscape_unit {digits : Bytes} {code : Nat} (hex : HexUnit digits code) (rest : Bytes) :
    skipEscape (Ascii.letterU :: (digits ++ rest)) = .ok rest := by
  have unfolded := skipEscape.eq_2 (digits ++ rest)
  rw [hexUnit_digits hex] at unfolded
  exact unfolded

theorem skipString_escape (fuel : Nat) {rest after : Bytes} (skips : skipEscape rest = .ok after) :
    skipString (fuel + 1) (Ascii.backslash :: rest) = skipString fuel after := by
  have unfolded := skipString.eq_4 fuel rest
  rw [skips] at unfolded
  exact unfolded

/-- A string is skipped up to its closing quote, whether or not it spells a text. -/
theorem skipString_inside {body : Bytes} (inside : Inside body) (fuel : Nat) (rest : Bytes)
    (enough : body.length < fuel) :
    skipString fuel (body ++ Ascii.quote :: rest) = .ok rest := by
  induction inside generalizing fuel with
  | nothing =>
    obtain ⟨fuel, rfl⟩ := Nat.exists_eq_add_of_lt enough
    rfl
  | plain clear more ih =>
    obtain ⟨fuel, rfl⟩ : ∃ fewer, fuel = fewer + 1 := Nat.exists_eq_add_of_le' (by omega)
    simp only [List.length_cons] at enough
    rw [List.cons_append, skipString, if_neg (UInt8.not_lt.mpr clear.1), ih fuel (by omega)]
    · exact clear.2.1
    · exact clear.2.2
  | short listed more ih =>
    obtain ⟨fuel, rfl⟩ : ∃ fewer, fuel = fewer + 1 := Nat.exists_eq_add_of_le' (by omega)
    simp only [List.length_cons] at enough
    rw [List.cons_append, List.cons_append, skipString_escape fuel (skipEscape_short listed _),
      ih fuel (by omega)]
  | unit hex more ih =>
    obtain ⟨fuel, rfl⟩ : ∃ fewer, fuel = fewer + 1 := Nat.exists_eq_add_of_le' (by omega)
    simp only [List.length_cons, List.length_append] at enough
    simp only [List.cons_append, List.append_assoc]
    rw [skipString_escape fuel (skipEscape_unit hex _), ih fuel (by omega)]

end StreamBridge.Proofs.JsonSpellings
