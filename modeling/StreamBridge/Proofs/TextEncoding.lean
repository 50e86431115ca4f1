import StreamBridge.Text.Utf8

/-! What is written as UTF-8 is read back, strictly and leniently. The reader takes one character
off the front at a time, so a text is recovered letter by letter whatever follows it. -/

namespace StreamBridge.Proofs.TextEncoding
open Utf8

private theorem le_ofNat {low : UInt8} {value : Nat} (small : value < 256) :
    low ≤ UInt8.ofNat value ↔ low.toNat ≤ value := by
  rw [UInt8.le_iff_toNat_le, UInt8.toNat_ofNat', Nat.mod_eq_of_lt small]

private theorem ofNat_le {high : UInt8} {value : Nat} (small : value < 256) :
    UInt8.ofNat value ≤ high ↔ value ≤ high.toNat := by
  rw [UInt8.le_iff_toNat_le, UInt8.toNat_ofNat', Nat.mod_eq_of_lt small]

private theorem ofNat_lt {high : UInt8} {value : Nat} (small : value < 256) :
    UInt8.ofNat value < high ↔ value < high.toNat := by
  rw [UInt8.lt_iff_toNat_lt, UInt8.toNat_ofNat', Nat.mod_eq_of_lt small]

private theorem ofNat_beq {byte : UInt8} {value : Nat} (small : value < 256) :
    (UInt8.ofNat value == byte) = decide (value = byte.toNat) := by
  have same : UInt8.ofNat value = byte ↔ value = byte.toNat := by
    rw [← UInt8.toNat_inj, UInt8.toNat_ofNat', Nat.mod_eq_of_lt small]
  by_cases equal : value = byte.toNat
  · simp [equal]
  · simp [equal, same]

theorem follow_byte (bits width following value : Nat) (low high : UInt8) (rest : Bytes)
    (above : low.toNat ≤ value) (below : value ≤ high.toNat) (small : value < 256) :
    follow bits width (following + 1) low high (UInt8.ofNat value :: rest) =
      follow (bits * 64 + (value - 0x80)) (width + 1) following 0x80 0xbf rest := by
  have inside : (decide (low ≤ UInt8.ofNat value) && decide (UInt8.ofNat value ≤ high)) = true := by
    simp [le_ofNat small, ofNat_le small, above, below]
  simp only [follow, inside, if_true, UInt8.toNat_ofNat', Nat.mod_eq_of_lt small]

theorem lead_two (value : Nat) (above : 0xc2 ≤ value) (below : value ≤ 0xdf) :
    lead? (UInt8.ofNat value) = some ⟨value - 0xc0, 1, 0x80, 0xbf⟩ := by
  have small : value < 256 := by omega
  simp [lead?, le_ofNat small, ofNat_le small, above, below, Nat.mod_eq_of_lt small]

/-- The first continuation byte of three is held above the overlong forms and below the
surrogates. -/
theorem lead_three (value : Nat) (above : 0xe0 ≤ value) (below : value ≤ 0xef) :
    lead? (UInt8.ofNat value) = some ⟨value - 0xe0, 2, if value = 0xe0 then 0xa0 else 0x80,
      if value = 0xed then 0x9f else 0xbf⟩ := by
  have small : value < 256 := by omega
  have first : ¬ (0xc2 ≤ value ∧ value ≤ 0xdf) := by omega
  by_cases lowest : value = 0xe0
  · subst lowest; rfl
  by_cases surrogate : value = 0xed
  · subst surrogate; rfl
  have third : 0xe1 ≤ value := by omega
  simp [lead?, le_ofNat small, ofNat_le small, ofNat_beq small, first, lowest, surrogate, third,
    below, Nat.mod_eq_of_lt small]

/-- The first continuation byte of four is held above the overlong forms and below the end of the
code space. -/
theorem lead_four (value : Nat) (above : 0xf0 ≤ value) (below : value ≤ 0xf4) :
    lead? (UInt8.ofNat value) = some ⟨value - 0xf0, 3, if value = 0xf0 then 0x90 else 0x80,
      if value = 0xf4 then 0x8f else 0xbf⟩ := by
  have cases : value = 0xf0 ∨ value = 0xf1 ∨ value = 0xf2 ∨ value = 0xf3 ∨ value = 0xf4 := by omega
  rcases cases with rfl | rfl | rfl | rfl | rfl <;> rfl

theorem front_ascii (byte : UInt8) (rest : Bytes) (small : byte < 0x80) :
    front (byte :: rest) = .char (Char.ofNat byte.toNat) rest := by
  simp [front, small]

theorem front_lead (value : Nat) (lead : Lead) (rest : Bytes) (above : 0x80 ≤ value)
    (small : value < 256) (announced : lead? (UInt8.ofNat value) = some lead) :
    front (UInt8.ofNat value :: rest) =
      follow lead.bits 1 lead.following lead.low lead.high rest := by
  have wide : ¬ UInt8.ofNat value < 0x80 := by
    rw [ofNat_lt small]
    exact Nat.not_lt.mpr above
  simp only [front, wide, if_false, announced]

theorem code_valid (letter : Char) :
    letter.val.toNat < 0xd800 ∨ 0xdfff < letter.val.toNat ∧ letter.val.toNat < 0x110000 :=
  letter.valid

private theorem ofNat_code (letter : Char) (code : Nat) (same : code = letter.val.toNat) :
    Char.ofNat code = letter := by
  subst same
  exact Char.ofNat_toNat letter

/-- The reader takes exactly one character off the bytes that were written for it. The four lengths
of a written character are treated in turn; the ranges of the first continuation byte are those
that the code space without the surrogates leaves. -/
theorem front_character (letter : Char) (rest : Bytes) :
    front (String.utf8EncodeChar letter ++ rest) = .char letter rest := by
  have valid := code_valid letter
  simp only [String.utf8EncodeChar]
  generalize code : letter.val.toNat = value at valid ⊢
  split
  next one =>
    have small : UInt8.ofNat value < 0x80 := by
      rw [ofNat_lt (by omega)]
      exact Nat.lt_succ_of_le one
    rw [List.singleton_append, front_ascii _ _ small, UInt8.toNat_ofNat',
      Nat.mod_eq_of_lt (by omega), ofNat_code letter value code.symm]
  next notOne =>
  split
  next two =>
    simp only [List.cons_append, List.nil_append]
    rw [front_lead _ _ _ (by omega) (by omega) (lead_two _ (by omega) (by omega)),
      follow_byte _ _ _ _ _ _ _ (by simp) (by simp; omega) (by omega)]
    simp only [follow]
    rw [ofNat_code letter _ (by omega)]
  next notTwo =>
  split
  next three =>
    simp only [List.cons_append, List.nil_append]
    rw [front_lead _ _ _ (by omega) (by omega) (lead_three _ (by omega) (by omega)),
      follow_byte _ _ _ _ _ _ _ (by dsimp only; split <;> simp; omega)
        (by dsimp only; split <;> simp <;> omega) (by omega),
      follow_byte _ _ _ _ _ _ _ (by simp) (by simp; omega) (by omega)]
    simp only [follow]
    rw [ofNat_code letter _ (by omega)]
  next notThree =>
    simp only [List.cons_append, List.nil_append]
    rw [front_lead _ _ _ (by omega) (by omega) (lead_four _ (by omega) (by omega)),
      follow_byte _ _ _ _ _ _ _ (by dsimp only; split <;> simp; omega)
        (by dsimp only; split <;> simp <;> omega) (by omega),
      follow_byte _ _ _ _ _ _ _ (by simp) (by simp; omega) (by omega),
      follow_byte _ _ _ _ _ _ _ (by simp) (by simp; omega) (by omega)]
    simp only [follow]
    rw [ofNat_code letter _ (by omega)]

private theorem takePieces_letters (letters : List Char) (count : Nat) (taken : List Piece)
    (enough : letters.length ≤ count) :
    takePieces count taken (letters.flatMap String.utf8EncodeChar) =
      taken.reverse ++ letters.map .char := by
  induction letters generalizing count taken with
  | nil => cases count <;> simp [takePieces, front]
  | cons letter letters ih =>
    obtain ⟨count, rfl⟩ : ∃ fewer, count = fewer + 1 :=
      Nat.exists_eq_add_of_le' (Nat.le_trans (by simp) enough)
    rw [List.flatMap_cons, takePieces, front_character]
    simp only
    rw [ih count _ (by simpa using enough)]
    simp

theorem length_le_encode (text : String) : text.toList.length ≤ (encode text).length := by
  unfold encode
  induction text.toList with
  | nil => simp
  | cons letter letters ih =>
    have written := letter.utf8Size_pos
    simp only [List.flatMap_cons, List.length_append, List.length_cons,
      String.length_utf8EncodeChar]
    omega

theorem pieces_encode (text : String) : pieces (encode text) = text.toList.map .char :=
  takePieces_letters text.toList _ [] (length_le_encode text)

private theorem gather_letters (letters : List Char) (index : Nat) (taken : List Char) :
    gather index taken (letters.map .char) = .ok (taken.reverse ++ letters) := by
  induction letters generalizing index taken with
  | nil => simp [gather]
  | cons letter letters ih => simp [gather, ih]

/-- Reading what was written gives the text back. -/
theorem decode_encode (text : String) : decode (encode text) = .ok text := by
  simp [decode, pieces_encode, gather_letters]

theorem decodeLossy_encode (text : String) : decodeLossy (encode text) = text := by
  have same : Piece.lenient ∘ Piece.char = id := rfl
  simp [decodeLossy, pieces_encode, same]

/-- Bytes that are those of some text. -/
def WellFormed (bytes : Bytes) : Prop := ∃ text, encode text = bytes

theorem WellFormed.append {first second : Bytes} (left : WellFormed first)
    (right : WellFormed second) : WellFormed (first ++ second) := by
  obtain ⟨front, rfl⟩ := left
  obtain ⟨back, rfl⟩ := right
  exact ⟨front ++ back, by simp [encode]⟩

theorem wellFormed_character (letter : Char) : WellFormed (String.utf8EncodeChar letter) :=
  ⟨String.ofList [letter], by simp [encode]⟩

private theorem encodeChar_ascii (byte : UInt8) (small : byte < 0x80) :
    String.utf8EncodeChar (Char.ofNat byte.toNat) = [byte] := by
  have all : ∀ code : Fin 128, String.utf8EncodeChar (Char.ofNat code) = [UInt8.ofNat code] := by
    decide
  have found := all ⟨byte.toNat, UInt8.lt_iff_toNat_lt.mp small⟩
  rwa [UInt8.ofNat_toNat] at found

theorem wellFormed_ascii (byte : UInt8) (small : byte < 0x80) : WellFormed [byte] := by
  rw [← encodeChar_ascii byte small]
  exact wellFormed_character _

theorem wellFormed_flatMap {α : Type} {parts : List α} {write : α → Bytes}
    (each : ∀ part ∈ parts, WellFormed (write part)) : WellFormed (parts.flatMap write) := by
  induction parts with
  | nil => exact ⟨"", rfl⟩
  | cons part parts ih =>
    rw [List.flatMap_cons]
    exact (each part (by simp)).append
      (ih fun other member => each other (List.mem_cons_of_mem _ member))

theorem wellFormed_asciis {bytes : Bytes} (small : ∀ byte ∈ bytes, byte < 0x80) :
    WellFormed bytes := by
  have each : WellFormed (bytes.flatMap fun byte => [byte]) :=
    wellFormed_flatMap fun byte member => wellFormed_ascii byte (small byte member)
  simpa using each

/-- Well-formed bytes are read as one text by both readers, and that text has these bytes. -/
theorem WellFormed.text {bytes : Bytes} (wellFormed : WellFormed bytes) :
    decode bytes = .ok (decodeLossy bytes) ∧ encode (decodeLossy bytes) = bytes := by
  obtain ⟨text, rfl⟩ := wellFormed
  rw [decodeLossy_encode]
  exact ⟨decode_encode text, rfl⟩

end StreamBridge.Proofs.TextEncoding
