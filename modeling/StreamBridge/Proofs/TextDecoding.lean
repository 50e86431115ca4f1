import StreamBridge.Proofs.TextEncoding

/-! The strict reader of UTF-8 accepts nothing but what is written for a text. A character that is
taken off the front stood there in its only spelling, so a text that was read is written back as the
same bytes. -/

namespace StreamBridge.Proofs.TextDecoding
open Utf8 TextEncoding

/-- A byte that may follow is in its range, and its bits are added to those before it. -/
theorem follow_more {bits width following : Nat} {low high : UInt8} {bytes rest : Bytes}
    {value : Char}
    (reads : follow bits width (following + 1) low high bytes = .char value rest) :
    ∃ byte more, bytes = byte :: more ∧ low.toNat ≤ byte.toNat ∧ byte.toNat ≤ high.toNat ∧
      follow (bits * 64 + (byte.toNat - 0x80)) (width + 1) following 0x80 0xbf more =
        .char value rest := by
  cases bytes with
  | nil => cases reads
  | cons byte more =>
    rw [follow] at reads
    split at reads
    next inside =>
      simp only [Bool.and_eq_true, decide_eq_true_eq] at inside
      exact ⟨byte, more, rfl, UInt8.le_iff_toNat_le.mp inside.1,
        UInt8.le_iff_toNat_le.mp inside.2, reads⟩
    next => cases reads

theorem follow_last {bits width : Nat} {low high : UInt8} {bytes rest : Bytes} {value : Char}
    (reads : follow bits width 0 low high bytes = .char value rest) :
    value = Char.ofNat bits ∧ rest = bytes := by
  cases reads
  exact ⟨rfl, rfl⟩

/-- A lead byte announces what its range says. The range of the first byte after it is narrower
where the full one would admit overlong forms, surrogates or codes past the last. -/
theorem lead_cases {byte : UInt8} {lead : Lead} (announced : lead? byte = some lead) :
    (0xc2 ≤ byte.toNat ∧ byte.toNat ≤ 0xdf ∧ lead = ⟨byte.toNat - 0xc0, 1, 0x80, 0xbf⟩) ∨
    (0xe0 ≤ byte.toNat ∧ byte.toNat ≤ 0xef ∧ ∃ low high : UInt8,
      lead = ⟨byte.toNat - 0xe0, 2, low, high⟩ ∧ 0x80 ≤ low.toNat ∧ high.toNat ≤ 0xbf ∧
      (byte.toNat = 0xe0 → 0xa0 ≤ low.toNat) ∧ (byte.toNat = 0xed → high.toNat ≤ 0x9f)) ∨
    (0xf0 ≤ byte.toNat ∧ byte.toNat ≤ 0xf4 ∧ ∃ low high : UInt8,
      lead = ⟨byte.toNat - 0xf0, 3, low, high⟩ ∧ 0x80 ≤ low.toNat ∧ high.toNat ≤ 0xbf ∧
      (byte.toNat = 0xf0 → 0x90 ≤ low.toNat) ∧ (byte.toNat = 0xf4 → high.toNat ≤ 0x8f)) := by
  have none_outside : ∀ code : Fin 256, (lead? (UInt8.ofNat code)).isSome = true →
      0xc2 ≤ code.val ∧ code.val ≤ 0xf4 := by decide +kernel
  have range : 0xc2 ≤ byte.toNat ∧ byte.toNat ≤ 0xf4 := by
    refine none_outside ⟨byte.toNat, byte.toNat_lt⟩ ?_
    rw [UInt8.ofNat_toNat, announced]
    rfl
  obtain two | three | four : byte.toNat ≤ 0xdf ∨ (0xe0 ≤ byte.toNat ∧ byte.toNat ≤ 0xef) ∨
      0xf0 ≤ byte.toNat := by omega
  · have found := lead_two byte.toNat range.1 two
    rw [UInt8.ofNat_toNat, announced] at found
    exact .inl ⟨range.1, two, Option.some.inj found⟩
  · have found := lead_three byte.toNat three.1 three.2
    rw [UInt8.ofNat_toNat, announced] at found
    refine .inr (.inl ⟨three.1, three.2, _, _, Option.some.inj found, ?_, ?_, ?_, ?_⟩)
    · split <;> decide
    · split <;> decide
    · exact fun overlong => by rw [if_pos overlong]; decide
    · exact fun surrogate => by rw [if_pos surrogate]; decide
  · have found := lead_four byte.toNat four range.2
    rw [UInt8.ofNat_toNat, announced] at found
    refine .inr (.inr ⟨four, range.2, _, _, Option.some.inj found, ?_, ?_, ?_, ?_⟩)
    · split <;> decide
    · split <;> decide
    · exact fun overlong => by rw [if_pos overlong]; decide
    · exact fun last => by rw [if_pos last]; decide

theorem val_ofNat {code : Nat} (valid : code.isValidChar) : (Char.ofNat code).val.toNat = code := by
  rw [Char.ofNat, dif_pos valid]
  rfl

/-- The bytes of a code, by the four lengths. -/
theorem encodeChar_code {code : Nat} (valid : code.isValidChar) :
    String.utf8EncodeChar (Char.ofNat code) =
      if code ≤ 0x7f then [UInt8.ofNat code]
      else if code ≤ 0x7ff then
        [UInt8.ofNat (code / 64 % 32 + 0xc0), UInt8.ofNat (code % 64 + 0x80)]
      else if code ≤ 0xffff then
        [UInt8.ofNat (code / 4096 % 16 + 0xe0), UInt8.ofNat (code / 64 % 64 + 0x80),
          UInt8.ofNat (code % 64 + 0x80)]
      else
        [UInt8.ofNat (code / 262144 % 8 + 0xf0), UInt8.ofNat (code / 4096 % 64 + 0x80),
          UInt8.ofNat (code / 64 % 64 + 0x80), UInt8.ofNat (code % 64 + 0x80)] := by
  simp only [String.utf8EncodeChar, val_ofNat valid]

theorem ofNat_byte {code : Nat} (byte : UInt8) (same : code = byte.toNat) :
    UInt8.ofNat code = byte := by
  rw [same, UInt8.ofNat_toNat]

/-- A character that is taken off the front stood there in its only spelling. -/
theorem front_char {bytes rest : Bytes} {value : Char} (reads : front bytes = .char value rest) :
    bytes = String.utf8EncodeChar value ++ rest := by
  cases bytes with
  | nil => cases reads
  | cons byte more =>
    by_cases ascii : byte < 0x80
    · rw [front_ascii byte more ascii] at reads
      cases reads
      have small : byte.toNat < 0x80 := UInt8.lt_iff_toNat_lt.mp ascii
      rw [encodeChar_code (.inl (by omega)), if_pos (by omega), ofNat_byte byte rfl,
        List.singleton_append]
    simp only [front, ascii, if_false] at reads
    split at reads
    next => cases reads
    next lead announced =>
      obtain ⟨above, below, rfl⟩ |
        ⟨above, below, least, most, rfl, floor, ceiling, overlong, surrogate⟩ |
        ⟨above, below, least, most, rfl, floor, ceiling, overlong, last⟩ := lead_cases announced
      -- The ranges of the bytes leave one length for the code in each case, with these bytes.
      · obtain ⟨second, more, rfl, low, high, reads⟩ := follow_more reads
        obtain ⟨same, rfl⟩ := follow_last reads
        simp only [UInt8.reduceToNat] at low high
        dsimp only at same
        rw [same, encodeChar_code (.inl (by omega)), if_neg (by omega), if_pos (by omega),
          ofNat_byte byte (by omega), ofNat_byte second (by omega)]
        rfl
      · obtain ⟨second, more, rfl, low, high, reads⟩ := follow_more reads
        obtain ⟨third, more, rfl, low', high', reads⟩ := follow_more reads
        obtain ⟨same, rfl⟩ := follow_last reads
        simp only [UInt8.reduceToNat] at low high low' high'
        dsimp only at same
        rw [same, encodeChar_code (by unfold Nat.isValidChar; omega), if_neg (by omega),
          if_neg (by omega), if_pos (by omega),
          ofNat_byte byte (by omega), ofNat_byte second (by omega),
          ofNat_byte third (by omega)]
        rfl
      · obtain ⟨second, more, rfl, low, high, reads⟩ := follow_more reads
        obtain ⟨third, more, rfl, low', high', reads⟩ := follow_more reads
        obtain ⟨fourth, more, rfl, low'', high'', reads⟩ := follow_more reads
        obtain ⟨same, rfl⟩ := follow_last reads
        simp only [UInt8.reduceToNat] at low high low' high' low'' high''
        dsimp only at same
        rw [same, encodeChar_code (.inr (by omega)), if_neg (by omega),
          if_neg (by omega), if_neg (by omega),
          ofNat_byte byte (by omega), ofNat_byte second (by omega),
          ofNat_byte third (by omega), ofNat_byte fourth (by omega)]
        rfl

theorem follow_ne_done (bits width following : Nat) (low high : UInt8) (bytes : Bytes) :
    follow bits width following low high bytes ≠ .done := by
  induction following generalizing bits width low high bytes with
  | zero =>
    intro same
    cases same
  | succ following ih =>
    cases bytes with
    | nil =>
      intro same
      cases same
    | cons byte more =>
      rw [follow]
      split
      · exact ih _ _ _ _ _
      · intro same
        cases same

theorem front_done {bytes : Bytes} (reads : front bytes = .done) : bytes = [] := by
  cases bytes with
  | nil => rfl
  | cons byte more =>
    rw [front] at reads
    split at reads
    · cases reads
    split at reads
    · cases reads
    · exact absurd reads (follow_ne_done _ _ _ _ _ _)

theorem takePieces_taken (count : Nat) (taken : List Piece) (bytes : Bytes) :
    takePieces count taken bytes = taken.reverse ++ takePieces count [] bytes := by
  induction count generalizing taken bytes with
  | zero => simp [takePieces]
  | succ count ih =>
    cases found : front bytes with
    | done => simp [takePieces, found]
    | char value rest => simp [takePieces, found, ih (.char value :: taken), ih [.char value]]
    | invalid width rest =>
      simp [takePieces, found, ih (.invalid width :: taken), ih [.invalid width]]
    | incomplete width => simp [takePieces, found]

/-- Letters that are gathered from all pieces are written back as the bytes: each was taken off the
front in turn, and nothing but the end of the bytes stops the reading. -/
theorem gather_pieces {count index : Nat} {taken letters : List Char} {bytes : Bytes}
    (enough : bytes.length ≤ count)
    (gathers : gather index taken (takePieces count [] bytes) = .ok letters) :
    ∃ found, letters = taken.reverse ++ found ∧ found.flatMap String.utf8EncodeChar = bytes := by
  induction count generalizing index taken bytes with
  | zero =>
    cases gathers
    exact ⟨[], by simp, (List.length_eq_zero_iff.mp (by omega)).symm⟩
  | succ count ih =>
    rw [takePieces] at gathers
    split at gathers
    next ends =>
      cases gathers
      exact ⟨[], by simp, (front_done ends).symm⟩
    next value rest reads =>
      obtain rfl := front_char reads
      have shorter : rest.length ≤ count := by
        have written := value.utf8Size_pos
        rw [List.length_append, String.length_utf8EncodeChar] at enough
        omega
      rw [takePieces_taken] at gathers
      obtain ⟨found, rfl, rfl⟩ := ih shorter gathers
      exact ⟨value :: found, by simp, by simp⟩
    next =>
      rw [takePieces_taken] at gathers
      cases gathers
    next => cases gathers

/-- Bytes are read as a text exactly where they are those of the text. -/
theorem decode_eq_ok_iff {bytes : Bytes} {text : String} :
    decode bytes = .ok text ↔ encode text = bytes := by
  refine ⟨fun reads => ?_, fun same => same ▸ decode_encode text⟩
  rw [decode] at reads
  split at reads
  next letters gathers =>
    obtain ⟨found, rfl, written⟩ := gather_pieces (Nat.le_refl _) gathers
    cases reads
    simpa [encode] using written
  next => cases reads

/-- What the strict reader does with bytes tells whether they are those of a text. -/
theorem decode_cases (bytes : Bytes) :
    (WellFormed bytes ∧ ∃ text, decode bytes = .ok text) ∨
    (¬ WellFormed bytes ∧ ∃ fault, decode bytes = .error fault) := by
  cases reads : decode bytes with
  | ok text => exact .inl ⟨⟨text, decode_eq_ok_iff.mp reads⟩, text, rfl⟩
  | error fault =>
    refine .inr ⟨fun ⟨text, same⟩ => ?_, fault, rfl⟩
    rw [decode_eq_ok_iff.mpr same] at reads
    cases reads

end StreamBridge.Proofs.TextDecoding
