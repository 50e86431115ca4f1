import StreamBridge.Position
import StreamBridge.Proofs.JsonRecords
import StreamBridge.Proofs.MomentText

/-! Tokens carry positions without loss: whatever a position holds, its token is text, and reading
the token gives the position back. Different positions therefore have different tokens. -/

namespace StreamBridge.Proofs.PositionTokens
open Json JsonRecords

theorem reads_timestamp (moment : Timestamp) :
    Reads Position.readTimestamp (writeText moment.text) moment := by
  intro rest _
  have letters : moment.text.toList = moment.letters := by simp [Timestamp.text]
  simp only [Position.readTimestamp, JsonStrings.text_written, bind, Except.bind, letters,
    MomentText.read_letters]

theorem reads_textMember (name text : String) (store : Position.Draft → String → Position.Draft)
    (draft : Position.Draft) :
    Reads ((Position.textMember name store).read draft) (writeText text) (store draft text) := by
  intro rest _
  simp only [Position.textMember, JsonStrings.text_written, bind, Except.bind]

private theorem reads_moment (moment : Timestamp) (draft : Position.Draft) :
    Reads (fun rest => do
      let (value, rest) ← Position.readTimestamp rest
      .ok ({ draft with timestamp := some value }, rest))
      (writeText moment.text) { draft with timestamp := some moment } := by
  intro rest ends
  simp only [reads_timestamp moment rest ends, bind, Except.bind]

private theorem reads_next (next : UInt64) (draft : Position.Draft) :
    Reads (fun rest => do
      let (value, rest) ← word Decimal.maxWord "u64" rest
      .ok ({ draft with next := some value.toUInt64 }, rest))
      (writeNatural next.toNat) { draft with next := some next } := by
  intro rest ends
  have fits : next.toNat ≤ Decimal.maxWord := Nat.le_of_lt_succ next.toNat_lt
  have read := reads_word Decimal.maxWord next.toNat "u64" fits fits rest ends
  have same : next.toNat.toUInt64 = next := UInt64.ofNat_toNat
  simp only [read, bind, Except.bind, same]

/-- The members of a written position fill its draft one after another. -/
theorem position_fills (position : Position) :
    Fills Position.shape.members [] Position.shape.start
      [("durable", writeText position.durable), ("stream", writeText position.stream),
        ("subject", writeText position.subject), ("timestamp", writeText position.timestamp.text),
        ("opt_seq", writeNatural position.next.toNat)]
      ⟨some position.durable, some position.stream, some position.subject,
        some position.timestamp, some position.next⟩ := by
  refine .member _ rfl rfl (reads_textMember _ _ _ _) ?_
  refine .member _ rfl rfl (reads_textMember _ _ _ _) ?_
  refine .member _ rfl rfl (reads_textMember _ _ _ _) ?_
  refine .member _ rfl rfl (reads_moment _ _) ?_
  refine .member _ rfl rfl (reads_next _ _) ?_
  exact .done

/-- A written position is read back wherever it stands. -/
theorem reads_position (position : Position) :
    Reads Position.shape.read position.encode.bytes position :=
  read_filled Position.shape (position_fills position) rfl

theorem encode_nonempty (position : Position) : position.encode.bytes ≠ [] := by
  simp [Position.encode, writeObject]

theorem decode_encode (position : Position) : Position.decode position.encode = .ok position := by
  have filled : position.encode.bytes.isEmpty = false :=
    List.isEmpty_eq_false_iff.mpr (encode_nonempty position)
  rw [Position.decode, if_neg (by simp [filled])]
  exact readAll_reads (reads_position position)

/-- No two positions share a token. -/
theorem encode_injective {left right : Position} (same : left.encode = right.encode) :
    left = right := by
  have read := decode_encode left
  rw [same, decode_encode right] at read
  exact (Except.ok.inj read).symm

/-- A written position is text, so displaying its token loses nothing. -/
theorem encode_wellFormed (position : Position) :
    TextEncoding.WellFormed position.encode.bytes := by
  refine writeObject_wellFormed fun member present => ?_
  simp only [List.mem_cons, List.not_mem_nil, or_false] at present
  obtain rfl | rfl | rfl | rfl | rfl := present
  · exact JsonStrings.writeText_wellFormed _
  · exact JsonStrings.writeText_wellFormed _
  · exact JsonStrings.writeText_wellFormed _
  · exact JsonStrings.writeText_wellFormed _
  · exact JsonNumbers.writeNatural_wellFormed _

theorem ofText_display (position : Position) :
    Token.ofText position.encode.display = position.encode :=
  congrArg Token.mk (encode_wellFormed position).text.2

end StreamBridge.Proofs.PositionTokens
