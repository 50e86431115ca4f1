import StreamBridge.Json.Value
import StreamBridge.Relay.Line
import StreamBridge.Proofs.PositionTokens

/-! The line of a record is a JSON object of three strings, for any reader of JSON: nothing is
assumed about what the line was made for. Its position is the record's token as it is displayed. -/

namespace StreamBridge.Proofs.RecordLine
open Json JsonStrings JsonNumbers JsonRecords TextEncoding

/-- A member of an object: its name, how its value is written, and the value. -/
abbrev Written := String × Bytes × Value

def spelled (members : List Written) : List (String × Bytes) :=
  members.map fun (name, written, _) => (name, written)

def meant (members : List Written) : List (String × Value) :=
  members.map fun (name, _, value) => (name, value)

theorem valueMembers_read {inner : Reader Value} {members : List Written}
    (each : ∀ member ∈ members, Reads inner member.2.1 member.2.2) (first : Bool) (fuel : Nat)
    (taken : List (String × Value)) (rest : Bytes) (enough : members.length < fuel) :
    Value.readMembers inner fuel first taken (remaining first (spelled members) rest) =
      .ok (taken.reverse ++ meant members, Ascii.closeBrace :: rest) := by
  induction members generalizing first fuel taken with
  | nil =>
    obtain ⟨fuel, rfl⟩ := Nat.exists_eq_add_of_lt enough
    simp only [spelled, meant, List.map_nil, List.append_nil]
    rfl
  | cons member members ih =>
    obtain ⟨name, written, value⟩ := member
    obtain ⟨fuel, rfl⟩ : ∃ fewer, fuel = fewer + 1 := Nat.exists_eq_add_of_le' (by omega)
    have read := each _ List.mem_cons_self _ (ends_remaining (spelled members) rest)
    have others := ih (fun member present => each member (List.mem_cons_of_mem _ present)) false
      fuel ((name, value) :: taken) (by simpa using enough)
    have ahead : spelled ((name, written, value) :: members) = (name, written) :: spelled members :=
      rfl
    rw [ahead]
    simp only [Value.readMembers, memberAhead_member, bind, Except.bind, if_true, stringText_name,
      colon_ahead, read, others]
    simp [meant]

theorem readObject_members {inner : Reader Value} {members : List Written}
    (each : ∀ member ∈ members, Reads inner member.2.1 member.2.2) (rest : Bytes) :
    Value.readObject inner (remaining true (spelled members) rest) =
      .ok (.object (meant members), rest) := by
  have shorter : members.length < (remaining true (spelled members) rest).length + 1 := by
    have := length_remaining true (spelled members) rest
    simp only [spelled, List.length_map] at this ⊢
    omega
  have read := valueMembers_read each true _ [] rest shorter
  simp only [Value.readObject, read, bind, Except.bind]
  rfl

/-- A written object is read as a value, one level above what its members need. -/
theorem reads_object {depth : Nat} {members : List Written}
    (each : ∀ member ∈ members, Reads (Value.readWithin depth) member.2.1 member.2.2) :
    Reads (Value.readWithin (depth + 1)) (writeObject (spelled members))
      (.object (meant members)) := by
  intro rest _
  rw [writeObject_append]
  exact readObject_members each rest

private theorem reads_quoted (depth : Nat) {body : Bytes} {text : String}
    (inside : ∀ rest, stringText (body ++ Ascii.quote :: rest) = .ok (text, rest)) :
    Reads (Value.readWithin depth) (Ascii.quote :: body ++ [Ascii.quote]) (.text text) := by
  intro rest _
  have ahead : Ascii.quote :: body ++ [Ascii.quote] ++ rest =
      Ascii.quote :: (body ++ Ascii.quote :: rest) := by simp
  have scalar : Value.readWithin depth (Ascii.quote :: (body ++ Ascii.quote :: rest)) =
      Value.readScalar (Ascii.quote :: (body ++ Ascii.quote :: rest)) := by
    cases depth <;> rfl
  rw [ahead, scalar]
  change (stringText (body ++ Ascii.quote :: rest) >>= fun read =>
    Except.ok (Value.text read.1, read.2)) = _
  rw [inside]
  rfl

theorem reads_string (depth : Nat) (text : String) :
    Reads (Value.readWithin depth) (writeText text) (.text text) :=
  reads_quoted depth (stringText_written text)

private def Clear (byte : UInt8) : Prop := byte < 0x80 ∧ Plain byte

private theorem digit_clear (value : Nat) : Clear (Base64.digit value) := by
  have below : ∀ value : Fin 62, Clear (Base64.digit value) := by
    unfold Clear Plain
    decide
  by_cases small : value < 62
  · exact below ⟨value, small⟩
  · have last : Base64.digit value = 0x2b ∨ Base64.digit value = 0x2f := by
      rw [Base64.digit, if_neg (by omega), if_neg (by omega), if_neg small]
      split
      · exact .inl rfl
      · exact .inr rfl
    obtain same | same := last <;> rw [same] <;> unfold Clear Plain <;> decide

private theorem encode_clear (bytes : Bytes) : ∀ byte ∈ Base64.encode bytes, Clear byte := by
  have padding : Clear Base64.padding := by
    unfold Clear Plain
    decide
  fun_induction Base64.encode bytes <;> simp_all [digit_clear]

theorem reads_plain (depth : Nat) (payload : Bytes) :
    ∃ text, Utf8.encode text = Base64.encode payload ∧
      Reads (Value.readWithin depth) (writePlain (Base64.encode payload)) (.text text) := by
  have small : ∀ byte ∈ Base64.encode payload, byte < 0x80 :=
    fun byte present => (encode_clear payload byte present).1
  obtain ⟨text, written⟩ := wellFormed_asciis small
  refine ⟨text, written, reads_quoted depth fun rest => ?_⟩
  rw [← written]
  exact stringText_plain text rest fun byte present =>
    (encode_clear payload byte (written ▸ present)).2

/-- The members of a line, with the text that spells the payload. -/
private def members (now : Timestamp) (record : Record) (payload : String) : List Written :=
  [("created_at", writeText (record.createdAt.resolve now).text,
      .text (record.createdAt.resolve now).text),
    ("payload", writePlain (Base64.encode record.payload.after), .text payload),
    ("position", writeText record.position.display, .text record.position.display)]

theorem ends_lineFeed : Ends [Ascii.lineFeed] := by
  rintro byte ⟨⟩
  decide

theorem readAll_line {reader : Reader α} {written : Bytes} {value : α}
    (reads : Reads reader written value) :
    readAll reader (written ++ [Ascii.lineFeed]) = .ok value := by
  simp only [readAll, reads _ ends_lineFeed, bind, Except.bind]
  rfl

/-- The line of a record is an object of three strings: the time, the payload, and the token as it
is displayed. -/
theorem line_read (now : Timestamp) (record : Record) :
    ∃ payload, Utf8.encode payload = Base64.encode record.payload.after ∧
      readAll Value.read (record.line now) =
        .ok (.object [("created_at", .text (record.createdAt.resolve now).text),
          ("payload", .text payload), ("position", .text record.position.display)]) := by
  obtain ⟨payload, same, plain⟩ := reads_plain 126 record.payload.after
  refine ⟨payload, same, ?_⟩
  refine readAll_line (@reads_object 126 (members now record payload) fun member present => ?_)
  simp only [members, List.mem_cons, List.not_mem_nil, or_false] at present
  obtain rfl | rfl | rfl := present
  · exact reads_string _ _
  · exact plain
  · exact reads_string _ _

/-- A line has one line feed, at its end. -/
theorem line_unbroken (now : Timestamp) (record : Record) :
    ∃ body, record.line now = body ++ [Ascii.lineFeed] ∧ Ascii.lineFeed ∉ body := by
  refine ⟨_, rfl, writeObject_unbroken fun member present => ?_⟩
  have plain : Ascii.lineFeed ∉ Base64.encode record.payload.after := fun breaks =>
    absurd (encode_clear _ _ breaks).2.1 (by decide)
  simp only [List.mem_cons, List.not_mem_nil, or_false] at present
  obtain rfl | rfl | rfl := present
  · exact writeText_unbroken _
  · simpa [writePlain, show Ascii.lineFeed ≠ Ascii.quote by decide] using plain
  · exact writeText_unbroken _

end StreamBridge.Proofs.RecordLine
