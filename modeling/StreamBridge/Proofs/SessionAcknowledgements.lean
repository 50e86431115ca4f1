import StreamBridge.Proofs.SessionConservation
import StreamBridge.Proofs.PositionTokens

/-! Each message is acknowledged at most once, in the order of delivery, and only under the very
token of its record. The order comes from the books of a session; that no other token will do, and
none twice, from the tokens of different sequences being different. -/

namespace StreamBridge.Proofs.SessionAcknowledgements
open ReaderSession ReaderCalls SessionSteps SessionHistory SessionConservation

/-- Messages of different sequences have different tokens. -/
theorem tokenOf_injective {reader : Reader UInt64} {left right : Delivery UInt64}
    (first : Delivered left) (second : Delivered right)
    (same : tokenOf reader left = tokenOf reader right) : left.receipt = right.receipt := by
  obtain ⟨sequence, timestamp, payload, rfl⟩ := first
  obtain ⟨other, otherTimestamp, otherPayload, rfl⟩ := second
  have positions : reader.position ⟨sequence, timestamp⟩ =
      reader.position ⟨other, otherTimestamp⟩ :=
    PositionTokens.encode_injective same
  have next : sequence + 1 = other + 1 := congrArg Position.next positions
  exact (UInt64.add_left_inj 1).mp next

section valid
variable {opened session : Session} {come settled unsettled : List (Delivery UInt64)}
  (valid : Valid opened come settled unsettled session)
include valid

theorem tokens_handedOut :
    session.handedOut.map (·.position) = (settled ++ unsettled).map (tokenOf opened.reader) := by
  refine records_kept valid.records fun message record readable => ?_
  simp only [tokenOf, readable]

theorem tokens_distinct (distinct : (come.map (·.receipt)).Nodup) :
    (session.handedOut.map (·.position)).Nodup := by
  have part : (settled ++ unsettled).Sublist come := by
    have all := accepted_ordered valid
    rw [valid.accepted] at all
    exact (List.sublist_append_left _ _).trans all
  have receipts : (settled ++ unsettled).Pairwise fun left right => left.receipt ≠ right.receipt :=
    List.pairwise_map.mp (distinct.sublist (part.map _))
  rw [tokens_handedOut valid]
  refine List.pairwise_map.mpr (receipts.imp_of_mem fun first second other same => other ?_)
  exact tokenOf_injective (valid.genuine _ (part.subset first))
    (valid.genuine _ (part.subset second)) same

theorem acknowledged_first (tracks : opened.reader.tracks = true) :
    session.acknowledged <+: session.handedOut.map (·.position) := by
  rw [valid.acknowledged tracks, tokens_handedOut valid, List.map_append]
  exact List.prefix_append _ _

/-- What is due for an acknowledgement: nothing, or the oldest pending message, whose record is the
first that was handed out and is not acknowledged. -/
theorem due_cases (tracks : opened.reader.tracks = true)
    (running : session.reader.stopped = false) :
    (session.reader.pending = [] ∧ session.handedOut[session.acknowledged.length]? = none) ∨
    ∃ head rest record, session.reader.pending = head :: rest ∧
      session.handedOut[session.acknowledged.length]? = some record ∧
      record.position = head.token ∧
      session.accepted[session.acknowledged.length]? = some head.delivery ∧
      session.reader.record head.delivery = .ok record := by
  have counted : session.acknowledged.length = settled.length := by
    rw [valid.acknowledged tracks, List.length_map]
  have records : (session.handedOut[settled.length]?).map .ok =
      unsettled.head?.map opened.reader.record := by
    rw [← List.getElem?_map, valid.records, List.getElem?_map,
      List.getElem?_append_right (Nat.le_refl _), Nat.sub_self, List.head?_eq_getElem?]
  have pending := valid.pending
  rw [tracks, valid.subscribed running, Bool.and_self, if_pos rfl] at pending
  rw [counted]
  cases unsettled with
  | nil => exact .inl ⟨pending, Option.map_eq_none_iff.mp records⟩
  | cons message more =>
    obtain ⟨record, present, readable⟩ := Option.map_eq_some_iff.mp records
    refine .inr ⟨_, _, record, pending, present, ?_, ?_, ?_⟩
    · simp only [tokenOf, ← readable]
    · rw [valid.accepted, List.append_assoc, List.getElem?_append_right (Nat.le_refl _),
        Nat.sub_self]
      rfl
    · rw [valid.sameRecord, readable]

theorem due_token (tracks : opened.reader.tracks = true)
    (running : session.reader.stopped = false) :
    session.handedOut[session.acknowledged.length]?.map (·.position) =
      session.reader.pending.head?.map (·.token) := by
  rcases due_cases valid tracks running with
    ⟨pending, none⟩ | ⟨head, rest, record, pending, present, token, _⟩
  · rw [none, pending]
    rfl
  · rw [present, pending]
    exact congrArg some token

/-- Exactly the token of the record that is due is accepted, where the broker agrees. -/
theorem done_iff (tracks : opened.reader.tracks = true) {token : Token}
    {result : Bench.Outcome × Session} (answered : Acknowledged session token result) :
    result.1 = .done ↔ session.reader.stopped = false ∧
      session.handedOut[session.acknowledged.length]?.map (·.position) = some token ∧
      session.broker.fails .acknowledge = false := by
  have due := due_token valid tracks
  cases answered with
  | stopped stopped => simp [stopped]
  | untracked _ untracked =>
    rw [valid.sameTracks, tracks] at untracked
    cases untracked
  | nothing running _ pending => simp [due running, pending]
  | outOfOrder head rest running _ pending other => simp [due running, pending, other]
  | refused head rest running _ pending same fails => simp [fails]
  | settled head rest running _ pending same agrees =>
    simp [due running, pending, same, running, agrees]

/-- The broker acknowledges the message of the record that is due, and nothing else changes. -/
theorem done_settles (tracks : opened.reader.tracks = true) {token : Token}
    {result : Bench.Outcome × Session} (answered : Acknowledged session token result)
    (done : result.1 = .done) :
    ∃ message record, session.accepted[session.acknowledged.length]? = some message ∧
      session.handedOut[session.acknowledged.length]? = some record ∧
      session.reader.record message = .ok record ∧
      result.2 = { session with
        reader := { session.reader with pending := session.reader.pending.tail }
        broker := { session.broker with acked := session.broker.acked ++ [message.receipt] }
        acknowledged := session.acknowledged ++ [token] } := by
  cases answered with
  | untracked _ untracked =>
    rw [valid.sameTracks, tracks] at untracked
    cases untracked
  | settled head rest running _ pending same agrees =>
    rcases due_cases valid tracks running with
      ⟨none, _⟩ | ⟨first, others, record, due, present, token, accepted, readable⟩
    · rw [none] at pending
      cases pending
    · rw [due] at pending
      cases pending
      exact ⟨head.delivery, record, accepted, present, readable, by rw [due]; rfl⟩
  | _ => cases done

omit valid in
/-- An acknowledgement that fails leaves everything as it was. -/
theorem refused_keeps {token : Token} {result : Bench.Outcome × Session}
    (answered : Acknowledged session token result) (failed : result.1 ≠ .done) :
    result.2 = session ∧
      (result.1 = .sourceError .stopped ∧ session.reader.stopped = true ∨
      result.1 = .sourceError (.nothingPending token) ∧ session.reader.pending = [] ∨
      (∃ head rest, session.reader.pending = head :: rest ∧ head.token ≠ token ∧
        result.1 = .sourceError (.outOfOrder token head.token)) ∨
      result.1 = .sourceError (.broker (.failed .acknowledge "mock ack failure"))) := by
  cases answered with
  | stopped stopped => exact ⟨rfl, .inl ⟨rfl, stopped⟩⟩
  | nothing _ _ pending => exact ⟨rfl, .inr (.inl ⟨rfl, pending⟩)⟩
  | outOfOrder head rest _ _ pending other =>
    exact ⟨rfl, .inr (.inr (.inl ⟨head, rest, pending, other, rfl⟩))⟩
  | refused => exact ⟨rfl, .inr (.inr (.inr rfl))⟩
  | untracked | settled => exact absurd rfl failed

end valid

/-- In every run of a reader that tracks, over messages of different sequences, and for every token
there is: it is accepted if and only if the reader has not been stopped, it is the token of the
record that is due, and the broker agrees. Then the broker acknowledges that record's message.
Otherwise the caller is told why, and nothing changes. So the accepted tokens are those of the first
records, one each. -/
theorem acknowledged_once {port : Nat} {params : SourceParams} {origin broker : MemoryBroker}
    {reader : Reader UInt64}
    (attached : (Reader.attach port params).make origin = (.ok reader, broker))
    (tracked : params.ackPolicy ≠ .none) (acts : List Act)
    (distinct : ((deliveries acts).map (·.receipt)).Nodup) :
    let session := (Session.start reader broker).run acts
    let due := session.acknowledged.length
    (∀ token,
      let answer := session.step (.acknowledge token)
      (answer.1 = .done ↔ .stop ∉ acts ∧
        session.handedOut[due]?.map (·.position) = some token ∧
        session.broker.fails .acknowledge = false) ∧
      (answer.1 = .done → ∃ message record, session.accepted[due]? = some message ∧
        session.handedOut[due]? = some record ∧
        session.reader.record message = .ok record ∧
        answer.2 = { session with
          reader := { session.reader with pending := session.reader.pending.tail }
          broker := { session.broker with acked := session.broker.acked ++ [message.receipt] }
          acknowledged := session.acknowledged ++ [token] }) ∧
      (answer.1 ≠ .done → answer.2 = session ∧
        (answer.1 = .sourceError .stopped ∧ .stop ∈ acts ∨
        answer.1 = .sourceError (.nothingPending token) ∧ session.reader.pending = [] ∨
        (∃ head rest, session.reader.pending = head :: rest ∧ head.token ≠ token ∧
          answer.1 = .sourceError (.outOfOrder token head.token)) ∨
        answer.1 = .sourceError (.broker (.failed .acknowledge "mock ack failure"))))) ∧
    session.acknowledged <+: session.handedOut.map (·.position) ∧
    (session.handedOut.map (·.position)).Nodup ∧ session.acknowledged.Nodup := by
  intro session due
  obtain ⟨settled, unsettled, valid⟩ := attached_run attached acts
  have tracks : reader.tracks = true := by simpa [attached_tracks attached] using tracked
  have stopped := attached_stopped attached acts
  have running : session.reader.stopped = false ↔ .stop ∉ acts := by
    rw [← stopped, Bool.not_eq_true]
  have first := acknowledged_first valid tracks
  have different := tokens_distinct valid distinct
  refine ⟨fun token => ?_, first, different, different.sublist first.sublist⟩
  have answered := acknowledge_cases valid.alone token
  refine ⟨?_, done_settles valid tracks answered, ?_⟩
  · rw [← running]
    exact done_iff valid tracks answered
  · intro failed
    rw [← stopped]
    exact refused_keeps answered failed

/-- The token of the message before a sequence. -/
def tokenBefore (sequence : UInt64) : Token :=
  Position.encode ⟨"durable", "stream", "subject", .epoch, sequence⟩

/-- Two messages that are read, the first of them acknowledged. -/
def halfway : List Act :=
  [.deliver 1 7 .epoch [0x61], .deliver 2 8 .epoch [0x62], .read false, .read false,
    .acknowledge (tokenBefore 8)]

theorem acknowledged_once_narrow :
    ∃ reader broker, (Reader.attach 0 narrow).make MemoryBroker.fresh = (.ok reader, broker) ∧
      narrow.ackPolicy ≠ .none ∧ ((deliveries halfway).map (·.receipt)).Nodup ∧
      let session := (Session.start reader broker).run halfway
      let again := session.step (.acknowledge (tokenBefore 8))
      let next := session.step (.acknowledge (tokenBefore 9))
      session.acknowledged = [tokenBefore 8] ∧ session.broker.acked = [7] ∧
      again.1 ≠ .done ∧ again.2 = session ∧
      next.1 = .done ∧ next.2.acknowledged = [tokenBefore 8, tokenBefore 9] ∧
      next.2.broker.acked = [7, 8] := by
  have attached : (Reader.attach 0 narrow).make MemoryBroker.fresh =
      (.ok (Reader.fresh 0 ⟨"stream", "durable", _⟩ narrow), _) := rfl
  have tracked : narrow.ackPolicy ≠ .none := by decide
  have distinct : ((deliveries halfway).map (·.receipt)).Nodup := by decide
  have answers := (acknowledged_once attached tracked halfway distinct).1
  obtain ⟨accepted, _, refused⟩ := answers (tokenBefore 8)
  have other : tokenBefore 9 ≠ tokenBefore 8 := by decide
  have unaccepted := fun done =>
    have due : some (tokenBefore 9) = some (tokenBefore 8) := (accepted.mp done).2.1
    other (Option.some.inj due)
  have agreed := (answers (tokenBefore 9)).1.mpr ⟨by simp [halfway], rfl, rfl⟩
  exact ⟨_, _, attached, tracked, distinct, rfl, rfl, unaccepted, (refused unaccepted).1, agreed,
    rfl, rfl⟩

end StreamBridge.Proofs.SessionAcknowledgements
