import StreamBridge.Relay.Records
import StreamBridge.Settings.Basic
import StreamBridge.Proofs.RecordLine
import StreamBridge.Proofs.SessionConservation

/-! A reader that is opened at the position of a record goes on right behind it. The position may
come from the record itself or from the text in its printed line. Nothing is assumed about the
reader that made the record, and nothing about the terms of the next one. -/

namespace StreamBridge.Proofs.ResumePosition
open PositionTokens

variable {β ρ : Type}

/-- A read, of some reader in whatever state, that held a message with this metadata ended with this
record. -/
def Returned (ρ : Type) (metadata : Metadata) (record : Record) : Prop :=
  ∃ (reader after : Reader ρ) (call : Nat) (cancelled fed : Bool) (delivery : Delivery ρ),
    delivery.metadata = .ok metadata ∧
      reader.stepRead call cancelled fed (.holding delivery) = (.finished (.ok record), after)

theorem Returned.position {metadata : Metadata} {record : Record}
    (returned : Returned ρ metadata record) :
    ∃ reader : Reader ρ, record.position = (reader.position metadata).encode := by
  obtain ⟨reader, after, call, cancelled, fed, delivery, told, finished⟩ := returned
  refine ⟨reader, ?_⟩
  simp only [Reader.stepRead, Reader.handOut, Reader.record, told, Prod.mk.injEq,
    Progress.finished.injEq, Except.ok.injEq] at finished
  rw [← finished.1]

theorem returned_of_record {reader : Reader ρ} {delivery : Delivery ρ} {metadata : Metadata}
    {record : Record} (told : delivery.metadata = .ok metadata)
    (made : reader.record delivery = .ok record) : Returned ρ metadata record := by
  refine ⟨reader, reader.track record.position delivery, 0, false, false, delivery, told, ?_⟩
  simp only [Reader.stepRead, Reader.handOut, made]

/-- The message that a read at this stage holds, or would be the first to take. -/
def Ahead (reader : Reader ρ) (delivery : Delivery ρ) : ReadStage ρ → Prop
  | .holding held => held = delivery
  | .entering | .queueing | .listening =>
    ∃ channel, reader.channel.take = some (delivery, channel)

/-- A read that returns a record returns that of the message ahead of it. -/
theorem readFor_returned {reader after : Reader ρ} {cancelled fed : Bool} {steps : Nat}
    {stage : ReadStage ρ} {record : Record}
    (read : reader.readFor cancelled fed steps stage = (some (.ok record), after)) :
    ∃ delivery, Ahead reader delivery stage ∧
      ∀ metadata, delivery.metadata = .ok metadata → Returned ρ metadata record := by
  induction steps generalizing reader stage with
  | zero => cases read
  | succ steps ih =>
    rw [Reader.readFor] at read
    cases stage with
    | entering =>
      simp only [Reader.stepRead, Reader.enterRead] at read
      by_cases stopped : reader.stopped = true
      · rw [if_pos stopped] at read
        cases read
      · rw [if_neg stopped] at read
        obtain ⟨delivery, ahead, returned⟩ := ih read
        exact ⟨delivery, ahead, returned⟩
    | queueing =>
      simp only [Reader.stepRead, Reader.queueRead] at read
      cases cancelled with
      | true => cases read
      | false =>
        by_cases head : reader.channelLine.head? = some 0
        · rw [if_neg Bool.false_ne_true, if_pos head] at read
          obtain ⟨delivery, ahead, returned⟩ := ih read
          exact ⟨delivery, ahead, returned⟩
        · rw [if_neg Bool.false_ne_true, if_neg head] at read
          cases read
    | listening =>
      simp only [Reader.stepRead, Reader.listen] at read
      cases cancelled with
      | true => cases read
      | false =>
        rw [if_neg Bool.false_ne_true] at read
        cases taken : reader.channel.take with
        | none =>
          simp only [taken] at read
          by_cases spent : reader.hungUp fed = true
          · rw [if_pos spent] at read
            cases read
          · rw [if_neg spent] at read
            cases read
        | some first =>
          obtain ⟨message, channel⟩ := first
          simp only [taken] at read
          obtain ⟨delivery, same, returned⟩ := ih read
          cases same
          exact ⟨message, ⟨channel, taken⟩, returned⟩
    | holding delivery =>
      refine ⟨delivery, rfl, fun metadata told => ?_⟩
      simp only [Reader.stepRead, Reader.handOut] at read
      cases made : reader.record delivery with
      | error error =>
        simp only [made] at read
        cases read
      | ok record =>
        simp only [made] at read
        cases read
        exact returned_of_record told made

theorem read_returned {reader after : Reader ρ} {cancelled fed : Bool} {record : Record}
    (read : reader.read cancelled fed = (some (.ok record), after)) :
    ∃ delivery channel, reader.channel.take = some (delivery, channel) ∧
      ∀ metadata, delivery.metadata = .ok metadata → Returned ρ metadata record := by
  obtain ⟨delivery, ⟨channel, taken⟩, returned⟩ := readFor_returned read
  exact ⟨delivery, channel, taken, returned⟩

/-- Every record that a run hands out was returned for a message that its channel accepted. -/
theorem handedOut_returned {port : Nat} {params : SourceParams} {origin broker : MemoryBroker}
    {reader : Reader UInt64}
    (attached : (Reader.attach port params).make origin = (.ok reader, broker))
    (acts : List ReaderSession.Act) {i : Nat} {record : Record}
    (given : ((ReaderSession.Session.start reader broker).run acts).handedOut[i]? = some record) :
    ∃ message metadata,
      ((ReaderSession.Session.start reader broker).run acts).accepted[i]? = some message ∧
      message.metadata = .ok metadata ∧ Returned UInt64 metadata record := by
  obtain ⟨settled, unsettled, valid⟩ := SessionConservation.attached_run attached acts
  have records := congrArg (·[i]?) valid.records
  simp only [List.getElem?_map, given, Option.map_some] at records
  obtain ⟨message, present, made⟩ := Option.map_eq_some_iff.mp records.symm
  have accepted : ((ReaderSession.Session.start reader broker).run acts).accepted[i]? =
      some message := by
    rw [valid.accepted, List.getElem?_append_left (List.getElem?_eq_some_iff.mp present).1, present]
  refine ⟨message, ?_⟩
  cases told : message.metadata with
  | error error =>
    simp only [Reader.record, told] at made
    cases made
  | ok metadata =>
    exact ⟨metadata, accepted, rfl, returned_of_record told made⟩

theorem toNat_next {sequence : UInt64} (below : sequence.toNat < 2 ^ 64 - 1) :
    (sequence + 1).toNat = sequence.toNat + 1 := by
  rw [UInt64.toNat_add]
  exact Nat.mod_eq_of_lt (by simpa using Nat.add_lt_of_lt_sub below)

theorem consumerConfig_resumes {params : SourceParams} {position : Position}
    (token : params.position = position.encode) (resumable : position.next ≠ 0) :
    ∃ config, params.consumerConfig = .ok config ∧
      config.deliverPolicy = .byStartSequence position.next := by
  have starts : params.startPolicy position = .byStartSequence position.next := by
    rw [SourceParams.startPolicy, if_pos]
    simpa [Position.isResumable] using resumable
  simp only [SourceParams.consumerConfig, token, decode_encode, starts]
  exact ⟨_, rfl, rfl⟩

/-- A reader that is opened at the token of a record starts right behind the record's message. -/
theorem Returned.resumes {metadata : Metadata} {record : Record}
    (returned : Returned ρ metadata record) (below : metadata.sequence.toNat < 2 ^ 64 - 1)
    (params : SourceParams) (token : params.position = record.position) :
    ∃ config, params.consumerConfig = .ok config ∧
      config.deliverPolicy = .byStartSequence (metadata.sequence + 1) := by
  obtain ⟨reader, position⟩ := returned.position
  refine consumerConfig_resumes (token.trans position) fun zero => ?_
  have next := toNat_next below
  rw [show metadata.sequence + 1 = 0 from zero] at next
  cases next

theorem Returned.display {metadata : Metadata} {record : Record}
    (returned : Returned ρ metadata record) :
    Token.ofText record.position.display = record.position := by
  obtain ⟨reader, position⟩ := returned.position
  rw [position]
  exact ofText_display _

theorem readTurn_prints [Broker β ρ] {relay : RecordRelay β ρ} {record : Record} {after : Reader ρ}
    (read : relay.reader.read relay.cancelled (Broker.feeds relay.broker relay.reader.port) =
      (some (.ok record), after)) (now : Timestamp) :
    (relay.readTurn now).2.output = relay.output ++ record.line now := by
  simp only [RecordRelay.readTurn, read]

/-- The position in a printed line, set in the settings of a later run, does the same. -/
theorem Returned.line_resumes {metadata : Metadata} {record : Record}
    (returned : Returned ρ metadata record) (below : metadata.sequence.toNat < 2 ^ 64 - 1)
    (now : Timestamp) :
    ∃ payload shown,
      Json.readAll Json.Value.read (record.line now) = .ok (.object
        [("created_at", .text (record.createdAt.resolve now).text), ("payload", .text payload),
          ("position", .text shown)]) ∧
      ∀ settings : SourceSettings, settings.position = some shown →
        ∃ config, settings.params.consumerConfig = .ok config ∧
          config.deliverPolicy = .byStartSequence (metadata.sequence + 1) := by
  obtain ⟨payload, _, read⟩ := RecordLine.line_read now record
  refine ⟨payload, _, read, fun settings given => ?_⟩
  refine returned.resumes below settings.params ?_
  rw [SourceSettings.params, given]
  exact returned.display

theorem next_le_iff {sequence other : UInt64} (below : sequence.toNat < 2 ^ 64 - 1) :
    sequence + 1 ≤ other ↔ sequence < other := by
  rw [UInt64.le_iff_toNat_le, UInt64.lt_iff_toNat_lt, toNat_next below]
  exact Nat.succ_le_iff

theorem next_lt_iff {sequence other : UInt64} (below : sequence.toNat < 2 ^ 64 - 1)
    (otherBelow : other.toNat < 2 ^ 64 - 1) : sequence + 1 < other + 1 ↔ sequence < other := by
  rw [UInt64.lt_iff_toNat_lt, UInt64.lt_iff_toNat_lt, toNat_next below, toNat_next otherBelow]
  exact Nat.succ_lt_succ_iff

/-- A record that a read has returned says where to go on: whoever opens a reader at its token, on
whatever terms, or at the position in its printed line, starts at the sequence behind its message.
With a broker that serves what its policy names, that reader sees every message after this one, and
none up to it. Records start in the order of their messages. -/
theorem resumes_behind [Broker β ρ] {metadata : Metadata} {record : Record}
    (returned : Returned ρ metadata record) (below : metadata.sequence.toNat < 2 ^ 64 - 1) :
    (metadata.sequence + 1).toNat = metadata.sequence.toNat + 1 ∧
    (∀ params : SourceParams,
      ∃ config, { params with position := record.position }.consumerConfig = .ok config ∧
        config.deliverPolicy = .byStartSequence (metadata.sequence + 1)) ∧
    (∀ (relay : RecordRelay β ρ) (now : Timestamp) (after : Reader ρ),
      relay.reader.read relay.cancelled (Broker.feeds relay.broker relay.reader.port) =
        (some (.ok record), after) →
      (relay.readTurn now).2.output = relay.output ++ record.line now) ∧
    (∀ now, ∃ payload shown,
      Json.readAll Json.Value.read (record.line now) = .ok (.object
        [("created_at", .text (record.createdAt.resolve now).text), ("payload", .text payload),
          ("position", .text shown)]) ∧
      ∀ settings : SourceSettings, settings.position = some shown →
        ∃ config, settings.params.consumerConfig = .ok config ∧
          config.deliverPolicy = .byStartSequence (metadata.sequence + 1)) ∧
    (∀ serves : DeliverPolicy → UInt64 → Prop,
      (∀ start sequence, serves (.byStartSequence start) sequence ↔ start ≤ sequence) →
      ∀ (params : SourceParams) config,
        { params with position := record.position }.consumerConfig = .ok config →
        ∀ sequence, serves config.deliverPolicy sequence ↔ metadata.sequence < sequence) ∧
    (∀ (later : Metadata) (laterRecord : Record), Returned ρ later laterRecord →
      later.sequence.toNat < 2 ^ 64 - 1 → ∀ params laterParams : SourceParams,
      ∃ config laterConfig start laterStart,
        { params with position := record.position }.consumerConfig = .ok config ∧
        { laterParams with position := laterRecord.position }.consumerConfig = .ok laterConfig ∧
        config.deliverPolicy = .byStartSequence start ∧
        laterConfig.deliverPolicy = .byStartSequence laterStart ∧
        (start < laterStart ↔ metadata.sequence < later.sequence)) := by
  refine ⟨toNat_next below, fun params => returned.resumes below _ rfl,
    fun relay now after read => readTurn_prints read now, returned.line_resumes below, ?_, ?_⟩
  · intro serves served params config configured sequence
    obtain ⟨same, resumed, policy⟩ := returned.resumes below
      { params with position := record.position } rfl
    cases configured.symm.trans resumed
    rw [policy, served, next_le_iff below]
  · intro later laterRecord laterReturned laterBelow params laterParams
    obtain ⟨config, configured, policy⟩ := returned.resumes below
      { params with position := record.position } rfl
    obtain ⟨laterConfig, laterConfigured, laterPolicy⟩ := laterReturned.resumes laterBelow
      { laterParams with position := laterRecord.position } rfl
    exact ⟨config, laterConfig, _, _, configured, laterConfigured, policy, laterPolicy,
      next_lt_iff below laterBelow⟩

/-- A policy that serves the messages it names. -/
def served (policy : DeliverPolicy) (sequence : UInt64) : Prop :=
  match policy with
  | .byStartSequence start => start ≤ sequence
  | .all | .new => True

theorem resumes_behind_seventh :
    ∃ record, Returned UInt64 ⟨7, .epoch⟩ record ∧ (7 : UInt64).toNat < 2 ^ 64 - 1 ∧
      (∀ start sequence, served (.byStartSequence start) sequence ↔ start ≤ sequence) ∧
      ∀ params : SourceParams,
        ∃ config, { params with position := record.position }.consumerConfig = .ok config ∧
          ∀ sequence, served config.deliverPolicy sequence ↔ 7 < sequence := by
  have returned : Returned UInt64 ⟨7, .epoch⟩
      ⟨Position.encode ⟨"durable", "stream", "subject", .epoch, 8⟩, .whenRead, ⟨none, [0x61]⟩⟩ :=
    ⟨.fresh 0 ⟨"stream", "durable", default⟩ SessionConservation.narrow, _, 0, false, false,
      MemoryBroker.message 7 .epoch [0x61], rfl, rfl⟩
  have below : (7 : UInt64).toNat < 2 ^ 64 - 1 := by decide
  have named : ∀ start sequence, served (.byStartSequence start) sequence ↔ start ≤ sequence :=
    fun _ _ => Iff.rfl
  obtain ⟨_, resumes, _, _, restarts, _⟩ := @resumes_behind MemoryBroker UInt64 _ _ _ returned below
  refine ⟨_, returned, below, named, fun params => ?_⟩
  obtain ⟨config, configured, _⟩ := resumes params
  exact ⟨config, configured, restarts served named params config configured⟩

end StreamBridge.Proofs.ResumePosition
