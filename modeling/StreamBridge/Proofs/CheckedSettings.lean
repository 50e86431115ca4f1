import StreamBridge.Settings.Check
import StreamBridge.Proofs.PositionTokens
import StreamBridge.Proofs.ReaderCalls

/-! From settings that were checked to the consumer of their source. The check refuses settings that
break a rule, whichever it is; what passes leaves only the position open, and a position matters
only for the sequence in it. -/

namespace StreamBridge.Proofs.CheckedSettings
open BrokerRequests ReaderCalls

/-- A rule that a source breaks, by the fault that it is reported as. -/
inductive SourceBreaks (source : SourceSettings) : SettingsFault → Prop where
  | subject (empty : source.subject = "") : SourceBreaks source .noSourceSubject
  | stream (empty : source.stream = "") : SourceBreaks source .noSourceStream
  | durable (empty : source.durable = "") : SourceBreaks source .emptyDurable
  | buffer (small : source.bufferSize < 64) : SourceBreaks source (.smallBuffer source.bufferSize)
  | policy (start : UInt64) (starts : source.deliverPolicy = .byStartSequence start) :
      SourceBreaks source .startSequence

/-- A rule that a destination breaks. -/
inductive DestinationBreaks (destination : DestinationSettings) : SettingsFault → Prop where
  | subject (empty : destination.subject = "") : DestinationBreaks destination .noDestinationSubject
  | batch (empty : destination.batchSize = 0) : DestinationBreaks destination .emptyBatch

/-- A rule that settings break, in one of their sections. -/
inductive Breaks (settings : Settings) : SettingsFault → Prop where
  | urls (empty : settings.connection.urls = []) : Breaks settings .noUrls
  | source (source : SourceSettings) (given : settings.source = some source) (fault : SettingsFault)
      (broken : SourceBreaks source fault) : Breaks settings fault
  | destination (destination : DestinationSettings)
      (given : settings.destination = some destination) (fault : SettingsFault)
      (broken : DestinationBreaks destination fault) : Breaks settings fault

section judgement
variable {broken other : SettingsFault → Prop}

/-- Whether a check passes only what breaks nothing, and otherwise reports something broken. -/
def Judges (broken : SettingsFault → Prop) : Except SettingsFault Unit → Prop
  | .ok () => ∀ fault, ¬ broken fault
  | .error fault => broken fault

theorem Judges.ok_iff {check : Except SettingsFault Unit} (judges : Judges broken check) :
    check = .ok () ↔ ∀ fault, ¬ broken fault := by
  obtain fault | ⟨⟨⟩⟩ := check
  · exact ⟨nofun, fun sound => absurd judges (sound fault)⟩
  · exact ⟨fun _ => judges, fun _ => rfl⟩

theorem Judges.refuses {check : Except SettingsFault Unit} (judges : Judges broken check)
    {fault : SettingsFault} (breaks : broken fault) :
    ∃ first, check = .error first ∧ broken first := by
  obtain first | ⟨⟨⟩⟩ := check
  · exact ⟨first, rfl, judges⟩
  · exact absurd breaks (judges fault)

theorem Judges.congr {check : Except SettingsFault Unit} (judges : Judges broken check)
    (same : ∀ fault, broken fault ↔ other fault) : Judges other check := by
  rwa [← funext fun fault => propext (same fault)]

theorem Judges.require (condition : Bool) (fault : SettingsFault) :
    Judges (fun reported => condition = false ∧ reported = fault)
      (Settings.require condition fault) := by
  cases condition with
  | false => exact ⟨rfl, rfl⟩
  | true => exact fun _ => nofun

/-- The second check is made where the first one passes. -/
theorem Judges.bind {check next : Except SettingsFault Unit} (first : Judges broken check)
    (second : Judges other next) :
    Judges (fun fault => broken fault ∨ other fault) (check >>= fun _ => next) := by
  obtain fault | ⟨⟨⟩⟩ := check
  · exact .inl first
  obtain fault | ⟨⟨⟩⟩ := next
  · exact .inr second
  · exact fun fault => not_or.mpr ⟨first fault, second fault⟩

/-- A section is checked where it is given. -/
theorem Judges.section {α : Type} {check : α → Except SettingsFault Unit}
    {breaks : α → SettingsFault → Prop} (given : Option α)
    (judges : ∀ settings, Judges (breaks settings) (check settings)) :
    Judges (fun fault => ∃ settings, given = some settings ∧ breaks settings fault)
      (given.elim (.ok ()) check) := by
  cases given with
  | none => exact fun _ => nofun
  | some settings => exact (judges settings).congr fun fault => by simp

end judgement

theorem source_judged (source : SourceSettings) : Judges (SourceBreaks source) source.check := by
  refine (Judges.bind (.require _ _) <| .bind (.require _ _) <| .bind (.require _ _) <|
    .bind (.require _ _) (.require _ _)).congr fun fault => ⟨?_, ?_⟩
  · rintro (⟨fails, rfl⟩ | ⟨fails, rfl⟩ | ⟨fails, rfl⟩ | ⟨fails, rfl⟩ | ⟨fails, rfl⟩)
    · exact .subject (by simpa using fails)
    · exact .stream (by simpa using fails)
    · exact .durable (by simpa using fails)
    · exact .buffer (Nat.lt_of_not_le (of_decide_eq_false fails))
    · cases policy : source.deliverPolicy with
      | all | new =>
        rw [policy] at fails
        cases fails
      | byStartSequence start => exact .policy start policy
  · intro broken
    cases broken with
    | subject empty => simp [empty]
    | stream empty => simp [empty]
    | durable empty => simp [empty]
    | buffer small =>
      have fails := decide_eq_false (Nat.not_le_of_lt small)
      exact .inr (.inr (.inr (.inl ⟨fails, rfl⟩)))
    | policy start starts => simp [starts, DeliverPolicy.startSequence?]

theorem destination_judged (destination : DestinationSettings) :
    Judges (DestinationBreaks destination) destination.check := by
  refine (Judges.bind (.require _ _) (.require _ _)).congr fun fault => ⟨?_, ?_⟩
  · rintro (⟨fails, rfl⟩ | ⟨fails, rfl⟩)
    · exact .subject (by simpa using fails)
    · exact .batch (by simpa using fails)
  · intro broken
    cases broken with
    | subject empty => simp [empty]
    | batch empty => simp [empty]

theorem settings_judged (settings : Settings) : Judges (Breaks settings) settings.check := by
  refine (Judges.bind (.require _ _) <| .bind (.section settings.source source_judged)
    (.section settings.destination destination_judged)).congr fun fault => ⟨?_, ?_⟩
  · rintro (⟨fails, rfl⟩ | ⟨source, given, broken⟩ | ⟨destination, given, broken⟩)
    · exact .urls (by simpa using fails)
    · exact .source source given fault broken
    · exact .destination destination given fault broken
  · intro broken
    cases broken with
    | urls empty => exact .inl ⟨by simp [empty], rfl⟩
    | source source given fault broken => exact .inr (.inl ⟨source, given, broken⟩)
    | destination destination given fault broken =>
      exact .inr (.inr ⟨destination, given, broken⟩)

theorem source_sound {settings : Settings} (passes : settings.check = .ok ())
    {source : SourceSettings} (given : settings.source = some source) (fault : SettingsFault) :
    ¬ SourceBreaks source fault := fun broken =>
  (settings_judged settings).ok_iff.mp passes fault (.source source given fault broken)

/-- No position, and the empty one, can be read. -/
theorem position_refused_iff (source : SourceSettings) (fault : Json.ReadError) :
    Position.decode source.params.position = .error fault ↔
      ∃ text, source.position = some text ∧ text ≠ "" ∧
        Position.decode (.ofText text) = .error fault := by
  cases given : source.position with
  | none =>
    have decoded : Position.decode source.params.position = .ok .zero := by
      rw [SourceSettings.params, given]
      rfl
    simp [decoded]
  | some text =>
    have same : source.params.position = .ofText text := by rw [SourceSettings.params, given]; rfl
    rw [same]
    by_cases empty : text = ""
    · subst empty
      have decoded : Position.decode (.ofText "") = .ok .zero := rfl
      simp [decoded]
    · simp [empty]

theorem startPolicy_start_iff {params : SourceParams}
    (unset : ∀ start, params.deliverPolicy ≠ .byStartSequence start) (position : Position)
    (start : UInt64) :
    params.startPolicy position = .byStartSequence start ↔ start ≠ 0 ∧ position.next = start := by
  unfold SourceParams.startPolicy
  by_cases resumable : position.isResumable
  · rw [if_pos resumable, DeliverPolicy.byStartSequence.injEq]
    have nonzero : position.next ≠ 0 := by simpa [Position.isResumable] using resumable
    exact ⟨fun same => ⟨same ▸ nonzero, same⟩, And.right⟩
  · rw [if_neg resumable]
    have zero : position.next = 0 := by simpa [Position.isResumable] using resumable
    constructor
    · exact fun same => absurd same (unset start)
    · exact fun ⟨nonzero, same⟩ => absurd (same ▸ zero) nonzero

/-- What a source asks the broker for. It starts at the sequence that its position names, else as
its settings say; those name no sequence. -/
structure Asks (source : SourceSettings) (config : ConsumerConfig) : Prop where
  resumes : ∀ start, config.deliverPolicy = .byStartSequence start ↔ start ≠ 0 ∧
    ∃ position, Position.decode source.params.position = .ok position ∧ position.next = start
  starts : (∀ start, config.deliverPolicy ≠ .byStartSequence start) →
    config.deliverPolicy = source.deliverPolicy
  policy : source.deliverPolicy = .all ∨ source.deliverPolicy = .new
  durable : config.durableName = source.durable
  subject : config.deliverSubject = source.durable ++ "." ++ source.stream
  named : source.durable ≠ "" ∧ source.stream ≠ ""
  acknowledges : config.ackPolicy = source.ackPolicy

theorem policy_cases {source : SourceSettings} (sound : ∀ fault, ¬ SourceBreaks source fault) :
    source.deliverPolicy = .all ∨ source.deliverPolicy = .new := by
  cases policy : source.deliverPolicy with
  | all => exact .inl rfl
  | new => exact .inr rfl
  | byStartSequence start => exact absurd (.policy start policy) (sound .startSequence)

theorem asks_of_sound {source : SourceSettings} (sound : ∀ fault, ¬ SourceBreaks source fault)
    {config : ConsumerConfig} (configured : source.params.consumerConfig = .ok config) :
    Asks source config := by
  obtain ⟨position, decoded, rfl⟩ := consumerConfig_ok configured
  have policy := policy_cases sound
  have unset (start : UInt64) : source.params.deliverPolicy ≠ .byStartSequence start := by
    change source.deliverPolicy ≠ _
    rcases policy with all | new
    · rw [all]
      nofun
    · rw [new]
      nofun
  refine {
    resumes := fun start => ?_
    starts := fun fresh => ?_
    policy := policy
    durable := rfl
    subject := rfl
    named := ⟨fun empty => sound _ (.durable empty), fun empty => sound _ (.stream empty)⟩
    acknowledges := rfl }
  · rw [startPolicy_start_iff unset, decoded]
    simp
  · change source.params.startPolicy position = source.deliverPolicy
    by_cases resumable : position.isResumable
    · exact absurd (if_pos resumable) (fresh position.next)
    · exact if_neg resumable

/-- Of a position, only the sequence that it names tells in the consumer. -/
theorem consumerConfig_of_next {source : SourceSettings} {other : Option String}
    {position otherPosition : Position}
    (decoded : Position.decode source.params.position = .ok position)
    (otherDecoded :
      Position.decode { source with position := other }.params.position = .ok otherPosition)
    (same : otherPosition.next = position.next) :
    { source with position := other }.params.consumerConfig = source.params.consumerConfig := by
  have starts : { source with position := other }.params.startPolicy otherPosition =
      source.params.startPolicy position := by
    simp only [SourceParams.startPolicy, Position.isResumable, same]
    rfl
  simp only [SourceParams.consumerConfig, decoded, otherDecoded, starts]
  rfl

theorem attach_capacity {β ρ : Type} [Broker β ρ] {port : Nat} {source : SourceSettings}
    (sound : ∀ fault, ¬ SourceBreaks source fault) {origin attached : β} {reader : Reader ρ}
    (attaches : (Reader.attach port source.params).make origin = (.ok reader, attached)) :
    reader.channel.capacity = source.bufferSize ∧ 64 ≤ source.bufferSize := by
  obtain ⟨config, context, made, consumer, configured, opens, creates, subscribes, rfl⟩ :=
    attach_ok attaches
  have large : 64 ≤ source.bufferSize := Nat.le_of_not_lt fun small => sound _ (.buffer small)
  exact ⟨Nat.max_eq_left (Nat.le_trans (by decide) large), large⟩

/-- From settings to the consumer of their source. Settings that break a rule are refused for one
that they break, and others pass. A source that passes is refused exactly for a position that cannot
be read, and otherwise asks for what it says; two positions of one sequence ask for the same. Its
reader's channel holds as many messages as it says. -/
theorem checked_source_asks (settings : Settings) :
    (∀ fault, Breaks settings fault →
      ∃ first, settings.check = .error first ∧ Breaks settings first) ∧
    ((∀ fault, ¬ Breaks settings fault) → settings.check = .ok ()) ∧
    ∀ source, settings.source = some source → settings.check = .ok () →
      (∀ error, source.params.consumerConfig = .error error ↔
        ∃ text fault, source.position = some text ∧ text ≠ "" ∧
          Position.decode (.ofText text) = .error fault ∧ error = .badPosition fault) ∧
      (∀ config, source.params.consumerConfig = .ok config → Asks source config) ∧
      (∀ other position otherPosition, Position.decode source.params.position = .ok position →
        Position.decode { source with position := other }.params.position = .ok otherPosition →
        otherPosition.next = position.next →
        { source with position := other }.params.consumerConfig =
          source.params.consumerConfig) ∧
      ∀ (β ρ : Type) [Broker β ρ] (port : Nat) (origin attached : β) (reader : Reader ρ),
        (Reader.attach port source.params).make origin = (.ok reader, attached) →
        reader.channel.capacity = source.bufferSize ∧ 64 ≤ source.bufferSize := by
  have judged := settings_judged settings
  refine ⟨fun fault => judged.refuses, judged.ok_iff.mpr, fun source given passes => ?_⟩
  have sound := source_sound passes given
  refine ⟨fun error => ?_, fun config => asks_of_sound sound,
    fun _ _ _ => consumerConfig_of_next, fun _ _ _ _ _ _ _ => attach_capacity sound⟩
  rw [consumerConfig_refused_iff]
  simp only [position_refused_iff]
  constructor
  · rintro ⟨fault, ⟨text, known, given, refused⟩, rfl⟩
    exact ⟨text, fault, known, given, refused, rfl⟩
  · rintro ⟨text, fault, known, given, refused, rfl⟩
    exact ⟨fault, ⟨text, known, given, refused⟩, rfl⟩

/-- A source that waits for new messages. -/
def waiting : SourceSettings :=
  ⟨"orders.created", "ORDERS", "orders-durable", 64, .new, .explicit, none⟩

/-- A position behind the seventh message, and the same of another stream. -/
def eighth : Position := ⟨"orders-durable", "ORDERS", "orders.created", .epoch, 8⟩

def elsewhere : Position := { eighth with stream := "RETURNS" }

theorem position_decoded (source : SourceSettings) (position : Position) :
    Position.decode { source with position := some position.encode.display }.params.position =
      .ok position :=
  (congrArg Position.decode (PositionTokens.ofText_display position)).trans
    (PositionTokens.decode_encode position)

/-- The source, once it is to resume. -/
def resuming : SourceSettings := { waiting with position := some eighth.encode.display }

/-- The settings of a source with nowhere to write to. -/
def reads (source : SourceSettings) : Settings := ⟨.default, some source, none⟩

/-- Settings that name a sequence to start from, and no stream. -/
def outright : Settings :=
  reads { waiting with stream := "", deliverPolicy := .byStartSequence 8 }

theorem checked_source_asks_eighth :
    ∃ config first reader attached, (reads resuming).check = .ok () ∧
      resuming.params.consumerConfig = .ok config ∧
      config.deliverPolicy = .byStartSequence 8 ∧
      config.deliverSubject = "orders-durable" ++ "." ++ "ORDERS" ∧
      { resuming with position := some elsewhere.encode.display }.params.consumerConfig =
        .ok config ∧
      (Reader.attach 0 resuming.params).make MemoryBroker.fresh = (.ok reader, attached) ∧
      reader.channel.capacity = 64 ∧
      Breaks outright .startSequence ∧ outright.check = .error first ∧ Breaks outright first := by
  have decoded : Position.decode resuming.params.position = .ok eighth :=
    position_decoded waiting eighth
  have configured : ∃ config, resuming.params.consumerConfig = .ok config := by
    simp only [SourceParams.consumerConfig, decoded]
    exact ⟨_, rfl⟩
  obtain ⟨config, configured⟩ := configured
  have attaches : ∃ reader attached, (Reader.attach 0 resuming.params).make MemoryBroker.fresh =
      (.ok reader, attached) := by
    rw [Reader.attach, make_bind, make_liftExcept, configured]
    exact ⟨_, _, rfl⟩
  obtain ⟨reader, attached, attaches⟩ := attaches
  have breaks : Breaks outright .startSequence := .source _ rfl _ (.policy 8 rfl)
  obtain ⟨rejects, -⟩ := checked_source_asks outright
  obtain ⟨first, refused, broken⟩ := rejects _ breaks
  obtain ⟨-, -, asking⟩ := checked_source_asks (reads resuming)
  obtain ⟨-, asks, alike, holds⟩ := asking resuming rfl rfl
  have asked := asks config configured
  have same := alike _ eighth elsewhere decoded (position_decoded resuming elsewhere) rfl
  exact ⟨config, first, reader, attached, rfl, configured,
    (asked.resumes 8).mpr ⟨by decide, eighth, decoded, rfl⟩, asked.subject,
    same.trans configured, attaches, (holds _ _ 0 _ _ _ attaches).1, breaks, refused, broken⟩

end StreamBridge.Proofs.CheckedSettings
