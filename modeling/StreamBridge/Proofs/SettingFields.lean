import StreamBridge.Settings.Decode

/-! The fields of the sections: what they are called, what may be written for them, and how a table
with values for some of them is read. -/

namespace StreamBridge.Proofs.SettingFields
open Setting

inductive Section where
  | connection
  | source
  | destination
deriving DecidableEq

inductive Field : Section → Type where
  | urls : Field .connection
  | connectionName : Field .connection
  | maxReconnects : Field .connection
  | reconnectWait : Field .connection
  | subject : Field .source
  | stream : Field .source
  | durable : Field .source
  | bufferSize : Field .source
  | deliverPolicy : Field .source
  | ackPolicy : Field .source
  | position : Field .source
  | target : Field .destination
  | batchSize : Field .destination
  | retryWait : Field .destination
  | retryAttempts : Field .destination
deriving DecidableEq

namespace Section

def name : Section → String
  | .connection => "connection"
  | .source => "source"
  | .destination => "destination"

/-- What a section is read as. -/
abbrev Record : Section → Type
  | .connection => ConnectionSettings
  | .source => SourceSettings
  | .destination => DestinationSettings

/-- A section where nothing is set. -/
def default (durable : String) : (part : Section) → part.Record
  | .connection => .default
  | .source => .default durable
  | .destination => .default

/-- A section of settings, where it is there. -/
def of (settings : Settings) : (part : Section) → Option part.Record
  | .connection => some settings.connection
  | .source => settings.source
  | .destination => settings.destination

def fields : (part : Section) → List (Field part)
  | .connection => [.urls, .connectionName, .maxReconnects, .reconnectWait]
  | .source =>
    [.subject, .stream, .durable, .bufferSize, .deliverPolicy, .ackPolicy, .position]
  | .destination => [.target, .batchSize, .retryWait, .retryAttempts]

end Section

namespace Field

variable {part : Section}

def name : Field part → String
  | .urls => "urls"
  | .connectionName => "connection_name"
  | .maxReconnects => "max_reconnects"
  | .reconnectWait => "reconnect_wait_secs"
  | .subject => "subject"
  | .stream => "stream"
  | .durable => "durable"
  | .bufferSize => "buffer_size"
  | .deliverPolicy => "deliver_policy"
  | .ackPolicy => "ack_policy"
  | .position => "position"
  | .target => "subject"
  | .batchSize => "batch_size"
  | .retryWait => "retry_wait_ms"
  | .retryAttempts => "retry_attempts"

abbrev Value : Field part → Type
  | .urls => List String
  | .connectionName | .position => Option String
  | .subject | .stream | .durable | .target => String
  | .maxReconnects | .reconnectWait | .bufferSize | .batchSize | .retryWait | .retryAttempts => Nat
  | .deliverPolicy => DeliverPolicy
  | .ackPolicy => AckPolicy

/-- How the value of a field is read. -/
def read : (field : Field part) → SettingReader field.Value
  | .urls => readList readText
  | .connectionName | .position => readOptional readText
  | .subject | .stream | .durable | .target => readText
  | .maxReconnects | .reconnectWait | .bufferSize | .batchSize | .retryWait => readWord
  | .retryAttempts => readHalfWord
  | .deliverPolicy => readDeliverPolicy
  | .ackPolicy => readAckPolicy

/-- The value of a field in a section. -/
def get : (field : Field part) → part.Record → field.Value
  | .urls => ConnectionSettings.urls
  | .connectionName => ConnectionSettings.name
  | .maxReconnects => ConnectionSettings.maxReconnects
  | .reconnectWait => ConnectionSettings.reconnectWait
  | .subject => SourceSettings.subject
  | .stream => SourceSettings.stream
  | .durable => SourceSettings.durable
  | .bufferSize => SourceSettings.bufferSize
  | .deliverPolicy => SourceSettings.deliverPolicy
  | .ackPolicy => SourceSettings.ackPolicy
  | .position => SourceSettings.position
  | .target => DestinationSettings.subject
  | .batchSize => DestinationSettings.batchSize
  | .retryWait => DestinationSettings.retryWait
  | .retryAttempts => DestinationSettings.retryAttempts

/-- A section with the value of a field changed. -/
def store : (field : Field part) → part.Record → field.Value → part.Record
  | .urls => fun (record : ConnectionSettings) value => { record with urls := value }
  | .connectionName => fun (record : ConnectionSettings) value => { record with name := value }
  | .maxReconnects =>
    fun (record : ConnectionSettings) value => { record with maxReconnects := value }
  | .reconnectWait =>
    fun (record : ConnectionSettings) value => { record with reconnectWait := value }
  | .subject => fun (record : SourceSettings) value => { record with subject := value }
  | .stream => fun (record : SourceSettings) value => { record with stream := value }
  | .durable => fun (record : SourceSettings) value => { record with durable := value }
  | .bufferSize => fun (record : SourceSettings) value => { record with bufferSize := value }
  | .deliverPolicy => fun (record : SourceSettings) value => { record with deliverPolicy := value }
  | .ackPolicy => fun (record : SourceSettings) value => { record with ackPolicy := value }
  | .position => fun (record : SourceSettings) value => { record with position := value }
  | .target => fun (record : DestinationSettings) value => { record with subject := value }
  | .batchSize => fun (record : DestinationSettings) value => { record with batchSize := value }
  | .retryWait => fun (record : DestinationSettings) value => { record with retryWait := value }
  | .retryAttempts =>
    fun (record : DestinationSettings) value => { record with retryAttempts := value }

def slot (field : Field part) : SettingField part.Record := .of field.name field.read field.store

theorem get_store (field : Field part) (record : part.Record) (value : field.Value) :
    field.get (field.store record value) = value := by
  cases field <;> rfl

theorem get_store_other {field other : Field part} (apart : other ≠ field) (record : part.Record)
    (value : field.Value) : other.get (field.store record value) = other.get record := by
  cases field <;> cases other <;> first | rfl | exact absurd rfl apart

theorem name_injective {field other : Field part} (same : field.name = other.name) :
    field = other := by
  cases field <;> cases other <;> first | rfl | exact absurd same (by decide)

theorem name_lower (field : Field part) : Text.lowerCase field.name = field.name := by
  cases field <;> decide

end Field

/-- A section is made of its fields. -/
theorem record_eq (part : Section) {record other : part.Record}
    (same : ∀ field : Field part, field.get record = field.get other) : record = other := by
  cases part with
  | connection =>
    obtain ⟨_, _, _, _⟩ := record
    obtain ⟨_, _, _, _⟩ := other
    cases same .urls
    cases same .connectionName
    cases same .maxReconnects
    cases same .reconnectWait
    rfl
  | source =>
    obtain ⟨_, _, _, _, _, _, _⟩ := record
    obtain ⟨_, _, _, _, _, _, _⟩ := other
    cases same .subject
    cases same .stream
    cases same .durable
    cases same .bufferSize
    cases same .deliverPolicy
    cases same .ackPolicy
    cases same .position
    rfl
  | destination =>
    obtain ⟨_, _, _, _⟩ := record
    obtain ⟨_, _, _, _⟩ := other
    cases same .target
    cases same .batchSize
    cases same .retryWait
    cases same .retryAttempts
    rfl

theorem connection_fields :
    Section.connection.fields.map Field.slot = ConnectionSettings.fields := rfl

theorem source_fields : Section.source.fields.map Field.slot = SourceSettings.fields := rfl

theorem destination_fields :
    Section.destination.fields.map Field.slot = DestinationSettings.fields := rfl

theorem mem_fields {part : Section} (field : Field part) : field ∈ part.fields := by
  cases field <;> decide

theorem fields_nodup (part : Section) : part.fields.Nodup := by
  cases part <;> decide

/-- A value that replaces what it is merged into. -/
inductive Plain : Setting → Prop where
  | scalar (value : Scalar) (origin : Option String) (set : value ≠ .null) :
    Plain (.scalar value origin)
  | list (items : List Setting) (origin : Option String) : Plain (.list items origin)

theorem Plain.onto_eq {setting : Setting} (plain : Plain setting) (old : Option Setting) :
    setting.onto old = setting := by
  cases plain <;> simp only [onto]

/-- The table that a deliver policy with a start sequence is written as. -/
inductive Starts : Setting → Setting → Prop where
  | table (number : Setting) (inner outer : Option String) (plain : Plain number) :
    Starts number
      (.table [("by_start_sequence", .table [("start_sequence", number)] inner)] outer)

/-- What may be written for a field. A policy without a start sequence may be written as a table
with one key too, but two tables with different keys merge into one with both, which is no policy;
so it has to be a text here. -/
def Field.Form {part : Section} (field : Field part) (setting : Setting) : Prop :=
  match field with
  | .deliverPolicy => Plain setting ∨ ∃ number, Starts number setting
  | _ => Plain setting

theorem Field.form_of_plain {part : Section} (field : Field part) {setting : Setting}
    (plain : Plain setting) : field.Form setting := by
  cases field with
  | deliverPolicy => exact .inl plain
  | _ => exact plain

/-- That a setting is one of the ways to write a value for a field. -/
structure Field.Writes {part : Section} (field : Field part) (setting : Setting)
    (value : field.Value) : Prop where
  form : field.Form setting
  reads : ∀ key, field.read key setting = .ok value

theorem Starts.read {number setting : Setting} (starts : Starts number setting)
    (key : SettingPath) :
    readDeliverPolicy key setting =
      (readWord (key ++ [.child "start_sequence"]) number).map fun start =>
        .byStartSequence start.toUInt64 := by
  cases starts
  rfl

/-- A start sequence that is merged into a policy takes its place. -/
theorem Starts.onto {number setting : Setting} (starts : Starts number setting)
    {old : Option Setting}
    (before : ∀ setting, old = some setting → Field.deliverPolicy.Form setting) :
    Starts number (setting.onto old) := by
  obtain ⟨inner, outer, plain⟩ := starts
  have outside : Text.lowerCase "by_start_sequence" = "by_start_sequence" := by decide
  have inside : Text.lowerCase "start_sequence" = "start_sequence" := by decide
  have merged (old : Setting) (same : old.entries = [] ∨ ∃ other, Starts other old) :
      Starts number ((Setting.table [("by_start_sequence",
        .table [("start_sequence", number)] inner)] outer).onto (some old)) := by
    simp only [Setting.onto, putAll, outside, inside, plain.onto_eq, Option.getD_some]
    rcases same with empty | ⟨other, starts⟩
    · rw [empty]
      exact .table number _ _ plain
    · cases starts
      exact .table number _ _ plain
  cases old with
  | none =>
    exact merged emptyTable (.inl rfl)
  | some old =>
    refine merged old ?_
    rcases before old rfl with (⟨_, _, _⟩ | ⟨_, _⟩) | ⟨other, starts⟩
    · exact .inl rfl
    · exact .inl rfl
    · exact .inr ⟨other, starts⟩

theorem Field.Writes.onto {part : Section} {field : Field part} {setting : Setting}
    {value : field.Value} (writes : field.Writes setting value) {old : Option Setting}
    (before : ∀ setting, old = some setting → field.Form setting) :
    field.Writes (setting.onto old) value := by
  obtain ⟨form, reads⟩ := writes
  have replaces (plain : Plain setting) : field.Writes (setting.onto old) value := by
    rw [plain.onto_eq]
    exact ⟨form, reads⟩
  cases field with
  | deliverPolicy =>
    rcases form with plain | ⟨number, starts⟩
    · exact replaces plain
    · have merged := starts.onto before
      refine ⟨.inr ⟨number, merged⟩, fun key => ?_⟩
      exact (merged.read key).trans ((starts.read key).symm.trans (reads key))
  | _ => exact replaces form

section reading
variable {part : Section} {key : SettingPath} {entries : List (String × Setting)}

theorem readEntries_absent {σ : Type} {field : SettingField σ} (rest : List (SettingField σ))
    (record : σ) (absent : entries.lookup field.name = none) :
    readEntries key entries (field :: rest) record = readEntries key entries rest record := by
  simp only [readEntries, absent]

theorem readEntries_present {σ : Type} {field : SettingField σ} (rest : List (SettingField σ))
    {record after : σ} {setting : Setting} (present : entries.lookup field.name = some setting)
    (reads : field.read record (key ++ [.child field.name]) setting = .ok after) :
    readEntries key entries (field :: rest) record = readEntries key entries rest after := by
  simp only [readEntries, present, reads]
  rfl

theorem read_listed {values : (field : Field part) → Option field.Value}
    (written : ∀ field : Field part,
      Option.Rel field.Writes (entries.lookup field.name) (values field))
    (record : part.Record) {fields : List (Field part)} (distinct : fields.Nodup) :
    ∃ after, readEntries key entries (fields.map Field.slot) record = .ok after ∧
      ∀ field, field.get after =
        if field ∈ fields then (values field).getD (field.get record) else field.get record := by
  induction fields generalizing record with
  | nil => exact ⟨record, rfl, fun field => rfl⟩
  | cons field rest ih =>
    obtain ⟨fresh, distinct⟩ := List.nodup_cons.mp distinct
    have relation := written field
    generalize present : entries.lookup field.name = setting, chosen : values field = value
      at relation
    cases relation with
    | none =>
      obtain ⟨after, reads, gets⟩ := ih record distinct
      refine ⟨after, ?_, fun other => (gets other).trans ?_⟩
      · rw [List.map_cons, readEntries_absent _ _ present, reads]
      · by_cases same : other = field
        · subst same
          rw [if_neg fresh, if_pos (.head _), chosen]
          rfl
        · simp only [List.mem_cons, same, false_or]
    | some writes =>
      rename_i setting value
      obtain ⟨after, reads, gets⟩ := ih (field.store record value) distinct
      refine ⟨after, ?_, fun other => (gets other).trans ?_⟩
      · have stored : field.slot.read record (key ++ [.child field.name]) setting =
            .ok (field.store record value) := congrArg (Except.map _) (writes.reads _)
        rw [List.map_cons, readEntries_present _ present stored, reads]
      · by_cases same : other = field
        · subst same
          rw [if_neg fresh, if_pos (.head _), chosen, Field.get_store]
          rfl
        · simp only [List.mem_cons, same, false_or, Field.get_store_other same]

/-- A table with values for some fields is read as a section with these values, and with those of
`record` for the other fields. -/
theorem read_fields {values : (field : Field part) → Option field.Value}
    (written : ∀ field : Field part,
      Option.Rel field.Writes (entries.lookup field.name) (values field)) (record : part.Record) :
    ∃ after, readEntries key entries (part.fields.map Field.slot) record = .ok after ∧
      ∀ field, field.get after = (values field).getD (field.get record) := by
  obtain ⟨after, reads, gets⟩ := read_listed written record (fields_nodup part)
  exact ⟨after, reads, fun field => (gets field).trans (if_pos (mem_fields field))⟩

end reading
end StreamBridge.Proofs.SettingFields
