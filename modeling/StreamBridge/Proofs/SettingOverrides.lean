import StreamBridge.Proofs.SettingLayers

/-! Settings that are loaded from layers: every field has the value of the strongest layer that sets
it. -/

namespace StreamBridge.Proofs.SettingOverrides
open Setting SettingFields SettingMerge SettingLayers

/-- The section of settings as a field of theirs. -/
def slot (durable : String) : Section → SettingField Settings
  | .connection =>
    .of "connection" (readSection "ConnectionConfig" ConnectionSettings.fields .default)
      fun settings value => { settings with connection := value }
  | .source =>
    .of "source" (readOptional
        (readSection "SourceConfig" SourceSettings.fields (.default durable)))
      fun settings value => { settings with source := value }
  | .destination =>
    .of "destination" (readOptional
        (readSection "DestinationConfig" DestinationSettings.fields .default))
      fun settings value => { settings with destination := value }

/-- Settings with a section changed. -/
def put : (part : Section) → Settings → part.Record → Settings
  | .connection => fun settings (record : ConnectionSettings) =>
    { settings with connection := record }
  | .source => fun settings (record : SourceSettings) => { settings with source := some record }
  | .destination => fun settings (record : DestinationSettings) =>
    { settings with destination := some record }

theorem of_put (part : Section) (settings : Settings) (record : part.Record) :
    part.of (put part settings record) = some record := by
  cases part <;> rfl

theorem of_put_other {part other : Section} (apart : other ≠ part) (settings : Settings)
    (record : part.Record) : other.of (put part settings record) = other.of settings := by
  cases part <;> cases other <;> first | rfl | exact absurd rfl apart

theorem slot_read {durable : String} {part : Section} {key : SettingPath}
    {entries : List (String × Setting)} {record : part.Record}
    (reads : readEntries key entries (part.fields.map Field.slot) (part.default durable) =
      .ok record) (settings : Settings) (origin : Option String) :
    (slot durable part).read settings key (.table entries origin) =
      .ok (put part settings record) := by
  cases part with
  | connection =>
    rw [connection_fields] at reads
    exact congrArg (Except.map _) reads
  | source =>
    rw [source_fields] at reads
    exact congrArg (Except.map _) (congrArg (Except.map some) reads)
  | destination =>
    rw [destination_fields] at reads
    exact congrArg (Except.map _) (congrArg (Except.map some) reads)

/-- That a section has been loaded as a layer sets it. -/
structure Loaded (durable : String) (layer : Layer) (part : Section) (settings : Settings) :
    Prop where
  there : (part.of settings).isSome = (part == .connection || layer.mentions part)
  values : ∀ record, part.of settings = some record → ∀ field : Field part,
    field.get record = (layer.value field).getD (field.get (part.default durable))

section reading
variable {durable : String} {layer : Layer} {entries : List (String × Setting)}
  {origin : Option String}

theorem value_unmentioned {settings : Setting} (holds : Holds settings layer) {part : Section}
    (unmentioned : layer.mentions part = false) (field : Field part) :
    layer.value field = none := by
  have written := holds.values field
  rw [found, holds.absent part unmentioned] at written
  generalize layer.value field = value at written ⊢
  cases written
  rfl

/-- Reading a section leaves the others, and what follows. -/
theorem read_section (durable : String) (holds : Holds (.table entries origin) layer)
    (part : Section) (settings : Settings) (unset : part.of settings = part.of .default) :
    ∃ after, Loaded durable layer part after ∧
      (∀ other, other ≠ part → other.of after = other.of settings) ∧
      ∀ rest, readEntries [] entries (slot durable part :: rest) settings =
        readEntries [] entries rest after := by
  have name : (slot durable part).name = part.name := by cases part <;> rfl
  cases mentions : layer.mentions part with
  | false =>
    refine ⟨settings, ⟨?_, ?_⟩, fun _ _ => rfl, fun rest => readEntries_absent rest settings ?_⟩
    · rw [unset, mentions]
      cases part <;> rfl
    · intro record there field
      rw [value_unmentioned holds mentions, Option.getD_none]
      cases part with
      | connection => exact congrArg field.get (Option.some.inj (there.symm.trans unset))
      | source | destination => exact nomatch there.symm.trans unset
    · rw [name]
      exact holds.absent part mentions
  | true =>
    obtain ⟨fields, inner, present⟩ := holds.present part mentions
    have written (field : Field part) :
        Option.Rel field.Writes (fields.lookup field.name) (layer.value field) := by
      have written := holds.values field
      rwa [found, present] at written
    obtain ⟨record, reads, gets⟩ := read_fields written (part.default durable)
    refine ⟨put part settings record, ⟨?_, ?_⟩,
      fun other apart => of_put_other apart settings record,
      fun rest => readEntries_present rest ?_ (slot_read reads settings inner)⟩
    · rw [of_put, mentions, Bool.or_true]
      rfl
    · intro stored there field
      obtain rfl : record = stored :=
        Option.some.inj ((of_put part settings record).symm.trans there)
      exact gets field
    · rw [name]
      exact present

theorem Loaded.of_same {part : Section} {settings after : Settings}
    (loaded : Loaded durable layer part settings) (same : part.of after = part.of settings) :
    Loaded durable layer part after := by
  refine ⟨same ▸ loaded.there, fun record there => ?_⟩
  exact loaded.values record (same ▸ there)

theorem ofSetting_holds (durable : String) (holds : Holds (.table entries origin) layer) :
    ∃ settings, Settings.ofSetting durable (.table entries origin) = .ok settings ∧
      ∀ part, Loaded durable layer part settings := by
  obtain ⟨first, connection, kept, reads⟩ := read_section durable holds .connection .default rfl
  obtain ⟨second, source, kept', reads'⟩ :=
    read_section durable holds .source first (kept .source nofun)
  obtain ⟨third, destination, kept'', reads''⟩ := read_section durable holds .destination second
    ((kept' .destination nofun).trans (kept .destination nofun))
  refine ⟨third, ?_, fun part => ?_⟩
  · calc Settings.ofSetting durable (.table entries origin)
      _ = readEntries [] entries
          [slot durable .connection, slot durable .source, slot durable .destination] .default :=
        rfl
      _ = .ok third := by rw [reads, reads', reads'']; rfl
  · cases part with
    | connection =>
      exact (connection.of_same (kept' .connection nofun)).of_same (kept'' .connection nofun)
    | source => exact source.of_same (kept'' .source nofun)
    | destination => exact destination

end reading

/-- The four layers that settings are loaded from. -/
structure Layers where
  default : Layer
  named : Layer
  further : Layer
  environment : Layer

namespace Layers

/-- The layers, the strongest first. -/
def strongest (layers : Layers) : List Layer :=
  [layers.environment, layers.further, layers.named, layers.default]

/-- That the layers are what is read of the surroundings. A file that is not there sets nothing. -/
structure Read (layers : Layers) (place : Surroundings) (path : Option String) : Prop where
  default : ∃ entries, place.optionalFile Surroundings.defaultFile = .ok entries ∧
    InFile entries layers.default
  named : ∃ entries, path.elim (.ok []) place.requiredFile = .ok entries ∧
    InFile entries layers.named
  further : ∃ entries,
    (place.environment.lookup Surroundings.fileVariable).elim (.ok []) place.requiredFile =
      .ok entries ∧ InFile entries layers.further
  environment : InVariables place.variableLayer layers.environment

end Layers

/-- The settings that layers, the strongest first, come to. -/
def merged (layers : List Layer) : Layer := layers.foldr .atop .empty

theorem merged_mentions (layers : List Layer) (part : Section) :
    (merged layers).mentions part = layers.any (·.mentions part) := by
  induction layers with
  | nil => rfl
  | cons layer rest ih => exact congrArg (layer.mentions part || ·) ih

theorem merged_value (layers : List Layer) {part : Section} (field : Field part) :
    (merged layers).value field = layers.findSome? (·.value field) := by
  induction layers with
  | nil => rfl
  | cons layer rest ih =>
    rw [List.findSome?_cons, ← ih]
    show (layer.value field).or _ = _
    cases layer.value field <;> rfl

theorem load_layers (durable : String) {place : Surroundings} {path : Option String}
    {layers : Layers} (layered : layers.Read place path) :
    ∃ settings, Settings.load durable place path = .ok settings ∧
      ∀ part, Loaded durable (merged layers.strongest) part settings := by
  obtain ⟨default, readsDefault, inDefault⟩ := layered.default
  obtain ⟨named, readsNamed, inNamed⟩ := layered.named
  obtain ⟨further, readsFurther, inFurther⟩ := layered.further
  have holds : Holds _ (merged layers.strongest) :=
    (((holds_empty.addFile inDefault).addFile inNamed).addFile inFurther).addVariables
      layered.environment
  have read : place.layers path = .ok [default, named, further, place.variableLayer] := by
    unfold Surroundings.layers
    rw [readsDefault, readsNamed, readsFurther]
    rfl
  obtain ⟨entries, origin, table⟩ := holds.table
  rw [table] at holds
  obtain ⟨settings, loads, loaded⟩ := ofSetting_holds durable holds
  refine ⟨settings, ?_, loaded⟩
  unfold Settings.load
  rw [read, ← loads, ← table]
  rfl

/-- A field is loaded with the value that the strongest layer gives it. -/
theorem load_field (durable : String) {place : Surroundings} {path : Option String}
    {layers : Layers} (layered : layers.Read place path) {part : Section} {field : Field part}
    {value : field.Value}
    (mentioned : layers.strongest.any (·.mentions part) = true)
    (set : layers.strongest.findSome? (·.value field) = some value) :
    ∃ settings record, Settings.load durable place path = .ok settings ∧
      part.of settings = some record ∧ field.get record = value := by
  obtain ⟨settings, loads, loaded⟩ := load_layers durable layered
  have there := (loaded part).there
  rw [merged_mentions, mentioned, Bool.or_true] at there
  obtain ⟨record, present⟩ := Option.isSome_iff_exists.mp there
  refine ⟨settings, record, loads, present, ?_⟩
  rw [(loaded part).values record present field, merged_value, set]
  rfl

end StreamBridge.Proofs.SettingOverrides
