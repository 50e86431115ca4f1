import StreamBridge.Proofs.SettingForms
import StreamBridge.Proofs.SettingOverrides
import StreamBridge.Proofs.TextEncoding

/-! Settings from four layers as they are written: three files with tables of sections, and the
variables of the environment. Every field has the value of the strongest layer that has it. -/

namespace StreamBridge.Proofs.LayeredSettings
open Setting Surroundings SettingFields SettingMerge SettingLayers SettingOverrides
open NumberTexts IntegerTexts SettingForms

/-! ### Files -/

/-- That the table of a file sets what a layer does: known sections with known fields, none twice,
each with a value of its own. -/
structure OfTable (entries : List (String × Yaml.Node)) (layer : Layer) : Prop where
  distinct : (entries.map Prod.fst).Nodup
  sections : ∀ entry ∈ entries, ∃ (part : Section) (fields : List (String × Yaml.Node)),
    entry = (part.name, .table fields) ∧ (fields.map Prod.fst).Nodup ∧
    ∀ written ∈ fields, ∃ (field : Field part) (value : field.Value),
      written.1 = field.name ∧ Spells field written.2 value ∧ layer.value field = some value
  set : ∀ {part : Section} (field : Field part), layer.value field ≠ none →
    ∃ fields, (part.name, Yaml.Node.table fields) ∈ entries ∧ field.name ∈ fields.map Prod.fst
  mentions : ∀ part, layer.mentions part = true ↔ part.name ∈ entries.map Prod.fst

/-- That the file at a path sets what a layer does. One without values sets nothing. -/
inductive OfFile (place : Surroundings) (path : String) : Layer → Prop where
  | table {found text : String} {content : Bytes} {entries : List (String × Yaml.Node)}
    {layer : Layer} (there : place.findFile path = some (found, content))
    (encoded : content = Utf8.encode text) (read : Yaml.read text = some (some (.table entries)))
    (sets : OfTable entries layer) : OfFile place path layer
  | blank {found text : String} {content : Bytes}
    (there : place.findFile path = some (found, content)) (encoded : content = Utf8.encode text)
    (read : Yaml.read text = some none) : OfFile place path .empty

/-- That a file sets what a layer does if there is a path to it, and else the layer sets nothing. -/
inductive OfPath (place : Surroundings) : Option String → Layer → Prop where
  | absent : OfPath place none .empty
  | file {path : String} {layer : Layer} (sets : OfFile place path layer) :
    OfPath place (some path) layer

theorem ofEntries_eq (origin : String) (entries : List (String × Yaml.Node)) :
    ofEntries origin entries = entries.map fun entry => (entry.1, ofNode origin entry.2) := by
  induction entries with
  | nil => rfl
  | cons entry entries ih =>
    rw [ofEntries, ih]
    rfl

theorem names_ofEntries (origin : String) (entries : List (String × Yaml.Node)) :
    (ofEntries origin entries).map Prod.fst = entries.map Prod.fst := by
  rw [ofEntries_eq, List.map_map]
  rfl

theorem lookup_ofEntries (origin name : String) (entries : List (String × Yaml.Node)) :
    (ofEntries origin entries).lookup name = (entries.lookup name).map (ofNode origin) := by
  induction entries with
  | nil => rfl
  | cons entry entries ih =>
    rw [ofEntries, lookup_entry, lookup_entry, ih]
    split <;> rfl

theorem lookup_of_mem {α : Type} {entries : List (String × α)} {name : String} {value : α}
    (distinct : (entries.map Prod.fst).Nodup) (member : (name, value) ∈ entries) :
    entries.lookup name = some value := by
  obtain ⟨before, after, rfl⟩ := List.append_of_mem member
  rw [List.map_append, List.nodup_append] at distinct
  refine List.lookup_eq_some_iff.mpr ⟨before, after, rfl, fun entry among => ?_⟩
  exact bne_iff_ne.mpr (distinct.2.2 _ (List.mem_map_of_mem among) _ (.head _)).symm

theorem lookup_isSome {α : Type} (entries : List (String × α)) (name : String) :
    (entries.lookup name).isSome = true ↔ name ∈ entries.map Prod.fst := by
  rw [List.lookup_isSome_iff, List.mem_map]
  exact exists_congr fun entry => and_congr_right fun _ => beq_iff_eq.trans eq_comm

section table
variable {entries : List (String × Yaml.Node)} {layer : Layer}

/-- What the table of a file has for a field is a value that the layer sets. -/
theorem OfTable.spelled (sets : OfTable entries layer) {part : Section} {field : Field part}
    {fields : List (String × Yaml.Node)} {node : Yaml.Node}
    (member : (part.name, .table fields) ∈ entries) (written : (field.name, node) ∈ fields) :
    ∃ value, Spells field node value ∧ layer.value field = some value := by
  obtain ⟨other, _, same, _, known⟩ := sets.sections _ member
  obtain rfl : part = other := section_injective (congrArg Prod.fst same)
  obtain rfl := Yaml.Node.table.inj (congrArg Prod.snd same)
  obtain ⟨field', value, named, spells, set⟩ := known _ written
  obtain rfl : field = field' := Field.name_injective named
  exact ⟨value, spells, set⟩

/-- A table of a file that sets what a layer does is read so. -/
theorem OfTable.inFile (sets : OfTable entries layer) (origin : String) :
    InFile (ofEntries origin entries) layer := by
  refine ⟨by rw [names_ofEntries]; exact sets.distinct, fun entry member => ?_, fun part => ?_,
    fun {part} field => ?_⟩
  · rw [ofEntries_eq] at member
    obtain ⟨_, present, rfl⟩ := List.mem_map.mp member
    obtain ⟨part, fields, rfl, distinct, known⟩ := sets.sections _ present
    refine ⟨part, ofEntries origin fields, some origin, rfl, by rwa [names_ofEntries], ?_⟩
    intro written among
    rw [ofEntries_eq] at among
    obtain ⟨_, present, rfl⟩ := List.mem_map.mp among
    obtain ⟨field, _, named, _⟩ := known _ present
    exact ⟨field, named⟩
  · rw [Bool.eq_iff_iff, sets.mentions, lookup_ofEntries, Option.isSome_map, lookup_isSome]
  · have under (fields : List (String × Yaml.Node)) :
        child field.name (ofNode origin (.table fields)) =
          (fields.lookup field.name).map (ofNode origin) := lookup_ofEntries ..
    rw [lookup_ofEntries]
    cases set : layer.value field with
    | some value =>
      obtain ⟨fields, member, named⟩ := sets.set field (by simp [set])
      obtain ⟨⟨_, node⟩, written, rfl⟩ := List.mem_map.mp named
      obtain ⟨_, _, same, distinct, _⟩ := sets.sections _ member
      obtain rfl := Yaml.Node.table.inj (congrArg Prod.snd same)
      obtain ⟨_, spells, again⟩ := sets.spelled member written
      obtain rfl := Option.some.inj (set.symm.trans again)
      rw [lookup_of_mem sets.distinct member, Option.map_some, Option.bind_some, under,
        lookup_of_mem distinct written]
      exact .some (spells.writes origin)
    | none =>
      -- A value for the field would be one that the layer sets.
      suffices absent : ((entries.lookup part.name).map (ofNode origin)).bind (child field.name) =
          none by
        rw [absent]
        exact .none
      cases present : entries.lookup part.name with
      | none => rfl
      | some node =>
        obtain ⟨_, fields, same, _⟩ := sets.sections _ (mem_of_lookup present)
        obtain rfl : node = .table fields := congrArg Prod.snd same
        rw [Option.map_some, Option.bind_some, under]
        cases written : fields.lookup field.name with
        | none => rfl
        | some node =>
          obtain ⟨_, _, again⟩ := sets.spelled (mem_of_lookup present) (mem_of_lookup written)
          cases set.symm.trans again

end table

section path
variable {place : Surroundings} {path : String} {layer : Layer}

/-- A file that sets what a layer does is read so. -/
theorem OfFile.reads (sets : OfFile place path layer) :
    ∃ entries, place.requiredFile path = .ok entries ∧ InFile entries layer := by
  cases sets with
  | @table found _ _ _ _ there encoded read sets =>
    refine ⟨_, ?_, sets.inFile found⟩
    simp only [requiredFile, there, encoded, TextEncoding.decode_encode, fileLayer, read]
  | blank there encoded read =>
    refine ⟨[], ?_, inFile_empty⟩
    simp only [requiredFile, there, encoded, TextEncoding.decode_encode, fileLayer, read]

theorem OfPath.reads {path : Option String} (sets : OfPath place path layer) :
    ∃ entries, path.elim (.ok []) place.requiredFile = .ok entries ∧ InFile entries layer := by
  cases sets with
  | absent => exact ⟨[], rfl, inFile_empty⟩
  | file sets => exact sets.reads

end path

/-! ### Variables -/

/-- The name of the variable for a field, in small letters. -/
def variableName {part : Section} (field : Field part) : String :=
  "jetstream_bridge__" ++ (part.name ++ "__" ++ field.name)

/-- The name of the variable for the start sequence of a deliver policy, in small letters. -/
def startName : String :=
  "jetstream_bridge__source__deliver_policy__by_start_sequence__start_sequence"

/-- What a variable sets, whatever the case of its name. -/
inductive Sets :
    {part : Section} → (field : Field part) → String × String → field.Value → Prop where
  | plain {part : Section} {field : Field part} {name text : String} {value : field.Value}
    (named : Text.lowerCase name = variableName field) (gives : Gives field text value) :
    Sets field (name, text) value
  | start {name text : String} {start : UInt64} (named : Text.lowerCase name = startName)
    (integer : Integer text.toList start.toNat) (small : start.toNat < 2 ^ 63) :
    Sets .deliverPolicy (name, text) (.byStartSequence start)

/-- That a variable is not one with settings. -/
def Foreign (name : String) : Prop :=
  ¬ "jetstream_bridge__".toList <+: (Text.lowerCase name).toList

instance (name : String) : Decidable (Foreign name) := inferInstanceAs (Decidable (¬ _))

/-- That the variables of the environment set what a layer does. -/
structure OfVariables (environment : List (String × String)) (layer : Layer) : Prop where
  known : ∀ entry ∈ environment, Foreign entry.1 ∨
    ∃ (part : Section) (field : Field part) (value : field.Value),
      Sets field entry value ∧ layer.value field = some value
  set : ∀ {part : Section} (field : Field part) (value : field.Value),
    layer.value field = some value → ∃ entry ∈ environment, Sets field entry value
  mentions : ∀ part, layer.mentions part = true ↔ ∃ field : Field part, layer.value field ≠ none

theorem variable_start :
    (Text.lowerCase variablePrefix).toList ++ separator = "jetstream_bridge__".toList := by
  decide

theorem variableKey_foreign {name : String} (foreign : Foreign name) : variableKey name = none := by
  unfold variableKey
  rw [variable_start]
  exact if_neg fun starts => foreign (List.isPrefixOf_iff_prefix.mp starts)

/-- The key of a variable, whose underscores in pairs stand for points. -/
theorem variableKey_pointed {name rest key : String}
    (named : Text.lowerCase name = "jetstream_bridge__" ++ rest)
    (keyed : pointed rest.toList = key.toList) : variableKey name = some key := by
  have starts : "jetstream_bridge__".toList.isPrefixOf (Text.lowerCase name).toList = true := by
    rw [named, String.toList_append, List.isPrefixOf_iff_prefix]
    exact List.prefix_append _ _
  unfold variableKey
  rw [variable_start]
  dsimp only
  rw [if_pos starts, named, String.toList_append, List.drop_left, keyed, String.ofList_toList]

theorem pointed_name {part : Section} (field : Field part) :
    pointed (part.name ++ "__" ++ field.name).toList = (part.name ++ "." ++ field.name).toList := by
  simp only [String.toList_append]
  cases field <;> decide

theorem Sets.variable {part : Section} {field : Field part} {entry : String × String}
    {value : field.Value} (sets : Sets field entry value) :
    ∃ key setting, variableKey entry.1 = some key ∧
      Variable field (key, variableSetting key entry.2) setting ∧ field.Writes setting value := by
  cases sets with
  | plain named gives =>
    refine ⟨part.name ++ "." ++ field.name, _, ?_, .plain field _, gives.writes⟩
    exact variableKey_pointed named (pointed_name field)
  | start named integer small =>
    refine ⟨"source.deliver_policy.by_start_sequence.start_sequence", _, ?_, .start _, ?_⟩
    · have split : startName = "jetstream_bridge__" ++
          "source__deliver_policy__by_start_sequence__start_sequence" := by decide
      exact variableKey_pointed (named.trans split) (by decide)
    · rw [integer_setting integer small]
      exact start_writes (.table _ _ _ (.scalar _ _ nofun))

theorem OfVariables.reads {place : Surroundings} {layer : Layer}
    (sets : OfVariables place.environment layer) : InVariables place.variableLayer layer := by
  refine ⟨fun entry member => ?_, fun {part} field set => ?_, sets.mentions⟩
  · obtain ⟨⟨name, text⟩, present, keyed⟩ := List.mem_filterMap.mp member
    obtain ⟨key, named, rfl⟩ := Option.map_eq_some_iff.mp keyed
    rcases sets.known _ present with foreign | ⟨part, field, value, sets, set⟩
    · cases (variableKey_foreign foreign).symm.trans named
    · obtain ⟨key', setting, named', leads, writes⟩ := sets.variable
      obtain rfl := Option.some.inj (named.symm.trans named')
      exact ⟨part, field, setting, value, leads, writes, set⟩
  · obtain ⟨value, set⟩ := Option.ne_none_iff_exists'.mp set
    obtain ⟨entry, present, sets⟩ := sets.set field value set
    obtain ⟨key, setting, named, leads, _⟩ := sets.variable
    refine ⟨_, List.mem_filterMap.mpr ⟨entry, present, ?_⟩, setting, leads⟩
    simp only [named, Option.map_some]

/-! ### All layers -/

/-- That the layers are written in the surroundings: in the default file, the file at a path, the
file that a variable names, and the variables. -/
structure Written (layers : Layers) (place : Surroundings) (path : Option String) : Prop where
  default : OfFile place "jetstream-bridge.yaml" layers.default ∨
    place.findFile "jetstream-bridge.yaml" = none ∧ layers.default = .empty
  named : OfPath place path layers.named
  further : OfPath place (place.environment.lookup "JETSTREAM_BRIDGE_CONFIG") layers.further
  environment : OfVariables place.environment layers.environment

theorem Written.read {layers : Layers} {place : Surroundings} {path : Option String}
    (written : Written layers place path) : layers.Read place path := by
  refine ⟨?_, written.named.reads, written.further.reads, written.environment.reads⟩
  rcases written.default with sets | ⟨absent, empty⟩
  · obtain ⟨entries, reads, inFile⟩ := sets.reads
    exact ⟨entries, by unfold optionalFile; rw [defaultFile, reads], inFile⟩
  · refine ⟨[], ?_, empty ▸ inFile_empty⟩
    unfold optionalFile requiredFile
    rw [defaultFile, absent]

/-- That layers are as others but for one field, which may be the only one of its section. -/
structure AlikeBut (changed : (part : Section) × Field part) (first second : Layers) : Prop where
  mentions : ∀ part, part ≠ changed.1 →
    first.strongest.map (·.mentions part) = second.strongest.map (·.mentions part)
  values : ∀ {part : Section} (field : Field part),
    (⟨part, field⟩ : (part : Section) × Field part) ≠ changed →
      first.strongest.map (·.value field) = second.strongest.map (·.value field)

/-- Settings are loaded from any four layers of known fields with values of their types. A section
other than the connection is there if and only if some layer mentions it. Each field of a section
has the value that the strongest layer that sets it gives it, a list as a whole, or else its
default. So if layers are changed in one field, no other field is loaded differently. -/
theorem layers_override (durable : String) {place : Surroundings} {path : Option String}
    {layers : Layers} (written : Written layers place path) :
    ∃ settings, Settings.load durable place path = .ok settings ∧
      (∀ part : Section, (part.of settings).isSome =
        (part == .connection || layers.strongest.any (·.mentions part))) ∧
      (∀ (part : Section) (record : part.Record), part.of settings = some record →
        ∀ field : Field part, field.get record =
          (layers.strongest.findSome? (·.value field)).getD (field.get (part.default durable))) ∧
      ∀ (place' : Surroundings) (path' : Option String) (layers' : Layers)
        (changed : (part : Section) × Field part),
        Written layers' place' path' → AlikeBut changed layers layers' →
        ∃ settings', Settings.load durable place' path' = .ok settings' ∧
          (∀ part : Section, part ≠ changed.1 →
            (part.of settings').isSome = (part.of settings).isSome) ∧
          ∀ (part : Section) (record record' : part.Record),
            part.of settings = some record → part.of settings' = some record' →
            ∀ field : Field part, (⟨part, field⟩ : (part : Section) × Field part) ≠ changed →
              field.get record' = field.get record := by
  obtain ⟨settings, loads, loaded⟩ := load_layers durable written.read
  refine ⟨settings, loads, fun part => ?_, fun part record there field => ?_, ?_⟩
  · rw [(loaded part).there, merged_mentions]
  · rw [(loaded part).values record there field, merged_value]
  · intro place' path' layers' changed written' alike
    obtain ⟨settings', loads', loaded'⟩ := load_layers durable written'.read
    refine ⟨settings', loads', fun part other => ?_, ?_⟩
    · have mentions := congrArg (List.any · id) (alike.mentions part other)
      simp only [List.any_map, Function.id_comp] at mentions
      rw [(loaded part).there, (loaded' part).there, merged_mentions, merged_mentions]
      exact congrArg (part == .connection || ·) mentions.symm
    · intro part record record' there there' field other
      have values := congrArg (List.findSome? id) (alike.values field other)
      simp only [List.findSome?_map, Function.id_comp] at values
      rw [(loaded part).values record there field, (loaded' part).values record' there' field,
        merged_value, merged_value, values]

/-! ### An example -/

mutual

/-- Whether two nodes without fractions are the same. -/
def sameNode : Yaml.Node → Yaml.Node → Bool
  | .null, .null | .unfit, .unfit => true
  | .boolean value, .boolean other => value == other
  | .integer value, .integer other => value == other
  | .text value, .text other => value == other
  | .list items, .list others => sameItems items others
  | .table entries, .table others => sameEntries entries others
  | _, _ => false

def sameItems : List Yaml.Node → List Yaml.Node → Bool
  | [], [] => true
  | item :: items, other :: others => sameNode item other && sameItems items others
  | _, _ => false

def sameEntries : List (String × Yaml.Node) → List (String × Yaml.Node) → Bool
  | [], [] => true
  | (key, value) :: entries, (name, other) :: others =>
    key == name && sameNode value other && sameEntries entries others
  | _, _ => false

end

mutual

theorem sameNode_eq : ∀ {node other : Yaml.Node}, sameNode node other = true → node = other
  | .null, .null, _ | .unfit, .unfit, _ => rfl
  | .boolean _, .boolean _, same => congrArg _ (beq_iff_eq.mp same)
  | .integer _, .integer _, same => congrArg _ (beq_iff_eq.mp same)
  | .text _, .text _, same => congrArg _ (beq_iff_eq.mp same)
  | .list _, .list _, same => congrArg _ (sameItems_eq same)
  | .table _, .table _, same => congrArg _ (sameEntries_eq same)

theorem sameItems_eq : ∀ {items others : List Yaml.Node}, sameItems items others = true →
    items = others
  | [], [], _ => rfl
  | _ :: _, _ :: _, same => by
    obtain ⟨first, rest⟩ := Bool.and_eq_true_iff.mp same
    rw [sameNode_eq first, sameItems_eq rest]

theorem sameEntries_eq : ∀ {entries others : List (String × Yaml.Node)},
    sameEntries entries others = true → entries = others
  | [], [], _ => rfl
  | (_, _) :: _, (_, _) :: _, same => by
    obtain ⟨first, rest⟩ := Bool.and_eq_true_iff.mp same
    obtain ⟨key, value⟩ := Bool.and_eq_true_iff.mp first
    rw [beq_iff_eq.mp key, sameNode_eq value, sameEntries_eq rest]

end

theorem read_same {text : String} {entries : List (String × Yaml.Node)}
    (same : ((Yaml.read text).bind id).any (sameNode · (.table entries)) = true) :
    Yaml.read text = some (some (.table entries)) := by
  cases read : Yaml.read text with
  | none => rw [read] at same; cases same
  | some found =>
    cases found with
    | none => rw [read] at same; cases same
    | some node =>
      rw [read] at same
      rw [sameNode_eq (show sameNode node (.table entries) = true from same)]

def defaultText : String :=
  "connection:\n  urls: [one, two]\n  max_reconnects: 7\nsource:\n  buffer_size: 256\n"

def namedText : String :=
  "connection:\n  urls: [three]\nsource:\n  deliver_policy: new\n  stream: ORDERS\n"

def furtherText : String :=
  "source:\n  buffer_size: 512\n  subject: orders\ndestination:\n  retry_attempts: 4\n"

/-- A directory with three files, and variables for them. -/
def directory : Surroundings where
  files :=
    [("jetstream-bridge.yaml", Utf8.encode defaultText), ("bridge.yaml", Utf8.encode namedText),
      ("more.yaml", Utf8.encode furtherText)]
  environment :=
    [("HOME", "/"), ("JETSTREAM_BRIDGE_CONFIG", "more"),
      ("JETSTREAM_BRIDGE__SOURCE__SUBJECT", "invoices"),
      ("JETSTREAM_BRIDGE__SOURCE__DELIVER_POLICY__BY_START_SEQUENCE__START_SEQUENCE", "12"),
      ("Jetstream_Bridge__Destination__Retry_Attempts", "+07")]

def inDirectory : Layers where
  default :=
    { mentions := fun part => part != .destination
      value := fun
        | .urls => some ["one", "two"]
        | .maxReconnects => some (7 : Nat)
        | .bufferSize => some (256 : Nat)
        | _ => none }
  named :=
    { mentions := fun part => part != .destination
      value := fun
        | .urls => some ["three"]
        | .deliverPolicy => some DeliverPolicy.new
        | .stream => some "ORDERS"
        | _ => none }
  further :=
    { mentions := fun part => part != .connection
      value := fun
        | .bufferSize => some (512 : Nat)
        | .subject => some "orders"
        | .retryAttempts => some (4 : Nat)
        | _ => none }
  environment :=
    { mentions := fun part => part != .connection
      value := fun
        | .subject => some "invoices"
        | .deliverPolicy => some (DeliverPolicy.byStartSequence 12)
        | .retryAttempts => some (7 : Nat)
        | _ => none }

theorem default_written : OfFile directory "jetstream-bridge.yaml" inDirectory.default := by
  have there : directory.findFile "jetstream-bridge.yaml" =
      some ("jetstream-bridge.yaml", Utf8.encode defaultText) := by decide +kernel
  have read : Yaml.read defaultText = some (some (.table
      [("connection", .table [("urls", .list [.text "one", .text "two"]),
          ("max_reconnects", .integer 7)]),
        ("source", .table [("buffer_size", .integer 256)])])) := read_same (by decide +kernel)
  refine .table there rfl read
    ⟨by decide, ?_, fun field set => ?_, fun part => by cases part <;> decide⟩
  · simp only [List.forall_mem_cons]
    refine ⟨⟨.connection, _, rfl, by decide, ?_⟩, ⟨.source, _, rfl, by decide, ?_⟩, nofun⟩
    · simp only [List.forall_mem_cons]
      exact ⟨⟨.urls, ["one", "two"], rfl, rfl, rfl⟩,
        ⟨.maxReconnects, (7 : Nat), rfl, ⟨rfl, by decide⟩, rfl⟩, nofun⟩
    · simp only [List.forall_mem_cons]
      exact ⟨⟨.bufferSize, (256 : Nat), rfl, ⟨rfl, by decide⟩, rfl⟩, nofun⟩
  · cases field with
    | urls | maxReconnects => exact ⟨_, .head _, by decide⟩
    | bufferSize => exact ⟨_, .tail _ (.head _), by decide⟩
    | _ => exact absurd rfl set

theorem named_written : OfFile directory "bridge.yaml" inDirectory.named := by
  have there : directory.findFile "bridge.yaml" =
      some ("bridge.yaml", Utf8.encode namedText) := by decide +kernel
  have read : Yaml.read namedText = some (some (.table
      [("connection", .table [("urls", .list [.text "three"])]),
        ("source", .table [("deliver_policy", .text "new"), ("stream", .text "ORDERS")])])) :=
    read_same (by decide +kernel)
  refine .table there rfl read
    ⟨by decide, ?_, fun field set => ?_, fun part => by cases part <;> decide⟩
  · simp only [List.forall_mem_cons]
    refine ⟨⟨.connection, _, rfl, by decide, ?_⟩, ⟨.source, _, rfl, by decide, ?_⟩, nofun⟩
    · simp only [List.forall_mem_cons]
      exact ⟨⟨.urls, ["three"], rfl, rfl, rfl⟩, nofun⟩
    · simp only [List.forall_mem_cons]
      exact ⟨⟨.deliverPolicy, DeliverPolicy.new, rfl, .new (by decide), rfl⟩,
        ⟨.stream, "ORDERS", rfl, rfl, rfl⟩, nofun⟩
  · cases field with
    | urls => exact ⟨_, .head _, by decide⟩
    | deliverPolicy | stream => exact ⟨_, .tail _ (.head _), by decide⟩
    | _ => exact absurd rfl set

theorem further_written : OfFile directory "more" inDirectory.further := by
  have there : directory.findFile "more" =
      some ("more.yaml", Utf8.encode furtherText) := by decide +kernel
  have read : Yaml.read furtherText = some (some (.table
      [("source", .table [("buffer_size", .integer 512), ("subject", .text "orders")]),
        ("destination", .table [("retry_attempts", .integer 4)])])) :=
    read_same (by decide +kernel)
  refine .table there rfl read
    ⟨by decide, ?_, fun field set => ?_, fun part => by cases part <;> decide⟩
  · simp only [List.forall_mem_cons]
    refine ⟨⟨.source, _, rfl, by decide, ?_⟩, ⟨.destination, _, rfl, by decide, ?_⟩, nofun⟩
    · simp only [List.forall_mem_cons]
      exact ⟨⟨.bufferSize, (512 : Nat), rfl, ⟨rfl, by decide⟩, rfl⟩,
        ⟨.subject, "orders", rfl, rfl, rfl⟩, nofun⟩
    · simp only [List.forall_mem_cons]
      exact ⟨⟨.retryAttempts, (4 : Nat), rfl, ⟨rfl, by decide⟩, rfl⟩, nofun⟩
  · cases field with
    | bufferSize | subject => exact ⟨_, .head _, by decide⟩
    | retryAttempts => exact ⟨_, .tail _ (.head _), by decide⟩
    | _ => exact absurd rfl set

theorem environment_written : OfVariables directory.environment inDirectory.environment := by
  have subject : Sets .subject ("JETSTREAM_BRIDGE__SOURCE__SUBJECT", "invoices") "invoices" :=
    .plain (by decide +kernel) ⟨by decide +kernel, rfl⟩
  have start : Sets .deliverPolicy
      ("JETSTREAM_BRIDGE__SOURCE__DELIVER_POLICY__BY_START_SEQUENCE__START_SEQUENCE", "12")
      (.byStartSequence 12) :=
    .start (by decide +kernel) (show Integer ['1', '2'] 12 from .bare (by decide)) (by decide)
  have attempts : Sets .retryAttempts ("Jetstream_Bridge__Destination__Retry_Attempts", "+07")
      (7 : Nat) :=
    .plain (by decide +kernel) ⟨show Integer ['+', '0', '7'] 7 from .plus (by decide), by decide⟩
  refine ⟨?_, fun field value set => ?_, fun part => ?_⟩
  · simp only [directory, List.forall_mem_cons]
    exact ⟨.inl (by decide +kernel), .inl (by decide +kernel),
      .inr ⟨_, _, _, subject, rfl⟩, .inr ⟨_, _, _, start, rfl⟩, .inr ⟨_, _, _, attempts, rfl⟩,
      nofun⟩
  · cases field with
    | subject =>
      obtain rfl := Option.some.inj set
      exact ⟨_, by simp [directory], subject⟩
    | deliverPolicy =>
      obtain rfl := Option.some.inj set
      exact ⟨_, by simp [directory], start⟩
    | retryAttempts =>
      obtain rfl := Option.some.inj set
      exact ⟨_, by simp [directory], attempts⟩
    | _ => cases set
  · cases part with
    | connection => exact iff_of_false nofun fun ⟨field, set⟩ => by cases field <;> exact set rfl
    | source => exact iff_of_true rfl ⟨.subject, nofun⟩
    | destination => exact iff_of_true rfl ⟨.retryAttempts, nofun⟩

theorem directory_written : Written inDirectory directory (some "bridge.yaml") where
  default := .inl default_written
  named := .file named_written
  further := .file further_written
  environment := environment_written

theorem layers_override_directory :
    Written inDirectory directory (some "bridge.yaml") ∧
    Settings.load "fresh" directory (some "bridge.yaml") = .ok
      { connection := { ConnectionSettings.default with urls := ["three"], maxReconnects := 7 }
        source := some
          { subject := "invoices", stream := "ORDERS", durable := "fresh", bufferSize := 512,
            deliverPolicy := .byStartSequence 12, ackPolicy := .explicit, position := none }
        destination := some { DestinationSettings.default with retryAttempts := 7 } } := by
  obtain ⟨⟨connection, source, destination⟩, loads, there, values, _⟩ :=
    layers_override "fresh" directory_written
  obtain ⟨source, rfl⟩ := Option.isSome_iff_exists.mp (there .source)
  obtain ⟨destination, rfl⟩ := Option.isSome_iff_exists.mp (there .destination)
  refine ⟨directory_written, loads.trans (congrArg Except.ok ?_)⟩
  congr 1
  · exact record_eq .connection fun field =>
      (values .connection connection rfl field).trans (by cases field <;> rfl)
  · exact congrArg some (record_eq .source fun field =>
      (values .source source rfl field).trans (by cases field <;> rfl))
  · exact congrArg some (record_eq .destination fun field =>
      (values .destination destination rfl field).trans (by cases field <;> rfl))

/-! ### What is left out -/

/-- The buffer size of a source that has been loaded. -/
def bufferSize? (result : Except LoadError Settings) : Option Nat :=
  (result.toOption.bind Settings.source).map SourceSettings.bufferSize

/-- What is not loaded as it is written. A number from 2 ^ 63 on is read as a fraction, whether it
stands in a file or in a variable, so the word next to it may arrive. An address that is a number is
no list of addresses. A policy may be a table with its name as the key, but such a table and one
with a start sequence merge into no policy. -/
theorem forms_left_out :
    bufferSize? (Settings.load "fresh" ⟨[("jetstream-bridge.yaml",
      Utf8.encode "source:\n  buffer_size: 9223372036854775809\n")], []⟩ none) =
        some 9223372036854775808 ∧
    bufferSize? (Settings.load "fresh" ⟨[], [("JETSTREAM_BRIDGE__SOURCE__BUFFER_SIZE",
      "9223372036854775809")]⟩ none) = some 9223372036854775808 ∧
    (Settings.load "fresh" ⟨[], [("JETSTREAM_BRIDGE__CONNECTION__URLS", "4222")]⟩ none).toOption =
      none ∧
    (Settings.load "fresh" ⟨[("jetstream-bridge.yaml",
      Utf8.encode "source:\n  deliver_policy:\n    new: 1\n")],
      [("JETSTREAM_BRIDGE__SOURCE__DELIVER_POLICY__BY_START_SEQUENCE__START_SEQUENCE", "5")]⟩
        none).toOption = none := by
  refine ⟨?_, ?_, ?_, ?_⟩ <;> decide +kernel

end StreamBridge.Proofs.LayeredSettings
