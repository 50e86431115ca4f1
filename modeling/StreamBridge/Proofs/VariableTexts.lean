import StreamBridge.Proofs.IntegerTexts
import StreamBridge.Proofs.SettingOverrides

/-! Texts that variables of the environment set. A text that can be read as a truth value or a
number is one until a field takes it as a text, written anew. -/

namespace StreamBridge.Proofs.VariableTexts
open Setting Surroundings IntegerTexts SettingFields SettingLayers SettingOverrides

/-- The fields that are texts, with what a text is for them. -/
inductive TextField : {part : Section} → (field : Field part) → (String → field.Value) → Prop where
  | connectionName : TextField .connectionName some
  | subject : TextField .subject id
  | stream : TextField .stream id
  | durable : TextField .durable id
  | position : TextField .position some
  | target : TextField .target id

/-- The text that arrives where a variable sets a text. -/
def rewritten (text : String) : String :=
  match truth? text with
  | some truth => if truth then "true" else "false"
  | none =>
    match Decimal.readSigned 64 text.toList with
    | .ok number => toString number
    | .error _ => (Decimal.readFloat? text.toList).elim text Decimal.plainText

/-- That a text is what is written for the value it is read as, if it is read as one. -/
def Kept (text : String) : Prop :=
  match truth? text with
  | some _ => text = "true" ∨ text = "false"
  | none =>
    match Decimal.readSigned 64 text.toList with
    | .ok _ => isPlain text.toList = true
    | .error _ => ∀ number ∈ Decimal.readFloat? text.toList, Decimal.plainText number = text

/-- A text arrives as it was set if and only if that is how its value is written. -/
theorem rewritten_eq (text : String) : rewritten text = text ↔ Kept text := by
  unfold rewritten Kept
  split
  next truth read =>
    constructor
    · rintro rfl
      cases truth
      · exact .inr rfl
      · exact .inl rfl
    · have yes : truth? "true" = some true := by decide
      have no : truth? "false" = some false := by decide
      rintro (rfl | rfl)
      · obtain rfl : true = truth := Option.some.inj (yes.symm.trans read)
        rfl
      · obtain rfl : false = truth := Option.some.inj (no.symm.trans read)
        rfl
  · split
    next number read =>
      have kept := integer_kept (readSigned_ok read)
      rwa [String.ofList_toList] at kept
    · cases Decimal.readFloat? text.toList <;> simp

section loading
variable {part : Section} {field : Field part} {wrap : String → field.Value}

theorem TextField.writes (is : TextField field wrap) {value : Scalar} {text : String}
    {origin : Option String} (set : value ≠ .null)
    (reads : ∀ key, readText key (.scalar value origin) = .ok text) :
    field.Writes (.scalar value origin) (wrap text) := by
  refine ⟨field.form_of_plain (.scalar _ _ set), fun key => ?_⟩
  have present : readOptional readText key (.scalar value origin) = .ok (some text) := by
    cases value with
    | null => exact absurd rfl set
    | _ => exact congrArg (Except.map some) (reads key)
  cases is with
  | connectionName | position => exact present
  | _ => exact reads key

theorem TextField.key_ne (is : TextField field wrap) :
    part.name ++ "." ++ field.name ≠ listKey := by
  cases is <;> decide

theorem variable_reads {key : String} (single : key ≠ listKey) (text : String) :
    ∃ value, variableSetting key text = .scalar value (some variableOrigin) ∧ value ≠ .null ∧
      ∀ place, readText place (.scalar value (some variableOrigin)) = .ok (rewritten text) := by
  unfold variableSetting rewritten
  have other : (key == listKey) = false := beq_eq_false_iff_ne.mpr single
  rw [other]
  cases truth? text with
  | some truth => exact ⟨_, rfl, nofun, fun _ => rfl⟩
  | none =>
    cases Decimal.readSigned 64 text.toList with
    | ok number => exact ⟨_, rfl, nofun, fun _ => rfl⟩
    | error =>
      cases Decimal.readFloat? text.toList with
      | some number => exact ⟨_, rfl, nofun, fun _ => rfl⟩
      | none => exact ⟨_, rfl, nofun, fun _ => rfl⟩

theorem TextField.writes_variable (is : TextField field wrap) (text : String) :
    field.Writes (variableSetting (part.name ++ "." ++ field.name) text)
      (wrap (rewritten text)) := by
  obtain ⟨value, setting, set, reads⟩ := variable_reads is.key_ne text
  rw [setting]
  exact is.writes set reads

/-- That a variable with a text is the only one with a setting, and that no file is to be read
without being named. -/
structure Alone (place : Surroundings) (name text : String) : Prop where
  set : ∃ before after, place.environment = before ++ (name, text) :: after ∧
    ∀ entry ∈ before ++ after, variableKey entry.1 = none
  default : place.findFile defaultFile = none
  further : place.environment.lookup fileVariable = none

theorem default_absent {place : Surroundings} (absent : place.findFile defaultFile = none) :
    place.optionalFile defaultFile = .ok [] := by
  unfold optionalFile requiredFile
  rw [absent]

theorem Alone.variableLayer {place : Surroundings} {name text key : String}
    (alone : Alone place name text) (keyed : variableKey name = some key) :
    place.variableLayer = [(key, variableSetting key text)] := by
  obtain ⟨before, after, environment, others⟩ := alone.set
  have unset {entries : List (String × String)}
      (inside : ∀ entry ∈ entries, entry ∈ before ++ after) :
      ({ place with environment := entries } : Surroundings).variableLayer = [] :=
    List.filterMap_eq_nil_iff.mpr fun entry member => by simp [others entry (inside entry member)]
  have first := unset fun _ member => List.mem_append_left after member
  have last := unset fun _ member => List.mem_append_right before member
  unfold Surroundings.variableLayer at first last ⊢
  rw [environment, List.filterMap_append, List.filterMap_cons, first, last]
  simp only [keyed, Option.map_some, List.nil_append]

/-- A text that one variable sets is loaded as it is written for the value it is read as. -/
theorem load_variable (durable : String) (is : TextField field wrap) {place : Surroundings}
    {name text : String} (alone : Alone place name text)
    (keyed : variableKey name = some (part.name ++ "." ++ field.name)) :
    ∃ settings record, Settings.load durable place none = .ok settings ∧
      part.of settings = some record ∧ field.get record = wrap (rewritten text) := by
  let layers : Layers :=
    { default := .empty, named := .empty, further := .empty,
      environment := .single field (wrap (rewritten text)) }
  have layered : layers.Read place none := by
    refine ⟨⟨[], default_absent alone.default, inFile_empty⟩, ⟨[], rfl, inFile_empty⟩,
      ⟨[], by rw [alone.further]; rfl, inFile_empty⟩, ?_⟩
    rw [alone.variableLayer keyed]
    exact inVariables_single (is.writes_variable text)
  exact load_field durable layered (by simp [Layers.strongest, layers, Layer.single])
    (by simp [Layers.strongest, layers])

/-- A text that a file sets is loaded as it stands there. -/
theorem load_file (durable : String) (is : TextField field wrap) {place : Surroundings}
    {path text : String} {inner outer : Option String}
    (default : place.findFile defaultFile = none)
    (further : place.environment.lookup fileVariable = none) (unset : place.variableLayer = [])
    (read : place.requiredFile path =
      .ok [(part.name, .table [(field.name, .scalar (.text text) inner)] outer)]) :
    ∃ settings record, Settings.load durable place (some path) = .ok settings ∧
      part.of settings = some record ∧ field.get record = wrap text := by
  let layers : Layers :=
    { default := .empty, named := .single field (wrap text), further := .empty,
      environment := .empty }
  have layered : layers.Read place (some path) := by
    have writes : field.Writes (.scalar (.text text) inner) (wrap text) :=
      is.writes (by simp) fun _ => rfl
    refine ⟨⟨[], default_absent default, inFile_empty⟩, ⟨_, read, inFile_single writes outer⟩,
      ⟨[], by rw [further]; rfl, inFile_empty⟩, ?_⟩
    rw [unset]
    exact inVariables_empty
  exact load_field durable layered (by simp [Layers.strongest, layers, Layer.single])
    (by simp [Layers.strongest, layers, Layer.empty])

/-- The variable of a field. -/
def fieldVariable (field : Field part) : String :=
  variablePrefix ++ "__" ++ part.name.toUpper ++ "__" ++ field.name.toUpper

theorem fieldVariable_key (field : Field part) :
    variableKey (fieldVariable field) = some (part.name ++ "." ++ field.name) := by
  cases field <;> decide +kernel

theorem TextField.injective (is : TextField field wrap) {first second : String} :
    wrap first = wrap second ↔ first = second := by
  cases is with
  | connectionName | position => exact Option.some_inj
  | _ => rfl

/-- A text that a variable sets is always loaded. What arrives is how the value is written that the
text is read as; so the text itself arrives if and only if that is how it stood there. From a file,
every text arrives as it is. -/
theorem variable_text (durable : String) (is : TextField field wrap) {place : Surroundings}
    {name text : String} (alone : Alone place name text)
    (keyed : variableKey name = some (part.name ++ "." ++ field.name)) :
    (∃ settings record, Settings.load durable place none = .ok settings ∧
      part.of settings = some record ∧ field.get record = wrap (rewritten text) ∧
      (field.get record = wrap text ↔ Kept text)) ∧
    ∀ (filed : Surroundings) (path : String) (inner outer : Option String),
      filed.findFile defaultFile = none → filed.environment.lookup fileVariable = none →
      filed.variableLayer = [] →
      filed.requiredFile path =
        .ok [(part.name, .table [(field.name, .scalar (.text text) inner)] outer)] →
      ∃ settings record, Settings.load durable filed (some path) = .ok settings ∧
        part.of settings = some record ∧ field.get record = wrap text := by
  refine ⟨?_, fun filed path inner outer default further unset read =>
    load_file durable is default further unset read⟩
  obtain ⟨settings, record, loads, present, arrives⟩ := load_variable durable is alone keyed
  refine ⟨settings, record, loads, present, arrives, ?_⟩
  rw [arrives, is.injective, rewritten_eq]

end loading

/-- A variable with a name in capitals, and a file with the same name in quotation marks. -/
def capitals : Surroundings where
  files := [("orders.yaml", Ascii.bytes "connection:\n  connection_name: \"TRUE\"\n")]
  environment := [("JETSTREAM_BRIDGE__CONNECTION__CONNECTION_NAME", "TRUE")]

/-- Whether a file has been read as a section with one text. -/
def isText (part name text : String) : Except LoadError (List (String × Setting)) → Bool
  | .ok [(first, .table [(second, .scalar (.text third) _)] _)] =>
    first == part && second == name && third == text
  | _ => false

theorem isText_read {part name text : String}
    {result : Except LoadError (List (String × Setting))}
    (is : isText part name text result = true) :
    ∃ inner outer, result = .ok [(part, .table [(name, .scalar (.text text) inner)] outer)] := by
  unfold isText at is
  split at is
  · simp only [Bool.and_eq_true, beq_iff_eq] at is
    obtain ⟨⟨rfl, rfl⟩, rfl⟩ := is
    exact ⟨_, _, rfl⟩
  · cases is

theorem variable_text_capitals :
    (∃ settings, Settings.load "fresh" capitals none = .ok settings ∧
      settings.connection.name = some "true") ∧
    ∃ settings, Settings.load "fresh" { capitals with environment := [] } (some "orders.yaml") =
      .ok settings ∧ settings.connection.name = some "TRUE" := by
  have alone : Alone capitals "JETSTREAM_BRIDGE__CONNECTION__CONNECTION_NAME" "TRUE" :=
    ⟨⟨[], [], rfl, nofun⟩, by decide +kernel, by decide⟩
  have named : fieldVariable .connectionName = "JETSTREAM_BRIDGE__CONNECTION__CONNECTION_NAME" := by
    decide +kernel
  have lower : rewritten "TRUE" = "true" := by decide
  have read : isText "connection" "connection_name" "TRUE"
      (Surroundings.requiredFile { capitals with environment := [] } "orders.yaml") = true := by
    decide +kernel
  obtain ⟨inner, outer, read⟩ := isText_read read
  obtain ⟨⟨settings, record, loads, present, arrives, _⟩, file⟩ :=
    variable_text "fresh" .connectionName alone (named ▸ fieldVariable_key .connectionName)
  obtain ⟨settings', record', loads', present', arrives'⟩ :=
    file { capitals with environment := [] } "orders.yaml" inner outer (by decide +kernel) rfl rfl
      read
  obtain rfl : settings.connection = record := Option.some.inj present
  obtain rfl : settings'.connection = record' := Option.some.inj present'
  exact ⟨⟨settings, loads, arrives.trans (congrArg some lower)⟩, settings', loads', arrives'⟩

/-- A subject that is a number with zeros in front is loaded as another one. -/
theorem subject_rewritten :
    ∃ settings destination,
      Settings.load "fresh" ⟨[], [("JETSTREAM_BRIDGE__DESTINATION__SUBJECT", "007")]⟩ none =
        .ok settings ∧
      settings.destination = some destination ∧ destination.subject = "7" ∧
      destination.subject ≠ "007" := by
  have alone : Alone ⟨[], [("JETSTREAM_BRIDGE__DESTINATION__SUBJECT", "007")]⟩
      "JETSTREAM_BRIDGE__DESTINATION__SUBJECT" "007" :=
    ⟨⟨[], [], rfl, nofun⟩, by decide +kernel, by decide⟩
  have named : fieldVariable .target = "JETSTREAM_BRIDGE__DESTINATION__SUBJECT" := by
    decide +kernel
  have short : rewritten "007" = "7" := by decide +kernel
  obtain ⟨settings, destination, loads, present, arrives⟩ :=
    load_variable "fresh" .target alone (named ▸ fieldVariable_key .target)
  have subject : destination.subject = "7" := arrives.trans short
  exact ⟨settings, destination, loads, present, subject, subject ▸ by decide⟩

end StreamBridge.Proofs.VariableTexts
