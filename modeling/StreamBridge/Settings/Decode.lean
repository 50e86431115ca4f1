import StreamBridge.Settings.Basic
import StreamBridge.Settings.Path

/-! Reading layered values as settings. Texts and numbers stand for each other where that makes
sense; what cannot be read is reported with its key and the layer that it comes from. -/

namespace StreamBridge

/-- Why settings cannot be loaded. -/
inductive LoadError where
  /-- A file is not one YAML table. -/
  | malformed
  | missingFile (name : String)
  /-- A file is not UTF-8. -/
  | notText
  | wrongType (found : Setting) (expected : String) (key : SettingPath)
  | negative (found : Int) (origin : Option String) (key : SettingPath)
  | tooLarge (found : Nat) (key : SettingPath)
  /-- A section or a list is written as another kind of value. -/
  | wrongShape (found : Setting) (expected : String)
  | unknownVariant (type name : String)
  /-- A variant is neither a text nor a table with one key. -/
  | noVariant (type : String)
  | noMember (name : String)
  | badLength (length : Nat) (expected : String)

namespace LoadError

/-- A value that was found where another kind was wanted. -/
def mismatch (found expected : String) : String :=
  "invalid type: " ++ found ++ ", expected " ++ expected

/-- Where a value was found. -/
def place (key : SettingPath) (origin : Option String) : String :=
  " for key `" ++ key.text ++ "`" ++ origin.elim "" (" in " ++ ·)

/-- The wording of an error; a malformed file has none of its own. -/
def reason? : LoadError → Option String
  | .malformed => none
  | .missingFile name => some ("configuration file \"" ++ name ++ "\" not found")
  | .notText => some "stream did not contain valid UTF-8"
  | .wrongType found expected key =>
    some (mismatch found.describe expected ++ place key found.origin)
  | .negative found origin key =>
    some (mismatch ("64-bit integer `" ++ toString found ++ "`")
      "an unsigned 64 bit or less integer" ++ place key origin)
  | .tooLarge found key =>
    some (mismatch ("64-bit unsigned integer `" ++ toString found ++ "`")
      "an unsigned 32 bit integer" ++ place key none)
  | .wrongShape found expected => some (mismatch found.describe expected)
  | .unknownVariant type name =>
    some ("enum " ++ type ++ " does not have variant constructor " ++ name)
  | .noVariant type =>
    some ("value of enum " ++ type
      ++ " should be represented by either string or table with exactly one key")
  | .noMember name => some ("missing field `" ++ name ++ "`")
  | .badLength length expected =>
    some ("invalid length " ++ toString length ++ ", expected " ++ expected)

/-- The report of an error. -/
def message? (error : LoadError) : Option String := error.reason?.map ("load config: " ++ ·)

end LoadError

/-- A reader of the value at a place. -/
abbrev SettingReader (α : Type) := SettingPath → Setting → Except LoadError α

namespace Setting

/-- Reads a text; a truth value or a number is taken as written. -/
def readText : SettingReader String := fun key setting =>
  match setting with
  | .scalar (.text value) _ => .ok value
  | .scalar (.boolean value) _ => .ok (if value then "true" else "false")
  | .scalar (.integer value) _ => .ok (toString value)
  | .scalar (.decimal value) _ => .ok (Decimal.plainText value)
  | _ => .error (.wrongType setting "a string" key)

/-- The word that a text stands for. -/
def wordOfText? (value : String) : Option Nat :=
  let folded := Text.lowerCase value
  if folded == "true" || folded == "on" || folded == "yes" then some 1
  else if folded == "false" || folded == "off" || folded == "no" then some 0
  else (Decimal.readUnsigned Decimal.maxWord value.toList).toOption

/-- The nearest word to a number; a half goes away from zero. What is beyond the words counts as the
nearest of them, and what is no number as zero. -/
def nearestWord (value : Float) : Nat :=
  let (negative, bits) := Decimal.splitSign value
  if negative then 0
  else match Decimal.Binary.ofBits? bits with
    | some number =>
      let unit := Nat.pow 2 (-number.exponent).toNat
      let doubled := 2 * number.mantissa * Nat.pow 2 number.exponent.toNat
      min Decimal.maxWord ((doubled + unit) / (2 * unit))
    | none => if bits == 0 || value.isNaN then 0 else Decimal.maxWord

/-- Reads a 64-bit word. -/
def readWord : SettingReader Nat := fun key setting =>
  match setting with
  | .scalar (.integer value) origin =>
    if value < 0 then .error (.negative value origin key) else .ok value.toNat
  | .scalar (.boolean value) _ => .ok (if value then 1 else 0)
  | .scalar (.decimal value) _ => .ok (nearestWord value)
  | .scalar (.text value) _ =>
    (wordOfText? value).elim (.error (.wrongType setting "an integer" key)) .ok
  | _ => .error (.wrongType setting "an integer" key)

/-- Reads a 32-bit word. -/
def readHalfWord : SettingReader Nat := fun key setting => do
  let value ← readWord key setting
  if value ≤ Decimal.maxHalfWord then .ok value else .error (.tooLarge value key)

/-- Reads a value that may be null. -/
def readOptional {α : Type} (reader : SettingReader α) : SettingReader (Option α) :=
  fun key setting =>
    match setting with
    | .scalar .null _ => .ok none
    | setting => (reader key setting).map some

/-- Reads items from an index on. -/
def readItems {α : Type} (reader : SettingReader α) (key : SettingPath) :
    Nat → List Setting → Except LoadError (List α)
  | _, [] => .ok []
  | index, item :: rest => do
    let value ← reader (key ++ [.index index]) item
    return value :: (← readItems reader key (index + 1) rest)

/-- Reads a list. -/
def readList {α : Type} (reader : SettingReader α) : SettingReader (List α) :=
  fun key setting =>
    match setting with
    | .list items _ => readItems reader key 0 items
    | setting => .error (.wrongShape setting "a sequence")

end Setting

/-- A field of a section: its name, and how its value is read into the section. -/
structure SettingField (σ : Type) where
  name : String
  read : σ → SettingReader σ

/-- A field whose value is read by itself and then stored. -/
def SettingField.of {σ α : Type} (name : String) (reader : SettingReader α) (store : σ → α → σ) :
    SettingField σ :=
  ⟨name, fun target key setting => (reader key setting).map (store target)⟩

namespace Setting

variable {σ : Type}

/-- Reads the fields that a table has. -/
def readEntries (key : SettingPath) (entries : List (String × Setting)) :
    List (SettingField σ) → σ → Except LoadError σ
  | [], value => .ok value
  | field :: rest, value =>
    match entries.lookup field.name with
    | none => readEntries key entries rest value
    | some setting => do
      let value ← field.read value (key ++ [.child field.name]) setting
      readEntries key entries rest value

/-- Reads fields from the items of a list, in order. -/
def readPositions (key : SettingPath) :
    Nat → List (SettingField σ) → List Setting → σ → Except LoadError σ
  | index, field :: fields, item :: items, value => do
    let value ← field.read value (key ++ [.index index]) item
    readPositions key (index + 1) fields items value
  | _, _, _, value => .ok value

/-- Reads a section: a table, or a list of its fields in order. What is left out keeps the value
that it has in `default`. -/
def readSection (name : String) (fields : List (SettingField σ)) (default : σ) :
    SettingReader σ := fun key setting =>
  match setting with
  | .table entries _ => readEntries key entries fields default
  | .list items _ => readPositions key 0 fields items default
  | setting => .error (.wrongShape setting ("struct " ++ name))

/-- The name of a variant, and what it carries. -/
def variant (type : String) : Setting → Except LoadError (String × Setting)
  | .scalar (.text name) _ => .ok (name, absent)
  | .table [entry] _ => .ok entry
  | _ => .error (.noVariant type)

/-- Reads what the variant with a start sequence carries. -/
def readStart (key : SettingPath) (setting : Setting) : Except LoadError DeliverPolicy :=
  let expected := "struct variant DeliverPolicy::ByStartSequence"
  let start (step : SettingStep) (value : Setting) : Except LoadError DeliverPolicy :=
    (readWord (key ++ [step]) value).map fun start => .byStartSequence start.toUInt64
  match setting with
  | .table entries _ =>
    match entries.lookup "start_sequence" with
    | some value => start (.child "start_sequence") value
    | none => .error (.noMember "start_sequence")
  | .list (value :: _) _ => start (.index 0) value
  | .list [] _ => .error (.badLength 0 (expected ++ " with 1 element"))
  | setting => .error (.wrongShape setting expected)

/-- Reads a deliver policy, in any case. -/
def readDeliverPolicy : SettingReader DeliverPolicy := fun key setting => do
  let (name, carried) ← variant "DeliverPolicy" setting
  match Text.lowerCase name with
  | "all" => .ok .all
  | "new" => .ok .new
  | "by_start_sequence" => readStart key carried
  | _ => .error (.unknownVariant "DeliverPolicy" name)

/-- Reads an acknowledgement policy, in any case. -/
def readAckPolicy : SettingReader AckPolicy := fun _ setting => do
  let (name, _) ← variant "AckPolicy" setting
  match Text.lowerCase name with
  | "explicit" => .ok .explicit
  | "all" => .ok .all
  | "none" => .ok .none
  | _ => .error (.unknownVariant "AckPolicy" name)

end Setting

/-- The fields of the connection. -/
def ConnectionSettings.fields : List (SettingField ConnectionSettings) :=
  [.of "urls" (Setting.readList Setting.readText)
     fun settings value => { settings with urls := value },
   .of "connection_name" (Setting.readOptional Setting.readText)
     fun settings value => { settings with name := value },
   .of "max_reconnects" Setting.readWord
     fun settings value => { settings with maxReconnects := value },
   .of "reconnect_wait_secs" Setting.readWord
     fun settings value => { settings with reconnectWait := value }]

/-- The fields of a source. -/
def SourceSettings.fields : List (SettingField SourceSettings) :=
  [.of "subject" Setting.readText fun settings value => { settings with subject := value },
   .of "stream" Setting.readText fun settings value => { settings with stream := value },
   .of "durable" Setting.readText fun settings value => { settings with durable := value },
   .of "buffer_size" Setting.readWord fun settings value => { settings with bufferSize := value },
   .of "deliver_policy" Setting.readDeliverPolicy
     fun settings value => { settings with deliverPolicy := value },
   .of "ack_policy" Setting.readAckPolicy
     fun settings value => { settings with ackPolicy := value },
   .of "position" (Setting.readOptional Setting.readText)
     fun settings value => { settings with position := value }]

/-- The fields of a destination. -/
def DestinationSettings.fields : List (SettingField DestinationSettings) :=
  [.of "subject" Setting.readText fun settings value => { settings with subject := value },
   .of "batch_size" Setting.readWord fun settings value => { settings with batchSize := value },
   .of "retry_wait_ms" Setting.readWord fun settings value => { settings with retryWait := value },
   .of "retry_attempts" Setting.readHalfWord
     fun settings value => { settings with retryAttempts := value }]

namespace Settings

/-- The sections; `durable` names the durable consumer where a source leaves it out. -/
def fields (durable : String) : List (SettingField Settings) :=
  [.of "connection" (Setting.readSection "ConnectionConfig" ConnectionSettings.fields .default)
     fun settings value => { settings with connection := value },
   .of "source" (Setting.readOptional
       (Setting.readSection "SourceConfig" SourceSettings.fields (.default durable)))
     fun settings value => { settings with source := value },
   .of "destination" (Setting.readOptional
       (Setting.readSection "DestinationConfig" DestinationSettings.fields .default))
     fun settings value => { settings with destination := value }]

/-- Reads all settings. -/
def ofSetting (durable : String) (setting : Setting) : Except LoadError Settings :=
  Setting.readSection "Config" (fields durable) .default [] setting

end Settings
end StreamBridge
