import StreamBridge.Proofs.NumberTexts
import StreamBridge.Proofs.SettingLayers

/-! What stands for the value of a field, in a file and in a variable of the environment. -/

namespace StreamBridge.Proofs.SettingForms
open Setting Surroundings SettingFields SettingMerge SettingLayers NumberTexts IntegerTexts

/-! ### Values in files -/

/-- A deliver policy: its name in any case, or a table with the sequence to start from. -/
inductive Delivers : Yaml.Node → DeliverPolicy → Prop where
  | all {name : String} (named : Text.lowerCase name = "all") : Delivers (.text name) .all
  | new {name : String} (named : Text.lowerCase name = "new") : Delivers (.text name) .new
  | start {start : UInt64} (small : start.toNat < 2 ^ 63) :
    Delivers (.table [("by_start_sequence", .table [("start_sequence", .integer start.toNat)])])
      (.byStartSequence start)

/-- An acknowledgement policy: its name in any case. -/
inductive Acknowledges : Yaml.Node → AckPolicy → Prop where
  | explicit {name : String} (named : Text.lowerCase name = "explicit") :
    Acknowledges (.text name) .explicit
  | all {name : String} (named : Text.lowerCase name = "all") : Acknowledges (.text name) .all
  | none {name : String} (named : Text.lowerCase name = "none") : Acknowledges (.text name) .none

variable {part : Section}

/-- What stands for a value of a field in a file. -/
def Spells : (field : Field part) → Yaml.Node → field.Value → Prop
  | .urls => fun node (urls : List String) => node = .list (urls.map .text)
  | .connectionName | .position => fun node (value : Option String) =>
    ∃ text, node = .text text ∧ value = some text
  | .subject | .stream | .durable | .target => fun node (text : String) => node = .text text
  | .maxReconnects | .reconnectWait | .bufferSize | .batchSize | .retryWait =>
    fun node (number : Nat) => node = .integer number ∧ number < 2 ^ 63
  | .retryAttempts => fun node (number : Nat) => node = .integer number ∧ number < 2 ^ 32
  | .deliverPolicy => Delivers
  | .ackPolicy => Acknowledges

theorem ofNode_list (origin : String) (texts : List String) :
    ofNode origin (.list (texts.map .text)) =
      .list (texts.map fun text => .scalar (.text text) origin) origin := by
  have items : ofItems origin (texts.map .text) =
      texts.map fun text => .scalar (.text text) (some origin) := by
    induction texts with
    | nil => rfl
    | cons text texts ih => simp only [List.map_cons, ofItems, ofNode, ih]
  rw [ofNode, items]

theorem readItems_texts (key : SettingPath) (origin : Option String) (index : Nat)
    (texts : List String) :
    readItems readText key index (texts.map fun text => .scalar (.text text) origin) =
      .ok texts := by
  induction texts generalizing index with
  | nil => rfl
  | cons text texts ih =>
    simp only [List.map_cons, readItems, ih, readText]
    rfl

theorem readWord_integer (key : SettingPath) (origin : Option String) (number : Nat) :
    readWord key (.scalar (.integer number) origin) = .ok number := by
  simp [readWord]

theorem readHalfWord_integer (key : SettingPath) (origin : Option String) {number : Nat}
    (small : number < 2 ^ 32) :
    readHalfWord key (.scalar (.integer number) origin) = .ok number := by
  have fits : number ≤ Decimal.maxHalfWord := by
    unfold Decimal.maxHalfWord
    omega
  simp only [readHalfWord, readWord_integer, bind, Except.bind, if_pos fits]

theorem start_writes {start : UInt64} {origin : Option String} {setting : Setting}
    (starts : Starts (.scalar (.integer start.toNat) origin) setting) :
    Field.deliverPolicy.Writes setting (.byStartSequence start) := by
  refine ⟨.inr ⟨_, starts⟩, fun key => (starts.read key).trans ?_⟩
  rw [readWord_integer]
  exact congrArg (fun start => Except.ok (DeliverPolicy.byStartSequence start)) (by simp)

theorem Delivers.writes {node : Yaml.Node} {policy : DeliverPolicy}
    (delivers : Delivers node policy) (origin : String) :
    Field.deliverPolicy.Writes (ofNode origin node) policy := by
  cases delivers with
  | all named | new named =>
    refine ⟨.inl (.scalar _ _ nofun), fun key => ?_⟩
    simp only [Field.read, readDeliverPolicy, ofNode, variant, bind, Except.bind, named]
  | start => exact start_writes (.table _ _ _ (.scalar _ _ nofun))

theorem Acknowledges.writes {node : Yaml.Node} {policy : AckPolicy}
    (acknowledges : Acknowledges node policy) (origin : String) :
    Field.ackPolicy.Writes (ofNode origin node) policy := by
  cases acknowledges with
  | explicit named | all named | none named =>
    refine ⟨.scalar _ _ nofun, fun key => ?_⟩
    simp only [Field.read, readAckPolicy, ofNode, variant, bind, Except.bind, named]

/-- What stands for a value is read as it. -/
theorem Spells.writes {field : Field part} {node : Yaml.Node} {value : field.Value}
    (spells : Spells field node value) (origin : String) :
    field.Writes (ofNode origin node) value := by
  cases field with
  | urls =>
    cases spells
    rw [ofNode_list]
    exact ⟨.list _ _, fun key => readItems_texts key _ 0 _⟩
  | connectionName | position =>
    obtain ⟨text, rfl, rfl⟩ := spells
    exact ⟨.scalar _ _ nofun, fun _ => rfl⟩
  | subject | stream | durable | target =>
    cases spells
    exact ⟨.scalar _ _ nofun, fun _ => rfl⟩
  | maxReconnects | reconnectWait | bufferSize | batchSize | retryWait =>
    obtain ⟨rfl, -⟩ := spells
    exact ⟨.scalar _ _ nofun, fun key => readWord_integer key origin _⟩
  | retryAttempts =>
    obtain ⟨rfl, small⟩ := spells
    exact ⟨.scalar _ _ nofun, fun key => readHalfWord_integer key origin small⟩
  | deliverPolicy => exact Delivers.writes spells origin
  | ackPolicy => exact Acknowledges.writes spells origin

/-! ### Values in variables -/

/-- A text that is no number, and no truth value in any case. -/
def Word (text : String) : Prop :=
  Text.lowerCase text ∉ ["true", "false"] ∧ ¬ Number text.toList

instance (text : String) : Decidable (Word text) := inferInstanceAs (Decidable (_ ∧ _))

/-- What a variable has for a value of a field: a decimal for a number, else a text, with commas
between the parts of a list. -/
def Gives : (field : Field part) → String → field.Value → Prop
  | .urls => fun text (urls : List String) =>
    Word text ∧ text = ",".intercalate urls ∧ urls ≠ [] ∧ ∀ url ∈ urls, ',' ∉ url.toList
  | .maxReconnects | .reconnectWait | .bufferSize | .batchSize | .retryWait =>
    fun text (number : Nat) => Integer text.toList number ∧ number < 2 ^ 63
  | .retryAttempts => fun text (number : Nat) => Integer text.toList number ∧ number < 2 ^ 32
  | field => fun text value => Word text ∧ Spells field (.text text) value

theorem truth_none {text : String} (other : Text.lowerCase text ∉ ["true", "false"]) :
    truth? text = none := by
  simp only [List.mem_cons, List.not_mem_nil, or_false, not_or] at other
  unfold truth?
  split
  next is => exact absurd is other.1
  next is => exact absurd is other.2
  · rfl

theorem Word.setting {text : String} (word : Word text) (key : String) :
    variableSetting key text =
      if key = listKey then ofNode variableOrigin (.list ((Text.pieces ',' text).map .text))
      else ofNode variableOrigin (.text text) := by
  have number : Decimal.readFloat? text.toList = none := by
    rw [← Option.not_isSome_iff_eq_none, readFloat_isSome]
    exact word.2
  have integer : ∀ value, Decimal.readSigned 64 text.toList ≠ .ok value :=
    fun value reads => word.2 (integer_number (readSigned_ok reads))
  unfold variableSetting
  rw [truth_none word.1]
  cases read : Decimal.readSigned 64 text.toList with
  | ok value => exact absurd read (integer value)
  | error =>
    simp only [number, beq_iff_eq, ofNode_list]
    rfl

theorem splitAt_eq (mark : Char) (letters : List Char) :
    Text.splitAt mark letters = letters.splitOn mark := by
  induction letters with
  | nil => rw [Text.splitAt, List.splitOn_nil]
  | cons letter rest ih =>
    rw [Text.splitAt, List.splitOn_cons_eq_if_modifyHead, ih]
    by_cases same : letter = mark
    · simp [same]
    · cases parts : rest.splitOn mark with
      | nil => exact absurd parts (List.splitOn_ne_nil _ _)
      | cons => simp [same]

theorem pieces_intercalate {texts : List String} (some : texts ≠ [])
    (unmarked : ∀ text ∈ texts, ',' ∉ text.toList) :
    Text.pieces ',' (",".intercalate texts) = texts := by
  have letters : (",".intercalate texts).toList =
      List.intercalate [','] (texts.map String.toList) :=
    String.toList_intercalate
  have apart : ∀ part ∈ texts.map String.toList, ',' ∉ part := by
    intro part member
    obtain ⟨text, present, rfl⟩ := List.mem_map.mp member
    exact unmarked text present
  rw [Text.pieces, letters, splitAt_eq, List.splitOn_intercalate ',' apart (by simpa using some),
    List.map_map]
  simp

/-- Small letters and signs stay as they are. -/
theorem lowerCase_head {text : String} {first : Char} {rest : List Char}
    (letters : text.toList = first :: rest) (ascii : first.toNat < 0x80) :
    (Text.lowerCase text).toList.head? = some first.toLower := by
  have other : (first == '\u0130') = false ∧ (first == '\u03a3') = false := by
    constructor <;> exact beq_eq_false_iff_ne.mpr fun same => by
      subst same
      exact absurd ascii (by decide)
  rw [Text.lowerCase, String.toList_ofList, letters, Text.lowerLetters]
  simp [other, Text.lowerChar, ascii]

theorem integer_words {text : String} {value : Int} (integer : Integer text.toList value) :
    Text.lowerCase text ∉ ["true", "false"] := by
  have starts : ∃ first rest, text.toList = first :: rest ∧ first.toNat < 0x80 ∧
      first.toLower ≠ 't' ∧ first.toLower ≠ 'f' := by
    generalize text.toList = letters at integer
    cases integer with
    | minus => exact ⟨_, _, rfl, by decide, by decide, by decide⟩
    | plus => exact ⟨_, _, rfl, by decide, by decide, by decide⟩
    | @bare digit _ all =>
      have bounds := DecimalDigits.digit_bounds (all digit (.head _))
      have lower : digit.toLower = digit := by
        refine dif_neg fun capital => ?_
        have above : 65 ≤ digit.toNat := UInt32.le_iff_toNat_le.mp capital.1
        omega
      refine ⟨digit, _, rfl, by omega, ?_, ?_⟩ <;> rw [lower] <;> rintro rfl <;> simp at bounds
  obtain ⟨first, rest, letters, ascii, others⟩ := starts
  have head := lowerCase_head letters ascii
  simp only [List.mem_cons, List.not_mem_nil, or_false, not_or]
  constructor
  · intro is
    rw [is] at head
    exact others.1 (Option.some.inj head).symm
  · intro is
    rw [is] at head
    exact others.2 (Option.some.inj head).symm

theorem integer_setting {text : String} {number : Nat} (integer : Integer text.toList number)
    (small : number < 2 ^ 63) (key : String) :
    variableSetting key text = ofNode variableOrigin (.integer number) := by
  have limit : Nat.pow 2 (64 - 1) = 2 ^ 63 := rfl
  have reads : Decimal.readSigned 64 text.toList = .ok (number : Int) :=
    readSigned_integer integer (by omega) (by omega)
  unfold variableSetting
  rw [truth_none (integer_words integer), reads]
  rfl

/-- What a variable has for a value is read as it. -/
theorem Gives.writes {field : Field part} {text : String} {value : field.Value}
    (gives : Gives field text value) :
    field.Writes (variableSetting (part.name ++ "." ++ field.name) text) value := by
  have single (other : part.name ++ "." ++ field.name ≠ listKey)
      (worded : Word text ∧ Spells field (.text text) value) :
      field.Writes (variableSetting (part.name ++ "." ++ field.name) text) value := by
    rw [worded.1.setting, if_neg other]
    exact worded.2.writes variableOrigin
  have number {count : Nat} (integer : Integer text.toList count) (small : count < 2 ^ 63)
      (spells : Spells field (.integer count) value) :
      field.Writes (variableSetting (part.name ++ "." ++ field.name) text) value := by
    rw [integer_setting integer small]
    exact spells.writes variableOrigin
  cases field with
  | urls =>
    obtain ⟨word, rfl, some, unmarked⟩ := gives
    rw [word.setting, if_pos (by decide), pieces_intercalate some unmarked]
    exact Spells.writes (show Spells Field.urls _ _ from rfl) variableOrigin
  | maxReconnects | reconnectWait | bufferSize | batchSize | retryWait =>
    obtain ⟨integer, small⟩ := gives
    exact number integer small ⟨rfl, small⟩
  | retryAttempts =>
    obtain ⟨integer, small⟩ := gives
    exact number integer (by omega) ⟨rfl, small⟩
  | connectionName | position | subject | stream | durable | target | deliverPolicy | ackPolicy =>
    exact single (by decide) gives

end StreamBridge.Proofs.SettingForms
