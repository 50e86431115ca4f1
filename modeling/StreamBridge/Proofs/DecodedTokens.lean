import Mathlib.Data.List.Forall2
import Mathlib.Data.List.TakeWhile
import StreamBridge.Position
import StreamBridge.Proofs.MomentText
import StreamBridge.Proofs.RecordTexts

/-! What tokens are read as positions. The fields of a position may stand in any order, in any
spelling and among any others; a token in which one is missing, comes twice or does not fit is
refused, and so is one that goes on behind its value. -/

namespace StreamBridge.Proofs.DecodedTokens
open Json JsonStrings JsonNumbers JsonGrammar JsonReaders RecordTexts Outcomes

/-- The fields of a position, in the order of their declaration. -/
inductive Field where
  | durable
  | stream
  | subject
  | timestamp
  | next
deriving DecidableEq

namespace Field

def name : Field → String
  | durable => "durable"
  | stream => "stream"
  | subject => "subject"
  | timestamp => "timestamp"
  | next => "opt_seq"

def all : List Field := [durable, stream, subject, timestamp, next]

end Field

/-- The value of a field as a text shows it: strings in any spelling, the moment as it is written,
the sequence in its digits. -/
def Shows (position : Position) : Field → Bytes → Prop
  | .durable => Quoted position.durable
  | .stream => Quoted position.stream
  | .subject => Quoted position.subject
  | .timestamp => Quoted position.timestamp.text
  | .next => (· = writeNatural position.next.toNat)

/-- One entry, and no other, has the name of the field; it shows the field's value. -/
def Once (position : Position) (field : Field) (entries : List Entry) : Prop :=
  ∃ before entry after, entries = before ++ entry :: after ∧ Spelled field.name entry.key ∧
    Shows position field entry.content.value ∧ Absent field.name (before ++ after)

/-- The entries of an object show a position; those of other names hold anything. -/
structure Describes (position : Position) (entries : List Entry) : Prop where
  names : ∀ entry ∈ entries, ∃ name, Spelled name entry.key
  values : ∀ entry ∈ entries, WellFormed entry.content.value
  fields : ∀ field, Once position field entries

def Field.member : Field → Member Position.Draft
  | durable => Position.shape.members.get (0 : Fin 5)
  | stream => Position.shape.members.get (1 : Fin 5)
  | subject => Position.shape.members.get (2 : Fin 5)
  | timestamp => Position.shape.members.get (3 : Fin 5)
  | next => Position.shape.members.get (4 : Fin 5)

theorem members_all : Position.shape.members = Field.all.map Field.member := rfl

theorem member_name (field : Field) : field.member.name = field.name := by cases field <;> rfl

theorem find_field (field : Field) :
    Position.shape.members.find? (·.name == field.name) = some field.member := by
  cases field <;> rfl

theorem name_injective {field other : Field} (same : field.name = other.name) : field = other := by
  cases field <;> cases other <;> first | rfl | exact absurd same (by decide)

theorem field_of_member {member : Member Position.Draft}
    (known : member ∈ Position.shape.members) : ∃ field : Field, member = field.member := by
  rw [members_all] at known
  obtain ⟨field, -, rfl⟩ := List.mem_map.mp known
  exact ⟨field, rfl⟩

theorem field_of_name {name : String} {member : Member Position.Draft}
    (found : Position.shape.members.find? (·.name == name) = some member) :
    ∃ field : Field, name = field.name ∧ member = field.member := by
  obtain ⟨field, rfl⟩ := field_of_member (List.mem_of_find?_eq_some found)
  refine ⟨field, ?_, rfl⟩
  have same := List.find?_some found
  rw [member_name] at same
  exact (eq_of_beq same).symm

theorem takes_timestamp {moment : Timestamp} {value : Bytes} (holds : Quoted moment.text value) :
    Takes Position.readTimestamp value moment := by
  have letters : moment.text.toList = moment.letters := by simp [Timestamp.text]
  refine (takes_text _ holds).bind fun rest => ?_
  simp only [letters, MomentText.read_letters]

/-- The draft has the field as the position has it. -/
def Has (position : Position) (draft : Position.Draft) : Field → Prop
  | .durable => draft.durable = some position.durable
  | .stream => draft.stream = some position.stream
  | .subject => draft.subject = some position.subject
  | .timestamp => draft.timestamp = some position.timestamp
  | .next => draft.next = some position.next

/-- The value that shows a field is taken as it, and nothing that was there is lost. -/
theorem member_takes {position : Position} {field : Field} {value : Bytes}
    (holds : Shows position field value) (draft : Position.Draft) :
    ∃ next, Takes (field.member.read draft) value next ∧ Has position next field ∧
      ∀ other, Has position draft other → Has position next other := by
  cases field with
  | durable | stream | subject =>
    refine ⟨_, (takes_text _ holds).bind fun _ => rfl, rfl, fun other has => ?_⟩
    cases other <;> first | rfl | exact has
  | timestamp =>
    refine ⟨_, (takes_timestamp holds).bind fun _ => rfl, rfl, fun other has => ?_⟩
    cases other <;> first | rfl | exact has
  | next =>
    have same : position.next.toNat.toUInt64 = position.next := UInt64.ofNat_toNat
    refine ⟨{ draft with next := some position.next }, ?_, rfl, fun other has => ?_⟩
    · obtain rfl : value = _ := holds
      have fits : position.next.toNat ≤ Decimal.maxWord := Nat.le_of_lt_succ position.next.toNat_lt
      exact (takes_word _ fits fits).bind fun _ => by simp only [same]
    · cases other <;> first | rfl | exact has

theorem Shows.wellFormed {position : Position} {field : Field} {value : Bytes}
    (holds : Shows position field value) : WellFormed value := by
  cases field with
  | durable | stream | subject | timestamp => exact Quoted.wellFormed holds
  | next =>
    obtain rfl : value = _ := holds
    exact wellFormed_natural _

theorem Once.head {position : Position} {field : Field} {entry : Entry} {entries : List Entry}
    (once : Once position field (entry :: entries)) (named : Spelled field.name entry.key) :
    Shows position field entry.content.value ∧ Absent field.name entries := by
  obtain ⟨before, found, after, same, spelled, holds, absent⟩ := once
  cases before with
  | nil =>
    obtain ⟨rfl, rfl⟩ := List.cons.inj same
    exact ⟨holds, absent⟩
  | cons first before =>
    obtain ⟨rfl, rfl⟩ := List.cons.inj same
    exact absurd named (absent entry (.head _))

theorem Once.tail {position : Position} {field : Field} {entry : Entry} {entries : List Entry}
    (once : Once position field (entry :: entries)) (other : ¬ Spelled field.name entry.key) :
    Once position field entries := by
  obtain ⟨before, found, after, same, spelled, holds, absent⟩ := once
  cases before with
  | nil =>
    obtain ⟨rfl, rfl⟩ := List.cons.inj same
    exact absurd spelled other
  | cons first before =>
    obtain ⟨rfl, rfl⟩ := List.cons.inj same
    exact ⟨before, found, after, rfl, spelled, holds, absent.tail⟩

/-- Each field has been taken and does not come again, or is still to come once. -/
def Underway (position : Position) (seen : List String) (draft : Position.Draft)
    (entries : List Entry) : Prop :=
  ∀ field : Field, (Has position draft field ∧ Absent field.name entries) ∨
    (seen.contains field.name = false ∧ Once position field entries)

theorem Underway.unknown {position : Position} {seen : List String} {draft : Position.Draft}
    {entry : Entry} {entries : List Entry}
    (underway : Underway position seen draft (entry :: entries))
    (other : ∀ field : Field, ¬ Spelled field.name entry.key) :
    Underway position seen draft entries := by
  intro field
  obtain ⟨has, absent⟩ | ⟨fresh, once⟩ := underway field
  · exact .inl ⟨has, absent.tail⟩
  · exact .inr ⟨fresh, once.tail (other field)⟩

/-- The entry of a field is taken, which leaves it seen and the others as they were. -/
theorem Underway.known {position : Position} {seen : List String} {draft : Position.Draft}
    {entry : Entry} {entries : List Entry}
    (underway : Underway position seen draft (entry :: entries))
    {field : Field} (named : Spelled field.name entry.key) :
    seen.contains field.name = false ∧ ∃ next,
      Takes (field.member.read draft) entry.content.value next ∧
      Underway position (field.name :: seen) next entries := by
  obtain ⟨-, absent⟩ | ⟨fresh, once⟩ := underway field
  · exact absurd named (absent entry (.head _))
  obtain ⟨holds, absent⟩ := once.head named
  obtain ⟨next, takes, has, kept⟩ := member_takes holds draft
  refine ⟨fresh, next, takes, fun other => ?_⟩
  by_cases same : other = field
  · subst same
    exact .inl ⟨has, absent⟩
  have different : other.name ≠ field.name := fun names => same (name_injective names)
  obtain ⟨has, absent⟩ | ⟨fresh, once⟩ := underway other
  · exact .inl ⟨kept other has, absent.tail⟩
  · refine .inr ⟨?_, once.tail fun spelled =>
      different (JsonSpellings.spelled_unique spelled named)⟩
    rw [List.contains_cons, fresh, beq_false_of_ne different]
    rfl

theorem Underway.filled {position : Position} {entries : List Entry} {seen : List String}
    {draft : Position.Draft} (underway : Underway position seen draft entries)
    (names : ∀ entry ∈ entries, ∃ name, Spelled name entry.key) :
    ∃ final, Filled Position.shape.members seen draft entries final ∧
      ∀ field, Has position final field := by
  induction entries generalizing seen draft with
  | nil =>
    refine ⟨draft, .done, fun field => ?_⟩
    obtain ⟨has, -⟩ | ⟨-, before, entry, after, same, -⟩ := underway field
    · exact has
    · exact absurd same (by simp)
  | cons entry entries ih =>
    obtain ⟨name, named⟩ := names entry (.head _)
    have others := fun other known => names other (.tail entry known)
    cases found : Position.shape.members.find? (·.name == name) with
    | none =>
      have other : ∀ field : Field, ¬ Spelled field.name entry.key := by
        intro field spelled
        obtain rfl := JsonSpellings.spelled_unique spelled named
        cases (find_field field).symm.trans found
      obtain ⟨final, filled, full⟩ := ih (underway.unknown other) others
      exact ⟨final, .unknown named found filled, full⟩
    | some member =>
      obtain ⟨field, rfl, rfl⟩ := field_of_name found
      obtain ⟨fresh, next, takes, underway⟩ := underway.known named
      obtain ⟨final, filled, full⟩ := ih underway others
      exact ⟨final, .member _ named found fresh takes filled, full⟩

theorem Shows.values {position : Position} {fields : List Field} {items : List Padded}
    (inOrder : List.Forall₂ (fun field item => Shows position field item.value) fields items) :
    ∀ item ∈ items, WellFormed item.value := by
  induction inOrder with
  | nil => exact List.forall_mem_nil _
  | cons holds _ ih => exact List.forall_mem_cons.mpr ⟨holds.wellFormed, ih⟩

theorem Describes.wellFormed {position : Position} {entries : List Entry} {blanks : Blanks}
    (describes : Describes position entries) : WellFormed (objectText entries blanks) := by
  refine .object (fun entry known => ?_) describes.values
  obtain ⟨name, named⟩ := describes.names entry known
  exact Denotes.inside named

def tight (key value : Bytes) : Entry := ⟨.empty, key, .empty, ⟨.empty, value, .empty⟩⟩

end StreamBridge.Proofs.DecodedTokens
