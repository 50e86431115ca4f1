import StreamBridge.Proofs.JsonReaders

/-! Records in any layout. What is read from an object is decided by its entries one after another:
those of no known name are skipped, and each known name is taken once. A list gives the members
their values in order. -/

namespace StreamBridge.Proofs.RecordTexts
open Json JsonNumbers JsonGrammar JsonSkipping JsonReaders Outcomes

variable {σ α : Type}

/-! ### Members of objects -/

/-- Reading these entries in order takes one draft of a record to another. -/
inductive Filled (members : List (Member σ)) : List String → σ → List Entry → σ → Prop where
  | done {seen draft} : Filled members seen draft [] draft
  | unknown {seen draft final entry entries name} (named : Spelled name entry.key)
      (other : members.find? (·.name == name) = none)
      (others : Filled members seen draft entries final) :
      Filled members seen draft (entry :: entries) final
  | member {seen draft next final entry entries name} (member : Member σ)
      (named : Spelled name entry.key)
      (known : members.find? (·.name == name) = some member) (fresh : seen.contains name = false)
      (takes : Takes (member.read draft) entry.content.value next)
      (others : Filled members (name :: seen) next entries final) :
      Filled members seen draft (entry :: entries) final

def afterQuote (entry : Entry) (more : Bytes) : Bytes :=
  entry.key ++ Ascii.quote :: (entry.behind.bytes ++ Ascii.colon :: (entry.content.text ++ more))

theorem memberAhead_entry (first : Bool) {before : Bytes} {entry : Entry} {parts : List Bytes}
    {tail : Bytes}
    (ahead : skipBlank before = skipBlank (joined first (entry.text :: parts) tail)) :
    memberAhead first before = .ok (true, afterQuote entry (joined false parts tail)) := by
  have start : skipBlank (entry.text ++ joined false parts tail) =
      Ascii.quote :: afterQuote entry (joined false parts tail) := by
    rw [skipBlank_entry, quoted_append]
    rfl
  cases first with
  | true =>
    rw [joined, if_pos rfl, List.nil_append, start] at ahead
    rw [memberAhead, ahead]
    rfl
  | false =>
    replace ahead : skipBlank before =
      Ascii.comma :: (entry.text ++ joined false parts tail) := ahead
    rw [memberAhead, ahead]
    split
    next empty => cases empty
    next same => cases same
    next same =>
      obtain ⟨rfl, rfl⟩ := List.cons.inj same
      simp only [Bool.false_eq_true, if_false, beq_self_eq_true, if_true, start]
      rfl

theorem memberAhead_close (first : Bool) {before rest : Bytes}
    (ahead : skipBlank before = Ascii.closeBrace :: rest) :
    memberAhead first before = .ok (false, Ascii.closeBrace :: rest) := by
  rw [memberAhead, ahead]
  rfl

theorem colon_behind (entry : Entry) (more : Bytes) :
    colon (entry.behind.bytes ++ Ascii.colon :: more) = .ok more := by
  rw [colon, skipBlank_blanks]
  rfl

/-- What follows a value leads to the next entry or the end. -/
theorem ahead_after (item : Padded) (parts : List Bytes) (tail : Bytes) :
    skipBlank (item.after.bytes ++ joined false parts tail) =
      skipBlank (joined false parts tail) := skipBlank_blanks _ _

theorem readMembers_filled {members : List (Member σ)} {seen : List String} {draft final : σ}
    {entries : List Entry} (filled : Filled members seen draft entries final)
    (values : ∀ entry ∈ entries, WellFormed entry.content.value) {tail rest : Bytes}
    (ends : Ends tail) (closes : skipBlank tail = Ascii.closeBrace :: rest) (first : Bool)
    (fuel : Nat) (enough : entries.length < fuel) {before : Bytes}
    (ahead : skipBlank before = skipBlank (joined first (entries.map Entry.text) tail)) :
    RecordShape.readMembers members fuel first seen draft before =
      .ok (final, Ascii.closeBrace :: rest) := by
  induction filled generalizing first fuel before with
  | done =>
    obtain ⟨fuel, rfl⟩ := Nat.exists_eq_add_of_lt enough
    have found := memberAhead_close first (ahead.trans closes)
    simp only [RecordShape.readMembers, found, bind, Except.bind]
    rfl
  | @unknown seen draft final entry entries name named other others ih =>
    obtain ⟨fuel, rfl⟩ : ∃ fewer, fuel = fewer + 1 := Nat.exists_eq_add_of_le' (by omega)
    have wellFormed := values entry (.head _)
    have found := memberAhead_entry first ahead
    have skipped := skipValue_wellFormed wellFormed
      (skipBlank_item wellFormed (joined false (entries.map Entry.text) tail))
      (ends_blanks _ (ends_joined _ ends))
    have rest := ih (fun entry member => values entry (.tail _ member)) false fuel
      (by simpa using enough) (ahead_after entry.content _ tail)
    simp only [RecordShape.readMembers, found, afterQuote, bind, Except.bind, if_true,
      JsonSpellings.stringText_spelled named, other, colon_behind, skipped, rest]
  | @member seen draft next final entry entries name member named known fresh takes others ih =>
    obtain ⟨fuel, rfl⟩ : ∃ fewer, fuel = fewer + 1 := Nat.exists_eq_add_of_le' (by omega)
    have wellFormed := values entry (.head _)
    have found := memberAhead_entry first ahead
    have taken := takes _ _ (skipBlank_item wellFormed (joined false (entries.map Entry.text) tail))
      (ends_blanks _ (ends_joined _ ends))
    have rest := ih (fun entry member => values entry (.tail _ member)) false fuel
      (by simpa using enough) (ahead_after entry.content _ tail)
    simp only [RecordShape.readMembers, found, afterQuote, bind, Except.bind, if_true,
      JsonSpellings.stringText_spelled named, known, fresh, Bool.false_eq_true, if_false,
      colon_behind, taken, rest]

section filled
variable {members : List (Member σ)} {seen : List String} {draft final : σ} {entries : List Entry}

def Absent (name : String) (entries : List Entry) : Prop :=
  ∀ entry ∈ entries, ¬ Spelled name entry.key

theorem Absent.tail {name : String} {entry : Entry} (absent : Absent name (entry :: entries)) :
    Absent name entries := fun other known => absent other (.tail _ known)

/-- A known name that has been seen does not come again. -/
theorem Filled.absent (filled : Filled members seen draft entries final) {name : String}
    {member : Member σ} (known : members.find? (·.name == name) = some member)
    (again : seen.contains name = true) : Absent name entries := by
  induction filled with
  | done => exact List.forall_mem_nil _
  | unknown named other others ih =>
    refine List.forall_mem_cons.mpr ⟨fun spelled => ?_, ih again⟩
    obtain rfl := JsonSpellings.spelled_unique spelled named
    cases known.symm.trans other
  | member member named known fresh takes others ih =>
    refine List.forall_mem_cons.mpr
      ⟨fun spelled => ?_, ih (by rw [List.contains_cons, again, Bool.or_true])⟩
    obtain rfl := JsonSpellings.spelled_unique spelled named
    cases again.symm.trans fresh

theorem Filled.once {before after : List Entry} {entry : Entry}
    (filled : Filled members seen draft (before ++ entry :: after) final) {name : String}
    {member : Member σ} (known : members.find? (·.name == name) = some member)
    (spelled : Spelled name entry.key) : Absent name after := by
  induction before generalizing seen draft with
  | nil =>
    cases filled with
    | unknown named other others =>
      obtain rfl := JsonSpellings.spelled_unique spelled named
      cases known.symm.trans other
    | member member named known fresh takes others =>
      obtain rfl := JsonSpellings.spelled_unique spelled named
      exact others.absent known (by simp)
  | cons first before ih =>
    cases filled with
    | unknown named other others => exact ih others
    | member member named known fresh takes others => exact ih others

/-- An entry with a known name is taken by the member of that name. -/
theorem Filled.takes (filled : Filled members seen draft entries final) {entry : Entry}
    (present : entry ∈ entries) {name : String} (spelled : Spelled name entry.key)
    {member : Member σ} (known : members.find? (·.name == name) = some member) :
    ∃ draft next, Takes (member.read draft) entry.content.value next := by
  induction filled with
  | done => cases present
  | unknown named other others ih =>
    obtain ⟨⟩ | ⟨_, present⟩ := present
    · obtain rfl := JsonSpellings.spelled_unique spelled named
      cases known.symm.trans other
    · exact ih present
  | @member seen draft next final entry entries name member named found fresh takes others ih =>
    obtain ⟨⟩ | ⟨_, present⟩ := present
    · obtain rfl := JsonSpellings.spelled_unique spelled named
      cases known.symm.trans found
      exact ⟨draft, next, takes⟩
    · exact ih present

/-- What members of other names keep holds on, if no entry has the name. -/
theorem Filled.keeps {holds : σ → Prop} {name : String}
    (filled : Filled members seen draft entries final) (absent : Absent name entries)
    (values : ∀ entry ∈ entries, WellFormed entry.content.value)
    (step : ∀ member ∈ members, member.name ≠ name → ∀ {draft next written}, WellFormed written →
      Takes (member.read draft) written next → holds draft → holds next)
    (start : holds draft) : holds final := by
  induction filled with
  | done => exact start
  | unknown named other others ih =>
    exact ih absent.tail (fun entry known => values entry (.tail _ known)) start
  | @member seen draft next final entry entries found member named known fresh takes others ih =>
    have same := List.find?_some known
    refine ih absent.tail (fun entry known => values entry (.tail _ known))
      (step member (List.mem_of_find?_eq_some known) ?_ (values entry (.head _)) takes start)
    rintro rfl
    obtain rfl := eq_of_beq same
    exact absent entry (.head _) named

end filled

/-! ### Objects -/

variable (shape : RecordShape σ α)

/-- Reading these items in order, as far as there are members for them, takes one draft of a record
to another. -/
inductive Listed : List (Member σ) → σ → List Padded → σ → Prop where
  | short {members draft} : Listed members draft [] draft
  | full {draft items} : Listed [] draft items draft
  | item {draft next final members item items} (member : Member σ)
      (takes : Takes (member.read draft) item.value next)
      (others : Listed members next items final) :
      Listed (member :: members) draft (item :: items) final

section listed
variable {members : List (Member σ)} {draft final : σ} {items : List Padded}

theorem Listed.takes (listed : Listed members draft items final) {place : Nat} {member : Member σ}
    {item : Padded} (known : members[place]? = some member) (present : items[place]? = some item) :
    ∃ draft next, Takes (member.read draft) item.value next := by
  induction listed generalizing place with
  | short => cases present
  | full => cases known
  | @item draft next final members first items member' takes others ih =>
    cases place with
    | zero =>
      cases known
      cases present
      exact ⟨draft, next, takes⟩
    | succ place => exact ih known present

/-- What the first members keep holds on, if there are items for no others. -/
theorem Listed.keeps {holds : σ → Prop} {front back : List (Member σ)}
    (listed : Listed (front ++ back) draft items final) (few : items.length ≤ front.length)
    (values : ∀ item ∈ items, WellFormed item.value)
    (step : ∀ member ∈ front, ∀ {draft next written}, WellFormed written →
      Takes (member.read draft) written next → holds draft → holds next)
    (start : holds draft) : holds final := by
  induction front generalizing draft items with
  | nil =>
    obtain rfl := List.length_eq_zero_iff.mp (Nat.le_zero.mp few)
    cases listed <;> exact start
  | cons member front ih =>
    cases listed with
    | short => exact start
    | item member takes others =>
      exact ih others (Nat.le_of_succ_le_succ few) (fun item known => values item (.tail _ known))
        (fun member known => step member (.tail _ known))
        (step member (.head _) (values _ (.head _)) takes start)

end listed

end StreamBridge.Proofs.RecordTexts
