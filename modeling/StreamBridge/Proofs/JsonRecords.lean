import StreamBridge.Proofs.JsonStrings
import StreamBridge.Proofs.JsonNumbers

/-! Written objects are read back member by member, as records of a known shape and as values of
any kind. What is asked of each member is only that its own reader takes it off the front. -/

namespace StreamBridge.Proofs.JsonRecords
open Json JsonStrings JsonNumbers

/-- A reader takes these bytes off the front as this value, whatever follows a value. -/
def Reads (reader : Reader α) (written : Bytes) (value : α) : Prop :=
  ∀ rest, Ends rest → reader (written ++ rest) = .ok (value, rest)

theorem reads_word (limit value : Nat) (expected : String) (small : value ≤ limit)
    (fits : value ≤ Decimal.maxWord) :
    Reads (word limit expected) (writeNatural value) value :=
  fun rest ends => word_written limit value expected rest ends small fits

/-- The members that are left of an object, with what follows it. -/
def remaining : Bool → List (String × Bytes) → Bytes → Bytes
  | _, [], rest => Ascii.closeBrace :: rest
  | first, (name, value) :: more, rest =>
    (if first then [] else [Ascii.comma]) ++ writeMember name value ++ remaining false more rest

private theorem commaSeparated_remaining (name : String) (value : Bytes)
    (more : List (String × Bytes)) (rest : Bytes) :
    commaSeparated (((name, value) :: more).map fun (name, value) => writeMember name value) ++
      Ascii.closeBrace :: rest = writeMember name value ++ remaining false more rest := by
  induction more generalizing name value with
  | nil => simp [commaSeparated, remaining]
  | cons next more ih =>
    have tail := ih next.1 next.2
    simp only [List.map_cons] at tail
    simp only [List.map_cons, commaSeparated, remaining, Bool.false_eq_true, if_false,
      List.append_assoc, List.cons_append, List.nil_append, tail]

theorem writeObject_append (members : List (String × Bytes)) (rest : Bytes) :
    writeObject members ++ rest = Ascii.openBrace :: remaining true members rest := by
  cases members with
  | nil => simp [writeObject, commaSeparated, remaining]
  | cons member more =>
    have body := commaSeparated_remaining member.1 member.2 more rest
    simp only [writeObject, List.cons_append, List.append_assoc, List.nil_append, remaining,
      if_true]
    exact congrArg _ body

theorem ends_remaining (more : List (String × Bytes)) (rest : Bytes) :
    Ends (remaining false more rest) := by
  cases more with
  | nil =>
    rintro byte ⟨⟩
    decide
  | cons member more =>
    rintro byte ⟨⟩
    decide

theorem length_remaining (first : Bool) (members : List (String × Bytes)) (rest : Bytes) :
    members.length < (remaining first members rest).length := by
  induction members generalizing first with
  | nil => simp [remaining]
  | cons member more ih =>
    have shorter := ih false
    simp only [remaining, writeMember, writeText, List.length_append, List.length_cons]
    omega

/-- What is ahead after the opening quote of a member's key. -/
def afterQuote (name : String) (value : Bytes) (more : List (String × Bytes)) (rest : Bytes) :
    Bytes :=
  name.toList.flatMap writtenChar ++
    Ascii.quote :: Ascii.colon :: (value ++ remaining false more rest)

private theorem writeMember_append (name : String) (value : Bytes) (more : List (String × Bytes))
    (rest : Bytes) :
    writeMember name value ++ remaining false more rest =
      Ascii.quote :: afterQuote name value more rest := by
  simp [writeMember, writeText, afterQuote]

theorem memberAhead_member (first : Bool) (name : String) (value : Bytes)
    (more : List (String × Bytes)) (rest : Bytes) :
    memberAhead first (remaining first ((name, value) :: more) rest) =
      .ok (true, afterQuote name value more rest) := by
  rw [remaining, List.append_assoc, writeMember_append]
  cases first <;> rfl

theorem stringText_name (name : String) (value : Bytes) (more : List (String × Bytes))
    (rest : Bytes) :
    stringText (afterQuote name value more rest) =
      .ok (name, Ascii.colon :: (value ++ remaining false more rest)) :=
  stringText_written name _

theorem colon_ahead (rest : Bytes) : colon (Ascii.colon :: rest) = .ok rest := rfl

variable {σ α : Type}

/-- Reading these members in order takes one draft of a record to another. -/
inductive Fills (members : List (Member σ)) :
    List String → σ → List (String × Bytes) → σ → Prop where
  | done {seen draft} : Fills members seen draft [] draft
  | member {seen draft next final name value more} (member : Member σ)
      (known : members.find? (·.name == name) = some member) (fresh : seen.contains name = false)
      (reads : Reads (member.read draft) value next)
      (others : Fills members (name :: seen) next more final) :
      Fills members seen draft ((name, value) :: more) final

theorem readMembers_filled {members : List (Member σ)} {seen : List String} {draft final : σ}
    {written : List (String × Bytes)} (fills : Fills members seen draft written final)
    (first : Bool) (fuel : Nat) (rest : Bytes) (enough : written.length < fuel) :
    RecordShape.readMembers members fuel first seen draft (remaining first written rest) =
      .ok (final, Ascii.closeBrace :: rest) := by
  induction fills generalizing first fuel with
  | done =>
    obtain ⟨fuel, rfl⟩ := Nat.exists_eq_add_of_lt enough
    rfl
  | @member seen draft next final name value more member known fresh reads others ih =>
    obtain ⟨fuel, rfl⟩ : ∃ fewer, fuel = fewer + 1 := Nat.exists_eq_add_of_le' (by omega)
    have value := reads _ (ends_remaining more rest)
    have rest := ih false fuel (by simpa using enough)
    simp only [RecordShape.readMembers, memberAhead_member, bind, Except.bind, if_true,
      stringText_name, known, fresh, Bool.false_eq_true, if_false, colon_ahead, value, rest]

/-- A written object is read as a record if its members fill the draft of one. -/
theorem read_filled (shape : RecordShape σ α) {written : List (String × Bytes)} {final : σ}
    {value : α} (fills : Fills shape.members [] shape.start written final)
    (finished : shape.finish final = .ok value) : Reads shape.read (writeObject written) value := by
  intro rest _
  rw [writeObject_append]
  change enclosed closeObject afterObject
    (RecordShape.readMembers shape.members ((remaining true written rest).length + 1) true []
      shape.start (remaining true written rest) >>= fun read =>
        RecordShape.conclude read.2 (shape.finish read.1)) = _
  have filled := readMembers_filled fills true _ rest
    (Nat.lt_succ_of_lt (length_remaining true written rest))
  simp only [filled, bind, Except.bind, finished, RecordShape.conclude, enclosed]
  rfl

theorem readAll_reads {reader : Reader α} {written : Bytes} {value : α}
    (reads : Reads reader written value) : readAll reader written = .ok value := by
  have read := reads [] (by simp [Ends])
  rw [List.append_nil] at read
  simp only [readAll, read, bind, Except.bind]
  rfl

theorem writeMember_wellFormed (name : String) {value : Bytes}
    (wellFormed : TextEncoding.WellFormed value) :
    TextEncoding.WellFormed (writeMember name value) :=
  (writeText_wellFormed name).append
    ((TextEncoding.wellFormed_ascii Ascii.colon (by decide)).append wellFormed)

theorem writeObject_wellFormed {members : List (String × Bytes)}
    (values : ∀ member ∈ members, TextEncoding.WellFormed member.2) :
    TextEncoding.WellFormed (writeObject members) := by
  have separated : ∀ parts : List Bytes, (∀ part ∈ parts, TextEncoding.WellFormed part) →
      TextEncoding.WellFormed (commaSeparated parts) := by
    intro parts each
    fun_induction commaSeparated parts with
    | case1 => exact ⟨"", rfl⟩
    | case2 only => exact each only (by simp)
    | case3 first rest _ ih =>
      exact (each first (by simp)).append
        ((TextEncoding.wellFormed_ascii Ascii.comma (by decide)).append
          (ih fun part member => each part (List.mem_cons_of_mem _ member)))
  have body := separated (members.map fun (name, value) => writeMember name value) (by
    intro part member
    obtain ⟨⟨name, value⟩, present, rfl⟩ := List.mem_map.mp member
    exact writeMember_wellFormed name (values _ present))
  exact ((TextEncoding.wellFormed_ascii Ascii.openBrace (by decide)).append body).append
    (TextEncoding.wellFormed_ascii Ascii.closeBrace (by decide))

theorem writeObject_unbroken {members : List (String × Bytes)}
    (values : ∀ member ∈ members, Ascii.lineFeed ∉ member.2) :
    Ascii.lineFeed ∉ writeObject members := by
  have separated : ∀ parts : List Bytes, (∀ part ∈ parts, Ascii.lineFeed ∉ part) →
      Ascii.lineFeed ∉ commaSeparated parts := by
    intro parts each
    fun_induction commaSeparated parts with
    | case1 => exact List.not_mem_nil
    | case2 only => exact each only (.head _)
    | case3 first rest _ ih =>
      have others := ih fun part member => each part (.tail first member)
      simpa [each first (.head rest), show Ascii.lineFeed ≠ Ascii.comma by decide] using others
  have body := separated (members.map fun (name, value) => writeMember name value) (by
    intro part member
    obtain ⟨⟨name, value⟩, present, rfl⟩ := List.mem_map.mp member
    simpa [writeMember, writeText_unbroken, show Ascii.lineFeed ≠ Ascii.colon by decide] using
      values _ present)
  simpa [writeObject, show Ascii.lineFeed ≠ Ascii.openBrace by decide,
    show Ascii.lineFeed ≠ Ascii.closeBrace by decide] using body

end StreamBridge.Proofs.JsonRecords
