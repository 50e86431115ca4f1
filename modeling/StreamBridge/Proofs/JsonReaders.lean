import StreamBridge.Proofs.JsonSkipping
import StreamBridge.Proofs.Outcomes

/-! Readers of strings and numbers on well-formed values of any kind. Each takes the values it is
for, as what they are, and no others; what it takes it takes whole. -/

namespace StreamBridge.Proofs.JsonReaders
open Json JsonNumbers JsonGrammar Outcomes

variable {α β : Type}

/-- The reader takes these bytes as this value wherever they are next. -/
def Takes (reader : Reader α) (written : Bytes) (value : α) : Prop :=
  ∀ before rest, skipBlank before = written ++ rest → Ends rest → reader before = .ok (value, rest)

/-- Of well-formed values the reader takes those that it takes wherever they are, and no others. -/
structure Exact (reader : Reader α) : Prop where
  takes : ∀ {written before rest after : Bytes} {value : α}, WellFormed written →
    skipBlank before = written ++ rest → Ends rest → reader before = .ok (value, after) →
    Takes reader written value ∧ after = rest

theorem text_quote {expected : String} {before more : Bytes}
    (ahead : skipBlank before = Ascii.quote :: more) :
    Json.text expected before = stringText more := by
  rw [Json.text, ahead]
  rfl

theorem takes_text (expected : String) {text : String} {written : Bytes}
    (quoted : Quoted text written) : Takes (Json.text expected) written text := by
  obtain ⟨body, spelled, rfl⟩ := quoted
  intro before rest ahead _
  rw [quoted_append] at ahead
  rw [text_quote ahead, JsonSpellings.stringText_spelled spelled]

theorem takes_word {limit value : Nat} (expected : String) (small : value ≤ limit)
    (fits : value ≤ Decimal.maxWord) : Takes (word limit expected) (writeNatural value) value := by
  intro before rest ahead ends
  have read := word_written limit value expected rest ends small fits
  obtain ⟨byte, bytes, written, digit⟩ := written_cons value
  have solid : skipBlank (writeNatural value ++ rest) = writeNatural value ++ rest := by
    rw [written]
    exact List.dropWhile_cons_of_neg (by simp [isBlank_digit digit])
  rw [word, solid] at read
  rw [word, ahead]
  exact read

variable {reader : Reader α} {next : α × Bytes → Except Fault (β × Bytes)}

theorem Takes.bind {written : Bytes} {value : α} {result : β} (takes : Takes reader written value)
    (goes : ∀ rest, next (value, rest) = .ok (result, rest)) :
    Takes (fun rest => reader rest >>= next) written result := by
  intro before rest ahead ends
  change reader before >>= next = _
  rw [takes before rest ahead ends]
  exact goes rest

/-- A reader stays exact if it goes on by the value alone. -/
theorem Exact.bind (exact : Exact reader)
    (goes : ∀ value, (∃ result, ∀ rest, next (value, rest) = .ok (result, rest)) ∨
      ∀ rest, ∃ fault, next (value, rest) = .error fault) :
    Exact fun rest => reader rest >>= next := by
  constructor
  intro written before rest after result wellFormed ahead ends reads
  obtain ⟨⟨value, left⟩, read, reads⟩ := bind_ok reads
  obtain ⟨takes, rfl⟩ := exact.takes wellFormed ahead ends read
  obtain ⟨found, goes⟩ | stops := goes value
  · rw [goes] at reads
    cases reads
    exact ⟨takes.bind goes, rfl⟩
  · obtain ⟨fault, stopped⟩ := stops left
    cases stopped.symm.trans reads

end StreamBridge.Proofs.JsonReaders
