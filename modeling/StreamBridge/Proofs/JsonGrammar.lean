import StreamBridge.Proofs.JsonNumbers
import StreamBridge.Proofs.JsonStrings

/-! The grammar of JSON texts, told apart from any reader of them: blanks between tokens, strings
with their escapes, numbers, and values of any depth. -/

namespace StreamBridge.Proofs.JsonGrammar
open Json JsonStrings JsonNumbers

/-- A byte that may stand between tokens. -/
def Blank (byte : UInt8) : Prop :=
  byte = Ascii.space ∨ byte = Ascii.tab ∨ byte = Ascii.lineFeed ∨ byte = Ascii.carriageReturn

instance decidableBlank : DecidablePred Blank := fun _ =>
  inferInstanceAs (Decidable (_ ∨ _ ∨ _ ∨ _))

structure Blanks where
  bytes : Bytes
  blank : ∀ byte ∈ bytes, Blank byte

def Blanks.empty : Blanks := ⟨[], List.forall_mem_nil _⟩

/-! ### Strings -/

/-- A hexadecimal digit, in either case, and its value. -/
inductive HexDigit : UInt8 → Nat → Prop where
  | decimal {value} (small : value < 10) : HexDigit (UInt8.ofNat (0x30 + value)) value
  | upper {value} (small : value < 6) : HexDigit (UInt8.ofNat (0x41 + value)) (10 + value)
  | lower {value} (small : value < 6) : HexDigit (UInt8.ofNat (0x61 + value)) (10 + value)

/-- Four hexadecimal digits and the number that they are. -/
inductive HexUnit : Bytes → Nat → Prop where
  | digits {a b c d first second third fourth} (one : HexDigit a first) (two : HexDigit b second)
      (three : HexDigit c third) (four : HexDigit d fourth) :
      HexUnit [a, b, c, d] (((first * 16 + second) * 16 + third) * 16 + fourth)

/-- The letters behind a backslash, and the bytes they stand for. -/
def shortEscapes : List (UInt8 × UInt8) :=
  [(Ascii.quote, Ascii.quote), (Ascii.backslash, Ascii.backslash), (Ascii.slash, Ascii.slash),
    (Ascii.letterB, 0x08), (Ascii.letterF, 0x0c), (Ascii.letterN, Ascii.lineFeed),
    (Ascii.letterR, Ascii.carriageReturn), (Ascii.letterT, Ascii.tab)]

/-- What may stand between quotes. The units need not make up characters. -/
inductive Inside : Bytes → Prop where
  | nothing : Inside []
  | plain {byte body} (clear : Plain byte) (more : Inside body) : Inside (byte :: body)
  | short {mark byte body} (listed : (mark, byte) ∈ shortEscapes) (more : Inside body) :
      Inside (Ascii.backslash :: mark :: body)
  | unit {digits code body} (hex : HexUnit digits code) (more : Inside body) :
      Inside (Ascii.backslash :: Ascii.letterU :: (digits ++ body))

/-- The bytes that a string stands for: a character is its own bytes, a short escape, the unit that
is its code, or the two units that stand for a code beyond sixteen bits. -/
inductive Denotes : Bytes → Bytes → Prop where
  | nothing : Denotes [] []
  | plain {byte body bytes} (clear : Plain byte) (more : Denotes body bytes) :
      Denotes (byte :: body) (byte :: bytes)
  | short {mark byte body bytes} (listed : (mark, byte) ∈ shortEscapes)
      (more : Denotes body bytes) : Denotes (Ascii.backslash :: mark :: body) (byte :: bytes)
  | unit {digits body bytes} {letter : Char} (hex : HexUnit digits letter.toNat)
      (more : Denotes body bytes) :
      Denotes (Ascii.backslash :: Ascii.letterU :: (digits ++ body))
        (String.utf8EncodeChar letter ++ bytes)
  | pair {high low body bytes} {letter : Char} (beyond : 0x10000 ≤ letter.toNat)
      (leading : HexUnit high (0xd800 + (letter.toNat - 0x10000) / 0x400))
      (trailing : HexUnit low (0xdc00 + (letter.toNat - 0x10000) % 0x400))
      (more : Denotes body bytes) :
      Denotes
        (Ascii.backslash :: Ascii.letterU ::
          (high ++ Ascii.backslash :: Ascii.letterU :: (low ++ body)))
        (String.utf8EncodeChar letter ++ bytes)

/-- Between quotes, these bytes are the text. -/
def Spelled (text : String) (body : Bytes) : Prop := Denotes body (Utf8.encode text)

def quoted (body : Bytes) : Bytes := Ascii.quote :: (body ++ [Ascii.quote])

/-- A string that is the text. -/
def Quoted (text : String) (value : Bytes) : Prop := ∃ body, Spelled text body ∧ value = quoted body

/-! ### Numbers -/

structure Digits where
  bytes : Bytes
  nonempty : bytes ≠ []
  digits : ∀ byte ∈ bytes, Ascii.isDigit byte = true

inductive Sign where
  | absent
  | plus
  | minus

def Sign.text : Sign → Bytes
  | .absent => []
  | .plus => [Ascii.plus]
  | .minus => [Ascii.minus]

structure Exponent where
  capital : Bool
  sign : Sign
  digits : Digits

def Exponent.text (exponent : Exponent) : Bytes :=
  (if exponent.capital then 0x45 else 0x65) :: (exponent.sign.text ++ exponent.digits.bytes)

/-- A number as it is written. Its whole part has no zeros in front. -/
structure Numeral where
  negative : Bool
  whole : Nat
  fraction : Option Digits
  exponent : Option Exponent

namespace Numeral

/-- What stands behind the whole part. -/
def tail (numeral : Numeral) : Bytes :=
  numeral.fraction.elim [] (fun digits => Ascii.dot :: digits.bytes) ++
    numeral.exponent.elim [] Exponent.text

def unsigned (numeral : Numeral) : Bytes := writeNatural numeral.whole ++ numeral.tail

def text (numeral : Numeral) : Bytes :=
  if numeral.negative then Ascii.minus :: numeral.unsigned else numeral.unsigned

end Numeral

/-! ### Values -/

/-- A value with blanks on both sides. -/
structure Padded where
  before : Blanks
  value : Bytes
  after : Blanks

def Padded.text (item : Padded) : Bytes := item.before.bytes ++ (item.value ++ item.after.bytes)

/-- A member of an object; `key` is what stands between the quotes of its name. -/
structure Entry where
  before : Blanks
  key : Bytes
  behind : Blanks
  content : Padded

def Entry.text (entry : Entry) : Bytes :=
  entry.before.bytes ++ (quoted entry.key ++ (entry.behind.bytes ++
    Ascii.colon :: entry.content.text))

/-- A list; the blanks are those before its end. -/
def listText (items : List Padded) (blanks : Blanks) : Bytes :=
  Ascii.openBracket ::
    (commaSeparated (items.map Padded.text) ++ (blanks.bytes ++ [Ascii.closeBracket]))

/-- An object; the blanks are those before its end. -/
def objectText (entries : List Entry) (blanks : Blanks) : Bytes :=
  Ascii.openBrace ::
    (commaSeparated (entries.map Entry.text) ++ (blanks.bytes ++ [Ascii.closeBrace]))

/-- A value of any kind and depth. -/
inductive WellFormed : Bytes → Prop where
  | word {text} (known : text ∈ ["null", "true", "false"]) : WellFormed (Ascii.bytes text)
  | number (numeral : Numeral) : WellFormed numeral.text
  | string {body} (inside : Inside body) : WellFormed (quoted body)
  | list {items blanks} (each : ∀ item ∈ items, WellFormed item.value) :
      WellFormed (listText items blanks)
  | object {entries blanks} (keys : ∀ entry ∈ entries, Inside entry.key)
      (each : ∀ entry ∈ entries, WellFormed entry.content.value) :
      WellFormed (objectText entries blanks)

/-! ### Strings and numbers that are values -/

theorem Denotes.inside {body bytes : Bytes} (denotes : Denotes body bytes) : Inside body := by
  induction denotes with
  | nothing => exact .nothing
  | plain clear _ ih => exact .plain clear ih
  | short listed _ ih => exact .short listed ih
  | unit hex _ ih => exact .unit hex ih
  | pair _ leading trailing _ ih => exact .unit leading (.unit trailing ih)

theorem Quoted.wellFormed {text : String} {value : Bytes} (quoted : Quoted text value) :
    WellFormed value := by
  obtain ⟨body, spelled, rfl⟩ := quoted
  exact .string spelled.inside

theorem wellFormed_natural (value : Nat) : WellFormed (writeNatural value) := by
  have written := WellFormed.number ⟨false, value, none, none⟩
  simpa [Numeral.text, Numeral.unsigned, Numeral.tail] using written

instance decidablePlain : DecidablePred Plain := fun _ =>
  inferInstanceAs (Decidable (_ ∧ _ ∧ _))

theorem Spelled.plain {text : String} (clear : (Utf8.encode text).all (Plain ·)) :
    Spelled text (Utf8.encode text) := by
  rw [Spelled]
  generalize Utf8.encode text = bytes at clear ⊢
  induction bytes with
  | nil => exact .nothing
  | cons byte bytes ih =>
    rw [List.all_cons, Bool.and_eq_true, decide_eq_true_eq] at clear
    exact .plain clear.1 (ih clear.2)

/-! ### Facts that readers need -/

theorem isBlank_iff (byte : UInt8) : isBlank byte = true ↔ Blank byte := by
  unfold Blank isBlank
  split <;> simp_all

theorem skipBlank_blanks (blanks : Blanks) (rest : Bytes) :
    skipBlank (blanks.bytes ++ rest) = skipBlank rest :=
  List.dropWhile_append_of_pos fun byte member => (isBlank_iff byte).mpr (blanks.blank byte member)

theorem skipBlank_ahead {byte : UInt8} (solid : ¬ Blank byte) (rest : Bytes) :
    skipBlank (byte :: rest) = byte :: rest :=
  List.dropWhile_cons_of_neg fun blank => solid ((isBlank_iff byte).mp blank)

theorem ends_blanks (blanks : Blanks) {rest : Bytes} (ends : Ends rest) :
    Ends (blanks.bytes ++ rest) := by
  obtain ⟨bytes, blank⟩ := blanks
  cases bytes with
  | nil => exact ends
  | cons byte bytes =>
    rintro _ ⟨⟩
    obtain rfl | rfl | rfl | rfl := blank byte (.head _) <;> decide

theorem closeBrace_ends (rest : Bytes) : Ends (Ascii.closeBrace :: rest) := by
  rintro _ ⟨⟩
  decide

theorem closeBracket_ends (rest : Bytes) : Ends (Ascii.closeBracket :: rest) := by
  rintro _ ⟨⟩
  decide

theorem quoted_append (body rest : Bytes) :
    quoted body ++ rest = Ascii.quote :: (body ++ Ascii.quote :: rest) := by simp [quoted]

/-- The parts that are left of a list or an object, with what follows them. -/
def joined : Bool → List Bytes → Bytes → Bytes
  | _, [], rest => rest
  | first, part :: parts, rest =>
    (if first then [] else [Ascii.comma]) ++ (part ++ joined false parts rest)

theorem commaSeparated_append (parts : List Bytes) (rest : Bytes) :
    commaSeparated parts ++ rest = joined true parts rest := by
  cases parts with
  | nil => rfl
  | cons part parts =>
    rw [joined, if_pos rfl, List.nil_append]
    induction parts generalizing part with
    | nil => rfl
    | cons next parts ih =>
      simp only [commaSeparated, joined, List.append_assoc, List.cons_append, List.nil_append,
        Bool.false_eq_true, if_false, ih]

theorem listText_append (items : List Padded) (blanks : Blanks) (rest : Bytes) :
    listText items blanks ++ rest = Ascii.openBracket ::
      joined true (items.map Padded.text) (blanks.bytes ++ Ascii.closeBracket :: rest) := by
  simp [listText, ← commaSeparated_append]

theorem objectText_append (entries : List Entry) (blanks : Blanks) (rest : Bytes) :
    objectText entries blanks ++ rest = Ascii.openBrace ::
      joined true (entries.map Entry.text) (blanks.bytes ++ Ascii.closeBrace :: rest) := by
  simp [objectText, ← commaSeparated_append]

/-- A number starts with its sign or with a digit. -/
theorem Numeral.starts (numeral : Numeral) :
    (numeral.negative = true ∧ numeral.text = Ascii.minus :: numeral.unsigned) ∨
    (numeral.negative = false ∧ numeral.text = numeral.unsigned ∧
      ∃ byte more, numeral.unsigned = byte :: more ∧ Ascii.isDigit byte = true) := by
  cases negative : numeral.negative with
  | true => exact .inl ⟨rfl, by simp [Numeral.text, negative]⟩
  | false =>
    obtain ⟨byte, bytes, written, digit⟩ := written_cons numeral.whole
    refine .inr ⟨rfl, by simp [Numeral.text, negative], byte, bytes ++ numeral.tail, ?_, digit⟩
    rw [Numeral.unsigned, written, List.cons_append]

/-- No number starts with a byte that is neither a sign nor a digit. -/
theorem Numeral.first (numeral : Numeral) :
    ∃ byte more, numeral.text = byte :: more ∧
      ∀ mark, mark ≠ Ascii.minus → Ascii.isDigit mark = false → byte ≠ mark := by
  obtain ⟨-, same⟩ | ⟨-, same, byte, more, written, digit⟩ := numeral.starts
  · exact ⟨Ascii.minus, _, same, fun mark other _ => other.symm⟩
  · refine ⟨byte, more, same.trans written, ?_⟩
    rintro _ - other rfl
    cases digit.symm.trans other

theorem word_starts {text : String} (known : text ∈ ["null", "true", "false"]) :
    ∃ letter more, Ascii.bytes text = letter :: more ∧
      (letter = Ascii.letterN ∨ letter = Ascii.letterT ∨ letter = Ascii.letterF) := by
  simp only [List.mem_cons, List.not_mem_nil, or_false] at known
  obtain rfl | rfl | rfl := known
  · exact ⟨_, _, rfl, .inl rfl⟩
  · exact ⟨_, _, rfl, .inr (.inl rfl)⟩
  · exact ⟨_, _, rfl, .inr (.inr rfl)⟩

/-- A value starts with no blank, and not with the end of a list. -/
theorem WellFormed.starts {value : Bytes} (wellFormed : WellFormed value) :
    ∃ byte more, value = byte :: more ∧ ¬ Blank byte ∧ byte ≠ Ascii.closeBracket := by
  cases wellFormed with
  | word known =>
    obtain ⟨letter, more, same, rfl | rfl | rfl⟩ := word_starts known
    all_goals exact ⟨_, more, same, by decide, by decide⟩
  | number numeral =>
    obtain ⟨byte, more, same, other⟩ := numeral.first
    refine ⟨byte, more, same, ?_, other _ (by decide) (by decide)⟩
    rintro (rfl | rfl | rfl | rfl) <;> exact other _ (by decide) (by decide) rfl
  | string inside => exact ⟨_, _, rfl, by decide, by decide⟩
  | list each => exact ⟨_, _, rfl, by decide, by decide⟩
  | object keys each => exact ⟨_, _, rfl, by decide, by decide⟩

theorem WellFormed.nonempty {value : Bytes} (wellFormed : WellFormed value) : value ≠ [] := by
  obtain ⟨byte, more, rfl, -⟩ := wellFormed.starts
  exact List.cons_ne_nil byte more

theorem skipBlank_value {value : Bytes} (wellFormed : WellFormed value) (rest : Bytes) :
    skipBlank (value ++ rest) = value ++ rest := by
  obtain ⟨byte, more, rfl, solid, -⟩ := wellFormed.starts
  exact skipBlank_ahead solid _

end StreamBridge.Proofs.JsonGrammar
