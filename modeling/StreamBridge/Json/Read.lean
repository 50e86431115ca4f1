import StreamBridge.Json.Scan

/-! Readers of typed values from a JSON text, made from readers of their parts. A value of the wrong
kind is refused where it stands, before anything behind it is looked at. -/

namespace StreamBridge.Json

/-- Refuses the value ahead because another kind of value was wanted; a value that cannot be read
is refused for that. -/
def mismatch {α : Type} (expected : String) (rest : Bytes) : Except Fault α :=
  match rest with
  | Ascii.letterN :: more => do
    let more ← skipWord (Ascii.bytes "ull") more
    refuse (.wrongType .null expected) more
  | Ascii.letterT :: more => do
    let more ← skipWord (Ascii.bytes "rue") more
    refuse (.wrongType (.boolean true) expected) more
  | Ascii.letterF :: more => do
    let more ← skipWord (Ascii.bytes "alse") more
    refuse (.wrongType (.boolean false) expected) more
  | Ascii.minus :: more => do
    let (value, more) ← number true more
    refuse (.wrongType value.found expected) more
  | Ascii.quote :: more => do
    let (value, more) ← stringText more
    refuse (.wrongType (.text value) expected) more
  | Ascii.openBracket :: _ => refuse (.wrongType .list expected) rest
  | Ascii.openBrace :: _ => refuse (.wrongType .object expected) rest
  | _ =>
    if digitAhead rest then do
      let (value, more) ← number false rest
      refuse (.wrongType value.found expected) more
    else refuseNext .wantValue rest

/-- Reads a string. -/
def text (expected : String) : Reader String := fun rest =>
  match skipBlank rest with
  | [] => refuse .endInValue []
  | Ascii.quote :: more => stringText more
  | rest => mismatch expected rest

/-- What names a plain string in reports. -/
def aString : String := "a string"

/-- Takes a number as one between zero and `limit`. -/
def asWord (limit : Nat) (expected : String) (value : Number) (rest : Bytes) :
    Except Fault (Nat × Bytes) :=
  match value with
  | .natural n =>
    if n ≤ limit then .ok (n, rest) else refuse (.badValue value.found expected) rest
  | .negative _ => refuse (.badValue value.found expected) rest
  | .decimal _ => refuse (.wrongType value.found expected) rest

/-- Reads an integer between zero and `limit`, written without fraction and exponent. -/
def word (limit : Nat) (expected : String) : Reader Nat := fun rest =>
  match skipBlank rest with
  | [] => refuse .endInValue []
  | Ascii.minus :: more => do
    let (value, more) ← number true more
    asWord limit expected value more
  | rest =>
    if digitAhead rest then do
      let (value, more) ← number false rest
      asWord limit expected value more
    else mismatch expected rest

/-- Reads a value or null. -/
def optional {α : Type} (reader : Reader α) : Reader (Option α) := fun rest =>
  match skipBlank rest with
  | Ascii.letterN :: more => do
    let more ← skipWord (Ascii.bytes "ull") more
    .ok (none, more)
  | rest => do
    let (value, more) ← reader rest
    .ok (some value, more)

/-- Whether another item of a list follows, with the separator read; at the end the closing bracket
stays ahead. -/
def itemAhead (first : Bool) (rest : Bytes) : Except Fault (Bool × Bytes) :=
  match skipBlank rest with
  | [] => refuse .endInList []
  | Ascii.closeBracket :: more => .ok (false, Ascii.closeBracket :: more)
  | byte :: more =>
    if first then .ok (true, byte :: more)
    else if byte == Ascii.comma then
      match skipBlank more with
      | [] => refuse .endInValue []
      | Ascii.closeBracket :: after => refuse .trailingComma after
      | rest => .ok (true, rest)
    else refuse .wantCommaOrBracket more

/-- Whether another member of an object follows, with the separator and the opening quote of its
key read; at the end the closing brace stays ahead. -/
def memberAhead (first : Bool) (rest : Bytes) : Except Fault (Bool × Bytes) :=
  match skipBlank rest with
  | [] => refuse .endInObject []
  | Ascii.closeBrace :: more => .ok (false, Ascii.closeBrace :: more)
  | byte :: more =>
    if first then
      if byte == Ascii.quote then .ok (true, more) else refuse .keyNotText more
    else if byte == Ascii.comma then
      match skipBlank more with
      | [] => refuse .endInValue []
      | Ascii.quote :: after => .ok (true, after)
      | Ascii.closeBrace :: after => refuse .trailingComma after
      | _ :: after => refuse .keyNotText after
    else refuse .wantCommaOrBrace more

/-- Reads the colon after a key. -/
def colon (rest : Bytes) : Except Fault Bytes :=
  match skipBlank rest with
  | [] => refuse .endInObject []
  | Ascii.colon :: more => .ok more
  | _ :: more => refuse .wantColon more

/-- Reads the end of a list. -/
def closeList (rest : Bytes) : Except Fault Bytes :=
  match skipBlank rest with
  | [] => refuse .endInList []
  | Ascii.closeBracket :: more => .ok more
  | Ascii.comma :: more =>
    match skipBlank more with
    | Ascii.closeBracket :: after => refuse .trailingComma after
    | rest => refuseNext .trailingCharacters rest
  | _ :: more => refuse .trailingCharacters more

/-- Reads the end of an object. -/
def closeObject (rest : Bytes) : Except Fault Bytes :=
  match skipBlank rest with
  | [] => refuse .endInObject []
  | Ascii.closeBrace :: more => .ok more
  | Ascii.comma :: more => refuse .trailingComma more
  | _ :: more => refuse .trailingCharacters more

/-- What is ahead once a reader has tried to end a list. -/
def afterList (rest : Bytes) : Bytes :=
  match skipBlank rest with
  | Ascii.closeBracket :: more => more
  | Ascii.comma :: more => skipBlank more
  | rest => rest

/-- What is ahead once a reader has tried to end an object. -/
def afterObject (rest : Bytes) : Bytes :=
  match skipBlank rest with
  | Ascii.closeBrace :: more => more
  | rest => rest

/-- Ends a list or an object around a result: its fault is placed after the end, if it has no place
yet, and comes before a fault of the end itself. -/
def enclosed {α : Type} (close : Bytes → Except Fault Bytes) (after : Bytes → Bytes)
    (result : Except Fault (α × Bytes)) : Except Fault (α × Bytes) :=
  match result with
  | .ok (value, rest) => do
    let rest ← close rest
    .ok (value, rest)
  | .error fault =>
    if fault.placed then .error fault else .error ⟨fault.reason, after fault.rest, true⟩

/-- Reads items until the list ends and adds them to the reversed list `taken`. -/
def items {α : Type} (reader : Reader α) : Nat → Bool → List α → Reader (List α)
  | 0, _, _, rest => refuse .endInList rest
  | fuel + 1, first, taken, rest => do
    let (more, rest) ← itemAhead first rest
    if more then
      let (value, rest) ← reader rest
      items reader fuel false (value :: taken) rest
    else .ok (taken.reverse, rest)

/-- Reads a list. -/
def listOf {α : Type} (reader : Reader α) : Reader (List α) := fun rest =>
  match skipBlank rest with
  | [] => refuse .endInValue []
  | Ascii.openBracket :: more =>
    enclosed closeList afterList (items reader (more.length + 1) true [] more)
  | rest => mismatch "a sequence" rest

/-- A named part of a record: how its value is read into the record. -/
structure Member (σ : Type) where
  name : String
  read : σ → Reader σ

/-- A kind of record: its name in reports, its members in their order, and what ends it, given how
it was written. A record is written as an object with its members in any order, or as a list of
their values in theirs. -/
structure RecordShape (σ α : Type) where
  expected : String
  members : List (Member σ)
  start : σ
  finish : σ → Except Reason α
  finishList : Nat → σ → Except Reason α

namespace RecordShape

variable {σ α : Type}

/-- Reads members until the object ends. Unknown ones are skipped; `seen` names those read. -/
def readMembers (members : List (Member σ)) : Nat → Bool → List String → σ → Reader σ
  | 0, _, _, _, rest => refuse .endInObject rest
  | fuel + 1, first, seen, draft, rest => do
    let (more, rest) ← memberAhead first rest
    if more then
      let (name, rest) ← stringText rest
      match members.find? (·.name == name) with
      | none =>
        let rest ← skipValue (← colon rest)
        readMembers members fuel false seen draft rest
      | some member =>
        if seen.contains name then refuseRecord (.repeated name) rest
        else
          let (draft, rest) ← member.read draft (← colon rest)
          readMembers members fuel false (name :: seen) draft rest
    else .ok (draft, rest)

/-- Reads the values of the members in order, until the list or the members end; gives how many
were read. -/
def readItems : Bool → Nat → List (Member σ) → σ → Reader (Nat × σ)
  | _, count, [], draft, rest => .ok ((count, draft), rest)
  | first, count, member :: members, draft, rest => do
    let (more, rest) ← itemAhead first rest
    if more then
      let (draft, rest) ← member.read draft rest
      readItems false (count + 1) members draft rest
    else .ok ((count, draft), rest)

/-- Ends a record, a failure being about the whole of it. -/
def conclude (rest : Bytes) : Except Reason α → Except Fault (α × Bytes)
  | .ok value => .ok (value, rest)
  | .error reason => refuseRecord reason rest

/-- Reads a record. -/
def read (shape : RecordShape σ α) : Reader α := fun rest =>
  match skipBlank rest with
  | [] => refuse .endInValue []
  | Ascii.openBracket :: more =>
    enclosed closeList afterList do
      let ((count, draft), rest) ← readItems true 0 shape.members shape.start more
      conclude rest (shape.finishList count draft)
  | Ascii.openBrace :: more =>
    enclosed closeObject afterObject do
      let (draft, rest) ← readMembers shape.members (more.length + 1) true [] shape.start more
      conclude rest (shape.finish draft)
  | rest => mismatch shape.expected rest

end RecordShape

/-- What a named variant carries. -/
inductive Variant (α : Type) where
  | unit (value : α)
  | record (reader : Reader α)

/-- Reads null where a variant carries nothing. -/
def unit (rest : Bytes) : Except Fault Bytes :=
  match skipBlank rest with
  | [] => refuse .endInValue []
  | Ascii.letterN :: more => skipWord (Ascii.bytes "ull") more
  | rest => mismatch "unit" rest

/-- Reads the name of a variant after its opening quote. -/
def variantName {α : Type} (variants : List (String × Variant α)) : Reader (Variant α) :=
  fun rest => do
    let (name, rest) ← stringText rest
    match variants.lookup name with
    | some variant => .ok (variant, rest)
    | none => refuse (.unknownVariant name (variants.map Prod.fst)) rest

/-- Reads the opening quote of the one key of an object. -/
def onlyKey (rest : Bytes) : Except Fault Bytes :=
  match skipBlank rest with
  | [] => refuse .endInObject []
  | Ascii.quote :: more => .ok more
  | Ascii.closeBrace :: more => refuse .wantValue more
  | _ :: more => refuse .keyNotText more

/-- Reads a variant: its name alone, or an object with its name and what it carries. -/
def oneOf {α : Type} (variants : List (String × Variant α)) : Reader α := fun rest =>
  match skipBlank rest with
  | [] => refuse .endInValue []
  | Ascii.openBrace :: more => do
    let (variant, rest) ← variantName variants (← onlyKey more)
    let rest ← colon rest
    let (value, rest) ← match variant with
      | .unit value => do
        let rest ← unit rest
        .ok (value, rest)
      | .record reader => reader rest
    match skipBlank rest with
    | [] => refuse .endInObject []
    | Ascii.closeBrace :: more => .ok (value, more)
    | rest => refuse .wantValue rest
  | Ascii.quote :: more => do
    let (variant, rest) ← variantName variants more
    match variant with
    | .unit value => .ok (value, rest)
    | .record _ => refuseRecord (.wrongType .unitVariant "struct variant") rest
  | rest => refuseNext .wantValue rest

/-- Ends a text: nothing but blanks may follow. -/
def atEnd (rest : Bytes) : Except Fault Unit :=
  match skipBlank rest with
  | [] => .ok ()
  | rest => refuseNext .trailingCharacters rest

/-- Reads a whole text. -/
def readAll {α : Type} (reader : Reader α) (input : Bytes) : Except ReadError α :=
  Except.mapError (Fault.locate input) do
    let (value, rest) ← reader input
    atEnd rest
    return value

end StreamBridge.Json
