import StreamBridge.Json.Fault
import StreamBridge.Text.Utf8

/-! Reading the parts of a JSON text: blanks, words, strings, numbers, and values that are skipped.
A scanner takes the bytes ahead and gives what it read and the bytes that are left. -/

namespace StreamBridge.Json

/-- A reader of a value from the bytes ahead. -/
abbrev Reader (α : Type) := Bytes → Except Fault (α × Bytes)

/-- Refuses at the point where `rest` is ahead. -/
def refuse {α : Type} (reason : Reason) (rest : Bytes) : Except Fault α :=
  .error ⟨reason, rest, true⟩

/-- Refuses because of the next byte, which counts as read. -/
def refuseNext {α : Type} (reason : Reason) (rest : Bytes) : Except Fault α :=
  refuse reason rest.tail

/-- Refuses a whole record, to be placed where the record ends. -/
def refuseRecord {α : Type} (reason : Reason) (rest : Bytes) : Except Fault α :=
  .error ⟨reason, rest, false⟩

/-- Whether a byte may stand between tokens. -/
def isBlank : UInt8 → Bool
  | Ascii.space | Ascii.lineFeed | Ascii.tab | Ascii.carriageReturn => true
  | _ => false

/-- Drops the blanks ahead. -/
def skipBlank (bytes : Bytes) : Bytes := bytes.dropWhile isBlank

/-- Reads the rest of a word. -/
def skipWord : Bytes → Bytes → Except Fault Bytes
  | [], rest => .ok rest
  | _ :: _, [] => refuse .endInValue []
  | letter :: word, byte :: rest =>
    if letter == byte then skipWord word rest else refuse .wantWord rest

/-- Four hexadecimal digits as a number. -/
def hexUnit : Bytes → Except Fault (Nat × Bytes)
  | a :: b :: c :: d :: rest =>
    match Ascii.hexValue? a, Ascii.hexValue? b, Ascii.hexValue? c, Ascii.hexValue? d with
    | some a, some b, some c, some d => .ok (((a * 16 + b) * 16 + c) * 16 + d, rest)
    | _, _, _, _ => refuse .badEscape rest
  | _ => refuse .endInString []

/-- Whether a sixteen-bit unit is the first half of a pair. -/
def isLeading (unit : Nat) : Bool := 0xd800 ≤ unit && unit ≤ 0xdbff

/-- Whether a sixteen-bit unit is the second half of a pair. -/
def isTrailing (unit : Nat) : Bool := 0xdc00 ≤ unit && unit ≤ 0xdfff

/-- The bytes of a code point. -/
def codePoint (code : Nat) : Bytes := String.utf8EncodeChar (Char.ofNat code)

/-- Reads the second half of a pair whose first half was `leading`. -/
def pairedUnit (leading : Nat) : Bytes → Except Fault (Bytes × Bytes)
  | [] => refuse .endInString []
  | Ascii.backslash :: Ascii.letterU :: rest => do
    let (trailing, rest) ← hexUnit rest
    if isTrailing trailing then
      .ok (codePoint (0x10000 + (leading - 0xd800) * 0x400 + (trailing - 0xdc00)), rest)
    else refuse .loneSurrogate rest
  | [Ascii.backslash] => refuse .endInString []
  | Ascii.backslash :: _ :: rest => refuse .shortEscape rest
  | _ :: rest => refuse .shortEscape rest

/-- Reads the digits of a `\u` escape, and a second escape where the first is half of a pair. -/
def unitEscape (rest : Bytes) : Except Fault (Bytes × Bytes) := do
  let (unit, rest) ← hexUnit rest
  if isTrailing unit then refuse .loneSurrogate rest
  else if isLeading unit then pairedUnit unit rest
  else .ok (codePoint unit, rest)

/-- The byte that a short escape stands for. -/
def shortEscape? : UInt8 → Option UInt8
  | Ascii.quote => some Ascii.quote
  | Ascii.backslash => some Ascii.backslash
  | Ascii.slash => some Ascii.slash
  | Ascii.letterB => some 0x08
  | Ascii.letterF => some 0x0c
  | Ascii.letterN => some Ascii.lineFeed
  | Ascii.letterR => some Ascii.carriageReturn
  | Ascii.letterT => some Ascii.tab
  | _ => none

/-- Reads an escape after its backslash. -/
def escape : Bytes → Except Fault (Bytes × Bytes)
  | [] => refuse .endInString []
  | Ascii.letterU :: rest => unitEscape rest
  | byte :: rest =>
    match shortEscape? byte with
    | some written => .ok ([written], rest)
    | none => refuse .badEscape rest

/-- Reads a string after its opening quote and adds the bytes it stands for to the reversed list
`taken`. -/
def stringBytes : Nat → Bytes → Bytes → Except Fault (Bytes × Bytes)
  | 0, _, rest => refuse .endInString rest
  | _ + 1, _, [] => refuse .endInString []
  | _ + 1, taken, Ascii.quote :: rest => .ok (taken.reverse, rest)
  | fuel + 1, taken, Ascii.backslash :: rest =>
    match escape rest with
    | .error fault => .error fault
    | .ok (written, rest) => stringBytes fuel (written.reverseAux taken) rest
  | fuel + 1, taken, byte :: rest =>
    if byte < 0x20 then refuse .controlCharacter rest
    else stringBytes fuel (byte :: taken) rest

/-- Reads a string after its opening quote. Ill-formed bytes are placed by their distance from the
end of what is written, counted back from behind the closing quote. -/
def stringText (rest : Bytes) : Except Fault (String × Bytes) := do
  let (written, after) ← stringBytes (rest.length + 1) [] rest
  match Utf8.decode written with
  | .ok text => .ok (text, after)
  | .error fault =>
    let length := rest.length - after.length
    refuse .badCodePoint (rest.drop (length - (written.length - fault.index)))

/-- Skips an escape after its backslash; halves of pairs are not looked at. -/
def skipEscape : Bytes → Except Fault Bytes
  | [] => refuse .endInString []
  | Ascii.letterU :: rest => do
    let (_, rest) ← hexUnit rest
    .ok rest
  | byte :: rest => if (shortEscape? byte).isSome then .ok rest else refuse .badEscape rest

/-- Skips a string after its opening quote. -/
def skipString : Nat → Bytes → Except Fault Bytes
  | 0, rest => refuse .endInString rest
  | _ + 1, [] => refuse .endInString []
  | _ + 1, Ascii.quote :: rest => .ok rest
  | fuel + 1, Ascii.backslash :: rest =>
    match skipEscape rest with
    | .error fault => .error fault
    | .ok rest => skipString fuel rest
  | fuel + 1, byte :: rest =>
    if byte < 0x20 then refuse .controlCharacter (byte :: rest) else skipString fuel rest

/-- A number as it was written: an integer within 64 bits, or a decimal. -/
inductive Number where
  | natural (value : Nat)
  | negative (value : Nat)
  | decimal (value : Float)

/-- A number found where something else was wanted. -/
def Number.found : Number → Found
  | .natural value => .integer value
  | .negative value => .integer (-(value : Int))
  | .decimal value => .decimal value

/-- `value * 10 ^ exponent`; none where that is too large. Powers below `10 ^ -308` take several
steps. -/
def scale : Nat → Float → Int → Option Float
  | 0, value, _ => some value
  | tries + 1, value, exponent =>
    if exponent.natAbs ≤ 308 then
      let power := Float.ofScientific 1 false exponent.natAbs
      if 0 ≤ exponent then
        let scaled := value * power
        if scaled.isInf then none else some scaled
      else some (value / power)
    else if value == 0 then some value
    else if 0 ≤ exponent then none
    else scale tries (value / 1e308) (exponent + 308)

/-- A decimal read from a significand and an exponent. -/
def decimalNumber (negative : Bool) (significand : Nat) (exponent : Int) (rest : Bytes) :
    Except Fault (Number × Bytes) :=
  match scale 8 (Float.ofNat significand) exponent with
  | none => refuse .numberTooLarge rest
  | some value => .ok (.decimal (if negative then -value else value), rest)

/-- Adds digits to a significand while it fits in 64 bits; gives it and how many digits went in. -/
def absorb (significand : Nat) : Nat → Bytes → Nat × Nat
  | count, [] => (significand, count)
  | count, byte :: rest =>
    let next := significand * 10 + Ascii.digitValue byte
    if Decimal.maxWord < next then (significand, count) else absorb next (count + 1) rest

/-- The digits of an exponent up to the first that takes it beyond 32 bits. -/
inductive ExponentDigits where
  | fits (value : Nat)
  | beyond (rest : Bytes)

/-- Adds the digits ahead to an exponent. -/
def exponentDigits (value : Nat) : Bytes → ExponentDigits
  | [] => .fits value
  | byte :: rest =>
    if Ascii.isDigit byte then
      let next := value * 10 + Ascii.digitValue byte
      if 2147483647 < next then .beyond rest else exponentDigits next rest
    else .fits value

/-- Drops a sign, telling whether it was a minus sign. -/
def exponentSign : Bytes → Bool × Bytes
  | Ascii.plus :: rest => (false, rest)
  | Ascii.minus :: rest => (true, rest)
  | rest => (false, rest)

/-- Reads an exponent after its letter. -/
def numberExponent (negative : Bool) (significand : Nat) (exponent : Int) (rest : Bytes) :
    Except Fault (Number × Bytes) :=
  let (below, rest) := exponentSign rest
  match rest with
  | [] => refuse .endInValue []
  | byte :: more =>
    if Ascii.isDigit byte then
      match exponentDigits 0 rest with
      | .fits value =>
        let total := if below then exponent - value else exponent + value
        decimalNumber negative significand total (rest.dropWhile Ascii.isDigit)
      | .beyond after =>
        if significand != 0 && !below then refuse .numberTooLarge after
        else .ok (.decimal (if negative then -0.0 else 0.0), after.dropWhile Ascii.isDigit)
    else refuse .badNumber more

/-- Whether a byte starts an exponent. -/
def isExponentMark (byte : UInt8) : Bool := byte == 0x65 || byte == 0x45

/-- Reads a fraction after its point. -/
def numberFraction (negative : Bool) (significand : Nat) (exponent : Int) (rest : Bytes) :
    Except Fault (Number × Bytes) :=
  let digits := rest.takeWhile Ascii.isDigit
  let after := rest.dropWhile Ascii.isDigit
  if digits.isEmpty then
    if after.isEmpty then refuse .endInValue [] else refuseNext .badNumber after
  else
    let (significand, count) := absorb significand 0 digits
    let exponent := exponent - count
    match after with
    | [] => decimalNumber negative significand exponent after
    | byte :: more =>
      if isExponentMark byte then numberExponent negative significand exponent more
      else decimalNumber negative significand exponent after

/-- An integer of 64 bits; a negative one below them, and minus zero, become decimals. -/
def integerNumber (negative : Bool) (significand : Nat) : Number :=
  if negative then
    if significand == 0 || Nat.pow 2 63 < significand then .decimal (-(Float.ofNat significand))
    else .negative significand
  else .natural significand

/-- Reads what follows the whole part of a number, of which `dropped` digits did not fit. -/
def numberTail (negative : Bool) (significand dropped : Nat) (rest : Bytes) :
    Except Fault (Number × Bytes) :=
  match rest with
  | [] => whole rest
  | byte :: more =>
    if byte == Ascii.dot then numberFraction negative significand dropped more
    else if isExponentMark byte then numberExponent negative significand dropped more
    else whole rest
where
  /-- Ends the number here. -/
  whole (rest : Bytes) : Except Fault (Number × Bytes) :=
    if dropped == 0 then .ok (integerNumber negative significand, rest)
    else decimalNumber negative significand dropped rest

/-- Whether a digit is ahead. -/
def digitAhead : Bytes → Bool
  | [] => false
  | byte :: _ => Ascii.isDigit byte

/-- Reads a number after its sign. -/
def number (negative : Bool) : Bytes → Except Fault (Number × Bytes)
  | [] => refuse .endInValue []
  | Ascii.zero :: rest =>
    if digitAhead rest then refuseNext .badNumber rest else numberTail negative 0 0 rest
  | byte :: rest =>
    if Ascii.isDigit byte then
      let digits := (byte :: rest).takeWhile Ascii.isDigit
      let after := (byte :: rest).dropWhile Ascii.isDigit
      let (significand, count) := absorb 0 0 digits
      numberTail negative significand (digits.length - count) after
    else refuse .badNumber rest

/-- Skips an exponent after its letter. -/
def skipExponent (rest : Bytes) : Except Fault Bytes :=
  match (exponentSign rest).2 with
  | [] => refuse .badNumber []
  | byte :: rest =>
    if Ascii.isDigit byte then .ok (rest.dropWhile Ascii.isDigit) else refuse .badNumber rest

/-- Skips what may follow the digits of a number. -/
def skipExponentAhead : Bytes → Except Fault Bytes
  | [] => .ok []
  | byte :: rest => if isExponentMark byte then skipExponent rest else .ok (byte :: rest)

/-- Skips a fraction after its point. -/
def skipFraction (rest : Bytes) : Except Fault Bytes :=
  if digitAhead rest then skipExponentAhead (rest.dropWhile Ascii.isDigit)
  else refuseNext .badNumber rest

/-- Skips what follows the whole part of a number. -/
def skipNumberTail : Bytes → Except Fault Bytes
  | Ascii.dot :: rest => skipFraction rest
  | rest => skipExponentAhead rest

/-- Skips a number after its sign. -/
def skipNumber : Bytes → Except Fault Bytes
  | [] => refuse .badNumber []
  | Ascii.zero :: rest =>
    if digitAhead rest then refuseNext .badNumber rest else skipNumberTail rest
  | byte :: rest =>
    if Ascii.isDigit byte then skipNumberTail (rest.dropWhile Ascii.isDigit)
    else refuse .badNumber rest

/-- An open list or object around a skipped value. -/
inductive Frame where
  | list
  | object
deriving DecidableEq, Repr

/-- Where a skip stands: before a value, before a key, after an opening mark, or after a value. -/
inductive Skip where
  | value
  | key
  | opened
  | ended

/-- Skips a value that is no list and no object; `none` leaves those to the caller. -/
def skipScalar : Bytes → Except Fault (Option Bytes)
  | [] => refuse .endInValue []
  | Ascii.letterN :: rest => some <$> skipWord (Ascii.bytes "ull") rest
  | Ascii.letterT :: rest => some <$> skipWord (Ascii.bytes "rue") rest
  | Ascii.letterF :: rest => some <$> skipWord (Ascii.bytes "alse") rest
  | Ascii.minus :: rest => some <$> skipNumber rest
  | Ascii.quote :: rest => some <$> skipString (rest.length + 1) rest
  | Ascii.openBracket :: _ | Ascii.openBrace :: _ => .ok none
  | byte :: rest =>
    if Ascii.isDigit byte then some <$> skipNumber (byte :: rest) else refuse .wantValue rest

/-- Skips a key with its colon. -/
def skipKey : Bytes → Except Fault Bytes
  | [] => refuse .endInObject []
  | Ascii.quote :: rest => do
    match skipBlank (← skipString (rest.length + 1) rest) with
    | [] => refuse .endInObject []
    | Ascii.colon :: rest => .ok rest
    | _ :: rest => refuse .wantColon rest
  | _ :: rest => refuse .keyNotText rest

/-- The byte that closes a frame. -/
def Frame.close : Frame → UInt8
  | .list => Ascii.closeBracket
  | .object => Ascii.closeBrace

/-- What comes after the opening mark of a frame, or after a comma in it. -/
def Frame.entry : Frame → Skip
  | .list => .value
  | .object => .key

/-- The fault of a text that ends inside a frame. -/
def Frame.endReason : Frame → Reason
  | .list => .endInList
  | .object => .endInObject

/-- The fault of a value in a frame that is followed by neither a comma nor the end. -/
def Frame.separatorReason : Frame → Reason
  | .list => .wantCommaOrBracket
  | .object => .wantCommaOrBrace

/-- Skips a value of any depth; `frames` are the lists and objects around the point reached, the
innermost first. Each turn reads a byte or closes a frame. -/
def skipFrom : Nat → List Frame → Skip → Bytes → Except Fault Bytes
  | 0, _, _, rest => refuse .endInValue rest
  | fuel + 1, frames, .value, rest =>
    let rest := skipBlank rest
    match skipScalar rest with
    | .error fault => .error fault
    | .ok (some rest) => skipFrom fuel frames .ended rest
    | .ok none =>
      match rest with
      | Ascii.openBracket :: rest => skipFrom fuel (.list :: frames) .opened rest
      | _ => skipFrom fuel (.object :: frames) .opened rest.tail
  | fuel + 1, frames, .key, rest =>
    match skipKey (skipBlank rest) with
    | .error fault => .error fault
    | .ok rest => skipFrom fuel frames .value rest
  | _ + 1, [], .opened, rest | _ + 1, [], .ended, rest => .ok rest
  | fuel + 1, frame :: frames, .opened, rest =>
    match skipBlank rest with
    | [] => refuse frame.endReason []
    | byte :: rest =>
      if byte == frame.close then skipFrom fuel frames .ended rest
      else skipFrom fuel (frame :: frames) frame.entry (byte :: rest)
  | fuel + 1, frame :: frames, .ended, rest =>
    match skipBlank rest with
    | [] => refuse frame.endReason []
    | byte :: rest =>
      if byte == Ascii.comma then skipFrom fuel (frame :: frames) frame.entry rest
      else if byte == frame.close then skipFrom fuel frames .ended rest
      else refuse frame.separatorReason rest

/-- Skips a value of any depth. -/
def skipValue (rest : Bytes) : Except Fault Bytes :=
  skipFrom (3 * rest.length + 3) [] .value rest

end StreamBridge.Json
