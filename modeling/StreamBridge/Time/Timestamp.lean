import StreamBridge.Time.Date
import StreamBridge.Text.Blank
import StreamBridge.Decimal.Integer

/-! Moments in universal time, to the nanosecond, with leap seconds; their written form, and the
more liberal forms that are read. -/

namespace StreamBridge.Time

/-- The first second of the year -262143. -/
def minSeconds : Int := -8334601228800

/-- The last second of the year 262142. -/
def maxSeconds : Int := 8210266876799

/-- Whether a second and a nanosecond make a moment. From 10^9 on, nanoseconds lie in a leap second,
which follows the last second of a minute. -/
def IsMoment (seconds : Int) (nanos : Nat) : Prop :=
  minSeconds ≤ seconds ∧ seconds ≤ maxSeconds ∧
    (nanos < 1000000000 ∨ nanos < 2000000000 ∧ seconds % 60 = 59)

instance (seconds : Int) (nanos : Nat) : Decidable (IsMoment seconds nanos) := by
  unfold IsMoment; infer_instance

end StreamBridge.Time

namespace StreamBridge

/-- A moment: seconds since 1970-01-01T00:00:00Z and nanoseconds. -/
structure Timestamp where
  seconds : Int
  nanos : Nat
  isMoment : Time.IsMoment seconds nanos
deriving DecidableEq

namespace Timestamp

/-- The start of 1970. It stands for "no time known" where a broker gives none. -/
def epoch : Timestamp := ⟨0, 0, by decide⟩

instance : Inhabited Timestamp := ⟨epoch⟩

/-- A moment from its parts, if they make one. -/
def of? (seconds : Int) (nanos : Nat) : Option Timestamp :=
  if valid : Time.IsMoment seconds nanos then some ⟨seconds, nanos, valid⟩ else none

/-- A moment from a count of nanoseconds. -/
def ofNanoseconds? (total : Int) : Option Timestamp :=
  of? (total / 1000000000) (total % 1000000000).toNat

/-- A year: four digits up to 9999, beyond that and before the year 0 with a sign. -/
def writeYear (year : Int) : List Char :=
  if 0 ≤ year ∧ year ≤ 9999 then Decimal.padded 4 year.toNat
  else (if year < 0 then '-' else '+') :: Decimal.padded 4 year.natAbs

/-- A fraction of a second: none, or three, six or nine digits, the fewest that are exact. -/
def writeFraction (nanos : Nat) : List Char :=
  if nanos = 0 then []
  else if nanos % 1000000 = 0 then '.' :: Decimal.padded 3 (nanos / 1000000)
  else if nanos % 1000 = 0 then '.' :: Decimal.padded 6 (nanos / 1000)
  else '.' :: Decimal.padded 9 nanos

/-- The written form, `2024-05-01T10:00:00.123Z`; a leap second is the second 60. -/
def letters (moment : Timestamp) : List Char :=
  let date := Time.Date.ofDays (moment.seconds / 86400)
  let second := (moment.seconds % 86400).toNat
  let leap := 1000000000 ≤ moment.nanos
  writeYear date.year ++ '-' :: Decimal.padded 2 date.month ++ '-' :: Decimal.padded 2 date.day
    ++ 'T' :: Decimal.padded 2 (second / 3600) ++ ':' :: Decimal.padded 2 (second / 60 % 60)
    ++ ':' :: Decimal.padded 2 (second % 60 + if leap then 1 else 0)
    ++ writeFraction (if leap then moment.nanos - 1000000000 else moment.nanos) ++ ['Z']

/-- The written form as a text. -/
def text (moment : Timestamp) : String := String.ofList moment.letters

/-- Why a text is not a moment. -/
inductive Fault where
  | tooShort
  | badCharacter
  | outOfRange
  | impossible
  | tooLong
deriving DecidableEq, Repr

/-- The wording of a fault. -/
def Fault.message : Fault → String
  | .tooShort => "premature end of input"
  | .badCharacter => "input contains invalid characters"
  | .outOfRange => "input is out of range"
  | .impossible => "no possible date and time matching input"
  | .tooLong => "trailing input"

/-- The largest value of a signed 64-bit word: a number read on the way may not exceed it. -/
def maxNumber : Nat := 9223372036854775807

/-- Adds digits to `total` until another character or, if there is one, the limit on digits. -/
def readDigits : Option Nat → Nat → List Char → Except Fault (Nat × List Char)
  | some 0, total, rest => .ok (total, rest)
  | _, total, [] => .ok (total, [])
  | limit, total, letter :: rest =>
    match Decimal.digit? letter with
    | none => .ok (total, letter :: rest)
    | some digit =>
      if maxNumber < total * 10 + digit then .error .outOfRange
      else readDigits (limit.map (· - 1)) (total * 10 + digit) rest

/-- Reads a number of at least one digit. -/
def readNumber (limit : Option Nat) : List Char → Except Fault (Nat × List Char)
  | [] => .error .tooShort
  | letter :: rest =>
    match Decimal.digit? letter with
    | none => .error .badCharacter
    | some _ => readDigits limit 0 (letter :: rest)

/-- Reads one or two digits, after blanks, as a number between `low` and `high`. -/
def readPart (low high : Nat) (rest : List Char) : Except Fault (Nat × List Char) := do
  let (value, rest) ← readNumber (some 2) (Text.trimFront rest)
  if low ≤ value ∧ value ≤ high then .ok (value, rest) else .error .outOfRange

/-- Reads a year: up to four digits, or a sign and any number of them. -/
def readYear (rest : List Char) : Except Fault (Int × List Char) := do
  let (year, rest) ← match Text.trimFront rest with
    | '-' :: rest => do
      let (value, rest) ← readNumber none rest
      .ok (-(value : Int), rest)
    | '+' :: rest => do
      let (value, rest) ← readNumber none rest
      .ok ((value : Int), rest)
    | rest => do
      let (value, rest) ← readNumber (some 4) rest
      .ok ((value : Int), rest)
  if -2147483648 ≤ year ∧ year ≤ 2147483647 then .ok (year, rest) else .error .outOfRange

/-- Reads a separator, after blanks. -/
def readMark (mark : Char) (rest : List Char) : Except Fault (List Char) :=
  match Text.trimFront rest with
  | [] => .error .tooShort
  | letter :: rest => if letter = mark then .ok rest else .error .badCharacter

/-- Reads a fraction of a second as nanoseconds, if a point starts one; digits past the ninth are
dropped. -/
def readFraction : List Char → Except Fault (Nat × List Char)
  | '.' :: rest => do
    let (value, after) ← readNumber (some 9) rest
    let count := rest.length - after.length
    .ok (value * Nat.pow 10 (9 - count), after.dropWhile Char.isDigit)
  | rest => .ok (0, rest)

/-- The fault of a text without two characters: it counts as too short only below two bytes. -/
def shortFault : List Char → Fault
  | [letter] => if 2 ≤ letter.utf8Size then .badCharacter else .tooShort
  | _ => .tooShort

/-- Reads the minutes of an offset. -/
def readOffsetMinutes : List Char → Except Fault (Nat × List Char)
  | tens :: ones :: rest =>
    match Decimal.digit? tens, Decimal.digit? ones with
    | some tens, some ones =>
      if tens ≤ 5 then .ok (tens * 10 + ones, rest) else .error .outOfRange
    | _, _ => .error .badCharacter
  | rest => .error (shortFault rest)

/-- Reads the hours and minutes of an offset; a colon and blanks may stand between them. -/
def readOffsetDigits : List Char → Except Fault (Nat × List Char)
  | tens :: ones :: rest =>
    match Decimal.digit? tens, Decimal.digit? ones with
    | some tens, some ones => do
      let rest := rest.dropWhile fun letter => letter == ':' || Text.isBlank letter
      let (minutes, rest) ← readOffsetMinutes rest
      .ok ((tens * 10 + ones) * 3600 + minutes * 60, rest)
    | _, _ => .error .badCharacter
  | rest => .error (shortFault rest)

/-- Whether three letters spell UTC in any case. -/
def spellsUtc (a b c : Char) : Bool :=
  a.toLower == 'u' && b.toLower == 't' && c.toLower == 'c'

/-- Reads an offset from universal time in seconds. -/
def readOffset (rest : List Char) : Except Fault (Int × List Char) :=
  match rest with
  | [] => .error .tooShort
  | 'Z' :: rest | 'z' :: rest => .ok (0, rest)
  | '+' :: rest => do
    let (value, rest) ← readOffsetDigits rest
    .ok ((value : Int), rest)
  | '-' :: rest | '−' :: rest => do
    let (value, rest) ← readOffsetDigits rest
    .ok (-(value : Int), rest)
  | a :: b :: c :: rest => if spellsUtc a b c then .ok (0, rest) else .error .badCharacter
  | _ => .error .badCharacter

/-- The moment of a clock reading at an offset. -/
def ofClock (date : Time.Date) (hour minute second nanos : Nat) (offset : Int) :
    Except Fault Timestamp := do
  if !date.exists then .error .outOfRange
  let seconds := date.toDays * 86400 + hour * 3600 + minute * 60 + min second 59
  let nanos := if second = 60 then nanos + 1000000000 else nanos
  if (of? seconds 0).isNone then .error .outOfRange
  if 86400 ≤ offset.natAbs then .error .outOfRange
  match of? (seconds - offset) nanos with
  | some moment => .ok moment
  | none => .error .impossible

/-- Reads a moment. Beyond the written form, numbers may be short, `t` or a space may stand for `T`,
blanks may stand around numbers and at both ends, and any offset may be given; the second 60 is a
leap second in any minute. -/
def read (input : List Char) : Except Fault Timestamp := do
  let (year, rest) ← readYear input
  let rest ← readMark '-' rest
  let (month, rest) ← readPart 1 12 rest
  let rest ← readMark '-' rest
  let (day, rest) ← readPart 1 31 rest
  let rest ← match rest with
    | [] => .error .tooShort
    | letter :: rest =>
      if letter = 'T' ∨ letter = 't' ∨ letter = ' ' then .ok rest else .error .badCharacter
  let (hour, rest) ← readPart 0 23 rest
  let rest ← readMark ':' rest
  let (minute, rest) ← readPart 0 59 rest
  let rest ← readMark ':' rest
  let (second, rest) ← readPart 0 60 rest
  let (nanos, rest) ← readFraction rest
  let (offset, rest) ← readOffset (Text.trimFront rest)
  if !(Text.trimFront rest).isEmpty then .error .tooLong
  ofClock ⟨year, month, day⟩ hour minute second nanos offset

end Timestamp
end StreamBridge
