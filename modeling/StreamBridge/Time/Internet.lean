import StreamBridge.Time.Date
import StreamBridge.Decimal.Integer

/-! The Internet form of a moment, `2024-05-01T10:00:00.5+02:00`: each number has its width. -/

namespace StreamBridge.Time.Internet

/-- Reads a number of some width that lies between two bounds. -/
def number (width low high : Nat) (letters : List Char) : Option (Nat × List Char) :=
  let digits := letters.take width
  let value := Decimal.value digits
  if digits.length = width ∧ digits.all Char.isDigit ∧ low ≤ value ∧ value ≤ high then
    some (value, letters.drop width)
  else none

/-- Reads a mark. -/
def mark (wanted : Char) : List Char → Option (List Char)
  | letter :: rest => if letter = wanted then some rest else none
  | [] => none

/-- Reads what stands between the date and the time: any one byte. -/
def separator : List Char → Option (List Char)
  | letter :: rest => if letter.toNat < 0x80 then some rest else none
  | [] => none

/-- Drops a fraction of a second, if there is one. -/
def dropFraction : List Char → Option (List Char)
  | '.' :: rest =>
    if (rest.head?).any Char.isDigit then some (rest.dropWhile Char.isDigit) else none
  | rest => some rest

/-- Reads an offset from universal time, in minutes. -/
def offset : List Char → Option (Int × List Char)
  | 'Z' :: rest | 'z' :: rest => some (0, rest)
  | sign :: rest => do
    let (hour, rest) ← number 2 0 23 rest
    let (minute, rest) ← number 2 0 59 (← mark ':' rest)
    let total : Int := hour * 60 + minute
    if sign = '+' then some (total, rest) else if sign = '-' then some (-total, rest) else none
  | [] => none

/-- Whether a minute, counted from 1970, is the last of a month. -/
def endsMonth (minutes : Int) : Bool :=
  minutes % 1440 == 1439 && (Date.ofDays (minutes / 1440 + 1)).day == 1

/-- Whether a text has the Internet form. Only the last minute of a month has a second 60. -/
def isMoment (text : String) : Bool :=
  (do
    let (year, rest) ← number 4 0 9999 text.toList
    let (month, rest) ← number 2 1 12 (← mark '-' rest)
    let (day, rest) ← number 2 1 31 (← mark '-' rest)
    let (hour, rest) ← number 2 0 23 (← separator rest)
    let (minute, rest) ← number 2 0 59 (← mark ':' rest)
    let (second, rest) ← number 2 0 60 (← mark ':' rest)
    let (offset, rest) ← offset (← dropFraction rest)
    let date : Date := ⟨year, month, day⟩
    let minutes := date.toDays * 1440 + hour * 60 + minute - offset
    return date.exists && (second < 60 || endsMonth minutes) && rest.isEmpty).getD false

end StreamBridge.Time.Internet
