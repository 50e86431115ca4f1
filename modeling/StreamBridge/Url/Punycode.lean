import StreamBridge.Text.Split

/-! Punycode: a text in ASCII that stands for one with other characters. Digits of base 36 say how
far it is from each such character, in rising order, to the next, and where it goes. -/

namespace StreamBridge.Url.Punycode

/-- The value of a digit. -/
def digit? (letter : Char) : Option Nat :=
  if 'a' ≤ letter ∧ letter ≤ 'z' then some (letter.toNat - 'a'.toNat)
  else if letter.isDigit then some (letter.toNat - '0'.toNat + 26)
  else none

/-- From which value on the digit at a position, counted from 36 in steps of 36, has others after
it. -/
def threshold (position bias : Nat) : Nat := min 26 (max 1 (position - bias))

/-- Divides a distance until it is small, and counts 36 for each time. -/
def shrink (distance counted : Nat) : Nat × Nat :=
  if 455 < distance then shrink (distance / 35) (counted + 36) else (distance, counted)
termination_by distance
decreasing_by omega

/-- The bias for the next distance. -/
def adapt (distance length : Nat) (first : Bool) : Nat :=
  let scaled := if first then distance / 700 else distance / 2
  let (rest, counted) := shrink (scaled + scaled / length) 0
  counted + 36 * rest / (rest + 38)

/-- What has been read: the characters so far, the code point reached, the index that the next
distance counts from, and the distance in hand with the place value of its next digit. -/
structure Progress where
  letters : List Char
  code : Nat
  start : Nat
  bias : Nat
  total : Nat
  position : Nat
  weight : Nat

/-- Before the first digit. -/
def Progress.initial (letters : List Char) : Progress := ⟨letters, 128, 0, 72, 0, 36, 1⟩

/-- The largest number that is read. -/
def limit : Nat := 4294967295

/-- Puts a character in once its distance is complete. -/
def Progress.insert (progress : Progress) : Option Progress :=
  let length := progress.letters.length + 1
  let code := progress.code + progress.total / length
  let place := progress.total % length
  if code.isValidChar then
    some
      { letters := progress.letters.take place ++ Char.ofNat code :: progress.letters.drop place
        code := code
        start := place + 1
        bias := adapt (progress.total - progress.start) length (progress.start == 0)
        total := place + 1
        position := 36
        weight := 1 }
  else none

/-- Takes a digit. -/
def Progress.take (progress : Progress) (letter : Char) : Option Progress :=
  (digit? letter).bind fun digit =>
    let total := progress.total + digit * progress.weight
    let threshold := threshold progress.position progress.bias
    if limit < total then none
    else if digit < threshold then Progress.insert { progress with total }
    else some
      { progress with
        total
        position := progress.position + 36
        weight := progress.weight * (36 - threshold) }

/-- Decodes a text. Its ASCII characters stand before the last hyphen. -/
def decode (letters : List Char) : Option (List Char) := do
  let digits := Text.behindLast '-' letters
  let progress ← digits.foldlM Progress.take
    (.initial (letters.take (letters.length - digits.length - 1)))
  if progress.position = 36 then some progress.letters else none

end StreamBridge.Url.Punycode
