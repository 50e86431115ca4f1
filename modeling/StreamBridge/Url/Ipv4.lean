import StreamBridge.Decimal.Integer
import StreamBridge.Text.Split

/-! Addresses of 32 bits. They are written as one to four numbers with points between them, each of
them decimal, or octal after a zero, or hexadecimal after `0x`. The last number fills all bytes that
the others leave. -/

namespace StreamBridge.Url.Ipv4

/-- The value of a digit of a base up to sixteen. -/
def digit? (base : Nat) (letter : Char) : Option Nat :=
  let value :=
    if letter.isDigit then letter.toNat - '0'.toNat
    else if 'a' ≤ letter ∧ letter ≤ 'f' then letter.toNat - 'a'.toNat + 10
    else if 'A' ≤ letter ∧ letter ≤ 'F' then letter.toNat - 'A'.toNat + 10
    else 16
  if value < base then some value else none

/-- Adds digits to a total. -/
def readDigits (base : Nat) : Nat → List Char → Option Nat
  | total, [] => some total
  | total, letter :: rest => do
    readDigits base (total * base + (← digit? base letter)) rest

/-- Reads a number. -/
def number? : List Char → Option Nat
  | [] => none
  | '0' :: 'x' :: rest | '0' :: 'X' :: rest => readDigits 16 0 rest
  | '0' :: rest => readDigits 8 0 rest
  | letters => readDigits 10 0 letters

/-- The parts between points; an empty one at the end does not count. -/
def parts (letters : List Char) : List (List Char) :=
  let all := Text.splitAt '.' letters
  if all.getLast? = some [] then all.dropLast else all

/-- Whether a part looks like a number. -/
def isNumber (part : List Char) : Bool :=
  !part.isEmpty && part.all Char.isDigit || (number? part).isSome

/-- Whether a text ends in a number, so that it has to be an address. -/
def endsInNumber (letters : List Char) : Bool := ((parts letters).getLast?).any isNumber

/-- The value of the numbers of an address: those before the last are bytes, from the highest down.
-/
def combine (last : Nat) (bytes : List Nat) : Option Nat :=
  let room := Nat.pow 256 (4 - bytes.length)
  if 3 < bytes.length ∨ room ≤ last ∨ bytes.any (255 < ·) then none
  else some (bytes.foldl (fun total byte => total * 256 + byte) 0 * room + last)

/-- Reads an address. -/
def read (letters : List Char) : Option Nat := do
  let numbers ← (parts letters).mapM number?
  combine (← numbers.getLast?) numbers.dropLast

/-- The usual form of an address: four decimal bytes. -/
def text (address : Nat) : String :=
  String.intercalate "." <|
    [address / 16777216, address / 65536 % 256, address / 256 % 256, address % 256].map toString

end StreamBridge.Url.Ipv4
