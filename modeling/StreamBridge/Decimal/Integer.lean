/-! Integers in decimal notation: writing them, with leading zeros where a width is fixed, and
reading them within the bounds of a machine word. -/

namespace StreamBridge.Decimal

/-- The digits of a number, most significant first, without leading zeros. -/
def digits (value : Nat) : List Char := Nat.toDigits 10 value

/-- A number with at least `width` digits. -/
def padded (width value : Nat) : List Char :=
  let written := digits value
  List.replicate (width - written.length) '0' ++ written

/-- The value of a decimal digit. -/
def digit? (letter : Char) : Option Nat :=
  if letter.isDigit then some (letter.toNat - '0'.toNat) else none

/-- The number that a list of digits stands for. -/
def value (letters : List Char) : Nat :=
  letters.foldl (fun total letter => total * 10 + (letter.toNat - '0'.toNat)) 0

/-- Why a text is not an integer of the wanted size. -/
inductive Fault where
  | empty
  | badDigit
  | tooLarge
  | tooSmall
deriving DecidableEq, Repr

/-- How a fault is reported. -/
def Fault.message : Fault → String
  | .empty => "cannot parse integer from empty string"
  | .badDigit => "invalid digit found in string"
  | .tooLarge => "number too large to fit in target type"
  | .tooSmall => "number too small to fit in target type"

/-- Adds digits to `total` from the left. The first of a bad digit and a total beyond `limit` is
reported, the latter as `beyond`. -/
def accumulate (limit : Nat) (beyond : Fault) : Nat → List Char → Except Fault Nat
  | total, [] => .ok total
  | total, letter :: rest =>
    match digit? letter with
    | none => .error .badDigit
    | some digit =>
      if limit < total * 10 + digit then .error beyond
      else accumulate limit beyond (total * 10 + digit) rest

/-- Reads a number of at most `limit`; a plus sign may precede the digits. -/
def readUnsigned (limit : Nat) : List Char → Except Fault Nat
  | [] => .error .empty
  | ['+'] => .error .badDigit
  | '+' :: rest => accumulate limit .tooLarge 0 rest
  | letters => accumulate limit .tooLarge 0 letters

/-- Reads a signed number of `bits` bits in two's complement range. -/
def readSigned (bits : Nat) : List Char → Except Fault Int
  | [] => .error .empty
  | ['+'] | ['-'] => .error .badDigit
  | '-' :: rest =>
    (accumulate (Nat.pow 2 (bits - 1)) .tooSmall 0 rest).map fun total => -(total : Int)
  | '+' :: rest => (accumulate (Nat.pow 2 (bits - 1) - 1) .tooLarge 0 rest).map Int.ofNat
  | letters => (accumulate (Nat.pow 2 (bits - 1) - 1) .tooLarge 0 letters).map Int.ofNat

/-- The largest number of a 64-bit word. -/
def maxWord : Nat := 18446744073709551615

/-- The largest number of a 32-bit word. -/
def maxHalfWord : Nat := 4294967295

end StreamBridge.Decimal
