import StreamBridge.Url.Ipv4

/-! Addresses of 128 bits: eight groups of up to four hexadecimal digits with colons between them.
One double colon may stand for some groups of zeros, and an address of 32 bits for the last two. -/

namespace StreamBridge.Url.Ipv6

/-- Whether letters are one of the groups. -/
def isGroup (letters : List Char) : Bool :=
  1 ≤ letters.length && letters.length ≤ 4
    && letters.all fun letter => (Ipv4.digit? 16 letter).isSome

/-- Whether letters are a byte in decimal digits, without zeros before it. -/
def isByte (letters : List Char) : Bool :=
  letters.all Char.isDigit && Decimal.value letters ≤ 255
    && (letters.length == 1 || (letters.head?).any (· != '0'))

/-- Whether letters are an address of 32 bits. -/
def isShort (letters : List Char) : Bool :=
  let bytes := Text.splitAt '.' letters
  bytes.length == 4 && bytes.all isByte

/-- How many groups some letters stand for; `last` tells whether they end the address. -/
def groupsOf (last : Bool) : List (List Char) → Option Nat
  | [] => some 0
  | [only] => if isGroup only then some 1 else if last && isShort only then some 2 else none
  | group :: rest => if isGroup group then (groupsOf last rest).map (· + 1) else none

/-- How many groups stand on a side of a double colon. -/
def sideOf (last : Bool) (letters : List Char) : Option Nat :=
  if letters.isEmpty then some 0 else groupsOf last (Text.splitAt ':' letters)

/-- Cuts letters at the first double colon. -/
def splitAtDouble : List Char → Option (List Char × List Char)
  | ':' :: ':' :: rest => some ([], rest)
  | letter :: rest => (splitAtDouble rest).map fun (before, after) => (letter :: before, after)
  | [] => none

/-- Whether letters are an address. -/
def isAddress (letters : List Char) : Bool :=
  match splitAtDouble letters with
  | none => groupsOf true (Text.splitAt ':' letters) == some 8
  | some (before, after) =>
    match sideOf false before, sideOf true after with
    | some first, some second => first + second ≤ 7
    | _, _ => false

end StreamBridge.Url.Ipv6
