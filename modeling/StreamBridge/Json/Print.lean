import StreamBridge.Text.Utf8
import StreamBridge.Decimal.Integer

/-! Writing compact JSON: no blanks, and in strings only quotes, backslashes and controls
escaped. -/

namespace StreamBridge.Json

/-- A character inside a string. -/
def writtenChar (letter : Char) : Bytes :=
  let code := letter.toNat
  if code = 0x22 then [Ascii.backslash, Ascii.quote]
  else if code = 0x5c then [Ascii.backslash, Ascii.backslash]
  else if code = 0x08 then [Ascii.backslash, Ascii.letterB]
  else if code = 0x0c then [Ascii.backslash, Ascii.letterF]
  else if code = 0x0a then [Ascii.backslash, Ascii.letterN]
  else if code = 0x0d then [Ascii.backslash, Ascii.letterR]
  else if code = 0x09 then [Ascii.backslash, Ascii.letterT]
  else if code < 0x20 then
    [Ascii.backslash, Ascii.letterU, Ascii.zero, Ascii.zero, Ascii.hexDigit (code / 16),
      Ascii.hexDigit (code % 16)]
  else String.utf8EncodeChar letter

/-- A string in its quotes. -/
def writeText (text : String) : Bytes :=
  Ascii.quote :: text.toList.flatMap writtenChar ++ [Ascii.quote]

/-- A number. -/
def writeNatural (value : Nat) : Bytes := (Decimal.digits value).map Ascii.byte

/-- A number that may be negative. -/
def writeInteger (value : Int) : Bytes :=
  if value < 0 then Ascii.minus :: writeNatural value.natAbs else writeNatural value.natAbs

/-- A member of an object. -/
def writeMember (name : String) (value : Bytes) : Bytes := writeText name ++ Ascii.colon :: value

/-- Parts with commas between them. -/
def commaSeparated : List Bytes → Bytes
  | [] => []
  | [only] => only
  | first :: rest => first ++ Ascii.comma :: commaSeparated rest

/-- An object with its members in the given order. -/
def writeObject (members : List (String × Bytes)) : Bytes :=
  Ascii.openBrace :: commaSeparated (members.map fun (name, value) => writeMember name value)
    ++ [Ascii.closeBrace]

end StreamBridge.Json
