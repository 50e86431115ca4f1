import StreamBridge.Decimal.Integer

/-! Reading a decimal as the nearest double precision number. -/

namespace StreamBridge.Decimal

/-- `significand * 10 ^ exponent`, rounded to nearest. Exponents far outside the range of the
numbers are not worked out. -/
def toFloat (significand : Nat) (exponent : Int) : Float :=
  let magnitude := (digits significand).length + exponent
  if significand = 0 || magnitude < -400 then 0.0
  else if 400 < magnitude then 1.0 / 0.0
  else Float.ofScientific significand (exponent < 0) exponent.natAbs

/-- Reads an exponent after its letter: a sign and at least one digit. -/
def readExponent? : List Char → Option Int
  | '-' :: rest =>
    if !rest.isEmpty && rest.all Char.isDigit then some (-(value rest : Int)) else none
  | '+' :: rest => if !rest.isEmpty && rest.all Char.isDigit then some (value rest) else none
  | rest => if !rest.isEmpty && rest.all Char.isDigit then some (value rest) else none

/-- Reads what follows the digits of a number. -/
def readTail? (significand : Nat) (exponent : Int) : List Char → Option Float
  | [] => some (toFloat significand exponent)
  | letter :: rest =>
    if letter == 'e' || letter == 'E' then
      (readExponent? rest).map fun shift => toFloat significand (exponent + shift)
    else none

/-- Reads a number without sign: digits with or without a point, at least one, and maybe an
exponent. -/
def readUnsignedFloat? (letters : List Char) : Option Float :=
  let whole := letters.takeWhile Char.isDigit
  match letters.dropWhile Char.isDigit with
  | '.' :: rest =>
    let fraction := rest.takeWhile Char.isDigit
    if whole.isEmpty && fraction.isEmpty then none
    else readTail? (value (whole ++ fraction)) (-(fraction.length : Int))
      (rest.dropWhile Char.isDigit)
  | rest => if whole.isEmpty then none else readTail? (value whole) 0 rest

/-- Reads a number without sign, an infinity (`inf`, `infinity`) or `nan`, in any case. -/
def readSize? (letters : List Char) : Option Float :=
  let name := String.ofList (letters.map Char.toLower)
  if name == "inf" || name == "infinity" then some (1.0 / 0.0)
  else if name == "nan" then some (0.0 / 0.0)
  else readUnsignedFloat? letters

/-- Reads a number or one of the names, with or without a sign. -/
def readFloat? : List Char → Option Float
  | '-' :: rest => (readSize? rest).map (- ·)
  | '+' :: rest => readSize? rest
  | rest => readSize? rest

end StreamBridge.Decimal
