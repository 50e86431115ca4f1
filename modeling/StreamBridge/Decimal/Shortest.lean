import StreamBridge.Decimal.Integer

/-! The shortest decimal that reads back as a given binary number, and texts of it.

A finite number is `mantissa * 2 ^ exponent`. The decimals that read back as it lie in the interval
between the midpoints to its two neighbours, ends included where the mantissa is even. For one to
seventeen digits the two decimals next to the number on that grid are tested, so the first grid
with a hit has the fewest digits; of two hits the nearer is taken. -/

namespace StreamBridge.Decimal

/-- The digits of a positive decimal and the exponent of ten of the first of them. -/
structure Scientific where
  digits : List Char
  exponent : Int
deriving DecidableEq, Repr

/-- A positive finite binary number. `narrow` says that the gap to the neighbour below is half the
gap to the neighbour above. -/
structure Binary where
  mantissa : Nat
  exponent : Int
  narrow : Bool

/-- Splits the bits of a double precision number without its sign; none for zero, infinity and
NaN. -/
def Binary.ofBits? (bits : Nat) : Option Binary :=
  let fraction : Nat := bits % Nat.pow 2 52
  let field : Nat := bits / Nat.pow 2 52 % Nat.pow 2 11
  if field == 2047 then none
  else if field == 0 then
    if fraction == 0 then none else some ⟨fraction, -1074, false⟩
  else some ⟨fraction + Nat.pow 2 52, (field : Int) - 1075, fraction == 0 && 1 < field⟩

namespace Binary

/-- A common scale for exact comparison: the number, the interval's ends and the grid's unit become
integers after multiplication by it. -/
structure Scaled where
  value : Nat
  low : Nat
  high : Nat
  unit : Nat
  closed : Bool

/-- Brings a number to integers, with a grid of unit `10 ^ place`. -/
def scaled (number : Binary) (place : Int) : Scaled :=
  let shift := number.exponent - 2
  let binaryUp := Nat.pow 2 shift.toNat
  let binaryDown := Nat.pow 2 (-shift).toNat
  let decimalUp := Nat.pow 10 place.toNat
  let decimalDown := Nat.pow 10 (-place).toNat
  let quarter := binaryUp * decimalDown
  let value := number.mantissa * 4 * quarter
  { value
    low := value - (if number.narrow then 1 else 2) * quarter
    high := value + 2 * quarter
    unit := decimalUp * binaryDown
    closed := number.mantissa % 2 == 0 }

/-- Whether a point lies where every number reads back as this one. -/
def Scaled.holds (scale : Scaled) (point : Nat) : Bool :=
  if scale.closed then scale.low ≤ point && point ≤ scale.high
  else scale.low < point && point < scale.high

/-- The multiple of the unit next to the number that reads back as it, if there is one: the nearer
of the two neighbours, and the even one of two equally near. -/
def Scaled.nearest? (scale : Scaled) : Option Nat :=
  let below := scale.value / scale.unit
  let rest := scale.value % scale.unit
  let lower := if scale.holds (below * scale.unit) then some below else none
  let upper := if scale.holds ((below + 1) * scale.unit) then some (below + 1) else none
  match lower, upper with
  | none, none => none
  | some found, none | none, some found => some found
  | some lower, some upper =>
    if 2 * rest < scale.unit then some lower
    else if scale.unit < 2 * rest then some upper
    else if lower % 2 == 0 then some lower else some upper

/-- The exponent of ten of the first digit: the number is at least ten to it and less than ten
times that. An estimate from the binary length is at most one too small. -/
def magnitude (number : Binary) : Int :=
  let length : Int := Nat.log2 number.mantissa + number.exponent
  let estimate := Int.fdiv (length * 30103) 100000
  let atLeast (place : Int) : Bool :=
    let scale := number.scaled place
    scale.unit ≤ scale.value
  if atLeast (estimate + 1) then estimate + 1
  else if atLeast estimate then estimate
  else estimate - 1

/-- Tries grids with `count` and more digits. -/
def search (number : Binary) (magnitude : Int) : Nat → Nat → Option Scientific
  | 0, _ => none
  | tries + 1, count =>
    let place := magnitude - (count : Int) + 1
    match (number.scaled place).nearest? with
    | some point =>
      let written := Decimal.digits point
      let kept := (written.reverse.dropWhile (· == '0')).reverse
      some ⟨kept, place + (written.length : Int) - 1⟩
    | none => search number magnitude tries (count + 1)

/-- The shortest decimal that reads back as a number. -/
def shortest (number : Binary) : Scientific :=
  (search number number.magnitude 17 1).getD ⟨['0'], 0⟩

end Binary

/-- Digits with a point in them, zeros filling the places between: never an exponent. A number
without fraction has no point. -/
def Scientific.positional (number : Scientific) : List Char :=
  let count := number.digits.length
  if number.exponent < 0 then
    '0' :: '.' :: List.replicate ((-number.exponent).toNat - 1) '0' ++ number.digits
  else
    let whole := number.exponent.toNat + 1
    if count ≤ whole then number.digits ++ List.replicate (whole - count) '0'
    else number.digits.take whole ++ '.' :: number.digits.drop whole

/-- One digit before the point and an exponent with its sign. -/
def Scientific.exponential (number : Scientific) : List Char :=
  let fraction := match number.digits.tail with
    | [] => []
    | rest => '.' :: rest
  let sign := if number.exponent < 0 then '-' else '+'
  number.digits.take 1 ++ fraction ++ 'e' :: sign :: Decimal.digits number.exponent.natAbs

/-- The sign and the other bits of a number. -/
def splitSign (value : Float) : Bool × Nat :=
  let bits := value.toBits.toNat
  (bits / Nat.pow 2 63 == 1, bits % Nat.pow 2 63)

/-- A number without exponent, whatever its size. -/
def plainText (value : Float) : String :=
  let (negative, bits) := splitSign value
  let sign := if negative then "-" else ""
  match Binary.ofBits? bits with
  | some number => sign ++ String.ofList number.shortest.positional
  | none =>
    if bits == 0 then sign ++ "0"
    else if value.isNaN then "NaN" else sign ++ "inf"

/-- A number that always shows that it is no integer: with a point below ten to the sixteenth and
down to ten to the minus fifth, else with an exponent. -/
def pointedText (value : Float) : String :=
  let (negative, bits) := splitSign value
  let sign := if negative then "-" else ""
  match Binary.ofBits? bits with
  | some number =>
    let decimal := number.shortest
    if -5 ≤ decimal.exponent && decimal.exponent < 16 then
      let written := decimal.positional
      let marked := if written.contains '.' then written else written ++ ['.', '0']
      sign ++ String.ofList marked
    else sign ++ String.ofList decimal.exponential
  | none =>
    if bits == 0 then sign ++ "0.0"
    else if value.isNaN then "NaN" else sign ++ "inf"

end StreamBridge.Decimal
