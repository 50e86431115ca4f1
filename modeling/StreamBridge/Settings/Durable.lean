import StreamBridge.Bytes

/-! The durable name of a source that does not set one: a random identifier, so that no two sources
share a consumer by accident. -/

namespace StreamBridge.Durable

/-- The hexadecimal digits of the lowest `count` half-bytes of a number. -/
def hexDigits (count value : Nat) : List Char :=
  (List.range count).map fun place =>
    Char.ofNat (Ascii.hexDigit (value / Nat.pow 16 (count - 1 - place) % 16)).toNat

/-- A random identifier of version 4: the version and the variant are fixed, and `random` fills the
other 122 bits. -/
def identifier (random : Nat) : String :=
  let low := random % Nat.pow 2 62
  let middle := random / Nat.pow 2 62 % Nat.pow 2 12
  let high := random / Nat.pow 2 74 % Nat.pow 2 48
  let tail := Nat.pow 2 63 + low
  String.intercalate "-" <| List.map String.ofList
    [hexDigits 8 (high / Nat.pow 2 16), hexDigits 4 high, '4' :: hexDigits 3 middle,
     hexDigits 4 (tail / Nat.pow 2 48), hexDigits 12 tail]

/-- The durable name that a random number stands for. -/
def name (random : Nat) : String := "jetstream-bridge-" ++ identifier random

end StreamBridge.Durable
