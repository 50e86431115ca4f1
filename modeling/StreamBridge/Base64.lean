import StreamBridge.Bytes

/-! Base64 with the standard alphabet and padding: three bytes become four characters. -/

namespace StreamBridge.Base64

/-- The character of a value below sixty-four. -/
def digit (value : Nat) : UInt8 :=
  if value < 26 then (0x41 + value).toUInt8
  else if value < 52 then (0x47 + value).toUInt8
  else if value < 62 then (value - 4).toUInt8
  else if value == 62 then 0x2b
  else 0x2f

/-- Fills the last group where it has fewer than three bytes. -/
def padding : UInt8 := 0x3d

/-- Writes bytes in groups of three. -/
def encode : Bytes → Bytes
  | [] => []
  | [a] =>
    let group := a.toNat * 16
    [digit (group / 64), digit (group % 64), padding, padding]
  | [a, b] =>
    let group := (a.toNat * 256 + b.toNat) * 4
    [digit (group / 4096), digit (group / 64 % 64), digit (group % 64), padding]
  | a :: b :: c :: rest =>
    let group := a.toNat * 65536 + b.toNat * 256 + c.toNat
    digit (group / 262144) :: digit (group / 4096 % 64) :: digit (group / 64 % 64)
      :: digit (group % 64) :: encode rest

end StreamBridge.Base64
