import StreamBridge.Url.Basic
import StreamBridge.Url.Ipv4
import StreamBridge.Url.Punycode
import StreamBridge.Text.Hidden
import StreamBridge.Text.Likeness
import StreamBridge.Text.LowerCase
import StreamBridge.Text.Utf8

/-! International domain names, as they stand for hosts. -/

namespace StreamBridge.Url.Domain

/-- Replaces each percent sign with two hexadecimal digits by the byte they mean. -/
def unescape : Bytes → Bytes
  | 0x25 :: high :: low :: rest =>
    match Ascii.hexValue? high, Ascii.hexValue? low with
    | some first, some second => (first * 16 + second).toUInt8 :: unescape rest
    | _, _ => 0x25 :: unescape (high :: low :: rest)
  | byte :: rest => byte :: unescape rest
  | [] => []

/-- The ranges of characters that are dropped. -/
def droppedRanges : Array (Nat × Nat) :=
  #[(0xad, 0xad), (0x34f, 0x34f), (0x180b, 0x180d), (0x180f, 0x180f), (0x200b, 0x200b),
    (0x2060, 0x2060), (0x2064, 0x2064), (0xfe00, 0xfe0f), (0xfeff, 0xfeff), (0x1bca0, 0x1bca3),
    (0xe0100, 0xe01ef)]

/-- The ranges of characters that lay text out, or stand for several of which a domain may not have
all. -/
def unfitRanges : Array (Nat × Nat) :=
  #[(0xa8, 0xa8), (0xaf, 0xaf), (0xb4, 0xb4), (0xb8, 0xb8), (0x2d8, 0x2dd), (0x37a, 0x37a),
    (0x384, 0x385), (0x600, 0x605), (0x61c, 0x61c), (0x6dd, 0x6dd), (0x70f, 0x70f), (0x890, 0x891),
    (0x8e2, 0x8e2), (0x180e, 0x180e), (0x1fbd, 0x1fbd), (0x1fbf, 0x1fc1), (0x1fcd, 0x1fcf),
    (0x1fdd, 0x1fdf), (0x1fed, 0x1fee), (0x1ffd, 0x1ffe), (0x200c, 0x200f), (0x2017, 0x2017),
    (0x202a, 0x202e), (0x203e, 0x203e), (0x2047, 0x2049), (0x2061, 0x206f), (0x2100, 0x2101),
    (0x2105, 0x2106), (0x2a74, 0x2a74), (0x309b, 0x309c), (0xfc5e, 0xfc63), (0xfdfa, 0xfdfb),
    (0xfe49, 0xfe4c), (0xfe70, 0xfe70), (0xfe72, 0xfe72), (0xfe74, 0xfe74), (0xfe76, 0xfe76),
    (0xfe78, 0xfe78), (0xfe7a, 0xfe7a), (0xfe7c, 0xfe7c), (0xfe7e, 0xfe7e), (0xffe3, 0xffe3),
    (0xfff9, 0xfffd), (0x110bd, 0x110bd), (0x110cd, 0x110cd), (0x13430, 0x13440),
    (0x1d173, 0x1d17a), (0xe0001, 0xe007f)]

/-- The characters that a letter of a domain is written as. -/
def folded (letter : Char) : List Char :=
  if Text.liesIn droppedRanges letter then []
  else [(Text.likeness? letter).getD (Text.lowerChar letter)]

/-- Whether a character extends the one before it. -/
def isMark (letter : Char) : Bool :=
  Text.isHidden letter.toNat && Text.liesIn Text.passedRanges letter

/-- The characters of ASCII, besides controls, that no domain may have. -/
def refused : List Char := " %#/:<>?@[\\]^|".toList

/-- Whether a domain may have a character. -/
def isAllowed (letter : Char) : Bool :=
  if letter.toNat < 0x80 then 0x20 < letter.toNat && letter.toNat < 0x7f && !refused.contains letter
  else !Text.liesIn unfitRanges letter && (!Text.isHidden letter.toNat || isMark letter)

/-- What the labels start with that are written in ASCII for others. -/
def encodedMark : List Char := "xn--".toList

/-- Whether a label that is not encoded is one of a domain. -/
def isPlainLabel (label : List Char) : Bool := label.all isAllowed && !(label.head?).any isMark

/-- Whether a label is one of a domain. An encoded label has to stand for one that needs it. -/
def isLabel (label : List Char) : Bool :=
  if encodedMark.isPrefixOf label then
    match Punycode.decode (label.drop encodedMark.length) with
    | none => false
    | some decoded =>
      isPlainLabel decoded && decoded.all (fun letter => folded letter == [letter])
        && decoded.any fun letter => 0x80 ≤ letter.toNat
  else isPlainLabel label

/-- Reads a host: a domain, or an address of 32 bits. -/
def read (letters : List Char) : Except Fault String :=
  match Utf8.decode (unescape (Utf8.encode (String.ofList letters))) with
  | .error _ => .error .badDomain
  | .ok written =>
    let domain := written.toList.flatMap folded
    if !(Text.splitAt '.' domain).all isLabel then .error .badDomain
    else if domain.isEmpty then .error .emptyHost
    else if Ipv4.endsInNumber domain then
      (Ipv4.read domain).elim (.error .badIpv4) fun address => .ok (Ipv4.text address)
    else .ok (String.ofList domain)

end StreamBridge.Url.Domain
