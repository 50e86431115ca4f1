/-! The characters with the Unicode property White_Space. -/

namespace StreamBridge.Text

/-- Whether a character has the property White_Space. -/
def isBlank (letter : Char) : Bool :=
  let code := letter.val
  (0x09 ≤ code && code ≤ 0x0d) || code == 0x20 || code == 0x85 || code == 0xa0 || code == 0x1680
    || (0x2000 ≤ code && code ≤ 0x200a) || code == 0x2028 || code == 0x2029 || code == 0x202f
    || code == 0x205f || code == 0x3000

/-- A text without the blanks at its front. -/
def trimFront (letters : List Char) : List Char := letters.dropWhile isBlank

end StreamBridge.Text
