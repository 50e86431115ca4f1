import StreamBridge.Yaml.Token

/-! Reading tags, the names of nodes, and the directives at the start of a document. -/

namespace StreamBridge.Yaml

/-- Whether a character may stand in the name of a node. -/
def isNameChar (letter : Char) : Bool :=
  !isBlankOrBreak letter && !isFlowMark letter && letter != '\ufeff'

/-- Reads the name behind an anchor or reference mark. -/
def nodeName : Lex String := do
  pass
  let name ← passWhile isNameChar
  if name.isEmpty then failure
  return String.ofList name

/-- Whether a character may stand in the address that a tag stands for. -/
def isAddressChar (letter : Char) : Bool :=
  letter.isAlphanum || "-#;/?:@&=+$,_.!~*'()[]%".toList.contains letter

/-- Whether a character may stand in a tag behind its handle. -/
def isTagChar (letter : Char) : Bool :=
  isAddressChar letter && !isFlowMark letter && letter != '!'

/-- Reads an escaped byte: a percent sign and two hexadecimal digits. -/
def escapedByte : Lex Nat := do
  match ← ahead with
  | '%' :: first :: second :: _ =>
    let high ← liftM (baseDigit? 16 first)
    let low ← liftM (baseDigit? 16 second)
    passMany 3
    return high * 16 + low
  | _ => failure

/-- How many bytes follow a first one. -/
def followers? (byte : Nat) : Option Nat :=
  if byte < 0x80 then some 0
  else if byte / 0x20 = 6 then some 1
  else if byte / 0x10 = 14 then some 2
  else if byte / 0x08 = 30 then some 3
  else none

/-- Reads escaped bytes that follow a first one; the bytes as they are make up the code. -/
def escapedRest (code : Nat) : Nat → Lex Nat
  | 0 => pure code
  | count + 1 => do
    let byte ← escapedByte
    if byte / 0x40 != 2 then failure
    escapedRest (code * 0x100 + byte) count

/-- Reads an escaped character of a tag. -/
def escapedChar : Lex Char := do
  let byte ← escapedByte
  let code ← escapedRest byte (← liftM (followers? byte))
  if code.isValidChar then return Char.ofNat code else failure

/-- Reads characters of a kind, some of which may be escaped; `taken` is reversed. -/
def escapedWhile (kind : Char → Bool) : Nat → List Char → Lex (List Char)
  | 0, taken => return taken.reverse
  | fuel + 1, taken => do
    match ← ahead with
    | '%' :: _ => escapedWhile kind fuel ((← escapedChar) :: taken)
    | letter :: _ =>
      if kind letter then
        pass
        escapedWhile kind fuel (letter :: taken)
      else return taken.reverse
    | [] => return taken.reverse

/-- Reads characters of a kind to the end of their run. -/
def escapedRun (kind : Char → Bool) : Lex (List Char) := do
  escapedWhile kind (← ahead).length []

/-- Reads a handle of tags: a mark and a word, closed by a second mark or not. -/
def tagHandle : Lex (List Char) := do
  pass
  let word ← passWhile isWordChar
  match ← ahead with
  | '!' :: _ =>
    pass
    return '!' :: word ++ ['!']
  | _ => return '!' :: word

/-- Whether a handle is closed by a second mark. -/
def isClosedHandle (handle : List Char) : Bool :=
  1 < handle.length && handle.getLast? == some '!'

/-- Reads a tag: an address in angle brackets, a suffix behind a closed handle, or a suffix
alone. -/
def tagToken : Lex Token := do
  match ← ahead with
  | _ :: '<' :: _ =>
    passMany 2
    let address ← escapedRun isAddressChar
    if (← ahead).head? != some '>' then failure
    pass
    return .tag "" (String.ofList address)
  | _ =>
    let handle ← tagHandle
    if isClosedHandle handle then
      let suffix ← escapedRun isTagChar
      if suffix.isEmpty then failure
      return .tag (String.ofList handle) (String.ofList suffix)
    else
      let suffix := handle.tail ++ (← escapedRun isTagChar)
      if suffix.isEmpty then return .tag "" "!" else return .tag "!" (String.ofList suffix)

/-- Reads a tag. A separator or a flow mark has to follow it. -/
def readTag : Lex Token := do
  let token ← tagToken
  let rest ← ahead
  if separated rest || ((← get).inFlow && flowMarkAhead rest) then return token else failure

/-- Passes a part of the version of the language. -/
def passVersionPart : Lex Unit := do
  let digits ← passWhile Char.isDigit
  if digits.isEmpty || 9 < digits.length then failure

/-- Reads the version of the language. -/
def readVersion : Lex Token := do
  discard (passWhile isBlank)
  passVersionPart
  if (← ahead).head? != some '.' then failure
  pass
  passVersionPart
  return .version

/-- Reads what a handle of tags stands for: something local, or an address. -/
def readHandle : Lex Token := do
  discard (passWhile isBlank)
  if (← ahead).head? != some '!' then failure
  let handle ← tagHandle
  if !isClosedHandle handle && 1 < handle.length then failure
  discard (passWhile isBlank)
  if !(← ahead).head?.any fun letter => letter == '!' || isTagChar letter then failure
  let address ← escapedRun isAddressChar
  if separated (← ahead) then return .handle (String.ofList handle) (String.ofList address)
  else failure

/-- Reads a directive to the end of its line. Unknown ones stand for a handle without a name. -/
def readDirective : Lex Token := do
  pass
  let name ← passWhile isWordChar
  if name.isEmpty || !separated (← ahead) then failure
  let token ←
    if String.ofList name == "YAML" then readVersion
    else if String.ofList name == "TAG" then readHandle
    else do
      discard passLine
      pure (Token.handle "" "")
  discard passTail
  if lineEnds (← ahead) then
    pass
    return token
  else failure

end StreamBridge.Yaml
