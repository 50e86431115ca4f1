import StreamBridge.Url.Domain
import StreamBridge.Url.Ipv6

/-! Reading URLs. What follows the authority is not looked at: nothing can be wrong with it. -/

namespace StreamBridge.Url

/-- Whether a character is dropped around a URL. -/
def isPadding (letter : Char) : Bool := letter.toNat ≤ 0x20

/-- Whether a character is dropped inside a URL. -/
def isBreak (letter : Char) : Bool := letter == '\t' || letter == '\n' || letter == '\r'

/-- What is left of a URL's text once padding and breaks are dropped. -/
def trimmed (text : String) : List Char :=
  let inner := text.toList.dropWhile isPadding
  (inner.reverse.dropWhile isPadding).reverse.filter fun letter => !isBreak letter

/-- Whether a character may stand in a scheme. -/
def isSchemeChar (letter : Char) : Bool :=
  letter.isAlphanum || letter == '+' || letter == '-' || letter == '.'

/-- Reads a scheme with its colon. -/
def readScheme (letters : List Char) : Option (String × List Char) :=
  match letters.dropWhile isSchemeChar with
  | ':' :: rest =>
    if (letters.head?).any Char.isAlpha then
      some (String.ofList ((letters.takeWhile isSchemeChar).map Char.toLower), rest)
    else none
  | _ => none

/-- The schemes whose URLs need a host that is a domain or an address, with their usual ports. -/
def specialSchemes : List (String × Nat) :=
  [("http", 80), ("https", 443), ("ws", 80), ("wss", 443), ("ftp", 21)]

/-- Whether a character ends the authority of a URL. A backslash does so in special ones only. -/
def endsAuthority (special : Bool) (letter : Char) : Bool :=
  letter == '/' || letter == '?' || letter == '#' || special && letter == '\\'

/-- Whether a character is a slash of either kind. -/
def isSlash (letter : Char) : Bool := letter == '/' || letter == '\\'

/-- Reads over a name and a password, which end at the last at sign of the authority, and tells
whether there were any. -/
def readUser (special : Bool) (letters : List Char) : Except Fault (Bool × List Char) :=
  let authority := letters.takeWhile fun letter => !endsAuthority special letter
  if authority.contains '@' then
    let length := authority.length - (Text.behindLast '@' authority).length - 1
    let rest := letters.drop (length + 1)
    if length = 0 ∧ (rest.head?).any (endsAuthority special) then .error .emptyHost
    else .ok (length != 0 && authority.take length != [':'], rest)
  else .ok (false, letters)

/-- Cuts the host off: it ends with the authority, or at a colon outside brackets. -/
def splitHost (special : Bool) : Bool → List Char → List Char × List Char
  | _, [] => ([], [])
  | bracketed, letter :: rest =>
    if endsAuthority special letter || letter == ':' && !bracketed then ([], letter :: rest)
    else
      let bracketed := letter == '[' || bracketed && letter != ']'
      let (host, rest) := splitHost special bracketed rest
      (letter :: host, rest)

/-- Whether a character cannot stand in a host that is no domain. -/
def isForbidden (letter : Char) : Bool :=
  ['\x00', '\t', '\n', '\r', ' ', '#', '/', ':', '<', '>', '?', '@', '[', '\\', ']', '^',
    '|'].contains letter

/-- Reads a host. -/
def readHost (special : Bool) : List Char → Except Fault String
  | [] => if special then .error .emptyHost else .ok ""
  | '[' :: inner =>
    if inner.getLast? = some ']' ∧ Ipv6.isAddress inner.dropLast then
      .ok (String.ofList inner.dropLast)
    else .error .badIpv6
  | letters =>
    if special then Domain.read letters
    else if letters.any isForbidden then .error .badCharacter
    else .ok (String.ofList letters)

/-- The largest port. -/
def maxPort : Nat := 65535

/-- Reads a port after its colon, if there is one. -/
def readPort : List Char → Except Fault (Option Nat)
  | ':' :: rest =>
    let digits := rest.takeWhile Char.isDigit
    let ends := ((rest.dropWhile Char.isDigit).head?).all (endsAuthority true)
    if !ends || maxPort < Decimal.value digits then .error .badPort
    else .ok (if digits.isEmpty then none else some (Decimal.value digits))
  | _ => .ok none

/-- Reads an authority. A host has to be there before a port and after a name. -/
def readAuthority (scheme : String) (letters : List Char) : Except Fault Url := do
  let usual := specialSchemes.lookup scheme
  let (named, rest) ← readUser usual.isSome letters
  let (letters, rest) := splitHost usual.isSome false rest
  let host ← readHost usual.isSome letters
  if host.isEmpty && (named || rest.head? == some ':') then throw .emptyHost
  let port ← readPort rest
  return ⟨scheme, host, port.filter fun port => usual != some port⟩

/-- Whether letters name a drive. -/
def isDrive : List Char → Bool
  | [letter, mark] => letter.isAlpha && (mark == ':' || mark == '|')
  | _ => false

/-- Reads what follows the scheme of a URL for a file. -/
def readFile : List Char → Except Fault Url
  | first :: second :: rest => do
    let letters := rest.takeWhile fun letter => !endsAuthority true letter
    let isHost := isSlash first && isSlash second && !letters.isEmpty && !isDrive letters
    return ⟨"file", ← if isHost then readHost true letters else pure "", none⟩
  | _ => .ok ⟨"file", "", none⟩

/-- Reads a URL. -/
def read (text : String) : Except Fault Url :=
  match readScheme (trimmed text) with
  | none => .error .noScheme
  | some (scheme, rest) =>
    if scheme == "file" then readFile rest
    else if (specialSchemes.lookup scheme).isSome then
      readAuthority scheme (rest.dropWhile isSlash)
    else
      match rest with
      | '/' :: '/' :: rest => readAuthority scheme rest
      | _ => .ok ⟨scheme, "", none⟩

end StreamBridge.Url
