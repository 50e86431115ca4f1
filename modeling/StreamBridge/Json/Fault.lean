import StreamBridge.Bytes
import StreamBridge.Text.Quoted
import StreamBridge.Decimal.Shortest

/-! What can be wrong with a JSON text, or with its fit to the value that is read from it. -/

namespace StreamBridge.Json

/-- A value that stands where another kind of value was wanted. -/
inductive Found where
  | null
  | boolean (value : Bool)
  | integer (value : Int)
  | decimal (value : Float)
  | text (value : String)
  | list
  | object
  | unitVariant

/-- How a found value is named. -/
def Found.describe : Found → String
  | .null => "null"
  | .boolean true => "boolean `true`"
  | .boolean false => "boolean `false`"
  | .integer value => "integer `" ++ toString value ++ "`"
  | .decimal value => "floating point `" ++ Decimal.pointedText value ++ "`"
  | .text value => "string " ++ Text.quoted value
  | .list => "sequence"
  | .object => "map"
  | .unitVariant => "unit variant"

/-- Why a text is refused. -/
inductive Reason where
  | endInValue
  | endInString
  | endInObject
  | endInList
  | wantColon
  | wantCommaOrBrace
  | wantCommaOrBracket
  | wantValue
  | wantWord
  | keyNotText
  | trailingComma
  | trailingCharacters
  | badNumber
  | numberTooLarge
  | badEscape
  | controlCharacter
  | badCodePoint
  | loneSurrogate
  | shortEscape
  | tooDeep
  | missing (name : String)
  | repeated (name : String)
  | unknownVariant (name : String) (known : List String)
  | badLength (length : Nat) (expected : String)
  | wrongType (found : Found) (expected : String)
  | badValue (found : Found) (expected : String)
  | badText (message : String)

/-- Names as they are listed: two joined by "or", more after "one of". -/
def listed : List String → String
  | [] => ""
  | [only] => "`" ++ only ++ "`"
  | [first, second] => "`" ++ first ++ "` or `" ++ second ++ "`"
  | names => "one of " ++ String.intercalate ", " (names.map fun name => "`" ++ name ++ "`")

/-- The wording of a reason. -/
def Reason.message : Reason → String
  | .endInValue => "EOF while parsing a value"
  | .endInString => "EOF while parsing a string"
  | .endInObject => "EOF while parsing an object"
  | .endInList => "EOF while parsing a list"
  | .wantColon => "expected `:`"
  | .wantCommaOrBrace => "expected `,` or `\x7d`"
  | .wantCommaOrBracket => "expected `,` or `]`"
  | .wantValue => "expected value"
  | .wantWord => "expected ident"
  | .keyNotText => "key must be a string"
  | .trailingComma => "trailing comma"
  | .trailingCharacters => "trailing characters"
  | .badNumber => "invalid number"
  | .numberTooLarge => "number out of range"
  | .badEscape => "invalid escape"
  | .controlCharacter => "control character (\\u0000-\\u001F) found while parsing a string"
  | .badCodePoint => "invalid unicode code point"
  | .loneSurrogate => "lone leading surrogate in hex escape"
  | .shortEscape => "unexpected end of hex escape"
  | .tooDeep => "recursion limit exceeded"
  | .missing name => "missing field `" ++ name ++ "`"
  | .repeated name => "duplicate field `" ++ name ++ "`"
  | .unknownVariant name known => "unknown variant `" ++ name ++ "`, expected " ++ listed known
  | .badLength length expected => "invalid length " ++ toString length ++ ", expected " ++ expected
  | .wrongType found expected => "invalid type: " ++ found.describe ++ ", expected " ++ expected
  | .badValue found expected => "invalid value: " ++ found.describe ++ ", expected " ++ expected
  | .badText message => message

/-- A reason met while reading, with the bytes that were still ahead. A fault about a whole record
is placed only where the record ends. -/
structure Fault where
  reason : Reason
  rest : Bytes
  placed : Bool

/-- A place in a text: the line counted from one, and the bytes of that line that lie before. -/
structure Place where
  line : Nat
  column : Nat
deriving DecidableEq, Repr

/-- The place after some bytes that follow a place. -/
def Place.after (place : Place) : Bytes → Place
  | [] => place
  | Ascii.lineFeed :: rest => Place.after ⟨place.line + 1, 0⟩ rest
  | _ :: rest => Place.after ⟨place.line, place.column + 1⟩ rest

/-- Why a whole text is refused, and where. -/
structure ReadError where
  reason : Reason
  place : Option Place

/-- The report of a refusal. -/
def ReadError.message (error : ReadError) : String :=
  match error.place with
  | some place => error.reason.message ++ " at line " ++ toString place.line ++ " column "
      ++ toString place.column
  | none => error.reason.message

/-- Places a fault in the text that it was met in. -/
def Fault.locate (input : Bytes) (fault : Fault) : ReadError :=
  let consumed := input.take (input.length - fault.rest.length)
  ⟨fault.reason, if fault.placed then some (Place.after ⟨1, 0⟩ consumed) else none⟩

end StreamBridge.Json
