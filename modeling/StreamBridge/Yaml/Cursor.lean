import StreamBridge.Yaml.Node

/-! Places in a YAML text. Line breaks are line feeds; a NUL character ends a text. -/

namespace StreamBridge.Yaml

/-- A place in a text: what is ahead, and how many lines, characters of the line and characters lie
before it. `fresh` says that only blanks lie before it on its line. -/
structure Cursor where
  rest : List Char
  line : Nat
  column : Nat
  index : Nat
  fresh : Bool

/-- The start of a text. -/
def Cursor.start (rest : List Char) : Cursor := ⟨rest, 0, 0, 0, true⟩

/-- A text with all its line breaks as line feeds, up to the first NUL. -/
def unify : List Char → List Char
  | [] => []
  | '\x00' :: _ => []
  | '\r' :: '\n' :: rest => '\n' :: unify rest
  | '\r' :: rest => '\n' :: unify rest
  | letter :: rest => letter :: unify rest

/-- Whether a character is a space or a tab. -/
def isBlank (letter : Char) : Bool := letter == ' ' || letter == '\t'

/-- Whether a character separates tokens. -/
def isBlankOrBreak (letter : Char) : Bool := isBlank letter || letter == '\n'

/-- Whether the text goes on with a separator or ends. -/
def separated : List Char → Bool
  | [] => true
  | letter :: _ => isBlankOrBreak letter

/-- Whether the line ends here. -/
def lineEnds : List Char → Bool
  | [] => true
  | letter :: _ => letter == '\n'

/-- Whether a character separates the parts of a flow collection. -/
def isFlowMark (letter : Char) : Bool :=
  letter == ',' || letter == '[' || letter == ']' || letter == '\x7b' || letter == '\x7d'

/-- Whether the text goes on with a mark of a flow collection. -/
def flowMarkAhead (rest : List Char) : Bool := rest.head?.any isFlowMark

/-- Whether a character may stand in the handle of a tag, or in the name of a directive. -/
def isWordChar (letter : Char) : Bool := letter.isAlphanum || letter == '-' || letter == '_'

/-- Whether an indicator stands ahead as such. -/
def indicates (mark : Char) : List Char → Bool
  | letter :: rest => letter == mark && separated rest
  | [] => false

/-- The place after the next character. -/
def Cursor.next (cursor : Cursor) : Cursor :=
  match cursor.rest with
  | [] => cursor
  | '\n' :: rest => ⟨rest, cursor.line + 1, 0, cursor.index + 1, true⟩
  | letter :: rest =>
    ⟨rest, cursor.line, cursor.column + 1, cursor.index + 1, cursor.fresh && isBlank letter⟩

/-- Whether a mark of three characters stands at the start of the line. -/
def Cursor.atTriple (mark : Char) (cursor : Cursor) : Bool :=
  cursor.column == 0 && match cursor.rest with
    | first :: second :: third :: rest =>
      first == mark && second == mark && third == mark && separated rest
    | _ => false

/-- Whether a mark between documents stands here. -/
def Cursor.atMarker (cursor : Cursor) : Bool := cursor.atTriple '-' || cursor.atTriple '.'

end StreamBridge.Yaml
