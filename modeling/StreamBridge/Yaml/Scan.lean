import StreamBridge.Yaml.Tag
import StreamBridge.Yaml.Text

/-! Finding the tokens of a YAML text, one after the other. -/

namespace StreamBridge.Yaml

/-- Whether a line holds nothing but blanks and a comment from here on. -/
def isBlankLine (rest : List Char) : Bool :=
  let rest := rest.dropWhile isBlank
  lineEnds rest || rest.head? == some '#'

/-- Whether a tab here would stand left of the columns of the block around it. -/
def Lexer.isIndenting (lexer : Lexer) : Bool :=
  !lexer.levels.isEmpty && lexer.cursor.fresh && lexer.cursor.column + 1 < lexer.margin

/-- Passes blanks, comments and line breaks up to the next token. A tab left of the margin may not
lead to one. -/
def passToToken : Bool → List Char → Lex Unit
  | _, [] => pure ()
  | inComment, letter :: rest => do
    let lexer ← get
    if letter == '\n' then
      pass
      if !lexer.inFlow then allowKey true
      passToToken false rest
    else if inComment || letter == ' ' then
      pass
      passToToken inComment rest
    else if letter == '#' then
      pass
      passToToken true rest
    else if letter == '\t' then
      if lexer.isIndenting && !isBlankLine rest then failure
      pass
      passToToken false rest

/-- Passes everything up to the next token. -/
def toToken : Lex Unit := do passToToken false (← ahead)

/-- Passes the spaces, breaks and comments behind the mark of a key. -/
def passKeyBlanks : Bool → List Char → Lex Unit
  | _, [] => pure ()
  | inComment, letter :: rest => do
    if letter == '\n' then
      pass
      if !(← get).inFlow then allowKey true
      passKeyBlanks false rest
    else if inComment || letter == ' ' then
      pass
      passKeyBlanks inComment rest
    else if letter == '#' then
      pass
      passKeyBlanks true rest

/-- How deep brackets and braces may nest. -/
def maxFlowDepth : Nat := 255

/-- Passes a mark and what is left of blanks and comments on its line. -/
def passMark : Lex Unit := do
  pass
  discard passTail

/-- Ends the text. -/
def scanEnd : Lex Unit := do
  dropKey
  closeLevels 0

/-- Reads a directive. -/
def scanDirective : Lex Unit := do
  closeLevels 0
  dropKey
  allowKey false
  emit (← readDirective)

/-- Reads a mark that starts a document. -/
def scanDocumentStart : Lex Unit := do
  closeLevels 0
  dropKey
  allowKey false
  passMany 3
  emit .documentStart

/-- Reads a mark that ends a document. Nothing else may stand on its line. -/
def scanDocumentEnd : Lex Unit := do
  closeLevels 0
  dropKey
  allowKey false
  passMany 3
  emit .documentEnd
  discard passTail
  if !lineEnds (← ahead) then failure

/-- Reads an opening bracket or brace, at which a key may start. -/
def scanOpening (token : Token) : Lex Unit := do
  noteKey
  addLoose
  if (← get).outer.length == maxFlowDepth then failure
  modify fun lexer => { lexer with
    start := none
    outer := lexer.start :: lexer.outer
    keyAllowed := true
    braced := lexer.braced || token == .openTable }
  passMark
  emit token

/-- Ends a pair without braces that is open. -/
def endPair : Lex Unit := do
  if (← get).paired then
    modify fun lexer => { lexer with paired := false, braced := false }
    emit .closeTable

/-- Reads a closing bracket or brace. -/
def scanClosing (token : Token) : Lex Unit := do
  dropKey
  modify fun lexer =>
    match lexer.outer with
    | [] => lexer
    | start :: outer => { lexer with start, outer }
  allowKey false
  endPair
  passMark
  if (← get).inFlow then modify fun lexer => { lexer with adjacent := lexer.cursor.index }
  emit token

/-- Reads a comma. -/
def scanComma : Lex Unit := do
  dropKey
  allowKey true
  endPair
  passMark
  emit .comma

/-- Reads the mark of an item. A tab may not separate another mark from it. -/
def scanItem : Lex Unit := do
  let lexer ← get
  if lexer.inFlow || !lexer.keyAllowed then failure
  pass
  openBlock lexer.cursor.column lexer.count .listStart
  let blanks ← passTail
  let rest ← ahead
  if blanks.contains '\t' && indicates '-' rest then failure
  if rest.head? == some '\n' || flowMarkAhead rest then addLoose
  dropKey
  allowKey true
  emit .item

/-- Reads the mark of a key. A space or a break has to follow, and no tab may. -/
def scanKey : Lex Unit := do
  let lexer ← get
  if lexer.inFlow then modify fun lexer => { lexer with braced := true }
  else
    if !lexer.keyAllowed then failure
    openBlock lexer.cursor.column lexer.count .tableStart
  dropKey
  allowKey !lexer.inFlow
  pass
  let rest ← ahead
  if rest.isEmpty || rest.head? == some '\t' then failure
  passKeyBlanks false rest
  if (← ahead).head? == some '\t' then failure
  emit .key

/-- Passes a colon. A tab may not be all that separates a word or a mark from it. -/
def passColon : Lex Unit := do
  pass
  if (← ahead).head? == some '\t' then
    let blanks ← passTail
    if !blanks.contains ' ' && (← ahead).head?.any isWordChar then failure

/-- Reads the colon behind a key that started at a place known by now. A key of a pair without
braces may not span lines. -/
def scanValueOf (start : KeyStart) (line : Nat) : Lex Unit := do
  insertBehind start.count .key
  if (← get).paired then
    if start.line < line then failure
    insertBehind start.count .openTable
  openBlock start.column start.count .tableStart
  addLoose
  modify fun lexer => { lexer with start := none, keyAllowed := false }

/-- Reads the colon in `column` behind a key with a mark, or behind none. -/
def scanValueAlone (column : Nat) : Lex Unit := do
  let lexer ← get
  if lexer.paired then emit .openTable
  if !lexer.inFlow then
    if !lexer.keyAllowed then failure
    openBlock column lexer.count .tableStart
  addLoose
  allowKey !lexer.inFlow

/-- Reads a colon. In a flow collection without braces it makes a pair. -/
def scanValue : Lex Unit := do
  let lexer ← get
  let cursor := lexer.cursor
  set { lexer with paired := lexer.inFlow && !lexer.braced }
  passColon
  match lexer.start with
  | some start => scanValueOf start cursor.line
  | none => scanValueAlone cursor.column
  emit .value

/-- Reads a token at which a key may start, and behind which none may. -/
def scanInline (token : Lex Token) : Lex Unit := do
  noteKey
  allowKey false
  emit (← token)

/-- Reads a text in quotes. The colon of a key may stand right behind it. -/
def quotedToken (single : Bool) : Lex Token := do
  pass
  let text ← quotedText single
  toToken
  modify fun lexer => { lexer with adjacent := lexer.cursor.index }
  return .quoted text

/-- Reads a literal or folded text. -/
def scanBlockText (literal : Bool) : Lex Unit := do
  noteKey
  allowKey true
  pass
  emit (.quoted (← blockText literal))

/-- Whether a colon stands ahead that ends a key. -/
def colonAhead (lexer : Lexer) : List Char → Bool
  | ':' :: rest =>
    separated rest
      || (lexer.inFlow && (flowMarkAhead rest || lexer.cursor.index == lexer.adjacent))
  | _ => false

/-- Reads the token that a character starts. -/
def scanToken : Lex Unit := do
  let lexer ← get
  let rest := lexer.cursor.rest
  match rest with
  | [] => pure ()
  | '[' :: _ => scanOpening .openList
  | '\x7b' :: _ => scanOpening .openTable
  | ']' :: _ => scanClosing .closeList
  | '\x7d' :: _ => scanClosing .closeTable
  | ',' :: _ => scanComma
  | '*' :: _ => scanInline (return .reference (← nodeName))
  | '&' :: _ => scanInline (return .anchor (← nodeName))
  | '!' :: _ => scanInline readTag
  | '\'' :: _ => scanInline (quotedToken true)
  | '"' :: _ => scanInline (quotedToken false)
  | '%' :: _ | '@' :: _ | '\x60' :: _ => failure
  | _ =>
    if indicates '-' rest then scanItem
    else if indicates '?' rest then scanKey
    else if colonAhead lexer rest then scanValue
    else if !lexer.inFlow && rest.head? == some '|' then scanBlockText true
    else if !lexer.inFlow && rest.head? == some '>' then scanBlockText false
    else scanInline (return .plain (← plainText))

/-- Reads the next tokens; tells whether the text goes on. -/
def scanNext : Lex Bool := do
  toToken
  dropStaleKey
  let cursor ← here
  closeLevels (cursor.column + 1)
  if cursor.rest.isEmpty then
    scanEnd
    return false
  if cursor.column == 0 && cursor.rest.head? == some '%' then scanDirective
  else if cursor.atTriple '-' then scanDocumentStart
  else if cursor.atTriple '.' then scanDocumentEnd
  else if cursor.column + 1 < (← get).margin then failure
  else scanToken
  return true

/-- Reads tokens to the end of the text. Each turn but the last passes a character. -/
def scanAll : Nat → Lex Unit
  | 0 => failure
  | fuel + 1 => do
    if ← scanNext then scanAll fuel

/-- The tokens of a text, unless it is malformed. -/
def Token.list? (text : String) : Option (List Token) :=
  let letters := unify text.toList
  let lexer := Lexer.ofLetters letters
  ((scanAll (letters.length + 1)).run lexer).map fun (_, lexer) => lexer.tokens.reverse

end StreamBridge.Yaml
