import StreamBridge.Yaml.Cursor

/-! The tokens of a YAML text, and the state of the lexer that finds them. Where blocks start and
end is told by columns: the lexer keeps the levels around its place. That something was a key shows
only at the colon behind it: the lexer keeps the place where a key may have started, and puts the
tokens that start a key and its block there. -/

namespace StreamBridge.Yaml

/-- A piece of a YAML text. -/
inductive Token where
  /-- A directive that gives the version of the language. -/
  | version
  /-- A directive that says what a handle of tags stands for, or one of another kind. -/
  | handle (name address : String)
  | documentStart
  | documentEnd
  /-- The start of a list whose items have marks. -/
  | listStart
  /-- The start of a table without braces. -/
  | tableStart
  | blockEnd
  /-- The mark of an item. -/
  | item
  | openList
  | closeList
  | openTable
  | closeTable
  | comma
  /-- The start of a key. -/
  | key
  /-- The start of a value. -/
  | value
  /-- A reference to a named node. -/
  | reference (name : String)
  | anchor (name : String)
  | tag (handle suffix : String)
  | plain (text : String)
  /-- A text in quotes, or a literal or folded one. -/
  | quoted (text : String)
deriving DecidableEq

/-- A level of columns. `outer` is the margin around it; a level that is no block has no mark of its
own and ends without a token. -/
structure Level where
  outer : Nat
  isBlock : Bool

/-- A place where a key may have started, behind `count` tokens. A required key is one that starts
in the column of its block: nothing else may stand there. -/
structure KeyStart where
  count : Nat
  line : Nat
  column : Nat
  index : Nat
  required : Bool

/-- The state of a lexer. `tokens` are those found, the latest first. `margin` is one past the
column of the innermost level, zero outside any. `start` is where a key may have started here,
`outer` where one may have around each open bracket or brace. `adjacent` is the index at which a colon needs
no blank behind it. `braced` says that a brace or the mark of a key has been seen in a flow
collection since the last pair without braces; `paired` that such a pair is open. -/
structure Lexer where
  cursor : Cursor
  tokens : List Token
  count : Nat
  margin : Nat
  levels : List Level
  keyAllowed : Bool
  start : Option KeyStart
  outer : List (Option KeyStart)
  adjacent : Nat
  braced : Bool
  paired : Bool

/-- The start of a text. -/
def Lexer.ofLetters (letters : List Char) : Lexer where
  cursor := .start letters
  tokens := []
  count := 0
  margin := 0
  levels := []
  keyAllowed := true
  start := none
  outer := []
  adjacent := 0
  braced := false
  paired := false

/-- Whether a bracket or brace is open. -/
def Lexer.inFlow (lexer : Lexer) : Bool := !lexer.outer.isEmpty

/-- A step of a lexer; it fails on a malformed text. -/
abbrev Lex (α : Type) := StateT Lexer Option α

/-- The lexer's place. -/
def here : Lex Cursor := do return (← get).cursor

/-- What is ahead. -/
def ahead : Lex (List Char) := do return (← get).cursor.rest

/-- Moves the lexer. -/
def goto (cursor : Cursor) : Lex Unit := modify fun lexer => { lexer with cursor }

/-- Passes the next character. -/
def pass : Lex Unit := do goto (← here).next

/-- Passes some characters. -/
def passMany : Nat → Lex Unit
  | 0 => pure ()
  | count + 1 => do
    pass
    passMany count

/-- Passes characters of a kind and gives them. -/
def passWhile (kind : Char → Bool) : Lex (List Char) := do
  let letters := (← ahead).takeWhile kind
  passMany letters.length
  return letters

/-- Passes the rest of the line and gives it. -/
def passLine : Lex (List Char) := passWhile (· != '\n')

/-- Passes blanks and a comment on this line, and gives the blanks. A comment needs a blank before
it. -/
def passTail : Lex (List Char) := do
  let blanks ← passWhile isBlank
  if (← ahead).head? == some '#' then
    if blanks.isEmpty then failure
    discard passLine
  return blanks

/-- Says whether a key may start at the next token. -/
def allowKey (keyAllowed : Bool) : Lex Unit := modify fun lexer => { lexer with keyAllowed }

/-- Adds a token. -/
def emit (token : Token) : Lex Unit :=
  modify fun lexer => { lexer with tokens := token :: lexer.tokens, count := lexer.count + 1 }

/-- Puts a token behind the first `count` tokens. -/
def insertBehind (count : Nat) (token : Token) : Lex Unit :=
  modify fun lexer =>
    let later := lexer.count - count
    { lexer with
      tokens := lexer.tokens.take later ++ token :: lexer.tokens.drop later
      count := lexer.count + 1 }

/-- Notes that a key may start here. -/
def noteKey : Lex Unit :=
  modify fun lexer =>
    if lexer.keyAllowed then
      let cursor := lexer.cursor
      let required := !lexer.inFlow && lexer.margin == cursor.column + 1
        && lexer.levels.head?.any Level.isBlock
      { lexer with
        start := some ⟨lexer.count, cursor.line, cursor.column, cursor.index, required⟩ }
    else lexer

/-- Gives up the place where a key may have started. -/
def dropKey : Lex Unit := do
  if (← get).start.any KeyStart.required then failure
  modify fun lexer => { lexer with start := none }

/-- How far behind the start of a key its colon may stand. -/
def maxKeyLength : Nat := 1024

/-- Gives up a key outside flow collections that has become too long, or that would span lines. -/
def dropStaleKey : Lex Unit := do
  let lexer ← get
  let cursor := lexer.cursor
  let stale := lexer.start.any fun start =>
    start.line < cursor.line || start.index + maxKeyLength < cursor.index
  if !lexer.inFlow && stale then dropKey

/-- Ends the levels of blocks whose columns lie behind `margin`. -/
def closeTo (margin : Nat) : List Level → Lex Unit
  | [] => pure ()
  | level :: levels => do
    let lexer ← get
    if !lexer.inFlow && margin < lexer.margin then
      set { lexer with margin := level.outer, levels := levels }
      if level.isBlock then emit .blockEnd
      closeTo margin levels

/-- Ends all levels of columns behind a margin. -/
def closeLevels (margin : Nat) : Lex Unit := do closeTo margin (← get).levels

/-- Drops levels that are no blocks. -/
def dropLooseLevels : List Level → Lex Unit
  | [] => pure ()
  | level :: levels => do
    if !level.isBlock then
      modify fun lexer => { lexer with margin := level.outer, levels := levels }
      dropLooseLevels levels

/-- Drops the levels here that are no blocks. -/
def dropLoose : Lex Unit := do dropLooseLevels (← get).levels

/-- Asks that what follows lies right of the column of the block around it. -/
def addLoose : Lex Unit :=
  modify fun lexer =>
    if !lexer.inFlow && lexer.levels.head?.any Level.isBlock then
      { lexer with margin := lexer.margin + 1, levels := ⟨lexer.margin, false⟩ :: lexer.levels }
    else lexer

/-- Starts a block in a column, unless it has started already; the token that starts it comes behind
`count` tokens. -/
def openBlock (column count : Nat) (token : Token) : Lex Unit := do
  if !(← get).inFlow then
    if (← get).margin ≤ column + 1 then
      match (← get).levels with
      | ⟨outer, false⟩ :: levels => modify fun lexer => { lexer with margin := outer, levels }
      | _ => pure ()
    let lexer ← get
    if lexer.margin ≤ column then
      set { lexer with margin := column + 1, levels := ⟨lexer.margin, true⟩ :: lexer.levels }
      insertBehind count token

end StreamBridge.Yaml
