import StreamBridge.Yaml.Token

/-! The text of scalars: quoted, plain, and literal or folded blocks. Line breaks inside quoted and
plain scalars fold into a space, or into one break less where several follow each other. -/

namespace StreamBridge.Yaml

/-- What breaks in a row fold into. -/
def folded : Nat → List Char
  | 0 => []
  | 1 => [' ']
  | count + 1 => List.replicate count '\n'

/-- Passes the blanks and line breaks between two lines of a scalar and counts the breaks. No tab
may stand left of the margin. -/
def passBreaks (margin : Nat) : Nat → Nat → Lex Nat
  | 0, count => pure count
  | fuel + 1, count => do
    let cursor ← here
    match cursor.rest with
    | '\n' :: _ =>
      pass
      passBreaks margin fuel (count + 1)
    | ' ' :: _ =>
      pass
      passBreaks margin fuel count
    | '\t' :: _ =>
      if cursor.column + 1 < margin then failure
      else
        pass
        passBreaks margin fuel count
    | _ => pure count

/-- The character that an escape of one letter stands for. -/
def escaped? : Char → Option Char
  | '0' => some '\x00'
  | 'a' => some '\x07'
  | 'b' => some '\x08'
  | 't' | '\t' => some '\t'
  | 'n' => some '\n'
  | 'v' => some '\x0b'
  | 'f' => some '\x0c'
  | 'r' => some '\r'
  | 'e' => some '\x1b'
  | ' ' => some ' '
  | '"' => some '"'
  | '/' => some '/'
  | '\\' => some '\\'
  | 'N' => some '\u0085'
  | '_' => some '\u00a0'
  | 'L' => some '\u2028'
  | 'P' => some '\u2029'
  | _ => none

/-- How many hexadecimal digits an escape has. -/
def escapeWidth? : Char → Option Nat
  | 'x' => some 2
  | 'u' => some 4
  | 'U' => some 8
  | _ => none

/-- The character of a code point, if it is one. -/
def codePoint? (code : Nat) : Option Char :=
  if code.isValidChar then some (Char.ofNat code) else none

/-- The character that hexadecimal digits name. -/
def hexChar? (digits : List Char) : Option Char := do
  let code ← digits.foldlM (fun total letter => do
    let digit ← baseDigit? 16 letter
    pure (total * 16 + digit)) 0
  codePoint? code

/-- Reads an escape after its backslash. -/
def escape : Lex Char := do
  match (← here).rest with
  | [] => failure
  | letter :: rest =>
    pass
    match escaped? letter, escapeWidth? letter with
    | some char, _ => pure char
    | none, some width =>
      let digits := rest.take width
      if digits.length < width then failure
      else
        passMany width
        hexChar? digits
    | none, none => failure

/-- Reads a quoted scalar up to its closing quote; `taken` is reversed. -/
def quotedFrom (single : Bool) (margin : Nat) : Nat → List Char → Lex (List Char)
  | 0, _ => failure
  | fuel + 1, taken => do
    let cursor ← here
    if cursor.atMarker || cursor.column + 1 < margin then failure
    match cursor.rest with
    | [] => failure
    | '\'' :: rest =>
      if single then
        pass
        match rest with
        | '\'' :: _ =>
          pass
          quotedFrom single margin fuel ('\'' :: taken)
        | _ => pure taken.reverse
      else
        pass
        quotedFrom single margin fuel ('\'' :: taken)
    | '"' :: _ =>
      pass
      if single then quotedFrom single margin fuel ('"' :: taken) else pure taken.reverse
    | '\\' :: rest =>
      pass
      if single then quotedFrom single margin fuel ('\\' :: taken)
      else match rest with
        | '\n' :: '"' :: _ =>
          passMany 2
          return taken.reverse
        | '\n' :: _ =>
          pass
          let count ← passBreaks margin rest.length 0
          quotedFrom single margin fuel (List.replicate count '\n' ++ taken)
        | _ => quotedFrom single margin fuel ((← escape) :: taken)
    | letter :: rest =>
      if isBlankOrBreak letter then
        let blanks ← passWhile isBlank
        match ← ahead with
        | '\n' :: _ =>
          let count ← passBreaks margin rest.length.succ 0
          quotedFrom single margin fuel ((folded count).reverse ++ taken)
        | _ => quotedFrom single margin fuel (blanks.reverse ++ taken)
      else
        pass
        quotedFrom single margin fuel (letter :: taken)

/-- Whether what follows a quoted scalar may do so. Outside flow collections that is nothing, or the
colon of a key on the same line. -/
def mayFollowQuote (inFlow sameLine : Bool) : List Char → Bool
  | ':' :: _ => inFlow || sameLine
  | letter :: _ =>
    letter == '\n' || (inFlow && (letter == ',' || letter == ']' || letter == '\x7d'))
  | [] => true

/-- Reads a quoted scalar after its opening quote. -/
def quotedText (single : Bool) : Lex String := do
  let start ← here
  let letters ← quotedFrom single (← get).margin (start.rest.length + 1) []
  discard passTail
  let after ← here
  if mayFollowQuote (← get).inFlow (start.line == after.line) after.rest then
    return String.ofList letters
  else failure

/-- Whether a plain scalar goes on with the characters ahead. -/
def plainGoesOn (inFlow : Bool) : List Char → Bool
  | [] => false
  | ':' :: rest =>
    match rest with
    | [] => false
    | letter :: _ => !(isBlankOrBreak letter || (inFlow && isFlowMark letter))
  | letter :: _ => !isBlankOrBreak letter && !(inFlow && isFlowMark letter)

/-- Passes the blanks and breaks inside a plain scalar; a tab left of the margin may not lead to
content. -/
def passPlainGap (margin : Nat) : Nat → Nat → Lex Nat
  | 0, count => pure count
  | fuel + 1, count => do
    let cursor ← here
    match cursor.rest with
    | '\n' :: _ =>
      pass
      passPlainGap margin fuel (count + 1)
    | ' ' :: _ =>
      pass
      passPlainGap margin fuel count
    | '\t' :: _ =>
      if 0 < count && cursor.column < margin then
        discard passTail
        if lineEnds (← ahead) then passPlainGap margin fuel count else failure
      else
        pass
        passPlainGap margin fuel count
    | _ => pure count

/-- Reads a plain scalar; `gap` is what lies between the text so far, reversed, and the place. The
text ends where a line starts left of the margin, at a comment, and at a mark between documents. -/
def plainFrom (inFlow : Bool) (margin : Nat) : Nat → List Char → List Char → Lex (List Char)
  | 0, taken, _ => pure taken.reverse
  | fuel + 1, taken, gap => do
    let cursor ← here
    if cursor.atMarker then return taken.reverse
    match cursor.rest with
    | [] => pure taken.reverse
    | letter :: rest =>
      if letter == '#' && !gap.isEmpty then return taken.reverse
      if isBlankOrBreak letter then
        let blanks ← passWhile isBlank
        match ← ahead with
        | '\n' :: _ =>
          let count ← passPlainGap margin rest.length.succ 0
          let next ← here
          if !inFlow && next.column < margin then return taken.reverse
          plainFrom inFlow margin fuel taken (folded count).reverse
        | _ => plainFrom inFlow margin fuel taken blanks.reverse
      else if plainGoesOn inFlow cursor.rest then
        if inFlow && letter == '-' && (taken.isEmpty || !gap.isEmpty) && flowMarkAhead rest then
          failure
        pass
        plainFrom inFlow margin fuel (letter :: gap ++ taken) []
      else pure taken.reverse

/-- Reads a plain scalar. A key may start behind it if it ends with a line. -/
def plainText : Lex String := do
  dropLoose
  let lexer ← get
  let start := lexer.cursor
  if lexer.inFlow && start.column < lexer.margin then failure
  let letters ← plainFrom lexer.inFlow lexer.margin (start.rest.length + 1) [] []
  if (← here).fresh then allowKey true
  return String.ofList letters

/-- What happens to the breaks at the end of a block. -/
inductive Chomp where
  | strip
  | clip
  | keep
deriving DecidableEq

/-- The handling of breaks that a letter asks for. -/
def chomp? : Char → Option Chomp
  | '-' => some .strip
  | '+' => some .keep
  | _ => none

/-- An indentation of one to nine. -/
def increment? (letter : Char) : Option Nat :=
  if letter.isDigit then some (letter.toNat - 0x30) else none

/-- Reads the header of a block after its mark: how breaks are handled, and the indentation of its
lines over the block around it, if given. -/
def blockHeader : Lex (Chomp × Option Nat) := do
  let rest := (← here).rest
  let result ← match rest with
    | first :: more =>
      match chomp? first, increment? first with
      | some chomp, _ =>
        pass
        match more.head?.bind increment? with
        | some count =>
          pass
          pure (chomp, some count)
        | none => pure (chomp, none)
      | none, some count =>
        pass
        match more.head?.bind chomp? with
        | some chomp =>
          pass
          pure (chomp, some count)
        | none => pure (.clip, some count)
      | none, none => pure (.clip, none)
    | [] => pure (.clip, none)
  if result.2 == some 0 then failure
  discard passTail
  if lineEnds (← ahead) then return result else failure

/-- Passes the indentation of a line, up to `indent` columns. -/
def passIndent (indent : Nat) : Nat → Lex Unit
  | 0 => pure ()
  | fuel + 1 => do
    let cursor ← here
    match cursor.rest with
    | ' ' :: _ =>
      if cursor.column < indent then
        pass
        passIndent indent fuel
      else pure ()
    | _ => pure ()

/-- Passes empty lines and the indentation of the next; counts the breaks. -/
def passEmptyLines (indent : Nat) : Nat → Nat → Lex Nat
  | 0, count => pure count
  | fuel + 1, count => do
    passIndent indent ((← here).rest.length + 1)
    match (← here).rest with
    | '\n' :: _ =>
      pass
      passEmptyLines indent fuel (count + 1)
    | _ => pure count

/-- Passes empty lines and all spaces before the first content; counts the breaks and gives the
furthest column reached. -/
def passToFirstLine : Nat → Nat → Nat → Lex (Nat × Nat)
  | 0, count, column => pure (count, column)
  | fuel + 1, count, column => do
    let length := (← here).rest.length + 1
    passIndent length length
    let cursor ← here
    let column := max column cursor.column
    match cursor.rest with
    | '\n' :: _ =>
      pass
      passToFirstLine fuel (count + 1) column
    | _ => pure (count, column)

/-- The lines of a block: the text so far, reversed, the break after its last line, the breaks of
the empty lines behind, and whether the last line started with a blank. -/
structure BlockText where
  taken : List Char
  ended : Bool
  empty : Nat
  indented : Bool

/-- Adds what lies between two lines of a block: a break, or in a folded block a space where neither
line starts with a blank. -/
def BlockText.join (block : BlockText) (literal indented : Bool) : List Char :=
  if !literal && block.ended && !block.indented && !indented then
    if block.empty == 0 then ' ' :: block.taken
    else List.replicate block.empty '\n' ++ block.taken
  else List.replicate (block.empty + if block.ended then 1 else 0) '\n' ++ block.taken

/-- Reads the lines of a block. -/
def blockLines (literal : Bool) (indent : Nat) : Nat → BlockText → Lex BlockText
  | 0, block => pure block
  | fuel + 1, block => do
    let cursor ← here
    match cursor.rest with
    | [] => pure block
    | letter :: _ =>
      if cursor.column != indent || (indent == 0 && cursor.atTriple '.') then return block
      let indented := isBlank letter
      let joined := block.join literal indented
      let line ← passLine
      let taken := line.reverse ++ joined
      match (← here).rest with
      | [] => return ⟨taken, false, 0, indented⟩
      | _ :: _ =>
        pass
        let empty ← passEmptyLines indent ((← here).rest.length + 1) 0
        blockLines literal indent fuel ⟨taken, true, empty, indented⟩

/-- Reads a literal or folded block after its mark. -/
def blockText (literal : Bool) : Lex String := do
  dropLoose
  let margin := (← get).margin
  let startLine := (← here).line
  let (chomp, increment) ← blockHeader
  let cursor ← here
  let broken := !cursor.rest.isEmpty
  if broken then pass
  let length := (← here).rest.length + 1
  if (← here).rest.head? == some '\t' then failure
  let (empty, indent) ← match increment with
    | some count => do
      let indent := if 0 < margin then margin - 1 + count else count
      pure (← passEmptyLines indent length 0, indent)
    | none => do
      let (empty, column) ← passToFirstLine length 0 0
      pure (empty, max column margin)
  let cursor ← here
  if cursor.rest.isEmpty then
    let breaks := match chomp with
      | .strip => 0
      | .clip => if cursor.line == startLine then 0 else 1
      | .keep => if cursor.line == startLine then 0 else max empty 1
    return String.ofList (List.replicate breaks '\n')
  if cursor.column < indent && margin ≤ cursor.column then failure
  let block ← blockLines literal indent length ⟨[], false, empty, false⟩
  let cursor ← here
  let open_ := cursor.rest.isEmpty && max indent 1 ≤ cursor.column
  let ending := match chomp with
    | .strip => 0
    | .clip => (if block.ended then 1 else 0) + (if open_ then 1 else 0)
    | .keep => (if block.ended then 1 else 0) + (if open_ then 1 else 0) + block.empty
  return String.ofList (List.replicate ending '\n' ++ block.taken).reverse

end StreamBridge.Yaml
