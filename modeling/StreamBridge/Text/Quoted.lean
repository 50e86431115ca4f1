import StreamBridge.Text.Hidden

/-! Texts in double quotes, as reports show them: a quote, a backslash and whatever would not show
are escaped. -/

namespace StreamBridge.Text

/-- A character inside quotes. -/
def quotedChar (letter : Char) : List Char :=
  match letter with
  | '"' => ['\\', '"']
  | '\\' => ['\\', '\\']
  | '\n' => ['\\', 'n']
  | '\r' => ['\\', 'r']
  | '\t' => ['\\', 't']
  | '\x00' => ['\\', '0']
  | letter =>
    if isHidden letter.toNat then
      ['\\', 'u', '\x7b'] ++ Nat.toDigits 16 letter.toNat ++ ['\x7d']
    else [letter]

/-- A text in quotes. -/
def quoted (text : String) : String :=
  String.ofList ('"' :: text.toList.flatMap quotedChar ++ ['"'])

end StreamBridge.Text
