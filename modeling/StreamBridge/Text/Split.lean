/-! Cutting lists of characters at marks. -/

namespace StreamBridge.Text

/-- Cuts letters at each mark. -/
def splitAt (mark : Char) : List Char → List (List Char)
  | [] => [[]]
  | letter :: rest =>
    if letter = mark then [] :: splitAt mark rest
    else
      match splitAt mark rest with
      | [] => [[letter]]
      | part :: more => (letter :: part) :: more

/-- Cuts a text at each mark. -/
def pieces (mark : Char) (text : String) : List String :=
  (splitAt mark text.toList).map String.ofList

/-- What stands behind the last mark; all, where there is none. -/
def behindLast (mark : Char) (letters : List Char) : List Char :=
  (letters.reverse.takeWhile (· != mark)).reverse

end StreamBridge.Text
