/-! Scripts of answers that are given out one by one. -/

namespace StreamBridge.Script

/-- The next answer of a script, and what is left of it. The last answer repeats; an empty script
has none. -/
def next {α : Type} : List α → Option α × List α
  | [] => (none, [])
  | [last] => (some last, [last])
  | first :: rest => (some first, rest)

end StreamBridge.Script
