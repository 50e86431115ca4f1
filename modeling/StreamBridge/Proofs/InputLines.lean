import StreamBridge.Relay.Input
import Mathlib.Data.List.TakeDrop
import Mathlib.Data.List.TakeWhile

/-! The lines of a byte string, apart from how they are read. An input hands out the lines of what
it holds one by one; one that has not ended keeps what may still grow. -/

namespace StreamBridge.Proofs.InputLines
open Input

/-- A piece without the last carriage return, if it ends with one. -/
def unreturned (piece : Bytes) : Bytes :=
  if [Ascii.carriageReturn] <:+ piece then piece.dropLast else piece

/-- The lines of a byte string: its pieces between line feeds. Each piece but the last ended with a
line feed and loses the carriage return before it; the last is as it stands, and is a line only if
it has a byte. -/
def linesOf (bytes : Bytes) : List Bytes :=
  let pieces := bytes.splitOn Ascii.lineFeed
  pieces.dropLast.map unreturned ++ pieces.getLast?.toList.filter (!·.isEmpty)

/-- A return on a line of its own, one of two returns, one in a line, and one that no line feed
follows. -/
example : linesOf "\n\r\na\r\r\nb\rc\n\nd\r".toUTF8.toList =
    ["", "", "a\r", "b\rc", "", "d\r"].map (·.toUTF8.toList) := by
  cbv

variable {line : Bytes}

theorem dropReturn_eq (line : Bytes) : dropReturn line = unreturned line := by
  have same : line.getLast? = some Ascii.carriageReturn ↔ [Ascii.carriageReturn] <:+ line := by
    simp only [List.getLast?_eq_some_iff, List.IsSuffix, eq_comm]
  simp only [dropReturn, unreturned, same]

theorem linesOf_unbroken (unbroken : Ascii.lineFeed ∉ line) :
    linesOf line = if line.isEmpty then [] else [line] := by
  rw [linesOf, List.splitOn_eq_singleton unbroken]
  cases line <;> rfl

theorem linesOf_broken (unbroken : Ascii.lineFeed ∉ line) (rest : Bytes) :
    linesOf (line ++ Ascii.lineFeed :: rest) = unreturned line :: linesOf rest := by
  rw [linesOf, linesOf, List.splitOn_append_cons_self, List.splitOn_eq_singleton unbroken]
  cases pieces : rest.splitOn Ascii.lineFeed with
  | nil => exact absurd pieces (List.splitOn_ne_nil _ _)
  | cons => rfl

/-- What a reading of the next line has come to: there is none, or it is the first line, whatever
bytes are still to come. -/
inductive Reads (input : Input) : NextLine → Prop where
  | waiting (goesOn : input.ended = false) : Reads input .waiting
  | atEnd (ended : input.ended = true) (spent : input.unread = []) : Reads input .atEnd
  | line (content : Bytes) (rest : Input) (same : rest.ended = input.ended)
      (shorter : rest.unread.length < input.unread.length)
      (first : ∀ more, (input.ended = true → more = []) →
        linesOf (input.unread ++ more) = content :: linesOf (rest.unread ++ more)) :
      Reads input (.line content rest)

theorem next_reads (input : Input) : Reads input input.next := by
  have whole := List.takeWhile_append_dropWhile (p := (· != Ascii.lineFeed)) (l := input.unread)
  have unbroken : Ascii.lineFeed ∉ input.unread.takeWhile (· != Ascii.lineFeed) := by
    intro member
    simpa using List.mem_takeWhile_imp member
  rw [next, List.span_eq_takeWhile_dropWhile]
  generalize input.unread.takeWhile (· != Ascii.lineFeed) = line at whole unbroken
  cases tail : input.unread.dropWhile (· != Ascii.lineFeed) with
  | cons feed rest =>
    have fed : feed = Ascii.lineFeed := by
      simpa [tail] using List.head_dropWhile_not (· != Ascii.lineFeed) (l := input.unread)
    rw [tail, fed] at whole
    refine .line _ _ rfl ?_ fun more _ => ?_
    · simp only [← whole, List.length_append, List.length_cons]
      omega
    · rw [← whole, List.append_assoc, List.cons_append, linesOf_broken unbroken, dropReturn_eq]
  | nil =>
    rw [tail, List.append_nil] at whole
    subst whole
    cases ended : input.ended with
    | false => exact .waiting ended
    | true =>
      cases spent : input.unread with
      | nil => exact .atEnd ended spent
      | cons byte rest =>
        rw [spent] at unbroken
        refine .line _ _ ended.symm (by simp [spent]) fun more none => ?_
        rw [none ended, List.append_nil, spent, linesOf_unbroken unbroken]
        rfl

end StreamBridge.Proofs.InputLines
