/-! Bounded channels. What is sent waits in a buffer until it is taken; a sender that finds the
buffer full waits in line with its value, first come, first served. -/

namespace StreamBridge

/-- A bounded channel. `line` holds the senders that wait for room, each with its value. -/
structure Channel (α : Type) where
  capacity : Nat
  buffer : List α
  line : List (Nat × α)
  closed : Bool

/-- What becomes of a value that is sent. -/
inductive Sent where
  | accepted
  | waiting
  | refused
deriving DecidableEq, Repr

namespace Channel

variable {α : Type}

/-- A new channel. -/
def fresh (capacity : Nat) : Channel α := ⟨capacity, [], [], false⟩

/-- Whether the buffer has room. -/
def hasRoom (channel : Channel α) : Bool := channel.buffer.length < channel.capacity

/-- Sends a value: into the buffer where there is room, else into the line. A closed channel
refuses it. -/
def send (sender : Nat) (value : α) (channel : Channel α) : Sent × Channel α :=
  if channel.closed then (.refused, channel)
  else if channel.hasRoom then
    (.accepted, { channel with buffer := channel.buffer ++ [value] })
  else (.waiting, { channel with line := channel.line ++ [(sender, value)] })

/-- Moves the first of the line into the buffer. -/
def moveUp (channel : Channel α) : Channel α :=
  match channel.line with
  | [] => channel
  | (_, value) :: line => { channel with buffer := channel.buffer ++ [value], line := line }

/-- Takes the first value; the first of the line moves up. -/
def take (channel : Channel α) : Option (α × Channel α) :=
  match channel.buffer with
  | [] => none
  | value :: buffer => some (value, { channel with buffer := buffer }.moveUp)

/-- Closes a channel: the buffer can still be taken, the line is turned away. -/
def close (channel : Channel α) : Channel α := { channel with line := [], closed := true }

/-- A sender leaves the line with its value. -/
def leave (sender : Nat) (channel : Channel α) : Channel α :=
  { channel with line := channel.line.filter (·.1 != sender) }

/-- Whether a sender waits in line. -/
def awaits (sender : Nat) (channel : Channel α) : Bool := channel.line.any (·.1 == sender)

end Channel
end StreamBridge
