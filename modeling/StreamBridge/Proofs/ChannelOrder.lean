import StreamBridge.Channel

/-! A bounded channel is first come, first served, over its buffer and its line together: sending
adds at the end of what is there, taking removes the first. -/

namespace StreamBridge.Proofs.ChannelOrder

variable {α : Type}

/-- What is in a channel: the buffer, then the values of the senders in line. -/
def contents (channel : Channel α) : List α := channel.buffer ++ channel.line.map (·.2)

/-- Whether senders wait only while the buffer is full. -/
def Tight (channel : Channel α) : Prop :=
  channel.line ≠ [] → channel.capacity ≤ channel.buffer.length

theorem fresh_tight (capacity : Nat) : Tight (.fresh capacity : Channel α) :=
  fun waits => absurd rfl waits

theorem send_tight {channel : Channel α} (tight : Tight channel) (sender : Nat) (value : α) :
    Tight (channel.send sender value).2 := by
  unfold Channel.send
  split
  next => exact tight
  next =>
    split
    next =>
      intro waits
      exact Nat.le_trans (tight waits) (by simp)
    next full =>
      intro _
      exact Nat.le_of_not_lt fun room => full (decide_eq_true room)

/-- What is sent to an open channel is last in it. -/
theorem send_contents {channel : Channel α} (tight : Tight channel)
    (accepts : channel.closed = false) (sender : Nat) (value : α) :
    contents (channel.send sender value).2 = contents channel ++ [value] ∧
      (channel.send sender value).2.closed = false := by
  unfold Channel.send
  rw [if_neg (Bool.eq_false_iff.mp accepts)]
  split
  next room =>
    -- A full buffer comes before a line, so nobody is in line who would be overtaken.
    have alone : channel.line = [] := Decidable.byContradiction fun waits =>
      absurd (of_decide_eq_true room) (Nat.not_lt_of_le (tight waits))
    exact ⟨by simp [contents, alone], accepts⟩
  next => exact ⟨by simp [contents], accepts⟩

/-- What is taken was first, and whoever moves up keeps the buffer full. -/
theorem take_contents {channel after : Channel α} {value : α}
    (taken : channel.take = some (value, after)) :
    contents channel = value :: contents after ∧ (Tight channel → Tight after) ∧
      after.closed = channel.closed := by
  unfold Channel.take at taken
  cases buffer : channel.buffer with
  | nil =>
    rw [buffer] at taken
    cases taken
  | cons first rest =>
    rw [buffer] at taken
    cases taken
    cases line : channel.line with
    | nil => simp [contents, Channel.moveUp, Tight, buffer, line]
    | cons sender others =>
      refine ⟨by simp [contents, Channel.moveUp, buffer, line], fun tight _ => ?_,
        by simp [Channel.moveUp]⟩
      have full := tight (by simp [line])
      simpa [Channel.moveUp, buffer, line] using full

end StreamBridge.Proofs.ChannelOrder
