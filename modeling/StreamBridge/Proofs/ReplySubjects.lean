import StreamBridge.Nats.Reply
import StreamBridge.Proofs.DecimalDigits
import StreamBridge.Proofs.Outcomes

/-! What the metadata of a message says is what stands in its reply subject: the sequence as a
number, and the time to the nanosecond. -/

namespace StreamBridge.Proofs.ReplySubjects
open Nats Nats.Reply Decimal Outcomes

/-- The nanoseconds between the start of 1970 and a moment. -/
def nanoseconds (moment : Timestamp) : Int := moment.seconds * 1000000000 + moment.nanos

/-- The tokens of a reply subject that give the sequence and the time. -/
inductive Places : List (List Char) → List Char → List Char → Prop where
  | short (stream consumer delivered sequence count moment pending : List Char) :
      Places [stream, consumer, delivered, sequence, count, moment, pending] sequence moment
  | long (domain account stream consumer delivered sequence count moment pending extra : List Char)
      (more : List (List Char)) :
      Places (domain :: account :: stream :: consumer :: delivered :: sequence :: count :: moment ::
        pending :: extra :: more) sequence moment

/-- What a message's reply subject says about its sequence and its time. -/
def Tells (reply : Option String) (sequence : Nat) (time : Int) : Prop :=
  ∃ subject number moment, reply = some subject ∧ start.isPrefixOf subject.toList = true ∧
    Places (Text.splitAt '.' (subject.toList.drop start.length)) number moment ∧
    readUnsigned maxWord number = .ok sequence ∧ readSigned 128 moment = .ok time

theorem accumulate_le {limit total number : Nat} {beyond : Fault} {letters : List Char}
    (reads : accumulate limit beyond total letters = .ok number) (small : total ≤ limit) :
    number ≤ limit := by
  induction letters generalizing total with
  | nil =>
    cases reads
    exact small
  | cons letter letters ih =>
    rw [accumulate] at reads
    split at reads
    · cases reads
    split at reads
    · cases reads
    next within => exact ih reads (Nat.le_of_not_lt within)

theorem readUnsigned_le {limit number : Nat} {letters : List Char}
    (reads : readUnsigned limit letters = .ok number) : number ≤ limit := by
  unfold readUnsigned at reads
  split at reads
  · cases reads
  · cases reads
  · exact accumulate_le reads (Nat.zero_le limit)
  · exact accumulate_le reads (Nat.zero_le limit)

theorem ofNanoseconds_ok {total : Int} {moment : Timestamp}
    (made : Timestamp.ofNanoseconds? total = some moment) : nanoseconds moment = total := by
  unfold Timestamp.ofNanoseconds? Timestamp.of? at made
  split at made
  · cases made
    simp only [nanoseconds]
    omega
  · cases made

theorem time_ok {token : List Char} {moment : Timestamp} (reads : Reply.time token = .ok moment) :
    readSigned 128 token = .ok (nanoseconds moment) := by
  obtain ⟨total, signed, made⟩ := bind_ok reads
  have read := mapError_ok signed
  dsimp only at made
  split at made
  · cases made
  · split at made
    next found =>
      cases made
      rw [ofNanoseconds_ok found, read]
    next => cases made

theorem numbers_ok {delivered sequence count moment pending : List Char} {metadata : Metadata}
    (reads : Reply.numbers delivered sequence count moment pending = .ok metadata) :
    readUnsigned maxWord sequence = .ok metadata.sequence.toNat ∧
      readSigned 128 moment = .ok (nanoseconds metadata.timestamp) := by
  obtain ⟨_, _, reads⟩ := bind_ok reads
  obtain ⟨number, sequenced, reads⟩ := bind_ok reads
  obtain ⟨_, _, reads⟩ := bind_ok reads
  obtain ⟨timestamp, timed, reads⟩ := bind_ok reads
  obtain ⟨_, _, reads⟩ := bind_ok reads
  cases reads
  have read := mapError_ok sequenced
  have fits := readUnsigned_le read
  refine ⟨?_, time_ok timed⟩
  have same : number.toUInt64.toNat = number := by
    rw [Nat.toUInt64_eq, UInt64.toNat_ofNat']
    exact Nat.mod_eq_of_lt (by rw [maxWord] at fits; omega)
  rw [same, read]

theorem readTokens_ok {tokens : List (List Char)} {metadata : Metadata}
    (reads : Reply.readTokens tokens = .ok metadata) :
    ∃ number moment, Places tokens number moment ∧
      readUnsigned maxWord number = .ok metadata.sequence.toNat ∧
      readSigned 128 moment = .ok (nanoseconds metadata.timestamp) := by
  unfold Reply.readTokens at reads
  split at reads
  · exact ⟨_, _, .short _ _ _ _ _ _ _, numbers_ok reads⟩
  next domain account stream consumer delivered sequence count moment pending more =>
    obtain ⟨read, found, reads⟩ := bind_ok reads
    cases more with
    | nil => cases reads
    | cons extra more =>
      cases reads
      exact ⟨_, _, .long _ _ _ _ _ _ _ _ _ _ _, numbers_ok found⟩
  · cases reads

/-- Metadata that can be read are what the reply subject says. -/
theorem metadata_tells {reply : Option String} {metadata : Metadata}
    (reads : Reply.metadata reply = .ok metadata) :
    Tells reply metadata.sequence.toNat (nanoseconds metadata.timestamp) := by
  unfold Reply.metadata at reads
  split at reads
  · cases reads
  next subject =>
    dsimp only at reads
    split at reads
    next begins =>
      obtain ⟨number, moment, places, read⟩ := readTokens_ok reads
      exact ⟨subject, number, moment, rfl, begins, places, read⟩
    next => cases reads

end StreamBridge.Proofs.ReplySubjects
