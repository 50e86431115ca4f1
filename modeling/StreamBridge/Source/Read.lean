import StreamBridge.Progress
import StreamBridge.Source.Reader

/-! Reading a record, step by step. A cancellation counts before anything that has arrived, and
nothing is taken by a read that is cancelled. -/

namespace StreamBridge

/-- How far a read has got. -/
inductive ReadStage (ρ : Type) where
  | entering
  /-- In line for the channel. -/
  | queueing
  /-- Holding the channel. -/
  | listening
  /-- With a message, the channel released. -/
  | holding (delivery : Delivery ρ)

namespace Reader

variable {β ρ : Type}

/-- A call leaves the channel's line. -/
def leaveChannel (call : Nat) (reader : Reader ρ) : Reader ρ :=
  { reader with channelLine := reader.channelLine.filter (· != call) }

/-- What a step of a read gives. -/
abbrev ReadProgress (ρ : Type) := Progress (ReadStage ρ) (Except SourceError Record)

/-- Enters: a stopped reader refuses; else the call joins the channel's line. -/
def enterRead (call : Nat) (reader : Reader ρ) : ReadProgress ρ × Reader ρ :=
  if reader.stopped then (.finished (.error .stopped), reader)
  else (.next .queueing,
    { reader with started := true, channelLine := reader.channelLine ++ [call] })

/-- Waits for the head of the channel's line. -/
def queueRead (call : Nat) (cancelled : Bool) (reader : Reader ρ) : ReadProgress ρ × Reader ρ :=
  if cancelled then (.finished (.error .cancelled), reader.leaveChannel call)
  else if reader.channelLine.head? = some call then (.next .listening, reader)
  else (.waiting, reader)

/-- Waits for a message; `fed` says whether a subscription may still deliver. -/
def listen (call : Nat) (cancelled fed : Bool) (reader : Reader ρ) : ReadProgress ρ × Reader ρ :=
  if cancelled then (.finished (.error .cancelled), reader.leaveChannel call)
  else match reader.channel.take with
    | some (delivery, channel) =>
      (.next (.holding delivery), { reader.leaveChannel call with channel := channel })
    | none =>
      if reader.hungUp fed then (.finished (.error .stopped), reader.leaveChannel call)
      else (.waiting, reader)

/-- Hands out the record of a message, noted for its acknowledgement. A message without a readable
record is dropped. -/
def handOut (delivery : Delivery ρ) (reader : Reader ρ) : ReadProgress ρ × Reader ρ :=
  match reader.record delivery with
  | .error error => (.finished (.error error), reader)
  | .ok record => (.finished (.ok record), reader.track record.position delivery)

/-- One step of a read. -/
def stepRead (call : Nat) (cancelled fed : Bool) (stage : ReadStage ρ) (reader : Reader ρ) :
    ReadProgress ρ × Reader ρ :=
  match stage with
  | .entering => reader.enterRead call
  | .queueing => reader.queueRead call cancelled
  | .listening => reader.listen call cancelled fed
  | .holding delivery => reader.handOut delivery

/-- Takes steps of a read until it ends or has to wait; a read that waits is given up. -/
def readFor (cancelled fed : Bool) :
    Nat → ReadStage ρ → Reader ρ → Option (Except SourceError Record) × Reader ρ
  | 0, _, reader => (none, reader.leaveChannel 0)
  | steps + 1, stage, reader =>
    match reader.stepRead 0 cancelled fed stage with
    | (.next stage, reader) => readFor cancelled fed steps stage reader
    | (.waiting, reader) => (none, reader.leaveChannel 0)
    | (.finished result, reader) => (some result, reader)

/-- Reads a record, with no other call under way; none where nothing has arrived. A read has four
stages. -/
def read (cancelled fed : Bool) (reader : Reader ρ) :
    Option (Except SourceError Record) × Reader ρ :=
  readFor cancelled fed 4 .entering reader

end Reader
end StreamBridge
