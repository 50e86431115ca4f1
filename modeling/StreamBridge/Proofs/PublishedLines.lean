import StreamBridge.Proofs.LoopEnds
import StreamBridge.Proofs.TextDecoding
import StreamBridge.Proofs.WriterLog

/-! The books of a relay of lines. What it has published are the lines it has taken from its input,
in order; a line that is no text, or that the broker refuses, ends it. -/

namespace StreamBridge.Proofs.PublishedLines
open InputLines LoopEnds TextEncoding TextDecoding WriterLog

abbrev MemoryRelay := LineRelay MemoryBroker

def message (writer : Writer) (line : Bytes) : Published := ⟨writer.subject, line, writer.options⟩

/-- Why a relay's broker or its writer refuses what is written, if it is. -/
def refuses? (relay : MemoryRelay) : Option WriteError :=
  refusal? relay.writer.batchSize relay.broker.isClosed (relay.broker.fails .publish)

inductive Publishes (relay : MemoryRelay) (line : Bytes) : MemoryRelay → Prop where
  | malformed (fault : Utf8.Fault) (noText : ¬ WellFormed line) :
      Publishes relay line (relay.finish (.error (.malformed line fault)))
  | refused (reason : WriteError) (text : WellFormed line)
      (refuses : refuses? relay = some reason) :
      Publishes relay line (relay.finish (.error (.write reason)))
  | published (text : WellFormed line) (agrees : refuses? relay = none) :
      Publishes relay line { relay with broker := { relay.broker with
        published := relay.broker.published ++ [message relay.writer line] } }

theorem publish_cases (relay : MemoryRelay) (line : Bytes) :
    Publishes relay line (relay.publish line) := by
  rw [LineRelay.publish]
  obtain ⟨text, _, reads⟩ | ⟨noText, fault, reads⟩ := decode_cases line
  · rw [reads, write_memory]
    cases reason : refuses? relay with
    | some error =>
      rw [refuses?] at reason
      simp only [reason]
      exact .refused error text reason
    | none =>
      rw [refuses?] at reason
      simp only [reason]
      exact .published text reason
  · rw [reads]
    exact .malformed fault noText

/-- What a turn of a relay that was not cancelled can come to. -/
inductive Turns (relay : MemoryRelay) : Bool × MemoryRelay → Prop where
  | resting (ended : relay.hasEnded = true) : Turns relay (false, relay)
  | waits (works : relay.result = none) (goesOn : relay.input.ended = false) :
      Turns relay (false, relay)
  | finishes (works : relay.result = none) (ended : relay.input.ended = true)
      (spent : relay.input.unread = []) : Turns relay (true, relay.finish (.ok ()))
  | publishes (works : relay.result = none) (line : Bytes) (rest : Input) (after : MemoryRelay)
      (same : rest.ended = relay.input.ended)
      (shorter : rest.unread.length < relay.input.unread.length)
      (first : ∀ more, (relay.input.ended = true → more = []) →
        linesOf (relay.input.unread ++ more) = line :: linesOf (rest.unread ++ more))
      (publishes : Publishes { relay with input := rest } line after) :
      Turns relay (true, after)

theorem turn_cases {relay : MemoryRelay} (goesOn : relay.cancelled = false) :
    Turns relay relay.turn := by
  cases ended : relay.hasEnded with
  | true =>
    rw [lineTurn_ended ended]
    exact .resting ended
  | false =>
    rw [lineTurn_next ended goesOn]
    have works : relay.result = none := by simpa [LineRelay.hasEnded] using ended
    have reads := next_reads relay.input
    generalize relay.input.next = next at reads
    cases reads with
    | waiting goesOn => exact .waits works goesOn
    | atEnd ended spent => exact .finishes works ended spent
    | line content rest same shorter first =>
      exact .publishes works content rest _ same shorter first (publish_cases _ content)

/-- The lines of the bytes that were seen are those that are done and those that are still in the
input, whatever bytes are still to come. -/
def Splits (seen : Bytes) (done : List Bytes) (input : Input) : Prop :=
  ∀ more, (input.ended = true → more = []) →
    linesOf (seen ++ more) = done ++ linesOf (input.unread ++ more)

/-- What the result of a relay says about its input, once these lines are published. -/
inductive Stands (seen : Bytes) (done : List Bytes) (relay : MemoryRelay) :
    Option (Except LineError Unit) → Prop where
  | working (splits : Splits seen done relay.input) : Stands seen done relay none
  | complete (splits : Splits seen done relay.input) (ended : relay.input.ended = true)
      (spent : relay.input.unread = []) : Stands seen done relay (some (.ok ()))
  | malformed (line : Bytes) (fault : Utf8.Fault)
      (splits : Splits seen (done ++ [line]) relay.input) (noText : ¬ WellFormed line) :
      Stands seen done relay (some (.error (.malformed line fault)))
  | refused (line : Bytes) (reason : WriteError) (splits : Splits seen (done ++ [line]) relay.input)
      (text : WellFormed line) (refuses : refuses? relay = some reason) :
      Stands seen done relay (some (.error (.write reason)))

def arrives : Happening MemoryBroker UInt64 → Bytes
  | .input bytes => bytes
  | _ => []

def arrived (schedule : List (Happening MemoryBroker UInt64)) : Bytes := schedule.flatMap arrives

/-- A schedule without cancellation, whose input has an end and whose broker, however it changes,
keeps what was published. -/
structure Plain (schedule : List (Happening MemoryBroker UInt64)) : Prop where
  uncancelled : .cancel ∉ schedule
  ends : schedule.Pairwise fun first later => first = .inputEnds → arrives later = []
  keeps : ∀ change, .change change ∈ schedule → ∀ broker,
    (change broker).published = broker.published

def Takes (broker : MemoryBroker) : Prop :=
  broker.isClosed = false ∧ broker.fails .publish = false

/-- A broker that takes what is published, all the time. -/
structure Steady (origin : MemoryBroker) (schedule : List (Happening MemoryBroker UInt64)) :
    Prop where
  begins : Takes origin
  stays : ∀ change, .change change ∈ schedule → ∀ broker, Takes broker → Takes (change broker)

/-- The books of a relay that began with this writer and this broker, after these happenings.
`steady` is what is assumed to keep the broker taking what is published. -/
structure Books (steady : Prop) (writer : Writer) (origin : MemoryBroker)
    (past : List (Happening MemoryBroker UInt64)) (done : List Bytes) (relay : MemoryRelay) :
    Prop where
  goesOn : relay.cancelled = false
  ended : relay.input.ended = true ↔ .inputEnds ∈ past
  worker : relay.writer = writer
  published : relay.broker.published = origin.published ++ done.map (message writer)
  texts : ∀ line ∈ done, WellFormed line
  single : done ≠ [] → writer.batchSize ≤ 1
  takes : steady → Takes relay.broker
  stands : Stands (arrived past) done relay relay.result

section books
variable {steady : Prop} {writer : Writer} {origin : MemoryBroker}
  {past : List (Happening MemoryBroker UInt64)} {done : List Bytes} {relay : MemoryRelay}

theorem Books.start (steady : Prop) (writer : Writer) (origin : MemoryBroker)
    (takes : steady → Takes origin) :
    Books steady writer origin [] [] (.start writer origin) where
  goesOn := rfl
  ended := iff_of_false nofun nofun
  worker := rfl
  published := (List.append_nil _).symm
  texts := nofun
  single := nofun
  takes := takes
  stands := .working fun _ _ => rfl

theorem Books.splits (books : Books steady writer origin past done relay)
    (works : relay.result = none) : Splits (arrived past) done relay.input := by
  have stands := books.stands
  rw [works] at stands
  cases stands with
  | working splits => exact splits

theorem Splits.line {seen : Bytes} {input rest : Input} {line : Bytes}
    (splits : Splits seen done input) (same : rest.ended = input.ended)
    (first : ∀ more, (input.ended = true → more = []) →
      linesOf (input.unread ++ more) = line :: linesOf (rest.unread ++ more)) :
    Splits seen (done ++ [line]) rest := by
  intro more none
  rw [same] at none
  rw [splits more none, first more none]
  simp

/-- A turn publishes one more line, or ends the relay, or leaves it as it is. -/
theorem Books.turn (books : Books steady writer origin past done relay) :
    ∃ more, Books steady writer origin past more relay.turn.2 := by
  have turned := turn_cases books.goesOn
  generalize relay.turn = result at turned
  cases turned with
  | resting | waits => exact ⟨done, books⟩
  | finishes works ended spent =>
    exact ⟨done, { books with stands := .complete (books.splits works) ended spent }⟩
  | publishes works line rest after same shorter first publishes =>
    have splits := (books.splits works).line same first
    have ended : rest.ended = true ↔ .inputEnds ∈ past := same ▸ books.ended
    cases publishes with
    | malformed fault noText =>
      exact ⟨done, { books with
        ended := ended
        stands := .malformed line fault splits noText }⟩
    | refused reason text refuses =>
      exact ⟨done, { books with
        ended := ended
        stands := .refused line reason splits text refuses }⟩
    | published text agrees =>
      refine ⟨done ++ [line], { books with
        ended := ended
        published := ?_
        texts := ?_
        single := fun _ => ?_
        takes := fun holds => books.takes holds
        stands := ?_ }⟩
      · simp [books.published, books.worker]
      · intro other member
        rcases List.mem_append.mp member with member | member
        · exact books.texts other member
        · exact List.mem_singleton.mp member ▸ text
      · rw [← books.worker]
        exact (refusal_none.mp agrees).1
      · rw [works]
        exact .working splits

theorem Books.turnsFor (books : Books steady writer origin past done relay) (count : Nat) :
    ∃ more, Books steady writer origin past more (relay.turnsFor count) := by
  induction count generalizing relay done with
  | zero => exact ⟨done, books⟩
  | succ count ih =>
    obtain ⟨more, turned⟩ := books.turn
    rw [LineRelay.turnsFor]
    generalize relay.turn = result at turned ⊢
    obtain ⟨moved, after⟩ := result
    cases moved with
    | true => exact ih turned
    | false => exact ⟨more, turned⟩

/-- A happening that neither brings bytes nor ends the input leaves the books as they are. -/
theorem Books.quiet (books : Books steady writer origin past done relay)
    {happening : Happening MemoryBroker UInt64} (nothing : arrives happening = [])
    (other : happening ≠ .inputEnds) :
    Books steady writer origin (past ++ [happening]) done relay := by
  have same : arrived (past ++ [happening]) = arrived past := by simp [arrived, nothing]
  exact { books with
    ended := by simpa [other.symm] using books.ended
    stands := same ▸ books.stands }

/-- Whatever happens around a relay that works keeps its books. -/
theorem Books.after (books : Books steady writer origin past done relay)
    (works : relay.result = none) {happening : Happening MemoryBroker UInt64}
    (plain : Plain (past ++ [happening]))
    (stays : steady → ∀ change, happening = .change change → ∀ broker, Takes broker →
      Takes (change broker)) :
    ∃ more, Books steady writer origin (past ++ [happening]) more (relay.after happening) := by
  have last : happening ∈ past ++ [happening] := by simp
  have splits := books.splits works
  cases happening with
  | input bytes =>
    rw [LineRelay.after]
    refine ⟨done, { books with
      ended := by simpa using books.ended
      stands := ?_ }⟩
    rw [works]
    -- Bytes that come were among those that could come, unless the input has ended: then `plain`
    -- leaves nothing to come.
    refine .working fun more none => ?_
    have grown := splits (bytes ++ more) fun ended => ?_
    · simpa [arrived, arrives] using grown
    · have spent : arrives (.input bytes) = [] := (List.pairwise_append.mp plain.ends).2.2 _
        (books.ended.mp ended) _ (by simp) rfl
      rw [none ended, List.append_nil]
      exact spent
  | inputEnds =>
    rw [LineRelay.after]
    refine ⟨done, { books with
      ended := iff_of_true rfl last
      stands := ?_ }⟩
    rw [works]
    refine .working fun more none => ?_
    have whole := splits [] fun _ => rfl
    simpa [arrived, arrives, none rfl] using whole
  | change change =>
    have published := (plain.keeps change last relay.broker).trans books.published
    rw [LineRelay.after]
    have changed : Books steady writer origin past done
        { relay with broker := change relay.broker } :=
      { books with
        published := published
        takes := fun holds => stays holds change rfl _ (books.takes holds)
        stands := by
          rw [works]
          exact .working splits }
    exact ⟨done, changed.quiet rfl (by simp)⟩
  | cancel => exact absurd last plain.uncancelled
  | turn =>
    obtain ⟨more, turned⟩ := books.turn
    exact ⟨more, turned.quiet rfl (by simp)⟩
  | turns =>
    obtain ⟨more, turned⟩ := books.turnsFor (relay.input.unread.length + 1)
    exact ⟨more, turned.quiet rfl (by simp)⟩
  | deliver => exact ⟨done, books.quiet rfl (by simp)⟩

theorem Plain.left {first second : List (Happening MemoryBroker UInt64)}
    (plain : Plain (first ++ second)) : Plain first where
  uncancelled := fun member => plain.uncancelled (List.mem_append_left _ member)
  ends := (List.pairwise_append.mp plain.ends).1
  keeps := fun change member => plain.keeps change (List.mem_append_left _ member)

/-- A run keeps the books up to where the relay has ended. -/
theorem Books.run (books : Books steady writer origin past done relay)
    {schedule : List (Happening MemoryBroker UInt64)} (plain : Plain (past ++ schedule))
    (stays : steady → ∀ change, .change change ∈ schedule → ∀ broker, Takes broker →
      Takes (change broker)) :
    ∃ seen rest more, Books steady writer origin seen more (relay.run schedule) ∧
      past ++ schedule = seen ++ rest ∧ ((relay.run schedule).result = none → rest = []) := by
  induction schedule generalizing relay past done with
  | nil => exact ⟨past, [], done, books, rfl, fun _ => rfl⟩
  | cons happening rest ih =>
    cases ended : relay.hasEnded with
    | true =>
      -- A relay that has ended sees no more, so the books stay those of what it has seen.
      rw [lineRun_ended ended]
      refine ⟨past, happening :: rest, done, books, rfl, fun works => ?_⟩
      simp [LineRelay.hasEnded, works] at ended
    | false =>
      rw [lineRun_working ended]
      rw [List.append_cons] at plain ⊢
      have works : relay.result = none := by simpa [LineRelay.hasEnded] using ended
      obtain ⟨more, after⟩ := books.after works plain.left
        fun holds change same => stays holds change (same ▸ .head rest)
      exact ih after plain fun holds change member => stays holds change (.tail happening member)

end books

/-- What a relay of lines has come to under a schedule: of the lines of its input, `done` are
published and `rest` are not. -/
structure Account (params : DestinationParams) (origin : MemoryBroker)
    (schedule : List (Happening MemoryBroker UInt64)) (done rest : List Bytes)
    (relay : MemoryRelay) : Prop where
  ordered : linesOf (arrived schedule) = done ++ rest
  published : relay.broker.published = origin.published ++
    done.map fun line => ⟨params.subject, line, params.options⟩
  texts : ∀ line ∈ done, WellFormed line
  /-- A relay that succeeds has seen the end of its input, and published all of it. -/
  succeeded : relay.result = some (.ok ()) → .inputEnds ∈ schedule ∧ rest = []
  /-- A relay that fails does so on the first line that is not published, for one of two reasons. -/
  failed : ∀ error, relay.result = some (.error error) → ∃ line others, rest = line :: others ∧
    ((¬ WellFormed line ∧ ∃ fault, error = .malformed line fault) ∨
      (WellFormed line ∧ ∃ reason, error = .write reason ∧
        ((relay.writer.write (.withPayload line)).make relay.broker).1 = .error reason))
  returns : [.inputEnds, .turns].Sublist schedule → relay.result.isSome = true
  /-- Nothing but the lines and the broker can make a relay fail. -/
  succeeds : [.inputEnds, .turns].Sublist schedule → params.batchSize ≤ 1 →
    (∀ line ∈ linesOf (arrived schedule), WellFormed line) → Steady origin schedule →
    relay.result = some (.ok ())
  batched : 1 < params.batchSize → relay.broker.published = origin.published ∧
    ([.inputEnds, .turns].Sublist schedule →
      (relay.result = some (.ok ()) ↔ linesOf (arrived schedule) = []))

section account
variable {steady : Prop} {writer : Writer} {origin : MemoryBroker}
  {past seen after schedule : List (Happening MemoryBroker UInt64)} {done : List Bytes}
  {relay : MemoryRelay}

/-- The lines of a whole schedule are those of the part that a relay has seen, if that ends the
input, and begin with those that were taken off it in any case. -/
theorem Plain.splits (plain : Plain (seen ++ after)) {input : Input}
    (ended : input.ended = true ↔ .inputEnds ∈ seen)
    (splits : Splits (arrived seen) done input) :
    ∃ others, linesOf (arrived (seen ++ after)) = done ++ others ∧
      (input.ended = true → others = linesOf input.unread) := by
  have none : input.ended = true → arrived after = [] := fun isEnded =>
    List.flatMap_eq_nil_iff.mpr fun happening member =>
      (List.pairwise_append.mp plain.ends).2.2 _ (ended.mp isEnded) happening member rfl
  refine ⟨linesOf (input.unread ++ arrived after), ?_, fun isEnded => ?_⟩
  · rw [arrived, List.flatMap_append]
    exact splits _ none
  · rw [none isEnded, List.append_nil]

/-- What is not published, and what the result says about it. -/
theorem Books.remaining (books : Books steady writer origin seen done relay)
    (plain : Plain (seen ++ after)) :
    ∃ rest, linesOf (arrived (seen ++ after)) = done ++ rest ∧
      (relay.result = some (.ok ()) → .inputEnds ∈ seen ∧ rest = []) ∧
      ∀ error, relay.result = some (.error error) → ∃ line others, rest = line :: others ∧
        ((¬ WellFormed line ∧ ∃ fault, error = .malformed line fault) ∨
          (WellFormed line ∧ ∃ reason, error = .write reason ∧ refuses? relay = some reason)) := by
  have stands := books.stands
  generalize relay.result = result at stands
  cases stands with
  | working splits =>
    obtain ⟨others, ordered, _⟩ := plain.splits books.ended splits
    exact ⟨others, ordered, nofun, nofun⟩
  | complete splits ended spent =>
    obtain ⟨others, ordered, final⟩ := plain.splits books.ended splits
    exact ⟨others, ordered, fun _ => ⟨books.ended.mp ended, by rw [final ended, spent]; rfl⟩, nofun⟩
  | malformed line fault splits noText =>
    obtain ⟨others, ordered, _⟩ := plain.splits books.ended splits
    refine ⟨line :: others, by simpa using ordered, nofun, fun error same => ?_⟩
    cases same
    exact ⟨line, others, rfl, .inl ⟨noText, fault, rfl⟩⟩
  | refused line reason splits text refuses =>
    obtain ⟨others, ordered, _⟩ := plain.splits books.ended splits
    refine ⟨line :: others, by simpa using ordered, nofun, fun error same => ?_⟩
    cases same
    exact ⟨line, others, rfl, .inr ⟨text, reason, rfl, refuses⟩⟩

theorem write_refused_by {reason : WriteError} (refuses : refuses? relay = some reason)
    (record : Record) : ((relay.writer.write record).make relay.broker).1 = .error reason := by
  rw [refuses?] at refuses
  rw [write_memory, refuses]

theorem ok_or_error (ends : relay.hasEnded = true) :
    relay.result = some (.ok ()) ∨ ∃ error, relay.result = some (.error error) := by
  rw [LineRelay.hasEnded] at ends
  cases result : relay.result with
  | none =>
    rw [result] at ends
    cases ends
  | some outcome =>
    cases outcome with
    | ok => exact .inl rfl
    | error error => exact .inr ⟨error, rfl⟩

end account

/-- Whatever bytes come, in whatever parts, and whenever the broker refuses: a relay of lines
publishes a start of the lines of its input, each once and in order, as they stand. It fails on the
first line that is no text or that the broker refuses, with all lines before it published, and
succeeds where there is no such line. A writer for batches publishes nothing, and succeeds only
where there is no line. -/
theorem publishes_each_line (params : DestinationParams) (origin : MemoryBroker)
    (schedule : List (Happening MemoryBroker UInt64)) (plain : Plain schedule) :
    ∃ writer done rest, (Writer.attach params).make origin = (.ok writer, origin) ∧
      Account params origin schedule done rest ((LineRelay.start writer origin).run schedule) := by
  have ends : [.inputEnds, .turns].Sublist schedule →
      ((LineRelay.start ⟨params.subject, params.batchSize, params.options, true⟩ origin).run
        schedule).hasEnded = true := spent_lineRun_ends _
  obtain ⟨seen, after, done, books, same, _⟩ :=
    (Books.start (Steady origin schedule) _ origin Steady.begins).run plain Steady.stays
  rw [List.nil_append] at same
  subst same
  obtain ⟨rest, ordered, succeeded, failed⟩ := books.remaining plain
  refine ⟨_, done, rest, rfl, ?_⟩
  generalize (LineRelay.start _ origin).run (seen ++ after) = relay
    at books succeeded failed ends ⊢
  have nothing (many : 1 < params.batchSize) : done = [] := Decidable.byContradiction fun some =>
    Nat.not_lt_of_le (books.single some) many
  refine {
    ordered := ordered
    published := books.published
    texts := books.texts
    succeeded := fun ok => ⟨List.mem_append_left _ (succeeded ok).1, (succeeded ok).2⟩
    failed := fun error isError => ?_
    returns := ends
    succeeds := fun whole single texts steady => ?_
    batched := fun many => ⟨?_, fun whole => ⟨fun ok => ?_, fun none => ?_⟩⟩ }
  · obtain ⟨line, others, first, broken | ⟨text, reason, isWrite, refuses⟩⟩ := failed error isError
    · exact ⟨line, others, first, .inl broken⟩
    · exact ⟨line, others, first, .inr ⟨text, reason, isWrite, write_refused_by refuses _⟩⟩
  · refine (ok_or_error (ends whole)).resolve_right fun ⟨error, isError⟩ => ?_
    obtain ⟨line, others, rfl, ⟨noText, _⟩ | ⟨_, reason, _, refuses⟩⟩ := failed error isError
    · exact noText (texts line (by simp [ordered]))
    · have agrees : refuses? relay = none := by
        rw [refuses?, refusal_none, books.worker]
        exact ⟨single, books.takes steady⟩
      rw [agrees] at refuses
      cases refuses
  · rw [books.published, nothing many]
    exact List.append_nil _
  · rw [ordered, nothing many, (succeeded ok).2]
    rfl
  · refine (ok_or_error (ends whole)).resolve_right fun ⟨error, isError⟩ => ?_
    obtain ⟨line, others, rfl, _⟩ := failed error isError
    rw [none] at ordered
    simp at ordered

/-- Four lines, the second of them empty, of which the broker refuses the third. -/
def refusal : List (Happening MemoryBroker UInt64) :=
  [.input [0x61, Ascii.carriageReturn], .input [Ascii.lineFeed, Ascii.lineFeed, 0x62], .turn, .turn,
    .change (MemoryBroker.setFailing .publish true), .input [Ascii.lineFeed, 0xff], .inputEnds,
    .turns]

theorem publishes_each_line_refused :
    Plain refusal ∧
    ∃ writer done rest relay, (LineRelay.start writer .fresh).run refusal = relay ∧
      Account ⟨"orders", 1, ⟨0⟩, 0⟩ .fresh refusal done rest relay ∧
      relay.broker.published.map (·.payload) = [[0x61], []] ∧
      relay.result =
        some (.error (.write (.publish (.failed .publish "mock publish failure")))) := by
  have plain : Plain refusal := {
    uncancelled := by simp [refusal]
    ends := by simp [refusal, arrives]
    keeps := fun change member => by
      have only : change = MemoryBroker.setFailing .publish true := by simpa [refusal] using member
      exact fun _ => only ▸ rfl }
  obtain ⟨writer, done, rest, attached, account⟩ :=
    publishes_each_line ⟨"orders", 1, ⟨0⟩, 0⟩ .fresh refusal plain
  cases attached
  exact ⟨plain, _, done, rest, _, rfl, account, rfl, rfl⟩

end StreamBridge.Proofs.PublishedLines
