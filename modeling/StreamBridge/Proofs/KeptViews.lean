import StreamBridge.Nats.Client
import StreamBridge.Proofs.BrokerRequests

/-! What requests leave as it was. A view of a state that each of several requests keeps is kept by
all of them together, wherever they fail. A client's request keeps a view that does not show what
the server does for it. -/

namespace StreamBridge.Proofs.KeptViews
open BrokerRequests Nats

/-- Whether a request leaves what a view shows as it was, however it ends. -/
def Keeps {σ γ ε α : Type} (view : σ → γ) (request : Request σ ε α) : Prop :=
  ∀ state, view (request.make state).2 = view state

section requests
variable {σ γ ε δ α β : Type} {view : σ → γ}

protected theorem Keeps.made {request : Request σ ε α} {before after : σ} {result : Except ε α}
    (kept : Keeps view request) (makes : request.make before = (result, after)) :
    view after = view before := by
  have same := kept before
  rwa [makes] at same

protected theorem Keeps.bind {request : Request σ ε α} {next : α → Request σ ε β}
    (first : Keeps view request) (second : ∀ value, Keeps view (next value)) :
    Keeps view (request >>= next) := by
  intro state
  have kept := first state
  rw [make_bind]
  generalize request.make state = result at kept
  obtain ⟨error | value, after⟩ := result
  · exact kept
  · exact (second value after).trans kept

protected theorem Keeps.mapError {wrap : ε → δ} {request : Request σ ε α}
    (kept : Keeps view request) : Keeps view (request.mapError wrap) := kept

protected theorem Keeps.throw (error : ε) : Keeps view (throw error : Request σ ε α) :=
  fun _ => rfl

protected theorem Keeps.pure (value : α) : Keeps view (pure value : Request σ ε α) := fun _ => rfl

protected theorem Keeps.liftExcept (result : Except ε α) :
    Keeps view (liftExcept result : Request σ ε α) := by
  cases result <;> exact fun _ => rfl

/-- What is asked after a check is asked only where that does not fail. -/
protected theorem Keeps.check {fails : Prop} [Decidable fails] {error : ε}
    {next : PUnit → Request σ ε α} (kept : ∀ value, Keeps view (next value)) :
    Keeps view (if fails then throw error >>= next else next ⟨⟩) := by
  split
  · exact .bind (.throw error) kept
  · exact kept ⟨⟩

end requests

section client
variable {γ ε α : Type} {view : Client → γ}

theorem make_useServer (use : Server → α × Server) (client : Client) :
    (Client.useServer use : Request Client ε α).make client =
      (.ok (use client.network.server).1, { client with network := { client.network with
        server := (use client.network.server).2 } }) := rfl

/-- Whether a view does not show what the server does. -/
def Hidden (view : Client → γ) (use : Server → α × Server) : Prop :=
  ∀ client : Client, view { client with network := { client.network with
    server := (use client.network.server).2 } } = view client

theorem Hidden.keeps {use : Server → α × Server} (hidden : Hidden view use) :
    Keeps view (Client.useServer use : Request Client ε α) := hidden

theorem keeps_ask {expected : Json.Fit α} {request : Server → Response α × Server}
    (hidden : Hidden view request) : Keeps view (Client.ask expected request) := by
  refine .bind (fun _ => rfl) fun client => ?_
  split
  · exact .bind hidden.keeps fun _ => .liftExcept _
  · exact .throw _

theorem keeps_findStream (stream : String) (hidden : Hidden view (Server.streamInfo stream)) :
    Keeps view (Client.findStream stream) :=
  .check fun _ => .check fun _ => .mapError (keeps_ask hidden)

theorem keeps_askConsumer {request : Server → Response ConsumerDescription × Server}
    (hidden : Hidden view request) : Keeps view (Client.askConsumer request) :=
  .bind (keeps_ask hidden) fun _ => .check fun _ => .pure _

theorem keeps_createConsumer (stream : String) (config : ConsumerConfig)
    (asked : Hidden view (Server.streamInfo stream))
    (created : Hidden view
      (Server.createConsumer stream config.durableName (PushConfig.ofConsumer config))) :
    Keeps view (Client.createConsumer stream config) :=
  .mapError <| .bind (.mapError (keeps_findStream stream asked)) fun _ =>
    .bind (.mapError (keeps_askConsumer created)) fun _ => .check fun _ => .pure _

theorem keeps_deliverSubject (consumer : Consumer)
    (hidden : Hidden view (Server.consumerInfo consumer.stream consumer.name)) :
    Keeps view (Client.deliverSubject consumer) := by
  refine .bind (.mapError (keeps_askConsumer hidden)) fun description => ?_
  split
  · exact .pure _
  · exact .throw _

end client
end StreamBridge.Proofs.KeptViews
