import Synclog.Client.SyncClient
import Synclog.Gateway.Engine
import Synclog.Lib.Machine
import Synclog.Memory.Recorded

/-!
# A client and its server

One client with one binding, the gateway over the memory store, and a network between them, as a
machine.

* A request that was sent stays on the network: the server may accept it at any time, any number of
  times, or never. What it accepts becomes a task, a half-executed program of the gateway, and tasks
  and operations of other parties interleave call by call.
* What a task answers stays on the network as well: the client, where it waits for an answer to that
  request, may get it at any later time, or its promise rejects. The task that serves a live stream
  is a poll of its target; accepting the request again is the next poll, and each response is a
  frame that may arrive, late or never.
* The client may crash at any time. Its records are kept; the next flow starts with fresh requests.

`ProjectionStore` states what is expected of the store that keeps the records.
-/

namespace Synclog.Client

open Synclog.Lib Synclog.Core Synclog.Memory Synclog.Gateway

/-! ## The projection store -/

/-- One record of a durable projection store: a value with the seq up to which it was applied. The
two are set together, and a snapshot does not take the applied seq back. What is expected of
`applyEvents` is expected for events that continue the applied seq without a gap.
Source: `store.ts`, `ProjectionStore`, with the store contract of `README.md`. -/
structure ProjectionStore (R V TSnapshot TEvent : Type) where
  empty : R
  appliedSeq : R → Nat
  value : R → V
  /-- What an event does to a value. -/
  step : V → TEvent → V
  /-- The value that a snapshot holds. -/
  load : TSnapshot → V
  applyEvents : List (DecodedGatewayEvent TEvent) → R → R
  applySnapshot : DecodedGatewaySnapshot TSnapshot → R → R
  appliedSeq_empty : appliedSeq empty = 0
  appliedSeq_applyEvents : ∀ events r (hne : events ≠ []),
    Consecutive DecodedGatewayEvent.seq (appliedSeq r + 1) events →
      appliedSeq (applyEvents events r) = (events.getLast hne).seq
  value_applyEvents : ∀ events r, events ≠ [] →
    Consecutive DecodedGatewayEvent.seq (appliedSeq r + 1) events →
      value (applyEvents events r) = (events.map (·.value)).foldl step (value r)
  applySnapshot_cases : ∀ snapshot r,
    appliedSeq r ≤ snapshot.seq ∧ appliedSeq (applySnapshot snapshot r) = snapshot.seq ∧
        value (applySnapshot snapshot r) = load snapshot.value ∨
      snapshot.seq ≤ appliedSeq r ∧ appliedSeq (applySnapshot snapshot r) = appliedSeq r ∧
        value (applySnapshot snapshot r) = value r

/-! ## Requests and replies -/

/-- A request of the client to the gateway. -/
inductive Request
  | catchUp (req : GatewayCatchUpRequest)
  | ack (req : GatewayAckRequest)
  | getLatestSnapshot (req : GatewayGetLatestSnapshotRequest)
  | subscribe (req : GatewaySubscribeRequest)
  deriving DecidableEq, Repr

/-- An answer of the gateway to the client. -/
inductive Reply
  | results (results : List GatewayCatchUpResult)
  | acked
  | snapshot (snapshot : GatewaySnapshot)
  | frame (resp : GatewaySubscribeResponse)
  deriving DecidableEq, Repr

/-- A half-executed program of the gateway, and the replies that it ends with. -/
abbrev ServerTask := Prog StoreCall (Except GoError (List Reply))

/-- What the gateway runs for a request; for a live stream, one poll of it.
Source: `transport/grpc/server.go`, the methods of `Server`. -/
def serve {Actor : Type} (hooks : Hooks Actor) (actor : Actor) : Request → ServerProg (List Reply)
  | .catchUp req => do
    let results ← gatewayCatchUp hooks actor req
    return [.results results]
  | .ack req => do
    let _ ← gatewayAck hooks actor req
    return [.acked]
  | .getLatestSnapshot req => do
    let resp ← gatewayGetLatestSnapshot hooks actor req
    return [.snapshot resp.snapshot]
  | .subscribe req => do
    let responses ← gatewaySubscribePoll hooks actor req
    return .frame { heartbeat := true } :: responses.map .frame

/-! ## The client's side -/

section Client

variable {TSnapshot TEvent R V : Type}

/-- A running method of the client. -/
abbrev Running (TSnapshot TEvent : Type) :=
  Prog (ClientCall TSnapshot TEvent) (Except JsError Unit)

/-- Where the client stands: no flow, before its next call, or waiting for an answer to the request
of that number. -/
inductive ClientPc (TSnapshot TEvent : Type)
  | idle
  | running (p : Running TSnapshot TEvent)
  | waiting (id : Nat) (p : Running TSnapshot TEvent)

/-- The state of the whole; the number of a request is its place in `sent`. -/
structure System (TSnapshot TEvent R : Type) where
  server : Recorded
  records : TargetBindingKey → R
  sent : List Request := []
  tasks : List (Nat × ServerTask) := []
  replies : List (Nat × Reply) := []
  /-- The number of the request that has opened the stream. -/
  stream : Option Nat := none
  pc : ClientPc TSnapshot TEvent := .idle

/-- A call to the projection store: what it does to the records. -/
def recordsAfter (store : ProjectionStore R V TSnapshot TEvent) {β : Type} :
    ClientCall TSnapshot TEvent β → (TargetBindingKey → R) → TargetBindingKey → R
  | .applyEvents key events, records =>
    Function.update records key (store.applyEvents events (records key))
  | .applySnapshot key snapshot, records =>
    Function.update records key (store.applySnapshot snapshot (records key))
  | _, records => records

/-- Events reach the record of their key. -/
@[simp] theorem recordsAfter_applyEvents (store : ProjectionStore R V TSnapshot TEvent)
    (key : TargetBindingKey) (events : List (DecodedGatewayEvent TEvent))
    (records : TargetBindingKey → R) :
    recordsAfter store (.applyEvents key events) records key =
      store.applyEvents events (records key) := Function.update_self ..

/-- A snapshot reaches the record of its key. -/
@[simp] theorem recordsAfter_applySnapshot (store : ProjectionStore R V TSnapshot TEvent)
    (key : TargetBindingKey) (snapshot : DecodedGatewaySnapshot TSnapshot)
    (records : TargetBindingKey → R) :
    recordsAfter store (.applySnapshot key snapshot) records key =
      store.applySnapshot snapshot (records key) := Function.update_self ..

namespace System

/-- Send a request, and go on from `pc`. -/
def send (σ : System TSnapshot TEvent R) (req : Request) (pc : ClientPc TSnapshot TEvent) :
    System TSnapshot TEvent R :=
  { σ with sent := σ.sent ++ [req], pc }

/-- The client makes its next call: the projection store answers at once, the gateway later. -/
def perform (σ : System TSnapshot TEvent R) (store : ProjectionStore R V TSnapshot TEvent)
    (aborted : Bool) : Running TSnapshot TEvent → Option (System TSnapshot TEvent R)
  | .ret _ => some { σ with pc := .idle }
  | .call (.catchUp req) k =>
    some (σ.send (.catchUp req) (.waiting σ.sent.length (.call (.catchUp req) k)))
  | .call (.ack req) k =>
    some (σ.send (.ack req) (.waiting σ.sent.length (.call (.ack req) k)))
  | .call (.getLatestSnapshot req) k =>
    some (σ.send (.getLatestSnapshot req)
      (.waiting σ.sent.length (.call (.getLatestSnapshot req) k)))
  | .call (.subscribe req) k =>
    some { σ.send (.subscribe req) (.running (k ())) with stream := some σ.sent.length }
  | .call .next k => σ.stream.map fun id => { σ with pc := .waiting id (.call .next k) }
  | .call .aborted k => some { σ with pc := .running (k aborted) }
  | .call (.getAppliedSeq key) k =>
    some { σ with pc := .running (k (.ok (store.appliedSeq (σ.records key)))) }
  | .call (.applySnapshot key snapshot) k =>
    some { σ with
      records := recordsAfter store (.applySnapshot key snapshot : ClientCall TSnapshot TEvent _)
        σ.records
      pc := .running (k (.ok ())) }
  | .call (.applyEvents key events) k =>
    some { σ with
      records := recordsAfter store (.applyEvents key events : ClientCall TSnapshot TEvent _)
        σ.records
      pc := .running (k (.ok ())) }

end System

/-- The waiting client goes on with a reply, if it is one to its call. -/
def deliver : Running TSnapshot TEvent → Reply → Option (Running TSnapshot TEvent)
  | .call (.catchUp _) k, .results results => some (k (.ok results))
  | .call (.ack _) k, .acked => some (k (.ok ()))
  | .call (.getLatestSnapshot _) k, .snapshot snapshot => some (k (.ok (some snapshot)))
  | .call .next k, .frame resp => some (k (.ok (some resp)))
  | _, _ => none

/-- The promise of a call rejects. -/
def reject (err : JsError) : Running TSnapshot TEvent → Option (Running TSnapshot TEvent)
  | .call (.catchUp _) k => some (k (.error err))
  | .call (.ack _) k => some (k (.error err))
  | .call (.getLatestSnapshot _) k => some (k (.error err))
  | .call .next k => some (k (.error err))
  | .call (.getAppliedSeq _) k => some (k (.error err))
  | .call (.applySnapshot _ _) k => some (k (.error err))
  | .call (.applyEvents _ _) k => some (k (.error err))
  | _ => none

/-- The records when a promise rejects: a call to the projection store may have been carried out
nevertheless. -/
def recordsOnReject (store : ProjectionStore R V TSnapshot TEvent) (late : Bool)
    (records : TargetBindingKey → R) : Running TSnapshot TEvent → TargetBindingKey → R
  | .call c _ => if late then recordsAfter store c records else records
  | .ret _ => records

/-- A flow of the client. -/
inductive Flow
  | catchUp (rounds : Nat)
  | subscribe (rounds : Nat)

/-- The method that a flow runs. -/
def Flow.program (opts : SyncClientOptions) (binding : SyncBinding TSnapshot TEvent) :
    Flow → Running TSnapshot TEvent
  | .catchUp rounds =>
    (do
      let _ ← Client.catchUp opts binding rounds
      return () : ClientProg TSnapshot TEvent Unit).run
  | .subscribe rounds => (subscribeLoop opts binding rounds).run

/-! ## The machine -/

/-- What happens next: another party performs an operation; the client starts a flow, crashes, makes
its next call, gets a reply, finds the stream ended, or has a promise rejected; or the server
accepts a request, or takes the next step of a task. -/
inductive Label
  | env (op : Op)
  | start (flow : Flow)
  | crash
  | perform (aborted : Bool)
  | answer (i : Nat)
  | ends
  | reject (message : String) (late : Bool)
  | accept (id : Nat)
  | serve (i : Nat)

variable {Actor : Type} (hooks : Hooks Actor) (actor : Actor) (opts : SyncClientOptions)
  (binding : SyncBinding TSnapshot TEvent) (streamID : StreamID)
  (store : ProjectionStore R V TSnapshot TEvent)

/-- What the calls of a task do; no task makes a call that looks at the clock. -/
abbrev taskHandler : Handler StoreCall Recorded := (handler 0).within Recorded.cell

/-- The server takes the next step of a task. -/
def System.serveTask (σ : System TSnapshot TEvent R) (i id : Nat) :
    ServerTask → Option (System TSnapshot TEvent R)
  | .call c k =>
    some { σ with
      server := (taskHandler _ c σ.server).2
      tasks := σ.tasks.set i (id, k (taskHandler _ c σ.server).1) }
  | .ret (.ok replies) => some { σ with replies := σ.replies ++ replies.map fun r => (id, r) }
  | .ret (.error _) => none

/-- The client with its server. -/
def system : Machine (System TSnapshot TEvent R) Label where
  step
    | .env op, σ => some { σ with server := σ.server.apply streamID op }
    | .start flow, σ =>
      match σ.pc with
      | .idle => some { σ with pc := .running (flow.program opts binding) }
      | _ => none
    | .crash, σ => some { σ with pc := .idle }
    | .perform aborted, σ =>
      match σ.pc with
      | .running p => σ.perform store aborted p
      | _ => none
    | .answer i, σ =>
      match σ.pc, σ.replies[i]? with
      | .waiting id p, some (id', reply) =>
        if id' = id then (deliver p reply).map fun p => { σ with pc := .running p } else none
      | _, _ => none
    | .ends, σ =>
      match σ.pc with
      | .waiting _ (.call .next k) => some { σ with pc := .running (k (.ok none)) }
      | _ => none
    | .reject message late, σ =>
      match σ.pc with
      | .running p | .waiting _ p =>
        (Client.reject (.rejected message) p).map fun p' =>
          { σ with records := recordsOnReject store late σ.records p, pc := .running p' }
      | .idle => none
    | .accept id, σ =>
      (σ.sent[id]?).map fun req =>
        { σ with tasks := σ.tasks ++ [(id, (serve hooks actor req).run)] }
    | .serve i, σ => (σ.tasks[i]?).bind fun task => σ.serveTask i task.1 task.2

/-- The state in which everything begins: no request was sent, and every record is empty. -/
def System.start (s : Store) (log : List Event) : System TSnapshot TEvent R where
  server := { store := s, log }
  records _ := store.empty

end Client

end Synclog.Client
