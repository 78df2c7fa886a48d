import Synclog.Gateway.Types
import Synclog.Lib.Prog

/-!
# Client types

The data of `ts/synclog/src`: `target.ts`, `store.ts`, the types of `client.ts`, and the calls that
the client makes to its transport (`transport.ts`) and to its projection store. Each of them is one
call of the signature `ClientCall`; a promise that rejects is an answer `error`.
-/

namespace Synclog.Client

open Synclog.Lib Synclog.Core Synclog.Gateway

/-! ## Keys -/

/-- Source: `target.ts`, `TargetBindingKey`. -/
structure TargetBindingKey where
  subscriberId : SubscriberID
  target : SyncTarget
  bindingKey : String
  deriving DecidableEq, Repr

/-- Source: `target.ts`, `normalizeBindingKey`. -/
def normalizeBindingKey : Option String → String
  | some bindingKey => if bindingKey ≠ "" then bindingKey else defaultBindingKey
  | none => defaultBindingKey

/-- Source: `target.ts`, `targetBindingKey`. -/
def targetBindingKey (key : TargetBindingKey) : String :=
  key.subscriberId ++ ":" ++ targetKey key.target ++ "#" ++ key.bindingKey

/-! ## Decoded data -/

/-- Source: `store.ts`, `DecodedGatewayEvent`. -/
structure DecodedGatewayEvent (TEvent : Type) where
  seq : Nat
  payloadType : String
  payloadVersion : Nat
  raw : GatewayEvent
  value : TEvent

/-- Source: `store.ts`, `DecodedGatewaySnapshot`. -/
structure DecodedGatewaySnapshot (TSnapshot : Type) where
  seq : Nat
  payloadType : String
  payloadVersion : Nat
  raw : GatewaySnapshot
  value : TSnapshot

/-- Source: `client.ts`, `SyncProjection`. -/
structure SyncProjection (TSnapshot TEvent : Type) where
  snapshotType : String
  maxSnapshotVersion : Option Nat := none
  decodeSnapshot : Bytes → Nat → TSnapshot
  decodeEvent : GatewayEvent → TEvent

/-- The store of a binding is reached by calls.
Source: `client.ts`, `SyncBinding`. -/
structure SyncBinding (TSnapshot TEvent : Type) where
  target : SyncTarget
  bindingKey : Option String := none
  projection : SyncProjection TSnapshot TEvent
  limitPerTarget : Option Nat := none
  totalLimitPerTarget : Option Nat := none
  subscriptionId : Option String := none

/-- The delays between two attempts are left out.
Source: `client.ts`, `SyncClientOptions`. -/
structure SyncClientOptions where
  subscriberId : SubscriberID
  batchLimitPerTarget : Nat := 100
  maxInFlightPerTarget : Nat := 1000

/-- Source: `client.ts`, `SyncCatchUpSummary`. -/
structure SyncCatchUpSummary where
  appliedEvents : Nat := 0
  appliedSnapshots : Nat := 0
  ackedSeq : Nat := 0
  deriving DecidableEq, Repr

/-! ## Calls -/

/-- What a client method throws: an error of its own, or that of a rejected promise. `outOfRounds`
ends a loop whose number of rounds was bounded. -/
inductive JsError
  | thrown (message : String)
  | rejected (message : String)
  | outOfRounds
  deriving DecidableEq, Repr

/-- A call of the client to its surroundings, with the type of its answer.
Source: `transport.ts`, `SyncGatewayTransport`; `store.ts`, `ProjectionStore`. The stream that
`subscribe` opens is read by `next` (`none` when it is done); `aborted` reads the signal. -/
inductive ClientCall (TSnapshot TEvent : Type) : Type → Type
  | catchUp (req : GatewayCatchUpRequest) :
      ClientCall TSnapshot TEvent (Except JsError (List GatewayCatchUpResult))
  | ack (req : GatewayAckRequest) : ClientCall TSnapshot TEvent (Except JsError Unit)
  | getLatestSnapshot (req : GatewayGetLatestSnapshotRequest) :
      ClientCall TSnapshot TEvent (Except JsError (Option GatewaySnapshot))
  | subscribe (req : GatewaySubscribeRequest) : ClientCall TSnapshot TEvent Unit
  | next : ClientCall TSnapshot TEvent (Except JsError (Option GatewaySubscribeResponse))
  | aborted : ClientCall TSnapshot TEvent Bool
  | getAppliedSeq (key : TargetBindingKey) : ClientCall TSnapshot TEvent (Except JsError Nat)
  | applySnapshot (key : TargetBindingKey) (snapshot : DecodedGatewaySnapshot TSnapshot) :
      ClientCall TSnapshot TEvent (Except JsError Unit)
  | applyEvents (key : TargetBindingKey) (events : List (DecodedGatewayEvent TEvent)) :
      ClientCall TSnapshot TEvent (Except JsError Unit)

/-- A method of the client: a program that may throw. -/
abbrev ClientProg (TSnapshot TEvent α : Type) :=
  ExceptT JsError (Prog (ClientCall TSnapshot TEvent)) α

end Synclog.Client
