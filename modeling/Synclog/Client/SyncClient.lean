import Synclog.Client.Types

/-!
# The client

The methods of `SyncClient` in `ts/synclog/src/client.ts` as programs over the client's calls. The
loops of the source have no bound; here `rounds` bounds the number of rounds of every loop, so that
a statement for every `rounds` is one for every finite part of a run.
-/

namespace Synclog.Client

open Synclog.Lib Synclog.Core Synclog.Gateway

/-! ## Helpers -/

/-- Whether a binding key option counts as given: `undefined` and `""` do not.
Source: `client.ts`, the conditions on `requestedBindingKey`. -/
def requested : Option String → Option String
  | some bindingKey => if bindingKey ≠ "" then some bindingKey else none
  | none => none

/-- Source: `client.ts`, `selectResult`. -/
def selectResult (results : List GatewayCatchUpResult) (requestedBindingKey : Option String) :
    Except JsError (Option GatewayCatchUpResult) :=
  match requested requestedBindingKey with
  | some bindingKey => .ok (results.find? fun result => result.bindingKey == bindingKey)
  | none =>
    if results.length ≤ 1 then .ok results.head?
    else .error (.thrown "bindingKey is required when target returns multiple bindings")

/-- Source: `client.ts`, `matchesBinding`. -/
def matchesBinding (responseBindingKey : String) (requestedBindingKey : Option String) : Bool :=
  match requested requestedBindingKey with
  | some bindingKey => responseBindingKey == bindingKey
  | none => true

/-! ## Methods -/

section Methods

variable {TSnapshot TEvent : Type} (opts : SyncClientOptions)
  (binding : SyncBinding TSnapshot TEvent)

/-- Source: `client.ts`, `SyncClient.#key`. -/
def keyFor (responseBindingKey : Option String) : TargetBindingKey where
  subscriberId := opts.subscriberId
  target := binding.target
  bindingKey := normalizeBindingKey (binding.bindingKey.or responseBindingKey)

/-- The request of an acknowledgement.
Source: `client.ts`, `SyncClient.#ack`. -/
def ackRequest (key : TargetBindingKey) (seq : Nat) : GatewayAckRequest where
  subscriberId := opts.subscriberId
  target := some key.target
  bindingKey := key.bindingKey
  seq := seq
  metadata := ""

/-- Source: `client.ts`, `SyncClient.#ack`. -/
def ack (key : TargetBindingKey) (seq : Nat) : ClientProg TSnapshot TEvent Unit :=
  Prog.performE (.ack (ackRequest opts key seq))

/-- Source: `client.ts`, `SyncClient.#applyBatch`, the argument of `applyEvents`. -/
def decodeEvent (event : GatewayEvent) : DecodedGatewayEvent TEvent where
  seq := event.seq
  payloadType := event.payloadType
  payloadVersion := event.payloadVersion
  raw := event
  value := binding.projection.decodeEvent event

/-- The events that `applyBatch` passes on.
Source: `client.ts`, `SyncClient.#applyBatch`. -/
def newEvents (appliedSeq : Nat) (batch : GatewayBatch) : List (DecodedGatewayEvent TEvent) :=
  (batch.events.filter fun event => event.seq > appliedSeq).map (decodeEvent binding)

/-- What is applied: nothing when no event is new.
Source: `client.ts`, `SyncClient.#applyBatch`. -/
def applyNew (key : TargetBindingKey) (events : List (DecodedGatewayEvent TEvent)) :
    ClientProg TSnapshot TEvent Unit :=
  if events.length > 0 then Prog.performE (.applyEvents key events) else pure ()

/-- The number of events applied, and the seq that was acknowledged.
Source: `client.ts`, `SyncClient.#applyBatch`. -/
def applyBatch (batch : GatewayBatch) : ClientProg TSnapshot TEvent (Nat × Nat) := do
  let key := keyFor opts binding batch.bindingKey
  let appliedSeq ← Prog.performE (.getAppliedSeq key)
  applyNew key (newEvents binding appliedSeq batch)
  let ackedSeq ← Prog.performE (.getAppliedSeq key)
  ack opts key ackedSeq
  return ((newEvents binding appliedSeq batch).length, ackedSeq)

/-- Source: `client.ts`, `SyncClient.#recoverFromSnapshot`, the argument of `applySnapshot`. -/
def decodeSnapshot (snapshot : GatewaySnapshot) : DecodedGatewaySnapshot TSnapshot where
  seq := snapshot.seq
  payloadType := snapshot.payloadType
  payloadVersion := snapshot.payloadVersion
  raw := snapshot
  value := binding.projection.decodeSnapshot snapshot.payload snapshot.payloadVersion

/-- The request of a snapshot recovery.
Source: `client.ts`, `SyncClient.#recoverFromSnapshot`. -/
def snapshotRequest : GatewayGetLatestSnapshotRequest where
  subscriberId := opts.subscriberId
  target := some binding.target
  payloadType := binding.projection.snapshotType
  maxPayloadVersion := binding.projection.maxSnapshotVersion.getD 0
  bindingKey := binding.bindingKey.getD ""

/-- Source: `client.ts`, `SyncClient.#recoverFromSnapshot`. -/
def recoverFromSnapshot : ClientProg TSnapshot TEvent Nat := do
  match ← Prog.performE (.getLatestSnapshot (snapshotRequest opts binding)) with
  | none => throw (.thrown "gateway returned TOO_LONG but no compatible snapshot")
  | some snapshot =>
    let key := keyFor opts binding snapshot.bindingKey
    Prog.performE (.applySnapshot key (decodeSnapshot binding snapshot))
    ack opts key snapshot.seq
    return snapshot.seq

/-- The request of a catch-up.
Source: `client.ts`, `SyncClient.catchUp`. -/
def catchUpRequest : GatewayCatchUpRequest where
  subscriberId := opts.subscriberId
  targets := [binding.target]
  limitPerTarget := binding.limitPerTarget.getD opts.batchLimitPerTarget
  totalLimitPerTarget := binding.totalLimitPerTarget.getD 0

/-- Source: `client.ts`, `SyncClient.catchUp`, the loop. -/
def catchUpLoop : Nat → SyncCatchUpSummary → ClientProg TSnapshot TEvent SyncCatchUpSummary
  | 0, _ => throw .outOfRounds
  | rounds + 1, summary => do
    let results ← Prog.performE (.catchUp (catchUpRequest opts binding))
    match ← Prog.ofExcept (selectResult results binding.bindingKey) with
    | none => return summary
    | some result =>
      if result.status = .tooLong then
        let seq ← recoverFromSnapshot opts binding
        catchUpLoop rounds { summary with
          appliedSnapshots := summary.appliedSnapshots + 1
          ackedSeq := max summary.ackedSeq seq }
      else if result.status ≠ .ok then return summary
      else
        match result.batch with
        | none => return summary
        | some batch =>
          if batch.events.length = 0 then return summary
          else
            let (count, seq) ← applyBatch opts binding batch
            let summary := { summary with
              appliedEvents := summary.appliedEvents + count
              ackedSeq := max summary.ackedSeq seq }
            if batch.final then return summary else catchUpLoop rounds summary

/-- Source: `client.ts`, `SyncClient.catchUp`. -/
def catchUp (rounds : Nat) : ClientProg TSnapshot TEvent SyncCatchUpSummary :=
  catchUpLoop opts binding rounds {}

/-- Source: `client.ts`, `SyncClient.#handleSubscribeResponse`. -/
def handleSubscribeResponse (rounds : Nat) (resp : GatewaySubscribeResponse) :
    ClientProg TSnapshot TEvent Unit :=
  if resp.heartbeat then pure ()
  else if !matchesBinding resp.bindingKey binding.bindingKey then pure ()
  else if resp.status = .tooLong then do
    let _ ← recoverFromSnapshot opts binding
    let _ ← catchUp opts binding rounds
    return ()
  else if resp.status ≠ .ok then pure ()
  else
    match resp.batch with
    | none => pure ()
    | some batch =>
      if batch.events.length = 0 then pure ()
      else do
        let _ ← applyBatch opts binding batch
        return ()

/-- Whether the subscription was stopped. -/
def signalAborted : ClientProg TSnapshot TEvent Bool := ExceptT.lift (Prog.perform .aborted)

/-- Source: `client.ts`, `SyncClient.#runSubscription`, the loop over the stream. -/
def streamLoop : Nat → ClientProg TSnapshot TEvent Unit
  | 0 => throw .outOfRounds
  | rounds + 1 => do
    if ← signalAborted then return ()
    else
      match ← Prog.performE .next with
      | none => return ()
      | some resp =>
        if ← signalAborted then return ()
        else
          handleSubscribeResponse opts binding rounds resp
          streamLoop rounds

/-- The request that opens the stream.
Source: `client.ts`, `SyncClient.#runSubscription`. -/
def subscribeRequest : GatewaySubscribeRequest where
  subscriberId := opts.subscriberId
  targets := [binding.target]
  batchLimitPerTarget := binding.limitPerTarget.getD opts.batchLimitPerTarget
  maxInFlightPerTarget := opts.maxInFlightPerTarget
  subscriptionId := binding.subscriptionId.getD ""

/-- Source: `client.ts`, `SyncClient.#runSubscription`. -/
def runSubscription (rounds : Nat) : ClientProg TSnapshot TEvent Unit := do
  let _ ← catchUp opts binding rounds
  ExceptT.lift (Prog.perform (.subscribe (subscribeRequest opts binding)))
  streamLoop opts binding rounds

/-- The loop of a subscription. The delay before the next attempt is left out; that the rounds are
used up is no error of the source, and is not caught.
Source: `client.ts`, `SyncClient.#subscribeLoop`. -/
def subscribeLoop : Nat → ClientProg TSnapshot TEvent Unit
  | 0 => throw .outOfRounds
  | rounds + 1 => do
    if ← signalAborted then return ()
    else
      match ← ExceptT.lift (runSubscription opts binding rounds).run with
      | .ok () => return ()
      | .error .outOfRounds => throw .outOfRounds
      | .error _ =>
        if ← signalAborted then return ()
        else subscribeLoop rounds

end Methods

end Synclog.Client
