import Synclog.Core.Engine
import Synclog.Gateway.Types

/-!
# The gateway engine

`pkg/gateway/engine.go`. What asks the hooks only is a function (`resolveSubscriber`,
`resolveBindings`, `gatewayBatch`); what reaches the storage is a program over the core engine's
calls. The loops of the source over targets and over bindings are recursions over the lists.
-/

namespace Synclog.Gateway

open Synclog.Lib Synclog.Core

/-! ## What asks the hooks only -/

section Pure

variable {Actor : Type} (hooks : Hooks Actor) (actor : Actor)

/-- Source: `gateway/engine.go`, `Engine.resolveSubscriber`. -/
def resolveSubscriber (requested : SubscriberID) : Except GoError SubscriberID :=
  if requested = "" then .error (errInvalidArgument "subscriber id is required")
  else
    match hooks.resolveSubscriber actor requested with
    | .error err => .error err
    | .ok subscriberID =>
      if subscriberID = "" then
        .error (errInvalidArgument "subscriber resolver returned empty subscriber id")
      else .ok subscriberID

/-- The key under which a binding is returned, when the target has `n` bindings.
Source: `gateway/engine.go`, `Engine.resolveBindings`, the middle of the loop. -/
def effectiveKey (n : Nat) (binding : StreamBinding) : Except GoError String :=
  if binding.bindingKey = "" then
    if n ≠ 1 then
      .error (errInvalidArgument "binding key is required for multi-binding target")
    else .ok defaultBindingKey
  else .ok binding.bindingKey

/-- Source: `gateway/engine.go`, `Engine.resolveBindings`, the loop. -/
def resolveEach (n : Nat) : List String → List StreamBinding → Except GoError (List StreamBinding)
  | _, [] => .ok []
  | seen, binding :: rest =>
    if binding.streamID = "" then
      .error (errInvalidArgument "stream id is required in target binding")
    else
      match effectiveKey n binding with
      | .error err => .error err
      | .ok key =>
        if key ∈ seen then .error (errInvalidArgument ("duplicate binding key " ++ quote key))
        else
          match resolveEach n (key :: seen) rest with
          | .error err => .error err
          | .ok out => .ok ({ binding with bindingKey := key } :: out)

/-- Source: `gateway/engine.go`, `Engine.resolveBindings`. -/
def resolveBindings (target : SyncTarget) : Except GoError (List StreamBinding) :=
  match validateTarget (some target) with
  | .error err => .error err
  | .ok _ =>
    match hooks.resolveTarget actor target with
    | .error err => .error err
    | .ok resolution =>
      if resolution.bindings.length = 0 then
        .error (errInvalidArgument "target must resolve to at least one stream binding")
      else resolveEach resolution.bindings.length [] resolution.bindings

/-- The checks that `gatewayBatch` makes on one event.
Source: `gateway/engine.go`, `Engine.gatewayBatch`, the loop. -/
def checkEvent (subscriberID : SubscriberID) (target : SyncTarget) (binding : StreamBinding)
    (operation : Operation) (event : Event) : Except GoError Unit :=
  match requireAllowedType binding.payloadTypes event.payloadType "payload" with
  | .error err => .error err
  | .ok () =>
    match hooks.authorize
        { actor, operation, target, payloadType := event.payloadType, subscriberID } with
    | .error err => .error err
    | .ok () =>
      match hooks.allowPayload actor target event.payloadType with
      | .error err => .error err
      | .ok () =>
        if hooks.canDecode event.payloadType event.payloadVersion then .ok ()
        else .error (errInvalidArgument
          s!"no codec for payload type {quote event.payloadType} version {event.payloadVersion}")

/-- Source: `gateway/engine.go`, `Engine.gatewayBatch`, the loop. -/
def checkEvents (subscriberID : SubscriberID) (target : SyncTarget) (binding : StreamBinding)
    (operation : Operation) : List Event → Except GoError Unit
  | [] => .ok ()
  | event :: events =>
    match checkEvent hooks actor subscriberID target binding operation event with
    | .error err => .error err
    | .ok () => checkEvents subscriberID target binding operation events

/-- The event as the gateway sends it.
Source: `gateway/engine.go`, `Engine.gatewayBatch`. -/
def gatewayEvent (target : SyncTarget) (bindingKey : String) (event : Event) : GatewayEvent where
  target := target
  seq := event.seq
  payload := event.payload
  payloadType := event.payloadType
  payloadVersion := event.payloadVersion
  createdAtUnixMs := event.createdAtUnixMS
  bindingKey := bindingKey

/-- The batch as the gateway sends it.
Source: `gateway/engine.go`, `Engine.gatewayBatch`. -/
def toGatewayBatch (target : SyncTarget) (bindingKey : String) (batch : EventBatch) :
    GatewayBatch where
  target := target
  events := batch.events.map (gatewayEvent target bindingKey)
  seqStart := batch.seqStart
  seq := batch.seq
  final := batch.final
  bindingKey := bindingKey

/-- Source: `gateway/engine.go`, `Engine.gatewayBatch`. -/
def gatewayBatch (subscriberID : SubscriberID) (target : SyncTarget) (binding : StreamBinding)
    (batch : EventBatch) (operation : Operation) : Except GoError GatewayBatch :=
  match checkEvents hooks actor subscriberID target binding operation batch.events with
  | .error err => .error err
  | .ok () => .ok (toGatewayBatch target binding.bindingKey batch)

/-- The `batch` field of a catch-up result: set for an `OK` result only.
Source: `gateway/engine.go`, `Engine.catchUp`. -/
def resultBatch (subscriberID : SubscriberID) (target : SyncTarget) (binding : StreamBinding)
    (operation : Operation) (result : CatchUpResult) : Except GoError (Option GatewayBatch) :=
  if result.status = .ok then
    match gatewayBatch hooks actor subscriberID target binding result.batch operation with
    | .error err => .error err
    | .ok batch => .ok (some batch)
  else .ok none

end Pure

/-! ## Target states -/

/-- Source: `gateway/engine.go`, `Engine.targetState`, the reads of the loop. -/
def bindingStates (subscriberID : SubscriberID) :
    List StreamBinding → ServerProg (List TargetBindingState)
  | [] => pure []
  | binding :: bindings => do
    let cursor ← Engine.getCursor subscriberID binding.streamID
    let head ← Engine.getHead binding.streamID
    let rest ← bindingStates subscriberID bindings
    return { bindingKey := binding.bindingKey
             cursorSeq := cursor.cursor.seq
             headSeq := head.cursor.seq
             retainedSeqStart := head.retainedSeqStart } :: rest

/-- The aggregate of a target's bindings so far, with the flags `cursorSet` and `retainedSet`.
Source: `gateway/engine.go`, `Engine.targetState`. -/
structure Aggregate where
  cursorSeq : Nat := 0
  headSeq : Nat := 0
  retainedSeqStart : Nat := 0
  cursorSet : Bool := false
  retainedSet : Bool := false

/-- Source: `gateway/engine.go`, `Engine.targetState`, the end of the loop body. -/
def Aggregate.add (a : Aggregate) (b : TargetBindingState) : Aggregate where
  cursorSeq := if !a.cursorSet || b.cursorSeq < a.cursorSeq then b.cursorSeq else a.cursorSeq
  cursorSet := true
  headSeq := if b.headSeq > a.headSeq then b.headSeq else a.headSeq
  retainedSeqStart :=
    if b.retainedSeqStart > 0 && (!a.retainedSet || b.retainedSeqStart < a.retainedSeqStart)
    then b.retainedSeqStart else a.retainedSeqStart
  retainedSet :=
    a.retainedSet ||
      (b.retainedSeqStart > 0 && (!a.retainedSet || b.retainedSeqStart < a.retainedSeqStart))

/-- The state of a target with these states of its bindings.
Source: `gateway/engine.go`, `Engine.targetState`. -/
def aggregate (target : SyncTarget) (bindings : List TargetBindingState) : TargetState :=
  let a := bindings.foldl Aggregate.add {}
  { target
    cursorSeq := a.cursorSeq
    headSeq := a.headSeq
    retainedSeqStart := a.retainedSeqStart
    bindings }

/-- Source: `gateway/engine.go`, `Engine.targetState`. -/
def targetState (subscriberID : SubscriberID) (target : SyncTarget)
    (bindings : List StreamBinding) : ServerProg TargetState := do
  let states ← bindingStates subscriberID bindings
  return aggregate target states

/-! ## The methods -/

section Methods

variable {Actor : Type} (hooks : Hooks Actor) (actor : Actor)

/-- Resolve a target, authorize the operation on it and read its state.
Source: `gateway/engine.go`, `Engine.resolveSubscribeTarget` (with the operation `subscribe`);
`Engine.Open` does the same for each target (with `open`). -/
def resolveTargetState (subscriberID : SubscriberID) (operation : Operation)
    (target : SyncTarget) : ServerProg TargetState := do
  let bindings ← Prog.ofExcept (resolveBindings hooks actor target)
  Prog.ofExcept (hooks.authorize { actor, operation, target, subscriberID })
  targetState subscriberID target bindings

/-- Source: `gateway/engine.go`, `Engine.Open`, the loop. -/
def openEach (subscriberID : SubscriberID) : List SyncTarget → ServerProg (List TargetState)
  | [] => pure []
  | target :: targets => do
    let state ← resolveTargetState hooks actor subscriberID .open target
    let states ← openEach subscriberID targets
    return state :: states

/-- Source: `gateway/engine.go`, `Engine.Open`. -/
def «open» (requested : SubscriberID) (targets : List SyncTarget) :
    ServerProg (List TargetState) := do
  let subscriberID ← Prog.ofExcept (resolveSubscriber hooks actor requested)
  Prog.ofExcept (validateTargets targets)
  openEach hooks actor subscriberID targets

/-- Source: `gateway/engine.go`, `Engine.resolveSubscribeTarget`. -/
def resolveSubscribeTarget (subscriberID : SubscriberID) (target : SyncTarget) :
    ServerProg TargetState := resolveTargetState hooks actor subscriberID .subscribe target

/-- Source: `gateway/engine.go`, `Engine.ResolveSubscribeTargets`, the loop: a target that fails is
rejected and does not end the call. -/
def resolveSubscribeEach (subscriberID : SubscriberID) :
    List SyncTarget → Prog StoreCall (List TargetState × List TargetRejection)
  | [] => pure ([], [])
  | target :: targets => do
    let state ← (resolveSubscribeTarget hooks actor subscriberID target).run
    let (states, rejections) ← resolveSubscribeEach subscriberID targets
    match state with
    | .error err =>
      return (states, { target, code := rejectionCode err, message := err.message } :: rejections)
    | .ok state => return (state :: states, rejections)

/-- Source: `gateway/engine.go`, `Engine.ResolveSubscribeTargets`. -/
def resolveSubscribeTargets (requested : SubscriberID) (targets : List SyncTarget) :
    ServerProg (List TargetState × List TargetRejection) := do
  let subscriberID ← Prog.ofExcept (resolveSubscriber hooks actor requested)
  ExceptT.lift (resolveSubscribeEach hooks actor subscriberID targets)

/-- Source: `gateway/engine.go`, `Engine.catchUp`, the loop over the bindings. -/
def catchUpBindings (subscriberID : SubscriberID) (target : SyncTarget) (state : TargetState)
    (limit totalLimit : Int) (operation : Operation) :
    List StreamBinding → ServerProg (List GatewayCatchUpResult)
  | [] => pure []
  | binding :: bindings => do
    let catchUp ← Engine.catchUp
      { subscriberID, streamID := binding.streamID, limit, totalLimit }
    let batch ← Prog.ofExcept
      (resultBatch hooks actor subscriberID target binding operation catchUp)
    let results ← catchUpBindings subscriberID target state limit totalLimit operation bindings
    return { target, status := catchUp.status, batch, state := some state,
             bindingKey := binding.bindingKey } :: results

/-- One target of a catch-up.
Source: `gateway/engine.go`, `Engine.catchUp`, the body of the loop over the targets. -/
def catchUpTarget (subscriberID : SubscriberID) (limit totalLimit : Int) (operation : Operation)
    (target : SyncTarget) : ServerProg (List GatewayCatchUpResult) := do
  let bindings ← Prog.ofExcept (resolveBindings hooks actor target)
  Prog.ofExcept (hooks.authorize { actor, operation, target, subscriberID })
  let state ← targetState subscriberID target bindings
  catchUpBindings hooks actor subscriberID target state limit totalLimit operation bindings

/-- Source: `gateway/engine.go`, `Engine.catchUp`, the loop over the targets. -/
def catchUpTargets (subscriberID : SubscriberID) (limit totalLimit : Int)
    (operation : Operation) : List SyncTarget → ServerProg (List GatewayCatchUpResult)
  | [] => pure []
  | target :: targets => do
    let results ← catchUpTarget hooks actor subscriberID limit totalLimit operation target
    let rest ← catchUpTargets subscriberID limit totalLimit operation targets
    return results ++ rest

/-- Source: `gateway/engine.go`, `Engine.catchUp`. -/
def catchUp (requested : SubscriberID) (targets : List SyncTarget) (limit totalLimit : Int)
    (operation : Operation) : ServerProg (List GatewayCatchUpResult) := do
  let subscriberID ← Prog.ofExcept (resolveSubscriber hooks actor requested)
  Prog.ofExcept (validateTargets targets)
  catchUpTargets hooks actor subscriberID limit totalLimit operation targets

/-- Source: `gateway/engine.go`, `Engine.GatewayCatchUp`. -/
def gatewayCatchUp (req : GatewayCatchUpRequest) : ServerProg (List GatewayCatchUpResult) :=
  catchUp hooks actor req.subscriberId req.targets req.limitPerTarget req.totalLimitPerTarget
    .catchUp

/-- A catch-up result as a response of the live stream.
Source: `gateway/engine.go`, `Engine.GatewaySubscribePoll`. -/
def toSubscribeResponse (result : GatewayCatchUpResult) : GatewaySubscribeResponse where
  status := result.status
  batch := result.batch
  state := result.state
  bindingKey := result.bindingKey

/-- Source: `gateway/engine.go`, `Engine.GatewaySubscribePoll`. -/
def gatewaySubscribePoll (req : GatewaySubscribeRequest) :
    ServerProg (List GatewaySubscribeResponse) := do
  let results ← catchUp hooks actor req.subscriberId req.targets req.batchLimitPerTarget 0
    .subscribe
  return results.map toSubscribeResponse

/-- Source: `gateway/engine.go`, `Engine.GatewayAck`. -/
def gatewayAck (req : GatewayAckRequest) : ServerProg TargetState := do
  let subscriberID ← Prog.ofExcept (resolveSubscriber hooks actor req.subscriberId)
  let target ← Prog.ofExcept (validateTarget req.target)
  let bindings ← Prog.ofExcept (resolveBindings hooks actor target)
  Prog.ofExcept (hooks.authorize { actor, operation := .ack, target, subscriberID })
  let binding ← Prog.ofExcept (selectBinding bindings req.bindingKey)
  let _ ← Engine.ack
    { subscriberID, streamID := binding.streamID, seq := req.seq, metadata := req.metadata }
  targetState subscriberID target bindings

/-- Source: `gateway/engine.go`, `Engine.GatewayGetLatestSnapshot`, the check of the codec. -/
def checkSnapshotCodec (ref : SnapshotRef) : Except GoError Unit :=
  if hooks.canDecode ref.payloadType ref.payloadVersion then .ok ()
  else .error (errInvalidArgument
    s!"no codec for snapshot type {quote ref.payloadType} version {ref.payloadVersion}")

/-- The snapshot as the gateway sends it.
Source: `gateway/engine.go`, `Engine.GatewayGetLatestSnapshot`. -/
def gatewaySnapshot (target : SyncTarget) (binding : StreamBinding) (snapshot : Snapshot) :
    GatewaySnapshot where
  target := target
  seq := snapshot.ref.seq
  payload := snapshot.payload
  payloadType := snapshot.ref.payloadType
  payloadVersion := snapshot.ref.payloadVersion
  compression := snapshot.ref.compression
  checksum := snapshot.ref.checksum
  bindingKey := binding.bindingKey

/-- The snapshot store of the memory adapter always sets the reference of a snapshot it answers.
Source: `gateway/engine.go`, `Engine.GatewayGetLatestSnapshot`, with a snapshot store. -/
def gatewayGetLatestSnapshot (req : GatewayGetLatestSnapshotRequest) :
    ServerProg GatewayGetLatestSnapshotResponse := do
  let subscriberID ← Prog.ofExcept (resolveSubscriber hooks actor req.subscriberId)
  let target ← Prog.ofExcept (validateTarget req.target)
  if req.payloadType = "" then
    throw (errInvalidArgument "payload type is required")
  let bindings ← Prog.ofExcept (resolveBindings hooks actor target)
  Prog.ofExcept (hooks.authorize
    { actor, operation := .getSnapshot, target, payloadType := req.payloadType, subscriberID })
  let binding ← Prog.ofExcept (selectBinding bindings req.bindingKey)
  Prog.ofExcept (requireAllowedType binding.snapshotTypes req.payloadType "snapshot")
  Prog.ofExcept (hooks.allowSnapshot actor target req.payloadType)
  let snapshot ← Prog.performE
    (.getLatestSnapshot binding.streamID req.payloadType req.maxPayloadVersion)
  Prog.ofExcept (checkSnapshotCodec hooks snapshot.ref)
  let state ← targetState subscriberID target bindings
  return { snapshot := gatewaySnapshot target binding snapshot, state }

/-! ## The methods as one alphabet -/

/-- A call of the gateway, with its request. -/
inductive GatewayCall
  | «open» (subscriberId : SubscriberID) (targets : List SyncTarget)
  | resolveSubscribeTargets (subscriberId : SubscriberID) (targets : List SyncTarget)
  | catchUp (req : GatewayCatchUpRequest)
  | subscribePoll (req : GatewaySubscribeRequest)
  | ack (req : GatewayAckRequest)
  | getLatestSnapshot (req : GatewayGetLatestSnapshotRequest)

/-- What a call that succeeds answers. -/
inductive GatewayAnswer
  | opened (states : List TargetState)
  | resolved (states : List TargetState) (rejections : List TargetRejection)
  | caughtUp (results : List GatewayCatchUpResult)
  | polled (responses : List GatewaySubscribeResponse)
  | acked (state : TargetState)
  | snapshot (resp : GatewayGetLatestSnapshotResponse)
  deriving DecidableEq, Repr

/-- The method that a call is a call of. -/
def GatewayCall.prog : GatewayCall → ServerProg GatewayAnswer
  | .open subscriberId targets => do
    let states ← Gateway.open hooks actor subscriberId targets
    return .opened states
  | .resolveSubscribeTargets subscriberId targets => do
    let (states, rejections) ← Gateway.resolveSubscribeTargets hooks actor subscriberId targets
    return .resolved states rejections
  | .catchUp req => do
    let results ← gatewayCatchUp hooks actor req
    return .caughtUp results
  | .subscribePoll req => do
    let responses ← gatewaySubscribePoll hooks actor req
    return .polled responses
  | .ack req => do
    let state ← gatewayAck hooks actor req
    return .acked state
  | .getLatestSnapshot req => do
    let resp ← gatewayGetLatestSnapshot hooks actor req
    return .snapshot resp

end Methods

end Synclog.Gateway
