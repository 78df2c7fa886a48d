import Synclog.Core.Types

/-!
# Gateway types

The messages of `gateway.proto`, the hooks of `pkg/gateway/types.go` and the pure helpers of
`pkg/gateway/engine.go`.

A message field that the code reads as possibly missing is an `Option`; the elements of a repeated
field are always there. The hooks are the product's code: `Hooks` has one function for each, and
nothing is assumed of them beyond that they answer the same question in the same way.
-/

namespace Synclog.Gateway

open Synclog.Lib Synclog.Core

/-! ## Messages -/

/-- Source: `gateway.proto`, `SyncTarget`; `ns` is the field `namespace`. -/
structure SyncTarget where
  ns : String
  id : String
  view : String := ""
  deriving DecidableEq, Repr

/-- Source: `gateway.proto`, `GatewayEvent`. -/
structure GatewayEvent where
  target : SyncTarget
  seq : Nat
  payload : Bytes := []
  payloadType : String := ""
  payloadVersion : Nat := 0
  createdAtUnixMs : Int := 0
  bindingKey : String := ""
  deriving DecidableEq, Repr

/-- Source: `gateway.proto`, `GatewayBatch`. -/
structure GatewayBatch where
  target : SyncTarget
  events : List GatewayEvent := []
  seqStart : Nat := 0
  seq : Nat := 0
  final : Bool := false
  bindingKey : String := ""
  deriving DecidableEq, Repr

/-- Source: `gateway.proto`, `TargetBindingState`. -/
structure TargetBindingState where
  bindingKey : String
  cursorSeq : Nat := 0
  headSeq : Nat := 0
  retainedSeqStart : Nat := 0
  deriving DecidableEq, Repr

/-- Source: `gateway.proto`, `TargetState`. -/
structure TargetState where
  target : SyncTarget
  cursorSeq : Nat := 0
  headSeq : Nat := 0
  retainedSeqStart : Nat := 0
  bindings : List TargetBindingState := []
  deriving DecidableEq, Repr

/-- Source: `gateway.proto`, `TargetRejection`. -/
structure TargetRejection where
  target : SyncTarget
  code : String
  message : String
  deriving DecidableEq, Repr

/-- Source: `gateway.proto`, `GatewayCatchUpRequest`. -/
structure GatewayCatchUpRequest where
  subscriberId : SubscriberID
  targets : List SyncTarget := []
  limitPerTarget : Nat := 0
  totalLimitPerTarget : Nat := 0
  deriving DecidableEq, Repr

/-- Source: `gateway.proto`, `GatewayCatchUpResult`. -/
structure GatewayCatchUpResult where
  target : SyncTarget
  status : CatchUpStatus := .none
  batch : Option GatewayBatch := none
  state : Option TargetState := none
  bindingKey : String := ""
  deriving DecidableEq, Repr

/-- Source: `gateway.proto`, `GatewaySubscribeRequest`. -/
structure GatewaySubscribeRequest where
  subscriberId : SubscriberID
  targets : List SyncTarget := []
  batchLimitPerTarget : Nat := 0
  maxInFlightPerTarget : Nat := 0
  subscriptionId : String := ""
  deriving DecidableEq, Repr

/-- Source: `gateway.proto`, `GatewaySubscribeResponse`. -/
structure GatewaySubscribeResponse where
  status : CatchUpStatus := .none
  batch : Option GatewayBatch := none
  state : Option TargetState := none
  serverTimeUnixMs : Int := 0
  heartbeat : Bool := false
  bindingKey : String := ""
  deriving DecidableEq, Repr

/-- Source: `gateway.proto`, `GatewayAckRequest`. -/
structure GatewayAckRequest where
  subscriberId : SubscriberID
  target : Option SyncTarget
  bindingKey : String := ""
  seq : Nat
  metadata : String := ""
  deriving DecidableEq, Repr

/-- Source: `gateway.proto`, `GatewayGetLatestSnapshotRequest`. -/
structure GatewayGetLatestSnapshotRequest where
  subscriberId : SubscriberID
  target : Option SyncTarget
  payloadType : String
  maxPayloadVersion : Nat := 0
  bindingKey : String := ""
  deriving DecidableEq, Repr

/-- Source: `gateway.proto`, `GatewaySnapshot`. -/
structure GatewaySnapshot where
  target : SyncTarget
  seq : Nat
  payload : Bytes := []
  payloadType : String := ""
  payloadVersion : Nat := 0
  compression : Nat := 0
  checksum : String := ""
  bindingKey : String := ""
  deriving DecidableEq, Repr

/-- Source: `gateway.proto`, `GatewayGetLatestSnapshotResponse`. -/
structure GatewayGetLatestSnapshotResponse where
  snapshot : GatewaySnapshot
  state : TargetState
  deriving DecidableEq, Repr

/-- Source: `gateway.proto`, `ModifySubscriptionRequest`. -/
structure ModifySubscriptionRequest where
  subscriberId : SubscriberID
  subscriptionId : String
  addTargets : List SyncTarget := []
  removeTargets : List SyncTarget := []
  deriving DecidableEq, Repr

/-- Source: `gateway.proto`, `ModifySubscriptionResponse`. -/
structure ModifySubscriptionResponse where
  added : List TargetState := []
  rejected : List TargetRejection := []
  deriving DecidableEq, Repr

/-! ## Hooks -/

/-- Source: `types.go`, `Operation`. -/
inductive Operation
  | «open»
  | catchUp
  | subscribe
  | ack
  | getSnapshot
  deriving DecidableEq, Repr

/-- Source: `types.go`, `StreamBinding`. -/
structure StreamBinding where
  bindingKey : String := ""
  streamID : StreamID
  payloadTypes : List String := []
  snapshotTypes : List String := []
  deriving DecidableEq, Repr

/-- The engine reads the bindings only.
Source: `types.go`, `TargetResolution`. -/
structure TargetResolution where
  bindings : List StreamBinding
  deriving DecidableEq, Repr

/-- Source: `types.go`, `AuthRequest`. -/
structure AuthRequest (Actor : Type) where
  actor : Actor
  operation : Operation
  target : SyncTarget
  payloadType : String := ""
  subscriberID : SubscriberID

/-- Source: `types.go`, `Hooks`. -/
structure Hooks (Actor : Type) where
  /-- `SubscriberResolver.ResolveSubscriber`. -/
  resolveSubscriber : Actor → SubscriberID → Except GoError SubscriberID
  /-- `Resolver.ResolveTarget`. -/
  resolveTarget : Actor → SyncTarget → Except GoError TargetResolution
  /-- `Authorizer.Authorize`. -/
  authorize : AuthRequest Actor → Except GoError Unit
  /-- `PayloadExposurePolicy.AllowPayload`. -/
  allowPayload : Actor → SyncTarget → String → Except GoError Unit
  /-- `SnapshotExposurePolicy.AllowSnapshot`. -/
  allowSnapshot : Actor → SyncTarget → String → Except GoError Unit
  /-- `CodecRegistry.CanDecode`. -/
  canDecode : String → Nat → Bool

/-- Source: `errors.go`, `ErrAccessDenied`. -/
def errAccessDenied : GoError where
  wraps := [.accessDenied]
  message := "synclog gateway: access denied"

/-! ## Keys -/

/-- Source: `gateway/engine.go`, `defaultBindingKey`. -/
def defaultBindingKey : String := "default"

/-- Source: `gateway/engine.go` and `transport/grpc/server.go`, `targetKey`. -/
def targetKey (target : SyncTarget) : String := target.ns ++ "/" ++ target.id ++ "/" ++ target.view

/-- Source: `gateway/engine.go` and `transport/grpc/server.go`, `targetBindingKey`. -/
def targetBindingKey (target : SyncTarget) (bindingKey : String) : String :=
  targetKey target ++ "#" ++ bindingKey

/-- Source: `transport/grpc/server.go`, `responseKey`. -/
def responseKey (resp : GatewaySubscribeResponse) : String :=
  match resp.state, resp.batch with
  | some state, _ => targetBindingKey state.target resp.bindingKey
  | none, some batch =>
    targetBindingKey batch.target
      (if resp.bindingKey = "" then batch.bindingKey else resp.bindingKey)
  | none, none => ""

/-- Source: `transport/grpc/server.go`, `bindingCursorSeq`. -/
def bindingCursorSeq (state : TargetState) (bindingKey : String) : Nat :=
  match state.bindings.find? fun binding => binding.bindingKey == bindingKey with
  | some binding => binding.cursorSeq
  | none => state.cursorSeq

/-! ## Checks -/

/-- The last `width` digits of a number in base 16. -/
def hexDigits : Nat → Nat → List Char
  | 0, _ => []
  | width + 1, n => hexDigits width (n / 16) ++ [Nat.digitChar (n % 16)]

/-- Whether a character is printed as it is. Beyond U+00FF every character is taken for printable.
Source: package `strconv`, `IsPrint`. -/
def isPrint (c : Char) : Bool :=
  let r := c.toNat
  if r ≤ 0xff then (0x20 ≤ r && r < 0x7f) || (0xa1 ≤ r && r != 0xad) else true

/-- A character between quotation marks.
Source: package `strconv`, `appendEscapedRune`. -/
def escapeChar (c : Char) : List Char :=
  let r := c.toNat
  if c = '"' ∨ c = '\\' then ['\\', c]
  else if isPrint c then [c]
  else if r = 0x07 then ['\\', 'a']
  else if r = 0x08 then ['\\', 'b']
  else if r = 0x0c then ['\\', 'f']
  else if r = 0x0a then ['\\', 'n']
  else if r = 0x0d then ['\\', 'r']
  else if r = 0x09 then ['\\', 't']
  else if r = 0x0b then ['\\', 'v']
  else if r < 0x20 ∨ r = 0x7f then '\\' :: 'x' :: hexDigits 2 r
  else '\\' :: 'u' :: hexDigits 4 r

/-- The text that `%q` prints for a string.
Source: package `fmt`, and package `strconv`, `Quote`. -/
def quote (text : String) : String :=
  String.ofList ('"' :: text.toList.flatMap escapeChar ++ ['"'])

example : quote (String.ofList ['a', Char.ofNat 1, '"', Char.ofNat 0x85]) =
    "\"a\\x01\\\"\\u0085\"" := by decide

/-- Source: `gateway/engine.go`, `validateTarget`. -/
def validateTarget : Option SyncTarget → Except GoError SyncTarget
  | none => .error (errInvalidArgument "target is required")
  | some target =>
    if target.ns = "" then .error (errInvalidArgument "target namespace is required")
    else if target.id = "" then .error (errInvalidArgument "target id is required")
    else .ok target

/-- Source: `gateway/engine.go`, `validateTargets`, the loop. -/
def validateEach : List SyncTarget → Except GoError Unit
  | [] => .ok ()
  | target :: targets =>
    match validateTarget (some target) with
    | .error err => .error err
    | .ok _ => validateEach targets

/-- Source: `gateway/engine.go`, `validateTargets`. -/
def validateTargets (targets : List SyncTarget) : Except GoError Unit :=
  if targets.length = 0 then .error (errInvalidArgument "at least one target is required")
  else validateEach targets

/-- Source: `gateway/engine.go`, `requireAllowedType`. -/
def requireAllowedType (allowed : List String) (payloadType kind : String) : Except GoError Unit :=
  if allowed.length = 0 then .ok ()
  else if payloadType ∈ allowed then .ok ()
  else .error (errInvalidArgument
    (kind ++ " type " ++ quote payloadType ++ " is not allowed by target binding"))

/-- Source: `gateway/engine.go`, `selectBinding`. -/
def selectBinding (bindings : List StreamBinding) (requested : String) :
    Except GoError StreamBinding :=
  if requested = "" then
    match bindings with
    | [binding] => .ok binding
    | _ => .error (errInvalidArgument "binding key is required for multi-binding target")
  else
    match bindings.find? fun binding => binding.bindingKey == requested with
    | some binding => .ok binding
    | none => .error (errInvalidArgument ("unknown binding key " ++ quote requested))

/-- Source: `gateway/engine.go`, `rejectionCode`. -/
def rejectionCode (err : GoError) : String :=
  if err.is .accessDenied then "PERMISSION_DENIED"
  else if err.is .invalidArgument then "INVALID_ARGUMENT"
  else if err.is .notFound then "NOT_FOUND"
  else if err.is .tooLong then "FAILED_PRECONDITION"
  else "INTERNAL"

end Synclog.Gateway
