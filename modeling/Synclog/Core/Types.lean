import Synclog.Lib.FinMap

/-!
# Core types

The data of `pkg/synclog/types.go` and the snapshots of `snapshot.proto`, the errors of
`pkg/synclog/errors.go`, and the pure helpers of `pkg/synclog/engine.go`.

A Go zero value is a structure with its defaults: `EventBatch{Final: true}` is `{ final := true }`.
Byte slices are lists of bytes. A sequence number (`Seq`, a `uint64` in the source) is a `Nat`: a
stream's head starts at `0` and grows by one for each event, so it stays below `2 ^ 64` in every run
with fewer than `2 ^ 64 - 1` appends to a stream. The one sum whose operand a caller chooses freely,
the bound of `CompactStream`, wraps as it does in the source.
-/

namespace Synclog.Core

open Synclog.Lib

/-- Source: `types.go`, `StreamID`. -/
abbrev StreamID := String

/-- Source: `types.go`, `SubscriberID`. -/
abbrev SubscriberID := String

/-- A payload. -/
abbrev Bytes := List UInt8

/-- Source: `types.go`, `DefaultLimit`. -/
def defaultLimit : Nat := 100

/-- Source: `types.go`, `MaxLimit`. -/
def maxLimit : Nat := 1000

/-! ## Errors -/

/-- The error values that `errors.Is` is asked about.
Source: `synclog/errors.go`, `gateway/errors.go`, and the two errors of package `context`. -/
inductive Sentinel
  | invalidArgument
  | notFound
  | tooLong
  | accessDenied
  | canceled
  | deadlineExceeded
  deriving DecidableEq, Repr

/-- A gRPC status code. -/
inductive Code
  | canceled
  | invalidArgument
  | deadlineExceeded
  | notFound
  | alreadyExists
  | permissionDenied
  | failedPrecondition
  | unimplemented
  | internal
  | unauthenticated
  | other (code : Nat)
  deriving DecidableEq, Repr

/-- A gRPC status: the error a client sees. -/
structure Status where
  code : Code
  message : String
  deriving DecidableEq, Repr

/-- A Go error: the sentinels in its chain, the gRPC status it carries if any, and its text. -/
structure GoError where
  wraps : List Sentinel := []
  status : Option Status := none
  message : String
  deriving DecidableEq, Repr

/-- `errors.Is(err, target)`. -/
def GoError.is (err : GoError) (target : Sentinel) : Bool := target ∈ err.wraps

/-- `fmt.Errorf("%w: …", ErrInvalidArgument)`. -/
def errInvalidArgument (text : String) : GoError where
  wraps := [.invalidArgument]
  message := "synclog: invalid argument: " ++ text

/-- Source: `errors.go`, `ErrNotFound`. -/
def errNotFound : GoError where
  wraps := [.notFound]
  message := "synclog: not found"

/-- Source: `errors.go`, `ErrTooLong`. -/
def errTooLong : GoError where
  wraps := [.tooLong]
  message := "synclog: replay too long"

/-! ## Data -/

/-- Source: `types.go`, `Event`. -/
structure Event where
  streamID : StreamID
  seq : Nat
  payload : Bytes := []
  payloadType : String := ""
  payloadVersion : Nat := 0
  idempotencyKey : String := ""
  createdAtUnixMS : Int := 0
  deriving DecidableEq, Repr

/-- Source: `types.go`, `Cursor`. -/
structure Cursor where
  streamID : StreamID := ""
  seq : Nat := 0
  deriving DecidableEq, Repr

/-- Source: `types.go`, `SubscriberCursor`. -/
structure SubscriberCursor where
  subscriberID : SubscriberID := ""
  cursor : Cursor := {}
  metadata : String := ""
  updatedAtUnixMS : Int := 0
  deriving DecidableEq, Repr

/-- Source: `types.go`, `StreamHead`. -/
structure StreamHead where
  cursor : Cursor := {}
  retainedSeqStart : Nat := 0
  deriving DecidableEq, Repr

/-- Source: `types.go`, `EventBatch`. -/
structure EventBatch where
  events : List Event := []
  seqStart : Nat := 0
  seq : Nat := 0
  final : Bool := false
  deriving DecidableEq, Repr

/-- Source: `types.go`, `AppendRequest`. -/
structure AppendRequest where
  streamID : StreamID
  payload : Bytes := []
  payloadType : String := ""
  payloadVersion : Nat := 0
  idempotencyKey : String := ""
  createdAtUnixMS : Int := 0
  deriving DecidableEq, Repr

/-- Source: `types.go`, `AppendResult`. -/
structure AppendResult where
  event : Event
  deduplicated : Bool := false
  deriving DecidableEq, Repr

/-- Source: `types.go`, `CatchUpStatus`. -/
inductive CatchUpStatus
  | none
  | ok
  | tooLong
  deriving DecidableEq, Repr

/-- Source: `types.go`, `CatchUpRequest`. -/
structure CatchUpRequest where
  subscriberID : SubscriberID
  streamID : StreamID
  limit : Int := 0
  totalLimit : Int := 0
  deriving DecidableEq, Repr

/-- Source: `types.go`, `CatchUpResult`. -/
structure CatchUpResult where
  status : CatchUpStatus := .none
  batch : EventBatch := {}
  cursor : Cursor := {}
  head : StreamHead := {}
  retainedSeqStart : Nat := 0
  deriving DecidableEq, Repr

/-- Source: `types.go`, `AckRequest`. -/
structure AckRequest where
  subscriberID : SubscriberID
  streamID : StreamID
  seq : Nat
  metadata : String := ""
  deriving DecidableEq, Repr

/-- Source: `types.go`, `AckResult`. -/
structure AckResult where
  cursor : SubscriberCursor := {}
  head : StreamHead := {}
  deriving DecidableEq, Repr

/-- Source: `snapshot.proto`, `SnapshotRef`. -/
structure SnapshotRef where
  streamID : StreamID
  seq : Nat
  payloadType : String
  payloadVersion : Nat
  compression : Nat := 0
  checksum : String := ""
  sizeBytes : Nat := 0
  createdAtUnixMs : Int := 0
  producerID : String := ""
  deriving DecidableEq, Repr

/-- Source: `snapshot.proto`, `Snapshot`. -/
structure Snapshot where
  ref : SnapshotRef
  payload : Bytes := []
  deriving DecidableEq, Repr

/-! ## Pure helpers -/

/-- Source: `engine.go` and `memory/store.go`, `normalizeLimit` (the two copies agree). -/
def normalizeLimit (limit : Int) : Nat :=
  if limit ≤ 0 then defaultLimit
  else if limit > maxLimit then maxLimit
  else limit.toNat

/-- Source: `engine.go`, `ReplayTooOld`. -/
def replayTooOld (cursor retained : Nat) : Bool := decide (retained > 0 ∧ cursor < retained - 1)

/-- Source: `engine.go`, `replayOverBudget`. -/
def replayOverBudget (cursor head : Nat) (totalLimit : Int) : Bool :=
  if totalLimit ≤ 0 ∨ cursor ≥ head then false else decide (head - cursor > totalLimit.toNat)

/-- A normalised limit is positive. -/
theorem normalizeLimit_pos (limit : Int) : 0 < normalizeLimit limit := by
  unfold normalizeLimit defaultLimit maxLimit
  split_ifs <;> omega

/-- Normalizing twice is normalizing once: the store may check the limit the engine checked. -/
@[simp] theorem normalizeLimit_normalizeLimit (limit : Int) :
    normalizeLimit (normalizeLimit limit) = normalizeLimit limit := by
  have hpos := normalizeLimit_pos limit
  have hle : normalizeLimit limit ≤ maxLimit := by
    unfold normalizeLimit defaultLimit maxLimit
    split_ifs <;> omega
  generalize normalizeLimit limit = n at hpos hle
  unfold normalizeLimit
  rw [if_neg (by omega), if_neg (by omega), Int.toNat_natCast]

/-- Events between the cursor and what is retained are gone. -/
theorem replayTooOld_iff {cursor retained : Nat} :
    replayTooOld cursor retained = true ↔ cursor + 1 < retained := by
  simp only [replayTooOld, decide_eq_true_eq]
  omega

end Synclog.Core
