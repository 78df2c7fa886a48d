import Synclog.Core.Types
import Synclog.Lib.Prog

/-!
# The core engine

`pkg/synclog/engine.go`. The engine reaches the storage through the interfaces of
`pkg/synclog/storage.go`, one call at a time, and holds no lock between two calls; so a method of
the engine is a program over `StoreCall`, and other calls may come between any two of its own. What
the calls do is up to the adapter: the memory store gives them a meaning in `Synclog.Memory`.
-/

namespace Synclog.Core

open Synclog.Lib

/-! ## Storage -/

/-- A call of the storage interfaces, with the type of its answer.
Source: `storage.go`, `EventLog`, `CursorStore`, `SnapshotStore`. -/
inductive StoreCall : Type → Type
  | append (req : AppendRequest) : StoreCall (Except GoError AppendResult)
  | getHead (streamID : StreamID) : StoreCall (Except GoError StreamHead)
  | read (streamID : StreamID) (after : Nat) (limit : Int) :
      StoreCall (Except GoError (EventBatch × StreamHead))
  | getCursor (subscriberID : SubscriberID) (streamID : StreamID) :
      StoreCall (Except GoError SubscriberCursor)
  | ack (req : AckRequest) : StoreCall (Except GoError SubscriberCursor)
  | getLatestSnapshot (streamID : StreamID) (payloadType : String) (maxPayloadVersion : Nat) :
      StoreCall (Except GoError Snapshot)

/-- The calls that change nothing. -/
inductive StoreCall.IsRead : (β : Type) → StoreCall β → Prop
  | getHead (streamID : StreamID) : IsRead _ (.getHead streamID)
  | read (streamID : StreamID) (after : Nat) (limit : Int) : IsRead _ (.read streamID after limit)
  | getCursor (subscriberID : SubscriberID) (streamID : StreamID) :
      IsRead _ (.getCursor subscriberID streamID)
  | getLatestSnapshot (streamID : StreamID) (payloadType : String) (maxPayloadVersion : Nat) :
      IsRead _ (.getLatestSnapshot streamID payloadType maxPayloadVersion)

/-- A program over the storage that may fail with a Go error. -/
abbrev ServerProg (α : Type) := ExceptT GoError (Prog StoreCall) α

/-! ## The methods -/

namespace Engine

/-- Source: `engine.go`, `Engine.Append`; `clock` is the reading of the engine's clock in
milliseconds. -/
def append (clock : Int) (req : AppendRequest) : ServerProg AppendResult :=
  if req.streamID = "" then throw (errInvalidArgument "stream id is required")
  else if req.createdAtUnixMS < 0 then
    throw (errInvalidArgument "created_at must not be negative")
  else if req.createdAtUnixMS = 0 then
    Prog.performE (.append { req with createdAtUnixMS := clock })
  else Prog.performE (.append req)

/-- Source: `engine.go`, `Engine.GetHead`. -/
def getHead (streamID : StreamID) : ServerProg StreamHead :=
  if streamID = "" then throw (errInvalidArgument "stream id is required")
  else Prog.performE (.getHead streamID)

/-- Source: `engine.go`, `Engine.GetCursor`. -/
def getCursor (subscriberID : SubscriberID) (streamID : StreamID) : ServerProg SubscriberCursor :=
  if subscriberID = "" then throw (errInvalidArgument "subscriber id is required")
  else if streamID = "" then throw (errInvalidArgument "stream id is required")
  else Prog.performE (.getCursor subscriberID streamID)

/-- Whether `CatchUp` announces a replay that is too long before it reads the log.
Source: `engine.go`, `Engine.CatchUp`. -/
def tooLong (req : CatchUpRequest) (cursor : SubscriberCursor) (head : StreamHead) : Bool :=
  replayTooOld cursor.cursor.seq head.retainedSeqStart ||
    replayOverBudget cursor.cursor.seq head.cursor.seq req.totalLimit

/-- The result of `CatchUp` without a batch.
Source: `engine.go`, `Engine.CatchUp`, `result`. -/
def noBatch (status : CatchUpStatus) (cursor : SubscriberCursor) (head : StreamHead) :
    CatchUpResult where
  status := status
  cursor := cursor.cursor
  head := head
  retainedSeqStart := head.retainedSeqStart

/-- The end of `CatchUp`: what becomes of the answer of `Read`.
Source: `engine.go`, `Engine.CatchUp`. -/
def withBatch (cursor : SubscriberCursor) (head : StreamHead) :
    Except GoError (EventBatch × StreamHead) → Except GoError CatchUpResult
  | .error err => if err.is .tooLong then .ok (noBatch .tooLong cursor head) else .error err
  | .ok (batch, head) => .ok { noBatch .ok cursor head with batch }

/-- Source: `engine.go`, `Engine.CatchUp`. -/
def catchUp (req : CatchUpRequest) : ServerProg CatchUpResult :=
  if req.subscriberID = "" then throw (errInvalidArgument "subscriber id is required")
  else if req.streamID = "" then throw (errInvalidArgument "stream id is required")
  else do
    let limit := normalizeLimit req.limit
    let cursor ← Prog.performE (.getCursor req.subscriberID req.streamID)
    let head ← Prog.performE (.getHead req.streamID)
    if tooLong req cursor head then
      return noBatch .tooLong cursor head
    let batch ← Prog.attempt (.read req.streamID cursor.cursor.seq limit)
    Prog.ofExcept (withBatch cursor head batch)

/-- The error of an acknowledgement above the head.
Source: `engine.go`, `Engine.Ack`. -/
def errAckAboveHead (seq head : Nat) : GoError :=
  errInvalidArgument s!"ack seq {seq} is above stream head {head}"

/-- Source: `engine.go`, `Engine.Ack`. -/
def ack (req : AckRequest) : ServerProg AckResult :=
  if req.subscriberID = "" then throw (errInvalidArgument "subscriber id is required")
  else if req.streamID = "" then throw (errInvalidArgument "stream id is required")
  else do
    let head ← Prog.performE (.getHead req.streamID)
    if req.seq > head.cursor.seq then
      throw (errAckAboveHead req.seq head.cursor.seq)
    let cursor ← Prog.performE (.ack req)
    return { cursor, head }

/-! ## What a method leaves alone -/

/-- `CatchUp` only reads. -/
theorem catchUp_only_reads (req : CatchUpRequest) :
    Prog.Only StoreCall.IsRead (catchUp req).run := by
  unfold catchUp
  split_ifs
  · trivial
  · trivial
  · refine Prog.Only.bindE ⟨.getCursor _ _, fun _ => trivial⟩ ?_
    intro cursor
    refine Prog.Only.bindE ⟨.getHead _, fun _ => trivial⟩ ?_
    intro head
    split_ifs
    · trivial
    · exact ⟨.read _ _ _, fun _ => trivial⟩

end Engine

end Synclog.Core
