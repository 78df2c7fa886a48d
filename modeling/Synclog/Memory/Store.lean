import Mathlib.Algebra.Group.Nat.Defs
import Synclog.Core.Types

/-!
# The memory store: its state and its critical sections

`internal/storage/memory/store.go`. Every method of `Store` that touches the maps does so in one
critical section under `Store.mu` (`CompactStream` in two); here a critical section is a function
from the store to its answer and the next store, or to the next store alone where it answers
nothing. `time.Now` is a parameter: the reading of the clock in nanoseconds since 1970.

The channels that `WaitForStream` waits on are numbered; `closed` lists the channels closed so far,
newest first, with one entry for each call of `close`.
-/

namespace Synclog.Memory

open Synclog.Lib Synclog.Core

/-! ## State -/

/-- Source: `store.go`, `streamWatcher`. -/
structure StreamWatcher where
  after : Nat
  ch : Nat
  deriving DecidableEq, Repr

/-- Source: `store.go`, `streamState`. -/
structure StreamState where
  head : Nat := 0
  retainedSeqStart : Nat := 0
  events : List Event := []
  idempotency : FinMap String Nat := ∅

/-- Source: `store.go`, `cursorKey`. -/
structure CursorKey where
  subscriberID : SubscriberID
  streamID : StreamID
  deriving DecidableEq, Repr

/-- Source: `store.go`, `snapshotKey`. -/
structure SnapshotKey where
  streamID : StreamID
  seq : Nat
  payloadType : String
  payloadVersion : Nat
  deriving DecidableEq, Repr

/-- Source: `admin.proto`, `StreamRetention`. -/
structure StreamRetention where
  streamID : StreamID
  ttlDays : Int := 0
  maxEvents : Int := 0
  deriving DecidableEq, Repr

/-- Source: `store.go`, `Store`. -/
structure Store where
  streams : FinMap StreamID StreamState := ∅
  cursors : FinMap CursorKey SubscriberCursor := ∅
  snapshots : FinMap SnapshotKey Snapshot := ∅
  retention : FinMap StreamID StreamRetention := ∅
  watchers : FinMap StreamID (List StreamWatcher) := ∅
  /-- The channels closed so far, one entry for each call of `close`. -/
  closed : List Nat := []
  /-- The number of channels made so far. -/
  made : Nat := 0

/-- Source: `store.go`, `NewStore`. -/
def newStore : Store := {}

/-! ## One stream -/

namespace StreamState

/-- Source: `store.go`, `streamState.headCursor`. -/
def headCursor (st : StreamState) (streamID : StreamID) : StreamHead where
  cursor := { streamID, seq := st.head }
  retainedSeqStart := st.retainedSeqStart

/-- Source: `store.go`, `streamState.eventBySeq`. -/
def eventBySeq (st : StreamState) (seq : Nat) : Option Event :=
  st.events.find? fun event => event.seq == seq

/-- Drop the first `n` events and set the retention boundary behind them. `TruncateBefore` and
`applyRetentionLocked` each end with this piece of code.
Source: `store.go`, `Store.TruncateBefore`, `Store.applyRetentionLocked`. -/
def dropFront (st : StreamState) (n : Nat) : StreamState :=
  { st with
    events := st.events.drop n
    retainedSeqStart :=
      match st.events.drop n with
      | event :: _ => event.seq
      | [] => if st.head > 0 then st.head + 1 else st.retainedSeqStart }

/-- The events that `TruncateBefore` removes: the leading ones below the bound.
Source: `store.go`, `Store.TruncateBefore`, the loop over `keepFrom`. -/
def keepFrom (st : StreamState) (before : Nat) : Nat :=
  (st.events.takeWhile fun event => event.seq < before).length

/-- A 64-bit signed integer that wraps around. -/
def wrap64 (x : Int) : Int := Int.bmod x (2 ^ 64)

/-- The cutoff of the time-to-live rule, in milliseconds. `-time.Duration(days) * 24 * time.Hour`
and `UnixNano` wrap in 64 bits; the division truncates.
Source: `store.go`, `Store.applyRetentionLocked`. -/
def cutoffMS (now ttlDays : Int) : Int :=
  (wrap64 (now + wrap64 (-ttlDays * 24 * 3600000000000))).tdiv 1000000

/-- How many leading events the time-to-live rule removes.
Source: `store.go`, `Store.applyRetentionLocked`, the first `if`. -/
def expired (st : StreamState) (retention : StreamRetention) (now : Int) : Nat :=
  if retention.ttlDays > 0 then
    (st.events.takeWhile fun event =>
      0 < event.createdAtUnixMS && event.createdAtUnixMS < cutoffMS now retention.ttlDays).length
  else 0

/-- How many leading events retention removes: the expired ones, or as many as exceed the bound on
the number of events when these are more.
Source: `store.go`, `Store.applyRetentionLocked`. -/
def removeCount (st : StreamState) (retention : StreamRetention) (now : Int) : Int :=
  let remove : Int := st.expired retention now
  if retention.maxEvents > 0 then
    let overflow : Int := st.events.length - retention.maxEvents
    if overflow > remove then overflow else remove
  else remove

/-- Source: `store.go`, `Store.applyRetentionLocked`, on the stream and its retention. -/
def applyRetention (st : StreamState) (retention : StreamRetention) (now : Int) : StreamState :=
  if st.events.length = 0 then st
  else
    let remove := st.removeCount retention now
    if remove ≤ 0 then st
    else if remove > st.events.length then st.dropFront st.events.length
    else st.dropFront remove.toNat

/-- The event that `Append` creates.
Source: `store.go`, `Store.Append`. -/
def nextEvent (st : StreamState) (req : AppendRequest) : Event where
  streamID := req.streamID
  seq := st.head + 1
  payload := req.payload
  payloadType := req.payloadType
  payloadVersion := req.payloadVersion
  idempotencyKey := req.idempotencyKey
  createdAtUnixMS := req.createdAtUnixMS

/-- Append one event with the next sequence number.
Source: `store.go`, `Store.Append`, from `stream.head++` to the idempotency entry. -/
def push (st : StreamState) (req : AppendRequest) : StreamState where
  head := st.head + 1
  events := st.events ++ [st.nextEvent req]
  retainedSeqStart :=
    if st.retainedSeqStart = 0 ∨ st.head + 1 < st.retainedSeqStart then st.head + 1
    else st.retainedSeqStart
  idempotency :=
    if req.idempotencyKey ≠ "" then st.idempotency.insert req.idempotencyKey (st.head + 1)
    else st.idempotency

end StreamState

/-! ## The critical sections -/

namespace Store

/-- The stream, or the fresh one that `ensureStream` makes.
Source: `store.go`, `Store.ensureStream`. -/
def ensureStream (s : Store) (streamID : StreamID) : StreamState :=
  (s.streams.lookup streamID).getD {}

/-- Replace the state of one stream. -/
def setStream (s : Store) (streamID : StreamID) (st : StreamState) : Store :=
  { s with streams := s.streams.insert streamID st }

/-- Source: `store.go`, `Store.applyRetentionLocked`. -/
def applyRetentionLocked (s : Store) (now : Int) (streamID : StreamID) : Store :=
  match s.streams.lookup streamID, s.retention.lookup streamID with
  | some st, some retention => s.setStream streamID (st.applyRetention retention now)
  | _, _ => s

/-- Source: `store.go`, `Store.notifyStreamLocked`. -/
def notifyStreamLocked (s : Store) (streamID : StreamID) (head : Nat) : Store :=
  let watchers := (s.watchers.lookup streamID).getD []
  if watchers.length = 0 then s
  else
    let woken := watchers.filter fun w => w.after < head
    let kept := watchers.filter fun w => ¬ w.after < head
    { s with
      closed := (woken.map (·.ch)).reverse ++ s.closed
      watchers :=
        if kept.length = 0 then s.watchers.erase streamID else s.watchers.insert streamID kept }

/-- Source: `store.go`, `Store.removeWatcherLocked`: the removed watcher's place is taken by the
last one. -/
def removeWatcherLocked (s : Store) (streamID : StreamID) (ch : Nat) : Store :=
  let watchers := (s.watchers.lookup streamID).getD []
  let left :=
    match watchers.findIdx? (fun w => w.ch == ch), watchers.getLast? with
    | some i, some last => (watchers.set i last).dropLast
    | _, _ => watchers
  { s with
    watchers :=
      if left.length = 0 then s.watchers.erase streamID else s.watchers.insert streamID left }

/-- Source: `store.go`, `Store.Append`. -/
def append (s : Store) (now : Int) (req : AppendRequest) : Except GoError AppendResult × Store :=
  if req.streamID = "" then (.error (errInvalidArgument "stream id is required"), s)
  else
    let st := s.ensureStream req.streamID
    let s := s.setStream req.streamID st
    match (if req.idempotencyKey ≠ "" then st.idempotency.lookup req.idempotencyKey else none) with
    | some seq =>
      match st.eventBySeq seq with
      | none =>
        (.error { errTooLong with
          message := errTooLong.message ++ ": idempotent event was compacted" }, s)
      | some event => (.ok { event, deduplicated := true }, s)
    | none =>
      let s := s.setStream req.streamID (st.push req)
      let s := s.applyRetentionLocked now req.streamID
      (.ok { event := st.nextEvent req }, s.notifyStreamLocked req.streamID (st.head + 1))

/-- The critical section with which `WaitForStream` starts: `none` when the head is already past
`after`, else the channel it has registered.
Source: `store.go`, `Store.WaitForStream`. -/
def registerWatcher (s : Store) (streamID : StreamID) (after : Nat) : Option Nat × Store :=
  match s.streams.lookup streamID with
  | some st => if st.head > after then (none, s) else register
  | none => register
where
  /-- Append a watcher with a new channel. -/
  register : Option Nat × Store :=
    (some s.made,
      { s with
        made := s.made + 1
        watchers := s.watchers.insert streamID
          ((s.watchers.lookup streamID).getD [] ++ [{ after, ch := s.made }]) })

/-- Source: `store.go`, `Store.GetHead`. -/
def getHead (s : Store) (streamID : StreamID) : Except GoError StreamHead :=
  if streamID = "" then .error (errInvalidArgument "stream id is required")
  else
    match s.streams.lookup streamID with
    | none => .ok { cursor := { streamID } }
    | some st => .ok (st.headCursor streamID)

/-- Source: `store.go`, `Store.Read`. On `ErrTooLong` the callers look at nothing but the error. -/
def read (s : Store) (streamID : StreamID) (after : Nat) (limit : Int) :
    Except GoError (EventBatch × StreamHead) :=
  if streamID = "" then .error (errInvalidArgument "stream id is required")
  else
    let limit := normalizeLimit limit
    match s.streams.lookup streamID with
    | none => .ok ({ final := true }, { cursor := { streamID } })
    | some st =>
      let head := st.headCursor streamID
      if replayTooOld after head.retainedSeqStart then .error errTooLong
      else
        match st.events.findIdx? fun event => after < event.seq with
        | none => .ok ({ seq := head.cursor.seq, final := true }, head)
        | some start =>
          -- at least one event, so the last branch is not taken
          let events := (st.events.drop start).take limit
          match events.head?, events.getLast? with
          | some first, some last =>
            .ok ({ events, seqStart := first.seq, seq := last.seq,
                   final := last.seq == head.cursor.seq }, head)
          | _, _ => .ok ({ events }, head)

/-- Source: `store.go`, `Store.GetCursor`. -/
def getCursor (s : Store) (subscriberID : SubscriberID) (streamID : StreamID) :
    Except GoError SubscriberCursor :=
  if subscriberID = "" then .error (errInvalidArgument "subscriber id is required")
  else if streamID = "" then .error (errInvalidArgument "stream id is required")
  else
    match s.cursors.lookup ⟨subscriberID, streamID⟩ with
    | some cursor => .ok cursor
    | none => .ok { subscriberID, cursor := { streamID } }

/-- Source: `store.go`, `Store.Ack`. -/
def ack (s : Store) (req : AckRequest) : Except GoError SubscriberCursor × Store :=
  if req.subscriberID = "" then (.error (errInvalidArgument "subscriber id is required"), s)
  else if req.streamID = "" then (.error (errInvalidArgument "stream id is required"), s)
  else
    let key : CursorKey := ⟨req.subscriberID, req.streamID⟩
    let stored := (s.cursors.lookup key).getD {}
    let cursor : SubscriberCursor :=
      if stored.subscriberID = "" then
        { subscriberID := req.subscriberID, cursor := { streamID := req.streamID } }
      else stored
    if req.seq > cursor.cursor.seq then
      let cursor : SubscriberCursor :=
        { cursor with cursor := { cursor.cursor with seq := req.seq }, metadata := req.metadata }
      (.ok cursor, { s with cursors := s.cursors.insert key cursor })
    else (.ok cursor, s)

/-- Source: `store.go`, `Store.CreateStream`. -/
def createStream (s : Store) (streamID : StreamID) : Except GoError StreamID × Store :=
  if streamID = "" then (.error (errInvalidArgument "stream id is required"), s)
  else (.ok streamID, s.setStream streamID (s.ensureStream streamID))

/-- Source: `store.go`, `Store.DeleteStream`. The answer says whether the stream existed. -/
def deleteStream (s : Store) (streamID : StreamID) : Except GoError Bool × Store :=
  if streamID = "" then (.error (errInvalidArgument "stream id is required"), s)
  else
    (.ok (s.streams.lookup streamID).isSome,
      { s with
        streams := s.streams.erase streamID
        retention := s.retention.erase streamID
        cursors := s.cursors.keep fun key => key.streamID ≠ streamID
        snapshots := s.snapshots.keep fun key => key.streamID ≠ streamID })

/-- Source: `store.go`, `Store.ResetCursor`. -/
def resetCursor (s : Store) (subscriberID : SubscriberID) (streamID : StreamID) (seq : Nat)
    (metadata : String) : Except GoError SubscriberCursor × Store :=
  if subscriberID = "" then (.error (errInvalidArgument "subscriber id is required"), s)
  else if streamID = "" then (.error (errInvalidArgument "stream id is required"), s)
  else
    let cursor : SubscriberCursor := { subscriberID, cursor := { streamID, seq }, metadata }
    (.ok cursor, { s with cursors := s.cursors.insert ⟨subscriberID, streamID⟩ cursor })

/-- The number of removed events is the answer.
Source: `store.go`, `Store.TruncateBefore`, `Store.TruncateStream`. -/
def truncateBefore (s : Store) (streamID : StreamID) (before : Nat) : Except GoError Nat × Store :=
  if streamID = "" then (.error (errInvalidArgument "stream id is required"), s)
  else
    match s.streams.lookup streamID with
    | none => (.ok 0, s)
    | some st =>
      (.ok (st.keepFrom before), s.setStream streamID (st.dropFront (st.keepFrom before)))

/-- Source: `store.go`, `Store.CompactStream`, the body of the loop over the cursors. -/
def minStep (streamID : StreamID) (minSeq : Option Nat)
    (e : Sigma fun _ : CursorKey => SubscriberCursor) : Option Nat :=
  if e.1.streamID = streamID then
    match minSeq with
    | none => some e.2.cursor.seq
    | some m => if e.2.cursor.seq < m then some e.2.cursor.seq else some m
  else minSeq

/-- The first critical section of `CompactStream`: the smallest cursor stored for the stream, if
there is one.
Source: `store.go`, `Store.CompactStream`. -/
def minCursor (s : Store) (streamID : StreamID) : Option Nat :=
  s.cursors.entries.foldl (minStep streamID) none

/-- The bound with which `CompactStream` truncates, in 64-bit arithmetic.
Source: `store.go`, `Store.CompactStream`, `minSeq+1`. -/
def compactBound (minSeq : Nat) : Nat := (minSeq + 1) % 2 ^ 64

/-- The two critical sections of `CompactStream`, one right after the other.
Source: `store.go`, `Store.CompactStream`. -/
def compactStream (s : Store) (streamID : StreamID) : Except GoError Unit × Store :=
  if streamID = "" then (.error (errInvalidArgument "stream id is required"), s)
  else
    match s.minCursor streamID with
    | none => (.ok (), s)
    | some minSeq =>
      if minSeq > 0 then
        match s.truncateBefore streamID (compactBound minSeq) with
        | (.error err, s) => (.error err, s)
        | (.ok _, s) => (.ok (), s)
      else (.ok (), s)

/-- Source: `store.go`, `Store.SetStreamRetention`. -/
def setStreamRetention (s : Store) (now : Int) (retention : StreamRetention) :
    Except GoError StreamRetention × Store :=
  if retention.streamID = "" then (.error (errInvalidArgument "stream id is required"), s)
  else
    let s := { s with retention := s.retention.insert retention.streamID retention }
    (.ok retention, s.applyRetentionLocked now retention.streamID)

end Store

end Synclog.Memory
