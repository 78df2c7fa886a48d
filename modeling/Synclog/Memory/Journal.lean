import Mathlib.Data.Set.Card
import Mathlib.Order.Lattice.Nat
import Synclog.Memory.Deletion
import Synclog.Memory.Reads
import Synclog.Memory.Sections

/-!
# What the memory store is for

A `Journal` says what the store is for, without the means by which
`internal/storage/memory/store.go` does it: under each stream id a log that remembers every event it
ever got and how many of them are forgotten, partial maps for cursors, snapshots and retention, and
who waits for what. There is no index of the idempotency keys, no stored boundary, no order of
iteration and no channel.

* `Journal.append` — the next seq, unless the key is in the log already; then retention forgets, and
  whoever waits for less is woken.
* `Journal.forget`, `Journal.compact` — forget up to a seq; up to the smallest cursor.
* `Journal.latest` — the stored snapshot of the greatest rank.
* `journal`, `journalSections` — the handlers that answer every method of the store, and every
  section of one, from the journal.

That the store answers as the journal does is `Synclog.Memory.Simulation`.
-/

namespace Synclog.Memory

open Synclog.Lib Synclog.Core

/-- The logs of the streams, and what is remembered about subscribers, snapshots, retention and
waiting calls. -/
structure Journal where
  logs : StreamID → Option (TrimmedLog Event) := fun _ => none
  cursors : CursorKey → Option SubscriberCursor := fun _ => none
  snapshots : SnapshotKey → Option Snapshot := fun _ => none
  retention : StreamID → Option StreamRetention := fun _ => none
  /-- The seqs behind which calls wait on a stream. -/
  waiting : StreamID → List Nat := fun _ => []

namespace Journal

variable (J : Journal)

/-! ## Logs -/

/-- The log of a stream; a stream that does not exist has the empty one. -/
def logOf (id : StreamID) : TrimmedLog Event := (J.logs id).getD .empty

/-- Replace the log of one stream. -/
def setLog (id : StreamID) (L : TrimmedLog Event) : Journal :=
  { J with logs := Function.update J.logs id (some L) }

/-- The first event of a log with an idempotency key; the empty key is none. -/
def firstWith (L : TrimmedLog Event) (key : String) : Option Event :=
  if key = "" then none else L.all.find? fun event => event.idempotencyKey == key

/-- The event that a request makes. -/
def eventFor (req : AppendRequest) (seq : Nat) : Event where
  streamID := req.streamID
  seq
  payload := req.payload
  payloadType := req.payloadType
  payloadVersion := req.payloadVersion
  idempotencyKey := req.idempotencyKey
  createdAtUnixMS := req.createdAtUnixMS

/-- How many of the oldest events have a timestamp before the cutoff. -/
def expired (events : List Event) (retention : StreamRetention) (now : Int) : Nat :=
  if retention.ttlDays > 0 then
    (events.takeWhile fun event => 0 < event.createdAtUnixMS &&
      event.createdAtUnixMS < StreamState.cutoffMS now retention.ttlDays).length
  else 0

/-- How many events exceed the bound on their number. -/
def overflowing (events : List Event) (retention : StreamRetention) : Nat :=
  if retention.maxEvents > 0 then events.length - retention.maxEvents.toNat else 0

/-- Retention forgets what is expired, and what exceeds the bound. -/
def keeping (retention : Option StreamRetention) (now : Int) (L : TrimmedLog Event) :
    TrimmedLog Event :=
  match retention with
  | none => L
  | some retention =>
    L.trim (max (expired L.retained retention now) (overflowing L.retained retention))

/-- The retention of a stream is applied to its log. -/
def retain (now : Int) (id : StreamID) : Journal :=
  { J with logs := Function.update J.logs id ((J.logs id).map (keeping (J.retention id) now)) }

/-- Nobody waits for less than the head any longer. -/
def wake (id : StreamID) (head : Nat) : Journal :=
  { J with
    waiting := Function.update J.waiting id ((J.waiting id).filter fun after => ¬ after < head) }

/-- An event with the next seq, unless the log has one with the key already. -/
def append (now : Int) (req : AppendRequest) : Except GoError AppendResult × Journal :=
  if req.streamID = "" then (.error (errInvalidArgument "stream id is required"), J)
  else
    let L := J.logOf req.streamID
    match firstWith L req.idempotencyKey with
    | some event =>
      if L.base < event.seq then (.ok { event, deduplicated := true }, J)
      else
        (.error { errTooLong with
          message := errTooLong.message ++ ": idempotent event was compacted" }, J)
    | none =>
      let event := eventFor req (L.head + 1)
      (.ok { event },
        ((J.setLog req.streamID (L.append event)).retain now req.streamID).wake req.streamID
          (L.head + 1))

/-- The next events behind a seq, or that some of them are forgotten. -/
def read (id : StreamID) (after : Nat) (limit : Int) : Except GoError (EventBatch × StreamHead) :=
  if id = "" then .error (errInvalidArgument "stream id is required")
  else if after < (J.logOf id).base then .error errTooLong
  else .ok (batchAfter (J.logOf id) after (normalizeLimit limit), headOf id (J.logOf id))

/-- The head of the log. -/
def getHead (id : StreamID) : Except GoError StreamHead :=
  if id = "" then .error (errInvalidArgument "stream id is required")
  else .ok (headOf id (J.logOf id))

/-- An empty log, unless there is one. -/
def createStream (id : StreamID) : Except GoError StreamID × Journal :=
  if id = "" then (.error (errInvalidArgument "stream id is required"), J)
  else (.ok id, J.setLog id (J.logOf id))

/-- Everything about a stream is dropped, but for the calls that wait for it. -/
def deleteStream (id : StreamID) : Except GoError Bool × Journal :=
  if id = "" then (.error (errInvalidArgument "stream id is required"), J)
  else
    (.ok (J.logs id).isSome,
      { J with
        logs := Function.update J.logs id none
        retention := Function.update J.retention id none
        cursors := fun key => if key.streamID = id then none else J.cursors key
        snapshots := fun key => if key.streamID = id then none else J.snapshots key })

/-- Forget the events with a seq up to `n`. -/
def forget (id : StreamID) (n : Nat) : Journal :=
  { J with logs := Function.update J.logs id ((J.logs id).map (·.forgetTo n)) }

/-- Forget the events below a seq; the answer is how many these are. -/
def truncateBefore (id : StreamID) (before : Nat) : Except GoError Nat × Journal :=
  if id = "" then (.error (errInvalidArgument "stream id is required"), J)
  else
    (.ok (((J.logOf id).forgetTo (before - 1)).base - (J.logOf id).base), J.forget id (before - 1))

/-- The seqs of the cursors on a stream. -/
def cursorSeqs (id : StreamID) : Set Nat :=
  {seq | ∃ key cursor, J.cursors key = some cursor ∧ key.streamID = id ∧ cursor.cursor.seq = seq}

open Classical in
/-- The smallest of these. -/
noncomputable def minCursor (id : StreamID) : Option Nat :=
  if (J.cursorSeqs id).Nonempty then some (sInf (J.cursorSeqs id)) else none

/-- Forget what every cursor on the stream has behind it. The bound is a 64-bit number. -/
noncomputable def compact (id : StreamID) : Except GoError Unit × Journal :=
  if id = "" then (.error (errInvalidArgument "stream id is required"), J)
  else if 0 < sInf (J.cursorSeqs id) then
    (.ok (), J.forget id (Store.compactBound (sInf (J.cursorSeqs id)) - 1))
  else (.ok (), J)

/-- The bounds of a stream apply at once. -/
def setStreamRetention (now : Int) (retention : StreamRetention) :
    Except GoError StreamRetention × Journal :=
  if retention.streamID = "" then (.error (errInvalidArgument "stream id is required"), J)
  else
    (.ok retention,
      { J with retention := Function.update J.retention retention.streamID (some retention) }.retain
        now retention.streamID)

/-! ## Waiting -/

/-- A call waits, unless the head is past its seq. -/
def waitForStream (id : StreamID) (after : Nat) : Except GoError Bool × Journal :=
  if id = "" then (.error (errInvalidArgument "stream id is required"), J)
  else if after < (J.logOf id).head then (.ok false, J)
  else (.ok true, { J with waiting := Function.update J.waiting id (J.waiting id ++ [after]) })

/-- The `i`-th call on the stream gives up. -/
def giveUp (id : StreamID) (i : Nat) : Journal :=
  { J with waiting := Function.update J.waiting id (Store.swapOut (J.waiting id) i) }

/-! ## Cursors -/

/-- The cursor of a subscriber on a stream. -/
def cursorOf (subscriberID : SubscriberID) (id : StreamID) : SubscriberCursor :=
  (J.cursors ⟨subscriberID, id⟩).getD { subscriberID, cursor := { streamID := id } }

/-- The answer about a subscriber and a stream that both have a name. -/
def named {α : Type} (subscriberID : SubscriberID) (id : StreamID) (r : Except GoError α) :
    Except GoError α :=
  if subscriberID = "" then .error (errInvalidArgument "subscriber id is required")
  else if id = "" then .error (errInvalidArgument "stream id is required")
  else r

/-- The cursor of the subscriber. -/
def getCursor (subscriberID : SubscriberID) (id : StreamID) : Except GoError SubscriberCursor :=
  named subscriberID id (.ok (J.cursorOf subscriberID id))

/-- Put a cursor. -/
def setCursor (subscriberID : SubscriberID) (id : StreamID) (cursor : SubscriberCursor) : Journal :=
  { J with cursors := Function.update J.cursors ⟨subscriberID, id⟩ (some cursor) }

/-- The cursor moves up, never down. -/
def ack (req : AckRequest) : Except GoError SubscriberCursor × Journal :=
  if req.subscriberID = "" ∨ req.streamID = "" then
    (named req.subscriberID req.streamID (.ok {}), J)
  else
    let cursor := J.cursorOf req.subscriberID req.streamID
    if cursor.cursor.seq < req.seq then
      let moved : SubscriberCursor :=
        { cursor with cursor := { cursor.cursor with seq := req.seq }, metadata := req.metadata }
      (.ok moved, J.setCursor req.subscriberID req.streamID moved)
    else (.ok cursor, J)

/-- The cursor is put where the request has it. -/
def resetCursor (subscriberID : SubscriberID) (id : StreamID) (seq : Nat) (metadata : String) :
    Except GoError SubscriberCursor × Journal :=
  if subscriberID = "" ∨ id = "" then (named subscriberID id (.ok {}), J)
  else
    let cursor : SubscriberCursor := { subscriberID, cursor := { streamID := id, seq }, metadata }
    (.ok cursor, J.setCursor subscriberID id cursor)

/-! ## Snapshots -/

/-- Put a snapshot under its key, unless one with the checksum is there. -/
def putSnapshot (req : PutSnapshotRequest) : Except GoError (SnapshotRef × Bool) × Journal :=
  match Store.checkSnapshotKey req.streamID req.payloadType with
  | .error err => (.error err, J)
  | .ok () =>
    match (J.snapshots (Store.snapshotKeyOf req)).filter (·.ref.checksum = req.checksum) with
    | some existing => (.ok (existing.ref, true), J)
    | none =>
      (.ok ((Store.newSnapshot req).ref, false),
        { J with
          snapshots := Function.update J.snapshots (Store.snapshotKeyOf req)
            (some (Store.newSnapshot req)) })

/-- The snapshot under a key. -/
def getSnapshot (key : SnapshotKey) : Except GoError Snapshot :=
  match Store.checkSnapshotKey key.streamID key.payloadType with
  | .error err => .error err
  | .ok () => (J.snapshots key).elim (.error errNotFound) .ok

/-- The snapshots of a stream and a payload type within a bound on the version. -/
def eligible (id : StreamID) (payloadType : String) (maxPayloadVersion : Nat) : Set Snapshot :=
  {snapshot | ∃ key, J.snapshots key = some snapshot ∧ key.streamID = id ∧
    key.payloadType = payloadType ∧
    (maxPayloadVersion = 0 ∨ key.payloadVersion ≤ maxPayloadVersion)}

open Classical in
/-- The eligible snapshot of the greatest rank. -/
noncomputable def latest (id : StreamID) (payloadType : String) (maxPayloadVersion : Nat) :
    Except GoError Snapshot :=
  match Store.checkSnapshotKey id payloadType with
  | .error err => .error err
  | .ok () =>
    if h : ∃ snapshot ∈ J.eligible id payloadType maxPayloadVersion,
        ∀ other ∈ J.eligible id payloadType maxPayloadVersion,
          Store.rank other ≤ Store.rank snapshot
    then .ok h.choose
    else .error errNotFound

/-- There is no snapshot under the key any longer; the answer says whether there was one. -/
def deleteSnapshot (key : SnapshotKey) : Except GoError Bool × Journal :=
  match Store.checkSnapshotKey key.streamID key.payloadType with
  | .error err => (.error err, J)
  | .ok () =>
    (.ok (J.snapshots key).isSome, { J with snapshots := Function.update J.snapshots key none })

/-! ## Listings and statistics -/

/-- The streams whose id begins with `pre`. -/
noncomputable def listStreams (order : List StreamID) (pre : String) (limit : Int) :
    Option (List StreamID) :=
  (FinMap.visits J.logs order).map fun entries =>
    ((entries.map (·.1)).filter fun id => pre = "" || Store.hasPrefix id pre).take
      (Store.listLimit limit)

/-- The cursors on a stream. -/
noncomputable def listCursors (order : List CursorKey) (id : StreamID) :
    Except GoError (Option (List SubscriberCursor)) :=
  if id = "" then .error (errInvalidArgument "stream id is required")
  else
    .ok ((FinMap.visits J.cursors order).map fun entries =>
      (entries.filter fun e => e.1.streamID = id).map (·.2))

/-- The references of the snapshots of a stream. -/
noncomputable def listSnapshots (order : List SnapshotKey) (id : StreamID) (payloadType : String)
    (limit : Int) : Except GoError (Option (List SnapshotRef)) :=
  if id = "" then .error (errInvalidArgument "stream id is required")
  else
    .ok ((FinMap.visits J.snapshots order).map fun entries =>
      ((entries.filter fun e => e.1.streamID = id &&
        (payloadType = "" || e.1.payloadType = payloadType)).map (·.2.ref)).take
          (Store.listLimit limit))

/-- Counts of what the log retains and of the subscribers that have a cursor. -/
noncomputable def getStreamStats (id : StreamID) : Except GoError StreamStats :=
  if id = "" then .error (errInvalidArgument "stream id is required")
  else
    .ok
      { streamID := id
        eventCount := (J.logOf id).head - (J.logOf id).base
        headSeq := (J.logOf id).head
        sizeBytes := ((J.logOf id).retained.map fun event => event.payload.length).sum
        subscriberCount := {subscriberID | (J.cursors ⟨subscriberID, id⟩).isSome}.ncard }

/-! ## What an update leaves alone -/

/-- The log of one stream is set. -/
theorem logs_setLog (id : StreamID) (L : TrimmedLog Event) (u : StreamID) :
    (J.setLog id L).logs u = if u = id then some L else J.logs u := Function.update_apply ..

/-- Retention trims the log of one stream. -/
theorem logs_retain (now : Int) (id u : StreamID) :
    (J.retain now id).logs u =
      if u = id then (J.logs id).map (keeping (J.retention id) now) else J.logs u :=
  Function.update_apply ..

/-- Events of one stream are forgotten. -/
theorem logs_forget (id : StreamID) (n : Nat) (u : StreamID) :
    (J.forget id n).logs u =
      if u = id then (J.logs id).map (·.forgetTo n) else J.logs u := Function.update_apply ..

/-- A notification wakes those of its stream who wait for less. -/
theorem waiting_wake (id : StreamID) (head : Nat) (u : StreamID) :
    (J.wake id head).waiting u =
      if u = id then (J.waiting id).filter fun after => ¬ after < head else J.waiting u :=
  Function.update_apply ..

/-- One of those who wait for the stream is taken out. -/
theorem waiting_giveUp (id : StreamID) (i : Nat) (u : StreamID) :
    (J.giveUp id i).waiting u =
      if u = id then Store.swapOut (J.waiting id) i else J.waiting u := Function.update_apply ..

/-- One cursor is set. -/
theorem cursors_setCursor (subscriberID : SubscriberID) (id : StreamID) (cursor : SubscriberCursor)
    (key : CursorKey) :
    (J.setCursor subscriberID id cursor).cursors key =
      if key = ⟨subscriberID, id⟩ then some cursor else J.cursors key := Function.update_apply ..

end Journal

/-! ## The journal as a store -/

/-- The journal as the handler of the methods. -/
noncomputable def journal : Handler StoreMethod Journal
  | _, .append now req, J => J.append now req
  | _, .waitForStream streamID after, J => J.waitForStream streamID after
  | _, .giveUp streamID i, J => ((), J.giveUp streamID i)
  | _, .getHead streamID, J => (J.getHead streamID, J)
  | _, .read streamID after limit, J => (J.read streamID after limit, J)
  | _, .getCursor subscriberID streamID, J => (J.getCursor subscriberID streamID, J)
  | _, .ack req, J => J.ack req
  | _, .createStream streamID, J => J.createStream streamID
  | _, .deleteStream streamID, J => J.deleteStream streamID
  | _, .listStreams order pre limit, J => (J.listStreams order pre limit, J)
  | _, .resetCursor subscriberID streamID seq metadata, J =>
    J.resetCursor subscriberID streamID seq metadata
  | _, .listCursors order streamID, J => (J.listCursors order streamID, J)
  | _, .truncateBefore streamID before, J => J.truncateBefore streamID before
  | _, .compactStream streamID, J => J.compact streamID
  | _, .setStreamRetention now retention, J => J.setStreamRetention now retention
  | _, .getStreamStats streamID, J => (J.getStreamStats streamID, J)
  | _, .putSnapshot req, J => J.putSnapshot req
  | _, .getLatestSnapshot streamID payloadType maxPayloadVersion, J =>
    (J.latest streamID payloadType maxPayloadVersion, J)
  | _, .getSnapshot key, J => (J.getSnapshot key, J)
  | _, .listSnapshots order streamID payloadType limit, J =>
    (J.listSnapshots order streamID payloadType limit, J)
  | _, .deleteSnapshot key, J => J.deleteSnapshot key

/-- The journal as the handler of the sections. -/
noncomputable def journalSections : Handler StoreSection Journal
  | _, .inl c, J => journal _ c J
  | _, .inr (.minCursor streamID), J => (J.minCursor streamID, J)
  | _, .inr (.truncateBefore streamID before), J => J.truncateBefore streamID before

end Synclog.Memory
