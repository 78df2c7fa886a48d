import Synclog.Gateway.Registry
import Synclog.Memory.Sections

/-!
# The methods of the raw server

The unary methods of `pkg/synclog/transport/grpc/server.go`, in front of the memory store. A method
of the log service goes through the core engine; one of the snapshot or the admin service goes
straight to the store, if the server has been given it for that purpose. A request is a program over
the sections of the store, so that others come between any two of its sections.

`RawServer.answer` is the method that a request asks for. The live stream of the server,
`Server.Subscribe`, is in `Synclog.Transport.Subscribe`.
-/

namespace Synclog.Transport

open Synclog.Lib Synclog.Core Synclog.Memory Synclog.Gateway

/-! ## Requests and responses -/

/-- The requests of the three services; a request of gRPC is never missing. The first argument of a
listing is the order in which the loop of the store visits its map.
Source: `service.proto`, `snapshot.proto`, `admin.proto`. -/
inductive RawRequest
  | append (streamId : StreamID) (payload : Bytes) (payloadType : String) (payloadVersion : Nat)
      (idempotencyKey : String)
  | getHead (streamId : StreamID)
  | getCursor (subscriberId : SubscriberID) (streamId : StreamID)
  | catchUp (subscriberId : SubscriberID) (streamId : StreamID) (limit totalLimit : Nat)
  | ack (subscriberId : SubscriberID) (streamId : StreamID) (seq : Nat) (metadata : String)
  | putSnapshot (req : PutSnapshotRequest)
  | getLatestSnapshot (streamId : StreamID) (payloadType : String) (maxPayloadVersion : Nat)
  | getSnapshot (key : SnapshotKey)
  | listSnapshots (order : List SnapshotKey) (streamId : StreamID) (payloadType : String)
      (limit : Nat)
  | deleteSnapshot (key : SnapshotKey)
  | createStream (streamId : StreamID)
  | deleteStream (streamId : StreamID)
  | listStreams (order : List StreamID) (pre : String) (limit : Nat)
  | truncateStream (streamId : StreamID) (beforeSeq : Nat)
  | compactStream (streamId : StreamID)
  | setStreamRetention (retention : Option StreamRetention)
  | resetCursor (subscriberId : SubscriberID) (streamId : StreamID) (seq : Nat) (metadata : String)
  | listCursors (order : List CursorKey) (streamId : StreamID)
  | getStreamStats (streamId : StreamID)

/-- Source: `admin.proto`, `JobState`. -/
inductive JobState
  | none
  | pending
  | running
  | done
  | failed
  deriving DecidableEq, Repr

/-- The responses. A listing is `none` when its map has no such order. -/
inductive RawResponse
  | appended (seq : Nat) (deduplicated : Bool)
  | head (head : Cursor) (retainedSeqStart : Nat)
  | position (cursor head : Cursor)
  | caughtUp (status : CatchUpStatus) (batch : EventBatch) (cursor head : Cursor)
      (retainedSeqStart : Nat)
  | put (snapshot : SnapshotRef) (deduplicated : Bool)
  | snapshot (snapshot : Snapshot)
  | snapshots (snapshots : Option (List SnapshotRef))
  | deleted (deleted : Bool)
  | stream (id : StreamID)
  | streams (streams : Option (List StreamID))
  | removed (removed : Nat)
  | job (jobId : String) (state : JobState)
  | retention (retention : StreamRetention)
  | cursor (cursor : SubscriberCursor)
  | cursors (cursors : Option (List SubscriberCursor))
  | stats (stats : StreamStats)
  deriving DecidableEq, Repr

/-! ## Errors -/

/-- Source: `synclog/transport/grpc/server.go`, `toStatusError`. -/
def rawStatusError (err : GoError) : GoError :=
  if err.status.isSome then err
  else if err.is .invalidArgument then statusError .invalidArgument err.message
  else if err.is .notFound then statusError .notFound err.message
  else if err.is .tooLong then statusError .failedPrecondition err.message
  else if err.is .canceled then statusError .canceled err.message
  else if err.is .deadlineExceeded then statusError .deadlineExceeded err.message
  else statusError .internal err.message

/-- A program over the sections of the store that may fail. -/
abbrev StoreProg (α : Type) := ExceptT GoError (Prog StoreSection) α

/-- The error of a program becomes a status. -/
def withStatus {α : Type} (p : StoreProg α) : StoreProg α :=
  ExceptT.mk (p.run.bind fun r => .ret (r.mapError rawStatusError))

/-! ## The store behind the server -/

/-- What the clocks read while a request is served: the engine's, in milliseconds, and the store's,
in nanoseconds. -/
structure Clocks where
  engine : Int
  store : Int

/-- A method of an engine, in front of the store. -/
def onStore {α : Type} (now : Int) (p : ServerProg α) : StoreProg α :=
  ExceptT.mk (p.run.embed (sectionOf now))

/-- A method of the store. -/
def storeMethod {α : Type} (c : StoreMethod (Except GoError α)) : StoreProg α :=
  Prog.performE (.inl c)

/-! ## The methods -/

/-- What the server has been given besides the engine: the store, as one of these or as several.
Source: `server.go`, `Server`. -/
structure RawServer where
  snapshots : Bool := false
  snapshotAdmin : Bool := false
  streamRegistry : Bool := false
  streamAdmin : Bool := false
  cursorAdmin : Bool := false
  deriving DecidableEq, Repr

namespace RawServer

/-- The error of a method of a service that the server has no store for. -/
def notConfigured (what : String) : GoError :=
  statusError .unimplemented (what ++ " is not configured")

/-- A method of the store, if the server has been given it. The methods of the snapshot and the
admin service are all of this form. -/
def delegate {α : Type} (given : Bool) (what : String) (p : StoreProg α) : StoreProg α :=
  if given then withStatus p else throw (notConfigured what)

variable (srv : RawServer) (clocks : Clocks)

/-- Source: `server.go`, `Server.Append`. -/
def append (streamId : StreamID) (payload : Bytes) (payloadType : String) (payloadVersion : Nat)
    (idempotencyKey : String) : StoreProg RawResponse := do
  let result ← withStatus (onStore clocks.store (Engine.append clocks.engine
    { streamID := streamId, payload, payloadType, payloadVersion, idempotencyKey }))
  return .appended result.event.seq result.deduplicated

/-- Source: `server.go`, `Server.GetHead`. -/
def getHead (streamId : StreamID) : StoreProg RawResponse := do
  let head ← withStatus (onStore clocks.store (Engine.getHead streamId))
  return .head head.cursor head.retainedSeqStart

/-- Source: `server.go`, `Server.GetCursor`. -/
def getCursor (subscriberId : SubscriberID) (streamId : StreamID) : StoreProg RawResponse := do
  let cursor ← withStatus (onStore clocks.store (Engine.getCursor subscriberId streamId))
  let head ← withStatus (onStore clocks.store (Engine.getHead streamId))
  return .position cursor.cursor head.cursor

/-- Source: `server.go`, `Server.CatchUp`, `toPBCatchUpResponse`. -/
def catchUp (subscriberId : SubscriberID) (streamId : StreamID) (limit totalLimit : Nat) :
    StoreProg RawResponse := do
  let result ← withStatus (onStore clocks.store (Engine.catchUp
    { subscriberID := subscriberId, streamID := streamId, limit, totalLimit }))
  return .caughtUp result.status result.batch result.cursor result.head.cursor
    result.retainedSeqStart

/-- Source: `server.go`, `Server.Ack`. -/
def ack (subscriberId : SubscriberID) (streamId : StreamID) (seq : Nat) (metadata : String) :
    StoreProg RawResponse := do
  let result ← withStatus (onStore clocks.store (Engine.ack
    { subscriberID := subscriberId, streamID := streamId, seq, metadata }))
  return .position result.cursor.cursor result.head.cursor

/-- Source: `server.go`, `Server.PutSnapshot`. -/
def putSnapshot (req : PutSnapshotRequest) : StoreProg RawResponse :=
  delegate srv.snapshots "snapshot store" do
    let (snapshot, deduplicated) ← storeMethod (.putSnapshot req)
    return .put snapshot deduplicated

/-- Source: `server.go`, `Server.GetLatestSnapshot`. -/
def getLatestSnapshot (streamId : StreamID) (payloadType : String) (maxPayloadVersion : Nat) :
    StoreProg RawResponse :=
  delegate srv.snapshots "snapshot store" do
    let snapshot ← storeMethod (.getLatestSnapshot streamId payloadType maxPayloadVersion)
    return .snapshot snapshot

/-- Source: `server.go`, `Server.GetSnapshot`. -/
def getSnapshot (key : SnapshotKey) : StoreProg RawResponse :=
  delegate srv.snapshots "snapshot store" do
    let snapshot ← storeMethod (.getSnapshot key)
    return .snapshot snapshot

/-- Source: `server.go`, `Server.ListSnapshots`. -/
def listSnapshots (order : List SnapshotKey) (streamId : StreamID) (payloadType : String)
    (limit : Nat) : StoreProg RawResponse :=
  delegate srv.snapshotAdmin "snapshot admin" do
    let snapshots ← storeMethod (.listSnapshots order streamId payloadType limit)
    return .snapshots snapshots

/-- Source: `server.go`, `Server.DeleteSnapshot`. -/
def deleteSnapshot (key : SnapshotKey) : StoreProg RawResponse :=
  delegate srv.snapshotAdmin "snapshot admin" do
    let deleted ← storeMethod (.deleteSnapshot key)
    return .deleted deleted

/-- Source: `server.go`, `Server.CreateStream`. -/
def createStream (streamId : StreamID) : StoreProg RawResponse :=
  delegate srv.streamRegistry "stream registry" do
    let id ← storeMethod (.createStream streamId)
    return .stream id

/-- Source: `server.go`, `Server.DeleteStream`. -/
def deleteStream (streamId : StreamID) : StoreProg RawResponse :=
  delegate srv.streamRegistry "stream registry" do
    let deleted ← storeMethod (.deleteStream streamId)
    return .deleted deleted

/-- The listing of the store does not fail.
Source: `server.go`, `Server.ListStreams`. -/
def listStreams (order : List StreamID) (pre : String) (limit : Nat) : StoreProg RawResponse :=
  delegate srv.streamRegistry "stream registry" do
    let streams ← ExceptT.lift (Prog.perform (.inl (.listStreams order pre limit)))
    return .streams streams

/-- Source: `server.go`, `Server.TruncateStream`; `store.go`, `Store.TruncateStream`. -/
def truncateStream (streamId : StreamID) (beforeSeq : Nat) : StoreProg RawResponse :=
  delegate srv.streamAdmin "stream admin" do
    let removed ← storeMethod (.truncateBefore streamId beforeSeq)
    return .removed removed

/-- Source: `server.go`, `Server.CompactStream`; `store.go`, `Store.CompactStream`. -/
def compactStream (streamId : StreamID) : StoreProg RawResponse :=
  delegate srv.streamAdmin "stream admin" do
    ExceptT.mk (compactSections streamId)
    return .job ("memory-compact:" ++ streamId) .done

/-- Source: `server.go`, `Server.SetStreamRetention`; `store.go`, `Store.SetStreamRetention`, with
its first check. -/
def setStreamRetention (retention : Option StreamRetention) : StoreProg RawResponse :=
  delegate srv.streamAdmin "stream admin" do
    match retention with
    | none => throw (errInvalidArgument "stream retention is required")
    | some retention =>
      let retention ← storeMethod (.setStreamRetention clocks.store retention)
      return .retention retention

/-- Source: `server.go`, `Server.ResetCursor`. -/
def resetCursor (subscriberId : SubscriberID) (streamId : StreamID) (seq : Nat)
    (metadata : String) : StoreProg RawResponse :=
  delegate srv.cursorAdmin "cursor admin" do
    let cursor ← storeMethod (.resetCursor subscriberId streamId seq metadata)
    return .cursor cursor

/-- Source: `server.go`, `Server.ListCursors`. -/
def listCursors (order : List CursorKey) (streamId : StreamID) : StoreProg RawResponse :=
  delegate srv.cursorAdmin "cursor admin" do
    let cursors ← storeMethod (.listCursors order streamId)
    return .cursors cursors

/-- Source: `server.go`, `Server.GetStreamStats`. -/
def getStreamStats (streamId : StreamID) : StoreProg RawResponse :=
  delegate srv.streamAdmin "stream admin" do
    let stats ← storeMethod (.getStreamStats streamId)
    return .stats stats

/-- The method that a request asks for. -/
def answer : RawRequest → StoreProg RawResponse
  | .append streamId payload payloadType payloadVersion idempotencyKey =>
    append clocks streamId payload payloadType payloadVersion idempotencyKey
  | .getHead streamId => getHead clocks streamId
  | .getCursor subscriberId streamId => getCursor clocks subscriberId streamId
  | .catchUp subscriberId streamId limit totalLimit =>
    catchUp clocks subscriberId streamId limit totalLimit
  | .ack subscriberId streamId seq metadata => ack clocks subscriberId streamId seq metadata
  | .putSnapshot req => putSnapshot srv req
  | .getLatestSnapshot streamId payloadType maxPayloadVersion =>
    getLatestSnapshot srv streamId payloadType maxPayloadVersion
  | .getSnapshot key => getSnapshot srv key
  | .listSnapshots order streamId payloadType limit =>
    listSnapshots srv order streamId payloadType limit
  | .deleteSnapshot key => deleteSnapshot srv key
  | .createStream streamId => createStream srv streamId
  | .deleteStream streamId => deleteStream srv streamId
  | .listStreams order pre limit => listStreams srv order pre limit
  | .truncateStream streamId beforeSeq => truncateStream srv streamId beforeSeq
  | .compactStream streamId => compactStream srv streamId
  | .setStreamRetention retention => setStreamRetention srv clocks retention
  | .resetCursor subscriberId streamId seq metadata =>
    resetCursor srv subscriberId streamId seq metadata
  | .listCursors order streamId => listCursors srv order streamId
  | .getStreamStats streamId => getStreamStats srv streamId

end RawServer

end Synclog.Transport
