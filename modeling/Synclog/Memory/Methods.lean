import Synclog.Lib.Prog
import Synclog.Memory.Watchers

/-!
# The methods of the memory store as calls

`StoreMethod`: every method of `Store` in `internal/storage/memory/store.go`, so that a
`Prog StoreMethod` is a client of the store that decides by the answers how to go on. What is not
in the other files comes first: the listings, the statistics, and `WaitForStream` in two pieces,
the one that registers the call and the one that gives it up when its context has ended.

Go leaves the order open in which a loop visits a map. A listing has that order as an argument, and
answers `none` when the map has no such order.
-/

namespace Synclog.Memory

open Synclog.Lib Synclog.Core

/-- Source: `admin.proto`, `StreamStats`. -/
structure StreamStats where
  streamID : StreamID
  eventCount : Nat := 0
  headSeq : Nat := 0
  sizeBytes : Nat := 0
  subscriberCount : Nat := 0
  deriving DecidableEq, Repr

namespace Store

/-! ## Listings -/

/-- Source: `store.go`, `hasPrefix`. -/
def hasPrefix (value pre : String) : Bool := pre.toList.isPrefixOf value.toList

/-- The limit of a listing.
Source: `store.go`, `Store.ListStreams`, `Store.ListSnapshots`. -/
def listLimit (limit : Int) : Nat :=
  if limit ≤ 0 ∨ limit > maxLimit then maxLimit else limit.toNat

/-- Source: `store.go`, `Store.ListStreams`. -/
def listStreams (s : Store) (order : List StreamID) (pre : String) (limit : Int) :
    Option (List StreamID) :=
  (s.streams.visit order).map fun entries =>
    ((entries.map (·.1)).filter fun streamID => pre = "" || hasPrefix streamID pre).take
      (listLimit limit)

/-- Source: `store.go`, `Store.ListCursors`. -/
def listCursors (s : Store) (order : List CursorKey) (streamID : StreamID) :
    Except GoError (Option (List SubscriberCursor)) :=
  if streamID = "" then .error (errInvalidArgument "stream id is required")
  else
    .ok ((s.cursors.visit order).map fun entries =>
      (entries.filter fun e => e.1.streamID = streamID).map (·.2))

/-- Source: `store.go`, `Store.ListSnapshots`. -/
def listSnapshots (s : Store) (order : List SnapshotKey) (streamID : StreamID)
    (payloadType : String) (limit : Int) : Except GoError (Option (List SnapshotRef)) :=
  if streamID = "" then .error (errInvalidArgument "stream id is required")
  else
    .ok ((s.snapshots.visit order).map fun entries =>
      ((entries.filter fun e => e.1.streamID = streamID &&
        (payloadType = "" || e.1.payloadType = payloadType)).map (·.2.ref)).take (listLimit limit))

/-- Source: `store.go`, `Store.GetStreamStats`. -/
def getStreamStats (s : Store) (streamID : StreamID) : Except GoError StreamStats :=
  if streamID = "" then .error (errInvalidArgument "stream id is required")
  else
    let stats : StreamStats :=
      match s.streams.lookup streamID with
      | none => { streamID }
      | some st =>
        { streamID
          eventCount := st.events.length
          headSeq := st.head
          sizeBytes := (st.events.map fun event => event.payload.length).sum }
    .ok { stats with subscriberCount := s.cursors.keys.countP fun key => key.streamID = streamID }

/-! ## Waiting -/

/-- The seqs behind which the calls that are registered on a stream wait. -/
def waiting (s : Store) (streamID : StreamID) : List Nat := (s.watchersOf streamID).map (·.after)

/-- The beginning of a call whose context is alive: whether it is registered, and has to wait.
Source: `store.go`, `Store.WaitForStream`, up to the `select`. -/
def waitForStream (s : Store) (streamID : StreamID) (after : Nat) : Except GoError Bool × Store :=
  if streamID = "" then (.error (errInvalidArgument "stream id is required"), s)
  else (.ok (s.registerWatcher streamID after).1.isSome, (s.registerWatcher streamID after).2)

/-- The context of the `i`-th call that is registered on the stream has ended.
Source: `store.go`, `Store.WaitForStream`, the second case of the `select`. -/
def giveUp (s : Store) (streamID : StreamID) (i : Nat) : Store :=
  match (s.watchersOf streamID)[i]? with
  | some w => s.removeWatcherLocked streamID w.ch
  | none => s

end Store

/-! ## The calls -/

/-- The methods of the store, with the reading of the clock where they read it. -/
inductive StoreMethod : Type → Type
  | append (now : Int) (req : AppendRequest) : StoreMethod (Except GoError AppendResult)
  | waitForStream (streamID : StreamID) (after : Nat) : StoreMethod (Except GoError Bool)
  | giveUp (streamID : StreamID) (i : Nat) : StoreMethod Unit
  | getHead (streamID : StreamID) : StoreMethod (Except GoError StreamHead)
  | read (streamID : StreamID) (after : Nat) (limit : Int) :
      StoreMethod (Except GoError (EventBatch × StreamHead))
  | getCursor (subscriberID : SubscriberID) (streamID : StreamID) :
      StoreMethod (Except GoError SubscriberCursor)
  | ack (req : AckRequest) : StoreMethod (Except GoError SubscriberCursor)
  | createStream (streamID : StreamID) : StoreMethod (Except GoError StreamID)
  | deleteStream (streamID : StreamID) : StoreMethod (Except GoError Bool)
  | listStreams (order : List StreamID) (pre : String) (limit : Int) :
      StoreMethod (Option (List StreamID))
  | resetCursor (subscriberID : SubscriberID) (streamID : StreamID) (seq : Nat)
      (metadata : String) : StoreMethod (Except GoError SubscriberCursor)
  | listCursors (order : List CursorKey) (streamID : StreamID) :
      StoreMethod (Except GoError (Option (List SubscriberCursor)))
  | truncateBefore (streamID : StreamID) (before : Nat) : StoreMethod (Except GoError Nat)
  | compactStream (streamID : StreamID) : StoreMethod (Except GoError Unit)
  | setStreamRetention (now : Int) (retention : StreamRetention) :
      StoreMethod (Except GoError StreamRetention)
  | getStreamStats (streamID : StreamID) : StoreMethod (Except GoError StreamStats)
  | putSnapshot (req : PutSnapshotRequest) : StoreMethod (Except GoError (SnapshotRef × Bool))
  | getLatestSnapshot (streamID : StreamID) (payloadType : String) (maxPayloadVersion : Nat) :
      StoreMethod (Except GoError Snapshot)
  | getSnapshot (key : SnapshotKey) : StoreMethod (Except GoError Snapshot)
  | listSnapshots (order : List SnapshotKey) (streamID : StreamID) (payloadType : String)
      (limit : Int) : StoreMethod (Except GoError (Option (List SnapshotRef)))
  | deleteSnapshot (key : SnapshotKey) : StoreMethod (Except GoError Bool)

/-- The store as the handler of its methods. -/
def methods : Handler StoreMethod Store
  | _, .append now req, s => s.append now req
  | _, .waitForStream streamID after, s => s.waitForStream streamID after
  | _, .giveUp streamID i, s => ((), s.giveUp streamID i)
  | _, .getHead streamID, s => (s.getHead streamID, s)
  | _, .read streamID after limit, s => (s.read streamID after limit, s)
  | _, .getCursor subscriberID streamID, s => (s.getCursor subscriberID streamID, s)
  | _, .ack req, s => s.ack req
  | _, .createStream streamID, s => s.createStream streamID
  | _, .deleteStream streamID, s => s.deleteStream streamID
  | _, .listStreams order pre limit, s => (s.listStreams order pre limit, s)
  | _, .resetCursor subscriberID streamID seq metadata, s =>
    s.resetCursor subscriberID streamID seq metadata
  | _, .listCursors order streamID, s => (s.listCursors order streamID, s)
  | _, .truncateBefore streamID before, s => s.truncateBefore streamID before
  | _, .compactStream streamID, s => s.compactStream streamID
  | _, .setStreamRetention now retention, s => s.setStreamRetention now retention
  | _, .getStreamStats streamID, s => (s.getStreamStats streamID, s)
  | _, .putSnapshot req, s => s.putSnapshot req
  | _, .getLatestSnapshot streamID payloadType maxPayloadVersion, s =>
    (s.getLatestSnapshot streamID payloadType maxPayloadVersion, s)
  | _, .getSnapshot key, s => (s.getSnapshot key, s)
  | _, .listSnapshots order streamID payloadType limit, s =>
    (s.listSnapshots order streamID payloadType limit, s)
  | _, .deleteSnapshot key, s => s.deleteSnapshot key

/-- A call that begins registers a watcher, or nothing. -/
theorem Store.waitForStream_cases (s : Store) (streamID : StreamID) (after : Nat) :
    (s.waitForStream streamID after).2 = s ∨
      (s.waitForStream streamID after).2 = (Op.registerWatcher streamID after).apply s := by
  unfold Store.waitForStream
  split_ifs
  · exact .inl rfl
  · exact .inr rfl

/-- Giving up removes a watcher, or nothing. -/
theorem Store.giveUp_cases (s : Store) (streamID : StreamID) (i : Nat) :
    s.giveUp streamID i = s ∨
      ∃ ch, s.giveUp streamID i = (Op.removeWatcher streamID ch).apply s := by
  unfold Store.giveUp
  split
  · exact .inr ⟨_, rfl⟩
  · exact .inl rfl

/-- A method leaves the store alone, or does to it what an operation does. -/
theorem methods_cases {β : Type} (c : StoreMethod β) (s : Store) :
    (methods β c s).2 = s ∨ ∃ op : Op, (methods β c s).2 = op.apply s := by
  cases c with
  | append now req => exact .inr ⟨.append now req, rfl⟩
  | waitForStream streamID after =>
      rcases s.waitForStream_cases streamID after with hsame | hregister
      · exact .inl hsame
      · exact .inr ⟨_, hregister⟩
  | giveUp streamID i =>
      rcases s.giveUp_cases streamID i with hsame | ⟨ch, hch⟩
      · exact .inl hsame
      · exact .inr ⟨_, hch⟩
  | ack req => exact .inr ⟨.ack req, rfl⟩
  | createStream streamID => exact .inr ⟨.createStream streamID, rfl⟩
  | deleteStream streamID => exact .inr ⟨.deleteStream streamID, rfl⟩
  | resetCursor subscriberID streamID seq metadata =>
      exact .inr ⟨.resetCursor subscriberID streamID seq metadata, rfl⟩
  | truncateBefore streamID before => exact .inr ⟨.truncateBefore streamID before, rfl⟩
  | compactStream streamID => exact .inr ⟨.compactStream streamID, rfl⟩
  | setStreamRetention now retention => exact .inr ⟨.setStreamRetention now retention, rfl⟩
  | putSnapshot req => exact .inr ⟨.putSnapshot req, rfl⟩
  | deleteSnapshot key => exact .inr ⟨.deleteSnapshot key, rfl⟩
  | getHead | read | getCursor | listStreams | listCursors | getStreamStats | getLatestSnapshot
  | getSnapshot | listSnapshots => exact .inl rfl

/-- A reachable store stays reachable. -/
theorem methods_reachable {β : Type} (c : StoreMethod β) {s : Store} (hs : Reachable s) :
    Reachable (methods β c s).2 := by
  rcases methods_cases c s with hsame | ⟨op, hop⟩
  · rw [hsame]
    exact hs
  · rw [hop]
    exact hs.apply op

end Synclog.Memory
