import Mathlib.Data.Prod.Lex
import Mathlib.Logic.Relation
import Synclog.Lib.Highest
import Synclog.Memory.Store

/-!
# The memory store: snapshots, and its operations as one alphabet

The snapshot methods of `internal/storage/memory/store.go`, then `Op`: the critical sections that
show the store, so that a run of the store is a list of operations. `Reachable s` says that some
run leads from `NewStore` to `s`. Methods that only read change nothing and are not in `Op`.

`CompactStream` releases the lock between its two critical sections. `Op.compactStream` is the case
where nothing comes between them; the second section alone, with a bound computed at any earlier
time, is an `Op.truncateBefore`.
-/

namespace Synclog.Memory

open Synclog.Lib Synclog.Core

/-! ## Snapshots -/

/-- Source: `snapshot.proto`, `PutSnapshotRequest`. -/
structure PutSnapshotRequest where
  streamID : StreamID
  seq : Nat
  payload : Bytes := []
  payloadType : String
  payloadVersion : Nat := 0
  compression : Nat := 0
  checksum : String := ""
  producerID : String := ""
  deriving DecidableEq, Repr

namespace Store

/-- The two checks that every snapshot method makes first. -/
def checkSnapshotKey (streamID : StreamID) (payloadType : String) : Except GoError Unit :=
  if streamID = "" then .error (errInvalidArgument "stream id is required")
  else if payloadType = "" then .error (errInvalidArgument "payload type is required")
  else .ok ()

/-- The snapshot that `PutSnapshot` stores. -/
def newSnapshot (req : PutSnapshotRequest) : Snapshot where
  ref :=
    { streamID := req.streamID
      seq := req.seq
      payloadType := req.payloadType
      payloadVersion := req.payloadVersion
      compression := req.compression
      checksum := req.checksum
      sizeBytes := req.payload.length
      producerID := req.producerID }
  payload := req.payload

/-- The key under which `PutSnapshot` stores. -/
def snapshotKeyOf (req : PutSnapshotRequest) : SnapshotKey :=
  ⟨req.streamID, req.seq, req.payloadType, req.payloadVersion⟩

/-- The answer carries the reference and whether the put was dropped as a duplicate.
Source: `store.go`, `Store.PutSnapshot`. -/
def putSnapshot (s : Store) (req : PutSnapshotRequest) :
    Except GoError (SnapshotRef × Bool) × Store :=
  match checkSnapshotKey req.streamID req.payloadType with
  | .error err => (.error err, s)
  | .ok () =>
    let key := snapshotKeyOf req
    match s.snapshots.lookup key with
    | some existing =>
      if existing.ref.checksum = req.checksum then (.ok (existing.ref, true), s)
      else store s key
    | none => store s key
where
  /-- Store the snapshot under its key. -/
  store (s : Store) (key : SnapshotKey) : Except GoError (SnapshotRef × Bool) × Store :=
    (.ok ((newSnapshot req).ref, false),
      { s with snapshots := s.snapshots.insert key (newSnapshot req) })

/-- Whether a stored snapshot is compatible with a request.
Source: `store.go`, `Store.GetLatestSnapshot`, the two `continue`s. -/
def compatible (streamID : StreamID) (payloadType : String) (maxPayloadVersion : Nat)
    (key : SnapshotKey) : Bool :=
  key.streamID = streamID && key.payloadType = payloadType &&
    !(maxPayloadVersion > 0 && key.payloadVersion > maxPayloadVersion)

/-- Whether a snapshot replaces the best one so far: a higher seq, or the same seq and a higher
version.
Source: `store.go`, `Store.GetLatestSnapshot`. -/
def newer (snapshot latest : Snapshot) : Bool :=
  snapshot.ref.seq > latest.ref.seq ||
    (snapshot.ref.seq == latest.ref.seq &&
      snapshot.ref.payloadVersion > latest.ref.payloadVersion)

/-- Source: `store.go`, `Store.GetLatestSnapshot`, the body of the loop. -/
def latestStep (streamID : StreamID) (payloadType : String) (maxPayloadVersion : Nat)
    (latest : Option Snapshot) (e : Sigma fun _ : SnapshotKey => Snapshot) : Option Snapshot :=
  if compatible streamID payloadType maxPayloadVersion e.1 then
    match latest with
    | none => some e.2
    | some best => if newer e.2 best then some e.2 else some best
  else latest

/-- Source: `store.go`, `Store.GetLatestSnapshot`. -/
def getLatestSnapshot (s : Store) (streamID : StreamID) (payloadType : String)
    (maxPayloadVersion : Nat) : Except GoError Snapshot :=
  match checkSnapshotKey streamID payloadType with
  | .error err => .error err
  | .ok () =>
    match s.snapshots.entries.foldl (latestStep streamID payloadType maxPayloadVersion) none with
    | none => .error errNotFound
    | some latest => .ok latest

/-- Source: `store.go`, `Store.GetSnapshot`. -/
def getSnapshot (s : Store) (key : SnapshotKey) : Except GoError Snapshot :=
  match checkSnapshotKey key.streamID key.payloadType with
  | .error err => .error err
  | .ok () =>
    match s.snapshots.lookup key with
    | none => .error errNotFound
    | some snapshot => .ok snapshot

/-- The answer says whether a snapshot was deleted.
Source: `store.go`, `Store.DeleteSnapshot`. -/
def deleteSnapshot (s : Store) (key : SnapshotKey) : Except GoError Bool × Store :=
  match checkSnapshotKey key.streamID key.payloadType with
  | .error err => (.error err, s)
  | .ok () =>
    match s.snapshots.lookup key with
    | none => (.ok false, s)
    | some _ => (.ok true, { s with snapshots := s.snapshots.erase key })

/-- `PutSnapshot` leaves the store alone or stores the snapshot of its request. -/
theorem putSnapshot_cases (s : Store) (req : PutSnapshotRequest) :
    (s.putSnapshot req).2 = s ∨
      (s.putSnapshot req).2 =
        { s with snapshots := s.snapshots.insert (snapshotKeyOf req) (newSnapshot req) } := by
  unfold putSnapshot
  split
  · exact .inl rfl
  · simp only
    split
    · split_ifs
      · exact .inl rfl
      · exact .inr rfl
    · exact .inr rfl

/-- `DeleteSnapshot` leaves the store alone or removes the snapshot under the key. -/
theorem deleteSnapshot_cases (s : Store) (key : SnapshotKey) :
    (s.deleteSnapshot key).2 = s ∨
      (s.deleteSnapshot key).2 = { s with snapshots := s.snapshots.erase key } := by
  unfold deleteSnapshot
  split
  · exact .inl rfl
  · split
    · exact .inl rfl
    · exact .inr rfl

/-- A snapshot is newer by its seq, and at one seq by its version. -/
theorem newer_iff {snapshot latest : Snapshot} :
    newer snapshot latest = true ↔
      latest.ref.seq < snapshot.ref.seq ∨
        snapshot.ref.seq = latest.ref.seq ∧
          latest.ref.payloadVersion < snapshot.ref.payloadVersion := by
  simp [newer]

/-- The rank of a snapshot: its seq, then its payload version. -/
def rank (snapshot : Snapshot) : Nat ×ₗ Nat :=
  toLex (snapshot.ref.seq, snapshot.ref.payloadVersion)

/-- A snapshot is newer when its rank is higher. -/
theorem newer_iff_rank {snapshot latest : Snapshot} :
    newer snapshot latest = true ↔ rank latest < rank snapshot := by
  unfold rank
  rw [newer_iff, Prod.Lex.toLex_lt_toLex, eq_comm]

section Latest

variable (streamID : StreamID) (payloadType : String) (maxPayloadVersion : Nat)

/-- The snapshots among the entries that are compatible with a request. -/
def candidates (entries : List (Sigma fun _ : SnapshotKey => Snapshot)) : List Snapshot :=
  (entries.filter fun e => compatible streamID payloadType maxPayloadVersion e.1).map (·.2)

/-- The loop keeps the candidate with the highest rank. -/
theorem foldl_latestStep (entries : List (Sigma fun _ : SnapshotKey => Snapshot)) :
    entries.foldl (latestStep streamID payloadType maxPayloadVersion) none =
      (candidates streamID payloadType maxPayloadVersion entries).argmax rank := by
  have hstep : latestStep streamID payloadType maxPayloadVersion = fun latest e =>
      if compatible streamID payloadType maxPayloadVersion e.1 then
        List.argAux (fun x y => rank y < rank x) latest e.2
      else latest := by
    funext latest e
    unfold latestStep List.argAux
    cases latest with
    | none => rfl
    | some best => simp only [newer_iff_rank]
  unfold candidates List.argmax
  rw [hstep, List.foldl_map, List.foldl_filter]

variable {streamID payloadType maxPayloadVersion}

/-- The candidates are the compatible snapshots that are stored. -/
theorem mem_candidates {m : FinMap SnapshotKey Snapshot} {snapshot : Snapshot} :
    snapshot ∈ candidates streamID payloadType maxPayloadVersion m.entries ↔
      ∃ key, m.lookup key = some snapshot ∧
        compatible streamID payloadType maxPayloadVersion key = true := by
  simp only [candidates, List.mem_map, List.mem_filter]
  constructor
  · rintro ⟨⟨key, _⟩, ⟨hmem, hc⟩, rfl⟩
    exact ⟨key, FinMap.mem_entries_iff.mp hmem, hc⟩
  · rintro ⟨key, hkey, hc⟩
    exact ⟨⟨key, snapshot⟩, ⟨FinMap.mem_entries_iff.mpr hkey, hc⟩, rfl⟩

/-- A request that passes the checks is answered the candidate with the highest rank. -/
theorem getLatestSnapshot_eq (s : Store) (hid : streamID ≠ "") (htyped : payloadType ≠ "") :
    s.getLatestSnapshot streamID payloadType maxPayloadVersion =
      ((candidates streamID payloadType maxPayloadVersion s.snapshots.entries).argmax rank).elim
        (.error errNotFound) .ok := by
  unfold getLatestSnapshot checkSnapshotKey
  rw [if_neg hid, if_neg htyped]
  simp only [foldl_latestStep]
  cases (candidates streamID payloadType maxPayloadVersion s.snapshots.entries).argmax rank <;> rfl

/-- The latest snapshot is the candidate with the highest rank. -/
theorem getLatestSnapshot_eq_ok_iff {s : Store} (hid : streamID ≠ "") (htyped : payloadType ≠ "")
    {latest : Snapshot} :
    s.getLatestSnapshot streamID payloadType maxPayloadVersion = .ok latest ↔
      (candidates streamID payloadType maxPayloadVersion s.snapshots.entries).argmax rank =
        some latest := by
  rw [getLatestSnapshot_eq s hid htyped]
  cases (candidates streamID payloadType maxPayloadVersion s.snapshots.entries).argmax rank <;> simp

/-- A request that is answered passes the checks. -/
theorem checked_of_getLatestSnapshot {s : Store} {snapshot : Snapshot}
    (h : s.getLatestSnapshot streamID payloadType maxPayloadVersion = .ok snapshot) :
    streamID ≠ "" ∧ payloadType ≠ "" := by
  unfold getLatestSnapshot checkSnapshotKey at h
  split_ifs at h with hid htyped
  exact ⟨hid, htyped⟩

/-- What `GetLatestSnapshot` finds is a stored snapshot that is compatible. -/
theorem getLatestSnapshot_stored {s : Store} {snapshot : Snapshot}
    (h : s.getLatestSnapshot streamID payloadType maxPayloadVersion = .ok snapshot) :
    ∃ key, s.snapshots.lookup key = some snapshot ∧
      compatible streamID payloadType maxPayloadVersion key = true := by
  obtain ⟨hid, htyped⟩ := checked_of_getLatestSnapshot h
  exact mem_candidates.mp (List.argmax_mem ((getLatestSnapshot_eq_ok_iff hid htyped).mp h))

end Latest

/-! ### The smallest cursor -/

/-- The seqs of the cursors stored for a stream. -/
def storedSeqs (streamID : StreamID)
    (entries : List (Sigma fun _ : CursorKey => SubscriberCursor)) : List Nat :=
  (entries.filter fun e => e.1.streamID = streamID).map (·.2.cursor.seq)

/-- The loop keeps the smallest one. -/
theorem minCursor_eq (s : Store) (streamID : StreamID) :
    s.minCursor streamID = (storedSeqs streamID s.cursors.entries).argmin id := by
  have hstep : minStep streamID = fun minSeq e =>
      if decide (e.1.streamID = streamID) = true then
        List.argAux (fun x y => id x < id y) minSeq e.2.cursor.seq
      else minSeq := by
    funext minSeq e
    unfold minStep List.argAux
    simp only [decide_eq_true_eq]
    cases minSeq <;> rfl
  unfold minCursor storedSeqs List.argmin
  rw [hstep, List.foldl_map, List.foldl_filter]

/-- The stored seqs of a stream are those of its cursors. -/
theorem mem_storedSeqs {m : FinMap CursorKey SubscriberCursor} {streamID : StreamID} {seq : Nat} :
    seq ∈ storedSeqs streamID m.entries ↔
      ∃ key cursor, m.lookup key = some cursor ∧ key.streamID = streamID ∧
        cursor.cursor.seq = seq := by
  simp only [storedSeqs, List.mem_map, List.mem_filter, decide_eq_true_eq]
  constructor
  · rintro ⟨⟨key, cursor⟩, ⟨hmem, hkey⟩, rfl⟩
    exact ⟨key, cursor, FinMap.mem_entries_iff.mp hmem, hkey, rfl⟩
  · rintro ⟨key, cursor, hlookup, hkey, rfl⟩
    exact ⟨⟨key, cursor⟩, ⟨FinMap.mem_entries_iff.mpr hlookup, hkey⟩, rfl⟩

/-- The minimum is the least of the stored seqs. -/
theorem minCursor_eq_some_iff {s : Store} {streamID : StreamID} {minSeq : Nat} :
    s.minCursor streamID = some minSeq ↔
      minSeq ∈ storedSeqs streamID s.cursors.entries ∧
        ∀ seq ∈ storedSeqs streamID s.cursors.entries, minSeq ≤ seq := by
  have hdual : (storedSeqs streamID s.cursors.entries).argmax (OrderDual.toDual : Nat → Natᵒᵈ) =
      some minSeq ↔ _ := argmax_eq_some_iff_of_injOn fun _ _ _ _ heq => heq
  rw [minCursor_eq]
  exact hdual

/-- The smallest stored cursor of a stream does not depend on the order in which the cursors are
visited, nor on those of other streams. -/
theorem minCursor_congr {s t : Store} {streamID : StreamID}
    (h : ∀ key, key.streamID = streamID → s.cursors.lookup key = t.cursors.lookup key) :
    s.minCursor streamID = t.minCursor streamID := by
  have hmem : ∀ seq, seq ∈ storedSeqs streamID s.cursors.entries ↔
      seq ∈ storedSeqs streamID t.cursors.entries := by
    intro seq
    rw [mem_storedSeqs, mem_storedSeqs]
    refine exists_congr fun key => exists_congr fun cursor => ?_
    constructor
    · rintro ⟨hlookup, hkey, hseq⟩
      exact ⟨h key hkey ▸ hlookup, hkey, hseq⟩
    · rintro ⟨hlookup, hkey, hseq⟩
      exact ⟨h key hkey ▸ hlookup, hkey, hseq⟩
  apply Option.ext
  intro minSeq
  simp only [minCursor_eq_some_iff, hmem]

end Store

/-! ## Operations -/

/-- A critical section that changes the store. -/
inductive Op
  | append (now : Int) (req : AppendRequest)
  | ack (req : AckRequest)
  | createStream (streamID : StreamID)
  | deleteStream (streamID : StreamID)
  | resetCursor (subscriberID : SubscriberID) (streamID : StreamID) (seq : Nat) (metadata : String)
  | truncateBefore (streamID : StreamID) (before : Nat)
  | compactStream (streamID : StreamID)
  | setStreamRetention (now : Int) (retention : StreamRetention)
  | putSnapshot (req : PutSnapshotRequest)
  | deleteSnapshot (key : SnapshotKey)
  | registerWatcher (streamID : StreamID) (after : Nat)
  | removeWatcher (streamID : StreamID) (ch : Nat)

/-- The store after an operation; its answer is left out. -/
def Op.apply : Op → Store → Store
  | .append now req, s => (s.append now req).2
  | .ack req, s => (s.ack req).2
  | .createStream streamID, s => (s.createStream streamID).2
  | .deleteStream streamID, s => (s.deleteStream streamID).2
  | .resetCursor subscriberID streamID seq metadata, s =>
    (s.resetCursor subscriberID streamID seq metadata).2
  | .truncateBefore streamID before, s => (s.truncateBefore streamID before).2
  | .compactStream streamID, s => (s.compactStream streamID).2
  | .setStreamRetention now retention, s => (s.setStreamRetention now retention).2
  | .putSnapshot req, s => (s.putSnapshot req).2
  | .deleteSnapshot key, s => (s.deleteSnapshot key).2
  | .registerWatcher streamID after, s => (s.registerWatcher streamID after).2
  | .removeWatcher streamID ch, s => s.removeWatcherLocked streamID ch

/-! ## What the operations on streams leave alone -/

/-- `f` reads nothing but the cursors and the snapshots of a store. -/
def Aside {β : Type} (f : Store → β) : Prop :=
  ∀ s streams retention watchers closed made,
    f { s with streams, retention, watchers, closed, made } = f s

/-- The cursors stand aside from the streams. -/
theorem cursors_aside : Aside Store.cursors := fun _ _ _ _ _ _ => rfl

/-- The snapshots stand aside from the streams. -/
theorem snapshots_aside : Aside Store.snapshots := fun _ _ _ _ _ _ => rfl

/-- The operation is about the events of a stream, or about who waits for them. -/
def Op.OnStreams : Op → Prop
  | .append .. | .createStream _ | .truncateBefore .. | .compactStream _ | .setStreamRetention ..
  | .registerWatcher .. | .removeWatcher .. => True
  | .ack _ | .deleteStream _ | .resetCursor .. | .putSnapshot _ | .deleteSnapshot _ => False

namespace Store

variable {β : Type} {f : Store → β}

/-- Setting a stream changes nothing aside. -/
theorem setStream_aside (hf : Aside f) (s : Store) (streamID : StreamID) (st : StreamState) :
    f (s.setStream streamID st) = f s := hf s _ _ _ _ _

/-- A notification changes nothing aside. -/
theorem notifyStreamLocked_aside (hf : Aside f) (s : Store) (streamID : StreamID) (head : Nat) :
    f (s.notifyStreamLocked streamID head) = f s := by
  unfold notifyStreamLocked
  simp only
  split_ifs
  · rfl
  · exact hf s _ _ _ _ _
  · exact hf s _ _ _ _ _

/-- Retention changes nothing aside. -/
theorem applyRetentionLocked_aside (hf : Aside f) (s : Store) (now : Int) (streamID : StreamID) :
    f (s.applyRetentionLocked now streamID) = f s := by
  unfold applyRetentionLocked
  split
  · exact setStream_aside hf s _ _
  · rfl

/-- An append changes nothing aside. -/
theorem append_aside (hf : Aside f) (s : Store) (now : Int) (req : AppendRequest) :
    f (s.append now req).2 = f s := by
  unfold append
  by_cases hid : req.streamID = ""
  · rw [if_pos hid]
  · rw [if_neg hid]
    simp only
    generalize (if req.idempotencyKey ≠ "" then
      (s.ensureStream req.streamID).idempotency.lookup req.idempotencyKey else none) = found
    cases found with
    | none =>
        simp only [notifyStreamLocked_aside hf, applyRetentionLocked_aside hf, setStream_aside hf]
    | some seq =>
        simp only
        split
        · exact setStream_aside hf s _ _
        · exact setStream_aside hf s _ _

/-- A creation changes nothing aside. -/
theorem createStream_aside (hf : Aside f) (s : Store) (streamID : StreamID) :
    f (s.createStream streamID).2 = f s := by
  unfold createStream
  split_ifs
  · rfl
  · exact setStream_aside hf s _ _

/-- A truncation changes nothing aside. -/
theorem truncateBefore_aside (hf : Aside f) (s : Store) (streamID : StreamID) (before : Nat) :
    f (s.truncateBefore streamID before).2 = f s := by
  unfold truncateBefore
  split_ifs
  · rfl
  · split
    · rfl
    · exact setStream_aside hf s _ _

/-- `CompactStream` leaves the store alone or truncates the stream. -/
theorem compactStream_cases (s : Store) (streamID : StreamID) :
    (s.compactStream streamID).2 = s ∨
      ∃ before, (s.compactStream streamID).2 = (s.truncateBefore streamID before).2 := by
  unfold compactStream
  split_ifs with hid
  · exact .inl rfl
  · cases s.minCursor streamID with
    | none => exact .inl rfl
    | some minSeq =>
        simp only
        split_ifs
        · refine .inr ⟨compactBound minSeq, ?_⟩
          rcases s.truncateBefore streamID (compactBound minSeq) with ⟨_ | _, t⟩ <;> rfl
        · exact .inl rfl

/-- A compaction changes nothing aside. -/
theorem compactStream_aside (hf : Aside f) (s : Store) (streamID : StreamID) :
    f (s.compactStream streamID).2 = f s := by
  rcases s.compactStream_cases streamID with hsame | ⟨before, htrunc⟩
  · rw [hsame]
  · rw [htrunc]
    exact truncateBefore_aside hf s streamID before

/-- Setting the retention changes nothing aside. -/
theorem setStreamRetention_aside (hf : Aside f) (s : Store) (now : Int)
    (retention : StreamRetention) : f (s.setStreamRetention now retention).2 = f s := by
  unfold setStreamRetention
  split_ifs
  · rfl
  · exact (applyRetentionLocked_aside hf _ _ _).trans (hf s _ _ _ _ _)

/-- A watcher changes nothing aside. -/
theorem registerWatcher_aside (hf : Aside f) (s : Store) (streamID : StreamID) (after : Nat) :
    f (s.registerWatcher streamID after).2 = f s := by
  have hregister : f (registerWatcher.register s streamID after).2 = f s := hf s _ _ _ _ _
  unfold registerWatcher
  split
  · split_ifs
    · rfl
    · exact hregister
  · exact hregister

end Store

/-- An operation on streams leaves the cursors and the snapshots alone. -/
theorem Op.aside {β : Type} {f : Store → β} (hf : Aside f) {op : Op} (hop : op.OnStreams)
    (s : Store) : f (op.apply s) = f s := by
  cases op with
  | append now req => exact Store.append_aside hf s now req
  | createStream streamID => exact Store.createStream_aside hf s streamID
  | truncateBefore streamID before => exact Store.truncateBefore_aside hf s streamID before
  | compactStream streamID => exact Store.compactStream_aside hf s streamID
  | setStreamRetention now retention => exact Store.setStreamRetention_aside hf s now retention
  | registerWatcher streamID after => exact Store.registerWatcher_aside hf s streamID after
  | removeWatcher => exact hf s _ _ _ _ _
  | ack | deleteStream | resetCursor | putSnapshot | deleteSnapshot => exact hop.elim

/-! ## Runs -/

/-- The store after a list of operations, first operation first. -/
def runOps (ops : List Op) (s : Store) : Store := ops.foldl (fun s op => op.apply s) s

/-- Nothing is done. -/
@[simp] theorem runOps_nil (s : Store) : runOps [] s = s := rfl

/-- The first operation is done first. -/
@[simp] theorem runOps_cons (op : Op) (ops : List Op) (s : Store) :
    runOps (op :: ops) s = runOps ops (op.apply s) := rfl

/-- Operations are done one list after the other. -/
theorem runOps_append (ops ops' : List Op) (s : Store) :
    runOps (ops ++ ops') s = runOps ops' (runOps ops s) := List.foldl_append ..

/-- The store is reached from the empty one by some run. -/
def Reachable (s : Store) : Prop := ∃ ops, runOps ops newStore = s

/-- One operation of the kinds that `allowed` admits. -/
def StepOf (allowed : Op → Prop) (s s' : Store) : Prop := ∃ op : Op, allowed op ∧ s' = op.apply s

/-- What every operation preserves, every run preserves. -/
theorem runOps_invariant {I : Store → Prop} (hop : ∀ (op : Op) s, I s → I (op.apply s))
    (ops : List Op) {s : Store} (hs : I s) : I (runOps ops s) := by
  induction ops generalizing s with
  | nil => exact hs
  | cons op ops ih => exact ih (hop op s hs)

/-- What holds of a new store and is kept by every operation holds of every reachable store. -/
theorem Reachable.invariant {I : Store → Prop} (hnew : I newStore)
    (hop : ∀ (op : Op) s, I s → I (op.apply s)) {s : Store} (hs : Reachable s) : I s := by
  obtain ⟨ops, rfl⟩ := hs
  exact runOps_invariant hop ops hnew

/-- A reachable store stays reachable. -/
theorem Reachable.apply {s : Store} (hs : Reachable s) (op : Op) : Reachable (op.apply s) := by
  obtain ⟨ops, rfl⟩ := hs
  exact ⟨ops ++ [op], by simp [runOps_append]⟩

/-- What any number of operations leads to from a reachable store is reachable. -/
theorem Reachable.steps {allowed : Op → Prop} {s s' : Store} (hs : Reachable s)
    (h : Relation.ReflTransGen (StepOf allowed) s s') : Reachable s' := by
  induction h with
  | refl => exact hs
  | tail _ hstep ih =>
      obtain ⟨op, -, rfl⟩ := hstep
      exact ih.apply op

end Synclog.Memory
