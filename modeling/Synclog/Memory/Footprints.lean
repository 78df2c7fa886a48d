import Mathlib
import Synclog.Lib.Footprint
import Synclog.Memory.Simulation

/-!
# Clients that do not get in each other's way

* `StorePart` — a part of what a store remembers: the log of a stream, a cursor, a snapshot, a
  retention, the calls that wait for a stream.
* `footprints` — the parts that each section of a method reads and writes.
* `journal_local` — the journal keeps to them.
* `calls_commute` — sections with disjoint footprints may change places.
* `clients_apart` — clients of a store that take turns in any order, none of which writes what
  another one reads, get the answers they would get alone.
-/

namespace Synclog.Memory

open Synclog.Lib Synclog.Core

/-! ## Parts -/

/-- A part of what a store remembers. -/
inductive StorePart
  | log (id : StreamID)
  | cursor (key : CursorKey)
  | snapshot (key : SnapshotKey)
  | retention (id : StreamID)
  | waiting (id : StreamID)

namespace StorePart

/-- The journals agree on a part. -/
def Like : StorePart → Journal → Journal → Prop
  | log id, J, K => J.logs id = K.logs id
  | cursor key, J, K => J.cursors key = K.cursors key
  | snapshot key, J, K => J.snapshots key = K.snapshots key
  | retention id, J, K => J.retention id = K.retention id
  | waiting id, J, K => J.waiting id = K.waiting id

/-- Agreement on a part is an equivalence. -/
theorem like_equivalence (x : StorePart) : Equivalence x.Like := by
  cases x with
  | log | cursor | snapshot | retention | waiting =>
      exact ⟨fun _ => rfl, fun h => h.symm, fun h h' => h.trans h'⟩

/-- The cursors on a stream. -/
def cursorsOn (id : StreamID) : Set StorePart := {x | ∃ key, x = cursor key ∧ key.streamID = id}

/-- The snapshots of a stream. -/
def snapshotsOf (id : StreamID) : Set StorePart :=
  {x | ∃ key, x = snapshot key ∧ key.streamID = id}

variable {x : StorePart} {J : Journal}

/-- A changed log leaves every other part as it is. -/
theorem like_logs {id : StreamID} (hx : x ≠ log id) (L : Option (TrimmedLog Event)) :
    x.Like J { J with logs := Function.update J.logs id L } := by
  cases x with
  | log u => exact (Function.update_of_ne (fun hu => hx (congrArg log hu)) ..).symm
  | cursor | snapshot | retention | waiting => exact rfl

/-- A changed cursor leaves every other part as it is. -/
theorem like_cursors {key : CursorKey} (hx : x ≠ cursor key) (c : Option SubscriberCursor) :
    x.Like J { J with cursors := Function.update J.cursors key c } := by
  cases x with
  | cursor key' => exact (Function.update_of_ne (fun hkey => hx (congrArg cursor hkey)) ..).symm
  | log | snapshot | retention | waiting => exact rfl

/-- A changed snapshot leaves every other part as it is. -/
theorem like_snapshots {key : SnapshotKey} (hx : x ≠ snapshot key) (v : Option Snapshot) :
    x.Like J { J with snapshots := Function.update J.snapshots key v } := by
  cases x with
  | snapshot key' => exact (Function.update_of_ne (fun hkey => hx (congrArg snapshot hkey)) ..).symm
  | log | cursor | retention | waiting => exact rfl

/-- A changed retention leaves every other part as it is. -/
theorem like_retention {id : StreamID} (hx : x ≠ retention id) (r : Option StreamRetention) :
    x.Like J { J with retention := Function.update J.retention id r } := by
  cases x with
  | retention u => exact (Function.update_of_ne (fun hu => hx (congrArg retention hu)) ..).symm
  | log | cursor | snapshot | waiting => exact rfl

/-- Who waits for a stream leaves every other part as it is. -/
theorem like_waiting {id : StreamID} (hx : x ≠ waiting id) (l : List Nat) :
    x.Like J { J with waiting := Function.update J.waiting id l } := by
  cases x with
  | waiting u => exact (Function.update_of_ne (fun hu => hx (congrArg waiting hu)) ..).symm
  | log | cursor | snapshot | retention => exact rfl

end StorePart

open StorePart in
/-- The parts that a method reads. Where it writes only if it finds something, it reads what it
writes. -/
def StoreMethod.reads : {β : Type} → StoreMethod β → Set StorePart
  | _, .append _ req => {log req.streamID, retention req.streamID, waiting req.streamID}
  | _, .waitForStream id _ => {log id, waiting id}
  | _, .giveUp id _ => {waiting id}
  | _, .getHead id => {log id}
  | _, .read id _ _ => {log id}
  | _, .getCursor subscriberID id => {cursor ⟨subscriberID, id⟩}
  | _, .ack req => {cursor ⟨req.subscriberID, req.streamID⟩}
  | _, .createStream id => {log id}
  | _, .deleteStream id => {log id, retention id} ∪ cursorsOn id ∪ snapshotsOf id
  | _, .listStreams .. => Set.range log
  | _, .resetCursor subscriberID id _ _ => {cursor ⟨subscriberID, id⟩}
  | _, .listCursors .. => Set.range cursor
  | _, .truncateBefore id _ => {log id}
  | _, .compactStream id => {log id} ∪ cursorsOn id
  | _, .setStreamRetention _ r => {log r.streamID, retention r.streamID}
  | _, .getStreamStats id => {log id} ∪ cursorsOn id
  | _, .putSnapshot req => {snapshot (Store.snapshotKeyOf req)}
  | _, .getLatestSnapshot id _ _ => snapshotsOf id
  | _, .getSnapshot key => {snapshot key}
  | _, .listSnapshots .. => Set.range snapshot
  | _, .deleteSnapshot key => {snapshot key}

open StorePart in
/-- The parts that a method writes. -/
def StoreMethod.writes : {β : Type} → StoreMethod β → Set StorePart
  | _, .append _ req => {log req.streamID, waiting req.streamID}
  | _, .waitForStream id _ => {waiting id}
  | _, .giveUp id _ => {waiting id}
  | _, .ack req => {cursor ⟨req.subscriberID, req.streamID⟩}
  | _, .createStream id => {log id}
  | _, .deleteStream id => {log id, retention id} ∪ cursorsOn id ∪ snapshotsOf id
  | _, .resetCursor subscriberID id _ _ => {cursor ⟨subscriberID, id⟩}
  | _, .truncateBefore id _ => {log id}
  | _, .compactStream id => {log id}
  | _, .setStreamRetention _ r => {log r.streamID, retention r.streamID}
  | _, .putSnapshot req => {snapshot (Store.snapshotKeyOf req)}
  | _, .deleteSnapshot key => {snapshot key}
  | _, .getHead _ | _, .read .. | _, .getCursor .. | _, .listStreams .. | _, .listCursors ..
  | _, .getStreamStats _ | _, .getLatestSnapshot .. | _, .getSnapshot _ | _, .listSnapshots .. => ∅

open StorePart in
/-- The footprints of the sections. -/
def footprints : Footprints StoreSection Journal StorePart where
  like := StorePart.Like
  reads
    | .inl c => c.reads
    | .inr (.minCursor id) => cursorsOn id
    | .inr (.truncateBefore id _) => {log id}
  writes
    | .inl c => c.writes
    | .inr (.minCursor _) => ∅
    | .inr (.truncateBefore id _) => {log id}

/-- Journals that agree on every part are the same. -/
theorem Journal.ext_like {J K : Journal} (h : ∀ x : StorePart, x.Like J K) : J = K := by
  rcases J with ⟨logs, cursors, snapshots, retention, waiting⟩
  rcases K with ⟨logs', cursors', snapshots', retention', waiting'⟩
  obtain rfl : logs = logs' := funext fun id => h (.log id)
  obtain rfl : cursors = cursors' := funext fun key => h (.cursor key)
  obtain rfl : snapshots = snapshots' := funext fun key => h (.snapshot key)
  obtain rfl : retention = retention' := funext fun id => h (.retention id)
  obtain rfl : waiting = waiting' := funext fun id => h (.waiting id)
  rfl

/-! ## What is not written -/

open StorePart in
/-- A method leaves alone what it does not write. -/
theorem journal_frame {β : Type} (c : StoreMethod β) (J : Journal) (x : StorePart)
    (hx : x ∉ c.writes) : x.Like J (journal β c J).2 := by
  have hequiv := x.like_equivalence
  cases c with
  | append now req =>
      change x.Like J (J.append now req).2
      have hx : x ≠ log req.streamID ∧ x ≠ waiting req.streamID := by
        simpa [StoreMethod.writes] using hx
      unfold Journal.append
      split_ifs
      · exact hequiv.refl J
      · simp only
        split
        · split_ifs <;> exact hequiv.refl J
        · -- the log is extended, then trimmed, and then the waiting calls are woken
          exact hequiv.trans (like_logs hx.1 _)
            (hequiv.trans (like_logs hx.1 _) (like_waiting hx.2 _))
  | waitForStream id after =>
      change x.Like J (J.waitForStream id after).2
      unfold Journal.waitForStream
      split_ifs
      · exact hequiv.refl J
      · exact hequiv.refl J
      · exact like_waiting hx _
  | giveUp id i => exact like_waiting hx _
  | ack req =>
      change x.Like J (J.ack req).2
      unfold Journal.ack
      split_ifs
      · exact hequiv.refl J
      · simp only
        split_ifs
        · exact like_cursors hx _
        · exact hequiv.refl J
  | createStream id =>
      change x.Like J (J.createStream id).2
      unfold Journal.createStream
      split_ifs
      · exact hequiv.refl J
      · exact like_logs hx _
  | deleteStream id =>
      change x.Like J (J.deleteStream id).2
      unfold Journal.deleteStream
      split_ifs
      · exact hequiv.refl J
      · cases x with
        | log u =>
            exact (Function.update_of_ne (fun hu => hx (by simp [StoreMethod.writes, hu])) ..).symm
        | retention u =>
            exact (Function.update_of_ne (fun hu => hx (by simp [StoreMethod.writes, hu])) ..).symm
        | cursor key =>
            exact (if_neg fun hkey => hx (.inl (.inr ⟨key, rfl, hkey⟩))).symm
        | snapshot key => exact (if_neg fun hkey => hx (.inr ⟨key, rfl, hkey⟩)).symm
        | waiting u => exact rfl
  | resetCursor subscriberID id seq metadata =>
      change x.Like J (J.resetCursor subscriberID id seq metadata).2
      unfold Journal.resetCursor
      split_ifs
      · exact hequiv.refl J
      · exact like_cursors hx _
  | truncateBefore id before =>
      change x.Like J (J.truncateBefore id before).2
      unfold Journal.truncateBefore
      split_ifs
      · exact hequiv.refl J
      · exact like_logs hx _
  | compactStream id =>
      change x.Like J (J.compact id).2
      unfold Journal.compact
      split_ifs
      · exact hequiv.refl J
      · exact like_logs hx _
      · exact hequiv.refl J
  | setStreamRetention now r =>
      change x.Like J (J.setStreamRetention now r).2
      unfold Journal.setStreamRetention
      have hx : x ≠ log r.streamID ∧ x ≠ retention r.streamID := by
        simpa [StoreMethod.writes] using hx
      split_ifs
      · exact hequiv.refl J
      · exact hequiv.trans (like_retention hx.2 (some r)) (like_logs hx.1 _)
  | putSnapshot req =>
      change x.Like J (J.putSnapshot req).2
      unfold Journal.putSnapshot
      split
      · exact hequiv.refl J
      · split
        · exact hequiv.refl J
        · exact like_snapshots hx _
  | deleteSnapshot key =>
      change x.Like J (J.deleteSnapshot key).2
      unfold Journal.deleteSnapshot
      split
      · exact hequiv.refl J
      · exact like_snapshots hx _
  | getHead | read | getCursor | listStreams | listCursors | getStreamStats | getLatestSnapshot
  | getSnapshot | listSnapshots => exact hequiv.refl J

/-! ## What is read -/

namespace Journal

variable {J K : Journal} {id : StreamID}

/-- The log of a stream depends on its entry only. -/
theorem logOf_congr (hlog : J.logs id = K.logs id) : J.logOf id = K.logOf id := by
  unfold logOf
  rw [hlog]

/-- A cursor depends on its entry only. -/
theorem cursorOf_congr {subscriberID : SubscriberID}
    (hcursor : J.cursors ⟨subscriberID, id⟩ = K.cursors ⟨subscriberID, id⟩) :
    J.cursorOf subscriberID id = K.cursorOf subscriberID id := by
  unfold cursorOf
  rw [hcursor]

/-- The cursors of a stream depend on their entries only. -/
theorem cursorSeqs_congr
    (hcursors : ∀ key : CursorKey, key.streamID = id → J.cursors key = K.cursors key) :
    J.cursorSeqs id = K.cursorSeqs id := by
  ext seq
  constructor
  · rintro ⟨key, cursor, hcursor, hkey, hseq⟩
    exact ⟨key, cursor, hcursors key hkey ▸ hcursor, hkey, hseq⟩
  · rintro ⟨key, cursor, hcursor, hkey, hseq⟩
    exact ⟨key, cursor, (hcursors key hkey).trans hcursor, hkey, hseq⟩

/-- The snapshots that come into question depend on the entries of their stream only. -/
theorem eligible_congr
    (hsnapshots : ∀ key : SnapshotKey, key.streamID = id → J.snapshots key = K.snapshots key)
    (payloadType : String) (maxPayloadVersion : Nat) :
    J.eligible id payloadType maxPayloadVersion = K.eligible id payloadType maxPayloadVersion := by
  ext snapshot
  constructor
  · rintro ⟨key, hsnapshot, hkey, hrest⟩
    exact ⟨key, hsnapshots key hkey ▸ hsnapshot, hkey, hrest⟩
  · rintro ⟨key, hsnapshot, hkey, hrest⟩
    exact ⟨key, (hsnapshots key hkey).trans hsnapshot, hkey, hrest⟩

/-- An append depends on log, retention and watchers of its stream only. -/
theorem append_congr (now : Int) (req : AppendRequest)
    (hlog : J.logs req.streamID = K.logs req.streamID)
    (hretention : J.retention req.streamID = K.retention req.streamID)
    (hwaiting : J.waiting req.streamID = K.waiting req.streamID) :
    (J.append now req).1 = (K.append now req).1 ∧
      (J.append now req).2.logs req.streamID = (K.append now req).2.logs req.streamID ∧
      (J.append now req).2.waiting req.streamID = (K.append now req).2.waiting req.streamID := by
  have hlogOf := logOf_congr hlog
  unfold append
  split_ifs
  · exact ⟨rfl, hlog, hwaiting⟩
  · simp only [hlogOf]
    split
    · split_ifs <;> exact ⟨rfl, hlog, hwaiting⟩
    · refine ⟨rfl, ?_, ?_⟩
      · change ((J.setLog _ _).retain now _).logs _ = ((K.setLog _ _).retain now _).logs _
        simp only [logs_retain, logs_setLog, if_true]
        change Option.map (keeping (J.retention _) now) _ =
          Option.map (keeping (K.retention _) now) _
        rw [hretention]
      · rw [waiting_wake, waiting_wake, if_pos rfl, if_pos rfl]
        change List.filter _ (J.waiting _) = List.filter _ (K.waiting _)
        rw [hwaiting]

/-- What is forgotten depends on the log only. -/
theorem forget_congr (hlog : J.logs id = K.logs id) (n : Nat) :
    (J.forget id n).logs id = (K.forget id n).logs id := by
  rw [logs_forget, logs_forget, if_pos rfl, if_pos rfl, hlog]

/-- Setting a retention depends on the log and the retention of its stream only. -/
theorem setStreamRetention_congr (now : Int) (r : StreamRetention)
    (hlog : J.logs r.streamID = K.logs r.streamID)
    (hretention : J.retention r.streamID = K.retention r.streamID) :
    (J.setStreamRetention now r).1 = (K.setStreamRetention now r).1 ∧
      (J.setStreamRetention now r).2.logs r.streamID =
        (K.setStreamRetention now r).2.logs r.streamID ∧
      (J.setStreamRetention now r).2.retention r.streamID =
        (K.setStreamRetention now r).2.retention r.streamID := by
  unfold setStreamRetention
  split_ifs
  · exact ⟨rfl, hlog, hretention⟩
  · refine ⟨rfl, ?_, ?_⟩
    · rw [logs_retain, logs_retain, if_pos rfl, if_pos rfl]
      change Option.map _ (J.logs _) = Option.map _ (K.logs _)
      simp only [hlog, Function.update_self]
    · change Function.update J.retention _ _ _ = Function.update K.retention _ _ _
      simp only [Function.update_self]

/-- An acknowledgement depends on its cursor only. -/
theorem ack_congr (req : AckRequest)
    (hcursor : J.cursors ⟨req.subscriberID, req.streamID⟩ =
      K.cursors ⟨req.subscriberID, req.streamID⟩) :
    (J.ack req).1 = (K.ack req).1 ∧
      (J.ack req).2.cursors ⟨req.subscriberID, req.streamID⟩ =
        (K.ack req).2.cursors ⟨req.subscriberID, req.streamID⟩ := by
  unfold ack
  split_ifs
  · exact ⟨rfl, hcursor⟩
  · simp only [cursorOf_congr hcursor]
    split_ifs
    · exact ⟨rfl, by simp only [cursors_setCursor, if_true]⟩
    · exact ⟨rfl, hcursor⟩

/-- Putting a snapshot depends on the snapshot under its key only. -/
theorem putSnapshot_congr (req : PutSnapshotRequest)
    (hsnapshot : J.snapshots (Store.snapshotKeyOf req) = K.snapshots (Store.snapshotKeyOf req)) :
    (J.putSnapshot req).1 = (K.putSnapshot req).1 ∧
      (J.putSnapshot req).2.snapshots (Store.snapshotKeyOf req) =
        (K.putSnapshot req).2.snapshots (Store.snapshotKeyOf req) := by
  unfold putSnapshot
  split
  · exact ⟨rfl, hsnapshot⟩
  · rw [hsnapshot]
    split
    · exact ⟨rfl, hsnapshot⟩
    · exact ⟨rfl, by simp only [Function.update_self]⟩

/-- Deleting a snapshot depends on the snapshot under its key only. -/
theorem deleteSnapshot_congr (key : SnapshotKey) (hsnapshot : J.snapshots key = K.snapshots key) :
    (J.deleteSnapshot key).1 = (K.deleteSnapshot key).1 ∧
      (J.deleteSnapshot key).2.snapshots key = (K.deleteSnapshot key).2.snapshots key := by
  unfold deleteSnapshot
  split
  · exact ⟨rfl, hsnapshot⟩
  · exact ⟨by rw [hsnapshot], by simp only [Function.update_self]⟩

end Journal

open StorePart in
/-- Journals that agree on what a method reads give the same answer, and agree on what it has
written. -/
theorem journal_congr {β : Type} (c : StoreMethod β) {J K : Journal}
    (h : footprints.AgreeOn c.reads J K) :
    (journal β c J).1 = (journal β c K).1 ∧
      footprints.AgreeOn c.writes (journal β c J).2 (journal β c K).2 := by
  cases c with
  | append now req =>
      have hlog := h (log req.streamID) (by simp [StoreMethod.reads])
      have hretention := h (retention req.streamID) (by simp [StoreMethod.reads])
      have hwaiting := h (waiting req.streamID) (by simp [StoreMethod.reads])
      obtain ⟨hanswer, hlog', hwaiting'⟩ := Journal.append_congr now req hlog hretention hwaiting
      refine ⟨hanswer, ?_⟩
      rintro x (rfl | rfl)
      · exact hlog'
      · exact hwaiting'
  | waitForStream id after =>
      have hlog := Journal.logOf_congr (h (log id) (by simp [StoreMethod.reads]))
      have hwaiting : J.waiting id = K.waiting id := h (waiting id) (by simp [StoreMethod.reads])
      change (J.waitForStream id after).1 = (K.waitForStream id after).1 ∧
        footprints.AgreeOn {waiting id} (J.waitForStream id after).2 (K.waitForStream id after).2
      unfold Journal.waitForStream
      rw [hlog]
      split_ifs
      · exact ⟨rfl, by rintro x rfl; exact hwaiting⟩
      · exact ⟨rfl, by rintro x rfl; exact hwaiting⟩
      · refine ⟨rfl, ?_⟩
        rintro x rfl
        change Function.update J.waiting id _ id = Function.update K.waiting id _ id
        simp only [Function.update_self, hwaiting]
  | giveUp id i =>
      have hwaiting : J.waiting id = K.waiting id := h (waiting id) rfl
      refine ⟨rfl, ?_⟩
      rintro x rfl
      change (J.giveUp id i).waiting id = (K.giveUp id i).waiting id
      simp only [Journal.waiting_giveUp, hwaiting]
  | getHead id =>
      refine ⟨?_, fun x hx => hx.elim⟩
      change J.getHead id = K.getHead id
      unfold Journal.getHead
      rw [Journal.logOf_congr (h (log id) rfl)]
  | read id after limit =>
      refine ⟨?_, fun x hx => hx.elim⟩
      change J.read id after limit = K.read id after limit
      unfold Journal.read
      rw [Journal.logOf_congr (h (log id) rfl)]
  | getCursor subscriberID id =>
      refine ⟨?_, fun x hx => hx.elim⟩
      change J.getCursor subscriberID id = K.getCursor subscriberID id
      unfold Journal.getCursor
      rw [Journal.cursorOf_congr (h (cursor ⟨subscriberID, id⟩) rfl)]
  | ack req =>
      obtain ⟨hanswer, hcursor⟩ := Journal.ack_congr req (h (cursor _) rfl)
      exact ⟨hanswer, by rintro x rfl; exact hcursor⟩
  | createStream id =>
      have hlog : J.logs id = K.logs id := h (log id) rfl
      change (J.createStream id).1 = (K.createStream id).1 ∧
        footprints.AgreeOn {log id} (J.createStream id).2 (K.createStream id).2
      unfold Journal.createStream
      split_ifs
      · exact ⟨rfl, by rintro x rfl; exact hlog⟩
      · refine ⟨rfl, ?_⟩
        rintro x rfl
        change (J.setLog id _).logs id = (K.setLog id _).logs id
        simp only [Journal.logs_setLog, Journal.logOf_congr hlog, if_true]
  | deleteStream id =>
      have hlog : J.logs id = K.logs id := h (log id) (by simp [StoreMethod.reads])
      change (J.deleteStream id).1 = (K.deleteStream id).1 ∧
        footprints.AgreeOn (StoreMethod.deleteStream id).writes (J.deleteStream id).2
          (K.deleteStream id).2
      unfold Journal.deleteStream
      split_ifs
      · exact ⟨rfl, h⟩
      · refine ⟨by rw [hlog], ?_⟩
        rintro x (((rfl | rfl) | ⟨key, rfl, hkey⟩) | ⟨key, rfl, hkey⟩)
        · change Function.update J.logs id _ id = Function.update K.logs id _ id
          simp only [Function.update_self]
        · change Function.update J.retention id _ id = Function.update K.retention id _ id
          simp only [Function.update_self]
        · exact (if_pos hkey).trans (if_pos hkey).symm
        · exact (if_pos hkey).trans (if_pos hkey).symm
  | listStreams order pre limit =>
      refine ⟨?_, fun x hx => hx.elim⟩
      have hlogs : J.logs = K.logs := funext fun id => h (log id) ⟨id, rfl⟩
      change J.listStreams order pre limit = K.listStreams order pre limit
      unfold Journal.listStreams
      rw [hlogs]
  | resetCursor subscriberID id seq metadata =>
      have hcursor : J.cursors ⟨subscriberID, id⟩ = K.cursors ⟨subscriberID, id⟩ :=
        h (cursor ⟨subscriberID, id⟩) rfl
      change (J.resetCursor subscriberID id seq metadata).1 =
          (K.resetCursor subscriberID id seq metadata).1 ∧
        footprints.AgreeOn {cursor ⟨subscriberID, id⟩}
          (J.resetCursor subscriberID id seq metadata).2
          (K.resetCursor subscriberID id seq metadata).2
      unfold Journal.resetCursor
      split_ifs
      · exact ⟨rfl, by rintro x rfl; exact hcursor⟩
      · refine ⟨rfl, ?_⟩
        rintro x rfl
        change (J.setCursor _ _ _).cursors _ = (K.setCursor _ _ _).cursors _
        simp only [Journal.cursors_setCursor, if_true]
  | listCursors order id =>
      refine ⟨?_, fun x hx => hx.elim⟩
      have hcursors : J.cursors = K.cursors := funext fun key => h (cursor key) ⟨key, rfl⟩
      change J.listCursors order id = K.listCursors order id
      unfold Journal.listCursors
      rw [hcursors]
  | truncateBefore id before =>
      have hlog : J.logs id = K.logs id := h (log id) rfl
      change (J.truncateBefore id before).1 = (K.truncateBefore id before).1 ∧
        footprints.AgreeOn {log id} (J.truncateBefore id before).2 (K.truncateBefore id before).2
      unfold Journal.truncateBefore
      split_ifs
      · exact ⟨rfl, by rintro x rfl; exact hlog⟩
      · exact ⟨by rw [Journal.logOf_congr hlog],
          by rintro x rfl; exact Journal.forget_congr hlog _⟩
  | compactStream id =>
      have hlog : J.logs id = K.logs id := h (log id) (.inl rfl)
      have hseqs : J.cursorSeqs id = K.cursorSeqs id :=
        Journal.cursorSeqs_congr fun key hkey => h (cursor key) (.inr ⟨key, rfl, hkey⟩)
      change (J.compact id).1 = (K.compact id).1 ∧
        footprints.AgreeOn {log id} (J.compact id).2 (K.compact id).2
      unfold Journal.compact
      rw [hseqs]
      split_ifs
      · exact ⟨rfl, by rintro x rfl; exact hlog⟩
      · exact ⟨rfl, by rintro x rfl; exact Journal.forget_congr hlog _⟩
      · exact ⟨rfl, by rintro x rfl; exact hlog⟩
  | setStreamRetention now r =>
      have hlog := h (log r.streamID) (by simp [StoreMethod.reads])
      have hretention := h (retention r.streamID) (by simp [StoreMethod.reads])
      obtain ⟨hanswer, hlog', hretention'⟩ :=
        Journal.setStreamRetention_congr now r hlog hretention
      refine ⟨hanswer, ?_⟩
      rintro x (rfl | rfl)
      · exact hlog'
      · exact hretention'
  | getStreamStats id =>
      refine ⟨?_, fun x hx => hx.elim⟩
      have hlog := Journal.logOf_congr (h (log id) (.inl rfl))
      have hcursors : ∀ subscriberID, J.cursors ⟨subscriberID, id⟩ = K.cursors ⟨subscriberID, id⟩ :=
        fun subscriberID => h (cursor ⟨subscriberID, id⟩) (.inr ⟨_, rfl, rfl⟩)
      change J.getStreamStats id = K.getStreamStats id
      unfold Journal.getStreamStats
      simp only [hlog, hcursors]
  | putSnapshot req =>
      obtain ⟨hanswer, hsnapshot⟩ := Journal.putSnapshot_congr req (h (snapshot _) rfl)
      exact ⟨hanswer, by rintro x rfl; exact hsnapshot⟩
  | getLatestSnapshot id payloadType maxPayloadVersion =>
      refine ⟨?_, fun x hx => hx.elim⟩
      change J.latest id payloadType maxPayloadVersion = K.latest id payloadType maxPayloadVersion
      unfold Journal.latest
      rw [Journal.eligible_congr fun key hkey => h (snapshot key) ⟨key, rfl, hkey⟩]
  | getSnapshot key =>
      refine ⟨?_, fun x hx => hx.elim⟩
      have hsnapshot : J.snapshots key = K.snapshots key := h (snapshot key) rfl
      change J.getSnapshot key = K.getSnapshot key
      unfold Journal.getSnapshot
      rw [hsnapshot]
  | listSnapshots order id payloadType limit =>
      refine ⟨?_, fun x hx => hx.elim⟩
      have hsnapshots : J.snapshots = K.snapshots :=
        funext fun key => h (snapshot key) ⟨key, rfl⟩
      change J.listSnapshots order id payloadType limit = K.listSnapshots order id payloadType limit
      unfold Journal.listSnapshots
      rw [hsnapshots]
  | deleteSnapshot key =>
      obtain ⟨hanswer, hsnapshot⟩ := Journal.deleteSnapshot_congr key (h (snapshot key) rfl)
      exact ⟨hanswer, by rintro x rfl; exact hsnapshot⟩

/-- The same of a section. -/
theorem journalSections_congr {β : Type} (c : StoreSection β) {J K : Journal}
    (h : footprints.AgreeOn (footprints.reads c) J K) :
    (journalSections β c J).1 = (journalSections β c K).1 ∧
      footprints.AgreeOn (footprints.writes c) (journalSections β c J).2
        (journalSections β c K).2 := by
  rcases c with c | ⟨id⟩ | ⟨id, before⟩
  · exact journal_congr c h
  · refine ⟨?_, fun x hx => hx.elim⟩
    have hseqs : J.cursorSeqs id = K.cursorSeqs id :=
      Journal.cursorSeqs_congr fun key hkey => h (.cursor key) ⟨key, rfl, hkey⟩
    change J.minCursor id = K.minCursor id
    unfold Journal.minCursor
    rw [hseqs]
  · exact journal_congr (.truncateBefore id before) h

/-- The journal keeps to the footprints of the sections. -/
theorem journal_local : footprints.Local journalSections where
  equivalence := StorePart.like_equivalence
  answer c _ _ h := (journalSections_congr c h).1
  written c _ _ h := (journalSections_congr c h).2
  frame c J x hx := by
    rcases c with c | ⟨id⟩ | ⟨id, before⟩
    · exact journal_frame c J x hx
    · exact x.like_equivalence.refl J
    · exact journal_frame (.truncateBefore id before) J x hx

/-! ## Clients of a store -/

/-- **Clients apart.** Clients of a store take turns in any order, and none of them writes what
another one reads. Whatever the others do, an answer that a client gets is the answer it would get
if it were alone with the store. -/
theorem clients_apart {ι α : Type} [DecidableEq ι] {s : Store} (hs : Reachable s)
    {p : ι → Prog StoreSection α} {R W : ι → Set StorePart}
    (hp : ∀ i, (p i).Only (footprints.Within (R i) (W i)))
    (hapart : ∀ i j, i ≠ j → Disjoint (W j) (R i)) {ls : List (PoolLabel ι Unit)}
    {P : Pool StoreSection Store α ι}
    (hrun : (Pool.machine (fun _ => sections) p).run ls { shared := s } = some P) {i : ι} {a : α}
    (hanswer : P.answer i = some a) : ((p i).run sections s).1 = a := by
  obtain ⟨J, hJ⟩ := hs.standsFor
  have hboth := pool_journal p ls ⟨hs, hJ⟩
  rw [hrun] at hboth
  generalize hrunJ : (Pool.machine (fun _ => journalSections) p).run ls { shared := J } = o'
    at hboth
  rcases hboth with ⟨-, hsame⟩
  rename_i Q
  rw [Pool.answer_congr hsame] at hanswer
  rw [(run_journal (p i) ⟨hs, hJ⟩).1]
  exact (Pool.as_alone journal_local hp hapart hrunJ hanswer).1

/-- One client appends an event to a stream and asks for the head, the other one acknowledges an
event of the same stream and asks for its cursor. -/
def producerAndConsumer : Bool → Prog StoreSection (Option Nat)
  | true =>
    .call (.inl (.append 0 { streamID := "s" })) fun _ =>
      .call (.inl (.getHead "s")) fun head => .ret (head.toOption.map (·.cursor.seq))
  | false =>
    .call (.inl (.ack { subscriberID := "device", streamID := "s", seq := 3 })) fun _ =>
      .call (.inl (.getCursor "device" "s")) fun cursor => .ret (cursor.toOption.map (·.cursor.seq))

/-- The calls of the two clients in turn. -/
def inTurn : List (PoolLabel Bool Unit) :=
  [.start true, .start false, .advance true (), .advance false (), .advance true (),
    .advance false ()]

open StorePart in
/-- They are on the same stream, and do not bother each other. -/
theorem clients_apart_producerAndConsumer :
    ∃ P, (Pool.machine (fun _ => sections) producerAndConsumer).run inTurn { shared := newStore } =
        some P ∧ P.answer true = some (some 1) ∧
      ((producerAndConsumer true).run sections newStore).1 = some 1 := by
  refine ⟨_, rfl, rfl, ?_⟩
  have hrun : (Pool.machine (fun _ => sections) producerAndConsumer).run inTurn
      { shared := newStore } = some _ := rfl
  refine clients_apart (i := true)
    (R := fun b => if b then {log "s", retention "s", waiting "s"} else {cursor ⟨"device", "s"⟩})
    (W := fun b => if b then {log "s", waiting "s"} else {cursor ⟨"device", "s"⟩})
    ⟨[], rfl⟩ ?_ ?_ hrun rfl
  · rintro (_ | _)
    · exact ⟨⟨subset_rfl, subset_rfl⟩, fun _ =>
        ⟨⟨subset_rfl, Set.empty_subset _⟩, fun _ => trivial⟩⟩
    · exact ⟨⟨subset_rfl, subset_rfl⟩, fun _ =>
        ⟨⟨by simp [footprints, StoreMethod.reads], Set.empty_subset _⟩, fun _ => trivial⟩⟩
  · rintro (_ | _) (_ | _) hij
    · exact absurd rfl hij
    · simp
    · simp
    · exact absurd rfl hij

/-- **Calls that commute.** Of two calls neither writes what the other one reads or writes: each
gets the same answer whichever is first, and no client can tell the two orders apart afterwards. -/
theorem calls_commute {s : Store} (hs : Reachable s) {β γ : Type} {c : StoreSection β}
    {d : StoreSection γ}
    (hcd : Disjoint (footprints.writes c) (footprints.reads d ∪ footprints.writes d))
    (hdc : Disjoint (footprints.writes d) (footprints.reads c ∪ footprints.writes c)) :
    (sections γ d (sections β c s).2).1 = (sections γ d s).1 ∧
      (sections β c (sections γ d s).2).1 = (sections β c s).1 ∧
      Indistinguishable (sections γ d (sections β c s).2).2
        (sections β c (sections γ d s).2).2 := by
  obtain ⟨J, hJ⟩ := hs.standsFor
  obtain ⟨hc, hs₁, hJ₁⟩ := sections_journal c ⟨hs, hJ⟩
  obtain ⟨hd, hs₂, hJ₂⟩ := sections_journal d ⟨hs, hJ⟩
  obtain ⟨hcd', hs₃, hJ₃⟩ := sections_journal d ⟨hs₁, hJ₁⟩
  obtain ⟨hdc', hs₄, hJ₄⟩ := sections_journal c ⟨hs₂, hJ₂⟩
  obtain ⟨hanswer, hanswer', hlike⟩ := journal_local.commute (c := c) (d := d) hcd hdc J
  refine ⟨by rw [hcd', hd, hanswer], by rw [hdc', hc, hanswer'], ?_⟩
  rw [← Journal.ext_like hlike] at hJ₄
  exact hJ₃.indistinguishable hs₃ hs₄ hJ₄

open StorePart in
/-- An append and an acknowledgement on the same stream. -/
theorem calls_commute_append_ack :
    Indistinguishable
      (sections _ (.inl (.ack { subscriberID := "device", streamID := "s", seq := 3 }))
        (sections _ (.inl (.append 0 { streamID := "s" })) newStore).2).2
      (sections _ (.inl (.append 0 { streamID := "s" }))
        (sections _ (.inl (.ack { subscriberID := "device", streamID := "s", seq := 3 }))
          newStore).2).2 := by
  refine (calls_commute ⟨[], rfl⟩ ?_ ?_).2.2
  · simp [footprints, StoreMethod.reads, StoreMethod.writes]
  · simp [footprints, StoreMethod.reads, StoreMethod.writes]

end Synclog.Memory
