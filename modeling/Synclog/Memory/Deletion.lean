import Synclog.Memory.Methods
import Synclog.Memory.Recorded

/-!
# Deleted streams

A deleted stream is like one that never existed.

* `AlikeOn U s t` — the stores keep the same about the streams of `U`: the streams, their cursors,
  snapshots and retention, and who waits for them.
* `Sees id R` — a relation between stores that the pieces of the calls about one stream keep; so the
  calls keep it.
* `AlikeOn.op_self` — an operation on another stream is not seen on `U`.
* `methods_alike` — stores that are alike on all streams answer every method alike, and stay alike,
  whatever order their maps are visited in.
* `Untouched id t` — in some run to `t` no operation is about `id`. For every reachable store there
  is such a one with the same other streams (`untouched_exists`).
* `deleted_like_untouched` — no client can tell a store from which a stream was deleted from one in
  which it was never touched.
-/

namespace Synclog.Memory

open Synclog.Lib Synclog.Core

/-! ## Stores that are alike on some streams -/

/-- The stores keep the same about the streams of `U`. -/
structure AlikeOn (U : Set StreamID) (s t : Store) : Prop where
  streams : FinMap.AgreeOn U s.streams t.streams
  cursors : FinMap.AgreeOn {key | key.streamID ∈ U} s.cursors t.cursors
  snapshots : FinMap.AgreeOn {key | key.streamID ∈ U} s.snapshots t.snapshots
  retention : FinMap.AgreeOn U s.retention t.retention
  waiting : ∀ id ∈ U, s.waiting id = t.waiting id

namespace AlikeOn

variable {U V : Set StreamID} {s t u : Store} {id : StreamID}

/-- A store is like itself. -/
theorem refl (U : Set StreamID) (s : Store) : AlikeOn U s s :=
  ⟨.refl _ _, .refl _ _, .refl _ _, .refl _ _, fun _ _ => rfl⟩

/-- Likeness goes both ways. -/
theorem symm (h : AlikeOn U s t) : AlikeOn U t s :=
  ⟨h.streams.symm, h.cursors.symm, h.snapshots.symm, h.retention.symm,
    fun id hid => (h.waiting id hid).symm⟩

/-- Likeness goes on along a third store. -/
theorem trans (h : AlikeOn U s t) (h' : AlikeOn U t u) : AlikeOn U s u :=
  ⟨h.streams.trans h'.streams, h.cursors.trans h'.cursors, h.snapshots.trans h'.snapshots,
    h.retention.trans h'.retention, fun id hid => (h.waiting id hid).trans (h'.waiting id hid)⟩

/-- Stores that are alike on two sets of streams are alike on both. -/
theorem union (h : AlikeOn U s t) (h' : AlikeOn V s t) : AlikeOn (U ∪ V) s t :=
  ⟨h.streams.union h'.streams, h.cursors.union h'.cursors, h.snapshots.union h'.snapshots,
    h.retention.union h'.retention, fun id hid => hid.elim (h.waiting id) (h'.waiting id)⟩

/-! ### Pieces of operations -/

/-- The same stream is put into both stores. -/
theorem setStream (h : AlikeOn U s t) (id : StreamID) (st : StreamState) :
    AlikeOn U (s.setStream id st) (t.setStream id st) :=
  { h with streams := h.streams.insert id st }

/-- What happens to another stream is not seen. -/
theorem setStream_self (s : Store) (hid : id ∉ U) (st : StreamState) :
    AlikeOn U s (s.setStream id st) :=
  { refl U s with streams := .insert_self _ hid st }

/-- Retention of another stream is not seen. -/
theorem applyRetentionLocked_self (s : Store) (now : Int) (hid : id ∉ U) :
    AlikeOn U s (s.applyRetentionLocked now id) := by
  unfold Store.applyRetentionLocked
  split
  · exact setStream_self s hid _
  · exact refl U s

/-- Only who waits may differ. -/
theorem rewatch (h : AlikeOn U s t) {watchers watchers' : FinMap StreamID (List StreamWatcher)}
    {closed closed' : List Nat} {made made' : Nat}
    (hwaiting : ∀ id ∈ U, Store.waiting { s with watchers, closed, made } id =
      Store.waiting { t with watchers := watchers', closed := closed', made := made' } id) :
    AlikeOn U { s with watchers, closed, made }
      { t with watchers := watchers', closed := closed', made := made' } :=
  ⟨h.streams, h.cursors, h.snapshots, h.retention, hwaiting⟩

end AlikeOn

namespace Store

/-- A wake-up writes the watchers and the channels. -/
theorem notifyStreamLocked_kept (s : Store) (id : StreamID) (head : Nat) :
    ∃ watchers closed, s.notifyStreamLocked id head = { s with watchers, closed } := by
  unfold notifyStreamLocked
  simp only
  split_ifs
  · exact ⟨s.watchers, s.closed, rfl⟩
  all_goals exact ⟨_, _, rfl⟩

/-- A notification wakes those of its stream who wait for less. -/
theorem waiting_notifyStreamLocked (s : Store) (streamID : StreamID) (head : Nat)
    (id : StreamID) :
    (s.notifyStreamLocked streamID head).waiting id =
      if id = streamID then (s.waiting streamID).filter fun after => ¬ after < head
      else s.waiting id := by
  unfold waiting
  rw [watchersOf_notifyStreamLocked]
  split_ifs
  · rw [List.filter_map]
    rfl
  · rfl

/-- A watcher that registers waits behind the others. -/
theorem waiting_register (s : Store) (streamID : StreamID) (after : Nat) (id : StreamID) :
    (registerWatcher.register s streamID after).2.waiting id =
      if id = streamID then s.waiting streamID ++ [after] else s.waiting id := by
  unfold waiting
  rw [watchersOf_register]
  split_ifs
  · simp
  · rfl

/-- The `i`-th entry goes, and the last one takes its place. -/
def swapOut {α : Type} (l : List α) (i : Nat) : List α :=
  match l[i]?, l.getLast? with
  | some _, some last => (l.set i last).dropLast
  | _, _ => l

/-- Swapping out goes along with a map. -/
theorem map_swapOut {α β : Type} (f : α → β) (l : List α) (i : Nat) :
    (swapOut l i).map f = swapOut (l.map f) i := by
  unfold swapOut
  rw [List.getElem?_map, List.getLast?_map]
  cases l[i]? with
  | none => rfl
  | some x =>
      cases l.getLast? with
      | none => rfl
      | some last => simp only [Option.map_some, List.map_dropLast, List.map_set]

/-- The first watcher with the channel is removed. -/
theorem watchersOf_remove {s : Store} {streamID : StreamID} {ch i : Nat}
    (hfirst : (s.watchersOf streamID).findIdx? (fun w => w.ch == ch) = some i) (id : StreamID) :
    (s.removeWatcherLocked streamID ch).watchersOf id =
      if id = streamID then swapOut (s.watchersOf streamID) i else s.watchersOf id := by
  obtain ⟨hlt, -⟩ := List.findIdx?_eq_some_iff_getElem.mp hfirst
  rcases hlast : (s.watchersOf streamID).getLast? with _ | last
  · rw [List.getLast?_eq_none_iff.mp hlast] at hlt
    exact absurd hlt (Nat.not_lt_zero i)
  have hswap : swapOut (s.watchersOf streamID) i =
      ((s.watchersOf streamID).set i last).dropLast := by
    unfold swapOut
    rw [List.getElem?_eq_getElem hlt, hlast]
  rw [hswap]
  unfold watchersOf at hfirst hlast
  unfold removeWatcherLocked
  simp only [hfirst, hlast]
  exact getD_lookup_ite _ _ _ _

/-- Removing the channel of the `i`-th watcher removes that one, as no other has its channel. -/
theorem watchersOf_giveUp {s : Store} (hs : WatchersOk s) (streamID : StreamID) (i : Nat)
    (id : StreamID) :
    (s.giveUp streamID i).watchersOf id =
      if id = streamID then swapOut (s.watchersOf streamID) i else s.watchersOf id := by
  unfold giveUp
  cases hi : (s.watchersOf streamID)[i]? with
  | none =>
      unfold swapOut
      rw [hi]
      split_ifs with hid
      · rw [hid]
      · rfl
  | some w =>
      obtain ⟨hlt, hw⟩ := List.getElem?_eq_some_iff.mp hi
      have hapart := List.pairwise_iff_getElem.mp (List.pairwise_map.mp (hs.once streamID))
      refine watchersOf_remove (List.findIdx?_eq_some_iff_getElem.mpr ⟨hlt, ?_, ?_⟩) id
      · rw [hw, beq_self_eq_true]
      · intro j hj hch
        refine hapart j i (by omega) hlt hj ?_
        rw [hw]
        exact eq_of_beq hch

/-- Giving up writes the watchers. -/
theorem giveUp_kept (s : Store) (streamID : StreamID) (i : Nat) :
    ∃ watchers, s.giveUp streamID i = { s with watchers } := by
  unfold giveUp
  split
  · exact ⟨_, rfl⟩
  · exact ⟨s.watchers, rfl⟩

/-- The calls that wait after one has given up. -/
theorem waiting_giveUp {s : Store} (hs : WatchersOk s) (streamID : StreamID) (i : Nat)
    (id : StreamID) :
    (s.giveUp streamID i).waiting id =
      if id = streamID then swapOut (s.waiting streamID) i else s.waiting id := by
  unfold waiting
  rw [watchersOf_giveUp hs]
  split_ifs
  · exact map_swapOut _ _ _
  · rfl

end Store

/-! ## Calls about the state of one stream -/

/-- A relation between stores that agree on the state and the retention of a stream, kept where both
are changed alike and where those who wait on the stream are woken. -/
structure Sees (id : StreamID) (R : Store → Store → Prop) : Prop where
  stream : ∀ {s t}, R s t → s.streams.lookup id = t.streams.lookup id
  retention : ∀ {s t}, R s t → s.retention.lookup id = t.retention.lookup id
  setStream : ∀ {s t}, R s t → ∀ st, R (s.setStream id st) (t.setStream id st)
  setRetention : ∀ {s t}, R s t → ∀ retention,
    R { s with retention := s.retention.insert id retention }
      { t with retention := t.retention.insert id retention }
  notify : ∀ {s t}, R s t → ∀ head,
    R (s.notifyStreamLocked id head) (t.notifyStreamLocked id head)

namespace Sees

variable {id : StreamID} {R : Store → Store → Prop} {s t : Store}

/-- Both stores have the same stream. -/
theorem ensureStream (hR : Sees id R) (h : R s t) : s.ensureStream id = t.ensureStream id := by
  unfold Store.ensureStream
  rw [hR.stream h]

/-- Retention keeps stores alike. -/
theorem applyRetentionLocked (hR : Sees id R) (h : R s t) (now : Int) :
    R (s.applyRetentionLocked now id) (t.applyRetentionLocked now id) := by
  unfold Store.applyRetentionLocked
  rw [hR.stream h, hR.retention h]
  split
  · exact hR.setStream h _
  · exact h

/-- An append is answered alike, and keeps stores alike. -/
theorem append {req : AppendRequest} (hR : Sees req.streamID R) (h : R s t) (now : Int) :
    (s.append now req).1 = (t.append now req).1 ∧ R (s.append now req).2 (t.append now req).2 := by
  unfold Store.append
  rw [hR.ensureStream h]
  by_cases hempty : req.streamID = ""
  · rw [if_pos hempty, if_pos hempty]
    exact ⟨rfl, h⟩
  · rw [if_neg hempty, if_neg hempty]
    simp only
    generalize (if req.idempotencyKey ≠ "" then
      (t.ensureStream req.streamID).idempotency.lookup req.idempotencyKey else none) = found
    have hmade := hR.setStream h (t.ensureStream req.streamID)
    rcases found with _ | seq
    · have hpushed := hR.setStream hmade ((t.ensureStream req.streamID).push req)
      exact ⟨rfl, hR.notify (hR.applyRetentionLocked hpushed now) _⟩
    · simp only
      split
      · exact ⟨rfl, hmade⟩
      · exact ⟨rfl, hmade⟩

/-- A creation is answered alike, and keeps stores alike. -/
theorem createStream (hR : Sees id R) (h : R s t) :
    (s.createStream id).1 = (t.createStream id).1 ∧
      R (s.createStream id).2 (t.createStream id).2 := by
  unfold Store.createStream
  rw [hR.ensureStream h]
  split_ifs
  · exact ⟨rfl, h⟩
  · exact ⟨rfl, hR.setStream h _⟩

/-- A truncation is answered alike, and keeps stores alike. -/
theorem truncateBefore (hR : Sees id R) (h : R s t) (before : Nat) :
    (s.truncateBefore id before).1 = (t.truncateBefore id before).1 ∧
      R (s.truncateBefore id before).2 (t.truncateBefore id before).2 := by
  unfold Store.truncateBefore
  rw [hR.stream h]
  split_ifs
  · exact ⟨rfl, h⟩
  · split
    · exact ⟨rfl, h⟩
    · exact ⟨rfl, hR.setStream h _⟩

/-- Setting the retention is answered alike, and keeps stores alike. -/
theorem setStreamRetention {retention : StreamRetention} (hR : Sees retention.streamID R)
    (h : R s t) (now : Int) :
    (s.setStreamRetention now retention).1 = (t.setStreamRetention now retention).1 ∧
      R (s.setStreamRetention now retention).2 (t.setStreamRetention now retention).2 := by
  unfold Store.setStreamRetention
  split_ifs
  · exact ⟨rfl, h⟩
  · exact ⟨rfl, hR.applyRetentionLocked (hR.setRetention h retention) now⟩

end Sees

/-! ## One operation on two stores -/

namespace AlikeOn

variable {U : Set StreamID} {s t : Store}

/-- A notification keeps stores alike. -/
theorem notifyStreamLocked (h : AlikeOn U s t) {id : StreamID} (hid : id ∈ U) (head : Nat) :
    AlikeOn U (s.notifyStreamLocked id head) (t.notifyStreamLocked id head) := by
  have hwaiting : ∀ u ∈ U,
      (s.notifyStreamLocked id head).waiting u = (t.notifyStreamLocked id head).waiting u := by
    intro u hu
    rw [Store.waiting_notifyStreamLocked, Store.waiting_notifyStreamLocked, h.waiting id hid,
      h.waiting u hu]
  obtain ⟨watchers, closed, hs⟩ := s.notifyStreamLocked_kept id head
  obtain ⟨watchers', closed', ht⟩ := t.notifyStreamLocked_kept id head
  rw [hs, ht] at hwaiting ⊢
  exact h.rewatch hwaiting

/-- Stores that are alike on a stream are so for everything that concerns only it. -/
theorem sees {id : StreamID} (hid : id ∈ U) : Sees id (AlikeOn U) where
  stream h := h.streams id hid
  retention h := h.retention id hid
  setStream h := h.setStream id
  setRetention h _ := { h with retention := h.retention.insert _ _ }
  notify h := h.notifyStreamLocked hid

/-- A watcher registers in both stores or in neither. -/
theorem registerWatcher (h : AlikeOn U s t) {id : StreamID} (hid : id ∈ U) (after : Nat) :
    (s.registerWatcher id after).1.isSome = (t.registerWatcher id after).1.isSome ∧
      AlikeOn U (s.registerWatcher id after).2 (t.registerWatcher id after).2 := by
  have hhead : s.headOf id = t.headOf id := congrArg StreamState.head ((sees hid).ensureStream h)
  rw [Store.registerWatcher_eq, Store.registerWatcher_eq, hhead]
  split_ifs
  · exact ⟨rfl, h⟩
  · refine ⟨rfl, h.rewatch fun u hu => ?_⟩
    have hs := s.waiting_register id after u
    have ht := t.waiting_register id after u
    rw [h.waiting id hid, h.waiting u hu] at hs
    exact hs.trans ht.symm

/-- A wait is answered alike, and keeps stores alike. -/
theorem waitForStream (h : AlikeOn U s t) {id : StreamID} (hid : id ∈ U) (after : Nat) :
    (s.waitForStream id after).1 = (t.waitForStream id after).1 ∧
      AlikeOn U (s.waitForStream id after).2 (t.waitForStream id after).2 := by
  obtain ⟨hanswer, hafter⟩ := h.registerWatcher hid after
  unfold Store.waitForStream
  split_ifs
  · exact ⟨rfl, h⟩
  · exact ⟨congrArg Except.ok hanswer, hafter⟩

/-- Giving up a wait keeps stores alike, whatever the channels are called. -/
theorem giveUp (h : AlikeOn U s t) (hs : WatchersOk s) (ht : WatchersOk t) {id : StreamID}
    (hid : id ∈ U) (i : Nat) : AlikeOn U (s.giveUp id i) (t.giveUp id i) := by
  have hwaiting : ∀ u ∈ U, (s.giveUp id i).waiting u = (t.giveUp id i).waiting u := by
    intro u hu
    rw [Store.waiting_giveUp hs, Store.waiting_giveUp ht, h.waiting id hid, h.waiting u hu]
  obtain ⟨watchers, hs⟩ := s.giveUp_kept id i
  obtain ⟨watchers', ht⟩ := t.giveUp_kept id i
  rw [hs, ht] at hwaiting ⊢
  exact h.rewatch hwaiting

/-- An acknowledgement is answered alike, and keeps stores alike. -/
theorem ack (h : AlikeOn U s t) {req : AckRequest} (hid : req.streamID ∈ U) :
    (s.ack req).1 = (t.ack req).1 ∧ AlikeOn U (s.ack req).2 (t.ack req).2 := by
  have hlookup : s.cursors.lookup ⟨req.subscriberID, req.streamID⟩ =
      t.cursors.lookup ⟨req.subscriberID, req.streamID⟩ := h.cursors _ hid
  unfold Store.ack
  simp only [hlookup]
  split_ifs
  all_goals first
    | exact ⟨rfl, h⟩
    | exact ⟨rfl, { h with cursors := h.cursors.insert _ _ }⟩

/-- A deletion is answered alike, and keeps stores alike. -/
theorem deleteStream (h : AlikeOn U s t) {id : StreamID} (hid : id ∈ U) :
    (s.deleteStream id).1 = (t.deleteStream id).1 ∧
      AlikeOn U (s.deleteStream id).2 (t.deleteStream id).2 := by
  unfold Store.deleteStream
  rw [h.streams id hid]
  split_ifs
  · exact ⟨rfl, h⟩
  · exact ⟨rfl, h.streams.erase id, h.cursors.keep _, h.snapshots.keep _, h.retention.erase id,
      h.waiting⟩

/-- A reset is answered alike, and keeps stores alike. -/
theorem resetCursor (h : AlikeOn U s t) (subscriberID : SubscriberID) (id : StreamID) (seq : Nat)
    (metadata : String) :
    (s.resetCursor subscriberID id seq metadata).1 =
        (t.resetCursor subscriberID id seq metadata).1 ∧
      AlikeOn U (s.resetCursor subscriberID id seq metadata).2
        (t.resetCursor subscriberID id seq metadata).2 := by
  unfold Store.resetCursor
  split_ifs
  · exact ⟨rfl, h⟩
  · exact ⟨rfl, h⟩
  · exact ⟨rfl, { h with cursors := h.cursors.insert _ _ }⟩

/-- A compaction is answered alike, and keeps stores alike. -/
theorem compactStream (h : AlikeOn U s t) {id : StreamID} (hid : id ∈ U) :
    (s.compactStream id).1 = (t.compactStream id).1 ∧
      AlikeOn U (s.compactStream id).2 (t.compactStream id).2 := by
  have hmin : s.minCursor id = t.minCursor id := by
    refine Store.minCursor_congr fun key hkey => h.cursors key ?_
    show key.streamID ∈ U
    rwa [hkey]
  unfold Store.compactStream
  rw [hmin]
  split_ifs
  · exact ⟨rfl, h⟩
  · split
    · exact ⟨rfl, h⟩
    · rename_i minSeq _
      obtain ⟨hanswer, hafter⟩ := (sees hid).truncateBefore h (Store.compactBound minSeq)
      split_ifs
      · rcases hs : s.truncateBefore id (Store.compactBound minSeq) with ⟨answer, s'⟩
        rcases ht : t.truncateBefore id (Store.compactBound minSeq) with ⟨answer', t'⟩
        rw [hs, ht] at hanswer hafter
        subst hanswer
        cases answer
        · exact ⟨rfl, hafter⟩
        · exact ⟨rfl, hafter⟩
      · exact ⟨rfl, h⟩

/-- A snapshot is put, and answered, alike. -/
theorem putSnapshot (h : AlikeOn U s t) {req : PutSnapshotRequest} (hid : req.streamID ∈ U) :
    (s.putSnapshot req).1 = (t.putSnapshot req).1 ∧
      AlikeOn U (s.putSnapshot req).2 (t.putSnapshot req).2 := by
  have hlookup : s.snapshots.lookup (Store.snapshotKeyOf req) =
      t.snapshots.lookup (Store.snapshotKeyOf req) := h.snapshots _ hid
  have hstore : AlikeOn U (Store.putSnapshot.store req s (Store.snapshotKeyOf req)).2
      (Store.putSnapshot.store req t (Store.snapshotKeyOf req)).2 :=
    { h with snapshots := h.snapshots.insert _ _ }
  unfold Store.putSnapshot
  split
  · exact ⟨rfl, h⟩
  · simp only [hlookup]
    split
    · split_ifs
      · exact ⟨rfl, h⟩
      · exact ⟨rfl, hstore⟩
    · exact ⟨rfl, hstore⟩

/-- A snapshot is deleted, and answered, alike. -/
theorem deleteSnapshot (h : AlikeOn U s t) {key : SnapshotKey} (hid : key.streamID ∈ U) :
    (s.deleteSnapshot key).1 = (t.deleteSnapshot key).1 ∧
      AlikeOn U (s.deleteSnapshot key).2 (t.deleteSnapshot key).2 := by
  unfold Store.deleteSnapshot
  rw [h.snapshots key hid]
  split
  · exact ⟨rfl, h⟩
  · split
    · exact ⟨rfl, h⟩
    · exact ⟨rfl, { h with snapshots := h.snapshots.erase key }⟩

end AlikeOn

/-! ## What an operation does not touch -/

/-- The stream that an operation is about. -/
def Op.streamID : Op → StreamID
  | .append _ req => req.streamID
  | .ack req => req.streamID
  | .createStream streamID => streamID
  | .deleteStream streamID => streamID
  | .resetCursor _ streamID _ _ => streamID
  | .truncateBefore streamID _ => streamID
  | .compactStream streamID => streamID
  | .setStreamRetention _ retention => retention.streamID
  | .putSnapshot req => req.streamID
  | .deleteSnapshot key => key.streamID
  | .registerWatcher streamID _ => streamID
  | .removeWatcher streamID _ => streamID

namespace AlikeOn

variable {U : Set StreamID} {s : Store} {id : StreamID}

/-- A notification of another stream is not seen. -/
theorem notifyStreamLocked_self (s : Store) (hid : id ∉ U) (head : Nat) :
    AlikeOn U s (s.notifyStreamLocked id head) := by
  have hwaiting : ∀ u ∈ U, s.waiting u = (s.notifyStreamLocked id head).waiting u := by
    intro u hu
    rw [Store.waiting_notifyStreamLocked, if_neg (ne_of_mem_of_not_mem hu hid)]
  obtain ⟨watchers, closed, hs⟩ := s.notifyStreamLocked_kept id head
  rw [hs] at hwaiting ⊢
  exact (refl U s).rewatch hwaiting

/-- A cursor on another stream is written. -/
theorem cursor_self (s : Store) {key : CursorKey} (hid : key.streamID ∉ U)
    (cursor : SubscriberCursor) :
    AlikeOn U s { s with cursors := s.cursors.insert key cursor } := by
  have hkey : key ∉ {key : CursorKey | key.streamID ∈ U} := hid
  exact { refl U s with cursors := .insert_self _ hkey _ }

/-- An append to another stream is not seen. -/
theorem append_self (s : Store) (now : Int) {req : AppendRequest} (hid : req.streamID ∉ U) :
    AlikeOn U s (s.append now req).2 := by
  by_cases hempty : req.streamID = ""
  · unfold Store.append
    rw [if_pos hempty]
    exact refl U s
  · have hmade : AlikeOn U s (s.setStream req.streamID (s.ensureStream req.streamID)) :=
      setStream_self s hid _
    rcases s.key_cases req with hnew | ⟨seq, hkey, hseq⟩
    · rw [Store.append_new hempty hnew]
      have hpushed := hmade.trans (setStream_self _ hid ((s.ensureStream req.streamID).push req))
      have htrimmed := hpushed.trans (applyRetentionLocked_self _ now hid)
      exact htrimmed.trans (notifyStreamLocked_self _ hid _)
    · rw [(Store.append_found now hempty hkey hseq).2]
      exact hmade

/-- An acknowledgement on another stream is not seen. -/
theorem ack_self (s : Store) {req : AckRequest} (hid : req.streamID ∉ U) :
    AlikeOn U s (s.ack req).2 := by
  unfold Store.ack
  simp only
  split_ifs
  all_goals first
    | exact refl U s
    | exact cursor_self s hid _

/-- The creation of another stream is not seen. -/
theorem createStream_self (s : Store) (hid : id ∉ U) : AlikeOn U s (s.createStream id).2 := by
  unfold Store.createStream
  split_ifs
  · exact refl U s
  · exact setStream_self s hid _

/-- The deletion of another stream is not seen. -/
theorem deleteStream_self (s : Store) (hid : id ∉ U) : AlikeOn U s (s.deleteStream id).2 := by
  unfold Store.deleteStream
  split_ifs
  · exact refl U s
  · refine ⟨.erase_self _ hid, .keep_self _ fun key hkey => ?_, .keep_self _ fun key hkey => ?_,
      .erase_self _ hid, fun _ _ => rfl⟩
    · exact decide_eq_true (ne_of_mem_of_not_mem hkey hid)
    · exact decide_eq_true (ne_of_mem_of_not_mem hkey hid)

/-- A reset on another stream is not seen. -/
theorem resetCursor_self (s : Store) (subscriberID : SubscriberID) (hid : id ∉ U) (seq : Nat)
    (metadata : String) : AlikeOn U s (s.resetCursor subscriberID id seq metadata).2 := by
  unfold Store.resetCursor
  split_ifs
  · exact refl U s
  · exact refl U s
  · exact cursor_self s hid _

/-- A truncation of another stream is not seen. -/
theorem truncateBefore_self (s : Store) (hid : id ∉ U) (before : Nat) :
    AlikeOn U s (s.truncateBefore id before).2 := by
  unfold Store.truncateBefore
  split_ifs
  · exact refl U s
  · split
    · exact refl U s
    · exact setStream_self s hid _

/-- A compaction of another stream is not seen. -/
theorem compactStream_self (s : Store) (hid : id ∉ U) : AlikeOn U s (s.compactStream id).2 := by
  rcases s.compactStream_cases id with hsame | ⟨before, htrunc⟩
  · rw [hsame]
    exact refl U s
  · rw [htrunc]
    exact truncateBefore_self s hid before

/-- The retention of another stream is not seen. -/
theorem setStreamRetention_self (s : Store) (now : Int) {retention : StreamRetention}
    (hid : retention.streamID ∉ U) : AlikeOn U s (s.setStreamRetention now retention).2 := by
  unfold Store.setStreamRetention
  split_ifs
  · exact refl U s
  · have hset : AlikeOn U s
        { s with retention := s.retention.insert retention.streamID retention } :=
      { refl U s with retention := .insert_self _ hid _ }
    exact hset.trans (applyRetentionLocked_self _ now hid)

/-- A snapshot of another stream is not seen. -/
theorem putSnapshot_self (s : Store) {req : PutSnapshotRequest} (hid : req.streamID ∉ U) :
    AlikeOn U s (s.putSnapshot req).2 := by
  have hkey : Store.snapshotKeyOf req ∉ {key : SnapshotKey | key.streamID ∈ U} := hid
  rcases s.putSnapshot_cases req with hsame | hstored
  · rw [hsame]
    exact refl U s
  · rw [hstored]
    exact { refl U s with snapshots := .insert_self _ hkey _ }

/-- The deletion of another stream's snapshot is not seen. -/
theorem deleteSnapshot_self (s : Store) {key : SnapshotKey} (hid : key.streamID ∉ U) :
    AlikeOn U s (s.deleteSnapshot key).2 := by
  rcases s.deleteSnapshot_cases key with hsame | herased
  · rw [hsame]
    exact refl U s
  · rw [herased]
    exact { refl U s with snapshots := .erase_self _ hid }

/-- A watcher of another stream is not seen. -/
theorem registerWatcher_self (s : Store) (hid : id ∉ U) (after : Nat) :
    AlikeOn U s (s.registerWatcher id after).2 := by
  rw [Store.registerWatcher_eq]
  split_ifs
  · exact refl U s
  · refine (refl U s).rewatch fun u hu => ?_
    have hregister := s.waiting_register id after u
    rw [if_neg (ne_of_mem_of_not_mem hu hid)] at hregister
    exact hregister.symm

/-- The end of a wait for another stream is not seen. -/
theorem removeWatcherLocked_self (s : Store) (hid : id ∉ U) (ch : Nat) :
    AlikeOn U s (s.removeWatcherLocked id ch) := by
  refine (refl U s).rewatch fun u hu => ?_
  rcases s.watchersOf_removeWatcherLocked id ch u with hsame | ⟨rfl, -⟩
  · exact (congrArg (List.map (·.after)) hsame).symm
  · exact absurd hu hid

/-- An operation on another stream is not seen. -/
theorem op_self (op : Op) (s : Store) (hid : op.streamID ∉ U) : AlikeOn U s (op.apply s) := by
  cases op with
  | append now req => exact append_self s now hid
  | ack req => exact ack_self s hid
  | createStream streamID => exact createStream_self s hid
  | deleteStream streamID => exact deleteStream_self s hid
  | resetCursor subscriberID streamID seq metadata =>
      exact resetCursor_self s subscriberID hid seq metadata
  | truncateBefore streamID before => exact truncateBefore_self s hid before
  | compactStream streamID => exact compactStream_self s hid
  | setStreamRetention now retention => exact setStreamRetention_self s now hid
  | putSnapshot req => exact putSnapshot_self s hid
  | deleteSnapshot key => exact deleteSnapshot_self s hid
  | registerWatcher streamID after => exact registerWatcher_self s hid after
  | removeWatcher streamID ch => exact removeWatcherLocked_self s hid ch

/-- Nor is a run of such operations. -/
theorem runOps_self {ops : List Op} (s : Store) (hops : ∀ op ∈ ops, op.streamID ∉ U) :
    AlikeOn U s (runOps ops s) := by
  induction ops generalizing s with
  | nil => exact refl U s
  | cons op ops ih =>
      have hfirst := op_self op s (hops op List.mem_cons_self)
      exact hfirst.trans (ih (op.apply s) fun op' hop' => hops op' (List.mem_cons_of_mem _ hop'))

end AlikeOn

/-! ## One call on two stores -/

section Calls

variable {s t : Store}

/-- Stores that are alike answer every method alike, and stay alike. -/
theorem methods_alike {β : Type} (c : StoreMethod β)
    (h : Reachable s ∧ Reachable t ∧ AlikeOn Set.univ s t) :
    (methods β c s).1 = (methods β c t).1 ∧
      Reachable (methods β c s).2 ∧ Reachable (methods β c t).2 ∧
      AlikeOn Set.univ (methods β c s).2 (methods β c t).2 := by
  obtain ⟨hs, ht, h⟩ := h
  suffices hcall : (methods β c s).1 = (methods β c t).1 ∧
      AlikeOn Set.univ (methods β c s).2 (methods β c t).2 from
    ⟨hcall.1, methods_reachable c hs, methods_reachable c ht, hcall.2⟩
  have hsees (id : StreamID) : Sees id (AlikeOn Set.univ) := AlikeOn.sees trivial
  cases c with
  | append now req => exact (hsees req.streamID).append h now
  | waitForStream streamID after => exact h.waitForStream trivial after
  | giveUp streamID i => exact ⟨rfl, h.giveUp hs.watchersOk ht.watchersOk trivial i⟩
  | getHead streamID =>
      refine ⟨?_, h⟩
      unfold methods Store.getHead
      simp only [h.streams streamID trivial]
  | read streamID after limit =>
      refine ⟨?_, h⟩
      unfold methods Store.read
      simp only [h.streams streamID trivial]
  | getCursor subscriberID streamID =>
      refine ⟨?_, h⟩
      unfold methods Store.getCursor
      simp only [h.cursors ⟨subscriberID, streamID⟩ trivial]
  | ack req => exact h.ack trivial
  | createStream streamID => exact (hsees streamID).createStream h
  | deleteStream streamID => exact h.deleteStream trivial
  | listStreams order pre limit =>
      refine ⟨?_, h⟩
      unfold methods Store.listStreams
      simp only [h.streams.visit order]
  | resetCursor subscriberID streamID seq metadata =>
      exact h.resetCursor subscriberID streamID seq metadata
  | listCursors order streamID =>
      refine ⟨?_, h⟩
      have hvisit : s.cursors.visit order = t.cursors.visit order := h.cursors.visit order
      unfold methods Store.listCursors
      simp only [hvisit]
  | truncateBefore streamID before => exact (hsees streamID).truncateBefore h before
  | compactStream streamID => exact h.compactStream trivial
  | setStreamRetention now retention =>
      exact (hsees retention.streamID).setStreamRetention h now
  | getStreamStats streamID =>
      refine ⟨?_, h⟩
      have hkeys : s.cursors.keys.Perm t.cursors.keys := h.cursors.keys_perm
      unfold methods Store.getStreamStats
      simp only [h.streams streamID trivial, hkeys.countP_eq]
  | putSnapshot req => exact h.putSnapshot trivial
  | getLatestSnapshot streamID payloadType maxPayloadVersion =>
      exact ⟨ht.getLatestSnapshot_congr fun key => h.snapshots key trivial, h⟩
  | getSnapshot key =>
      refine ⟨?_, h⟩
      unfold methods Store.getSnapshot
      simp only [h.snapshots key trivial]
  | listSnapshots order streamID payloadType limit =>
      refine ⟨?_, h⟩
      have hvisit : s.snapshots.visit order = t.snapshots.visit order := h.snapshots.visit order
      unfold methods Store.listSnapshots
      simp only [hvisit]
  | deleteSnapshot key => exact h.deleteSnapshot trivial

end Calls

/-! ## Runs that never touch a stream -/

/-- Removing a channel takes out the call that has it, or nothing. -/
theorem Store.removeWatcherLocked_cases (s : Store) (id : StreamID) (ch : Nat) :
    (∀ u, (s.removeWatcherLocked id ch).waiting u = s.waiting u) ∨
      ∃ i, s.removeWatcherLocked id ch = s.giveUp id i := by
  rcases hfirst : (s.watchersOf id).findIdx? (fun w => w.ch == ch) with _ | i
  · refine .inl fun u => ?_
    unfold waiting
    rcases s.watchersOf_removeWatcherLocked id ch u with hsame | ⟨rfl, w, hch, hperm⟩
    · rw [hsame]
    · have hw : w ∈ s.watchersOf u := hperm.subset List.mem_cons_self
      have hnone := List.findIdx?_eq_none_iff.mp hfirst w hw
      simp [hch] at hnone
  · obtain ⟨hlt, hch, -⟩ := List.findIdx?_eq_some_iff_getElem.mp hfirst
    refine .inr ⟨i, ?_⟩
    unfold giveUp
    rw [List.getElem?_eq_getElem hlt]
    simp only [eq_of_beq hch]

/-- What an operation does on one store, operations on its stream do on a store that is alike. -/
theorem AlikeOn.op {U : Set StreamID} {s t : Store} (h : AlikeOn U s t) (hs : WatchersOk s)
    (ht : WatchersOk t) (op : Op) (hid : op.streamID ∈ U) :
    ∃ ops : List Op, (∀ op' ∈ ops, op'.streamID = op.streamID) ∧
      AlikeOn U (op.apply s) (runOps ops t) := by
  have hsame : AlikeOn U (op.apply s) (op.apply t) → ∃ ops : List Op,
      (∀ op' ∈ ops, op'.streamID = op.streamID) ∧ AlikeOn U (op.apply s) (runOps ops t) :=
    fun halike => ⟨[op], by simp, halike⟩
  cases op with
  | append now req => exact hsame ((AlikeOn.sees hid).append h now).2
  | ack req => exact hsame (h.ack hid).2
  | createStream streamID => exact hsame ((AlikeOn.sees hid).createStream h).2
  | deleteStream streamID => exact hsame (h.deleteStream hid).2
  | resetCursor subscriberID streamID seq metadata =>
      exact hsame (h.resetCursor subscriberID streamID seq metadata).2
  | truncateBefore streamID before =>
      exact hsame ((AlikeOn.sees hid).truncateBefore h before).2
  | compactStream streamID => exact hsame (h.compactStream hid).2
  | setStreamRetention now retention =>
      exact hsame ((AlikeOn.sees hid).setStreamRetention h now).2
  | putSnapshot req => exact hsame (h.putSnapshot hid).2
  | deleteSnapshot key => exact hsame (h.deleteSnapshot hid).2
  | registerWatcher streamID after => exact hsame (h.registerWatcher hid after).2
  | removeWatcher streamID ch =>
      -- the same call has another channel in the other store
      rcases s.removeWatcherLocked_cases streamID ch with hnone | ⟨i, hi⟩
      · have hremove : AlikeOn U (s.removeWatcherLocked streamID ch) s :=
          (AlikeOn.refl U s).rewatch fun u _ => hnone u
        exact ⟨[], by simp, hremove.trans h⟩
      · have hgive := h.giveUp hs ht (show streamID ∈ U from hid) i
        rw [← hi] at hgive
        rcases t.giveUp_cases streamID i with hkept | ⟨ch', hch'⟩
        · rw [hkept] at hgive
          exact ⟨[], by simp, hgive⟩
        · rw [hch'] at hgive
          exact ⟨[.removeWatcher streamID ch'], by simp [Op.streamID], hgive⟩

/-- In some run to the store no operation is about the stream. -/
def Untouched (id : StreamID) (t : Store) : Prop :=
  ∃ ops : List Op, (∀ op ∈ ops, op.streamID ≠ id) ∧ runOps ops newStore = t

namespace Untouched

variable {id : StreamID} {t : Store}

/-- A store with an untouched stream is reachable. -/
theorem reachable (h : Untouched id t) : Reachable t := by
  obtain ⟨ops, -, hrun⟩ := h
  exact ⟨ops, hrun⟩

/-- Operations on other streams leave the stream untouched. -/
theorem runOps (h : Untouched id t) {ops : List Op} (hops : ∀ op ∈ ops, op.streamID ≠ id) :
    Untouched id (runOps ops t) := by
  obtain ⟨before, hbefore, rfl⟩ := h
  refine ⟨before ++ ops, fun op hop => ?_, runOps_append _ _ _⟩
  exact (List.mem_append.mp hop).elim (hbefore op) (hops op)

/-- The store keeps nothing about the stream. -/
theorem alike (h : Untouched id t) : AlikeOn {id} newStore t := by
  obtain ⟨ops, hops, rfl⟩ := h
  exact .runOps_self newStore hops

end Untouched

/-- For every reachable store there is one with the same other streams in which the stream was never
touched: the operations on the stream are left out of its run. -/
theorem untouched_exists {s : Store} (hs : Reachable s) (id : StreamID) :
    ∃ t, Untouched id t ∧ AlikeOn {u | u ≠ id} s t := by
  suffices hall : Reachable s ∧ ∃ t, Untouched id t ∧ AlikeOn {u | u ≠ id} s t from hall.2
  refine hs.invariant (I := fun s => Reachable s ∧ ∃ t, Untouched id t ∧ AlikeOn {u | u ≠ id} s t)
    ⟨⟨[], rfl⟩, newStore, ⟨[], by simp, rfl⟩, .refl _ _⟩ ?_
  rintro op s ⟨hs, t, ht, h⟩
  refine ⟨hs.apply op, ?_⟩
  by_cases hid : op.streamID = id
  · exact ⟨t, ht, (AlikeOn.op_self op s (not_not.mpr hid)).symm.trans h⟩
  · obtain ⟨ops, hops, hafter⟩ := h.op hs.watchersOk ht.reachable.watchersOk op hid
    exact ⟨_, ht.runOps fun op' hop' => (hops op' hop') ▸ hid, hafter⟩

/-- What a deletion leaves of the stream: nothing, unless somebody waits for it. -/
theorem deleteStream_alike {s s' : Store} {id : StreamID} {existed : Bool}
    (hpending : s.watchersOf id = []) (hdelete : s.deleteStream id = (.ok existed, s')) :
    AlikeOn {id} newStore s' := by
  unfold Store.deleteStream at hdelete
  split_ifs at hdelete with hempty
  · cases hdelete
  obtain ⟨-, rfl⟩ := Prod.mk.inj hdelete
  refine ⟨?_, ?_, ?_, ?_, ?_⟩
  · rintro u rfl
    rw [FinMap.lookup_erase_eq_ite, if_pos rfl]
    rfl
  · intro key hkey
    rw [FinMap.lookup_keep, if_neg (by simpa using hkey)]
    rfl
  · intro key hkey
    rw [FinMap.lookup_keep, if_neg (by simpa using hkey)]
    rfl
  · rintro u rfl
    rw [FinMap.lookup_erase_eq_ite, if_pos rfl]
    rfl
  · rintro u rfl
    exact (congrArg (List.map (·.after)) hpending).symm

/-- **A deleted stream is like one that never existed.** When a stream is deleted for which nobody
waits, all other streams stay as they are; and whatever a client of the store does from then on, it
gets the same answers, and the same is left in the store, as in any store with the same other
streams in which this one was never touched. There is such a store. -/
theorem deleted_like_untouched {s s' : Store} (hs : Reachable s) {id : StreamID}
    (hpending : s.watchersOf id = []) {existed : Bool}
    (hdelete : s.deleteStream id = (.ok existed, s')) :
    AlikeOn {u | u ≠ id} s s' ∧ (∃ t, Untouched id t ∧ AlikeOn {u | u ≠ id} s t) ∧
      ∀ t, Untouched id t → AlikeOn {u | u ≠ id} s t → ∀ {α : Type} (p : Prog StoreMethod α),
        (p.run methods s').1 = (p.run methods t).1 ∧
          AlikeOn Set.univ (p.run methods s').2 (p.run methods t).2 := by
  have hs' : s' = (Op.deleteStream id).apply s := (congrArg Prod.snd hdelete).symm
  have hothers : AlikeOn {u | u ≠ id} s s' := by
    rw [hs']
    exact .op_self (.deleteStream id) s (not_not.mpr rfl)
  refine ⟨hothers, untouched_exists hs id, fun t ht halike α p => ?_⟩
  have hown : AlikeOn {id} s' t := (deleteStream_alike hpending hdelete).symm.trans ht.alike
  have hall : AlikeOn Set.univ s' t := by
    have hunion := (hothers.symm.trans halike).union hown
    rwa [show {u | u ≠ id} ∪ {id} = Set.univ from Set.compl_union_self {id}] at hunion
  have hreach : Reachable s' := hs' ▸ hs.apply _
  obtain ⟨hanswer, -, -, hafter⟩ :=
    Prog.run_congr (T := fun s t => Reachable s ∧ Reachable t ∧ AlikeOn Set.univ s t)
      (fun β c s t => methods_alike c) p ⟨hreach, ht.reachable, hall⟩
  exact ⟨hanswer, hafter⟩

/-- A store with one event on the stream `other`. -/
def otherOnly : Store := runOps [.append 0 { streamID := "other" }] newStore

/-- What is done to the stream `s`: events under an idempotency key, an acknowledgement, a snapshot
and a bound on the number of events. -/
def aboutS : List Op :=
  [.append 0 { streamID := "s", idempotencyKey := "k" }, .append 0 { streamID := "s" },
    .ack { subscriberID := "device", streamID := "s", seq := 2 },
    .putSnapshot { streamID := "s", seq := 2, payloadType := "json" },
    .setStreamRetention 0 { streamID := "s", maxEvents := 1 }]

/-- The client appends under the key again, and asks for the cursor and the statistics. -/
def startsOver : Prog StoreMethod
    (Except GoError AppendResult × Except GoError SubscriberCursor × Except GoError StreamStats) :=
  .call (.append 0 { streamID := "s", idempotencyKey := "k" }) fun result =>
    .call (.getCursor "device" "s") fun cursor =>
      .call (.getStreamStats "s") fun stats => .ret (result, cursor, stats)

/-- A stream that is made again begins anew. -/
theorem deleted_like_untouched_startsOver :
    (startsOver.run methods ((runOps aboutS otherOnly).deleteStream "s").2).1 =
        (startsOver.run methods otherOnly).1 ∧
      (startsOver.run methods otherOnly).1 =
        (.ok { event := { streamID := "s", seq := 1, idempotencyKey := "k" } },
          .ok { subscriberID := "device", cursor := { streamID := "s" } },
          .ok { streamID := "s", eventCount := 1, headSeq := 1 }) := by
  have hreach : Reachable (runOps aboutS otherOnly) :=
    ⟨.append 0 { streamID := "other" } :: aboutS, rfl⟩
  have hothers : AlikeOn {u | u ≠ "s"} otherOnly (runOps aboutS otherOnly) :=
    .runOps_self otherOnly (by simp [aboutS, Op.streamID])
  have huntouched : Untouched "s" otherOnly :=
    ⟨[.append 0 { streamID := "other" }], by simp [Op.streamID], rfl⟩
  have hdelete : (runOps aboutS otherOnly).deleteStream "s" =
      (.ok true, ((runOps aboutS otherOnly).deleteStream "s").2) := rfl
  obtain ⟨-, -, hall⟩ := deleted_like_untouched hreach rfl hdelete
  exact ⟨(hall otherOnly huntouched hothers.symm startsOver).1, rfl⟩

end Synclog.Memory
