import Synclog.Lib.Pool
import Synclog.Memory.Idempotency
import Synclog.Memory.Journal
import Synclog.Memory.Latest
import Synclog.Memory.Retention

/-!
# The memory store answers as its journal does

* `Indexes st L` — the record of a stream stands for a log, and its map of the idempotency keys
  leads to the first event with each key.
* `StandsFor s J` — the store `s` stands for the journal `J`.
* `methods_journal` — a method answers what the journal answers, and the store it leaves stands for
  the journal that is left.
* `Reachable.standsFor` — every reachable store stands for a journal.
* `refines_journal` — no clients of the store, however many and in whatever order they take turns,
  can tell it from the journal.
-/

namespace Synclog.Memory

open Synclog.Lib Synclog.Core

/-! ## One stream -/

/-- The record stands for the log, and its map of the keys leads to the first event with each. -/
structure Indexes (st : StreamState) (L : TrimmedLog Event) : Prop extends Represents st L where
  index : ∀ key, key ≠ "" → st.idempotency.lookup key =
    (L.all.find? fun event => event.idempotencyKey == key).map Event.seq

namespace Indexes

variable {st : StreamState} {L : TrimmedLog Event}

/-- A new stream stands for the empty log. -/
theorem fresh : Indexes {} .empty where
  toRepresents := .fresh
  index := by
    intro key _
    simp [TrimmedLog.empty]

/-- The next event is the one that the journal records. -/
theorem nextEvent_eq (h : Indexes st L) (req : AppendRequest) :
    st.nextEvent req = Journal.eventFor req (L.head + 1) := by
  unfold StreamState.nextEvent Journal.eventFor
  rw [h.head]

/-- A pushed event is appended to the log. -/
theorem push (h : Indexes st L) {req : AppendRequest}
    (hfresh : req.idempotencyKey ≠ "" → st.idempotency.lookup req.idempotencyKey = none) :
    Indexes (st.push req) (L.append (Journal.eventFor req (L.head + 1))) where
  toRepresents := by
    rw [← h.nextEvent_eq]
    exact h.toRepresents.push req
  index := by
    intro key hkey
    rw [← h.nextEvent_eq]
    have hnew : (st.nextEvent req).idempotencyKey ≠ "" →
        st.idempotency.lookup (st.nextEvent req).idempotencyKey = none := hfresh
    exact Recorded.indexed_append h.index hnew rfl hkey

/-- Dropping the oldest events trims the log. -/
theorem dropFront (h : Indexes st L) (n : Nat) : Indexes (st.dropFront n) (L.trim n) where
  toRepresents := h.toRepresents.dropFront n
  index := h.index

/-- What retention removes from the record it forgets in the log. -/
theorem applyRetention (h : Indexes st L) (retention : StreamRetention) (now : Int) :
    Indexes (st.applyRetention retention now)
      (L.trim (max (Journal.expired L.retained retention now)
        (Journal.overflowing L.retained retention))) := by
  have hexpired : Journal.expired L.retained retention now = st.expired retention now := by
    rw [← h.events]
    rfl
  have hoverflowing : Journal.overflowing L.retained retention = st.overflowing retention := by
    rw [← h.events]
    rfl
  have hle := st.expired_le retention now
  have hle' := st.overflowing_le retention
  rw [hexpired, hoverflowing]
  unfold StreamState.applyRetention
  simp only [st.removeCount_eq]
  split_ifs with hempty hnone hall
  · have hzero : max (st.expired retention now) (st.overflowing retention) = 0 := by omega
    rw [hzero, TrimmedLog.trim_zero]
    exact h
  · have hzero : max (st.expired retention now) (st.overflowing retention) = 0 := by omega
    rw [hzero, TrimmedLog.trim_zero]
    exact h
  · omega
  · exact h.dropFront _

/-- What `TruncateBefore` removes from the record is forgotten in the log, up to the bound. -/
theorem keepFrom_eq (h : Indexes st L) (before : Nat) :
    st.keepFrom before = (L.forgetTo (before - 1)).base - L.base := by
  have hle : L.base ≤ L.head := L.base_le
  unfold StreamState.keepFrom
  rw [h.numbered_retained.length_takeWhile, h.length_events, TrimmedLog.base_forgetTo]
  omega

/-- A truncation forgets what is below its bound. -/
theorem truncate (h : Indexes st L) (before : Nat) :
    Indexes (st.dropFront (st.keepFrom before)) (L.forgetTo (before - 1)) := by
  have hsame : L.forgetTo (before - 1) = L.trim (st.keepFrom before) := by
    have hle : L.base ≤ L.head := L.base_le
    apply TrimmedLog.ext
    · rfl
    · rw [h.keepFrom_eq, TrimmedLog.base_forgetTo]
      show _ = min (L.base + (max L.base (min (before - 1) L.head) - L.base)) L.head
      omega
  rw [hsame]
  exact h.dropFront _

/-- An event of the log is found by its seq unless it is forgotten. -/
theorem eventBySeq (h : Indexes st L) {event : Event} (hmem : event ∈ L.all) :
    st.eventBySeq event.seq = if L.base < event.seq then some event else none := by
  have hsame : ∀ e ∈ st.events, e.seq = event.seq → e = event := by
    intro e he heq
    rw [h.events] at he
    exact h.numbered.injective (List.mem_of_mem_drop he) hmem heq
  have hretained : event ∈ st.events ↔ L.base < event.seq := by
    rw [h.events, TrimmedLog.retained, h.numbered.mem_drop_iff hmem]
    omega
  unfold StreamState.eventBySeq
  split_ifs with hlt
  · rcases hfound : st.events.find? fun e => e.seq == event.seq with _ | e
    · have hnot := List.find?_eq_none.mp hfound event (hretained.mpr hlt)
      simp at hnot
    · have hseq := List.find?_some hfound
      obtain rfl := hsame e (List.mem_of_find?_eq_some hfound) (beq_iff_eq.mp hseq)
      exact hfound
  · refine List.find?_eq_none.mpr fun e he hseq => hlt (hretained.mp ?_)
    rw [← hsame e he (beq_iff_eq.mp hseq)]
    exact he

end Indexes

/-! ## The store -/

/-- The store stands for the journal. -/
structure StandsFor (s : Store) (J : Journal) : Prop where
  logs : ∀ id, Option.Rel Indexes (s.streams.lookup id) (J.logs id)
  cursors : ∀ key, s.cursors.lookup key = J.cursors key
  snapshots : ∀ key, s.snapshots.lookup key = J.snapshots key
  retention : ∀ id, s.retention.lookup id = J.retention id
  waiting : ∀ id, s.waiting id = J.waiting id

namespace StandsFor

variable {s : Store} {J : Journal} {id : StreamID}

/-- A new store stands for the empty journal. -/
theorem newStore : StandsFor newStore {} where
  logs _ := .none
  cursors _ := rfl
  snapshots _ := rfl
  retention _ := rfl
  waiting _ := rfl

/-- A stream that does not exist stands for the empty log. -/
theorem stream (h : StandsFor s J) (id : StreamID) : Indexes (s.ensureStream id) (J.logOf id) := by
  have hlog := h.logs id
  unfold Store.ensureStream Journal.logOf
  generalize s.streams.lookup id = o, J.logs id = o' at hlog
  rcases hlog with hst | _
  · assumption
  · exact .fresh

/-- A stream is set in both. -/
theorem setStream (h : StandsFor s J) {st : StreamState} {L : TrimmedLog Event}
    (hst : Indexes st L) : StandsFor (s.setStream id st) (J.setLog id L) where
  logs u := by
    rw [Store.streams_setStream, FinMap.lookup_insert_eq_ite]
    rw [Journal.logs_setLog]
    split_ifs
    · exact .some hst
    · exact h.logs u
  cursors := h.cursors
  snapshots := h.snapshots
  retention := h.retention
  waiting := h.waiting

/-- Writing back what is there changes nothing. -/
theorem setStream_same (h : StandsFor s J) {st : StreamState}
    (hst : s.streams.lookup id = some st) : StandsFor (s.setStream id st) J where
  logs u := by
    rw [Store.streams_setStream, FinMap.lookup_insert_eq_ite]
    split_ifs with hu
    · rw [← hst, ← hu]
      exact h.logs u
    · exact h.logs u
  cursors := h.cursors
  snapshots := h.snapshots
  retention := h.retention
  waiting := h.waiting

/-- Retention trims both. -/
theorem applyRetentionLocked (h : StandsFor s J) (now : Int) (id : StreamID) :
    StandsFor (s.applyRetentionLocked now id) (J.retain now id) := by
  have hlog := h.logs id
  have hlogs : ∀ u, Option.Rel Indexes ((s.applyRetentionLocked now id).streams.lookup u)
      ((J.retain now id).logs u) := by
    intro u
    rw [Journal.logs_retain, ← h.retention id]
    unfold Store.applyRetentionLocked
    generalize hst : s.streams.lookup id = o, hL : J.logs id = o' at hlog
    rcases hlog with hindexes | _
    · rcases s.retention.lookup id with _ | retention
      · simp only [Option.map_some, Journal.keeping]
        split_ifs with hu
        · rw [hu, hst]
          exact .some hindexes
        · exact h.logs u
      · simp only [Option.map_some, Store.streams_setStream, FinMap.lookup_insert_eq_ite]
        split_ifs
        · exact .some (hindexes.applyRetention retention now)
        · exact h.logs u
    · simp only [Option.map_none]
      split_ifs with hu
      · rw [hu, hst]
        exact .none
      · exact h.logs u
  have hkept : ∃ streams, s.applyRetentionLocked now id = { s with streams } := by
    unfold Store.applyRetentionLocked
    split
    · exact ⟨_, rfl⟩
    · exact ⟨s.streams, rfl⟩
  obtain ⟨streams, hkept⟩ := hkept
  rw [hkept] at hlogs ⊢
  exact ⟨hlogs, h.cursors, h.snapshots, h.retention, h.waiting⟩

/-- A notification wakes the same waiters. -/
theorem notifyStreamLocked (h : StandsFor s J) (id : StreamID) (head : Nat) :
    StandsFor (s.notifyStreamLocked id head) (J.wake id head) := by
  have hwaiting : ∀ u, (s.notifyStreamLocked id head).waiting u = (J.wake id head).waiting u := by
    intro u
    rw [Store.waiting_notifyStreamLocked, Journal.waiting_wake, h.waiting id, h.waiting u]
  obtain ⟨watchers, closed, hkept⟩ := s.notifyStreamLocked_kept id head
  rw [hkept] at hwaiting ⊢
  exact ⟨h.logs, h.cursors, h.snapshots, h.retention, hwaiting⟩

/-! ### One method each -/

/-- The map of the keys and the log find the same event. -/
theorem firstWith (h : StandsFor s J) {key : String} (hkey : key ≠ "") :
    (s.ensureStream id).idempotency.lookup key =
      (Journal.firstWith (J.logOf id) key).map Event.seq := by
  unfold Journal.firstWith
  rw [if_neg hkey]
  exact (h.stream id).index key hkey

/-- An append is answered alike, and recorded in both. -/
theorem append (h : StandsFor s J) (now : Int) (req : AppendRequest) :
    (s.append now req).1 = (J.append now req).1 ∧
      StandsFor (s.append now req).2 (J.append now req).2 := by
  have hstream := h.stream req.streamID
  by_cases hid : req.streamID = ""
  · unfold Store.append Journal.append
    rw [if_pos hid, if_pos hid]
    exact ⟨rfl, h⟩
  rcases hfirst : Journal.firstWith (J.logOf req.streamID) req.idempotencyKey with _ | event
  · -- the key is new
    have hnew : req.idempotencyKey ≠ "" →
        (s.ensureStream req.streamID).idempotency.lookup req.idempotencyKey = none := by
      intro hkey
      rw [h.firstWith hkey, hfirst]
      rfl
    have hmade : StandsFor ((s.setStream req.streamID (s.ensureStream req.streamID)).setStream
        req.streamID ((s.ensureStream req.streamID).push req))
        (J.setLog req.streamID ((J.logOf req.streamID).append
          (Journal.eventFor req ((J.logOf req.streamID).head + 1)))) := by
      have hensured : StandsFor (s.setStream req.streamID (s.ensureStream req.streamID))
          (J.setLog req.streamID (J.logOf req.streamID)) := h.setStream hstream
      have hpushed : StandsFor _ (Journal.setLog _ req.streamID _) :=
        hensured.setStream (hstream.push hnew)
      have htwice : (J.setLog req.streamID (J.logOf req.streamID)).setLog req.streamID
          ((J.logOf req.streamID).append
            (Journal.eventFor req ((J.logOf req.streamID).head + 1))) =
          J.setLog req.streamID ((J.logOf req.streamID).append
            (Journal.eventFor req ((J.logOf req.streamID).head + 1))) := by
        unfold Journal.setLog
        simp
      rwa [htwice] at hpushed
    rw [Store.append_new hid hnew, hstream.nextEvent_eq, hstream.head]
    unfold Journal.append
    rw [if_neg hid]
    simp only [hfirst]
    exact ⟨trivial, (hmade.applyRetentionLocked now req.streamID).notifyStreamLocked _ _⟩
  · -- the key is in the log already
    have hkey : req.idempotencyKey ≠ "" := by
      intro hkey
      unfold Journal.firstWith at hfirst
      rw [if_pos hkey] at hfirst
      cases hfirst
    have hlookup : (s.ensureStream req.streamID).idempotency.lookup req.idempotencyKey =
        some event.seq := by
      rw [h.firstWith hkey, hfirst]
      rfl
    have hmem : event ∈ (J.logOf req.streamID).all := by
      unfold Journal.firstWith at hfirst
      rw [if_neg hkey] at hfirst
      exact List.mem_of_find?_eq_some hfirst
    obtain ⟨st, hst⟩ := Store.exists_of_key hlookup
    have hafter := (Store.append_found now hid hkey hlookup).2
    have hanswer := Store.append_answer s now hid hkey
    simp only [hlookup, hstream.eventBySeq hmem] at hanswer
    have hsame : StandsFor (s.append now req).2 J := by
      rw [hafter, Store.ensureStream_of_lookup hst]
      exact h.setStream_same hst
    unfold Journal.append
    rw [if_neg hid, hanswer]
    simp only [hfirst]
    split_ifs
    · exact ⟨rfl, hsame⟩
    · exact ⟨rfl, hsame⟩

/-- The store holds the log of the journal. -/
theorem holds (h : StandsFor s J) (id : StreamID) : s.Holds id (J.logOf id) :=
  (h.stream id).toRepresents

/-- The head is answered alike. -/
theorem getHead (h : StandsFor s J) (id : StreamID) : s.getHead id = J.getHead id := by
  unfold Journal.getHead
  split_ifs with hid
  · unfold Store.getHead
    rw [if_pos hid]
  · exact (h.holds id).getHead hid

/-- Events are read alike. -/
theorem read (h : StandsFor s J) (id : StreamID) (after : Nat) (limit : Int) :
    s.read id after limit = J.read id after limit := by
  unfold Journal.read
  by_cases hid : id = ""
  · unfold Store.read
    rw [if_pos hid, if_pos hid]
  · rw [if_neg hid]
    exact (h.holds id).read hid after limit

/-- A creation is answered alike, and made in both. -/
theorem createStream (h : StandsFor s J) (id : StreamID) :
    (s.createStream id).1 = (J.createStream id).1 ∧
      StandsFor (s.createStream id).2 (J.createStream id).2 := by
  unfold Store.createStream Journal.createStream
  split_ifs
  · exact ⟨rfl, h⟩
  · exact ⟨rfl, h.setStream (h.stream id)⟩

/-- A stream exists in both or in neither. -/
theorem exists_iff (h : StandsFor s J) (id : StreamID) :
    (s.streams.lookup id).isSome = (J.logs id).isSome := by
  have hlog := h.logs id
  generalize s.streams.lookup id = o, J.logs id = o' at hlog
  cases hlog <;> rfl

/-- A deletion is answered alike, and made in both. -/
theorem deleteStream (h : StandsFor s J) (id : StreamID) :
    (s.deleteStream id).1 = (J.deleteStream id).1 ∧
      StandsFor (s.deleteStream id).2 (J.deleteStream id).2 := by
  unfold Store.deleteStream Journal.deleteStream
  rw [h.exists_iff]
  split_ifs
  · exact ⟨rfl, h⟩
  · refine ⟨rfl, ?_, ?_, ?_, ?_, h.waiting⟩
    · intro u
      simp only [FinMap.lookup_erase_eq_ite, Function.update_apply]
      split_ifs
      · exact .none
      · exact h.logs u
    · intro key
      simp only [FinMap.lookup_keep, ← h.cursors key]
      by_cases hkey : key.streamID = id <;> simp [hkey]
    · intro key
      simp only [FinMap.lookup_keep, ← h.snapshots key]
      by_cases hkey : key.streamID = id <;> simp [hkey]
    · intro u
      simp only [FinMap.lookup_erase_eq_ite, Function.update_apply, h.retention u]

/-- A truncation is answered alike, and made in both. -/
theorem truncateBefore (h : StandsFor s J) (id : StreamID) (before : Nat) :
    (s.truncateBefore id before).1 = (J.truncateBefore id before).1 ∧
      StandsFor (s.truncateBefore id before).2 (J.truncateBefore id before).2 := by
  have hlog := h.logs id
  unfold Store.truncateBefore Journal.truncateBefore Journal.logOf
  split_ifs
  · exact ⟨rfl, h⟩
  generalize hst : s.streams.lookup id = o, hL : J.logs id = o' at hlog
  rcases hlog with hindexes | _
  · rename_i st L
    refine ⟨congrArg Except.ok (hindexes.keepFrom_eq before), ?_⟩
    have hforget : J.forget id (before - 1) = J.setLog id (L.forgetTo (before - 1)) := by
      unfold Journal.forget Journal.setLog
      rw [hL, Option.map_some]
    simp only [hforget]
    exact h.setStream (hindexes.truncate before)
  · refine ⟨by simp [TrimmedLog.empty, TrimmedLog.head], ?_⟩
    have hforget : J.forget id (before - 1) = J := by
      unfold Journal.forget
      rw [hL, Option.map_none, ← hL, Function.update_eq_self]
    simp only [hforget]
    exact h

/-- The smallest cursor is the same. -/
theorem minCursor (h : StandsFor s J) (id : StreamID) : s.minCursor id = J.minCursor id := by
  have hmem : ∀ seq, seq ∈ Store.storedSeqs id s.cursors.entries ↔ seq ∈ J.cursorSeqs id := by
    intro seq
    rw [Store.mem_storedSeqs]
    simp only [h.cursors]
    rfl
  unfold Journal.minCursor
  rcases hmin : s.minCursor id with _ | minSeq
  · rw [if_neg]
    rintro ⟨seq, hseq⟩
    rw [Store.minCursor_eq, List.argmin_eq_none] at hmin
    rw [← hmem, hmin] at hseq
    simp at hseq
  · obtain ⟨hin, hleast⟩ := Store.minCursor_eq_some_iff.mp hmin
    have hne : (J.cursorSeqs id).Nonempty := ⟨minSeq, (hmem minSeq).mp hin⟩
    rw [if_pos hne]
    refine congrArg some (le_antisymm ?_ (Nat.sInf_le ((hmem minSeq).mp hin)))
    exact hleast _ ((hmem _).mpr (Nat.sInf_mem hne))

/-- The smallest cursor, which is `0` where there is none. -/
theorem sInf_cursorSeqs (h : StandsFor s J) (id : StreamID) :
    sInf (J.cursorSeqs id) = (s.minCursor id).getD 0 := by
  rw [h.minCursor]
  unfold Journal.minCursor
  split_ifs with hne
  · rfl
  · rw [Set.not_nonempty_iff_eq_empty.mp hne, Nat.sInf_empty]
    rfl

/-- A compaction is answered alike, and made in both. -/
theorem compactStream (h : StandsFor s J) (id : StreamID) :
    (s.compactStream id).1 = (J.compact id).1 ∧
      StandsFor (s.compactStream id).2 (J.compact id).2 := by
  unfold Store.compactStream Journal.compact
  rw [h.sInf_cursorSeqs]
  by_cases hid : id = ""
  · rw [if_pos hid, if_pos hid]
    exact ⟨rfl, h⟩
  rw [if_neg hid, if_neg hid]
  rcases s.minCursor id with _ | minSeq
  · exact ⟨rfl, h⟩
  simp only [Option.getD_some]
  split_ifs
  · obtain ⟨hanswer, hafter⟩ := h.truncateBefore id (Store.compactBound minSeq)
    unfold Journal.truncateBefore at hanswer hafter
    rw [if_neg hid] at hanswer hafter
    rcases htruncate : s.truncateBefore id (Store.compactBound minSeq) with ⟨answer, t⟩
    rw [htruncate] at hanswer hafter
    obtain rfl : answer = _ := hanswer
    exact ⟨rfl, hafter⟩
  · exact ⟨rfl, h⟩

/-- A retention is set, and answered, alike. -/
theorem setStreamRetention (h : StandsFor s J) (now : Int) (retention : StreamRetention) :
    (s.setStreamRetention now retention).1 = (J.setStreamRetention now retention).1 ∧
      StandsFor (s.setStreamRetention now retention).2 (J.setStreamRetention now retention).2 := by
  unfold Store.setStreamRetention Journal.setStreamRetention
  split_ifs
  · exact ⟨rfl, h⟩
  · have hset : StandsFor
        { s with retention := s.retention.insert retention.streamID retention }
        { J with
          retention := Function.update J.retention retention.streamID (some retention) } := by
      refine ⟨h.logs, h.cursors, h.snapshots, fun u => ?_, h.waiting⟩
      simp only [FinMap.lookup_insert_eq_ite, Function.update_apply, h.retention u]
    exact ⟨rfl, hset.applyRetentionLocked now retention.streamID⟩

/-- A wait is answered alike, and begun in both. -/
theorem waitForStream (h : StandsFor s J) (id : StreamID) (after : Nat) :
    (s.waitForStream id after).1 = (J.waitForStream id after).1 ∧
      StandsFor (s.waitForStream id after).2 (J.waitForStream id after).2 := by
  have hhead : s.headOf id = (J.logOf id).head := (h.holds id).head
  unfold Store.waitForStream Journal.waitForStream
  rw [Store.registerWatcher_eq, hhead]
  split_ifs
  · exact ⟨rfl, h⟩
  · exact ⟨rfl, h⟩
  · refine ⟨rfl, h.logs, h.cursors, h.snapshots, h.retention, fun u => ?_⟩
    simp only [Store.waiting_register, Function.update_apply, h.waiting]

/-- A waiter is taken out of both. -/
theorem giveUp (h : StandsFor s J) (hs : WatchersOk s) (id : StreamID) (i : Nat) :
    StandsFor (s.giveUp id i) (J.giveUp id i) := by
  have hwaiting : ∀ u, (s.giveUp id i).waiting u = (J.giveUp id i).waiting u := by
    intro u
    rw [Store.waiting_giveUp hs, Journal.waiting_giveUp, h.waiting id, h.waiting u]
  obtain ⟨watchers, hkept⟩ := s.giveUp_kept id i
  rw [hkept] at hwaiting ⊢
  exact ⟨h.logs, h.cursors, h.snapshots, h.retention, hwaiting⟩

/-- A cursor is the same in both. -/
theorem cursorOf (h : StandsFor s J) (subscriberID : SubscriberID) (id : StreamID) :
    s.cursorOf subscriberID id = J.cursorOf subscriberID id := by
  unfold Store.cursorOf Journal.cursorOf
  rw [h.cursors]

/-- A cursor is answered alike. -/
theorem getCursor (h : StandsFor s J) (subscriberID : SubscriberID) (id : StreamID) :
    s.getCursor subscriberID id = J.getCursor subscriberID id := by
  unfold Journal.getCursor Journal.named
  split_ifs with hsub hid
  · unfold Store.getCursor
    rw [if_pos hsub]
  · unfold Store.getCursor
    rw [if_neg hsub, if_pos hid]
  · rw [Store.getCursor_eq s hsub hid, h.cursorOf]

/-- A cursor is set in both. -/
theorem setCursor (h : StandsFor s J) (subscriberID : SubscriberID) (id : StreamID)
    (cursor : SubscriberCursor) :
    StandsFor { s with cursors := s.cursors.insert ⟨subscriberID, id⟩ cursor }
      (J.setCursor subscriberID id cursor) := by
  refine ⟨h.logs, fun key => ?_, h.snapshots, h.retention, h.waiting⟩
  rw [Journal.cursors_setCursor, ← h.cursors key]
  exact FinMap.lookup_insert_eq_ite ..

/-- An acknowledgement is answered alike, and made in both. -/
theorem ack (h : StandsFor s J) (hs : CursorsNamed s) (req : AckRequest) :
    (s.ack req).1 = (J.ack req).1 ∧ StandsFor (s.ack req).2 (J.ack req).2 := by
  unfold Journal.ack Journal.named
  by_cases hsub : req.subscriberID = ""
  · unfold Store.ack
    simp only [if_pos hsub, if_pos (Or.inl hsub : req.subscriberID = "" ∨ req.streamID = "")]
    exact ⟨trivial, h⟩
  by_cases hid : req.streamID = ""
  · unfold Store.ack
    simp only [if_neg hsub, if_pos hid,
      if_pos (Or.inr hid : req.subscriberID = "" ∨ req.streamID = "")]
    exact ⟨trivial, h⟩
  rw [Store.ack_eq hs hsub hid, if_neg (not_or.mpr ⟨hsub, hid⟩)]
  unfold Store.committed
  rw [h.cursorOf]
  simp only
  split_ifs
  · exact ⟨rfl, h.setCursor _ _ _⟩
  · exact ⟨rfl, h⟩

/-- A reset is answered alike, and made in both. -/
theorem resetCursor (h : StandsFor s J) (subscriberID : SubscriberID) (id : StreamID) (seq : Nat)
    (metadata : String) :
    (s.resetCursor subscriberID id seq metadata).1 =
        (J.resetCursor subscriberID id seq metadata).1 ∧
      StandsFor (s.resetCursor subscriberID id seq metadata).2
        (J.resetCursor subscriberID id seq metadata).2 := by
  unfold Store.resetCursor Journal.resetCursor Journal.named
  by_cases hsub : subscriberID = ""
  · simp only [if_pos hsub, if_pos (Or.inl hsub : subscriberID = "" ∨ id = "")]
    exact ⟨trivial, h⟩
  by_cases hid : id = ""
  · simp only [if_neg hsub, if_pos hid, if_pos (Or.inr hid : subscriberID = "" ∨ id = "")]
    exact ⟨trivial, h⟩
  rw [if_neg hsub, if_neg hid, if_neg (not_or.mpr ⟨hsub, hid⟩)]
  exact ⟨rfl, h.setCursor _ _ _⟩

/-- A snapshot is put, and answered, alike. -/
theorem putSnapshot (h : StandsFor s J) (req : PutSnapshotRequest) :
    (s.putSnapshot req).1 = (J.putSnapshot req).1 ∧
      StandsFor (s.putSnapshot req).2 (J.putSnapshot req).2 := by
  have hstored : StandsFor (Store.putSnapshot.store req s (Store.snapshotKeyOf req)).2
      { J with
        snapshots := Function.update J.snapshots (Store.snapshotKeyOf req)
          (some (Store.newSnapshot req)) } := by
    refine ⟨h.logs, h.cursors, fun key => ?_, h.retention, h.waiting⟩
    unfold Store.putSnapshot.store
    simp only [FinMap.lookup_insert_eq_ite, Function.update_apply, h.snapshots key]
  unfold Store.putSnapshot Journal.putSnapshot
  rcases Store.checkSnapshotKey req.streamID req.payloadType with err | ⟨⟩
  · exact ⟨rfl, h⟩
  simp only [h.snapshots]
  rcases J.snapshots (Store.snapshotKeyOf req) with _ | existing
  · exact ⟨rfl, hstored⟩
  · by_cases hsum : existing.ref.checksum = req.checksum
    · simp only [Option.filter, hsum, decide_true, if_true]
      exact ⟨trivial, h⟩
    · simp only [Option.filter, hsum, decide_false, if_false, Bool.false_eq_true]
      exact ⟨rfl, hstored⟩

/-- A snapshot is answered alike. -/
theorem getSnapshot (h : StandsFor s J) (key : SnapshotKey) :
    s.getSnapshot key = J.getSnapshot key := by
  unfold Store.getSnapshot Journal.getSnapshot
  rcases Store.checkSnapshotKey key.streamID key.payloadType with err | ⟨⟩
  · rfl
  · rw [h.snapshots]
    cases J.snapshots key <;> rfl

/-- The latest snapshot is answered alike. -/
theorem getLatestSnapshot (h : StandsFor s J) (hs : Reachable s) (id : StreamID)
    (payloadType : String) (maxPayloadVersion : Nat) :
    s.getLatestSnapshot id payloadType maxPayloadVersion =
      J.latest id payloadType maxPayloadVersion := by
  have heligible : J.eligible id payloadType maxPayloadVersion =
      Eligible s id payloadType maxPayloadVersion := by
    ext snapshot
    rw [← mem_candidates_iff_eligible hs, Store.mem_candidates]
    unfold Journal.eligible
    simp only [Set.mem_ofPred_eq, ← h.snapshots]
    refine exists_congr fun key => and_congr_right fun _ => ?_
    simp [Store.compatible, and_assoc, Nat.pos_iff_ne_zero]
  rcases hcheck : Store.checkSnapshotKey id payloadType with err | ⟨⟩
  · unfold Store.getLatestSnapshot Journal.latest
    rw [hcheck]
  unfold Journal.latest
  simp only [hcheck]
  split_ifs with hbest
  · refine (getLatestSnapshot_ok_iff_greatest hs).mpr ?_
    rw [← heligible]
    exact hbest.choose_spec
  · rcases hanswer : s.getLatestSnapshot id payloadType maxPayloadVersion with err | snapshot
    · unfold Store.getLatestSnapshot at hanswer
      simp only [hcheck] at hanswer
      split at hanswer
      · cases hanswer
        rfl
      · cases hanswer
    · have hgreatest := (getLatestSnapshot_ok_iff_greatest hs).mp hanswer
      rw [← heligible] at hgreatest
      exact absurd ⟨snapshot, hgreatest⟩ hbest

/-- A snapshot is deleted, and answered, alike. -/
theorem deleteSnapshot (h : StandsFor s J) (key : SnapshotKey) :
    (s.deleteSnapshot key).1 = (J.deleteSnapshot key).1 ∧
      StandsFor (s.deleteSnapshot key).2 (J.deleteSnapshot key).2 := by
  unfold Store.deleteSnapshot Journal.deleteSnapshot
  rcases Store.checkSnapshotKey key.streamID key.payloadType with err | ⟨⟩
  · exact ⟨rfl, h⟩
  simp only [h.snapshots]
  rcases hkept : J.snapshots key with _ | snapshot
  · refine ⟨rfl, h.logs, h.cursors, fun key' => ?_, h.retention, h.waiting⟩
    simp only [Function.update_apply, h.snapshots]
    split_ifs with hkey
    · rw [hkey, hkept]
    · rfl
  · refine ⟨rfl, h.logs, h.cursors, fun key' => ?_, h.retention, h.waiting⟩
    simp only [FinMap.lookup_erase_eq_ite, Function.update_apply, h.snapshots]

/-- The subscribers that have a cursor on the stream, counted in the map and in the journal. -/
theorem subscriberCount (h : StandsFor s J) (id : StreamID) :
    (s.cursors.keys.countP fun key => key.streamID = id) =
      {subscriberID | (J.cursors ⟨subscriberID, id⟩).isSome}.ncard := by
  have hnodup : ((s.cursors.keys.filter fun key => key.streamID = id).map
      (·.subscriberID)).Nodup := by
    refine List.Nodup.map_on ?_ (s.cursors.nodupKeys.filter _)
    intro key hkey key' hkey' hsame
    rw [List.mem_filter, decide_eq_true_eq] at hkey hkey'
    rcases key with ⟨b, u⟩
    rcases key' with ⟨b', u'⟩
    obtain rfl : b = b' := hsame
    obtain rfl : u = id := hkey.2
    obtain rfl : u' = u := hkey'.2
    rfl
  have hset : {subscriberID | (J.cursors ⟨subscriberID, id⟩).isSome} =
      (((s.cursors.keys.filter fun key => key.streamID = id).map
        (·.subscriberID)).toFinset : Set SubscriberID) := by
    ext b
    simp only [Set.mem_ofPred_eq, ← h.cursors, AList.lookup_isSome, List.coe_toFinset,
      List.mem_map, List.mem_filter, decide_eq_true_eq]
    constructor
    · intro hmem
      exact ⟨⟨b, id⟩, ⟨AList.mem_keys.mp hmem, rfl⟩, rfl⟩
    · rintro ⟨⟨b', u⟩, ⟨hmem, rfl⟩, rfl⟩
      exact AList.mem_keys.mpr hmem
  rw [hset, Set.ncard_coe_finset, List.toFinset_card_of_nodup hnodup, List.length_map,
    List.countP_eq_length_filter]

/-- The numbers of a stream are answered alike. -/
theorem getStreamStats (h : StandsFor s J) (id : StreamID) :
    s.getStreamStats id = J.getStreamStats id := by
  have hlog := h.logs id
  unfold Store.getStreamStats Journal.getStreamStats Journal.logOf
  rw [h.subscriberCount]
  split_ifs
  · rfl
  generalize s.streams.lookup id = o, J.logs id = o' at hlog
  rcases hlog with hindexes | _
  · simp only [Option.getD_some, hindexes.head, ← hindexes.events, hindexes.length_events]
  · rfl

/-- The streams that are listed: only their ids are read. -/
theorem listStreams (h : StandsFor s J) (order : List StreamID) (pre : String) (limit : Int) :
    s.listStreams order pre limit = J.listStreams order pre limit := by
  have hkeys : (s.streams.visit order).map (fun entries => entries.map (·.1)) =
      (FinMap.visits J.logs order).map (fun entries => entries.map (·.1)) := by
    rw [FinMap.visit_eq_visits (m := s.streams) fun _ => rfl]
    exact FinMap.map_fst_visits h.exists_iff order
  unfold Store.listStreams Journal.listStreams
  rcases hs : s.streams.visit order with _ | entries
  · rcases hJ : FinMap.visits J.logs order with _ | entries'
    · rfl
    · rw [hs, hJ] at hkeys
      cases hkeys
  · rcases hJ : FinMap.visits J.logs order with _ | entries'
    · rw [hs, hJ] at hkeys
      cases hkeys
    · rw [hs, hJ, Option.map_some, Option.map_some] at hkeys
      simp only [Option.map_some, Option.some.inj hkeys]

/-- The cursors are listed alike. -/
theorem listCursors (h : StandsFor s J) (order : List CursorKey) (id : StreamID) :
    s.listCursors order id = J.listCursors order id := by
  unfold Store.listCursors Journal.listCursors
  rw [FinMap.visit_eq_visits h.cursors]

/-- The snapshots are listed alike. -/
theorem listSnapshots (h : StandsFor s J) (order : List SnapshotKey) (id : StreamID)
    (payloadType : String) (limit : Int) :
    s.listSnapshots order id payloadType limit = J.listSnapshots order id payloadType limit := by
  unfold Store.listSnapshots Journal.listSnapshots
  rw [FinMap.visit_eq_visits h.snapshots]

end StandsFor

/-! ## All methods -/

/-- A method answers what the journal answers, and leaves a store that stands for the journal that
is left. -/
theorem methods_journal {β : Type} (c : StoreMethod β) {s : Store} {J : Journal}
    (h : Reachable s ∧ StandsFor s J) :
    (methods β c s).1 = (journal β c J).1 ∧
      Reachable (methods β c s).2 ∧ StandsFor (methods β c s).2 (journal β c J).2 := by
  obtain ⟨hs, h⟩ := h
  suffices hcall : (methods β c s).1 = (journal β c J).1 ∧
      StandsFor (methods β c s).2 (journal β c J).2 from
    ⟨hcall.1, methods_reachable c hs, hcall.2⟩
  cases c with
  | append now req => exact h.append now req
  | waitForStream streamID after => exact h.waitForStream streamID after
  | giveUp streamID i => exact ⟨rfl, h.giveUp hs.watchersOk streamID i⟩
  | getHead streamID => exact ⟨h.getHead streamID, h⟩
  | read streamID after limit => exact ⟨h.read streamID after limit, h⟩
  | getCursor subscriberID streamID => exact ⟨h.getCursor subscriberID streamID, h⟩
  | ack req => exact h.ack hs.cursorsNamed req
  | createStream streamID => exact h.createStream streamID
  | deleteStream streamID => exact h.deleteStream streamID
  | listStreams order pre limit => exact ⟨h.listStreams order pre limit, h⟩
  | resetCursor subscriberID streamID seq metadata =>
      exact h.resetCursor subscriberID streamID seq metadata
  | listCursors order streamID => exact ⟨h.listCursors order streamID, h⟩
  | truncateBefore streamID before => exact h.truncateBefore streamID before
  | compactStream streamID => exact h.compactStream streamID
  | setStreamRetention now retention => exact h.setStreamRetention now retention
  | getStreamStats streamID => exact ⟨h.getStreamStats streamID, h⟩
  | putSnapshot req => exact h.putSnapshot req
  | getLatestSnapshot streamID payloadType maxPayloadVersion =>
      exact ⟨h.getLatestSnapshot hs streamID payloadType maxPayloadVersion, h⟩
  | getSnapshot key => exact ⟨h.getSnapshot key, h⟩
  | listSnapshots order streamID payloadType limit =>
      exact ⟨h.listSnapshots order streamID payloadType limit, h⟩
  | deleteSnapshot key => exact h.deleteSnapshot key

/-- So does a section. -/
theorem sections_journal {β : Type} (c : StoreSection β) {s : Store} {J : Journal}
    (h : Reachable s ∧ StandsFor s J) :
    (sections β c s).1 = (journalSections β c J).1 ∧
      Reachable (sections β c s).2 ∧ StandsFor (sections β c s).2 (journalSections β c J).2 := by
  rcases c with c | ⟨streamID⟩ | ⟨streamID, before⟩
  · exact methods_journal c h
  · exact ⟨h.2.minCursor streamID, h⟩
  · exact methods_journal (.truncateBefore streamID before) h

/-! ## Reachable stores -/

/-- Whatever happens to the watchers, the journal has the calls that wait then. -/
theorem StandsFor.rewatched {s : Store} {J : Journal} (h : StandsFor s J)
    (watchers : FinMap StreamID (List StreamWatcher)) (closed : List Nat) (made : Nat) :
    StandsFor { s with watchers, closed, made }
      { J with waiting := Store.waiting { s with watchers, closed, made } } :=
  ⟨h.logs, h.cursors, h.snapshots, h.retention, fun _ => rfl⟩

/-- After every operation the store stands for some journal. -/
theorem StandsFor.apply {s : Store} {J : Journal} (hs : Reachable s) (h : StandsFor s J) (op : Op) :
    ∃ K, StandsFor (op.apply s) K := by
  cases op with
  | append now req => exact ⟨_, (h.append now req).2⟩
  | ack req => exact ⟨_, (h.ack hs.cursorsNamed req).2⟩
  | createStream streamID => exact ⟨_, (h.createStream streamID).2⟩
  | deleteStream streamID => exact ⟨_, (h.deleteStream streamID).2⟩
  | resetCursor subscriberID streamID seq metadata =>
      exact ⟨_, (h.resetCursor subscriberID streamID seq metadata).2⟩
  | truncateBefore streamID before => exact ⟨_, (h.truncateBefore streamID before).2⟩
  | compactStream streamID => exact ⟨_, (h.compactStream streamID).2⟩
  | setStreamRetention now retention => exact ⟨_, (h.setStreamRetention now retention).2⟩
  | putSnapshot req => exact ⟨_, (h.putSnapshot req).2⟩
  | deleteSnapshot key => exact ⟨_, (h.deleteSnapshot key).2⟩
  | registerWatcher streamID after =>
      change ∃ K, StandsFor (s.registerWatcher streamID after).2 K
      unfold Store.registerWatcher
      split
      · split_ifs
        · exact ⟨J, h⟩
        · exact ⟨_, h.rewatched _ _ _⟩
      · exact ⟨_, h.rewatched _ _ _⟩
  | removeWatcher streamID ch => exact ⟨_, h.rewatched _ _ _⟩

/-- Every reachable store stands for a journal. -/
theorem Reachable.standsFor {s : Store} (hs : Reachable s) : ∃ J, StandsFor s J := by
  have hboth := hs.invariant (I := fun s => Reachable s ∧ ∃ J, StandsFor s J)
    ⟨⟨[], rfl⟩, {}, .newStore⟩ fun op s ⟨hs, J, hJ⟩ => ⟨hs.apply op, hJ.apply hs op⟩
  exact hboth.2

/-- Any number of clients get as far on a store as on its journal. -/
theorem pool_journal {ι α : Type} [DecidableEq ι] (p : ι → Prog StoreSection α)
    (ls : List (PoolLabel ι Unit)) {s : Store} {J : Journal} (h : Reachable s ∧ StandsFor s J) :
    Option.Rel
      (fun P Q => (Reachable P.shared ∧ StandsFor P.shared Q.shared) ∧ P.running = Q.running)
      ((Pool.machine (fun _ => sections) p).run ls { shared := s })
      ((Pool.machine (fun _ => journalSections) p).run ls { shared := J }) :=
  Pool.run_congr (T := fun s J => Reachable s ∧ StandsFor s J)
    (fun _ _ c _ _ => sections_journal c) ls ⟨h, rfl⟩

/-- A program gets the same answer from a store and from its journal. -/
theorem run_journal {α : Type} (p : Prog StoreSection α) {s : Store} {J : Journal}
    (h : Reachable s ∧ StandsFor s J) :
    (p.run sections s).1 = (p.run journalSections J).1 ∧
      Reachable (p.run sections s).2 ∧
        StandsFor (p.run sections s).2 (p.run journalSections J).2 :=
  Prog.run_congr (T := fun s J => Reachable s ∧ StandsFor s J)
    (fun _ c _ _ => sections_journal c) p h

/-- **The store is its journal.** Any number of clients take turns in any order with the calls of
their programs, on a new store and on an empty journal. They get as far on the one as on the other,
what is left of each program is the same, and so are the answers; and the store stands for the
journal then. -/
theorem refines_journal {ι α : Type} [DecidableEq ι] (p : ι → Prog StoreSection α)
    (ls : List (PoolLabel ι Unit)) :
    Option.Rel
      (fun P Q => P.running = Q.running ∧ P.answer = Q.answer ∧ StandsFor P.shared Q.shared)
      ((Pool.machine (fun _ => sections) p).run ls { shared := newStore })
      ((Pool.machine (fun _ => journalSections) p).run ls { shared := {} }) := by
  have hrun := pool_journal p ls (s := newStore) (J := {}) ⟨⟨[], rfl⟩, .newStore⟩
  generalize (Pool.machine (fun _ => sections) p).run ls { shared := newStore } = o,
    (Pool.machine (fun _ => journalSections) p).run ls { shared := {} } = o' at hrun
  rcases hrun with ⟨⟨-, hstands⟩, hsame⟩ | _
  · exact .some ⟨hsame, Pool.answer_congr hsame, hstands⟩
  · exact .none

/-! ## What clients can tell apart -/

/-- No clients, however many and in whatever order they take turns, can tell the stores apart. -/
def Indistinguishable (s t : Store) : Prop :=
  ∀ (ι α : Type) [DecidableEq ι] (p : ι → Prog StoreSection α) (ls : List (PoolLabel ι Unit)),
    Option.Rel (fun P Q => P.running = Q.running ∧ P.answer = Q.answer)
      ((Pool.machine (fun _ => sections) p).run ls { shared := s })
      ((Pool.machine (fun _ => sections) p).run ls { shared := t })

/-- Stores that stand for the same journal. -/
theorem StandsFor.indistinguishable {s t : Store} {J : Journal} (hs : Reachable s)
    (ht : Reachable t) (hsJ : StandsFor s J) (htJ : StandsFor t J) : Indistinguishable s t := by
  intro ι α _ p ls
  have hrun := Pool.run_congr (h := fun _ : Unit => sections) (g := fun _ => sections) (p := p)
    (T := fun s t => ∃ J, (Reachable s ∧ StandsFor s J) ∧ Reachable t ∧ StandsFor t J)
    (fun _ β c s t ⟨J, hs, ht⟩ => by
      obtain ⟨hsame, hs'⟩ := sections_journal c hs
      obtain ⟨hsame', ht'⟩ := sections_journal c ht
      exact ⟨hsame.trans hsame'.symm, _, hs', ht'⟩) ls
    (show _ ∧ Pool.running { shared := s } = Pool.running { shared := t } from
      ⟨⟨J, ⟨hs, hsJ⟩, ht, htJ⟩, rfl⟩)
  generalize (Pool.machine (fun _ => sections) p).run ls { shared := s } = o,
    (Pool.machine (fun _ => sections) p).run ls { shared := t } = o' at hrun
  rcases hrun with ⟨-, hsame⟩ | _
  · exact .some ⟨hsame, Pool.answer_congr hsame⟩
  · exact .none

end Synclog.Memory
