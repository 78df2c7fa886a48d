import Synclog.Lib.TrimmedLog
import Synclog.Memory.Operations

/-!
# A stream of the memory store is a trimmed log

What a stream is for: an append-only log that numbers its events `1, 2, …` and forgets the oldest
ones (`TrimmedLog Event`). This file connects that statement to the code.

* `Represents st L` — the record `st` of the store stands for the log `L`.
* `Op.streamStep` — the five things an operation can do to a stream: nothing, create it, append
  one event (and trim), trim, delete it. What the operations do to streams is opened up here only.
* `Holds s id L` — the store holds the log `L` under `id`, where a stream that does not exist is
  the empty log. `Holds.getHead` and `Holds.read` are the two reads of the event log on the
  abstract side.
* `Op.holds` — what an operation makes of that log: it appends `Op.appended`, the event that
  `Append` answers unless it found the idempotency key, and forgets some of the oldest events.
* `Reachable.holds` — in every reachable store every stream stands for some trimmed log.
-/

namespace Synclog.Memory

open Synclog.Lib Synclog.Core

/-! ## One stream -/

/-- The record `st` of a stream stands for the log `L`: the same head, the same boundary, the
retained events, numbered from `1`; and each idempotency key leads to an event of the log. -/
structure Represents (st : StreamState) (L : TrimmedLog Event) : Prop where
  head : st.head = L.head
  start : st.retainedSeqStart = L.start
  events : st.events = L.retained
  numbered : Consecutive Event.seq 1 L.all
  keys : ∀ key seq, st.idempotency.lookup key = some seq →
    ∃ event ∈ L.all, event.seq = seq ∧ event.idempotencyKey = key

namespace Represents

variable {st : StreamState} {L : TrimmedLog Event}

/-- The retained events are numbered from behind the trimmed ones. -/
theorem numbered_retained (h : Represents st L) : Consecutive Event.seq (L.base + 1) st.events := by
  rw [h.events, Nat.add_comm]
  exact h.numbered.drop L.base

/-- A stream stores as many events as the log retains. -/
theorem length_events (h : Represents st L) : st.events.length = L.head - L.base := by
  rw [h.events, L.length_retained]

/-- A fresh stream stands for the empty log. -/
theorem fresh : Represents {} TrimmedLog.empty where
  head := rfl
  start := rfl
  events := rfl
  numbered := trivial
  keys := by
    intro key seq hlookup
    simp at hlookup

/-- `Append` appends to the log. -/
theorem push (h : Represents st L) (req : AppendRequest) :
    Represents (st.push req) (L.append (st.nextEvent req)) where
  head := by simp [StreamState.push, h.head]
  start := by
    have hle : L.base ≤ L.head := L.base_le
    have hstart : st.retainedSeqStart = if L.head = 0 then 0 else L.base + 1 := h.start
    rw [TrimmedLog.start_append]
    unfold StreamState.push
    simp only [h.head]
    by_cases hzero : L.head = 0
    · rw [if_pos hzero] at hstart
      rw [if_pos (.inl hstart)]
      omega
    · rw [if_neg hzero] at hstart
      rw [if_neg (by omega), hstart]
  events := by simp [StreamState.push, h.events]
  numbered := by
    simp only [TrimmedLog.append, Consecutive.append_iff, h.numbered, true_and]
    refine ⟨?_, trivial⟩
    show st.head + 1 = 1 + L.all.length
    rw [h.head, TrimmedLog.head]
    omega
  keys := by
    intro key seq hlookup
    have hmem : st.nextEvent req ∈ (L.append (st.nextEvent req)).all := by
      simp [TrimmedLog.append]
    have hold : st.idempotency.lookup key = some seq →
        ∃ event ∈ (L.append (st.nextEvent req)).all,
          event.seq = seq ∧ event.idempotencyKey = key := by
      intro hlookup
      obtain ⟨event, hevent, heq⟩ := h.keys key seq hlookup
      exact ⟨event, List.mem_append_left _ hevent, heq⟩
    unfold StreamState.push at hlookup
    simp only at hlookup
    split_ifs at hlookup with hkey
    · rw [FinMap.lookup_insert_eq_ite] at hlookup
      split_ifs at hlookup with heq
      · cases hlookup
        exact ⟨_, hmem, rfl, heq.symm⟩
      · exact hold hlookup
    · exact hold hlookup

/-- Dropping retained events trims the log. -/
theorem dropFront (h : Represents st L) (n : Nat) : Represents (st.dropFront n) (L.trim n) where
  head := h.head
  start := by
    have hle : L.base ≤ L.head := L.base_le
    have hnum := h.numbered_retained.drop n
    have hlen : (st.events.drop n).length = L.head - L.base - n := by
      rw [List.length_drop, h.length_events]
    have hstart : st.retainedSeqStart = if L.head = 0 then 0 else L.base + 1 := h.start
    rw [TrimmedLog.start_trim]
    unfold StreamState.dropFront
    simp only
    split
    · rename_i event rest hevents
      rw [hevents] at hnum hlen
      have hseq : event.seq = L.base + 1 + n := hnum.1
      simp only [List.length_cons] at hlen
      rw [hseq]
      split_ifs <;> omega
    · rename_i hevents
      rw [hevents] at hlen
      simp only [List.length_nil] at hlen
      rw [h.head, hstart]
      split_ifs <;> omega
  events := by simp [StreamState.dropFront, h.events]
  numbered := h.numbered
  keys := h.keys

end Represents

/-- Retention drops some number of leading events. -/
theorem applyRetention_eq (st : StreamState) (retention : StreamRetention) (now : Int) :
    st.applyRetention retention now = st ∨
      ∃ n, st.applyRetention retention now = st.dropFront n := by
  unfold StreamState.applyRetention
  simp only
  split_ifs
  · exact .inl rfl
  · exact .inl rfl
  · exact .inr ⟨_, rfl⟩
  · exact .inr ⟨_, rfl⟩

/-! ## What an operation can do to a stream -/

/-- The record of a stream after dropping some of its leading events, or as it is. -/
def TrimOf (st st' : StreamState) : Prop := st' = st ∨ ∃ n, st' = st.dropFront n

/-- What an operation other than `DeleteStream` can do to a stream, with the events it appends. -/
inductive StreamStep : List Event → Option StreamState → Option StreamState → Prop
  | same (o : Option StreamState) : StreamStep [] o o
  | create : StreamStep [] none (some {})
  | append (o : Option StreamState) (req : AppendRequest) {st' : StreamState}
      (htrim : TrimOf ((o.getD {}).push req) st') :
      StreamStep [(o.getD {}).nextEvent req] o (some st')
  | trim (st : StreamState) {st' : StreamState} (htrim : TrimOf st st') :
      StreamStep [] (some st) (some st')

namespace Store

/-- The stream is put among the streams. -/
@[simp] theorem streams_setStream (s : Store) (streamID : StreamID) (st : StreamState) :
    (s.setStream streamID st).streams = s.streams.insert streamID st := rfl

/-- A notification leaves the streams alone. -/
@[simp] theorem streams_notifyStreamLocked (s : Store) (streamID : StreamID) (head : Nat) :
    (s.notifyStreamLocked streamID head).streams = s.streams := by
  unfold notifyStreamLocked
  simp only
  split_ifs <;> rfl

/-- Retention trims the stream it is applied to and no other. -/
theorem applyRetentionLocked_streams (s : Store) (now : Int) (streamID id : StreamID) :
    (s.applyRetentionLocked now streamID).streams.lookup id = s.streams.lookup id ∨
      ∃ st st', id = streamID ∧ s.streams.lookup id = some st ∧
        (s.applyRetentionLocked now streamID).streams.lookup id = some st' ∧ TrimOf st st' := by
  unfold applyRetentionLocked
  split
  · rename_i st retention hst hret
    by_cases hid : id = streamID
    · subst hid
      exact .inr ⟨st, _, rfl, hst, by simp, applyRetention_eq st retention now⟩
    · exact .inl (by simp [hid])
  · exact .inl rfl

/-- `TruncateBefore` trims the stream it is called for and no other. -/
theorem truncateBefore_streams (s : Store) (streamID : StreamID) (before : Nat) (id : StreamID) :
    StreamStep [] (s.streams.lookup id)
      ((s.truncateBefore streamID before).2.streams.lookup id) := by
  unfold truncateBefore
  split_ifs with hempty
  · exact .same _
  split
  · exact .same _
  · rename_i st hst
    by_cases hid : id = streamID
    · subst hid
      rw [hst, streams_setStream, FinMap.lookup_insert_eq_ite, if_pos rfl]
      exact .trim st (.inr ⟨_, rfl⟩)
    · rw [streams_setStream, FinMap.lookup_insert_eq_ite, if_neg hid]
      exact .same _

/-- What `Append` answers and leaves behind when it does not find the idempotency key. -/
theorem append_new {s : Store} {now : Int} {req : AppendRequest} (hid : req.streamID ≠ "")
    (hkey : req.idempotencyKey ≠ "" →
      (s.ensureStream req.streamID).idempotency.lookup req.idempotencyKey = none) :
    s.append now req =
      (.ok { event := (s.ensureStream req.streamID).nextEvent req },
        (((s.setStream req.streamID (s.ensureStream req.streamID)).setStream req.streamID
          ((s.ensureStream req.streamID).push req)).applyRetentionLocked now
            req.streamID).notifyStreamLocked req.streamID
              ((s.ensureStream req.streamID).head + 1)) := by
  have hnone : (if req.idempotencyKey ≠ "" then
      (s.ensureStream req.streamID).idempotency.lookup req.idempotencyKey else none) = none := by
    by_cases hempty : req.idempotencyKey ≠ ""
    · rw [if_pos hempty, hkey hempty]
    · rw [if_neg hempty]
  unfold append
  rw [if_neg hid]
  simp only [hnone]

/-- The events that `Append` adds to the stream `id`, by its answer. -/
def appended (s : Store) (now : Int) (req : AppendRequest) (id : StreamID) : List Event :=
  if req.streamID = id then
    match (s.append now req).1 with
    | .ok result => if result.deduplicated then [] else [result.event]
    | .error _ => []
  else []

/-- What `Append` answers and leaves behind when it finds the idempotency key: an error or a
duplicate, and the stream, made if missing. -/
theorem append_found (now : Int) {s : Store} {req : AppendRequest} {seq : Nat}
    (hid : req.streamID ≠ "") (hempty : req.idempotencyKey ≠ "")
    (hkey : (s.ensureStream req.streamID).idempotency.lookup req.idempotencyKey = some seq) :
    (∀ id, s.appended now req id = []) ∧
      (s.append now req).2 = s.setStream req.streamID (s.ensureStream req.streamID) := by
  unfold appended append
  rw [if_neg hid]
  simp only [if_pos hempty, hkey]
  cases (s.ensureStream req.streamID).eventBySeq seq with
  | none => exact ⟨fun id => by simp, rfl⟩
  | some event => exact ⟨fun id => by simp, rfl⟩

/-- `Append` finds the key of its request, or it does not. -/
theorem key_cases (s : Store) (req : AppendRequest) :
    (req.idempotencyKey ≠ "" →
        (s.ensureStream req.streamID).idempotency.lookup req.idempotencyKey = none) ∨
      ∃ seq, req.idempotencyKey ≠ "" ∧
        (s.ensureStream req.streamID).idempotency.lookup req.idempotencyKey = some seq := by
  cases hfound : (s.ensureStream req.streamID).idempotency.lookup req.idempotencyKey with
  | none => exact .inl fun _ => rfl
  | some seq =>
      by_cases hkey : req.idempotencyKey = ""
      · exact .inl fun hne => absurd hkey hne
      · exact .inr ⟨seq, hkey, rfl⟩

/-- `Append` adds nothing to a stream, or it is called for that stream, finds no key, and adds one
event. -/
theorem appended_cases (s : Store) (now : Int) (req : AppendRequest) (id : StreamID) :
    s.appended now req id = [] ∨
      req.streamID = id ∧ req.streamID ≠ "" ∧
        (req.idempotencyKey ≠ "" →
          (s.ensureStream req.streamID).idempotency.lookup req.idempotencyKey = none) ∧
        s.appended now req id = [(s.ensureStream req.streamID).nextEvent req] := by
  by_cases hempty : req.streamID = ""
  · refine .inl ?_
    unfold appended append
    simp [hempty]
  rcases s.key_cases req with hnew | ⟨seq, hkey, hseq⟩
  · unfold appended
    rw [append_new hempty hnew]
    split_ifs with hid
    · exact .inr ⟨hid, hempty, hnew, rfl⟩
    · exact .inl rfl
  · exact .inl ((append_found now hempty hkey hseq).1 id)

/-- Writing back what `ensureStream` answers makes the stream, or changes nothing. -/
theorem ensureStream_streams (s : Store) (streamID id : StreamID) :
    StreamStep [] (s.streams.lookup id)
      ((s.setStream streamID (s.ensureStream streamID)).streams.lookup id) := by
  rw [streams_setStream, FinMap.lookup_insert_eq_ite]
  by_cases hid : id = streamID
  · subst hid
    rw [if_pos rfl]
    unfold ensureStream
    cases s.streams.lookup id with
    | none => exact .create
    | some st => exact .same _
  · rw [if_neg hid]
    exact .same _

/-- `Append` appends to the stream it is called for and changes no other. -/
theorem append_streams (s : Store) (now : Int) (req : AppendRequest) (id : StreamID) :
    StreamStep (s.appended now req id) (s.streams.lookup id)
      ((s.append now req).2.streams.lookup id) := by
  by_cases hempty : req.streamID = ""
  · have hnone : s.appended now req id = [] := by
      unfold appended append
      simp [hempty]
    rw [hnone]
    unfold append
    rw [if_pos hempty]
    exact .same _
  rcases s.key_cases req with hnone | ⟨seq, hkey, hseq⟩
  case inr =>
    obtain ⟨hnone, hafter⟩ := append_found now hempty hkey hseq
    rw [hnone, hafter]
    exact ensureStream_streams s req.streamID id
  case inl =>
    unfold appended
    rw [append_new hempty hnone, streams_notifyStreamLocked]
    by_cases hid : id = req.streamID
    · have hpush : (s.ensureStream req.streamID).push req =
          ((s.streams.lookup id).getD {}).push req := by rw [hid]; rfl
      have hnext : (s.ensureStream req.streamID).nextEvent req =
          ((s.streams.lookup id).getD {}).nextEvent req := by rw [hid]; rfl
      rw [if_pos hid.symm]
      simp only [hnext]
      rcases applyRetentionLocked_streams ((s.setStream req.streamID
        (s.ensureStream req.streamID)).setStream req.streamID
          ((s.ensureStream req.streamID).push req)) now req.streamID id with
          hsame | ⟨st, st', -, hst, hst', htrim⟩
      · rw [hsame, streams_setStream, FinMap.lookup_insert_eq_ite, if_pos hid, hpush]
        exact .append _ req (.inl rfl)
      · rw [streams_setStream, FinMap.lookup_insert_eq_ite, if_pos hid, hpush] at hst
        cases hst
        rw [hst']
        exact .append _ req htrim
    · rw [if_neg (Ne.symm hid)]
      rcases applyRetentionLocked_streams ((s.setStream req.streamID
        (s.ensureStream req.streamID)).setStream req.streamID
          ((s.ensureStream req.streamID).push req)) now req.streamID id with
          hsame | ⟨st, st', hid', -⟩
      · rw [hsame]
        simp only [streams_setStream, FinMap.lookup_insert_eq_ite, if_neg hid]
        exact .same _
      · exact absurd hid' hid

/-- `SetStreamRetention` trims the stream it is called for and no other. -/
theorem setStreamRetention_streams (s : Store) (now : Int) (retention : StreamRetention)
    (id : StreamID) :
    StreamStep [] (s.streams.lookup id)
      ((s.setStreamRetention now retention).2.streams.lookup id) := by
  unfold setStreamRetention
  split_ifs with hempty
  · exact .same _
  · rcases applyRetentionLocked_streams
      { s with retention := s.retention.insert retention.streamID retention } now
        retention.streamID id with hsame | ⟨st, st', -, hst, hst', htrim⟩
    · simp only [hsame]
      exact .same _
    · simp only at hst
      simp only [hst, hst']
      exact .trim st htrim

/-- `CompactStream` trims the stream it is called for and no other. -/
theorem compactStream_streams (s : Store) (streamID id : StreamID) :
    StreamStep [] (s.streams.lookup id) ((s.compactStream streamID).2.streams.lookup id) := by
  rcases s.compactStream_cases streamID with hsame | ⟨before, htrunc⟩
  · rw [hsame]
    exact .same _
  · rw [htrunc]
    exact truncateBefore_streams s streamID before id

/-- `CreateStream` makes the stream it is called for and changes no other. -/
theorem createStream_streams (s : Store) (streamID id : StreamID) :
    StreamStep [] (s.streams.lookup id) ((s.createStream streamID).2.streams.lookup id) := by
  unfold createStream
  split_ifs with hempty
  · exact .same _
  · exact ensureStream_streams s streamID id

/-- `DeleteStream` deletes the stream it is called for and changes no other. -/
theorem deleteStream_streams (s : Store) (streamID id : StreamID) :
    (s.deleteStream streamID).2.streams.lookup id =
      if streamID ≠ "" ∧ id = streamID then none else s.streams.lookup id := by
  unfold deleteStream
  by_cases hempty : streamID = ""
  · rw [if_pos hempty, if_neg (fun h => h.1 hempty)]
  · rw [if_neg hempty]
    simp only [FinMap.lookup_erase_eq_ite, ne_eq, hempty, not_false_eq_true, true_and]

/-- An acknowledgement leaves the streams alone. -/
@[simp] theorem ack_streams (s : Store) (req : AckRequest) : (s.ack req).2.streams = s.streams := by
  unfold ack
  simp only
  split_ifs <;> rfl

/-- An acknowledgement leaves each stream as it is. -/
theorem ensureStream_ack (s : Store) (req : AckRequest) (streamID : StreamID) :
    (s.ack req).2.ensureStream streamID = s.ensureStream streamID := by
  unfold ensureStream
  rw [ack_streams]

/-- A reset leaves the streams alone. -/
@[simp] theorem resetCursor_streams (s : Store) (subscriberID : SubscriberID) (streamID : StreamID)
    (seq : Nat) (metadata : String) :
    (s.resetCursor subscriberID streamID seq metadata).2.streams = s.streams := by
  unfold resetCursor
  split_ifs <;> rfl

/-- Putting a snapshot leaves the streams alone. -/
@[simp] theorem putSnapshot_streams (s : Store) (req : PutSnapshotRequest) :
    (s.putSnapshot req).2.streams = s.streams := by
  rcases s.putSnapshot_cases req with hsame | hstored
  · rw [hsame]
  · rw [hstored]

/-- Deleting a snapshot leaves the streams alone. -/
@[simp] theorem deleteSnapshot_streams (s : Store) (key : SnapshotKey) :
    (s.deleteSnapshot key).2.streams = s.streams := by
  rcases s.deleteSnapshot_cases key with hsame | herased
  · rw [hsame]
  · rw [herased]

/-- A watcher leaves the streams alone. -/
@[simp] theorem registerWatcher_streams (s : Store) (streamID : StreamID) (after : Nat) :
    (s.registerWatcher streamID after).2.streams = s.streams := by
  unfold registerWatcher
  split
  · split_ifs <;> rfl
  · rfl

/-- The end of a wait leaves the streams alone. -/
@[simp] theorem removeWatcherLocked_streams (s : Store) (streamID : StreamID) (ch : Nat) :
    (s.removeWatcherLocked streamID ch).streams = s.streams := rfl

end Store

/-- The events that an operation adds to the stream `id`. -/
def Op.appended (id : StreamID) : Op → Store → List Event
  | .append now req, s => s.appended now req id
  | _, _ => []

/-- What an operation can do to a stream. -/
theorem Op.streamStep (op : Op) (s : Store) (id : StreamID) :
    StreamStep (op.appended id s) (s.streams.lookup id) ((op.apply s).streams.lookup id) ∨
      op = .deleteStream id ∧ (op.apply s).streams.lookup id = none := by
  cases op with
  | append now req => exact .inl (s.append_streams now req id)
  | createStream streamID => exact .inl (s.createStream_streams streamID id)
  | truncateBefore streamID before => exact .inl (s.truncateBefore_streams streamID before id)
  | compactStream streamID => exact .inl (s.compactStream_streams streamID id)
  | setStreamRetention now retention => exact .inl (s.setStreamRetention_streams now retention id)
  | deleteStream streamID =>
      unfold Op.apply
      simp only [Store.deleteStream_streams]
      split_ifs with hid
      · exact .inr ⟨by rw [hid.2], rfl⟩
      · exact .inl (.same _)
  | ack | resetCursor | putSnapshot | deleteSnapshot | registerWatcher | removeWatcher =>
      unfold Op.apply
      simp only [Store.ack_streams, Store.resetCursor_streams, Store.putSnapshot_streams,
        Store.deleteSnapshot_streams, Store.registerWatcher_streams,
        Store.removeWatcherLocked_streams]
      exact .inl (.same _)

/-! ## The store holds a log under each stream id -/

namespace Store

/-- The store holds the log `L` under `id`; a stream that does not exist holds the empty log. -/
def Holds (s : Store) (id : StreamID) (L : TrimmedLog Event) : Prop :=
  Represents (s.ensureStream id) L

/-- A stream that exists is its entry. -/
theorem ensureStream_of_lookup {s : Store} {id : StreamID} {st : StreamState}
    (hst : s.streams.lookup id = some st) : s.ensureStream id = st := by
  unfold ensureStream
  rw [hst]
  rfl

end Store

/-- A trimmed or untouched record stands for a later state of the log, with the same entries. -/
theorem Represents.trimOf {st st' : StreamState} {L : TrimmedLog Event} (h : Represents st L)
    (htrim : TrimOf st st') : ∃ L', Represents st' L' ∧ L.Extends L' ∧ L'.all = L.all := by
  rcases htrim with rfl | ⟨n, rfl⟩
  · exact ⟨L, h, .refl L, rfl⟩
  · exact ⟨L.trim n, h.dropFront n, L.extends_trim n, rfl⟩

/-- What a step does to a stream that stands for a log: it stands for a later state of the log, with
the appended events behind its entries. -/
theorem StreamStep.represents {events : List Event} {o o' : Option StreamState}
    {L : TrimmedLog Event} (hstep : StreamStep events o o') (h : Represents (o.getD {}) L) :
    ∃ L', Represents (o'.getD {}) L' ∧ L.Extends L' ∧ L'.all = L.all ++ events := by
  cases hstep with
  | same => exact ⟨L, h, .refl L, (List.append_nil _).symm⟩
  | create => exact ⟨L, h, .refl L, (List.append_nil _).symm⟩
  | append _ req htrim =>
      obtain ⟨L', hL', hext, hall⟩ := (h.push req).trimOf htrim
      exact ⟨L', hL', (L.extends_append _).trans hext, hall⟩
  | trim st htrim =>
      obtain ⟨L', hL', hext, hall⟩ := h.trimOf htrim
      exact ⟨L', hL', hext, by rw [hall, List.append_nil]⟩

/-- Every operation leaves a log under each stream id: a later state of the log before it, with the
appended events behind its entries, or the empty log after `DeleteStream`. -/
theorem Op.holds (op : Op) {s : Store} {id : StreamID} {L : TrimmedLog Event} (h : s.Holds id L) :
    ∃ L', (op.apply s).Holds id L' ∧
      (op ≠ .deleteStream id → L.Extends L' ∧ L'.all = L.all ++ op.appended id s) := by
  rcases op.streamStep s id with hstep | ⟨rfl, hnone⟩
  · obtain ⟨L', hL', hext⟩ := hstep.represents h
    exact ⟨L', hL', fun _ => hext⟩
  · refine ⟨.empty, ?_, fun hne => absurd rfl hne⟩
    unfold Store.Holds Store.ensureStream
    rw [hnone]
    exact .fresh

/-- In every reachable store every stream stands for some log. -/
theorem Reachable.holds {s : Store} (hs : Reachable s) (id : StreamID) : ∃ L, s.Holds id L := by
  refine hs.invariant (I := fun s => ∃ L, s.Holds id L) ⟨.empty, .fresh⟩ ?_
  rintro op s ⟨L, hL⟩
  obtain ⟨L', hL', -⟩ := op.holds hL
  exact ⟨L', hL'⟩

/-! ## The representation invariant in terms of the record -/

/-- The representation invariant of a stream: the retained events carry consecutive numbers, from
`retainedSeqStart` to `head`; a stream without retained events has its boundary right behind the
head, or at `0` when nothing was appended; and each idempotency key leads to a number in use. -/
structure StreamState.WellFormed (st : StreamState) : Prop where
  consecutive : ∃ n, Consecutive Event.seq n st.events
  first : ∀ hne : st.events ≠ [], (st.events.head hne).seq = st.retainedSeqStart
  last : ∀ hne : st.events ≠ [], (st.events.getLast hne).seq = st.head
  start_of_trimmed : st.events = [] → 0 < st.head → st.retainedSeqStart = st.head + 1
  unused : st.head = 0 → st.events = [] ∧ st.retainedSeqStart = 0
  keys : ∀ key seq, st.idempotency.lookup key = some seq → 1 ≤ seq ∧ seq ≤ st.head

namespace Represents

variable {st : StreamState} {L : TrimmedLog Event}

/-- The boundary of a stream to which something was appended. -/
theorem start_eq (h : Represents st L) (hpos : 0 < L.head) : st.retainedSeqStart = L.base + 1 := by
  rw [h.start]
  exact if_neg (by omega)

/-- A state that represents a log is well-formed. -/
theorem wellFormed (h : Represents st L) : st.WellFormed where
  consecutive := ⟨_, h.numbered_retained⟩
  first := by
    intro hne
    have hlen := h.length_events
    have hpos : 0 < st.events.length := List.length_pos_iff.mpr hne
    rw [h.numbered_retained.head_eq hne, h.start_eq (by omega)]
  last := by
    intro hne
    have hlen := h.length_events
    have hpos : 0 < st.events.length := List.length_pos_iff.mpr hne
    have hlast := h.numbered_retained.getLast_eq hne
    rw [h.head]
    omega
  start_of_trimmed := by
    intro hempty hpos
    have hle : L.base ≤ L.head := L.base_le
    have hlen := h.length_events
    rw [hempty, List.length_nil] at hlen
    rw [h.head] at hpos ⊢
    rw [h.start_eq hpos]
    omega
  unused := by
    intro hzero
    have hlen := h.length_events
    rw [h.head] at hzero
    refine ⟨List.length_eq_zero_iff.mp (by omega), ?_⟩
    rw [h.start]
    exact if_pos hzero
  keys := by
    intro key seq hlookup
    obtain ⟨event, hmem, rfl, -⟩ := h.keys key seq hlookup
    have hbounds := h.numbered.bounds hmem
    rw [h.head]
    unfold TrimmedLog.head
    omega

end Represents

/-- In every state reachable from `NewStore`, every stream is well formed. -/
theorem reachable_wellFormed {s : Store} (hs : Reachable s) {id : StreamID} {st : StreamState}
    (hst : s.streams.lookup id = some st) : st.WellFormed := by
  obtain ⟨L, hL⟩ := hs.holds id
  unfold Store.Holds at hL
  rw [Store.ensureStream_of_lookup hst] at hL
  exact hL.wellFormed

/-- A stream with two events, truncated far past its head and appended to again. -/
def truncatedPastHead : Store :=
  runOps
    [.append 0 { streamID := "s", idempotencyKey := "k" }, .append 0 { streamID := "s" },
      .truncateBefore "s" 100, .append 0 { streamID := "s" }] newStore

/-- A truncation beyond the head leaves the next seq as the start, and the state well-formed. -/
theorem truncatedPastHead_wellFormed :
    (truncatedPastHead.streams.lookup "s").isSome = true ∧
      (truncatedPastHead.ensureStream "s").retainedSeqStart = 3 ∧
      (truncatedPastHead.ensureStream "s").WellFormed := by
  have hlookup : truncatedPastHead.streams.lookup "s" =
      some (truncatedPastHead.ensureStream "s") := rfl
  exact ⟨rfl, rfl, reachable_wellFormed ⟨_, rfl⟩ hlookup⟩

end Synclog.Memory
