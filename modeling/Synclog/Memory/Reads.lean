import Synclog.Memory.Refinement

/-!
# What the reads of the memory store answer

`GetHead` and `Read` on the abstract side: for a store that holds the log `L` under a stream id, the
answer is a function of `L` alone (`Holds.getHead`, `Holds.read`). `batchAfter L c limit` is the
batch in closed form: the first `limit` events behind the first `c`.
-/

namespace Synclog.Memory

open Synclog.Lib Synclog.Core

/-- The head of a stream that holds the log `L`. -/
def headOf (id : StreamID) (L : TrimmedLog Event) : StreamHead where
  cursor := { streamID := id, seq := L.head }
  retainedSeqStart := L.start

/-- The batch a reader at `c` gets from the log `L`: the next `limit` events with their bounds, or
an empty final batch at the head when there is none. -/
def batchAfter (L : TrimmedLog Event) (c limit : Nat) : EventBatch :=
  if c < L.head then
    { events := (L.all.drop c).take limit
      seqStart := c + 1
      seq := min (c + limit) L.head
      final := decide (L.head ≤ c + limit) }
  else { seq := L.head, final := true }

/-- Source: `engine.go`, `ReplayTooOld`, on the abstract side: a part of what the reader needs is
forgotten. -/
theorem replayTooOld_start {L : TrimmedLog Event} {c : Nat} :
    replayTooOld c L.start = true ↔ c < L.base := by
  have hle : L.base ≤ L.head := L.base_le
  rw [replayTooOld_iff]
  unfold TrimmedLog.start
  split_ifs <;> omega

namespace Store

/-- A missing stream answers like a fresh one. -/
theorem getHead_eq (s : Store) {id : StreamID} (hid : id ≠ "") :
    s.getHead id = .ok ((s.ensureStream id).headCursor id) := by
  unfold getHead ensureStream
  rw [if_neg hid]
  cases s.streams.lookup id with
  | none => rfl
  | some st => rfl

/-- What `Read` answers for one stream. -/
def readStream (st : StreamState) (id : StreamID) (after limit : Nat) :
    Except GoError (EventBatch × StreamHead) :=
  if replayTooOld after st.retainedSeqStart then .error errTooLong
  else
    match st.events.findIdx? fun event => after < event.seq with
    | none => .ok ({ seq := st.head, final := true }, st.headCursor id)
    | some start =>
      let events := (st.events.drop start).take limit
      match events.head?, events.getLast? with
      | some first, some last =>
        .ok ({ events, seqStart := first.seq, seq := last.seq, final := last.seq == st.head },
          st.headCursor id)
      | _, _ => .ok ({ events }, st.headCursor id)

/-- A missing stream is read like a fresh one. -/
theorem read_eq (s : Store) {id : StreamID} (hid : id ≠ "") (after : Nat) (limit : Int) :
    s.read id after limit = readStream (s.ensureStream id) id after (normalizeLimit limit) := by
  unfold read ensureStream
  rw [if_neg hid]
  cases s.streams.lookup id with
  | none => rfl
  | some st => rfl

variable {s : Store} {id : StreamID} {L : TrimmedLog Event}

/-- The head cursor is that of the log. -/
theorem Holds.headCursor (h : s.Holds id L) : (s.ensureStream id).headCursor id = headOf id L := by
  unfold StreamState.headCursor headOf
  rw [h.head, h.start]

/-- The head that is answered is that of the log. -/
theorem Holds.getHead (h : s.Holds id L) (hid : id ≠ "") : s.getHead id = .ok (headOf id L) := by
  rw [getHead_eq s hid, h.headCursor]

/-- The events behind `c` and what bounds them, where the log has them. -/
theorem Holds.readStream_ok (h : s.Holds id L) {c limit : Nat} (hc : L.base ≤ c) (hl : 0 < limit) :
    readStream (s.ensureStream id) id c limit = .ok (batchAfter L c limit, headOf id L) := by
  have hold : replayTooOld c (s.ensureStream id).retainedSeqStart = false := by
    rw [h.start, ← Bool.not_eq_true, replayTooOld_start]
    omega
  have hlen : (s.ensureStream id).events.length = L.head - L.base := h.length_events
  have hle : L.base ≤ L.head := L.base_le
  unfold readStream
  rw [if_neg (by simp [hold]), h.numbered_retained.findIdx?_eq (by omega), hlen, h.headCursor]
  unfold batchAfter
  by_cases hlt : c < L.head
  · have hdrop : (s.ensureStream id).events.drop (c + 1 - (L.base + 1)) = L.all.drop c := by
      have harith : L.base + (c + 1 - (L.base + 1)) = c := by omega
      rw [h.events, TrimmedLog.retained, List.drop_drop, harith]
    have hcons : Consecutive Event.seq (c + 1) ((L.all.drop c).take limit) := by
      have hnum := h.numbered.drop c
      rw [Nat.add_comm] at hnum
      exact hnum.take limit
    have hcount : ((L.all.drop c).take limit).length = min limit (L.head - c) := by
      rw [List.length_take, List.length_drop]
      rfl
    have hne : (L.all.drop c).take limit ≠ [] := by
      rw [← List.length_pos_iff, hcount]
      omega
    have hfirst := hcons.head_eq hne
    have hlast := hcons.getLast_eq hne
    have hseq : (((L.all.drop c).take limit).getLast hne).seq = min (c + limit) L.head := by
      omega
    rw [if_pos (by omega), if_pos hlt]
    simp only [hdrop, List.head?_eq_some_head hne, List.getLast?_eq_some_getLast hne, hfirst, hseq,
      h.head]
    congr 3
    rw [Bool.eq_iff_iff, beq_iff_eq, decide_eq_true_eq]
    omega
  · rw [if_neg (by omega), if_neg hlt, h.head]

/-- `Read` on the abstract side. -/
theorem Holds.read (h : s.Holds id L) (hid : id ≠ "") (c : Nat) (limit : Int) :
    s.read id c limit =
      if c < L.base then .error errTooLong
      else .ok (batchAfter L c (normalizeLimit limit), headOf id L) := by
  rw [read_eq s hid]
  by_cases hc : c < L.base
  · unfold readStream
    rw [if_pos hc, if_pos]
    rw [h.start]
    exact replayTooOld_start.mpr hc
  · rw [if_neg hc]
    exact h.readStream_ok (by omega) (normalizeLimit_pos limit)

/-- The retained events behind `c` are the log behind `c`, where the log has them. -/
theorem Holds.filter_events (h : s.Holds id L) {c : Nat} (hc : L.base ≤ c) :
    ((s.ensureStream id).events.filter fun event => c < event.seq) = L.all.drop c := by
  have hdrop : L.base + (c + 1 - (L.base + 1)) = c := by omega
  rw [h.numbered_retained.filter_lt_eq_drop, h.events, TrimmedLog.retained, List.drop_drop, hdrop]

end Store

/-! ## The batch in closed form -/

section Batch

variable {L : TrimmedLog Event} (c limit : Nat)

/-- A batch has as many events as the limit and the log allow. -/
theorem length_batchAfter : (batchAfter L c limit).events.length = min limit (L.head - c) := by
  unfold batchAfter
  split_ifs with hc
  · simp only [List.length_take, List.length_drop]
    rfl
  · simp only [List.length_nil]
    omega

/-- A batch goes on up to its limit or to the head. -/
theorem seq_batchAfter : (batchAfter L c limit).seq = min (c + limit) L.head := by
  unfold batchAfter
  split_ifs with hc
  · rfl
  · show L.head = _
    omega

/-- A batch is final when it reaches the head. -/
theorem final_batchAfter : (batchAfter L c limit).final = decide (L.head ≤ c + limit) := by
  unfold batchAfter
  split_ifs with hc
  · rfl
  · have hle : L.head ≤ c + limit := by omega
    exact (decide_eq_true hle).symm

/-- A batch with events ends as many seqs behind the reader's cursor as it has events. -/
theorem seq_eq_add_length (hne : (batchAfter L c limit).events ≠ []) :
    (batchAfter L c limit).seq = c + (batchAfter L c limit).events.length := by
  have hpos := List.length_pos_iff.mpr hne
  rw [length_batchAfter] at hpos ⊢
  rw [seq_batchAfter]
  omega

/-- The events of a batch are a piece of the log. -/
theorem events_batchAfter : (batchAfter L c limit).events = (L.all.drop c).take limit := by
  unfold batchAfter
  split_ifs with hc
  · rfl
  · have hnil : L.all.drop c = [] := List.drop_eq_nil_of_le (Nat.le_of_not_lt hc)
    rw [hnil, List.take_nil]

/-- The events of a batch are numbered from behind the reader's cursor. -/
theorem numbered_batchAfter (hnum : Consecutive Event.seq 1 L.all) :
    Consecutive Event.seq (c + 1) (batchAfter L c limit).events := by
  rw [events_batchAfter, Nat.add_comm]
  exact (hnum.drop c).take limit

end Batch

end Synclog.Memory
