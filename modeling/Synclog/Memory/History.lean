import Synclog.Memory.Recorded

/-!
# The history of a stream

What a stream of the memory store promises over a whole run in which it is not deleted, from the
empty store on. `Recorded` keeps the events that `Append` has answered as new; `Recorded.Run` is any
number of operations, and `Recorded.Returns` says what a later `Read`, catch-up or deduplicated
`Append` hands out.

* `Recorded.Run.extends` — the log of the stream only grows, and what is forgotten stays forgotten.
* `Recorded.Returns.spec` — what is handed out is the recorded event with that seq, and one that is
  not forgotten.
* `log_immutable` — the run guarantee.
-/

namespace Synclog.Memory

open Synclog.Lib Synclog.Core
open Relation (ReflTransGen)

namespace Recorded

/-- The empty store, to which nothing was appended. -/
def start : Recorded where
  store := newStore
  log := []

/-- One operation other than the deletion of the stream. -/
def Undeleted (id : StreamID) (w w' : Recorded) : Prop :=
  ∃ op : Op, op ≠ .deleteStream id ∧ w' = w.apply id op

/-- Any number of operations other than the deletion of the stream. -/
def Run (id : StreamID) : Recorded → Recorded → Prop := ReflTransGen (Undeleted id)

/-- The stream stands for the log `L`, whose entries are the recorded events. -/
structure Logs (id : StreamID) (w : Recorded) (L : TrimmedLog Event) : Prop where
  reachable : Reachable w.store
  holds : w.store.Holds id L
  all : L.all = w.log

/-- At the start every log is empty. -/
theorem start_logs (id : StreamID) : start.Logs id .empty where
  reachable := ⟨[], rfl⟩
  holds := .fresh
  all := rfl

variable {id : StreamID} {w w' : Recorded} {L : TrimmedLog Event}

/-- The log of the stream only grows, and what is forgotten stays forgotten. -/
theorem Run.extends (hrun : Run id w w') (h : w.Logs id L) :
    ∃ L', w'.Logs id L' ∧ L.Extends L' := by
  induction hrun with
  | refl => exact ⟨L, h, .refl L⟩
  | tail _ hstep ih =>
      obtain ⟨op, hop, rfl⟩ := hstep
      obtain ⟨L₁, h₁, hext₁⟩ := ih
      obtain ⟨L₂, hL₂, hkept⟩ := op.holds h₁.holds
      obtain ⟨hext₂, hall⟩ := hkept hop
      refine ⟨L₂, ⟨h₁.reachable.apply op, hL₂, ?_⟩, hext₁.trans hext₂⟩
      rw [hall, h₁.all]
      rfl

/-! ## What is handed out -/

/-- From `w` on, a `Read`, an engine catch-up with operations of others between its calls, or a
deduplicated `Append` hands out an event of the stream; `w'` is what it leaves behind. -/
inductive Returns (id : StreamID) : Recorded → Event → Recorded → Prop
  | read {w : Recorded} {after : Nat} {limit : Int} {batch : EventBatch} {head : StreamHead}
      {event : Event} (h : w.store.read id after limit = .ok (batch, head))
      (hmem : event ∈ batch.events) : Returns id w event w
  | catchUp {w w' : Recorded} {now : Int} {req : CatchUpRequest} {result : CatchUpResult}
      {event : Event} (hreq : req.streamID = id)
      (h : Prog.Exec ((handler now).within cell) (Undeleted id) (Engine.catchUp req).run w
        (.ok result) w') (hmem : event ∈ result.batch.events) : Returns id w event w'
  | deduplicated {w : Recorded} {now : Int} {req : AppendRequest} {event : Event}
      (hreq : req.streamID = id)
      (h : (w.store.append now req).1 = .ok { event, deduplicated := true }) :
      Returns id w event (w.apply id (.append now req))

/-- The events of a batch behind a cursor that is not too old are not forgotten. -/
theorem Logs.mem_batchAfter (h : w.Logs id L) {c limit : Nat} (hc : L.base ≤ c) {event : Event}
    (hmem : event ∈ (batchAfter L c limit).events) : event ∈ w.log ∧ L.base < event.seq := by
  rw [events_batchAfter] at hmem
  have hdrop := List.mem_of_mem_take hmem
  have hall := List.mem_of_mem_drop hdrop
  have hseq := (h.holds.numbered.mem_drop_iff hall c).mp hdrop
  rw [h.all] at hall
  exact ⟨hall, by omega⟩

/-- The events that `Read` answers are recorded, and not forgotten. -/
theorem Logs.mem_read (h : w.Logs id L) {after : Nat} {limit : Int} {batch : EventBatch}
    {head : StreamHead} (hread : w.store.read id after limit = .ok (batch, head)) {event : Event}
    (hmem : event ∈ batch.events) : event ∈ w.log ∧ L.base < event.seq := by
  by_cases hid : id = ""
  · unfold Store.read at hread
    rw [if_pos hid] at hread
    cases hread
  · rw [h.holds.read hid] at hread
    split_ifs at hread with hold
    cases hread
    exact h.mem_batchAfter (Nat.le_of_not_lt hold) hmem

/-- The event that a deduplicated `Append` answers is recorded, and not forgotten. -/
theorem Logs.mem_deduplicated (h : w.Logs id L) {now : Int} {req : AppendRequest}
    (hreq : req.streamID = id) {event : Event}
    (happend : (w.store.append now req).1 = .ok { event, deduplicated := true }) :
    event ∈ w.log ∧ L.base < event.seq := by
  have hfound : ∃ seq, (w.store.ensureStream id).eventBySeq seq = some event := by
    unfold Store.append at happend
    rw [hreq] at happend
    split_ifs at happend
    · simp only at happend
      split at happend
      · rename_i seq _
        split at happend
        · cases happend
        · rename_i found hfound
          cases happend
          exact ⟨seq, hfound⟩
      · cases happend
    · cases happend
  obtain ⟨seq, hfound⟩ := hfound
  have hmem : event ∈ (w.store.ensureStream id).events := List.mem_of_find?_eq_some hfound
  have hbounds := h.holds.numbered_retained.bounds hmem
  rw [h.holds.events] at hmem
  have hall : event ∈ L.all := List.mem_of_mem_drop hmem
  rw [h.all] at hall
  exact ⟨hall, by omega⟩

/-- What is handed out is recorded, and not forgotten. -/
theorem Returns.spec {event : Event} (hret : Returns id w event w') (h : w.Logs id L) :
    event ∈ w'.log ∧ L.base < event.seq ∧ Run id w w' := by
  cases hret with
  | read hread hmem =>
      obtain ⟨hlog, hbase⟩ := h.mem_read hread hmem
      exact ⟨hlog, hbase, .refl⟩
  | @catchUp _ _ req result _ hreq hexec hmem =>
      subst hreq
      obtain ⟨s₁, s₂, h₁, h₂, h₃, hres⟩ := exec_catchUp hexec
      change .ok result = catchUpOf req s₁.store s₂.store w'.store at hres
      obtain ⟨L₂, hL₂, hext₂⟩ := Run.extends (h₁.trans h₂) h
      obtain ⟨L₃, hL₃, hext₃⟩ := Run.extends h₃ hL₂
      have hrun : Run _ w w' := (h₁.trans h₂).trans h₃
      obtain rfl := catchUpOf_ok hL₂.holds hL₃.holds hres.symm
      obtain ⟨hc, hbatch⟩ := mem_catchUpResult hmem
      obtain ⟨hlog, hbase⟩ := hL₃.mem_batchAfter hc hbatch
      exact ⟨hlog, lt_of_le_of_lt (hext₂.trans hext₃).2 hbase, hrun⟩
  | deduplicated hreq happend =>
      obtain ⟨hlog, hbase⟩ := h.mem_deduplicated hreq happend
      refine ⟨List.mem_append_left _ hlog, hbase, .single ⟨_, ?_, rfl⟩⟩
      intro heq
      cases heq

end Recorded

/-! ## The log is immutable -/

/-- The event with this seq was appended, and is no longer retained. -/
def Removed (id : StreamID) (w : Recorded) (seq : Nat) : Prop :=
  (∃ event ∈ w.log, event.seq = seq) ∧
    ∀ event ∈ (w.store.ensureStream id).events, event.seq ≠ seq

/-- What is removed is forgotten. -/
theorem Recorded.Logs.le_base {id : StreamID} {w : Recorded} {L : TrimmedLog Event}
    (h : w.Logs id L) {seq : Nat} (hremoved : Removed id w seq) : seq ≤ L.base := by
  obtain ⟨⟨event, hmem, rfl⟩, hgone⟩ := hremoved
  rw [← h.all] at hmem
  refine Nat.le_of_not_lt fun hlt => hgone event ?_ rfl
  rw [h.holds.events]
  exact (h.holds.numbered.mem_drop_iff hmem L.base).mpr (by omega)

/-- The boundary of a log does not go back. -/
theorem start_le {L L' : TrimmedLog Event} (h : L.Extends L') : L.start ≤ L'.start := by
  have hlen : L.head ≤ L'.head := h.1.length_le
  have hbase : L.base ≤ L'.base := h.2
  unfold TrimmedLog.start
  split_ifs <;> omega

/-- **The log is immutable.** In every run from the empty store that does not delete the stream: the
events that `Append` has answered as new carry the seqs `1, 2, …` in the order of their answers;
nothing is taken back, of the recorded events, the head or the boundary; what a read, a catch-up or
a deduplicated `Append` hands out is the event recorded under that seq; and a removed event is not
handed out again. -/
theorem log_immutable {id : StreamID} {w w' : Recorded} (hw : Recorded.Run id .start w)
    (hw' : Recorded.Run id w w') :
    (∀ i (hi : i < w'.log.length), (w'.log[i]).seq = i + 1) ∧
    w.log <+: w'.log ∧
    (w.store.ensureStream id).head ≤ (w'.store.ensureStream id).head ∧
    (w.store.ensureStream id).retainedSeqStart ≤ (w'.store.ensureStream id).retainedSeqStart ∧
    (∀ event w'', Recorded.Returns id w' event w'' → w''.log[event.seq - 1]? = some event) ∧
    ∀ seq, Removed id w seq → ∀ event w'', Recorded.Returns id w' event w'' → event.seq ≠ seq := by
  obtain ⟨L, hL, -⟩ := hw.extends (Recorded.start_logs id)
  obtain ⟨L', hL', hext⟩ := hw'.extends hL
  refine ⟨?_, ?_, ?_, ?_, ?_, ?_⟩
  · intro i hi
    have hnum : Consecutive Event.seq 1 w'.log := hL'.all ▸ hL'.holds.numbered
    rw [hnum.getElem hi, Nat.add_comm]
  · rw [← hL.all, ← hL'.all]
    exact hext.1
  · rw [hL.holds.head, hL'.holds.head]
    exact hext.1.length_le
  · rw [hL.holds.start, hL'.holds.start]
    exact start_le hext
  · intro event w'' hret
    obtain ⟨hmem, -, hrun⟩ := hret.spec hL'
    obtain ⟨L'', hL'', -⟩ := hrun.extends hL'
    have hnum : Consecutive Event.seq 1 w''.log := hL''.all ▸ hL''.holds.numbered
    exact hnum.getElem?_eq_some hmem
  · intro seq hremoved event w'' hret heq
    obtain ⟨-, hbase, -⟩ := hret.spec hL'
    have hle := hL.le_base hremoved
    have hmono : L.base ≤ L'.base := hext.2
    omega

/-- Two events, of which the first is truncated, then a third: the second is read as it was
appended, and the first is not handed out any more. -/
theorem log_immutable_truncated :
    ∃ w w' event, Recorded.Run "s" .start w ∧ Recorded.Run "s" w w' ∧ Removed "s" w 1 ∧
      Recorded.Returns "s" w' event w' ∧ event.payload = [2] ∧
      w'.log[event.seq - 1]? = some event ∧ event.seq ≠ 1 := by
  let appended (n : UInt8) : Op := .append 0 { streamID := "s", payload := [n] }
  let truncated : Op := .truncateBefore "s" 2
  let w := ((Recorded.start.apply "s" (appended 1)).apply "s" (appended 2)).apply "s" truncated
  let w' := w.apply "s" (appended 3)
  let event : Event := { streamID := "s", seq := 2, payload := [2] }
  have hw : Recorded.Run "s" .start w :=
    .tail (.tail (.single ⟨appended 1, nofun, rfl⟩) ⟨appended 2, nofun, rfl⟩)
      ⟨truncated, nofun, rfl⟩
  have hw' : Recorded.Run "s" w w' := .single ⟨appended 3, nofun, rfl⟩
  have hremoved : Removed "s" w 1 := by
    refine ⟨⟨{ streamID := "s", seq := 1, payload := [1] }, by decide, rfl⟩, ?_⟩
    decide
  have hanswer : w'.store.read "s" 1 1 = .ok ({ events := [event], seqStart := 2, seq := 2 },
      { cursor := { streamID := "s", seq := 3 }, retainedSeqStart := 2 }) := by decide
  have hread : Recorded.Returns "s" w' event w' := .read hanswer (List.mem_singleton_self _)
  obtain ⟨-, -, -, -, hsame, hgone⟩ := log_immutable hw hw'
  exact ⟨w, w', event, hw, hw', hremoved, hread, rfl, hsame event w' hread,
    hgone 1 hremoved event w' hread⟩

end Synclog.Memory
