import Synclog.Core.Engine
import Synclog.Memory.Reads

/-!
# Catch-up over the memory store

`Engine.CatchUp` reads the cursor, the head and the log in three calls, and anything may happen to
the store between two of them. `exec_catchUp` reduces every interfered execution to three stores in
the order of time: the answer is a function of what the three calls saw (`catchUpOf`). On the
abstract side (`catchUpOf_eq`) only the cursor of the first, the boundary and the head of the
second, and the log of the third matter; whatever lies between them, the batch comes from one log
and one cursor and so has no gap (`catchUp_gapFree`).
-/

namespace Synclog.Memory

open Synclog.Lib Synclog.Core

/-! ## The meaning of the calls -/

/-- What each call of the storage interfaces does to the memory store. `now` is the clock that
`applyRetentionLocked` reads.
Source: `store.go`, the methods of `Store`. -/
def handler (now : Int) : Handler StoreCall Store
  | _, .append req, s => s.append now req
  | _, .getHead streamID, s => (s.getHead streamID, s)
  | _, .read streamID after limit, s => (s.read streamID after limit, s)
  | _, .getCursor subscriberID streamID, s => (s.getCursor subscriberID streamID, s)
  | _, .ack req, s => s.ack req
  | _, .getLatestSnapshot streamID payloadType maxPayloadVersion, s =>
    (s.getLatestSnapshot streamID payloadType maxPayloadVersion, s)

/-- The store as a part of a larger state: a reading call changes nothing of it. -/
theorem handler_isRead (now : Int) {σ : Type} (cell : Cell σ Store) (β : Type) (c : StoreCall β)
    (s : σ) (hc : StoreCall.IsRead β c) : ((handler now).within cell β c s).2 = s := by
  cases hc <;> exact cell.set_get s

namespace Store

/-- The cursor that `GetCursor` answers for a subscriber and a stream. -/
def cursorOf (s : Store) (subscriberID : SubscriberID) (streamID : StreamID) : SubscriberCursor :=
  (s.cursors.lookup ⟨subscriberID, streamID⟩).getD { subscriberID, cursor := { streamID } }

/-- The committed cursor of a subscriber on a stream. -/
def committed (s : Store) (subscriberID : SubscriberID) (streamID : StreamID) : Nat :=
  (s.cursorOf subscriberID streamID).cursor.seq

/-- With both ids `GetCursor` answers the stored cursor. -/
theorem getCursor_eq (s : Store) {subscriberID : SubscriberID} {streamID : StreamID}
    (hsub : subscriberID ≠ "") (hid : streamID ≠ "") :
    s.getCursor subscriberID streamID = .ok (s.cursorOf subscriberID streamID) := by
  unfold getCursor cursorOf
  rw [if_neg hsub, if_neg hid]
  cases s.cursors.lookup ⟨subscriberID, streamID⟩ <;> rfl

end Store

/-! ## One catch-up as a function of three stores -/

/-- What `CatchUp` answers when its three calls see the stores `s₁`, `s₂` and `s₃`. -/
def catchUpOf (req : CatchUpRequest) (s₁ s₂ s₃ : Store) : Except GoError CatchUpResult :=
  if req.subscriberID = "" then .error (errInvalidArgument "subscriber id is required")
  else if req.streamID = "" then .error (errInvalidArgument "stream id is required")
  else
    let cursor := s₁.cursorOf req.subscriberID req.streamID
    let head := (s₂.ensureStream req.streamID).headCursor req.streamID
    if Engine.tooLong req cursor head then .ok (Engine.noBatch .tooLong cursor head)
    else Engine.withBatch cursor head
      (s₃.read req.streamID cursor.cursor.seq (normalizeLimit req.limit))

section Exec

variable {σ : Type} {cell : Cell σ Store} {R : σ → σ → Prop} {now : Int}

/-- An interfered catch-up ends as three stores, each no earlier than the one before, decide. -/
theorem exec_catchUp {req : CatchUpRequest} {s t : σ} {r : Except GoError CatchUpResult}
    (h : Prog.Exec ((handler now).within cell) R (Engine.catchUp req).run s r t) :
    ∃ s₁ s₂, Relation.ReflTransGen R s s₁ ∧ Relation.ReflTransGen R s₁ s₂ ∧
      Relation.ReflTransGen R s₂ t ∧
      r = catchUpOf req (cell.get s₁) (cell.get s₂) (cell.get t) := by
  unfold Engine.catchUp at h
  unfold catchUpOf
  split_ifs at h ⊢ with hsub hid
  · obtain ⟨rfl, rfl⟩ := Prog.exec_throw.mp h
    exact ⟨_, _, .refl, .refl, .refl, rfl⟩
  · obtain ⟨rfl, rfl⟩ := Prog.exec_throw.mp h
    exact ⟨_, _, .refl, .refl, .refl, rfl⟩
  · obtain ⟨s₁, h₁, h⟩ := Prog.exec_performE_bind.mp h
    simp only [Handler.within, handler, (cell.get s₁).getCursor_eq hsub hid, cell.set_get] at h
    obtain ⟨s₂, h₂, h⟩ := Prog.exec_performE_bind.mp h
    simp only [Handler.within, handler, (cell.get s₂).getHead_eq hid, cell.set_get] at h
    refine ⟨s₁, s₂, h₁, h₂, ?_⟩
    simp only
    split_ifs at h ⊢ with hold
    · obtain ⟨rfl, rfl⟩ := Prog.exec_pureE.mp h
      exact ⟨.refl, rfl⟩
    · obtain ⟨s₃, h₃, h⟩ := Prog.exec_attempt_bind.mp h
      simp only [Handler.within, handler, cell.set_get] at h
      obtain ⟨rfl, rfl⟩ := Prog.exec_ofExcept.mp h
      exact ⟨h₃, rfl⟩

end Exec

/-! ## One catch-up on the abstract side -/

/-- The catch-up of a cursor when the head is read from the log `L₂` and the events from `L₃`. -/
def catchUpResult (req : CatchUpRequest) (cursor : SubscriberCursor) (L₂ L₃ : TrimmedLog Event) :
    CatchUpResult :=
  let c := cursor.cursor.seq
  if c < L₂.base ∨ replayOverBudget c L₂.head req.totalLimit = true ∨ c < L₃.base then
    Engine.noBatch .tooLong cursor (headOf req.streamID L₂)
  else
    { Engine.noBatch .ok cursor (headOf req.streamID L₃) with
      batch := batchAfter L₃ c (normalizeLimit req.limit) }

/-- `CatchUp` on the abstract side. -/
theorem catchUpOf_eq {req : CatchUpRequest} {s₁ s₂ s₃ : Store} {L₂ L₃ : TrimmedLog Event}
    (hsub : req.subscriberID ≠ "") (hid : req.streamID ≠ "") (h₂ : s₂.Holds req.streamID L₂)
    (h₃ : s₃.Holds req.streamID L₃) :
    catchUpOf req s₁ s₂ s₃ =
      .ok (catchUpResult req (s₁.cursorOf req.subscriberID req.streamID) L₂ L₃) := by
  unfold catchUpOf catchUpResult
  rw [if_neg hsub, if_neg hid]
  simp only [h₂.headCursor, h₃.read hid, normalizeLimit_normalizeLimit]
  have hpre : Engine.tooLong req (s₁.cursorOf req.subscriberID req.streamID)
      (headOf req.streamID L₂) = true ↔
        (s₁.cursorOf req.subscriberID req.streamID).cursor.seq < L₂.base ∨
          replayOverBudget (s₁.cursorOf req.subscriberID req.streamID).cursor.seq L₂.head
            req.totalLimit = true := by
    unfold Engine.tooLong headOf
    rw [Bool.or_eq_true, replayTooOld_start]
  by_cases hold : Engine.tooLong req (s₁.cursorOf req.subscriberID req.streamID)
      (headOf req.streamID L₂) = true
  · rw [if_pos hold, if_pos]
    rcases hpre.mp hold with hbase | hbudget
    · exact .inl hbase
    · exact .inr (.inl hbudget)
  · rw [if_neg hold]
    have hnot := mt hpre.mpr hold
    by_cases hlate : (s₁.cursorOf req.subscriberID req.streamID).cursor.seq < L₃.base
    · rw [if_pos hlate, if_pos (.inr (.inr hlate))]
      rfl
    · rw [if_neg hlate, if_neg (by tauto)]
      rfl

/-- What a catch-up that succeeds answers; an empty id would have been refused. -/
theorem catchUpOf_ok {req : CatchUpRequest} {s₁ s₂ s₃ : Store} {L₂ L₃ : TrimmedLog Event}
    (h₂ : s₂.Holds req.streamID L₂) (h₃ : s₃.Holds req.streamID L₃) {result : CatchUpResult}
    (h : catchUpOf req s₁ s₂ s₃ = .ok result) :
    result = catchUpResult req (s₁.cursorOf req.subscriberID req.streamID) L₂ L₃ := by
  by_cases hids : req.subscriberID ≠ "" ∧ req.streamID ≠ ""
  · rw [catchUpOf_eq hids.1 hids.2 h₂ h₃] at h
    exact (Except.ok.inj h).symm
  · unfold catchUpOf at h
    split_ifs at h with hsub hid
    exact absurd ⟨hsub, hid⟩ hids

/-- Where a catch-up succeeds, its batch comes from the log of the third read and starts right
behind the cursor. -/
theorem catchUpResult_ok {req : CatchUpRequest} {cursor : SubscriberCursor}
    {L₂ L₃ : TrimmedLog Event} (h : (catchUpResult req cursor L₂ L₃).status = .ok) :
    L₃.base ≤ cursor.cursor.seq ∧
      catchUpResult req cursor L₂ L₃ =
        { Engine.noBatch .ok cursor (headOf req.streamID L₃) with
          batch := batchAfter L₃ cursor.cursor.seq (normalizeLimit req.limit) } := by
  unfold catchUpResult at h ⊢
  simp only at h ⊢
  split_ifs at h ⊢ with hold
  · cases h
  · exact ⟨by omega, rfl⟩

/-- Where it does not, it announces that the replay is too long, without events. -/
theorem catchUpResult_of_ne_ok {req : CatchUpRequest} {cursor : SubscriberCursor}
    {L₂ L₃ : TrimmedLog Event} (h : (catchUpResult req cursor L₂ L₃).status ≠ .ok) :
    catchUpResult req cursor L₂ L₃ = Engine.noBatch .tooLong cursor (headOf req.streamID L₂) := by
  unfold catchUpResult at h ⊢
  simp only at h ⊢
  split_ifs at h ⊢
  · rfl
  · exact absurd rfl h

/-- The events of a catch-up come from the log of the third read, and none of them is forgotten. -/
theorem mem_catchUpResult {req : CatchUpRequest} {cursor : SubscriberCursor}
    {L₂ L₃ : TrimmedLog Event} {event : Event}
    (h : event ∈ (catchUpResult req cursor L₂ L₃).batch.events) :
    L₃.base ≤ cursor.cursor.seq ∧
      event ∈ (batchAfter L₃ cursor.cursor.seq (normalizeLimit req.limit)).events := by
  unfold catchUpResult at h
  simp only at h
  split_ifs at h with hlong
  · cases h
  · exact ⟨Nat.le_of_not_lt fun hlt => hlong (.inr (.inr hlt)), h⟩

/-! ## Gap-free catch-up -/

/-- The batch is the contiguous run of at most `limit` events right behind `c`, and says of itself
where it starts, where it ends and whether it ends at the head `h`. -/
structure GapFree (c h limit : Nat) (batch : EventBatch) : Prop where
  bounded : batch.events.length ≤ limit
  contiguous : Consecutive Event.seq (c + 1) batch.events
  seqStart : ∀ hne : batch.events ≠ [], batch.seqStart = (batch.events.head hne).seq
  seq : ∀ hne : batch.events ≠ [], batch.seq = (batch.events.getLast hne).seq
  final : ∀ hne : batch.events ≠ [], batch.final = true ↔ (batch.events.getLast hne).seq = h
  caughtUp : batch.events = [] → batch.final = true ∧ h ≤ c

/-- The closed form of a batch is gap-free. -/
theorem gapFree_batchAfter {L : TrimmedLog Event} {c limit : Nat} (hlimit : 0 < limit)
    (hnum : Consecutive Event.seq 1 L.all) : GapFree c L.head limit (batchAfter L c limit) := by
  have hlen := length_batchAfter c limit (L := L)
  have hcons := numbered_batchAfter c limit hnum
  have hlast : ∀ hne : (batchAfter L c limit).events ≠ [],
      c < L.head ∧ ((batchAfter L c limit).events.getLast hne).seq = min (c + limit) L.head := by
    intro hne
    have hpos := List.length_pos_iff.mpr hne
    have heq := hcons.getLast_eq hne
    omega
  refine ⟨by omega, hcons, ?_, ?_, ?_, ?_⟩
  · intro hne
    rw [hcons.head_eq hne]
    simp only [batchAfter, if_pos (hlast hne).1]
  · intro hne
    rw [(hlast hne).2, seq_batchAfter]
  · intro hne
    rw [(hlast hne).2, final_batchAfter, decide_eq_true_eq]
    omega
  · intro hempty
    rw [hempty, List.length_nil] at hlen
    rw [final_batchAfter, decide_eq_true_eq]
    omega

/-- From a reachable store, under any other operations between its calls, `CatchUp` answers either
a gap-free batch behind the cursor it reports or `TOO_LONG` without events. -/
theorem catchUp_gapFree {s t : Store} (hs : Reachable s) {now : Int} {req : CatchUpRequest}
    {result : CatchUpResult}
    (h : Prog.Exec ((handler now).within (.whole Store)) (StepOf fun _ => True)
      (Engine.catchUp req).run s (.ok result) t) :
    (result.status = .ok ∧
        GapFree result.cursor.seq result.head.cursor.seq (normalizeLimit req.limit) result.batch) ∨
      (result.status = .tooLong ∧ result.batch.events = []) := by
  obtain ⟨s₁, s₂, h₁, h₂, h₃, heq⟩ := exec_catchUp h
  simp only [Cell.whole] at heq
  obtain ⟨L₂, hL₂⟩ := ((hs.steps h₁).steps h₂).holds req.streamID
  obtain ⟨L₃, hL₃⟩ := (((hs.steps h₁).steps h₂).steps h₃).holds req.streamID
  obtain rfl := catchUpOf_ok hL₂ hL₃ heq.symm
  by_cases hok : (catchUpResult req (s₁.cursorOf req.subscriberID req.streamID) L₂ L₃).status = .ok
  · obtain ⟨-, hres⟩ := catchUpResult_ok hok
    refine .inl ⟨hok, ?_⟩
    rw [hres]
    exact gapFree_batchAfter (normalizeLimit_pos _) hL₃.numbered
  · rw [catchUpResult_of_ne_ok hok]
    exact .inr ⟨rfl, rfl⟩

/-- A stream with two events. -/
def twoEvents : Store :=
  runOps [.append 0 { streamID := "s" }, .append 0 { streamID := "s" }] newStore

/-- The log is truncated past the cursor after the head is read: the last call announces it. -/
theorem catchUp_gapFree_truncated :
    ∃ t result, result.status = .tooLong ∧
      Prog.Exec ((handler 0).within (.whole Store)) (StepOf fun _ => True)
        (Engine.catchUp { subscriberID := "a", streamID := "s" }).run twoEvents (.ok result) t ∧
      ((result.status = .ok ∧
          GapFree result.cursor.seq result.head.cursor.seq (normalizeLimit 0) result.batch) ∨
        (result.status = .tooLong ∧ result.batch.events = [])) := by
  let result := Engine.noBatch .tooLong (twoEvents.cursorOf "a" "s")
    ((twoEvents.ensureStream "s").headCursor "s")
  have hexec : Prog.Exec ((handler 0).within (.whole Store)) (StepOf fun _ => True)
      (Engine.catchUp { subscriberID := "a", streamID := "s" }).run twoEvents (.ok result)
        ((Op.truncateBefore "s" 2).apply twoEvents) := by
    have htrunc : StepOf (fun _ => True) twoEvents ((Op.truncateBefore "s" 2).apply twoEvents) :=
      ⟨.truncateBefore "s" 2, trivial, rfl⟩
    exact .call _ _ .refl (.call _ _ .refl (.call _ _ (.single htrunc) (.ret _ _)))
  exact ⟨_, result, rfl, hexec, catchUp_gapFree ⟨_, rfl⟩ hexec⟩

end Synclog.Memory
