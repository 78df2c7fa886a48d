import Synclog.Lib.Machine
import Synclog.Memory.CatchUp

/-!
# The memory store under operations that keep the cursors

While no cursor is reset and no stream deleted, the committed cursor of a subscriber on a stream
never goes back (`Op.committed_le`). Across any number of such operations the store stays reachable
and nothing of its past is lost (`envSteps_later`), and what a catch-up reads meanwhile is a
contiguous run behind a value that the committed cursor had (`catchUpOf_batch`).
-/

namespace Synclog.Memory

open Synclog.Lib Synclog.Core
open Relation (ReflTransGen)

/-- The operation is neither `ResetCursor` nor `DeleteStream`. -/
def Op.KeepsCursors : Op → Prop
  | .resetCursor .. => False
  | .deleteStream _ => False
  | _ => True

/-- Each stored cursor carries the name of its subscriber. -/
def CursorsNamed (s : Store) : Prop :=
  ∀ key cursor, s.cursors.lookup key = some cursor → cursor.subscriberID ≠ ""

namespace Store

/-- Putting a snapshot leaves the cursors alone. -/
theorem putSnapshot_cursors (s : Store) (req : PutSnapshotRequest) :
    (s.putSnapshot req).2.cursors = s.cursors := by
  rcases s.putSnapshot_cases req with hsame | hstored
  · rw [hsame]
  · rw [hstored]

/-- Deleting a snapshot leaves the cursors alone. -/
theorem deleteSnapshot_cursors (s : Store) (key : SnapshotKey) :
    (s.deleteSnapshot key).2.cursors = s.cursors := by
  rcases s.deleteSnapshot_cases key with hsame | herased
  · rw [hsame]
  · rw [herased]

/-- The cursor that an acknowledgement above it makes of a cursor.
Source: `store.go`, `Store.Ack`. -/
def raised (cursor : SubscriberCursor) (req : AckRequest) : SubscriberCursor :=
  { cursor with cursor := { cursor.cursor with seq := req.seq }, metadata := req.metadata }

/-- `Ack` raises the committed cursor or leaves the store as it is; it answers the cursor that is
committed then. -/
theorem ack_eq {s : Store} (hs : CursorsNamed s) {req : AckRequest} (hsub : req.subscriberID ≠ "")
    (hid : req.streamID ≠ "") :
    s.ack req =
      if s.committed req.subscriberID req.streamID < req.seq then
        (.ok (raised (s.cursorOf req.subscriberID req.streamID) req),
          { s with
            cursors := s.cursors.insert ⟨req.subscriberID, req.streamID⟩
              (raised (s.cursorOf req.subscriberID req.streamID) req) })
      else (.ok (s.cursorOf req.subscriberID req.streamID), s) := by
  unfold ack committed cursorOf raised
  rw [if_neg hsub, if_neg hid]
  cases hlookup : s.cursors.lookup ⟨req.subscriberID, req.streamID⟩ with
  | none => simp only [hlookup, Option.getD_none, if_true, gt_iff_lt]
  | some cursor =>
      have hname := hs _ _ hlookup
      simp only [hlookup, Option.getD_some, if_neg hname, gt_iff_lt]

/-- The subscriber of a cursor that `GetCursor` answers has a name. -/
theorem cursorOf_named {s : Store} (hs : CursorsNamed s) {subscriberID : SubscriberID}
    (hsub : subscriberID ≠ "") (streamID : StreamID) :
    (s.cursorOf subscriberID streamID).subscriberID ≠ "" := by
  unfold cursorOf
  cases hlookup : s.cursors.lookup ⟨subscriberID, streamID⟩ with
  | none => exact hsub
  | some cursor => exact hs _ _ hlookup

/-- What `Ack` does to the stored cursors of a store whose cursors are named: nothing, or it raises
one. -/
theorem ack_cursors {s : Store} (hs : CursorsNamed s) (req : AckRequest) :
    (s.ack req).2.cursors = s.cursors ∨
      ∃ cursor : SubscriberCursor, cursor.subscriberID ≠ "" ∧
        cursor.cursor.seq = req.seq ∧
        s.committed req.subscriberID req.streamID < req.seq ∧
        (s.ack req).2.cursors = s.cursors.insert ⟨req.subscriberID, req.streamID⟩ cursor := by
  by_cases hsub : req.subscriberID = ""
  · exact .inl (by unfold ack; rw [if_pos hsub])
  by_cases hid : req.streamID = ""
  · exact .inl (by unfold ack; rw [if_neg hsub, if_pos hid])
  rw [ack_eq hs hsub hid]
  split_ifs with hlt
  · exact .inr ⟨raised (s.cursorOf req.subscriberID req.streamID) req,
      cursorOf_named hs hsub req.streamID, rfl, hlt, rfl⟩
  · exact .inl rfl

/-- After an acknowledgement the committed cursor is the larger of the two. -/
theorem ack_committed {s : Store} (hs : CursorsNamed s) {req : AckRequest}
    (hsub : req.subscriberID ≠ "") (hid : req.streamID ≠ "") :
    (s.ack req).2.committed req.subscriberID req.streamID =
      max (s.committed req.subscriberID req.streamID) req.seq := by
  rw [ack_eq hs hsub hid]
  split_ifs with hlt
  · rw [max_eq_right hlt.le]
    unfold committed cursorOf raised
    simp
  · exact (max_eq_left (Nat.le_of_not_lt hlt)).symm

end Store

/-! ## The committed cursor -/

/-- Every operation leaves the cursors named. -/
theorem Op.cursorsNamed (op : Op) {s : Store} (hs : CursorsNamed s) :
    CursorsNamed (op.apply s) := by
  cases op with
  | ack req =>
      rcases Store.ack_cursors hs req with hsame | ⟨cursor, hname, -, -, hinsert⟩
      · intro key cursor' hlookup
        exact hs key cursor' (hsame ▸ hlookup)
      · intro key cursor' hlookup
        change (s.ack req).2.cursors.lookup key = some cursor' at hlookup
        rw [hinsert, FinMap.lookup_insert_eq_ite] at hlookup
        split_ifs at hlookup
        · cases hlookup
          exact hname
        · exact hs key cursor' hlookup
  | resetCursor subscriberID streamID seq metadata =>
      intro key cursor' hlookup
      unfold Op.apply Store.resetCursor at hlookup
      simp only at hlookup
      split_ifs at hlookup with hsub hid
      · exact hs key cursor' hlookup
      · exact hs key cursor' hlookup
      · simp only [FinMap.lookup_insert_eq_ite] at hlookup
        split_ifs at hlookup
        · cases hlookup
          exact hsub
        · exact hs key cursor' hlookup
  | deleteStream streamID =>
      intro key cursor' hlookup
      unfold Op.apply Store.deleteStream at hlookup
      simp only at hlookup
      split_ifs at hlookup
      · exact hs key cursor' hlookup
      · simp only [FinMap.lookup_keep] at hlookup
        split_ifs at hlookup
        exact hs key cursor' hlookup
  | putSnapshot req =>
      intro key cursor' hlookup
      exact hs key cursor' (s.putSnapshot_cursors req ▸ hlookup)
  | deleteSnapshot key' =>
      intro key cursor' hlookup
      exact hs key cursor' (s.deleteSnapshot_cursors key' ▸ hlookup)
  | append | createStream | truncateBefore | compactStream | setStreamRetention |
    registerWatcher | removeWatcher =>
      intro key cursor' hlookup
      rw [Op.aside cursors_aside] at hlookup
      · exact hs key cursor' hlookup
      · trivial

/-- In a reachable store every cursor has both its names. -/
theorem Reachable.cursorsNamed {s : Store} (hs : Reachable s) : CursorsNamed s := by
  refine hs.invariant (I := CursorsNamed) ?_ (fun op s => op.cursorsNamed)
  intro key cursor hlookup
  simp [newStore] at hlookup

/-- What an operation that keeps the cursors does to a committed cursor: nothing, or it is an
acknowledgement that raises it. -/
theorem Op.committed_cases {op : Op} (hop : op.KeepsCursors) {s : Store} (hs : Reachable s)
    (subscriberID : SubscriberID) (streamID : StreamID) :
    (op.apply s).committed subscriberID streamID = s.committed subscriberID streamID ∨
      ∃ req, op = .ack req ∧ req.subscriberID = subscriberID ∧ req.streamID = streamID ∧
        s.committed subscriberID streamID < req.seq ∧
        (op.apply s).committed subscriberID streamID = req.seq := by
  have hsame : (op.apply s).cursors = s.cursors →
      (op.apply s).committed subscriberID streamID = s.committed subscriberID streamID := by
    intro heq
    unfold Store.committed Store.cursorOf
    rw [heq]
  cases op with
  | ack req =>
      rcases Store.ack_cursors hs.cursorsNamed req with heq | ⟨cursor, -, hseq, hlt, hinsert⟩
      · exact .inl (hsame heq)
      · by_cases hkey : (⟨subscriberID, streamID⟩ : CursorKey) = ⟨req.subscriberID, req.streamID⟩
        · cases hkey
          refine .inr ⟨req, rfl, rfl, rfl, hlt, ?_⟩
          unfold Op.apply Store.committed Store.cursorOf
          simp only [hinsert, FinMap.lookup_insert_eq_ite, if_true, Option.getD_some, hseq]
        · refine .inl ?_
          unfold Op.apply Store.committed Store.cursorOf
          simp only [hinsert, FinMap.lookup_insert_eq_ite, if_neg hkey]
  | resetCursor => exact hop.elim
  | deleteStream => exact hop.elim
  | putSnapshot req => exact .inl (hsame (s.putSnapshot_cursors req))
  | deleteSnapshot key => exact .inl (hsame (s.deleteSnapshot_cursors key))
  | append | createStream | truncateBefore | compactStream | setStreamRetention |
    registerWatcher | removeWatcher =>
      refine .inl (hsame (Op.aside cursors_aside ?_ s))
      trivial

/-- An operation that keeps the cursors moves no committed cursor back. -/
theorem Op.committed_le {op : Op} (hop : op.KeepsCursors) {s : Store} (hs : Reachable s)
    (subscriberID : SubscriberID) (streamID : StreamID) :
    s.committed subscriberID streamID ≤ (op.apply s).committed subscriberID streamID := by
  rcases op.committed_cases hop hs subscriberID streamID with
    hsame | ⟨req, -, -, -, hlt, hseq⟩
  · exact hsame.ge
  · exact hseq.symm ▸ hlt.le

/-! ## Steps of the others -/

/-- No call leads out of the reachable stores. -/
theorem handler_reachable (now : Int) {β : Type} (c : StoreCall β) {s : Store} (hs : Reachable s) :
    Reachable (handler now β c s).2 := by
  cases c with
  | append req => exact hs.apply (.append now req)
  | ack req => exact hs.apply (.ack req)
  | getHead | read | getCursor | getLatestSnapshot => exact hs

/-- Another party performs an operation that keeps the cursors. -/
def EnvStep (σ τ : Traced Store) : Prop :=
  ∃ op : Op, op.KeepsCursors ∧ τ = σ.push (op.apply σ.now)

/-- After any number of such steps the store is reachable, its past is a part of the new past, and
no committed cursor is smaller. -/
theorem envSteps_later {σ τ : Traced Store} (hσ : Reachable σ.now) (h : ReflTransGen EnvStep σ τ) :
    Reachable τ.now ∧ (∀ s ∈ σ.states, s ∈ τ.states) ∧
      ∀ subscriberID streamID,
        σ.now.committed subscriberID streamID ≤ τ.now.committed subscriberID streamID := by
  induction h with
  | refl => exact ⟨hσ, fun s hs => hs, fun _ _ => le_rfl⟩
  | tail _ hstep ih =>
      obtain ⟨op, hop, rfl⟩ := hstep
      obtain ⟨hreach, hpast, hle⟩ := ih
      refine ⟨hreach.apply op, fun s hs => Traced.mem_states_push.mpr (.inr (hpast s hs)), ?_⟩
      intro subscriberID streamID
      exact (hle subscriberID streamID).trans (Op.committed_le hop hreach subscriberID streamID)

/-- What a catch-up answers: the cursor that it has read and, where it has events, a batch of some
log right behind this cursor. -/
theorem catchUpOf_answer {req : CatchUpRequest} {s₁ s₂ s₃ : Store} (h₂ : Reachable s₂)
    (h₃ : Reachable s₃) {result : CatchUpResult} (h : catchUpOf req s₁ s₂ s₃ = .ok result) :
    result.cursor.seq = s₁.committed req.subscriberID req.streamID ∧
      (result.batch.events ≠ [] → result.status = .ok ∧ ∃ L : TrimmedLog Event,
        Consecutive Event.seq 1 L.all ∧
        result.batch = batchAfter L (s₁.committed req.subscriberID req.streamID)
          (normalizeLimit req.limit)) := by
  obtain ⟨L₂, hL₂⟩ := h₂.holds req.streamID
  obtain ⟨L₃, hL₃⟩ := h₃.holds req.streamID
  obtain rfl := catchUpOf_ok hL₂ hL₃ h
  by_cases hok : (catchUpResult req (s₁.cursorOf req.subscriberID req.streamID) L₂ L₃).status = .ok
  · obtain ⟨-, hres⟩ := catchUpResult_ok hok
    rw [hres]
    exact ⟨rfl, fun _ => ⟨rfl, L₃, hL₃.numbered, rfl⟩⟩
  · rw [catchUpResult_of_ne_ok hok]
    exact ⟨rfl, fun hne => absurd rfl hne⟩

/-- What a catch-up reports: the cursor it has read, and a contiguous run right behind it. -/
theorem catchUpOf_batch {req : CatchUpRequest} {s₁ s₂ s₃ : Store} (h₂ : Reachable s₂)
    (h₃ : Reachable s₃) {result : CatchUpResult} (h : catchUpOf req s₁ s₂ s₃ = .ok result) :
    result.cursor.seq = s₁.committed req.subscriberID req.streamID ∧
      (result.batch.events ≠ [] →
        Consecutive Event.seq (s₁.committed req.subscriberID req.streamID + 1) result.batch.events ∧
        result.batch.seq =
          s₁.committed req.subscriberID req.streamID + result.batch.events.length) := by
  obtain ⟨hcursor, hanswer⟩ := catchUpOf_answer h₂ h₃ h
  refine ⟨hcursor, fun hne => ?_⟩
  obtain ⟨-, L, hnumbered, hbatch⟩ := hanswer hne
  rw [hbatch] at hne ⊢
  exact ⟨numbered_batchAfter _ _ hnumbered, seq_eq_add_length _ _ hne⟩

/-- What a catch-up answers with events is `ok`, and no longer than a batch may be. -/
theorem catchUpOf_bounded {req : CatchUpRequest} {s₁ s₂ s₃ : Store} (h₂ : Reachable s₂)
    (h₃ : Reachable s₃) {result : CatchUpResult} (h : catchUpOf req s₁ s₂ s₃ = .ok result)
    (hne : result.batch.events ≠ []) :
    result.status = .ok ∧ result.batch.events.length ≤ normalizeLimit req.limit := by
  obtain ⟨hok, L, -, hbatch⟩ := (catchUpOf_answer h₂ h₃ h).2 hne
  refine ⟨hok, ?_⟩
  rw [hbatch, events_batchAfter]
  exact List.length_take_le _ _

end Synclog.Memory
