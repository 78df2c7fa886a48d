import Synclog.Memory.Interference

/-!
# Acknowledgements form a join

What any list of acknowledgements does to the cursors of the memory store, whoever sends them and in
whatever order they arrive.

* `Joins` — the cursor of a subscriber on a stream becomes the highest of what it was and what was
  acknowledged for it, with the metadata of the first acknowledgement that got there.
* `ackTrace` — the acknowledgements one after the other, each with its answer and the store it left.
* `run_engine_ack` — `Engine.Ack`, alone, is `Store.Ack` up to the head and an error above it.
* `acks_join` — every list of acknowledgements joins under every key, its answers are what
  `GetCursor` then answers and never go back, and neither the order nor the number of times an
  acknowledgement comes has an effect on the cursor.
-/

namespace Synclog.Memory

open Synclog.Lib Synclog.Core

/-! ## One acknowledgement -/

/-- Seq and metadata of a cursor. -/
def position (cursor : SubscriberCursor) : Nat × String := (cursor.cursor.seq, cursor.metadata)

/-- Seq and metadata to which an acknowledgement raises a cursor. -/
def positionOf (req : AckRequest) : Nat × String := (req.seq, req.metadata)

/-- The cursor with another seq and other metadata. -/
def withPosition (cursor : SubscriberCursor) (p : Nat × String) : SubscriberCursor :=
  { cursor with cursor := { cursor.cursor with seq := p.1 }, metadata := p.2 }

/-- A cursor at its own position is the cursor. -/
@[simp] theorem withPosition_position (cursor : SubscriberCursor) :
    withPosition cursor (position cursor) = cursor := rfl

/-- A raised cursor is at the position of the acknowledgement. -/
@[simp] theorem position_raised (cursor : SubscriberCursor) (req : AckRequest) :
    position (Store.raised cursor req) = positionOf req := rfl

/-- The position of a cursor begins with its seq. -/
@[simp] theorem position_fst (s : Store) (subscriberID : SubscriberID) (streamID : StreamID) :
    (position (s.cursorOf subscriberID streamID)).1 = s.committed subscriberID streamID := rfl

section Ack

variable {s : Store} {subscriberID : SubscriberID} {streamID : StreamID}

/-- An acknowledgement with an empty id is refused, and changes nothing. -/
theorem Store.ack_refused {req : AckRequest} (h : req.subscriberID = "" ∨ req.streamID = "") :
    ∃ err, s.ack req = (.error err, s) := by
  unfold ack
  by_cases hsub : req.subscriberID = ""
  · exact ⟨_, if_pos hsub⟩
  · rw [if_neg hsub, if_pos (h.resolve_left hsub)]
    exact ⟨_, rfl⟩

/-- An acknowledgement changes nothing but cursors. -/
theorem Store.ack_rest (s : Store) (req : AckRequest) :
    (s.ack req).2 = { s with cursors := (s.ack req).2.cursors } := by
  unfold ack
  simp only
  split_ifs <;> rfl

/-- The cursors that it is not about stay. -/
theorem Store.ack_cursorOf_of_ne (hs : CursorsNamed s) {req : AckRequest}
    (h : ¬ (req.subscriberID = subscriberID ∧ req.streamID = streamID)) :
    (s.ack req).2.cursorOf subscriberID streamID = s.cursorOf subscriberID streamID := by
  have hne : (⟨subscriberID, streamID⟩ : CursorKey) ≠ ⟨req.subscriberID, req.streamID⟩ := by
    rintro ⟨⟩
    exact h ⟨rfl, rfl⟩
  unfold cursorOf
  rcases ack_cursors hs req with hsame | ⟨cursor, -, -, -, hinsert⟩
  · rw [hsame]
  · rw [hinsert, AList.lookup_insert_ne hne]

/-- What an acknowledgement does to a cursor: it raises it, or leaves it. -/
theorem Store.ack_cursorOf (hs : CursorsNamed s) (req : AckRequest) (hsub : subscriberID ≠ "")
    (hid : streamID ≠ "") :
    (s.ack req).2.cursorOf subscriberID streamID =
      if (req.subscriberID = subscriberID ∧ req.streamID = streamID) ∧
          s.committed subscriberID streamID < req.seq then
        raised (s.cursorOf subscriberID streamID) req
      else s.cursorOf subscriberID streamID := by
  by_cases hkey : req.subscriberID = subscriberID ∧ req.streamID = streamID
  · obtain ⟨rfl, rfl⟩ := hkey
    rw [ack_eq hs hsub hid]
    simp only [true_and]
    split_ifs
    · unfold cursorOf
      rw [AList.lookup_insert]
      rfl
    · rfl
  · rw [if_neg fun h => hkey h.1, ack_cursorOf_of_ne hs hkey]

/-- `Ack` answers what `GetCursor` answers afterwards, also where it refuses an empty id. -/
theorem Store.ack_answer (hs : CursorsNamed s) (req : AckRequest) :
    (s.ack req).1 = (s.ack req).2.getCursor req.subscriberID req.streamID := by
  by_cases hsub : req.subscriberID = ""
  · unfold ack getCursor
    rw [if_pos hsub, if_pos hsub]
  by_cases hid : req.streamID = ""
  · unfold ack getCursor
    rw [if_neg hsub, if_pos hid, if_neg hsub, if_pos hid]
  rw [getCursor_eq _ hsub hid, ack_cursorOf hs req hsub hid, ack_eq hs hsub hid]
  simp only [and_self, true_and]
  split_ifs
  · rfl
  · rfl

/-- An acknowledgement that is not refused is answered. -/
theorem Store.ack_ok (hs : CursorsNamed s) {req : AckRequest} (hsub : req.subscriberID ≠ "")
    (hid : req.streamID ≠ "") : ∃ cursor, (s.ack req).1 = .ok cursor := by
  rw [ack_answer hs req, getCursor_eq _ hsub hid]
  exact ⟨_, rfl⟩

/-- A cursor that `GetCursor` answers is the committed one; an empty id is refused. -/
theorem Store.getCursor_ok {cursor : SubscriberCursor}
    (h : s.getCursor subscriberID streamID = .ok cursor) :
    subscriberID ≠ "" ∧ streamID ≠ "" ∧ cursor = s.cursorOf subscriberID streamID := by
  by_cases hids : subscriberID ≠ "" ∧ streamID ≠ ""
  · rw [getCursor_eq s hids.1 hids.2] at h
    exact ⟨hids.1, hids.2, (Except.ok.inj h).symm⟩
  · unfold getCursor at h
    split_ifs at h with hsub hid
    exact absurd ⟨hsub, hid⟩ hids

/-- The answer is the cursor that is committed then. -/
theorem Store.seq_of_ack (hs : CursorsNamed s) {req : AckRequest} {cursor : SubscriberCursor}
    (h : (s.ack req).1 = .ok cursor) :
    cursor.cursor.seq = (s.ack req).2.committed req.subscriberID req.streamID := by
  rw [ack_answer hs req] at h
  obtain ⟨-, -, rfl⟩ := getCursor_ok h
  rfl

end Ack

/-! ## Any number of acknowledgements -/

/-- The store after a list of acknowledgements. -/
def runAcks (acks : List AckRequest) (s : Store) : Store := runOps (acks.map .ack) s

/-- The acknowledgements that are about the cursor of a subscriber on a stream. -/
def acksFor (subscriberID : SubscriberID) (streamID : StreamID) (acks : List AckRequest) :
    List AckRequest :=
  acks.filter fun req => req.subscriberID = subscriberID && req.streamID = streamID

/-- Between the stores `s` and `t` the cursor of a subscriber on a stream becomes the highest of
what it was and what was acknowledged for it. Where it goes up, its metadata is that of the first
acknowledgement that is as high; else it stays. -/
structure Joins (s : Store) (acks : List AckRequest) (subscriberID : SubscriberID)
    (streamID : StreamID) (t : Store) : Prop where
  greatest : IsGreatest
    (insert (s.committed subscriberID streamID)
      {seq | ∃ req ∈ acksFor subscriberID streamID acks, req.seq = seq})
    (t.committed subscriberID streamID)
  raised : s.committed subscriberID streamID < t.committed subscriberID streamID →
    ∃ req, (acksFor subscriberID streamID acks).find?
        (fun req => req.seq = t.committed subscriberID streamID) = some req ∧
      (t.cursorOf subscriberID streamID).metadata = req.metadata
  kept : t.committed subscriberID streamID = s.committed subscriberID streamID →
    t.cursorOf subscriberID streamID = s.cursorOf subscriberID streamID

section Acks

variable {s : Store} {subscriberID : SubscriberID} {streamID : StreamID} {acks : List AckRequest}

/-- The last acknowledgement comes last. -/
theorem runAcks_concat (req : AckRequest) :
    runAcks (acks ++ [req]) s = ((runAcks acks s).ack req).2 := by
  unfold runAcks
  rw [List.map_append, runOps_append]
  rfl

/-- The last acknowledgement counts if it is for this cursor. -/
theorem acksFor_concat (req : AckRequest) :
    acksFor subscriberID streamID (acks ++ [req]) =
      acksFor subscriberID streamID acks ++
        if req.subscriberID = subscriberID ∧ req.streamID = streamID then [req] else [] := by
  unfold acksFor
  rw [List.filter_append]
  simp [List.filter_cons]

/-- Acknowledgements lead to reachable stores. -/
theorem Reachable.runAcks (hs : Reachable s) (acks : List AckRequest) :
    Reachable (runAcks acks s) := by
  induction acks using List.reverseRecOn with
  | nil => exact hs
  | append_singleton acks req ih =>
      rw [runAcks_concat]
      exact ih.apply (.ack req)

/-- The loop over the acknowledgements keeps the highest position, and of equal ones the first. -/
theorem argmax_position (hs : Reachable s) (hsub : subscriberID ≠ "") (hid : streamID ≠ "")
    (acks : List AckRequest) :
    (position (s.cursorOf subscriberID streamID) ::
        (acksFor subscriberID streamID acks).map positionOf).argmax Prod.fst =
      some (position ((runAcks acks s).cursorOf subscriberID streamID)) := by
  -- by induction on the last acknowledgement, which `argmax` takes only if it is higher
  induction acks using List.reverseRecOn with
  | nil => rfl
  | append_singleton acks req ih =>
      rw [runAcks_concat, Store.ack_cursorOf (hs.runAcks acks).cursorsNamed req hsub hid,
        acksFor_concat]
      by_cases hkey : req.subscriberID = subscriberID ∧ req.streamID = streamID
      · rw [if_pos hkey, List.map_append, List.map_singleton, ← List.cons_append,
          List.argmax_concat, ih]
        simp only [hkey, and_self, true_and]
        show (if (runAcks acks s).committed subscriberID streamID < req.seq then _ else _) = _
        split_ifs
        · rfl
        · rfl
      · rw [if_neg hkey, List.append_nil, ih, if_neg fun h => hkey h.1]

/-- Nothing of a cursor changes but its position. -/
theorem cursorOf_runAcks (hs : Reachable s) (hsub : subscriberID ≠ "") (hid : streamID ≠ "")
    (acks : List AckRequest) :
    (runAcks acks s).cursorOf subscriberID streamID =
      withPosition (s.cursorOf subscriberID streamID)
        (position ((runAcks acks s).cursorOf subscriberID streamID)) := by
  induction acks using List.reverseRecOn with
  | nil => rfl
  | append_singleton acks req ih =>
      rw [runAcks_concat, Store.ack_cursorOf (hs.runAcks acks).cursorsNamed req hsub hid]
      split_ifs
      · unfold Store.raised
        rw [ih]
        rfl
      · exact ih

/-- Any list of acknowledgements joins under every key that is not refused. -/
theorem runAcks_joins (hs : Reachable s) (hsub : subscriberID ≠ "") (hid : streamID ≠ "")
    (acks : List AckRequest) : Joins s acks subscriberID streamID (runAcks acks s) := by
  have hmax := argmax_position hs hsub hid acks
  refine ⟨?_, ?_, ?_⟩
  · have hgreatest := isGreatest_of_mem_argmax hmax
    have hset : Prod.fst '' {p | p ∈ position (s.cursorOf subscriberID streamID) ::
        (acksFor subscriberID streamID acks).map positionOf} =
          insert (s.committed subscriberID streamID)
            {seq | ∃ req ∈ acksFor subscriberID streamID acks, req.seq = seq} := by
      ext seq
      simp [position, positionOf, Store.committed, eq_comm]
    rwa [hset] at hgreatest
  · intro hlt
    -- the cursor itself was lower, so the first position that is as high is an acknowledgement
    have hfirst := find?_of_mem_argmax hmax
    rw [List.find?_cons_of_neg (by simp [hlt.ne]), List.find?_map,
      Option.map_eq_some_iff] at hfirst
    obtain ⟨req, hreq, hposition⟩ := hfirst
    exact ⟨req, hreq, (congrArg Prod.snd hposition).symm⟩
  · intro hsame
    have hfirst := find?_of_mem_argmax hmax
    rw [List.find?_cons_of_pos (by simp [hsame])] at hfirst
    rw [cursorOf_runAcks hs hsub hid, ← Option.some.inj hfirst, withPosition_position]

/-- No acknowledgement makes a cursor for an empty id. -/
theorem cursorOf_runAcks_of_empty (hs : Reachable s) (h : subscriberID = "" ∨ streamID = "")
    (acks : List AckRequest) :
    (runAcks acks s).cursorOf subscriberID streamID = s.cursorOf subscriberID streamID := by
  induction acks using List.reverseRecOn with
  | nil => rfl
  | append_singleton acks req ih =>
      rw [runAcks_concat, ← ih]
      by_cases hkey : req.subscriberID = subscriberID ∧ req.streamID = streamID
      · rw [← hkey.1, ← hkey.2] at h
        obtain ⟨err, hrefused⟩ := Store.ack_refused (s := runAcks acks s) h
        rw [hrefused]
      · exact Store.ack_cursorOf_of_ne (hs.runAcks acks).cursorsNamed hkey

/-- Lists with the same acknowledgements lead to the same committed cursors. -/
theorem committed_runAcks_congr (hs : Reachable s) {acks' : List AckRequest}
    (h : ∀ req, req ∈ acks' ↔ req ∈ acks) (subscriberID : SubscriberID) (streamID : StreamID) :
    (runAcks acks' s).committed subscriberID streamID =
      (runAcks acks s).committed subscriberID streamID := by
  by_cases hids : subscriberID ≠ "" ∧ streamID ≠ ""
  · have hjoins := runAcks_joins hs hids.1 hids.2 acks
    have hjoins' := runAcks_joins hs hids.1 hids.2 acks'
    have hmem : ∀ req, req ∈ acksFor subscriberID streamID acks' ↔
        req ∈ acksFor subscriberID streamID acks := by
      intro req
      unfold acksFor
      rw [List.mem_filter, List.mem_filter, h]
    have hgreatest := hjoins'.greatest
    simp only [hmem] at hgreatest
    exact hgreatest.unique hjoins.greatest
  · have hempty : subscriberID = "" ∨ streamID = "" := by tauto
    unfold Store.committed
    rw [cursorOf_runAcks_of_empty hs hempty, cursorOf_runAcks_of_empty hs hempty]

/-! ## The answers -/

/-- An acknowledgement that was applied, with its answer and the store it left. -/
structure Acked where
  req : AckRequest
  answer : Except GoError SubscriberCursor
  store : Store

/-- The acknowledgements one after the other. -/
def ackTrace : List AckRequest → Store → List Acked
  | [], _ => []
  | req :: acks, s =>
    { req, answer := (s.ack req).1, store := (s.ack req).2 } :: ackTrace acks (s.ack req).2

/-- Each answer is what `GetCursor` answers then. -/
theorem answer_eq_getCursor (hs : Reachable s) {e : Acked} (he : e ∈ ackTrace acks s) :
    e.answer = e.store.getCursor e.req.subscriberID e.req.streamID := by
  induction acks generalizing s with
  | nil => cases he
  | cons req acks ih =>
      rcases List.mem_cons.mp he with rfl | hrest
      · exact Store.ack_answer hs.cursorsNamed req
      · exact ih (hs.apply (.ack req)) hrest

/-- An answered cursor is not behind the one that was committed at first. -/
theorem committed_le_answer (hs : Reachable s) {e : Acked} (he : e ∈ ackTrace acks s)
    {cursor : SubscriberCursor} (hcursor : e.answer = .ok cursor) :
    s.committed e.req.subscriberID e.req.streamID ≤ cursor.cursor.seq := by
  induction acks generalizing s with
  | nil => cases he
  | cons req acks ih =>
      have hack : (Op.ack req).KeepsCursors := trivial
      have hkeeps : ∀ subscriberID streamID,
          s.committed subscriberID streamID ≤ (s.ack req).2.committed subscriberID streamID :=
        Op.committed_le hack hs
      rcases List.mem_cons.mp he with rfl | hrest
      · rw [Store.seq_of_ack hs.cursorsNamed hcursor]
        exact hkeeps _ _
      · exact (hkeeps _ _).trans (ih (hs.apply (.ack req)) hrest)

/-- The cursors answered under one key do not go back. -/
theorem pairwise_answers (hs : Reachable s) (acks : List AckRequest) :
    (ackTrace acks s).Pairwise fun e e' =>
      e.req.subscriberID = e'.req.subscriberID → e.req.streamID = e'.req.streamID →
        ∀ cursor cursor', e.answer = .ok cursor → e'.answer = .ok cursor' →
          cursor.cursor.seq ≤ cursor'.cursor.seq := by
  induction acks generalizing s with
  | nil => exact .nil
  | cons req acks ih =>
      have ht : Reachable (s.ack req).2 := hs.apply (.ack req)
      refine .cons ?_ (ih ht)
      intro e' he' hsub hid cursor cursor' hcursor hcursor'
      have hle := committed_le_answer ht he' hcursor'
      rw [Store.seq_of_ack hs.cursorsNamed hcursor]
      rwa [← hsub, ← hid] at hle

/-! ## Through the engine -/

/-- `Engine.Ack`, alone: an error above the head, else what the store does. -/
theorem run_engine_ack (now : Int) {req : AckRequest} (hsub : req.subscriberID ≠ "")
    (hid : req.streamID ≠ "") (s : Store) :
    Prog.run (handler now) (Engine.ack req).run s =
      if (s.ensureStream req.streamID).head < req.seq then
        (.error (Engine.errAckAboveHead req.seq (s.ensureStream req.streamID).head), s)
      else
        ((s.ack req).1.map fun cursor =>
            { cursor, head := (s.ensureStream req.streamID).headCursor req.streamID },
          (s.ack req).2) := by
  unfold Engine.ack
  rw [if_neg hsub, if_neg hid, Prog.run_bindE, Prog.run_performE]
  simp only [handler, s.getHead_eq hid]
  show Prog.run _ (ExceptT.run (if (s.ensureStream req.streamID).head < req.seq then _ else _)) s =
    _
  split_ifs
  · rfl
  · rw [Prog.run_bindE, Prog.run_performE]
    simp only [handler]
    rcases s.ack req with ⟨_ | _, t⟩ <;> rfl

/-- An acknowledgement above the head of the stream is an error and changes nothing. -/
theorem run_engine_ack_above (now : Int) {req : AckRequest}
    (h : (s.ensureStream req.streamID).head < req.seq) :
    ∃ err, Prog.run (handler now) (Engine.ack req).run s = (.error err, s) := by
  by_cases hsub : req.subscriberID = ""
  · unfold Engine.ack
    rw [if_pos hsub]
    exact ⟨_, rfl⟩
  by_cases hid : req.streamID = ""
  · unfold Engine.ack
    rw [if_neg hsub, if_pos hid]
    exact ⟨_, rfl⟩
  · rw [run_engine_ack now hsub hid, if_pos h]
    exact ⟨_, rfl⟩

/-- **Acknowledgements form a join.** Any list of them, from any reachable store: each cursor
becomes the highest of what it was and what was acknowledged for it, with the metadata of the first
one that is as high; a list with the same acknowledgements, in another order or more than once,
leads to the same seqs; each answer is what `GetCursor` answers then, and under one key none goes
back; and through the engine an acknowledgement above the head changes nothing. -/
theorem acks_join (hs : Reachable s) (acks : List AckRequest) :
    (∀ subscriberID streamID, subscriberID ≠ "" → streamID ≠ "" →
      Joins s acks subscriberID streamID (runAcks acks s)) ∧
    (∀ acks', (∀ req, req ∈ acks' ↔ req ∈ acks) → ∀ subscriberID streamID,
      (runAcks acks' s).committed subscriberID streamID =
        (runAcks acks s).committed subscriberID streamID) ∧
    (∀ e ∈ ackTrace acks s, e.answer = e.store.getCursor e.req.subscriberID e.req.streamID) ∧
    ((ackTrace acks s).Pairwise fun e e' =>
      e.req.subscriberID = e'.req.subscriberID → e.req.streamID = e'.req.streamID →
        ∀ cursor cursor', e.answer = .ok cursor → e'.answer = .ok cursor' →
          cursor.cursor.seq ≤ cursor'.cursor.seq) ∧
    ∀ now (req : AckRequest),
      ((runAcks acks s).ensureStream req.streamID).head < req.seq →
        ∃ err, Prog.run (handler now) (Engine.ack req).run (runAcks acks s) =
          (.error err, runAcks acks s) :=
  ⟨fun _ _ hsub hid => runAcks_joins hs hsub hid acks,
    fun _ h => committed_runAcks_congr hs h, fun _ => answer_eq_getCursor hs,
    pairwise_answers hs acks, fun now _ => run_engine_ack_above now⟩

end Acks

/-- Late and repeated acknowledgements of one cursor, with one of another cursor between them. -/
def lateAcks : List AckRequest :=
  [{ subscriberID := "a", streamID := "s", seq := 0, metadata := "zero" },
    { subscriberID := "a", streamID := "s", seq := 2, metadata := "first" },
    { subscriberID := "b", streamID := "s", seq := 1 },
    { subscriberID := "a", streamID := "s", seq := 1, metadata := "late" },
    { subscriberID := "a", streamID := "s", seq := 2, metadata := "again" }]

/-- They lead to the higher seq, with the metadata that came with it first. -/
theorem acks_join_late :
    (runAcks lateAcks newStore).committed "a" "s" = 2 ∧
      (runAcks lateAcks.reverse newStore).committed "a" "s" = 2 ∧
      ((runAcks lateAcks newStore).cursorOf "a" "s").metadata = "first" := by
  obtain ⟨hjoins, hsame, -⟩ := acks_join ⟨[], rfl⟩ lateAcks
  have hreverse := hsame lateAcks.reverse (fun _ => List.mem_reverse) "a" "s"
  obtain ⟨req, hfirst, hmetadata⟩ :=
    (hjoins "a" "s" (by decide) (by decide)).raised (by decide)
  cases hfirst
  exact ⟨rfl, hreverse, hmetadata⟩

end Synclog.Memory
