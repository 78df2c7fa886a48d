import Synclog.Memory.Acks
import Synclog.Memory.TooLong

/-!
# Draining a stream in batches

A reader that repeats `CatchUp` and acknowledges the seq of the batch, until a batch is final, with
another limit in each round.

* `drain` — the loop of the reader, as a client of the engine.
* `Drained` — the batches are what the reader is owed: the retained events behind its cursor, in
  order, with the last batch final and no other, and the cursor at the head.
* `run_drainRound` — one round takes the next events and moves the cursor behind them.
* `drain_independent` — with nobody else at the store, the reader ends after finitely many rounds
  and is drained, whatever the limits; so they have no effect on the events it gets.
-/

namespace Synclog.Memory

open Synclog.Lib Synclog.Core

/-- What a reader sends along in one round: the limit of its catch-up, and the metadata of its
acknowledgement. -/
structure DrainRound where
  limit : Int
  metadata : String := ""

section Drain

variable (subscriberID : SubscriberID) (streamID : StreamID)

/-- One round: a catch-up without a budget, and the acknowledgement of the seq of its batch. -/
def drainRound (round : DrainRound) : ServerProg EventBatch := do
  let result ← Engine.catchUp { subscriberID, streamID, limit := round.limit }
  let _ ← Engine.ack
    { subscriberID, streamID, seq := result.batch.seq, metadata := round.metadata }
  return result.batch

/-- Rounds up to the first final batch, at most `n` of them; the batches in order. -/
def drain : Nat → (Nat → DrainRound) → ServerProg (List EventBatch)
  | 0, _ => return []
  | n + 1, rounds => do
    let batch ← drainRound subscriberID streamID (rounds 0)
    if batch.final then
      return [batch]
    let batches ← drain n fun i => rounds (i + 1)
    return batch :: batches

/-- Between the stores `s` and `t` the batches have brought the reader from its cursor to the head:
the last batch is final and no other, together they have the retained events with the seqs behind
the cursor up to the head, each once and in order, and the cursor is at the head, unless it was
above it. Nothing else has changed. -/
structure Drained (s : Store) (batches : List EventBatch) (t : Store) : Prop where
  final : ∃ before last, batches = before ++ [last] ∧ last.final = true ∧
    ∀ batch ∈ before, batch.final = false
  events : batches.flatMap (·.events) = (s.ensureStream streamID).events.filter fun event =>
    event.seq ∈ Finset.Ioc (s.committed subscriberID streamID) (s.ensureStream streamID).head
  seqs : (batches.flatMap (·.events)).map (·.seq) =
    List.range' (s.committed subscriberID streamID + 1)
      ((s.ensureStream streamID).head - s.committed subscriberID streamID)
  cursor : t.committed subscriberID streamID =
    max (s.committed subscriberID streamID) (s.ensureStream streamID).head
  rest : t = { s with cursors := t.cursors }

variable {subscriberID streamID} {s : Store} {L : TrimmedLog Event}

/-- A catch-up without a budget, of a reader that is not behind what is retained. -/
theorem run_catchUp_retained (now : Int) (hsub : subscriberID ≠ "") (hid : streamID ≠ "")
    (hL : s.Holds streamID L) (hbase : L.base ≤ s.committed subscriberID streamID) (limit : Int) :
    ∃ result, Prog.run (handler now)
        (Engine.catchUp { subscriberID, streamID, limit }).run s = (.ok result, s) ∧
      result.batch =
        batchAfter L (s.committed subscriberID streamID) (normalizeLimit limit) := by
  refine ⟨_, run_catchUp now hsub hid hL, ?_⟩
  unfold catchUpResult
  rw [if_neg]
  · rfl
  · rintro (hold | hbudget | hold)
    · exact absurd hbase (not_le_of_gt hold)
    · simp [replayOverBudget] at hbudget
    · exact absurd hbase (not_le_of_gt hold)

variable (subscriberID streamID) in
/-- Between the stores `s` and `t` a round has brought the reader the next events of the log, at
most `limit` of them, and has moved its cursor behind them. -/
structure TakesNext (L : TrimmedLog Event) (limit : Nat) (s : Store) (batch : EventBatch)
    (t : Store) : Prop where
  events : batch.events = (L.all.drop (s.committed subscriberID streamID)).take limit
  final : batch.final = true ↔ L.head ≤ s.committed subscriberID streamID + limit
  cursor : t.committed subscriberID streamID = max (s.committed subscriberID streamID)
    (min (s.committed subscriberID streamID + limit) L.head)
  rest : t = { s with cursors := t.cursors }

/-- One round of such a reader. -/
theorem run_drainRound (now : Int) (hs : Reachable s) (hsub : subscriberID ≠ "")
    (hid : streamID ≠ "") (hL : s.Holds streamID L)
    (hbase : L.base ≤ s.committed subscriberID streamID) (round : DrainRound) :
    ∃ batch t, Prog.run (handler now) (drainRound subscriberID streamID round).run s =
        (.ok batch, t) ∧ Reachable t ∧
      TakesNext subscriberID streamID L (normalizeLimit round.limit) s batch t := by
  obtain ⟨result, hcatchUp, hbatch⟩ :=
    run_catchUp_retained now hsub hid hL hbase round.limit
  let req : AckRequest :=
    { subscriberID, streamID, seq := result.batch.seq, metadata := round.metadata }
  have hseq : req.seq =
      min (s.committed subscriberID streamID + normalizeLimit round.limit) L.head :=
    (congrArg EventBatch.seq hbatch).trans (seq_batchAfter _ _)
  have hwithin : ¬ (s.ensureStream streamID).head < req.seq := by
    rw [hL.head, hseq]
    omega
  have hnamed : req.subscriberID ≠ "" ∧ req.streamID ≠ "" := ⟨hsub, hid⟩
  obtain ⟨cursor, hok⟩ := Store.ack_ok hs.cursorsNamed hnamed.1 hnamed.2
  have hack := run_engine_ack now hnamed.1 hnamed.2 s
  rw [if_neg hwithin, hok] at hack
  have hcommitted := Store.ack_committed hs.cursorsNamed hnamed.1 hnamed.2
  rw [hseq] at hcommitted
  refine ⟨result.batch, (s.ack req).2, ?_, hs.apply (.ack req), ?_, ?_, hcommitted,
    s.ack_rest req⟩
  · unfold drainRound
    rw [Prog.run_bindE_of_ok hcatchUp, Prog.run_bindE_of_ok hack]
    rfl
  · rw [hbatch, events_batchAfter]
  · rw [hbatch, final_batchAfter, decide_eq_true_eq]

/-! ## The loop -/

section Loop

variable {now : Int} {n : Nat} {rounds : Nat → DrainRound} {batch : EventBatch}
  {batches : List EventBatch} {t u : Store}

/-- The loop ends with a final batch. -/
theorem run_drain_last
    (hround : Prog.run (handler now) (drainRound subscriberID streamID (rounds 0)).run s =
      (.ok batch, t)) (hfinal : batch.final = true) :
    Prog.run (handler now) (drain subscriberID streamID (n + 1) rounds).run s =
      (.ok [batch], t) := by
  unfold drain
  rw [Prog.run_bindE_of_ok hround, if_pos hfinal]
  rfl

/-- It goes on behind a batch that is not final. -/
theorem run_drain_cons
    (hround : Prog.run (handler now) (drainRound subscriberID streamID (rounds 0)).run s =
      (.ok batch, t)) (hfinal : ¬ batch.final = true)
    (hrest : Prog.run (handler now) (drain subscriberID streamID n fun i => rounds (i + 1)).run t =
      (.ok batches, u)) :
    Prog.run (handler now) (drain subscriberID streamID (n + 1) rounds).run s =
      (.ok (batch :: batches), u) := by
  unfold drain
  rw [Prog.run_bindE_of_ok hround, if_neg hfinal, Prog.run_bindE_of_ok hrest]
  rfl

end Loop

variable (subscriberID streamID) in
/-- Between the stores `s` and `t` the batches have brought the reader to the end of the log. -/
structure TakesRest (L : TrimmedLog Event) (s : Store) (batches : List EventBatch) (t : Store) :
    Prop where
  final : ∃ before last, batches = before ++ [last] ∧ last.final = true ∧
    ∀ batch ∈ before, batch.final = false
  events : batches.flatMap (·.events) = L.all.drop (s.committed subscriberID streamID)
  cursor : t.committed subscriberID streamID = max (s.committed subscriberID streamID) L.head
  rest : t = { s with cursors := t.cursors }

section Steps

variable {limit : Nat} {batch : EventBatch} {batches : List EventBatch} {t u : Store}

/-- A final batch has brought the reader to the end. -/
theorem TakesNext.takesRest (h : TakesNext subscriberID streamID L limit s batch t)
    (hfinal : batch.final = true) : TakesRest subscriberID streamID L s [batch] t := by
  have hlast := h.final.mp hfinal
  refine ⟨⟨[], batch, rfl, hfinal, by simp⟩, ?_, ?_, h.rest⟩
  · have hlen : (L.all.drop (s.committed subscriberID streamID)).length ≤ limit := by
      rw [List.length_drop]
      show L.head - _ ≤ _
      omega
    rw [List.flatMap_singleton, h.events, List.take_of_length_le hlen]
  · rw [h.cursor, min_eq_right hlast]

/-- Another batch moves the cursor by the limit. -/
theorem TakesNext.committed_eq (h : TakesNext subscriberID streamID L limit s batch t)
    (hfinal : ¬ batch.final = true) :
    t.committed subscriberID streamID = s.committed subscriberID streamID + limit ∧
      s.committed subscriberID streamID + limit < L.head := by
  have hmore := mt h.final.mpr hfinal
  have hcursor := h.cursor
  omega

/-- What comes behind it brings the reader to the end. -/
theorem TakesNext.cons (h : TakesNext subscriberID streamID L limit s batch t)
    (hfinal : ¬ batch.final = true) (hrest : TakesRest subscriberID streamID L t batches u) :
    TakesRest subscriberID streamID L s (batch :: batches) u := by
  obtain ⟨hnext, hmore⟩ := h.committed_eq hfinal
  obtain ⟨before, last, rfl, hlast, hbefore⟩ := hrest.final
  refine ⟨⟨batch :: before, last, rfl, hlast, ?_⟩, ?_, ?_, ?_⟩
  · exact List.forall_mem_cons.mpr ⟨Bool.not_eq_true _ ▸ hfinal, hbefore⟩
  · rw [List.flatMap_cons, hrest.events, h.events, hnext, ← List.drop_drop,
      List.take_append_drop]
  · rw [hrest.cursor, hnext]
    omega
  · rw [hrest.rest, h.rest]

end Steps

/-- The loop of such a reader brings it to the end of the log, in a number of rounds that is enough.
-/
theorem run_drain (now : Int) (hs : Reachable s) (hsub : subscriberID ≠ "") (hid : streamID ≠ "")
    (hL : s.Holds streamID L) (hbase : L.base ≤ s.committed subscriberID streamID)
    (rounds : Nat → DrainRound) :
    ∃ n batches t,
      (∀ m, Prog.run (handler now) (drain subscriberID streamID (n + m) rounds).run s =
        (.ok batches, t)) ∧ TakesRest subscriberID streamID L s batches t := by
  -- by induction on what is left, which every round but the last makes smaller
  induction hleft : L.head - s.committed subscriberID streamID using Nat.strongRecOn
    generalizing s rounds with
  | ind left ih =>
      obtain ⟨batch, t, hround, ht, htakes⟩ :=
        run_drainRound now hs hsub hid hL hbase (rounds 0)
      by_cases hfinal : batch.final = true
      · refine ⟨1, [batch], t, fun m => ?_, htakes.takesRest hfinal⟩
        rw [Nat.add_comm]
        exact run_drain_last hround hfinal
      · obtain ⟨hnext, hmore⟩ := htakes.committed_eq hfinal
        have hpos := normalizeLimit_pos (rounds 0).limit
        have hLt : t.Holds streamID L := by
          rw [htakes.rest]
          exact hL
        obtain ⟨n, batches, u, hrun, hrest⟩ :=
          ih (L.head - t.committed subscriberID streamID) (by omega) ht hLt (by omega)
            (fun i => rounds (i + 1)) rfl
        refine ⟨n + 1, batch :: batches, u, fun m => ?_, htakes.cons hfinal hrest⟩
        rw [Nat.add_right_comm]
        exact run_drain_cons hround hfinal (hrun m)

/-- In terms of what the store retains. -/
theorem TakesRest.drained {batches : List EventBatch} {t : Store} (hL : s.Holds streamID L)
    (hbase : L.base ≤ s.committed subscriberID streamID)
    (h : TakesRest subscriberID streamID L s batches t) :
    Drained subscriberID streamID s batches t := by
  refine ⟨h.final, ?_, ?_, ?_, h.rest⟩
  · rw [h.events, ← hL.filter_events hbase]
    refine List.filter_congr fun event hmem => ?_
    have hbounds := hL.numbered_retained.bounds hmem
    rw [hL.length_events] at hbounds
    rw [hL.head, decide_eq_decide, Finset.mem_Ioc]
    omega
  · have hnumbered := Consecutive.iff_map_eq_range'.mp
      (hL.numbered.drop (s.committed subscriberID streamID))
    rw [List.length_drop, Nat.add_comm 1] at hnumbered
    rw [h.events, hL.head]
    exact hnumbered
  · rw [h.cursor, hL.head]

/-- A catch-up that is answered names a subscriber and a stream. -/
theorem named_of_catchUp {now limit : Int} {result : CatchUpResult}
    (hrun : Prog.run (handler now) (Engine.catchUp { subscriberID, streamID, limit }).run s =
      (.ok result, s)) : subscriberID ≠ "" ∧ streamID ≠ "" := by
  unfold Engine.catchUp at hrun
  split_ifs at hrun with hsub hid
  · cases congrArg Prod.fst hrun
  · cases congrArg Prod.fst hrun
  · exact ⟨hsub, hid⟩

/-- A reader whose catch-up is not too long is not behind what is retained. -/
theorem base_le_of_not_tooLong (hsub : subscriberID ≠ "") (hid : streamID ≠ "")
    (hL : s.Holds streamID L) {now limit : Int} {result : CatchUpResult}
    (hrun : Prog.run (handler now) (Engine.catchUp { subscriberID, streamID, limit }).run s =
      (.ok result, s)) (hshort : result.status ≠ .tooLong) :
    L.base ≤ s.committed subscriberID streamID := by
  rw [run_catchUp now hsub hid hL, Prod.mk.injEq, Except.ok.injEq] at hrun
  rw [← hrun.1] at hshort
  by_contra hold
  refine hshort ?_
  unfold catchUpResult
  exact congrArg CatchUpResult.status (if_pos (.inl (not_le.mp hold)))

/-- **Draining does not depend on the limits.** From every reachable store, for a reader whose
catch-up is not too long and with nobody else at the store: whatever the limits and the metadata of
its rounds, a finite number of rounds is enough, no larger number makes a difference, and they drain
the stream; and two readers with different limits get the same events. -/
theorem drain_independent (hs : Reachable s) (now : Int)
    (hshort : ∃ limit result, Prog.run (handler now)
        (Engine.catchUp { subscriberID, streamID, limit }).run s = (.ok result, s) ∧
      result.status ≠ .tooLong) :
    (∀ rounds : Nat → DrainRound, ∃ n batches t,
      (∀ m, Prog.run (handler now) (drain subscriberID streamID (n + m) rounds).run s =
        (.ok batches, t)) ∧ Drained subscriberID streamID s batches t) ∧
    ∀ rounds rounds' : Nat → DrainRound, ∃ n batches batches' t t', ∀ m,
      Prog.run (handler now) (drain subscriberID streamID (n + m) rounds).run s =
        (.ok batches, t) ∧
      Prog.run (handler now) (drain subscriberID streamID (n + m) rounds').run s =
        (.ok batches', t') ∧
      batches.flatMap (·.events) = batches'.flatMap (·.events) := by
  obtain ⟨L, hL⟩ := hs.holds streamID
  obtain ⟨limit, result, hrun, hstatus⟩ := hshort
  obtain ⟨hsub, hid⟩ := named_of_catchUp hrun
  have hbase := base_le_of_not_tooLong hsub hid hL hrun hstatus
  have hdrains := run_drain now hs hsub hid hL hbase
  constructor
  · intro rounds
    obtain ⟨n, batches, t, hrounds, hrest⟩ := hdrains rounds
    exact ⟨n, batches, t, hrounds, hrest.drained hL hbase⟩
  · intro rounds rounds'
    obtain ⟨n, batches, t, hrounds, hrest⟩ := hdrains rounds
    obtain ⟨n', batches', t', hrounds', hrest'⟩ := hdrains rounds'
    refine ⟨n + n', batches, batches', t, t', fun m => ⟨?_, ?_, ?_⟩⟩
    · rw [Nat.add_assoc]
      exact hrounds (n' + m)
    · rw [Nat.add_comm n, Nat.add_assoc]
      exact hrounds' (n + m)
    · rw [hrest.events, hrest'.events]

end Drain

/-- A reader that has read nothing takes two events one by one. -/
theorem drain_independent_singly : ∃ n batches t,
    (∀ m, Prog.run (handler 0) (drain "a" "s" (n + m) fun _ => { limit := 1 }).run twoEvents =
      (.ok batches, t)) ∧ Drained "a" "s" twoEvents batches t := by
  have hshort : ∃ limit result, Prog.run (handler 0) (Engine.catchUp
      { subscriberID := "a", streamID := "s", limit }).run twoEvents = (.ok result, twoEvents) ∧
        result.status ≠ .tooLong := by
    refine ⟨1, _, rfl, ?_⟩
    rintro ⟨⟩
  obtain ⟨hdrains, -⟩ := drain_independent ⟨_, rfl⟩ 0 hshort
  exact hdrains fun _ => { limit := 1 }

end Synclog.Memory
