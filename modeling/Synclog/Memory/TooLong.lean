import Mathlib.Order.Interval.Finset.Nat
import Synclog.Memory.Interference

/-!
# When a catch-up announces `TOO_LONG`

With nothing between its calls, `CatchUp` announces `TOO_LONG` exactly when a seq that the
subscriber still needs is no longer retained, or more seqs than its budget allows lie ahead of it
(`tooLong_exact`).

With operations of others between its calls it compares a cursor read first with a boundary read
later. `Watched` is the store together with what the others have done since the first call, so that
one can ask whether there was an instant during the call at which the committed cursor was behind
the boundary (`TooOld`). That there was one is `tooLong_spurious_iff`'s left side; its right side
looks at the acknowledgements of the subscriber, and at the last instant.
-/

namespace Synclog.Memory

open Synclog.Lib Synclog.Core
open Relation (ReflTransGen)

/-! ## Nothing between the calls -/

/-- A seq above `c`, up to the head, is no longer retained. -/
def NeedsRemoved (s : Store) (id : StreamID) (c : Nat) : Prop :=
  ∃ n ∈ Finset.Ioc c (s.ensureStream id).head, ∀ event ∈ (s.ensureStream id).events, event.seq ≠ n

/-- There is a bound, and more seqs than it allows lie above `c`, up to the head. -/
def OverBudget (s : Store) (id : StreamID) (c : Nat) (totalLimit : Int) : Prop :=
  0 < totalLimit ∧ totalLimit < (Finset.Ioc c (s.ensureStream id).head).card

/-- What a reader at `c` needs is no longer retained exactly when `c` is below what is forgotten. -/
theorem needsRemoved_iff {s : Store} {id : StreamID} {L : TrimmedLog Event} (h : s.Holds id L)
    (c : Nat) : NeedsRemoved s id c ↔ c < L.base := by
  have hle : L.base ≤ L.head := L.base_le
  have hlen : (s.ensureStream id).events.length = L.head - L.base := h.length_events
  unfold NeedsRemoved
  rw [h.head]
  constructor
  · rintro ⟨n, hn, hgone⟩
    obtain ⟨hlow, hhigh⟩ := Finset.mem_Ioc.mp hn
    refine Classical.byContradiction fun hnot => ?_
    obtain ⟨event, hmem, hseq⟩ :=
      h.numbered_retained.exists_mem (k := n) (by omega) (by omega)
    exact hgone event hmem hseq
  · intro hlt
    refine ⟨L.base, Finset.mem_Ioc.mpr ⟨hlt, hle⟩, ?_⟩
    intro event hmem hseq
    have hbounds := h.numbered_retained.bounds hmem
    omega

/-- Source: `engine.go`, `replayOverBudget`, in terms of the seqs that lie ahead. -/
theorem replayOverBudget_iff {s : Store} {id : StreamID} {c : Nat} {totalLimit : Int} :
    replayOverBudget c (s.ensureStream id).head totalLimit = true ↔
      OverBudget s id c totalLimit := by
  unfold replayOverBudget OverBudget
  rw [Nat.card_Ioc]
  split_ifs with hnone
  · constructor
    · intro hfalse
      cases hfalse
    · rintro ⟨hpos, hlt⟩
      omega
  · rw [decide_eq_true_eq]
    omega

/-- A catch-up that runs alone. -/
theorem run_catchUp (now : Int) {req : CatchUpRequest} (hsub : req.subscriberID ≠ "")
    (hid : req.streamID ≠ "") {s : Store} {L : TrimmedLog Event} (hL : s.Holds req.streamID L) :
    Prog.run (handler now) (Engine.catchUp req).run s =
      (.ok (catchUpResult req (s.cursorOf req.subscriberID req.streamID) L L), s) := by
  have hexec := Prog.exec_run ((handler now).within (.whole Store)) (fun _ _ => False)
    (Engine.catchUp req).run s
  obtain ⟨s₁, s₂, h₁, h₂, h₃, hres⟩ := exec_catchUp hexec
  cases Prog.eq_of_alone h₁
  cases Prog.eq_of_alone h₂
  have hsame := Prog.eq_of_alone h₃
  rw [← hsame] at hres
  refine Prod.ext ?_ hsame.symm
  rw [← catchUpOf_eq hsub hid hL hL]
  exact hres

/-- **`TOO_LONG` is exact.** In every reachable store a catch-up with nothing between its calls
announces `TOO_LONG` when a seq that the subscriber still needs is no longer retained, or when more
seqs than its budget lie ahead, and answers `OK` otherwise; and what the engine checks before it
reads the log is what `Read` checks itself. -/
theorem tooLong_exact {s : Store} (hs : Reachable s) (now : Int) {req : CatchUpRequest}
    (hsub : req.subscriberID ≠ "") (hid : req.streamID ≠ "") :
    (∃ result, Prog.run (handler now) (Engine.catchUp req).run s = (.ok result, s) ∧
        (result.status = .tooLong ∨ result.status = .ok) ∧
        (result.status = .tooLong ↔
          NeedsRemoved s req.streamID (s.committed req.subscriberID req.streamID) ∨
            OverBudget s req.streamID (s.committed req.subscriberID req.streamID)
              req.totalLimit)) ∧
      ∀ head, s.getHead req.streamID = .ok head → ∀ cursor limit,
        (replayTooOld cursor head.retainedSeqStart = true ↔
          s.read req.streamID cursor limit = .error errTooLong) := by
  obtain ⟨L, hL⟩ := hs.holds req.streamID
  constructor
  · refine ⟨_, run_catchUp now hsub hid hL, ?_⟩
    rw [needsRemoved_iff hL, ← replayOverBudget_iff, hL.head]
    unfold catchUpResult
    simp only
    show (_ ∨ _) ∧ (_ ↔ s.committed req.subscriberID req.streamID < L.base ∨ _)
    unfold Store.committed
    split_ifs with hlong
    · refine ⟨.inl rfl, fun _ => ?_, fun _ => rfl⟩
      rcases hlong with hold | hbudget | hold
      · exact .inl hold
      · exact .inr hbudget
      · exact .inl hold
    · refine ⟨.inr rfl, fun h => ?_, fun h => ?_⟩
      · cases h
      · rcases h with hold | hbudget
        · exact absurd (.inl hold) hlong
        · exact absurd (.inr (.inl hbudget)) hlong
  · intro head hhead cursor limit
    rw [hL.getHead hid] at hhead
    cases hhead
    rw [hL.read hid]
    show replayTooOld cursor L.start = true ↔ _
    rw [replayTooOld_start]
    split_ifs with hold
    · exact ⟨fun _ => rfl, fun _ => hold⟩
    · refine ⟨fun h => absurd h hold, fun h => ?_⟩
      cases h

/-- A reader that has read nothing of the stream `s`. -/
def lateReader : CatchUpRequest where
  subscriberID := "a"
  streamID := "s"

/-- Its stream is truncated behind the second of three events. -/
theorem tooLong_exact_truncated :
    ∃ result, Prog.run (handler 0) (Engine.catchUp lateReader).run truncatedPastHead =
        (.ok result, truncatedPastHead) ∧
      result.status = .tooLong ∧
      (NeedsRemoved truncatedPastHead "s" (truncatedPastHead.committed "a" "s") ∨
        OverBudget truncatedPastHead "s" (truncatedPastHead.committed "a" "s") 0) := by
  have hreach : Reachable truncatedPastHead := ⟨_, rfl⟩
  obtain ⟨⟨result, hrun, -, hiff⟩, -⟩ :=
    tooLong_exact hreach 0 (show lateReader.subscriberID ≠ "" by decide)
      (show lateReader.streamID ≠ "" by decide)
  have hlong : ∀ answer, (Prog.run (handler 0) (Engine.catchUp lateReader).run
      truncatedPastHead).1 = .ok answer → answer.status = .tooLong := by
    intro answer hanswer
    cases hanswer
    rfl
  have hstatus := hlong result (by rw [hrun])
  exact ⟨result, hrun, hstatus, hiff.mp hstatus⟩

/-! ## Operations of others between the calls -/

/-- The subscriber's committed cursor is behind the retention boundary.
Source: `engine.go`, `ReplayTooOld`, of what one store holds. -/
def TooOld (s : Store) (subscriberID : SubscriberID) (streamID : StreamID) : Prop :=
  replayTooOld (s.committed subscriberID streamID) (s.ensureStream streamID).retainedSeqStart = true

/-- A store with what has happened since the first call to it: the store that this call found, and
the operations of others from then on, each with the store before it. -/
structure Watched where
  store : Store
  first : Option Store := none
  since : List (Store × Op) := []

namespace Watched

/-- The store at each instant since the first call. -/
def instants (w : Watched) : List Store := w.since.map Prod.fst ++ [w.store]

/-- The store is called. -/
def called (w : Watched) : Watched := { w with first := w.first.or (some w.store) }

/-- A call does to the store what it does to the memory store. -/
def handler (now : Int) : Handler StoreCall Watched :=
  fun β c w => ((Memory.handler now β c w.store).1,
    { w.called with store := (Memory.handler now β c w.store).2 })

/-- Another party performs an operation. -/
def afterOp (op : Op) (w : Watched) : Watched where
  store := op.apply w.store
  first := w.first
  since := if w.first.isSome then w.since ++ [(w.store, op)] else []

/-- Another party performs an operation that keeps the cursors. -/
def Step (w w' : Watched) : Prop := ∃ op : Op, op.KeepsCursors ∧ w' = w.afterOp op

end Watched

/-- The operation is an acknowledgement that raises the subscriber's cursor. -/
def Raises (subscriberID : SubscriberID) (streamID : StreamID) (s : Store) (op : Op) : Prop :=
  ∃ req, op = .ack req ∧ req.subscriberID = subscriberID ∧ req.streamID = streamID ∧
    s.committed subscriberID streamID < req.seq

/-- The operations of a list lead from one store to another. -/
inductive Trail : Store → List (Store × Op) → Store → Prop
  | nil (s : Store) : Trail s [] s
  | snoc {s t : Store} {steps : List (Store × Op)} (h : Trail s steps t) {op : Op}
      (hop : op.KeepsCursors) : Trail s (steps ++ [(t, op)]) (op.apply t)

namespace Trail

variable {s t : Store} {steps : List (Store × Op)}

/-- A trail leads from reachable stores to reachable stores. -/
theorem reachable (hs : Reachable s) (h : Trail s steps t) : Reachable t := by
  induction h with
  | nil => exact hs
  | snoc _ _ ih => exact ih.apply _

end Trail

/-- A cursor that is behind the boundary stays behind it, until an acknowledgement raises it. -/
theorem TooOld.apply {s : Store} (hs : Reachable s) {subscriberID : SubscriberID}
    {streamID : StreamID} (h : TooOld s subscriberID streamID) {op : Op} (hop : op.KeepsCursors) :
    TooOld (op.apply s) subscriberID streamID ∨ Raises subscriberID streamID s op := by
  rcases op.committed_cases hop hs subscriberID streamID with
    hsame | ⟨req, rfl, hsub, hid, hlt, -⟩
  · obtain ⟨L, hL⟩ := hs.holds streamID
    obtain ⟨L', hL', hkept⟩ := op.holds hL
    have hne : op ≠ .deleteStream streamID := by
      rintro rfl
      exact hop
    obtain ⟨⟨-, hbase⟩, -⟩ := hkept hne
    refine .inl ?_
    unfold TooOld at h ⊢
    rw [hL.start, replayTooOld_start] at h
    rw [hsame, hL'.start, replayTooOld_start]
    omega
  · exact .inr ⟨req, rfl, hsub, hid, hlt⟩

/-- If the cursor was behind the boundary at some instant, it still is, or an acknowledgement has
raised it from behind the boundary. -/
theorem Trail.tooOld {s t : Store} {steps : List (Store × Op)} (hs : Reachable s)
    (htrail : Trail s steps t) {subscriberID : SubscriberID} {streamID : StreamID}
    (h : ∃ u ∈ steps.map Prod.fst ++ [t], TooOld u subscriberID streamID) :
    TooOld t subscriberID streamID ∨
      ∃ step ∈ steps, Raises subscriberID streamID step.1 step.2 ∧
        TooOld step.1 subscriberID streamID := by
  induction htrail with
  | nil =>
      obtain ⟨u, hu, hold⟩ := h
      rw [List.map_nil, List.nil_append, List.mem_singleton] at hu
      exact .inl (hu ▸ hold)
  | @snoc t steps htrail op hop ih =>
      obtain ⟨u, hu, hold⟩ := h
      have hcases : u ∈ steps.map Prod.fst ++ [t] ∨ u = op.apply t := by
        simpa [or_assoc] using hu
      rcases hcases with hbefore | rfl
      · rcases ih ⟨u, hbefore, hold⟩ with hlast | ⟨step, hmem, hraised⟩
        · rcases hlast.apply (htrail.reachable hs) hop with hafter | hraises
          · exact .inl hafter
          · exact .inr ⟨(t, op), by simp, hraises, hlast⟩
        · exact .inr ⟨step, List.mem_append_left _ hmem, hraised⟩
      · exact .inl hold

/-! ## One interfered catch-up -/

/-- The operations of others lengthen the trail, once the first call is made. -/
theorem Watched.trail_steps {w w' : Watched} {s : Store} (hfirst : w.first = some s)
    (htrail : Trail s w.since w.store) (h : ReflTransGen Watched.Step w w') :
    w'.first = some s ∧ Trail s w'.since w'.store := by
  induction h with
  | refl => exact ⟨hfirst, htrail⟩
  | @tail u _ _ hstep ih =>
      obtain ⟨op, hop, rfl⟩ := hstep
      obtain ⟨hfirst', htrail'⟩ := ih
      refine ⟨hfirst', ?_⟩
      unfold Watched.afterOp
      simp only [hfirst', Option.isSome_some, if_true]
      exact htrail'.snoc hop

/-- Before the first call the operations of others leave no trail. -/
theorem Watched.before_steps {w w' : Watched} (hw : Reachable w.store) (hfirst : w.first = none)
    (hsince : w.since = []) (h : ReflTransGen Watched.Step w w') :
    Reachable w'.store ∧ w'.first = none ∧ w'.since = [] := by
  induction h with
  | refl => exact ⟨hw, hfirst, hsince⟩
  | tail _ hstep ih =>
      obtain ⟨op, -, rfl⟩ := hstep
      obtain ⟨hreach, hnone, -⟩ := ih
      refine ⟨hreach.apply op, hnone, ?_⟩
      unfold Watched.afterOp
      simp only [hnone, Option.isSome_none, Bool.false_eq_true, if_false]

/-- A call leaves the trail as it is, and begins it. -/
theorem Watched.called_first {w : Watched} {s : Store} (h : w.first = some s) : w.called = w := by
  unfold Watched.called
  rw [h, Option.some_or, ← h]

/-- A catch-up without a budget announces `TOO_LONG` exactly when the cursor that its first call
found is behind the boundary at its last call. -/
theorem exec_catchUp_watched {now : Int} {req : CatchUpRequest} (htotal : req.totalLimit ≤ 0)
    {s : Store} (hs : Reachable s) {result : CatchUpResult} {w : Watched}
    (h : Prog.Exec (Watched.handler now) Watched.Step (Engine.catchUp req).run { store := s }
      (.ok result) w) :
    ∃ s₁, w.first = some s₁ ∧ Reachable s₁ ∧ Trail s₁ w.since w.store ∧
      (result.status = .tooLong ↔
        replayTooOld (s₁.committed req.subscriberID req.streamID)
          (w.store.ensureStream req.streamID).retainedSeqStart = true) := by
  unfold Engine.catchUp at h
  split_ifs at h with hsub hid
  · obtain ⟨hfalse, -⟩ := Prog.exec_throw.mp h
    cases hfalse
  · obtain ⟨hfalse, -⟩ := Prog.exec_throw.mp h
    cases hfalse
  -- `GetCursor`
  obtain ⟨w₁, h₁, h⟩ := Prog.exec_performE_bind.mp h
  obtain ⟨hreach₁, hfirst₁, hsince₁⟩ := Watched.before_steps hs rfl rfl h₁
  simp only [Watched.handler, handler, w₁.store.getCursor_eq hsub hid] at h
  have hfirst : w₁.called.first = some w₁.store := by
    unfold Watched.called
    rw [hfirst₁, Option.none_or]
  have htrail : Trail w₁.store w₁.called.since w₁.called.store := by
    show Trail w₁.store w₁.since w₁.store
    rw [hsince₁]
    exact .nil _
  -- `GetHead`
  obtain ⟨w₂, h₂, h⟩ := Prog.exec_performE_bind.mp h
  obtain ⟨hfirst₂, htrail₂⟩ := Watched.trail_steps hfirst htrail h₂
  simp only [Watched.handler, handler, w₂.store.getHead_eq hid, Watched.called_first hfirst₂] at h
  have hpre : Engine.tooLong req (w₁.store.cursorOf req.subscriberID req.streamID)
      ((w₂.store.ensureStream req.streamID).headCursor req.streamID) =
        replayTooOld (w₁.store.committed req.subscriberID req.streamID)
          (w₂.store.ensureStream req.streamID).retainedSeqStart := by
    have hbudget : ∀ c h, replayOverBudget c h req.totalLimit = false := by
      intro c h
      unfold replayOverBudget
      rw [if_pos (.inl htotal)]
    unfold Engine.tooLong
    rw [hbudget, Bool.or_false]
    rfl
  rw [hpre] at h
  split_ifs at h with hold
  · obtain ⟨rfl, rfl⟩ := Prog.exec_pure_ok.mp h
    exact ⟨w₁.store, hfirst₂, hreach₁, htrail₂, fun _ => hold, fun _ => rfl⟩
  · -- `Read`
    obtain ⟨w₃, h₃, h⟩ := Prog.exec_attempt_bind.mp h
    obtain ⟨hfirst₃, htrail₃⟩ := Watched.trail_steps hfirst₂ htrail₂ h₃
    simp only [Watched.handler, handler, Watched.called_first hfirst₃] at h
    obtain ⟨hres, rfl⟩ := Prog.exec_ofExcept.mp h
    refine ⟨w₁.store, hfirst₃, hreach₁, htrail₃, ?_⟩
    obtain ⟨L, hL⟩ := (htrail₃.reachable hreach₁).holds req.streamID
    rw [hL.start, replayTooOld_start]
    rw [hL.read hid] at hres
    unfold Store.committed
    split_ifs at hres with hlate
    · cases hres
      exact ⟨fun _ => hlate, fun _ => rfl⟩
    · cases hres
      refine ⟨fun hlong => ?_, fun hlt => absurd hlt hlate⟩
      cases hlong

/-- The condition under which `TOO_LONG` is not spurious: the boundary at the last call is not past
the cursor that the first call found, or it is past the cursor as it is by then, or some
acknowledgement has raised the cursor from behind the boundary. -/
def RaisedBehind (subscriberID : SubscriberID) (streamID : StreamID) (w : Watched) : Prop :=
  (∀ s₁, w.first = some s₁ →
      replayTooOld (s₁.committed subscriberID streamID)
        (w.store.ensureStream streamID).retainedSeqStart = false) ∨
    TooOld w.store subscriberID streamID ∨
    ∃ step ∈ w.since, Raises subscriberID streamID step.1 step.2 ∧
      TooOld step.1 subscriberID streamID

/-- **No spurious `TOO_LONG`**, exactly when no acknowledgement of the subscriber has kept its
cursor ahead of a boundary that moved past the cursor which the catch-up had read. -/
theorem tooLong_spurious_iff {now : Int} {req : CatchUpRequest} (htotal : req.totalLimit = 0)
    {s : Store} (hs : Reachable s) {result : CatchUpResult} {w : Watched}
    (h : Prog.Exec (Watched.handler now) Watched.Step (Engine.catchUp req).run { store := s }
      (.ok result) w) :
    (result.status = .tooLong → ∃ u ∈ w.instants, TooOld u req.subscriberID req.streamID) ↔
      RaisedBehind req.subscriberID req.streamID w := by
  obtain ⟨s₁, hfirst, hreach, htrail, hlong⟩ := exec_catchUp_watched htotal.le hs h
  unfold RaisedBehind
  rw [hfirst]
  simp only [Option.some.injEq, forall_eq']
  constructor
  · intro hinstant
    by_cases hpast : replayTooOld (s₁.committed req.subscriberID req.streamID)
        (w.store.ensureStream req.streamID).retainedSeqStart = true
    · exact .inr (htrail.tooOld hreach (hinstant (hlong.mpr hpast)))
    · exact .inl (Bool.not_eq_true _ ▸ hpast)
  · rintro hcond hstatus
    have hlast : w.store ∈ w.instants := by
      unfold Watched.instants
      simp
    have hbefore : ∀ step ∈ w.since, step.1 ∈ w.instants := by
      intro step hmem
      exact List.mem_append_left _ (List.mem_map_of_mem hmem)
    rcases hcond with hnot | hold | ⟨step, hmem, -, hold⟩
    · rw [hlong.mp hstatus] at hnot
      cases hnot
    · exact ⟨w.store, hlast, hold⟩
    · exact ⟨step.1, hbefore step hmem, hold⟩

/-- Only an acknowledgement moves the committed cursor. -/
theorem Trail.committed_eq {subscriberID : SubscriberID} {streamID : StreamID} {s₁ t : Store}
    {steps : List (Store × Op)} (htrail : Trail s₁ steps t) (hs : Reachable s₁)
    (hnone : ∀ step ∈ steps, ¬ Raises subscriberID streamID step.1 step.2) :
    t.committed subscriberID streamID = s₁.committed subscriberID streamID := by
  induction htrail with
  | nil => rfl
  | @snoc t steps htrail op hop ih =>
      rcases op.committed_cases hop (htrail.reachable hs) subscriberID streamID with
        hkept | ⟨req, heq, hsub, hid, hlt, -⟩
      · rw [hkept]
        exact ih fun step hmem => hnone step (List.mem_append_left _ hmem)
      · exact absurd ⟨req, heq, hsub, hid, hlt⟩ (hnone (t, op) (by simp))

/-- Where the subscriber does not acknowledge, the condition holds. -/
theorem RaisedBehind.of_not_raised {subscriberID : SubscriberID} {streamID : StreamID} {s₁ : Store}
    {w : Watched} (hfirst : w.first = some s₁) (hs : Reachable s₁)
    (htrail : Trail s₁ w.since w.store)
    (hnone : ∀ step ∈ w.since, ¬ Raises subscriberID streamID step.1 step.2) :
    RaisedBehind subscriberID streamID w := by
  by_cases hpast : replayTooOld (s₁.committed subscriberID streamID)
      (w.store.ensureStream streamID).retainedSeqStart = true
  · refine .inr (.inl ?_)
    unfold TooOld
    rw [htrail.committed_eq hs hnone]
    exact hpast
  · refine .inl fun s₁' hfirst' => ?_
    rw [hfirst] at hfirst'
    cases hfirst'
    exact Bool.not_eq_true _ ▸ hpast

/-- Between the first two calls the subscriber acknowledges both events, and compaction moves the
boundary right behind them: no instant at which its cursor was behind the boundary, and `TOO_LONG`
all the same. -/
theorem tooLong_spurious_overtaken :
    ∃ result w, Prog.Exec (Watched.handler 0) Watched.Step (Engine.catchUp lateReader).run
        { store := twoEvents } (.ok result) w ∧
      result.status = .tooLong ∧ ¬ ∃ u ∈ w.instants, TooOld u "a" "s" := by
  let acked : Op := .ack { subscriberID := "a", streamID := "s", seq := 2 }
  let w₁ : Watched := Watched.called { store := twoEvents }
  let w₂ : Watched := (w₁.afterOp acked).afterOp (.compactStream "s")
  let result := Engine.noBatch .tooLong (twoEvents.cursorOf "a" "s")
    ((w₂.store.ensureStream "s").headCursor "s")
  have hsteps : ReflTransGen Watched.Step w₁ w₂ :=
    .tail (.single ⟨acked, trivial, rfl⟩) ⟨.compactStream "s", trivial, rfl⟩
  have hexec : Prog.Exec (Watched.handler 0) Watched.Step (Engine.catchUp lateReader).run
      { store := twoEvents } (.ok result) w₂ := .call _ _ .refl (.call _ _ hsteps (.ret _ _))
  refine ⟨result, w₂, hexec, rfl, ?_⟩
  rintro ⟨u, hu, hold⟩
  have hinstants : u = twoEvents ∨ u = acked.apply twoEvents ∨ u = w₂.store := by
    change u ∈ [twoEvents, acked.apply twoEvents, w₂.store] at hu
    simpa using hu
  rcases hinstants with rfl | rfl | rfl
  · cases hold
  · cases hold
  · cases hold

/-- A truncation between the first two calls: the cursor is behind the boundary from then on. -/
theorem tooLong_spurious_iff_truncated :
    ∃ result w, Prog.Exec (Watched.handler 0) Watched.Step (Engine.catchUp lateReader).run
        { store := twoEvents } (.ok result) w ∧
      result.status = .tooLong ∧
      ((result.status = .tooLong → ∃ u ∈ w.instants, TooOld u "a" "s") ↔
        RaisedBehind "a" "s" w) := by
  let w₁ : Watched := Watched.called { store := twoEvents }
  let w₂ : Watched := w₁.afterOp (.truncateBefore "s" 2)
  let result := Engine.noBatch .tooLong (twoEvents.cursorOf "a" "s")
    ((w₂.store.ensureStream "s").headCursor "s")
  have hstep : Watched.Step w₁ w₂ := ⟨.truncateBefore "s" 2, trivial, rfl⟩
  have hexec : Prog.Exec (Watched.handler 0) Watched.Step (Engine.catchUp lateReader).run
      { store := twoEvents } (.ok result) w₂ :=
    .call _ _ .refl (.call _ _ (.single hstep) (.ret _ _))
  exact ⟨result, w₂, hexec, rfl, tooLong_spurious_iff rfl ⟨_, rfl⟩ hexec⟩

end Synclog.Memory
