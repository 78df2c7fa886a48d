import Synclog.Transport.Standing

/-!
# When the raw subscribe loop spins

`Server.Subscribe` goes idle in `waitStream`, which refuses to wait once a heartbeat is overdue: the
loop is to send it next. But the branches for a binding that is held back and for a replay that is
too long do not reach the heartbeat.

* `Pacing` — the two intervals of a server, which its options keep positive.
* `waitStream` — what a call does while nothing else happens.
* `RawLoop.iterate` — one iteration from the top of the loop, over a store that stands still.
* `RawLoop.spins_iff` — two iterations in a row send nothing and do not wait exactly when the loop
  is stuck in one of the two branches and the heartbeat is overdue.
-/

namespace Synclog.Transport

open Synclog.Lib Synclog.Core Synclog.Memory

/-! ## The intervals of a server -/

/-- How often a server polls and sends heartbeats, in nanoseconds, and whether it has a watcher.
Source: `server.go`, `NewServer`, the defaults. -/
structure Pacing where
  pollInterval : Int := 100000000
  heartbeatEvery : Int := 15000000000
  watcher : Bool := false
  poll_pos : 0 < pollInterval := by decide
  heartbeat_pos : 0 < heartbeatEvery := by decide

namespace Pacing

/-- Source: `server.go`, `WithPollInterval`. -/
def withPollInterval (w : Pacing) (interval : Int) : Pacing :=
  if h : interval > 0 then { w with pollInterval := interval, poll_pos := h } else w

/-- Source: `server.go`, `WithHeartbeatInterval`. -/
def withHeartbeatInterval (w : Pacing) (interval : Int) : Pacing :=
  if h : interval > 0 then { w with heartbeatEvery := interval, heartbeat_pos := h } else w

/-- Source: `server.go`, `WithStreamWatcher`. -/
def withStreamWatcher (w : Pacing) : Pacing := { w with watcher := true }

end Pacing

/-! ## Going idle -/

/-- How a call of `waitStream` goes while nothing else happens: it fails, it returns at once, or it
waits, at most for the timeout and with the store that it leaves meanwhile. -/
inductive Pause
  | fails (err : GoError)
  | returns
  | waits (timeout : Int) (store : Store)

/-- Source: `memory/store.go`, `Store.WaitForStream`, with a context that is alive. -/
def waitForStream (s : Store) (streamID : StreamID) (after : Nat) (timeout : Int) : Pause :=
  if streamID = "" then .fails (errInvalidArgument "stream id is required")
  else
    match s.registerWatcher streamID after with
    | (none, _) => .returns
    | (some _, s) => .waits timeout s

/-- Source: `server.go`, `sleep`, with a context that is alive. -/
def sleep (s : Store) (timeout : Int) : Pause :=
  if timeout ≤ 0 then .returns else .waits timeout s

/-- Source: `server.go`, `Server.waitStream`. -/
def waitStream (w : Pacing) (s : Store) (streamID : StreamID) (after : Nat)
    (lastHeartbeat now : Int) : Pause :=
  if w.heartbeatEvery > 0 then
    let untilHeartbeat := w.heartbeatEvery - (now - lastHeartbeat)
    if untilHeartbeat ≤ 0 then .returns
    else
      go (if w.pollInterval ≤ 0 ∨ untilHeartbeat < w.pollInterval then untilHeartbeat
        else w.pollInterval)
  else go w.pollInterval
where
  /-- The wait for at most `timeout`. -/
  go (timeout : Int) : Pause :=
    let timeout := if timeout ≤ 0 then w.pollInterval else timeout
    if w.watcher then waitForStream s streamID after timeout else sleep s timeout

/-- Over a store that stands still, waiting for the head to pass itself is refused only when the
heartbeat is overdue. -/
theorem waitStream_standing (w : Pacing) (s : Store) {streamID : StreamID} (hid : streamID ≠ "")
    (lastHeartbeat now : Int) :
    ∃ timeout store,
      waitStream w s streamID (headIn s streamID).cursor.seq lastHeartbeat now =
        if w.heartbeatEvery ≤ now - lastHeartbeat then .returns else .waits timeout store := by
  have hpoll := w.poll_pos
  have hbeat := w.heartbeat_pos
  have hregister : (s.registerWatcher streamID (headIn s streamID).cursor.seq).1 = some s.made := by
    unfold Store.registerWatcher headIn Store.ensureStream
    cases hlookup : s.streams.lookup streamID with
    | none => rfl
    | some st => simp [StreamState.headCursor, Store.registerWatcher.register]
  have hgo : ∀ timeout, 0 < timeout → ∃ store,
      waitStream.go w s streamID (headIn s streamID).cursor.seq timeout =
        .waits timeout store := by
    intro timeout htimeout
    have hlong : ¬ timeout ≤ 0 := by omega
    unfold waitStream.go waitForStream sleep
    simp only [if_neg hlong, if_neg hid]
    generalize s.registerWatcher streamID (headIn s streamID).cursor.seq = answer at hregister
    obtain ⟨ch, s'⟩ := answer
    obtain rfl : ch = some s.made := hregister
    split_ifs
    · exact ⟨s', rfl⟩
    · exact ⟨s, rfl⟩
  unfold waitStream
  simp only
  rw [if_pos hbeat]
  by_cases hdue : w.heartbeatEvery ≤ now - lastHeartbeat
  · rw [if_pos (by omega)]
    simp only [if_pos hdue]
    exact ⟨0, s, trivial⟩
  · rw [if_neg (by omega)]
    simp only [if_neg hdue]
    split_ifs with hsoon
    · obtain ⟨store, heq⟩ := hgo (w.heartbeatEvery - (now - lastHeartbeat)) (by omega)
      exact ⟨_, store, heq⟩
    · obtain ⟨store, heq⟩ := hgo w.pollInterval hpoll
      exact ⟨_, store, heq⟩

/-! ## One iteration -/

/-- How an iteration of the loop ends: the stream ends, the loop waits, or it is at its top again
without having waited. -/
inductive Iteration
  | ends
  | waits
  | again (σ : RawLoop)

/-- What becomes of an iteration that goes idle and would come back to its top in the state `σ`. -/
def Pause.resume (σ : RawLoop) : Pause → Iteration
  | .fails _ => .ends
  | .returns => .again σ
  | .waits _ _ => .waits

/-- A pause after which the loop goes on has returned. -/
theorem Pause.resume_eq_again {p : Pause} {σ τ : RawLoop} :
    p.resume σ = .again τ ↔ p = .returns ∧ σ = τ := by
  cases p <;> simp [resume]

namespace RawLoop

/-- One iteration from the top of the loop while nothing else happens. The clock reads `now` in the
loop body and `later` in `waitStream`.
Source: `server.go`, `Server.Subscribe`, the loop. -/
def iterate (σ : RawLoop) (req : SubscribeRequest) (w : Pacing) (now later : Int) : Iteration :=
  match σ.poll req with
  | .error _ => .ends
  | .ok result =>
    let τ := σ.treat req w.heartbeatEvery now result
    match τ.pc with
    | .waiting =>
      (waitStream w τ.store.now req.streamId result.head.cursor.seq τ.lastHeartbeat later).resume
        { τ with pc := .top }
    | _ => .again τ

/-- Two iterations in a row send nothing and do not wait. -/
def Spins (σ : RawLoop) (req : SubscribeRequest) (w : Pacing) (now₁ later₁ now₂ later₂ : Int) :
    Prop :=
  ∃ τ₁ τ₂, σ.iterate req w now₁ later₁ = .again τ₁ ∧ τ₁.sent = σ.sent ∧
    τ₁.iterate req w now₂ later₂ = .again τ₂ ∧ τ₂.sent = τ₁.sent

/-- The loop is stuck: too much is in flight, or the replay is too long and was announced while
events were in flight. -/
def Stuck (σ : RawLoop) (req : SubscribeRequest) : Prop :=
  σ.mark.Held req.maxInFlight (req.committed σ.store.now) ∨
    replayTooOld (req.committed σ.store.now)
        (headIn σ.store.now req.streamId).retainedSeqStart = true ∧
      σ.mark.tooLongSent = true ∧ req.committed σ.store.now < σ.mark.delivered

section Iterate

variable {σ : RawLoop} {req : SubscribeRequest} {w : Pacing}

/-- How an iteration comes back to the top without having waited. -/
theorem iterate_again {now later : Int} {τ : RawLoop} (h : σ.iterate req w now later = .again τ) :
    ∃ result, σ.poll req = .ok result ∧
      ((σ.treat req w.heartbeatEvery now result).pc ≠ .waiting ∧
          τ = σ.treat req w.heartbeatEvery now result ∨
        (σ.treat req w.heartbeatEvery now result).pc = .waiting ∧
        waitStream w (σ.treat req w.heartbeatEvery now result).store.now req.streamId
            result.head.cursor.seq (σ.treat req w.heartbeatEvery now result).lastHeartbeat later =
          .returns ∧
        τ = { σ.treat req w.heartbeatEvery now result with pc := .top }) := by
  unfold iterate at h
  cases hpoll : σ.poll req with
  | error err =>
      rw [hpoll] at h
      cases h
  | ok result =>
      rw [hpoll] at h
      simp only at h
      refine ⟨result, rfl, ?_⟩
      split at h
      · rename_i hpc
        obtain ⟨hreturns, heq⟩ := Pause.resume_eq_again.mp h
        exact .inr ⟨hpc, hreturns, heq.symm⟩
      · rename_i hpc
        cases h
        exact .inl ⟨hpc, rfl⟩

/-- A loop that is stuck comes back to the same state at once when the heartbeat is overdue. -/
theorem iterate_of_stuck (hσ : Reachable σ.store.now) (hpc : σ.pc = .top)
    (hsub : req.subscriberId ≠ "") (hid : req.streamId ≠ "") (hstuck : σ.Stuck req)
    (now later : Int) :
    σ.iterate req w now later =
      if w.heartbeatEvery ≤ later - σ.lastHeartbeat then .again σ else .waits := by
  obtain ⟨result, hpoll⟩ := (poll_isOk_iff hσ).mpr ⟨hsub, hid⟩
  have hstanding := poll_ok hσ hpoll
  have htreat : σ.treat req w.heartbeatEvery now result = { σ with pc := .waiting } := by
    rw [treat_follow hσ hpoll]
    by_cases hheld : σ.mark.Held req.maxInFlight (req.committed σ.store.now)
    · rw [Mark.follow_of_held hheld]
    · obtain ⟨hold, hflag, hlt⟩ := hstuck.resolve_left hheld
      have hspent : σ.mark.Spent (req.committed σ.store.now) (normalizeLimit req.batchLimit)
          (headIn σ.store.now req.streamId) := by
        unfold Mark.Spent
        rw [if_pos hold]
        exact ⟨hflag, hlt⟩
      have hstatus : result.status = .tooLong := by
        rw [hstanding.status]
        exact if_pos hold
      rw [Mark.follow_of_spent hheld hspent, Mark.observe_of_lt hlt]
      simp only [if_pos hstatus]
  have hsame : ({ σ with pc := .top } : RawLoop) = σ := by rw [← hpc]
  obtain ⟨timeout, store, hwait⟩ := waitStream_standing w σ.store.now hid σ.lastHeartbeat later
  unfold iterate
  rw [hpoll]
  simp only [htreat, hstanding.head]
  rw [show req.catchUp.streamID = req.streamId from rfl, hwait, hsame]
  split_ifs <;> rfl

/-- A loop that is not stuck sends something or goes idle, with the cursor observed. -/
theorem treat_of_not_stuck (hσ : Reachable σ.store.now) (hstuck : ¬ σ.Stuck req)
    (heartbeatEvery now : Int) {result : CatchUpResult} (hpoll : σ.poll req = .ok result) :
    (σ.treat req heartbeatEvery now result).sent ≠ σ.sent ∨
      now - σ.lastHeartbeat < heartbeatEvery ∧
      σ.treat req heartbeatEvery now result =
        { σ with mark := σ.mark.observe (req.committed σ.store.now), pc := .waiting } := by
  have hstanding := poll_ok hσ hpoll
  have htreat := treat_follow hσ hpoll heartbeatEvery now
  rcases Mark.follow_cases (m := σ.mark) (c := req.committed σ.store.now)
      (normalizeLimit_pos req.batchLimit) with
    ⟨hheld, -⟩ | ⟨hheld, hspent, hfollow⟩ | ⟨-, -, mark, hfollow⟩ | ⟨-, -, mark, hfollow⟩
  · exact absurd (.inl hheld) hstuck
  · rw [hfollow] at htreat
    have hfresh : ¬ replayTooOld (req.committed σ.store.now)
        (headIn σ.store.now req.streamId).retainedSeqStart = true := by
      intro hold
      unfold Mark.Spent at hspent
      rw [if_pos hold] at hspent
      exact hstuck (.inr ⟨hold, hspent⟩)
    have hok : result.status = .ok := hstanding.status.trans (if_neg hfresh)
    have hstatus : result.status ≠ .tooLong := by simp [hok]
    simp only [if_neg hstatus] at htreat
    rw [htreat]
    unfold idle
    split_ifs with hdue
    · exact .inl (List.cons_ne_self _ _)
    · exact .inr ⟨Int.not_le.mp hdue, rfl⟩
  · rw [hfollow] at htreat
    rw [htreat]
    exact .inl (List.cons_ne_self _ _)
  · rw [hfollow] at htreat
    rw [htreat]
    exact .inl (List.cons_ne_self _ _)

/-- Observing the cursor does not make a loop stuck. -/
theorem stuck_of_observe
    (h : ({ σ with mark := σ.mark.observe (req.committed σ.store.now), pc := .top } :
      RawLoop).Stuck req) : σ.Stuck req := by
  have hlt : req.committed σ.store.now <
      (σ.mark.observe (req.committed σ.store.now)).delivered := by
    rcases h with hheld | ⟨-, -, hlt⟩
    · exact hheld.2.1
    · exact hlt
  unfold Stuck at h
  simp only [Mark.observe_eq_of_lt hlt] at h
  exact h

end Iterate

variable {σ : RawLoop}

/-- Two iterations in a row send nothing and do not wait exactly when the loop is stuck and the
heartbeat is overdue as the first of them goes idle. -/
theorem spins_iff (req : SubscribeRequest) (w : Pacing) (hσ : Reachable σ.store.now)
    (hpc : σ.pc = .top) {now₁ later₁ now₂ later₂ : Int} (h₂ : later₁ ≤ now₂) (h₃ : now₂ ≤ later₂) :
    σ.Spins req w now₁ later₁ now₂ later₂ ↔
      req.subscriberId ≠ "" ∧ req.streamId ≠ "" ∧ σ.Stuck req ∧
        w.heartbeatEvery ≤ later₁ - σ.lastHeartbeat := by
  constructor
  · rintro ⟨τ₁, τ₂, hfirst, hsent₁, hsecond, hsent₂⟩
    obtain ⟨result, hpoll, hτ₁⟩ := iterate_again hfirst
    obtain ⟨hsub, hid⟩ := (poll_isOk_iff hσ).mp ⟨result, hpoll⟩
    refine ⟨hsub, hid, ?_⟩
    by_cases hstuck : σ.Stuck req
    · rw [iterate_of_stuck hσ hpc hsub hid hstuck] at hfirst
      split_ifs at hfirst with hdue
      exact ⟨hstuck, hdue⟩
    · -- the first iteration goes idle with a heartbeat that falls due before the second
      rcases hτ₁ with ⟨hrunning, rfl⟩ | ⟨-, hreturns, rfl⟩
      · rcases treat_of_not_stuck hσ hstuck w.heartbeatEvery now₁ hpoll with hsent | ⟨-, hidle⟩
        · exact absurd hsent₁ hsent
        · exact absurd (congrArg RawLoop.pc hidle) hrunning
      · rcases treat_of_not_stuck hσ hstuck w.heartbeatEvery now₁ hpoll with hsent | ⟨-, hidle⟩
        · exact absurd hsent₁ hsent
        · rw [hidle, (poll_ok hσ hpoll).head] at hreturns
          obtain ⟨timeout, store, hwait⟩ :=
            waitStream_standing w σ.store.now hid σ.lastHeartbeat later₁
          have hdue : w.heartbeatEvery ≤ later₁ - σ.lastHeartbeat := by
            by_contra hnot
            rw [if_neg hnot] at hwait
            cases hwait.symm.trans hreturns
          rw [hidle] at hsecond hsent₂
          obtain ⟨result₂, hpoll₂, hτ₂⟩ := iterate_again hsecond
          rcases treat_of_not_stuck (by exact hσ) (mt stuck_of_observe hstuck)
              w.heartbeatEvery now₂ hpoll₂ with
            hsent | ⟨hlate, -⟩
          · rcases hτ₂ with ⟨-, rfl⟩ | ⟨-, -, rfl⟩
            · exact absurd hsent₂ hsent
            · exact absurd hsent₂ hsent
          · exact absurd hlate (by show ¬ now₂ - σ.lastHeartbeat < _; omega)
  · rintro ⟨hsub, hid, hstuck, hdue⟩
    have hdue₂ : w.heartbeatEvery ≤ later₂ - σ.lastHeartbeat := by omega
    refine ⟨σ, σ, ?_, rfl, ?_, rfl⟩
    · rw [iterate_of_stuck hσ hpc hsub hid hstuck, if_pos hdue]
    · rw [iterate_of_stuck hσ hpc hsub hid hstuck, if_pos hdue₂]

/-- An iteration that does not wait is a run of the machine. -/
theorem run_of_iterate {req : SubscribeRequest} {w : Pacing} (hpc : σ.pc = .top) {now later : Int}
    {τ : RawLoop} (h : σ.iterate req w now later = .again τ) :
    ∃ ls, (rawLoop req w.heartbeatEvery).run ls σ = some τ := by
  obtain ⟨result, hpoll, hτ⟩ := iterate_again h
  obtain ⟨n, hn⟩ := run_poll w.heartbeatEvery now hpc hpoll
  rcases hτ with ⟨-, rfl⟩ | ⟨hwaiting, -, rfl⟩
  · exact ⟨_, hn⟩
  · refine ⟨List.replicate n (.loop now) ++ [.resume], ?_⟩
    rw [Machine.run_append, hn]
    simp [Machine.run, rawLoop, hwaiting]

/-- **When the raw loop does not spin.** From any state at the top of the loop, over a reachable
store that stands still: of any two iterations in a row one sends something or waits, if and only
if an id is empty, or the loop is not stuck, or the heartbeat is not overdue as the first of the two
goes idle. -/
theorem never_spins_iff (req : SubscribeRequest) (w : Pacing) (hσ : Reachable σ.store.now)
    (hpc : σ.pc = .top) {now₁ later₁ now₂ later₂ : Int} (h₂ : later₁ ≤ now₂) (h₃ : now₂ ≤ later₂) :
    ¬ σ.Spins req w now₁ later₁ now₂ later₂ ↔
      req.subscriberId = "" ∨ req.streamId = "" ∨ ¬ σ.Stuck req ∨
        later₁ - σ.lastHeartbeat < w.heartbeatEvery := by
  rw [spins_iff req w hσ hpc h₂ h₃, ← Int.not_le]
  tauto

end RawLoop

/-! ## A loop that spins -/

/-- The subscriber of a stream that lets two events be in flight. -/
def twoInFlight : SubscribeRequest where
  subscriberId := "device"
  streamId := "s"
  maxInFlight := 2

/-- Both events are delivered, and the loop is at its top again. -/
def untilHeld : List RawLabel := List.replicate 5 (.loop 0) ++ [.resume]

/-- Nothing is acknowledged for as long as a heartbeat takes, and the loop spins from then on. -/
theorem held_back_spins :
    ∃ σ, (rawLoop twoInFlight ({} : Pacing).heartbeatEvery).run untilHeld
        (.start Memory.twoEvents 0) = some σ ∧
      σ.Spins twoInFlight {} 15000000000 15000000000 15000000000 15000000000 :=
  ⟨_, rfl, _, _, rfl, rfl, rfl, rfl⟩

/-- Two events are in flight, and the loop waits. -/
theorem never_spins_iff_held :
    ∃ σ, (rawLoop twoInFlight ({} : Pacing).heartbeatEvery).run untilHeld
        (.start Memory.twoEvents 0) = some σ ∧
      (¬ σ.Spins twoInFlight {} 1 1 1 1 ↔
        twoInFlight.subscriberId = "" ∨ twoInFlight.streamId = "" ∨ ¬ σ.Stuck twoInFlight ∨
          1 - σ.lastHeartbeat < ({} : Pacing).heartbeatEvery) :=
  ⟨_, rfl, RawLoop.never_spins_iff twoInFlight {} ⟨_, rfl⟩ rfl le_rfl le_rfl⟩

end Synclog.Transport
