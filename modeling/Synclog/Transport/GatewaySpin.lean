import Synclog.Gateway.Exposure
import Synclog.Memory.Watchers
import Synclog.Transport.Guarantees
import Synclog.Transport.RawSpin
import Synclog.Transport.WaitOrWake

/-!
# When the gateway subscribe loop spins

`Server.GatewaySubscribe` goes idle in `waitOrWake`, which compares the head of each stream with the
delivered mark. What the loop sends is what lies behind the committed cursor, up to a batch. When
the batch does not reach beyond the mark though the head does, nothing is sent and nothing waited
for.

* `waitOrWake_atOnce_iff` — with a watcher, a call of `waitOrWake` that meets no timer, no token and
  no operation of others comes to its end exactly when a head is past its mark.
* `Loop.body`, `Loop.Slips`, `Loop.Iterates` — one iteration, over a store that stands still, and
  when its wait returns at once.
* `Loop.Quiet` — each binding in turn has nothing to send and is not held back.
* `Loop.gateway_never_spins_iff` — of two iterations in a row one sends a frame or waits.
-/

namespace Synclog.Transport

open Synclog.Lib Synclog.Core Synclog.Memory Synclog.Gateway

/-! ## Calls of `waitOrWake` that nothing comes to -/

/-- A step that the call takes by itself: no operation of others, no token of the wake channel and
no timer. -/
def WaitLabel.Internal : WaitLabel → Prop
  | .helperDone | .helperCancel | .propagate | .watch _ | .watchDone _ | .caller => True
  | .env _ | .signal | .helperWake | .timer => False

/-- The call can come to its end by itself, and the stream goes on. -/
def AtOnce (targets : Except GoError (List (StreamID × Nat))) (watcher : Bool) (timeout : Int)
    (s : Store) (wake : Bool) : Prop :=
  ∃ ls σ, (∀ l ∈ ls, WaitLabel.Internal l) ∧
    (waitOrWake targets watcher timeout).run ls (.start s wake) = some σ ∧
      σ.caller = .finished none

section AtOnce

variable {targets : List (StreamID × Nat)} {timeout : Int} {s : Store} {σ τ : Wait}

/-- A watch that waits for what is not there yet. -/
def Watch.Asleep (targets : List (StreamID × Nat)) (store : Store) : Watch → Prop
  | .calling streamID after | .registering streamID after => (streamID, after) ∈ targets
  | .selecting _ ch => ch < store.made ∧ ch ∉ store.closed
  | .removing .. | .reporting _ | .gone => False

/-- A caller that goes through its bindings, or waits for a report. -/
def Caller.Asleep (targets : List (StreamID × Nat)) (watches : List Watch) : Caller → Prop
  | .entering | .receiving => True
  | .watching rest => (∀ watch ∈ rest, watch ∈ targets) ∧ (rest ≠ [] ∨ watches ≠ [])
  | .classifying _ | .sleeping | .returned _ | .finished _ => False

/-- The call waits, or is on its way to: nothing was reported, nothing has ended, and nothing that
is waited for is there. -/
structure Asleep (targets : List (StreamID × Nat)) (σ : Wait) : Prop where
  behind : ∀ watch ∈ targets, σ.store.headOf watch.1 ≤ watch.2
  named : ∀ watch ∈ targets, watch.1 ≠ ""
  channels : ∀ ch ∈ σ.store.closed, ch < σ.store.made
  helper : σ.helper = .selecting
  waitCtx : σ.waitCtx = none
  watchCtx : σ.watchCtx = none
  done : σ.done = none
  watches : ∀ watch ∈ σ.watches, watch.Asleep targets σ.store
  caller : σ.caller.Asleep targets σ.watches

/-- Where no stream is ahead, every watch falls asleep. -/
theorem asleep_start (hs : Reachable s) (hnamed : ∀ watch ∈ targets, watch.1 ≠ "")
    (hbehind : ∀ watch ∈ targets, s.headOf watch.1 ≤ watch.2) (wake : Bool) :
    Asleep targets (.start s wake) where
  behind := hbehind
  named := hnamed
  channels := hs.watchersOk.closedMade
  helper := rfl
  waitCtx := rfl
  watchCtx := rfl
  done := rfl
  watches := by simp [Wait.start]
  caller := trivial

namespace Asleep

/-- The next step of a watch. -/
theorem watchStep (h : Asleep targets σ) {done : Bool} {watch watch' : Watch}
    (hwatch : watch.Asleep targets σ.store) (hstep : σ.watchStep done watch = some (watch', τ)) :
    watch'.Asleep targets τ.store ∧ Asleep targets τ ∧ τ.watches = σ.watches := by
  rcases watch with ⟨streamID, after⟩ | ⟨streamID, after⟩ | ⟨streamID, ch⟩ | _ | _ | _
  · have hnamed : streamID ≠ "" := h.named _ hwatch
    unfold Wait.watchStep at hstep
    simp only [if_neg hnamed, h.watchCtx] at hstep
    cases hstep
    exact ⟨hwatch, h, rfl⟩
  · -- the critical section finds the head behind, and registers a channel that is new
    have hbehind : ¬ after < σ.store.headOf streamID := Nat.not_lt.mpr (h.behind _ hwatch)
    unfold Wait.watchStep at hstep
    simp only [Store.registerWatcher_eq, if_neg hbehind] at hstep
    cases hstep
    refine ⟨⟨Nat.lt_succ_self _, fun hclosed => ?_⟩, { h with channels := ?_, watches := ?_ }, rfl⟩
    · exact absurd (h.channels _ hclosed) (lt_irrefl _)
    · exact fun ch hch => (h.channels ch hch).trans (Nat.lt_succ_self _)
    · intro watch hmem
      have hold := h.watches watch hmem
      rcases watch with _ | _ | ⟨_, ch⟩ | _ | _ | _
      · exact hold
      · exact hold
      · exact ⟨hold.1.trans (Nat.lt_succ_self _), hold.2⟩
      all_goals exact hold.elim
  · unfold Wait.watchStep at hstep
    simp only [h.watchCtx, if_neg hwatch.2] at hstep
    split_ifs at hstep
  all_goals exact hwatch.elim

/-- The step of the watch `i`. -/
theorem stepWatch (h : Asleep targets σ) {i : Nat} {done : Bool}
    (hstep : σ.stepWatch i done = some τ) : Asleep targets τ := by
  unfold Wait.stepWatch at hstep
  split at hstep
  · cases hstep
  rename_i watch hwatch
  obtain ⟨⟨watch', ρ⟩, hnext, rfl⟩ := Option.map_eq_some_iff.mp hstep
  obtain ⟨hasleep, hρ, hwatches⟩ :=
    h.watchStep (h.watches watch (List.mem_of_getElem? hwatch)) hnext
  refine { hρ with watches := ?_, caller := ?_ }
  · intro other hother
    rcases List.mem_or_eq_of_mem_set hother with hold | rfl
    · exact hρ.watches other hold
    · exact hasleep
  · have hcaller := hρ.caller
    rcases hpc : ρ.caller with _ | rest | _ | _ | _ | _ | _ <;> rw [hpc] at hcaller
    · trivial
    · exact ⟨hcaller.1, hcaller.2.imp_right fun hne hnil => hne (by simpa using hnil)⟩
    · trivial
    all_goals exact hcaller.elim

/-- The next step of the caller. -/
theorem callerStep (h : Asleep targets σ) (hne : targets ≠ [])
    (hstep : σ.callerStep (.ok targets) true timeout = some τ) : Asleep targets τ := by
  have hcaller := h.caller
  unfold Wait.callerStep at hstep
  rcases hpc : σ.caller with _ | (_ | ⟨⟨streamID, after⟩, rest⟩) | _ | _ | _ | _ | _ <;>
    simp only [hpc] at hstep hcaller
  · cases hstep
    exact { h with watchCtx := h.waitCtx, caller := ⟨fun _ hmem => hmem, .inl hne⟩ }
  · have hsome : ¬ σ.watches.length = 0 :=
      fun hlen => hcaller.2.resolve_left (by simp) (List.length_eq_zero_iff.mp hlen)
    rw [if_neg hsome] at hstep
    cases hstep
    exact { h with caller := trivial }
  · have hmem : (streamID, after) ∈ targets := hcaller.1 _ List.mem_cons_self
    have hbehind : ¬ (σ.store.ensureStream streamID).head > after :=
      Nat.not_lt.mpr (h.behind _ hmem)
    simp only [σ.store.getHead_eq (h.named _ hmem), StreamState.headCursor, if_neg hbehind] at hstep
    cases hstep
    refine { h with watches := ?_, caller := ⟨?_, .inr (by simp)⟩ }
    · intro watch hwatch
      rcases List.mem_append.mp hwatch with hold | hnew
      · exact h.watches watch hold
      · rw [List.mem_singleton.mp hnew]
        exact hmem
    · exact fun watch hwatch => hcaller.1 _ (List.mem_cons_of_mem _ hwatch)
  · simp only [h.done] at hstep
    cases hstep
  all_goals exact hcaller.elim

/-- A call that waits goes on waiting, whatever it does by itself. -/
theorem step (h : Asleep targets σ) (hne : targets ≠ []) {l : WaitLabel} (hl : l.Internal)
    (hstep : (waitOrWake (.ok targets) true timeout).step l σ = some τ) : Asleep targets τ := by
  unfold waitOrWake at hstep
  rcases l with op | _ | _ | _ | _ | _ | _ | i | i | _
  · exact hl.elim
  · exact hl.elim
  · exact hl.elim
  · simp only [h.helper, h.waitCtx] at hstep
    cases hstep
  · simp only [h.helper] at hstep
    cases hstep
  · simp only at hstep
    split at hstep
    · cases hstep
    · cases hstep
    · rename_i hctx _
      cases hctx.symm.trans h.waitCtx
  · exact hl.elim
  · exact h.stepWatch hstep
  · exact h.stepWatch hstep
  · exact h.callerStep hne hstep

end Asleep

/-- A caller that comes to a stream whose head is past its mark is through. -/
theorem returns_of_past {rest : List (StreamID × Nat)} (hpc : σ.caller = .watching rest)
    (hnamed : ∀ watch ∈ rest, watch.1 ≠ "")
    (hpast : ∃ watch ∈ rest, watch.2 < σ.store.headOf watch.1) :
    ∃ n τ, (waitOrWake (.ok targets) true timeout).run (List.replicate n .caller) σ = some τ ∧
      τ.caller = .finished none := by
  induction rest generalizing σ with
  | nil => simp at hpast
  | cons watch rest ih =>
      obtain ⟨streamID, after⟩ := watch
      have hget := σ.store.getHead_eq (hnamed _ List.mem_cons_self)
      have hstep : (waitOrWake (.ok targets) true timeout).step .caller σ =
          if after < σ.store.headOf streamID then some (σ.return_ none)
          else some { σ with
            caller := .watching rest
            watches := σ.watches ++ [.calling streamID after] } := by
        unfold waitOrWake Wait.callerStep
        simp only [hpc, hget]
        rfl
      by_cases hlt : after < σ.store.headOf streamID
      · rw [if_pos hlt] at hstep
        refine ⟨2, { σ.return_ none with
          caller := .finished none
          waitCtx := σ.waitCtx.or (some errCanceled) }, ?_, rfl⟩
        rw [List.replicate_succ, Machine.run_cons, hstep]
        rfl
      · rw [if_neg hlt] at hstep
        have hrest : ∃ w ∈ rest, w.2 < σ.store.headOf w.1 := by
          obtain ⟨w, hw, hwlt⟩ := hpast
          rcases List.mem_cons.mp hw with rfl | hmem
          · exact absurd hwlt hlt
          · exact ⟨w, hmem, hwlt⟩
        obtain ⟨n, τ, hrun, hτ⟩ := ih
          (σ := { σ with
            caller := .watching rest
            watches := σ.watches ++ [.calling streamID after] })
          rfl (fun w hw => hnamed w (List.mem_cons_of_mem _ hw)) hrest
        refine ⟨n + 1, τ, ?_, hτ⟩
        rw [List.replicate_succ, Machine.run_cons, hstep]
        exact hrun

/-- **When a wait returns at once.** With a watcher, and while nothing comes to it, a call of
`waitOrWake` comes to its end exactly when the head of some stream is past its mark. -/
theorem waitOrWake_atOnce_iff (hs : Reachable s) (hne : targets ≠ [])
    (hnamed : ∀ watch ∈ targets, watch.1 ≠ "") (wake : Bool) :
    AtOnce (.ok targets) true timeout s wake ↔ ∃ watch ∈ targets, watch.2 < s.headOf watch.1 := by
  constructor
  · rintro ⟨ls, σ, hls, hrun, hfinished⟩
    by_contra hnone
    push Not at hnone
    have halways : (waitOrWake (.ok targets) true timeout).Always (fun l _ => l.Internal) ls
        (.start s wake) := Machine.always_of_forall _ (fun l hl _ => hls l hl) _
    have hasleep : Asleep targets σ :=
      Machine.run_invariant_of (fun l _ _ hl hstep h => h.step hne hl hstep) halways hrun
        (asleep_start hs hnamed hnone wake)
    have hcaller := hasleep.caller
    rw [hfinished] at hcaller
    exact hcaller
  · intro hpast
    let σ : Wait := { Wait.start s wake with caller := .watching targets, watchCtx := none }
    obtain ⟨n, τ, hrun, hτ⟩ : ∃ n τ,
        (waitOrWake (.ok targets) true timeout).run (List.replicate n .caller) σ = some τ ∧
          τ.caller = .finished none := returns_of_past rfl hnamed hpast
    refine ⟨.caller :: List.replicate n .caller, τ, ?_, hrun, hτ⟩
    intro l hl
    rcases List.mem_cons.mp hl with rfl | hmem
    · trivial
    · rw [List.eq_of_mem_replicate hmem]
      trivial

end AtOnce

/-! ## The waits of the loop -/

/-- Source: `server.go`, `waitWake`, with a context that is alive and no token in the channel. -/
def waitWake (s : Store) (timeout : Int) : Pause :=
  if timeout ≤ 0 then .returns else .waits timeout s

/-- Source: `server.go`, `nextWait`. -/
def nextWait (w : Pacing) (lastHeartbeat now : Int) : Int :=
  if w.heartbeatEvery > 0 then
    let untilHeartbeat := w.heartbeatEvery - (now - lastHeartbeat)
    if untilHeartbeat ≤ 0 then w.pollInterval
    else if w.pollInterval ≤ 0 ∨ untilHeartbeat < w.pollInterval then untilHeartbeat
    else w.pollInterval
  else w.pollInterval

/-- A wait is never empty. -/
theorem nextWait_pos (w : Pacing) (lastHeartbeat now : Int) : 0 < nextWait w lastHeartbeat now := by
  have hpoll := w.poll_pos
  unfold nextWait
  simp only
  split_ifs <;> omega

/-- With time left, and no token, the loop waits. -/
theorem waitWake_waits {s : Store} {timeout : Int} (h : 0 < timeout) :
    waitWake s timeout ≠ .returns := by
  unfold waitWake
  rw [if_neg (Int.not_le.mpr h)]
  rintro ⟨⟩

/-! ## One iteration -/

/-- The event is a frame that was sent. -/
def LoopEvent.isFrame : LoopEvent → Bool
  | .heartbeat _ | .response .. => true
  | .dropped _ => false

namespace Loop

/-- The frames sent so far, newest first. -/
def frames (σ : Loop) : List LoopEvent := σ.log.filter (·.isFrame)

/-- The rest of the loop body once the poll has answered.
Source: `server.go`, `Server.GatewaySubscribe`, from the loop over the responses to the waits. -/
def treat (req : GatewaySubscribeRequest) (heartbeatEvery now : Int) :
    List GatewaySubscribeResponse → (sent hasMore throttled : Bool) → Loop → Loop
  | [], sent, hasMore, throttled, σ => σ.finish heartbeatEvery now sent hasMore throttled
  | resp :: rest, sent, hasMore, throttled, σ =>
    let σ := σ.respond req now resp rest sent hasMore throttled
    match σ.pc with
    | .responding _ sent hasMore throttled =>
      treat req heartbeatEvery now rest sent hasMore throttled σ
    | _ => σ

section Body

variable {Actor : Type} (σ : Loop) (hooks : Hooks Actor) (actor : Actor)
  (req : GatewaySubscribeRequest) (w : Pacing)

/-- The loop body up to its wait, while nothing else happens.
Source: `server.go`, `Server.GatewaySubscribe`, the loop. -/
def body (now : Int) : Loop :=
  let ρ := σ.begin hooks actor req w.heartbeatEvery now
  match ρ.pc with
  | .polling p =>
    match (Prog.run pollHandler p ρ.store).1 with
    | .error _ => { ρ with pc := .ended }
    | .ok responses =>
      ({ ρ with pc := .responding responses false false false } : Loop).treat req w.heartbeatEvery
        now responses false false false
  | _ => ρ

/-- At the end of its body the loop does not wait: it goes on at once, or it calls a wait that comes
to its end by itself. The clock reads `later`. -/
def Slips (later : Int) : Prop :=
  match σ.pc with
  | .top => True
  | .sleeping =>
    waitWake σ.store.now (if σ.sub.snapshot.length = 0 then nextWait w σ.lastHeartbeat later
      else w.pollInterval) = .returns
  | .watching =>
    AtOnce (waitTargets hooks actor { req with targets := σ.sub.snapshot }
      fun key => (σ.mark key).delivered) w.watcher (nextWait w σ.lastHeartbeat later) σ.store.now
        σ.sub.wake
  | .polling _ | .responding .. | .ended => False

/-- The state at the top of the loop after an iteration. -/
def iterate (now : Int) : Loop := { σ.body hooks actor req w now with pc := .top }

/-- Two iterations in a row send no frame and do not wait. -/
def Spins (now₁ later₁ now₂ later₂ : Int) : Prop :=
  (σ.body hooks actor req w now₁).Slips hooks actor req w later₁ ∧
    (σ.iterate hooks actor req w now₁).frames = σ.frames ∧
    ((σ.iterate hooks actor req w now₁).body hooks actor req w now₂).Slips hooks actor req w
      later₂ ∧
    ((σ.iterate hooks actor req w now₁).iterate hooks actor req w now₂).frames =
      (σ.iterate hooks actor req w now₁).frames

end Body

/-! ### What the responses leave behind -/

section Treat

variable {Actor : Type} {hooks : Hooks Actor} {actor : Actor} {σ : Loop}
  {req : GatewaySubscribeRequest} {heartbeatEvery now : Int}

/-- A response that sends nothing leaves the flags alone, but for one that is held back. -/
theorem respond_unsent {resp : GatewaySubscribeResponse} (now : Int)
    (rest : List GatewaySubscribeResponse) (sent hasMore throttled : Bool)
    (h : (σ.judge req resp).1 = .throttled ∨ (σ.judge req resp).1 = .silent) :
    (σ.respond req now resp rest sent hasMore throttled).frames = σ.frames ∧
      (σ.respond req now resp rest sent hasMore throttled).pc =
        .responding rest sent hasMore (throttled || (σ.judge req resp).1 == .throttled) := by
  unfold respond
  rcases hjudge : σ.judge req resp with ⟨outcome, m⟩
  simp only [hjudge] at h
  rcases h with rfl | rfl
  · exact ⟨rfl, by simp⟩
  · exact ⟨rfl, by simp⟩

/-- A response that is sent is a frame. -/
theorem respond_sent {resp : GatewaySubscribeResponse} (now : Int)
    (rest : List GatewaySubscribeResponse) (sent hasMore throttled : Bool)
    (h : (σ.judge req resp).1 = .announced ∨ (σ.judge req resp).1 = .delivered) :
    (σ.respond req now resp rest sent hasMore throttled).frames.length = σ.frames.length + 1 ∧
      ∃ hasMore', (σ.respond req now resp rest sent hasMore throttled).pc =
        .responding rest true hasMore' throttled := by
  unfold respond
  rcases hjudge : σ.judge req resp with ⟨outcome, m⟩
  simp only [hjudge] at h
  rcases h with rfl | rfl
  · exact ⟨rfl, _, rfl⟩
  · exact ⟨rfl, _, rfl⟩

/-- An outcome that is not sent. -/
theorem outcome_unsent {outcome : Outcome} (h : ¬ (outcome = .announced ∨ outcome = .delivered)) :
    outcome = .throttled ∨ outcome = .silent := by
  rcases outcome with _ | _ | _ | _ <;> simp at h ⊢

/-- The responses are treated one after the other. -/
theorem treat_cons {resp : GatewaySubscribeResponse} {rest : List GatewaySubscribeResponse}
    {sent hasMore throttled sent' hasMore' throttled' : Bool}
    (hpc : (σ.respond req now resp rest sent hasMore throttled).pc =
      .responding rest sent' hasMore' throttled') :
    σ.treat req heartbeatEvery now (resp :: rest) sent hasMore throttled =
      (σ.respond req now resp rest sent hasMore throttled).treat req heartbeatEvery now rest sent'
        hasMore' throttled' := by
  rw [treat]
  simp only [hpc]

/-- A heartbeat is one frame more, when it is due. -/
theorem beat_frames : (σ.beat heartbeatEvery now).frames.length =
    σ.frames.length + if heartbeatEvery ≤ now - σ.lastHeartbeat then 1 else 0 := by
  unfold beat
  split_ifs <;> rfl

variable (req heartbeatEvery now) in
/-- The rest of the body takes no frame back; when a binding was held back and no frame is sent, it
ends in the sleep. -/
theorem treat_frames (σ : Loop) (responses : List GatewaySubscribeResponse)
    (sent hasMore throttled : Bool) :
    σ.frames.length ≤
        (σ.treat req heartbeatEvery now responses sent hasMore throttled).frames.length ∧
      (throttled = true → hasMore = false →
        (σ.treat req heartbeatEvery now responses sent hasMore throttled).frames.length =
          σ.frames.length →
        (σ.treat req heartbeatEvery now responses sent hasMore throttled).pc = .sleeping) := by
  induction responses generalizing σ sent hasMore throttled with
  | nil =>
      unfold treat finish frames
      refine ⟨?_, ?_⟩
      · rcases sent with _ | _
        · exact (Nat.le_add_right _ _).trans_eq beat_frames.symm
        · exact le_rfl
      · rintro rfl rfl -
        rfl
  | cons resp rest ih =>
      by_cases hsent : (σ.judge req resp).1 = .announced ∨ (σ.judge req resp).1 = .delivered
      · obtain ⟨hframes, hasMore', hpc⟩ := respond_sent now rest sent hasMore throttled hsent
        rw [treat_cons hpc]
        have hle := (ih (σ.respond req now resp rest sent hasMore throttled) true hasMore'
          throttled).1
        exact ⟨by omega, fun _ _ heq => by omega⟩
      · obtain ⟨hframes, hpc⟩ :=
          respond_unsent now rest sent hasMore throttled (outcome_unsent hsent)
        rw [treat_cons hpc, ← hframes]
        obtain ⟨hle, hsleeps⟩ := ih (σ.respond req now resp rest sent hasMore throttled) sent
          hasMore (throttled || (σ.judge req resp).1 == .throttled)
        exact ⟨hle, fun hheld => hsleeps (by simp [hheld])⟩

end Treat

/-! ### Bindings with nothing to send -/

/-- The marks when the cursors of these bindings have been observed, in this order. -/
def observedMarks (subscriberID : SubscriberID) (s : Store) :
    List (SyncTarget × StreamBinding) → (String → Mark) → String → Mark
  | [], marks => marks
  | p :: ps, marks =>
    observedMarks subscriberID s ps (Function.update marks (keyOf p.1 p.2)
      ((marks (keyOf p.1 p.2)).observe (committedOf subscriberID p.2 s)))

/-- Each of these bindings in turn is not held back and has nothing to send. -/
def Quiet (req : GatewaySubscribeRequest) (subscriberID : SubscriberID) (s : Store) :
    List (SyncTarget × StreamBinding) → (String → Mark) → Prop
  | [], _ => True
  | p :: ps, marks =>
    ¬ (marks (keyOf p.1 p.2)).Held req.maxInFlightPerTarget (committedOf subscriberID p.2 s) ∧
      (marks (keyOf p.1 p.2)).Spent (committedOf subscriberID p.2 s)
        (normalizeLimit req.batchLimitPerTarget) (headIn s p.2.streamID) ∧
      Quiet req subscriberID s ps (Function.update marks (keyOf p.1 p.2)
        ((marks (keyOf p.1 p.2)).observe (committedOf subscriberID p.2 s)))

/-- Something is overlooked: none of these bindings has anything to send or is held back, and some
head is past its mark all the same. -/
def Overlooks (req : GatewaySubscribeRequest) (subscriberID : SubscriberID) (s : Store)
    (ps : List (SyncTarget × StreamBinding)) (marks : String → Mark) : Prop :=
  Quiet req subscriberID s ps marks ∧ ∃ p ∈ ps,
    (observedMarks subscriberID s ps marks (keyOf p.1 p.2)).delivered < s.headOf p.2.streamID

section Quiet

variable {Actor : Type} {hooks : Hooks Actor} {actor : Actor} {σ : Loop}
  {req : GatewaySubscribeRequest} {heartbeatEvery now : Int} {subscriberID : SubscriberID}
  {s : Store} {ps : List (SyncTarget × StreamBinding)}

/-- The marks under other keys do not matter. -/
theorem observedMarks_congr {marks marks' : String → Mark} {key : String}
    (hps : ∀ p ∈ ps, marks (keyOf p.1 p.2) = marks' (keyOf p.1 p.2))
    (hkey : marks key = marks' key) :
    observedMarks subscriberID s ps marks key = observedMarks subscriberID s ps marks' key := by
  induction ps generalizing marks marks' with
  | nil => exact hkey
  | cons p ps ih =>
      unfold observedMarks
      rw [hps p List.mem_cons_self]
      refine ih (fun q hq => ?_) ?_
      · rw [Function.update_apply, Function.update_apply, hps q (List.mem_cons_of_mem _ hq)]
      · rw [Function.update_apply, Function.update_apply, hkey]

/-- Whether a poll brings nothing depends on the marks of its bindings only. -/
theorem quiet_congr {marks marks' : String → Mark}
    (hps : ∀ p ∈ ps, marks (keyOf p.1 p.2) = marks' (keyOf p.1 p.2)) :
    Quiet req subscriberID s ps marks ↔ Quiet req subscriberID s ps marks' := by
  induction ps generalizing marks marks' with
  | nil => exact Iff.rfl
  | cons p ps ih =>
      unfold Quiet
      rw [hps p List.mem_cons_self]
      refine and_congr_right fun _ => and_congr_right fun _ => ih fun q hq => ?_
      rw [Function.update_apply, Function.update_apply, hps q (List.mem_cons_of_mem _ hq)]

/-- Whether something is overlooked depends on the marks of the bindings only. -/
theorem overlooks_congr {marks marks' : String → Mark}
    (hps : ∀ p ∈ ps, marks (keyOf p.1 p.2) = marks' (keyOf p.1 p.2)) :
    Overlooks req subscriberID s ps marks ↔ Overlooks req subscriberID s ps marks' := by
  refine and_congr (quiet_congr hps) (exists_congr fun p => and_congr_right fun hp => ?_)
  rw [observedMarks_congr hps (hps p hp)]

/-- Bindings with nothing to send: nothing is sent but a heartbeat that is due, and the loop is
about to wait for events. -/
theorem treat_quiet {responses : List GatewaySubscribeResponse}
    (h : List.Forall₂ (Answered subscriberID req.batchLimitPerTarget s) ps responses)
    (hquiet : Quiet req subscriberID s ps σ.mark) :
    ∃ ρ : Loop, ρ.store = σ.store ∧ ρ.sub = σ.sub ∧ ρ.lastHeartbeat = σ.lastHeartbeat ∧
      ρ.frames = σ.frames ∧ ρ.mark = observedMarks subscriberID s ps σ.mark ∧
      σ.treat req heartbeatEvery now responses false false false =
        { ρ.beat heartbeatEvery now with pc := .watching } := by
  induction h generalizing σ with
  | nil => exact ⟨σ, rfl, rfl, rfl, rfl, rfl, rfl⟩
  | @cons p resp ps rest hresp _ ih =>
      obtain ⟨hheld, hspent, hrest⟩ := hquiet
      have hjudge := judge_of_answered hresp σ
      rw [Mark.follow_of_spent hheld hspent] at hjudge
      have hsilent : (σ.judge req resp).1 = .silent := congrArg Prod.fst hjudge
      obtain ⟨hstore, hsub, hbeat, hmark, -⟩ := σ.respond_frame req now resp rest false false false
      obtain ⟨hframes, hpc⟩ := respond_unsent now rest false false false (.inr hsilent)
      rw [hjudge, hresp.key] at hmark
      rw [hsilent] at hpc
      rw [← hmark] at hrest
      obtain ⟨ρ, hstore', hsub', hbeat', hframes', hmark', htreat⟩ := ih hrest
      refine ⟨ρ, hstore'.trans hstore, hsub'.trans hsub, hbeat'.trans hbeat,
        hframes'.trans hframes, ?_, ?_⟩
      · rw [hmark', hmark]
        rfl
      · rw [treat_cons hpc]
        exact htreat

/-- A binding that is held back or has something to send: a frame is sent, or the loop is about to
sleep. -/
theorem treat_not_quiet {responses : List GatewaySubscribeResponse}
    (h : List.Forall₂ (Answered subscriberID req.batchLimitPerTarget s) ps responses)
    (hquiet : ¬ Quiet req subscriberID s ps σ.mark)
    (hframes : (σ.treat req heartbeatEvery now responses false false false).frames.length =
      σ.frames.length) :
    (σ.treat req heartbeatEvery now responses false false false).pc = .sleeping := by
  induction h generalizing σ with
  | nil => exact absurd trivial hquiet
  | @cons p resp ps rest hresp _ ih =>
      have hjudge := judge_of_answered hresp σ
      obtain ⟨-, -, -, hmark, -⟩ := σ.respond_frame req now resp rest false false false
      rw [hjudge, hresp.key] at hmark
      have hsent : (σ.judge req resp).1 = .announced ∨ (σ.judge req resp).1 = .delivered →
          False := by
        intro hsent
        obtain ⟨hmore, hasMore', hpc⟩ := respond_sent now rest false false false hsent
        rw [treat_cons hpc] at hframes
        have hle := ((σ.respond req now resp rest false false false).treat_frames req
          heartbeatEvery now rest true hasMore' false).1
        omega
      rcases Mark.follow_cases (m := σ.mark (keyOf p.1 p.2))
          (c := committedOf subscriberID p.2 s)
          (normalizeLimit_pos req.batchLimitPerTarget) with
        ⟨hheld, hfollow⟩ | ⟨hheld, hspent, hfollow⟩ | ⟨-, -, m, hfollow⟩ | ⟨-, -, m, hfollow⟩
      · rw [hfollow] at hjudge
        have hthrottled : (σ.judge req resp).1 = .throttled := congrArg Prod.fst hjudge
        obtain ⟨hsame, hpc⟩ := respond_unsent now rest false false false (.inl hthrottled)
        rw [treat_cons hpc, ← hsame] at hframes
        rw [treat_cons hpc]
        exact (treat_frames req heartbeatEvery now _ rest false false _).2 (by simp [hthrottled])
          rfl hframes
      · rw [hfollow] at hjudge hmark
        have hsilent : (σ.judge req resp).1 = .silent := congrArg Prod.fst hjudge
        obtain ⟨hsame, hpc⟩ := respond_unsent now rest false false false (.inr hsilent)
        rw [hsilent] at hpc
        rw [treat_cons hpc, ← hsame] at hframes
        rw [treat_cons hpc]
        refine ih (fun hrest => hquiet ⟨hheld, hspent, ?_⟩) hframes
        rwa [hmark] at hrest
      · exact (hsent (.inl (by rw [hjudge, hfollow]))).elim
      · exact (hsent (.inr (by rw [hjudge, hfollow]))).elim

end Quiet

/-! ### An iteration that sends nothing and does not wait -/

section Iterate

variable {Actor : Type} {hooks : Hooks Actor} {actor : Actor} {σ : Loop}
  {req : GatewaySubscribeRequest} {w : Pacing} {now later : Int}

/-- Pruning sends no frame. -/
theorem frames_prune (σ : Loop) (targets : List SyncTarget) :
    (σ.pruneDeliveryState targets).frames = σ.frames := by
  unfold pruneDeliveryState frames
  rw [List.filter_append, List.filter_eq_nil_iff.mpr, List.nil_append]
  intro event hevent
  obtain ⟨key, -, rfl⟩ := List.mem_map.mp hevent
  rintro ⟨⟩

/-- A loop without targets sleeps. -/
theorem not_slips_of_no_targets (hnil : σ.sub.snapshot = []) :
    ¬ (σ.body hooks actor req w now).Slips hooks actor req w later := by
  obtain ⟨-, hsub⟩ := σ.begin_frame hooks actor req w.heartbeatEvery now
  have hpc : (σ.begin hooks actor req w.heartbeatEvery now).pc = .sleeping := by
    unfold begin
    simp only [hnil]
    rfl
  have hbody : σ.body hooks actor req w now = σ.begin hooks actor req w.heartbeatEvery now := by
    unfold body
    simp only [hpc]
  rw [hbody]
  unfold Slips
  rw [hpc, hsub, hnil]
  exact waitWake_waits (nextWait_pos _ _ _)

/-- The body of an iteration that polls. -/
theorem body_of_polls (hne : σ.sub.snapshot ≠ []) :
    σ.body hooks actor req w now =
      match σ.poll hooks actor req with
      | .error _ => { σ.pruneDeliveryState σ.sub.snapshot with pc := .ended }
      | .ok responses =>
        ({ σ.pruneDeliveryState σ.sub.snapshot with
          pc := .responding responses false false false } : Loop).treat req w.heartbeatEvery now
          responses false false false := by
  unfold body
  simp only [begin_of_polls hne]
  rfl

/-- Targets that resolve and are authorized are watched behind the marks of their bindings. -/
theorem watchesOf_eq {subscriberID : SubscriberID} (after : String → Nat)
    {targets : List SyncTarget}
    (htargets : ∀ target ∈ targets,
      hooks.authorize { actor, operation := .subscribe, target, subscriberID } = .ok () ∧
        ∃ bindings, resolveBindings hooks actor target = .ok bindings) :
    watchesOf hooks actor subscriberID after targets =
      .ok ((boundIn hooks actor targets).map fun p =>
        (p.2.streamID, after (keyOf p.1 p.2))) := by
  induction targets with
  | nil => rfl
  | cons target targets ih =>
      obtain ⟨hauth, bindings, hresolve⟩ := htargets target List.mem_cons_self
      have hrest := ih fun t ht => htargets t (List.mem_cons_of_mem _ ht)
      unfold watchesOf boundIn
      simp only [hresolve, hauth, hrest, List.flatMap_cons, List.map_append, List.map_map]
      rfl

/-- The targets of a poll that succeeds are watched behind the marks of their bindings. -/
theorem waitTargets_of_poll {responses : List GatewaySubscribeResponse}
    (h : σ.poll hooks actor req = .ok responses) (after : String → Nat) :
    waitTargets hooks actor { req with targets := σ.sub.snapshot } after =
      .ok ((boundIn hooks actor σ.sub.snapshot).map fun p =>
        (p.2.streamID, after (keyOf p.1 p.2))) := by
  obtain ⟨results, τ, -, hresults⟩ := exec_of_poll h
  obtain ⟨subscriberID, hsub, hafter⟩ := Prog.exec_ofExcept_bind_ok.mp hresults
  obtain ⟨⟨⟩, hvalid, htargets⟩ := Prog.exec_ofExcept_bind_ok.mp hafter
  unfold waitTargets
  simp only [hsub, hvalid]
  refine watchesOf_eq after fun target htarget => ?_
  obtain ⟨hauth, bindings, hresolve, -⟩ :=
    exec_catchUpTargets_each (resolveSubscriber_ne hsub) htargets htarget
  exact ⟨hauth, bindings, hresolve⟩

/-- The body of an iteration whose bindings have nothing to send. -/
theorem body_of_quiet {subscriberID : SubscriberID} {responses : List GatewaySubscribeResponse}
    (hne : σ.sub.snapshot ≠ []) (hpoll : σ.poll hooks actor req = .ok responses)
    (hall : List.Forall₂ (Answered subscriberID req.batchLimitPerTarget σ.store.now)
      (boundIn hooks actor σ.sub.snapshot) responses)
    (hquiet : Quiet req subscriberID σ.store.now (boundIn hooks actor σ.sub.snapshot) σ.mark) :
    ∃ ρ : Loop, ρ.store = σ.store ∧ ρ.sub = σ.sub ∧ ρ.lastHeartbeat = σ.lastHeartbeat ∧
      ρ.frames = σ.frames ∧
      (∀ p ∈ boundIn hooks actor σ.sub.snapshot, ρ.mark (keyOf p.1 p.2) =
        observedMarks subscriberID σ.store.now (boundIn hooks actor σ.sub.snapshot) σ.mark
          (keyOf p.1 p.2)) ∧
      σ.body hooks actor req w now = { ρ.beat w.heartbeatEvery now with pc := .watching } := by
  have hmarks : ∀ p ∈ boundIn hooks actor σ.sub.snapshot,
      (σ.pruneDeliveryState σ.sub.snapshot).mark (keyOf p.1 p.2) = σ.mark (keyOf p.1 p.2) :=
    fun p hp => mark_prune_of_mem hp σ
  rw [body_of_polls hne, hpoll]
  obtain ⟨ρ, hstore, hsub, hbeat, hframes, hmark, htreat⟩ :=
    treat_quiet (σ := { σ.pruneDeliveryState σ.sub.snapshot with
      pc := .responding responses false false false }) hall ((quiet_congr hmarks).mpr hquiet)
  refine ⟨ρ, hstore, hsub, hbeat, hframes.trans (σ.frames_prune _), fun p hp => ?_, htreat⟩
  rw [hmark]
  exact observedMarks_congr hmarks (hmarks p hp)

/-- With a watcher, the wait at the end of such a body returns at once exactly when a head is past
its mark. -/
theorem slips_of_watching (hwatcher : w.watcher = true) (hσ : Reachable σ.store.now)
    (hpc : σ.pc = .watching) {responses : List GatewaySubscribeResponse}
    (hpoll : σ.poll hooks actor req = .ok responses) :
    σ.Slips hooks actor req w later ↔ ∃ p ∈ boundIn hooks actor σ.sub.snapshot,
      (σ.mark (keyOf p.1 p.2)).delivered < σ.store.now.headOf p.2.streamID := by
  have htargets := waitTargets_of_poll hpoll fun key => (σ.mark key).delivered
  obtain ⟨hne, hnamed⟩ := waitTargets_ok htargets
  unfold Slips
  rw [hpc, hwatcher]
  simp only [htargets]
  rw [waitOrWake_atOnce_iff hσ hne hnamed]
  simp

/-- What a poll answers depends on the targets and on the store only. -/
theorem poll_congr {σ τ : Loop} (hstore : τ.store = σ.store) (hsub : τ.sub = σ.sub) :
    τ.poll hooks actor req = σ.poll hooks actor req := by
  unfold poll
  rw [hstore, hsub]

/-- A binding that is held back or has something to send: a frame is sent, or the loop waits. -/
theorem quiet_of_passes {subscriberID : SubscriberID} {responses : List GatewaySubscribeResponse}
    (hne : σ.sub.snapshot ≠ []) (hpoll : σ.poll hooks actor req = .ok responses)
    (hall : List.Forall₂ (Answered subscriberID req.batchLimitPerTarget σ.store.now)
      (boundIn hooks actor σ.sub.snapshot) responses)
    (hslips : (σ.body hooks actor req w now).Slips hooks actor req w later)
    (hframes : (σ.body hooks actor req w now).frames = σ.frames) :
    Quiet req subscriberID σ.store.now (boundIn hooks actor σ.sub.snapshot) σ.mark := by
  by_contra hquiet
  have hmarks : ∀ p ∈ boundIn hooks actor σ.sub.snapshot,
      (σ.pruneDeliveryState σ.sub.snapshot).mark (keyOf p.1 p.2) = σ.mark (keyOf p.1 p.2) :=
    fun p hp => mark_prune_of_mem hp σ
  rw [body_of_polls hne, hpoll] at hslips hframes
  have hlength := congrArg List.length (hframes.trans (σ.frames_prune σ.sub.snapshot).symm)
  have hpc := treat_not_quiet (σ := { σ.pruneDeliveryState σ.sub.snapshot with
    pc := .responding responses false false false }) hall (mt (quiet_congr hmarks).mp hquiet)
      hlength
  unfold Slips at hslips
  simp only [hpc] at hslips
  split_ifs at hslips
  · exact waitWake_waits (nextWait_pos _ _ _) hslips
  · exact waitWake_waits w.poll_pos hslips

/-- The body of an iteration that does not wait has polled. -/
theorem poll_of_slips (hslips : (σ.body hooks actor req w now).Slips hooks actor req w later) :
    σ.sub.snapshot ≠ [] ∧ ∃ responses, σ.poll hooks actor req = .ok responses := by
  have hne : σ.sub.snapshot ≠ [] := fun hnil => not_slips_of_no_targets hnil hslips
  refine ⟨hne, ?_⟩
  rw [body_of_polls hne] at hslips
  cases hpoll : σ.poll hooks actor req with
  | error err =>
      rw [hpoll] at hslips
      exact hslips.elim
  | ok responses => exact ⟨responses, rfl⟩

/-- An iteration whose bindings have nothing to send: it sends no frame when no heartbeat is due,
and does not wait when some head is past its mark. -/
theorem passes_of_quiet (hwatcher : w.watcher = true) (hσ : Reachable σ.store.now)
    {subscriberID : SubscriberID} {responses : List GatewaySubscribeResponse}
    (hne : σ.sub.snapshot ≠ []) (hpoll : σ.poll hooks actor req = .ok responses)
    (hall : List.Forall₂ (Answered subscriberID req.batchLimitPerTarget σ.store.now)
      (boundIn hooks actor σ.sub.snapshot) responses)
    (hquiet : Quiet req subscriberID σ.store.now (boundIn hooks actor σ.sub.snapshot) σ.mark) :
    ((σ.iterate hooks actor req w now).frames = σ.frames ↔
        now - σ.lastHeartbeat < w.heartbeatEvery) ∧
      ((σ.body hooks actor req w now).Slips hooks actor req w later ↔
        ∃ p ∈ boundIn hooks actor σ.sub.snapshot,
          (observedMarks subscriberID σ.store.now (boundIn hooks actor σ.sub.snapshot) σ.mark
            (keyOf p.1 p.2)).delivered < σ.store.now.headOf p.2.streamID) := by
  obtain ⟨ρ, hstore, hsub, hbeat, hframes, hmark, hbody⟩ :
      ∃ ρ : Loop, _ ∧ _ ∧ _ ∧ _ ∧ _ ∧ σ.body hooks actor req w now = _ :=
    body_of_quiet hne hpoll hall hquiet
  obtain ⟨hstore', hsub', hmarks'⟩ := ρ.beat_frame w.heartbeatEvery now
  unfold iterate
  rw [hbody]
  constructor
  · rw [← hframes, ← hbeat, ← Int.not_le]
    constructor
    · intro heq hdue
      have hlength := (beat_frames (σ := ρ)).symm.trans (congrArg List.length heq)
      rw [if_pos hdue] at hlength
      omega
    · intro hdue
      show (ρ.beat w.heartbeatEvery now).frames = ρ.frames
      unfold beat
      rw [if_neg hdue]
  · have hpoll' : poll hooks actor { ρ.beat w.heartbeatEvery now with pc := .watching } req =
        .ok responses :=
      (poll_congr (by exact hstore'.trans hstore) (by exact hsub'.trans hsub)).trans hpoll
    refine (slips_of_watching hwatcher ?_ rfl hpoll').trans ?_
    · rw [hstore'.trans hstore]
      exact hσ
    · simp only [hsub'.trans hsub, hstore'.trans hstore]
      refine exists_congr fun p => and_congr_right fun hp => ?_
      rw [← hmark p hp]
      unfold mark
      rw [hmarks']

/-- An iteration sends no frame and does not wait exactly when the poll succeeds, no heartbeat is
due, no binding has anything to send or is held back, and some head is past its mark all the
same. -/
theorem passes_iff (hwatcher : w.watcher = true) (hσ : Reachable σ.store.now) (now later : Int) :
    (σ.body hooks actor req w now).Slips hooks actor req w later ∧
        (σ.iterate hooks actor req w now).frames = σ.frames ↔
      (∃ responses, σ.poll hooks actor req = .ok responses) ∧
        now - σ.lastHeartbeat < w.heartbeatEvery ∧
        ∃ subscriberID, resolveSubscriber hooks actor req.subscriberId = .ok subscriberID ∧
          Overlooks req subscriberID σ.store.now (boundIn hooks actor σ.sub.snapshot) σ.mark := by
  constructor
  · rintro ⟨hslips, hframes⟩
    obtain ⟨hne, responses, hpoll⟩ := poll_of_slips hslips
    obtain ⟨subscriberID, hsub, hall⟩ := poll_ok hσ hpoll
    have hquiet := quiet_of_passes hne hpoll hall hslips hframes
    obtain ⟨hdue, hpast⟩ := passes_of_quiet hwatcher hσ hne hpoll hall hquiet
    exact ⟨⟨responses, hpoll⟩, hdue.mp hframes, subscriberID, hsub, hquiet, hpast.mp hslips⟩
  · rintro ⟨⟨responses, hpoll⟩, hdue, subscriberID, hsub, hquiet, hpast⟩
    obtain ⟨subscriberID', hsub', hall⟩ := poll_ok hσ hpoll
    obtain rfl := Except.ok.inj (hsub'.symm.trans hsub)
    have hne : σ.sub.snapshot ≠ [] := by
      intro hnil
      rw [hnil] at hpast
      simp [boundIn] at hpast
    obtain ⟨hdue', hpast'⟩ := passes_of_quiet hwatcher hσ hne hpoll hall hquiet
    exact ⟨hpast'.mpr hpast, hdue'.mpr hdue⟩

/-- What such an iteration leaves behind: the cursors observed, and nothing else. -/
theorem iterate_of_quiet {subscriberID : SubscriberID} {responses : List GatewaySubscribeResponse}
    (hne : σ.sub.snapshot ≠ []) (hpoll : σ.poll hooks actor req = .ok responses)
    (hall : List.Forall₂ (Answered subscriberID req.batchLimitPerTarget σ.store.now)
      (boundIn hooks actor σ.sub.snapshot) responses)
    (hquiet : Quiet req subscriberID σ.store.now (boundIn hooks actor σ.sub.snapshot) σ.mark)
    (hdue : now - σ.lastHeartbeat < w.heartbeatEvery) :
    (σ.iterate hooks actor req w now).store = σ.store ∧
      (σ.iterate hooks actor req w now).sub = σ.sub ∧
      (σ.iterate hooks actor req w now).lastHeartbeat = σ.lastHeartbeat ∧
      ∀ p ∈ boundIn hooks actor σ.sub.snapshot,
        (σ.iterate hooks actor req w now).mark (keyOf p.1 p.2) =
          observedMarks subscriberID σ.store.now (boundIn hooks actor σ.sub.snapshot) σ.mark
            (keyOf p.1 p.2) := by
  obtain ⟨ρ, hstore, hsub, hbeat, -, hmark, hbody⟩ :
      ∃ ρ : Loop, _ ∧ _ ∧ _ ∧ _ ∧ _ ∧ σ.body hooks actor req w now = _ :=
    body_of_quiet hne hpoll hall hquiet
  have hsame : ρ.beat w.heartbeatEvery now = ρ := by
    unfold beat
    rw [if_neg (by omega)]
  unfold iterate
  rw [hbody, hsame]
  exact ⟨hstore, hsub, hbeat, hmark⟩

/-- The loop is stuck: it overlooks something in this round, and in the next one again. -/
def Stuck (σ : Loop) (hooks : Hooks Actor) (actor : Actor) (req : GatewaySubscribeRequest) : Prop :=
  ∃ subscriberID, resolveSubscriber hooks actor req.subscriberId = .ok subscriberID ∧
    Overlooks req subscriberID σ.store.now (boundIn hooks actor σ.sub.snapshot) σ.mark ∧
    Overlooks req subscriberID σ.store.now (boundIn hooks actor σ.sub.snapshot)
      (observedMarks subscriberID σ.store.now (boundIn hooks actor σ.sub.snapshot) σ.mark)

/-- Two iterations in a row send no frame and do not wait exactly when the poll succeeds, the loop
is stuck, and no heartbeat is due yet in the second one. -/
theorem spins_iff (hwatcher : w.watcher = true) (hσ : Reachable σ.store.now)
    {now₁ later₁ now₂ later₂ : Int} (hnow : now₁ ≤ now₂) :
    σ.Spins hooks actor req w now₁ later₁ now₂ later₂ ↔
      (∃ responses, σ.poll hooks actor req = .ok responses) ∧ σ.Stuck hooks actor req ∧
        now₂ - σ.lastHeartbeat < w.heartbeatEvery := by
  -- what a first iteration that passes leaves behind
  have hfirst : ∀ subscriberID, (∃ responses, σ.poll hooks actor req = .ok responses) →
      now₁ - σ.lastHeartbeat < w.heartbeatEvery →
      resolveSubscriber hooks actor req.subscriberId = .ok subscriberID →
      Overlooks req subscriberID σ.store.now (boundIn hooks actor σ.sub.snapshot) σ.mark →
      (σ.iterate hooks actor req w now₁).store = σ.store ∧
        (σ.iterate hooks actor req w now₁).sub = σ.sub ∧
        (σ.iterate hooks actor req w now₁).lastHeartbeat = σ.lastHeartbeat ∧
        (Overlooks req subscriberID σ.store.now (boundIn hooks actor σ.sub.snapshot)
            (σ.iterate hooks actor req w now₁).mark ↔
          Overlooks req subscriberID σ.store.now (boundIn hooks actor σ.sub.snapshot)
            (observedMarks subscriberID σ.store.now (boundIn hooks actor σ.sub.snapshot)
              σ.mark)) := by
    rintro subscriberID ⟨responses, hpoll⟩ hdue hsub ⟨hquiet, p, hp, -⟩
    obtain ⟨subscriberID', hsub', hall⟩ := poll_ok hσ hpoll
    obtain rfl := Except.ok.inj (hsub'.symm.trans hsub)
    have hne : σ.sub.snapshot ≠ [] := by
      intro hnil
      rw [hnil] at hp
      simp [boundIn] at hp
    obtain ⟨hstore, htargets, hbeat, hmark⟩ := iterate_of_quiet hne hpoll hall hquiet hdue
    exact ⟨hstore, htargets, hbeat, overlooks_congr hmark⟩
  constructor
  · rintro ⟨hslips₁, hframes₁, hslips₂, hframes₂⟩
    obtain ⟨hpoll, hdue, subscriberID, hsub, hover⟩ :=
      (passes_iff hwatcher hσ now₁ later₁).mp ⟨hslips₁, hframes₁⟩
    obtain ⟨hstore, htargets, hbeat, hagain⟩ := hfirst subscriberID hpoll hdue hsub hover
    obtain ⟨-, hdue₂, subscriberID', hsub', hover₂⟩ :=
      (passes_iff hwatcher (by rw [hstore]; exact hσ) now₂ later₂).mp ⟨hslips₂, hframes₂⟩
    obtain rfl := Except.ok.inj (hsub'.symm.trans hsub)
    rw [hstore, htargets, hagain] at hover₂
    rw [hbeat] at hdue₂
    exact ⟨hpoll, ⟨_, hsub, hover, hover₂⟩, hdue₂⟩
  · rintro ⟨hpoll, ⟨subscriberID, hsub, hover, hover₂⟩, hdue⟩
    have hdue₁ : now₁ - σ.lastHeartbeat < w.heartbeatEvery := by omega
    obtain ⟨hstore, htargets, hbeat, hagain⟩ := hfirst subscriberID hpoll hdue₁ hsub hover
    obtain ⟨hslips₁, hframes₁⟩ :=
      (passes_iff hwatcher hσ now₁ later₁).mpr ⟨hpoll, hdue₁, subscriberID, hsub, hover⟩
    obtain ⟨hslips₂, hframes₂⟩ :=
      (passes_iff hwatcher (by rw [hstore]; exact hσ) now₂ later₂).mpr
        ⟨by rwa [poll_congr hstore htargets], by rwa [hbeat], subscriberID, hsub,
          by rwa [hstore, htargets, hagain]⟩
    exact ⟨hslips₁, hframes₁, hslips₂, hframes₂⟩

/-- **When the gateway loop does not spin.** With a watcher, from any state over a reachable store
that stands still: of any two iterations in a row one sends a frame or waits, if and only if the
poll fails, or the loop is not stuck, or a heartbeat is due in the second of the two. -/
theorem gateway_never_spins_iff (hwatcher : w.watcher = true) (hσ : Reachable σ.store.now)
    {now₁ later₁ now₂ later₂ : Int} (hnow : now₁ ≤ now₂) :
    ¬ σ.Spins hooks actor req w now₁ later₁ now₂ later₂ ↔
      (∀ responses, σ.poll hooks actor req ≠ .ok responses) ∨ ¬ σ.Stuck hooks actor req ∨
        w.heartbeatEvery ≤ now₂ - σ.lastHeartbeat := by
  rw [spins_iff hwatcher hσ hnow, ← Int.not_le]
  simp only [not_and_or, not_not, not_exists, ne_eq]

/-- The rest of the body, one step of the machine for each response and one for the end. -/
theorem run_treat (hooks : Hooks Actor) (actor : Actor) (U : Set SyncTarget)
    (heartbeatEvery now : Int) {responses : List GatewaySubscribeResponse}
    {sent hasMore throttled : Bool} (hpc : σ.pc = .responding responses sent hasMore throttled) :
    (gatewayLoop hooks actor req U heartbeatEvery).run
        (List.replicate (responses.length + 1) (.loop now)) σ =
      some (σ.treat req heartbeatEvery now responses sent hasMore throttled) := by
  induction responses generalizing σ sent hasMore throttled with
  | nil =>
      rw [List.length_nil, List.replicate_one, Machine.run_cons]
      unfold gatewayLoop
      simp only [hpc]
      rfl
  | cons resp rest ih =>
      have hstep : (gatewayLoop hooks actor req U heartbeatEvery).step (.loop now) σ =
          some (σ.respond req now resp rest sent hasMore throttled) := by
        unfold gatewayLoop
        simp only [hpc]
      obtain ⟨-, -, -, -, sent', hasMore', throttled', hpc'⟩ :=
        σ.respond_frame req now resp rest sent hasMore throttled
      rw [List.length_cons, List.replicate_succ, Machine.run_cons, hstep, treat_cons hpc']
      exact ih hpc'

/-- The machine takes exactly these steps. -/
theorem run_body (U : Set SyncTarget) (hpc : σ.pc = .top) (hne : σ.sub.snapshot ≠ [])
    {responses : List GatewaySubscribeResponse}
    (hpoll : σ.poll hooks actor req = .ok responses) :
    ∃ n, (gatewayLoop hooks actor req U w.heartbeatEvery).run (List.replicate n (.loop now)) σ =
      some (σ.body hooks actor req w now) := by
  obtain ⟨n, hn⟩ := run_poll U w.heartbeatEvery now hpc hne hpoll
  refine ⟨n + (responses.length + 1), ?_⟩
  rw [List.replicate_add, Machine.run_append, hn, body_of_polls hne, hpoll]
  exact run_treat hooks actor U w.heartbeatEvery now rfl

end Iterate

end Loop

/-! ## A loop that spins -/

/-- A stream with a target that resolves to `s`, in batches of one event. -/
def oneByOne : GatewaySubscribeRequest where
  subscriberId := "device"
  targets := [targetS]
  batchLimitPerTarget := 1

/-- A server with the default intervals and a watcher. -/
def watching : Pacing := ({} : Pacing).withStreamWatcher

/-- The first of two events is delivered, and the loop is at its top again. -/
def untilFirst : List (LoopLabel {targetS}) := List.replicate 9 (.loop 0)

/-- The first event is not acknowledged: it is what every poll finds, while the head is past it. -/
theorem unacknowledged_spins :
    ∃ σ, (gatewayLoop perActorHooks "alice" oneByOne {targetS} watching.heartbeatEvery).run
        untilFirst (.start Memory.twoEvents oneByOne 0) = some σ ∧ σ.pc = .top ∧
      (σ.mark (keyOf targetS bindingS)).delivered = 1 ∧
      σ.Spins perActorHooks "alice" oneByOne watching 1 1 2 2 := by
  have hinternal : ∀ l ∈ List.replicate 3 WaitLabel.caller, l.Internal := by
    intro l hl
    rw [List.eq_of_mem_replicate hl]
    trivial
  exact ⟨_, rfl, rfl, rfl, ⟨_, _, hinternal, rfl, rfl⟩, rfl, ⟨_, _, hinternal, rfl, rfl⟩, rfl⟩

/-- The binding is full, and the heartbeat is due before the loop could spin. -/
theorem gateway_never_spins_iff_heartbeat :
    ∃ σ, (gatewayLoop perActorHooks "alice" oneByOne {targetS} watching.heartbeatEvery).run
        untilFirst (.start Memory.twoEvents oneByOne 0) = some σ ∧
      (¬ σ.Spins perActorHooks "alice" oneByOne watching 1 1 20000000000 20000000000 ↔
        (∀ responses, σ.poll perActorHooks "alice" oneByOne ≠ .ok responses) ∨
          ¬ σ.Stuck perActorHooks "alice" oneByOne ∨
          watching.heartbeatEvery ≤ 20000000000 - σ.lastHeartbeat) :=
  ⟨_, rfl, Loop.gateway_never_spins_iff rfl ⟨_, rfl⟩ (by decide)⟩

end Synclog.Transport
