import Synclog.Transport.Guarantees
import Synclog.Transport.Standing

/-!
# A cursor that is moved back under a live stream

`ResetCursor` and `DeleteStream` move a committed cursor back. The delivered mark of a live stream
stays where it was, and a batch behind the cursor that does not reach beyond it is not sent.

* `RawLoop.operations`, `Loop.operations` — any operations on the store, beside a loop.
* `RawLoop.SendsFrom`, `Loop.SendsFrom` — the treatment of an answer sends a batch behind a cursor.
* `follows_back_iff` — for both loops: the next poll sends the batch behind the cursor exactly when
  that batch ends beyond the delivered mark.
-/

namespace Synclog.Transport

open Synclog.Lib Synclog.Core Synclog.Memory Synclog.Gateway

/-! ## Any operations beside a loop -/

section Operations

/-- A call of a poll keeps the store reachable. -/
theorem pollHandler_reachable {β : Type} (c : StoreCall β) {store : Traced Store}
    (h : Reachable store.now) : Reachable (pollHandler β c store).2.now :=
  handler_reachable 0 c h

/-- Operations of other parties on the store, of any kind. -/
def RawLoop.operations : Machine RawLoop Op where
  step op σ := some { σ with store := σ.store.push (op.apply σ.store.now) }

/-- Operations of other parties on the store, of any kind. -/
def Loop.operations : Machine Loop Op where
  step op σ := some { σ with store := σ.store.push (op.apply σ.store.now) }

/-- In every run of the raw loop beside any operations the store stays reachable. -/
theorem RawLoop.reachable_run {req : SubscribeRequest} {heartbeatEvery : Int}
    {ls : List (RawLabel ⊕ Op)} {σ τ : RawLoop}
    (hrun : ((rawLoop req heartbeatEvery).beside operations).run ls σ = some τ)
    (hσ : Reachable σ.store.now) : Reachable τ.store.now := by
  refine Machine.run_invariant (I := fun σ => Reachable σ.store.now) ?_ hrun hσ
  rintro (l | op) σ τ hstep h
  · cases rawLoop_cases hstep with
    | @env op keeps => exact h.apply op
    | call hpc => exact pollHandler_reachable _ h
    | treat now hpc => exact (σ.treat_frame req heartbeatEvery now _).1.symm ▸ h
    | begin | leave => exact h
  · cases hstep
    exact h.apply op

/-- In every run of the gateway loop beside any operations the store stays reachable. -/
theorem Loop.reachable_run {Actor : Type} {hooks : Hooks Actor} {actor : Actor}
    {req : GatewaySubscribeRequest} {U : Set SyncTarget} {heartbeatEvery : Int}
    {ls : List (LoopLabel U ⊕ Op)} {σ τ : Loop}
    (hrun : ((gatewayLoop hooks actor req U heartbeatEvery).beside operations).run ls σ = some τ)
    (hσ : Reachable σ.store.now) : Reachable τ.store.now := by
  refine Machine.run_invariant (I := fun σ => Reachable σ.store.now) ?_ hrun hσ
  rintro (l | op) σ τ hstep h
  · cases gatewayLoop_cases hstep with
    | @env op keeps => exact h.apply op
    | begin now => exact (σ.begin_frame hooks actor req heartbeatEvery now).1.symm ▸ h
    | call hpc => exact pollHandler_reachable _ h
    | respond now hpc => exact (σ.respond_frame req now _ _ _ _ _).1.symm ▸ h
    | finish now sent hasMore throttled =>
        exact (σ.finish_frame heartbeatEvery now sent hasMore throttled).1.symm ▸ h
    | modify | takeWake | polled | leave => exact h
  · cases hstep
    exact h.apply op

end Operations

/-! ## The batch behind the cursor -/

/-- The treatment of the result of a catch-up sends a batch that starts right behind `c`. -/
def RawLoop.SendsFrom (σ τ : RawLoop) (c : Nat) : Prop :=
  ∃ result now store mark, τ.sent = .response result now store mark :: σ.sent ∧
    result.batch.events ≠ [] ∧ Consecutive Event.seq (c + 1) result.batch.events

/-- The treatment of a response sends a batch under the key that starts right behind `c`. -/
def Loop.SendsFrom (σ τ : Loop) (key : String) (c : Nat) : Prop :=
  ∃ resp store mark, τ.log = .response key resp store mark :: σ.log ∧
    events resp ≠ [] ∧ Consecutive GatewayEvent.seq (c + 1) (events resp)

/-- Without an in-flight limit nothing is held back. -/
theorem not_held_zero (m : Mark) (c : Nat) : ¬ m.Held 0 c := fun h => absurd h.1 (Nat.lt_irrefl 0)

/-- The raw loop sends the batch behind the cursor when it ends beyond the mark. -/
theorem RawLoop.sendsFrom_iff {σ : RawLoop} {req : SubscribeRequest} (hσ : Reachable σ.store.now)
    (hflight : req.maxInFlight = 0)
    (hold : ¬ replayTooOld (req.committed σ.store.now)
      (headIn σ.store.now req.streamId).retainedSeqStart = true)
    (hhead : req.committed σ.store.now < (headIn σ.store.now req.streamId).cursor.seq)
    (heartbeatEvery now : Int) {result : CatchUpResult} (hpoll : σ.poll req = .ok result) :
    σ.SendsFrom (σ.treat req heartbeatEvery now result) (req.committed σ.store.now) ↔
      σ.mark.delivered < min (req.committed σ.store.now + normalizeLimit req.batchLimit)
        (headIn σ.store.now req.streamId).cursor.seq := by
  have hstanding := poll_ok hσ hpoll
  have hok : result.status = .ok := hstanding.status.trans (if_neg hold)
  have htreat := treat_follow hσ hpoll heartbeatEvery now
  have hheld : ¬ σ.mark.Held req.maxInFlight (req.committed σ.store.now) := by
    rw [hflight]
    exact not_held_zero _ _
  rcases Mark.follow_behind (normalizeLimit_pos req.batchLimit) hheld hold hhead with
    ⟨hmark, m', hfollow⟩ | ⟨hmark, m', hfollow⟩
  · rw [hfollow] at htreat
    refine iff_of_true ?_ hmark
    obtain ⟨hcons, hlength, -⟩ := hstanding.batch hok
    have hpos := normalizeLimit_pos req.batchLimit
    have hhead' : σ.store.now.committed req.catchUp.subscriberID req.catchUp.streamID <
      (headIn σ.store.now req.catchUp.streamID).cursor.seq := hhead
    refine ⟨result, unixMS now, σ.store, σ.mark, by rw [htreat]; rfl, ?_, hcons⟩
    rw [← List.length_pos_iff, hlength]
    exact Nat.lt_min.mpr ⟨hpos, by omega⟩
  · rw [hfollow] at htreat
    refine iff_of_false ?_ hmark
    rintro ⟨result', time, store, mark, hsent, -⟩
    rw [htreat] at hsent
    simp only [hok, reduceCtorEq, if_false] at hsent
    unfold idle at hsent
    split_ifs at hsent
    · cases hsent
    · exact absurd hsent.symm (List.cons_ne_self _ _)

/-- The gateway loop sends the batch behind the cursor when it ends beyond the mark. -/
theorem Loop.sendsFrom_iff {σ : Loop} {req : GatewaySubscribeRequest} {subscriberID : SubscriberID}
    {s : Store} {p : SyncTarget × StreamBinding} (hflight : req.maxInFlightPerTarget = 0)
    (hold : ¬ replayTooOld (committedOf subscriberID p.2 s)
      (headIn s p.2.streamID).retainedSeqStart = true)
    (hhead : committedOf subscriberID p.2 s < (headIn s p.2.streamID).cursor.seq)
    {resp : GatewaySubscribeResponse}
    (hresp : Answered subscriberID req.batchLimitPerTarget s p resp) (now : Int)
    (rest : List GatewaySubscribeResponse) (sent hasMore throttled : Bool) :
    σ.SendsFrom (σ.respond req now resp rest sent hasMore throttled) (keyOf p.1 p.2)
        (committedOf subscriberID p.2 s) ↔
      (σ.mark (keyOf p.1 p.2)).delivered <
        min (committedOf subscriberID p.2 s + normalizeLimit req.batchLimitPerTarget)
          (headIn s p.2.streamID).cursor.seq := by
  have hjudge := judge_of_answered hresp σ
  have hheld : ¬ (σ.mark (keyOf p.1 p.2)).Held req.maxInFlightPerTarget
      (committedOf subscriberID p.2 s) := by
    rw [hflight]
    exact not_held_zero _ _
  unfold respond
  rcases Mark.follow_behind (normalizeLimit_pos req.batchLimitPerTarget) hheld hold hhead with
    ⟨hmark, m', hfollow⟩ | ⟨hmark, m', hfollow⟩
  · rw [hjudge, hfollow]
    refine iff_of_true ?_ hmark
    obtain ⟨result, hstanding, hstatus, hbatch⟩ := hresp.result
    have hok : result.status = .ok := hstanding.status.trans (if_neg hold)
    obtain ⟨hcons, hlength, -⟩ := hstanding.batch hok
    have hpos := normalizeLimit_pos req.batchLimitPerTarget
    have hevents : events resp =
        result.batch.events.map (gatewayEvent p.1 p.2.bindingKey) := by
      simp [events, hbatch hok, toGatewayBatch]
    refine ⟨{ resp with serverTimeUnixMs := unixMS now }, σ.store, σ.mark (responseKey resp),
      ?_, ?_, ?_⟩
    · rw [← hresp.key]
    · show events resp ≠ []
      have hhead' : s.committed subscriberID p.2.streamID <
        (headIn s p.2.streamID).cursor.seq := hhead
      rw [hevents, ← List.length_pos_iff, List.length_map, hlength]
      exact Nat.lt_min.mpr ⟨hpos, by simpa using hhead'⟩
    · show Consecutive GatewayEvent.seq _ (events resp)
      rw [hevents]
      exact Consecutive.map_iff.mpr hcons
  · rw [hjudge, hfollow]
    refine iff_of_false ?_ hmark
    rintro ⟨resp', store, mark, hlog, -⟩
    exact absurd hlog.symm (List.cons_ne_self _ _)

/-- The next poll of the raw loop, and what it sends. -/
theorem RawLoop.next_poll {σ : RawLoop} {req : SubscribeRequest} (hσ : Reachable σ.store.now)
    (hpc : σ.pc = .top) (hsub : req.subscriberId ≠ "") (hid : req.streamId ≠ "")
    (hflight : req.maxInFlight = 0)
    (hold : ¬ replayTooOld (req.committed σ.store.now)
      (headIn σ.store.now req.streamId).retainedSeqStart = true)
    (hhead : req.committed σ.store.now < (headIn σ.store.now req.streamId).cursor.seq)
    (heartbeatEvery now : Int) :
    ∃ result n, σ.poll req = .ok result ∧
      (rawLoop req heartbeatEvery).run (List.replicate n (.loop now)) σ =
        some (σ.treat req heartbeatEvery now result) ∧
      (σ.SendsFrom (σ.treat req heartbeatEvery now result) (req.committed σ.store.now) ↔
        σ.mark.delivered < min (req.committed σ.store.now + normalizeLimit req.batchLimit)
          (headIn σ.store.now req.streamId).cursor.seq) := by
  obtain ⟨result, hpoll⟩ := (poll_isOk_iff hσ).mpr ⟨hsub, hid⟩
  obtain ⟨n, hn⟩ := run_poll heartbeatEvery now hpc hpoll
  exact ⟨result, n, hpoll, hn, sendsFrom_iff hσ hflight hold hhead heartbeatEvery now hpoll⟩

/-- The next poll of the gateway loop up to the response for a binding, and what it sends then. -/
theorem Loop.next_poll {Actor : Type} {hooks : Hooks Actor} {actor : Actor}
    {req : GatewaySubscribeRequest} {subscriberID : SubscriberID} {σ : Loop}
    (hσ : Reachable σ.store.now) (hpc : σ.pc = .top)
    (hsub : resolveSubscriber hooks actor req.subscriberId = .ok subscriberID)
    {responses : List GatewaySubscribeResponse} (hpoll : σ.poll hooks actor req = .ok responses)
    {front back : List (SyncTarget × StreamBinding)} {p : SyncTarget × StreamBinding}
    (hsplit : boundIn hooks actor σ.sub.snapshot = front ++ p :: back)
    (hflight : req.maxInFlightPerTarget = 0)
    (hold : ¬ replayTooOld (committedOf subscriberID p.2 σ.store.now)
      (headIn σ.store.now p.2.streamID).retainedSeqStart = true)
    (hhead : committedOf subscriberID p.2 σ.store.now <
      (headIn σ.store.now p.2.streamID).cursor.seq)
    (U : Set SyncTarget) (heartbeatEvery now : Int) :
    ∃ n ρ resp rest sent hasMore throttled,
      (gatewayLoop hooks actor req U heartbeatEvery).run (List.replicate n (.loop now)) σ =
        some ρ ∧
      ρ.pc = .responding (resp :: rest) sent hasMore throttled ∧ rest.length = back.length ∧
      (ρ.SendsFrom (ρ.respond req now resp rest sent hasMore throttled) (keyOf p.1 p.2)
          (committedOf subscriberID p.2 σ.store.now) ↔
        (marksAfter req subscriberID σ.store.now front σ.mark (keyOf p.1 p.2)).delivered <
          min (committedOf subscriberID p.2 σ.store.now +
            normalizeLimit req.batchLimitPerTarget)
            (headIn σ.store.now p.2.streamID).cursor.seq) := by
  have hmem : ∀ q, q = p ∨ q ∈ front → q ∈ boundIn hooks actor σ.sub.snapshot := by
    intro q hq
    rw [hsplit, List.mem_append, List.mem_cons]
    exact hq.elim (fun h => .inr (.inl h)) .inl
  have hne : σ.sub.snapshot ≠ [] := by
    intro hnil
    simpa [hnil, boundIn] using hmem p (.inl rfl)
  obtain ⟨subscriberID', hsub', hanswered⟩ := poll_ok hσ hpoll
  obtain rfl := Except.ok.inj (hsub.symm.trans hsub')
  rw [hsplit] at hanswered
  obtain ⟨responses₁, resp, rest, rfl, hfront, hresp, hback⟩ := split_partner hanswered
  obtain ⟨n, hn⟩ := run_poll U heartbeatEvery now hpc hne hpoll
  obtain ⟨ρ, sent, hasMore, throttled, hrun, hresponding, -, hmarks⟩ :=
    run_responses (σ := { σ.pruneDeliveryState σ.sub.snapshot with
      pc := .responding (responses₁ ++ resp :: rest) false false false })
      hooks actor U heartbeatEvery now hfront rfl
  refine ⟨n + responses₁.length, ρ, resp, rest, sent, hasMore, throttled, ?_, hresponding,
    hback.length_eq.symm, ?_⟩
  · rw [List.replicate_add, Machine.run_append, hn]
    exact hrun
  · have hmark : ρ.mark (keyOf p.1 p.2) =
        marksAfter req subscriberID σ.store.now front σ.mark (keyOf p.1 p.2) := by
      rw [hmarks]
      refine marksAfter_congr req subscriberID σ.store.now ?_ ?_
      · exact fun q hq => mark_prune_of_mem (hmem q (.inr hq)) σ
      · exact mark_prune_of_mem (hmem p (.inl rfl)) σ
    rw [← hmark]
    exact sendsFrom_iff hflight hold hhead hresp now rest sent hasMore throttled

/-- **When a live stream follows a cursor that was moved back.** For any state at the top of either
loop, over a reachable store and without a bound on what may be in flight: for a binding that is not
behind the boundary and has events above the committed cursor, the next poll sends the batch behind
the cursor exactly when that batch ends beyond the delivered mark. In the gateway loop that is the
mark as the bindings polled before leave it, which is the one before the poll unless one of them is
delivered under the same key. -/
theorem follows_back_iff (heartbeatEvery now : Int) :
    (∀ (σ : RawLoop) (req : SubscribeRequest),
      Reachable σ.store.now → σ.pc = .top → req.subscriberId ≠ "" → req.streamId ≠ "" →
      req.maxInFlight = 0 →
      ¬ replayTooOld (req.committed σ.store.now)
        (headIn σ.store.now req.streamId).retainedSeqStart = true →
      req.committed σ.store.now < (headIn σ.store.now req.streamId).cursor.seq →
      ∃ result n, σ.poll req = .ok result ∧
        (rawLoop req heartbeatEvery).run (List.replicate n (.loop now)) σ =
          some (σ.treat req heartbeatEvery now result) ∧
        (σ.SendsFrom (σ.treat req heartbeatEvery now result) (req.committed σ.store.now) ↔
          σ.mark.delivered < min (req.committed σ.store.now + normalizeLimit req.batchLimit)
            (headIn σ.store.now req.streamId).cursor.seq)) ∧
    (∀ {Actor : Type} (hooks : Hooks Actor) (actor : Actor) (σ : Loop)
      (req : GatewaySubscribeRequest) (subscriberID : SubscriberID)
      (front back : List (SyncTarget × StreamBinding)) (p : SyncTarget × StreamBinding)
      (responses : List GatewaySubscribeResponse) (U : Set SyncTarget),
      Reachable σ.store.now → σ.pc = .top →
      resolveSubscriber hooks actor req.subscriberId = .ok subscriberID →
      σ.poll hooks actor req = .ok responses →
      boundIn hooks actor σ.sub.snapshot = front ++ p :: back →
      req.maxInFlightPerTarget = 0 →
      ¬ replayTooOld (committedOf subscriberID p.2 σ.store.now)
        (headIn σ.store.now p.2.streamID).retainedSeqStart = true →
      committedOf subscriberID p.2 σ.store.now <
        (headIn σ.store.now p.2.streamID).cursor.seq →
      ∃ n ρ resp rest sent hasMore throttled,
        (gatewayLoop hooks actor req U heartbeatEvery).run (List.replicate n (.loop now)) σ =
          some ρ ∧
        ρ.pc = .responding (resp :: rest) sent hasMore throttled ∧ rest.length = back.length ∧
        (ρ.SendsFrom (ρ.respond req now resp rest sent hasMore throttled) (keyOf p.1 p.2)
            (committedOf subscriberID p.2 σ.store.now) ↔
          (Loop.marksAfter req subscriberID σ.store.now front σ.mark (keyOf p.1 p.2)).delivered <
            min (committedOf subscriberID p.2 σ.store.now +
              normalizeLimit req.batchLimitPerTarget)
              (headIn σ.store.now p.2.streamID).cursor.seq)) := by
  constructor
  · intro σ req hσ hpc hsub hid hflight hold hhead
    exact RawLoop.next_poll hσ hpc hsub hid hflight hold hhead heartbeatEvery now
  · intro Actor hooks actor σ req subscriberID front back p responses U hσ hpc hsub hpoll hsplit
      hflight hold hhead
    exact Loop.next_poll hσ hpc hsub hpoll hsplit hflight hold hhead U heartbeatEvery now

/-! ## A cursor that is moved back and not followed -/

/-- Both events are delivered and acknowledged, and the loop has seen that. -/
def rawAcknowledged : List (RawLabel ⊕ Op) :=
  List.replicate 5 (.inl (.loop 0)) ++
    [.inr (.ack { subscriberID := "device", streamID := "s", seq := 2 }), .inl .resume] ++
    List.replicate 5 (.inl (.loop 0))

/-- Both events are delivered and acknowledged, and the loop has seen that. -/
def gatewayAcknowledged : List (LoopLabel {targetS} ⊕ Op) :=
  List.replicate 9 (.inl (.loop 0)) ++
    [.inr (.ack { subscriberID := "alice/device", streamID := "s", seq := 2 }), .inl .resume] ++
    List.replicate 9 (.inl (.loop 0))

/-- The cursor is reset to the beginning, or the stream is deleted and has a new first event: in
both loops the next poll sends nothing, though there are events above the cursor. -/
theorem moved_back_unsent :
    (∀ ops ∈ [[Op.resetCursor "device" "s" 0 ""],
        [.deleteStream "s", .append 0 { streamID := "s" }]],
      ∃ σ result, ((rawLoop deviceReq 1000000).beside RawLoop.operations).run
          (rawAcknowledged ++ ops.map .inr ++ [.inl .resume]) (.start twoEvents 0) = some σ ∧
        σ.pc = .top ∧ deviceReq.committed σ.store.now = 0 ∧
        (headIn σ.store.now "s").retainedSeqStart = 1 ∧
        0 < (headIn σ.store.now "s").cursor.seq ∧ σ.mark.delivered = 2 ∧
        σ.poll deviceReq = .ok result ∧
        (σ.treat deviceReq 1000000 0 result).sent = σ.sent) ∧
    (∀ ops ∈ [[Op.resetCursor "alice/device" "s" 0 ""],
        [.deleteStream "s", .append 0 { streamID := "s" }]],
      ∃ σ τ, ((gatewayLoop perActorHooks "alice" gatewayReq {targetS} 1000000).beside
          Loop.operations).run
          (gatewayAcknowledged ++ ops.map .inr ++ [.inl .resume]) (.start twoEvents gatewayReq 0) =
            some σ ∧
        σ.pc = .top ∧ committedOf "alice/device" bindingS σ.store.now = 0 ∧
        (headIn σ.store.now "s").retainedSeqStart = 1 ∧
        0 < (headIn σ.store.now "s").cursor.seq ∧
        (σ.mark (keyOf targetS bindingS)).delivered = 2 ∧
        (gatewayLoop perActorHooks "alice" gatewayReq {targetS} 1000000).run
          (List.replicate 9 (.loop 0)) σ = some τ ∧ τ.pc = .watching ∧ τ.log = σ.log) := by
  constructor
  · intro ops hops
    simp only [List.mem_cons, List.not_mem_nil, or_false] at hops
    rcases hops with rfl | rfl
    · exact ⟨_, _, rfl, rfl, rfl, rfl, by decide, rfl, rfl, rfl⟩
    · exact ⟨_, _, rfl, rfl, rfl, rfl, by decide, rfl, rfl, rfl⟩
  · intro ops hops
    simp only [List.mem_cons, List.not_mem_nil, or_false] at hops
    rcases hops with rfl | rfl
    · exact ⟨_, _, rfl, rfl, rfl, rfl, by decide, rfl, rfl, rfl, rfl⟩
    · exact ⟨_, _, rfl, rfl, rfl, rfl, by decide, rfl, rfl, rfl, rfl⟩

/-- After a reset to the beginning both loops send from there again. -/
theorem follows_back_iff_reset :
    (∃ σ result n, ((rawLoop deviceReq 1000000).beside RawLoop.operations).run
        (rawAcknowledged ++ [.inr (.resetCursor "device" "s" 0 ""), .inl .resume])
          (.start twoEvents 0) = some σ ∧
      (rawLoop deviceReq 1000000).run (List.replicate n (.loop 0)) σ =
        some (σ.treat deviceReq 1000000 0 result) ∧
      (σ.SendsFrom (σ.treat deviceReq 1000000 0 result) 0 ↔ 2 < min (0 + 100) 2)) ∧
    (∃ σ n ρ resp rest sent hasMore throttled,
      ((gatewayLoop perActorHooks "alice" gatewayReq {targetS} 1000000).beside
        Loop.operations).run
        (gatewayAcknowledged ++ [.inr (.resetCursor "alice/device" "s" 0 ""), .inl .resume])
          (.start twoEvents gatewayReq 0) = some σ ∧
      (gatewayLoop perActorHooks "alice" gatewayReq {targetS} 1000000).run
        (List.replicate n (.loop 0)) σ = some ρ ∧
      ρ.pc = .responding (resp :: rest) sent hasMore throttled ∧
      (ρ.SendsFrom (ρ.respond gatewayReq 0 resp rest sent hasMore throttled)
        (keyOf targetS bindingS) 0 ↔ 2 < min (0 + 100) 2)) := by
  constructor
  · obtain ⟨σ, hrun, hpc, hcommitted, hhead, hmark⟩ : ∃ σ,
        ((rawLoop deviceReq 1000000).beside RawLoop.operations).run
          (rawAcknowledged ++ [.inr (.resetCursor "device" "s" 0 ""), .inl .resume])
          (.start twoEvents 0) = some σ ∧ σ.pc = .top ∧ deviceReq.committed σ.store.now = 0 ∧
        headIn σ.store.now deviceReq.streamId =
          { cursor := { streamID := "s", seq := 2 }, retainedSeqStart := 1 } ∧
        σ.mark.delivered = 2 :=
      ⟨_, rfl, rfl, rfl, rfl, rfl⟩
    obtain ⟨result, n, -, hn, hiff⟩ := (follows_back_iff 1000000 0).1 σ deviceReq
      (RawLoop.reachable_run hrun twoEvents_reachable) hpc (by decide) (by decide) rfl
      (by rw [hcommitted, hhead]; decide) (by rw [hcommitted, hhead]; decide)
    rw [hcommitted, hmark, hhead] at hiff
    exact ⟨σ, result, n, hrun, hn, hiff⟩
  · obtain ⟨σ, responses, hrun, hpc, hpoll, hbound, hcommitted, hhead, hmark⟩ : ∃ σ responses,
        ((gatewayLoop perActorHooks "alice" gatewayReq {targetS} 1000000).beside
          Loop.operations).run
          (gatewayAcknowledged ++ [.inr (.resetCursor "alice/device" "s" 0 ""), .inl .resume])
            (.start twoEvents gatewayReq 0) = some σ ∧ σ.pc = .top ∧
        σ.poll perActorHooks "alice" gatewayReq = .ok responses ∧
        boundIn perActorHooks "alice" σ.sub.snapshot = [] ++ (targetS, bindingS) :: [] ∧
        committedOf "alice/device" bindingS σ.store.now = 0 ∧
        headIn σ.store.now bindingS.streamID =
          { cursor := { streamID := "s", seq := 2 }, retainedSeqStart := 1 } ∧
        (Loop.marksAfter gatewayReq "alice/device" σ.store.now [] σ.mark
          (keyOf targetS bindingS)).delivered = 2 :=
      ⟨_, _, rfl, rfl, rfl, rfl, rfl, rfl, rfl⟩
    obtain ⟨n, ρ, resp, rest, sent, hasMore, throttled, hn, hresponding, -, hiff⟩ :=
      (follows_back_iff 1000000 0).2 perActorHooks "alice" σ gatewayReq "alice/device" [] []
        (targetS, bindingS) responses {targetS}
        (Loop.reachable_run hrun twoEvents_reachable) hpc resolves_device hpoll hbound rfl
        (by rw [hcommitted, hhead]; decide) (by rw [hcommitted, hhead]; decide)
    rw [hcommitted, hmark, hhead] at hiff
    exact ⟨σ, n, ρ, resp, rest, sent, hasMore, throttled, hrun, hn, hresponding, hiff⟩

end Synclog.Transport
