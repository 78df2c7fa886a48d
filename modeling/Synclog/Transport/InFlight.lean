import Synclog.Transport.Guarantees

/-!
# How much is in flight

Both loops hold a binding back while at least `max_in_flight` delivered events are not acknowledged.
They look at this before the batch is sent, and the batch is cut by its own limit, so what is in
flight afterwards is bounded by the limit of a batch.

* `Fits` — what is known of an answer: its cursor was committed, and a batch of it lies behind a
  committed cursor and is no longer than a batch may be.
* `Loop.Knows` — what every run of the gateway loop keeps of such knowledge about responses.
* `in_flight_within_batch` — the bound for every frame with events, in every run of either loop.
-/

namespace Synclog.Transport

open Synclog.Lib Synclog.Core Synclog.Memory Synclog.Gateway
open Relation (ReflTransGen)

/-! ## What is known of an answer -/

/-- What is known of an answer that reports the cursor `cursorSeq`: it was committed, and a batch
that is not empty is `ok` and ends within `limit` events behind the committed cursor. -/
structure Fits (limit committed cursorSeq : Nat) (status : CatchUpStatus) (hasEvents : Bool)
    (seq : Nat) : Prop where
  cursor : cursorSeq ≤ committed
  ok : hasEvents = true → status = .ok
  seq : hasEvents = true → seq ≤ committed + limit

namespace Fits

variable {limit committed cursorSeq seq : Nat} {status : CatchUpStatus} {hasEvents : Bool}

/-- What fits stays within the limits when the committed cursor advances. -/
theorem mono (h : Fits limit committed cursorSeq status hasEvents seq) {committed' : Nat}
    (hle : committed ≤ committed') : Fits limit committed' cursorSeq status hasEvents seq where
  cursor := h.cursor.trans hle
  ok := h.ok
  seq hevents := (h.seq hevents).trans (Nat.add_le_add_right hle limit)

/-- **A delivery.** What such an answer leads to when it is sent with events: the binding was not
held back, and afterwards at most a batch is in flight. -/
theorem delivered (h : Fits limit committed cursorSeq status hasEvents seq) {m m' : Mark}
    {maxInFlight : Nat}
    (hstep : m.step maxInFlight cursorSeq status hasEvents seq = (.delivered, m')) :
    m'.delivered - committed ≤ limit ∧
      (0 < maxInFlight → m.delivered < cursorSeq + maxInFlight) := by
  obtain ⟨hevents, -, hheld, hmark⟩ := Mark.step_delivered hstep
  have hseq := h.seq hevents
  unfold Mark.Held at hheld
  exact ⟨by omega, fun hpos => by omega⟩

/-- An announcement is sent without events. -/
theorem announced (h : Fits limit committed cursorSeq status hasEvents seq) {m m' : Mark}
    {maxInFlight : Nat}
    (hstep : m.step maxInFlight cursorSeq status hasEvents seq = (.announced, m')) :
    hasEvents = false := by
  have hlong := Mark.step_announced hstep
  cases hasEvents with
  | false => rfl
  | true => cases hlong.symm.trans (h.ok rfl)

end Fits

/-! ## The raw loop -/

/-- What is known of the result of a catch-up. -/
def FitsResult (req : SubscribeRequest) (result : CatchUpResult) (store : Traced Store) : Prop :=
  Fits (normalizeLimit req.batchLimit) (req.committed store.now) result.cursor.seq result.status
    (!result.batch.events.isEmpty) result.batch.seq

/-- A result that fits does so while others go on. -/
theorem FitsResult.later {req : SubscribeRequest} {result : CatchUpResult} {σ τ : Traced Store}
    (hσ : Reachable σ.now) (hstep : EnvStep σ τ) (h : FitsResult req result σ) :
    FitsResult req result τ := by
  obtain ⟨-, -, hle⟩ := envSteps_later hσ (.single hstep)
  exact Fits.mono h (hle _ _)

/-- A catch-up that begins. -/
theorem reading_fitsResult (req : SubscribeRequest) {store : Traced Store}
    (h : Reachable store.now) :
    Reading (FitsResult req) store (Engine.catchUp req.catchUp).run := by
  refine ⟨Engine.catchUp_only_reads req.catchUp, ?_⟩
  intro r τ hexec
  refine ⟨exec_reachable hexec h, ?_⟩
  intro result hok
  obtain ⟨s₁, s₂, h₁, h₂, h₃, rfl⟩ := Memory.exec_catchUp hexec
  obtain ⟨hr₁, -, -⟩ := envSteps_later h h₁
  obtain ⟨hr₂, -, -⟩ := envSteps_later hr₁ h₂
  obtain ⟨hr₃, -, -⟩ := envSteps_later hr₂ h₃
  obtain ⟨-, -, hle⟩ := envSteps_later hr₁ (h₂.trans h₃)
  obtain ⟨hcursor, hbatch⟩ := catchUpOf_batch hr₂ hr₃ hok
  have hcommitted : req.committed s₁.now ≤ req.committed τ.now :=
    hle req.subscriberId req.streamId
  have hne : (!result.batch.events.isEmpty) = true → result.batch.events ≠ [] := by simp
  refine ⟨hcursor.trans_le hcommitted, fun hevents => ?_, fun hevents => ?_⟩
  · exact (catchUpOf_bounded hr₂ hr₃ hok (hne hevents)).1
  · obtain ⟨-, hseq⟩ := hbatch (hne hevents)
    have hlength : result.batch.events.length ≤ normalizeLimit req.batchLimit :=
      (catchUpOf_bounded hr₂ hr₃ hok (hne hevents)).2
    have hseq' : result.batch.seq = req.committed s₁.now + result.batch.events.length := hseq
    omega

namespace RawLoop

variable {req : SubscribeRequest} {heartbeatEvery : Int}

/-- The treatment of a result sends that result, and what the marks say of it. -/
theorem treat_sends {σ : RawLoop} {now time : Int} {result result' : CatchUpResult}
    {store : Traced Store} {mark : Mark}
    (h : (σ.treat req heartbeatEvery now result).sent =
      .response result' time store mark :: σ.sent) :
    result' = result ∧ ∃ outcome,
      σ.mark.step req.maxInFlight result.cursor.seq result.status (!result.batch.events.isEmpty)
        result.batch.seq = (outcome, (σ.treat req heartbeatEvery now result).mark) ∧
      (outcome = .announced ∨ outcome = .delivered) := by
  have hnothing : ∀ {sent : List RawSent} {frame : RawSent}, sent ≠ frame :: sent :=
    fun {_ _} => (List.cons_ne_self _ _).symm
  unfold treat at h ⊢
  rcases hstep : σ.mark.step req.maxInFlight result.cursor.seq result.status
    (!result.batch.events.isEmpty) result.batch.seq with ⟨outcome, mark'⟩
  rw [hstep] at h
  rcases outcome
  · exact absurd h hnothing
  · simp only [idle, send] at h
    split_ifs at h
    · exact absurd h hnothing
    · simp at h
    · exact absurd h hnothing
  · simp only [send, List.cons.injEq, RawSent.response.injEq] at h
    exact ⟨h.1.1.symm, _, rfl, .inl rfl⟩
  · simp only [send, List.cons.injEq, RawSent.response.injEq] at h
    exact ⟨h.1.1.symm, _, rfl, .inr rfl⟩

/-- A frame is sent by the treatment of a result only. -/
theorem step_sends {σ τ : RawLoop} {l : RawLabel} {result : CatchUpResult} {time : Int}
    {store : Traced Store} {mark : Mark}
    (hstep : (rawLoop req heartbeatEvery).step l σ = some τ)
    (h : τ.sent = .response result time store mark :: σ.sent) :
    ∃ now, σ.pc = .catchingUp (.ret (.ok result)) ∧
      τ = σ.treat req heartbeatEvery now result := by
  cases rawLoop_cases hstep with
  | treat now hpc =>
      obtain ⟨rfl, -⟩ := treat_sends h
      exact ⟨now, hpc, rfl⟩
  | env | begin | call | leave => exact absurd h.symm (List.cons_ne_self _ _)

end RawLoop

/-! ## The gateway loop -/

section Gateway

variable {Actor : Type} (hooks : Hooks Actor) (actor : Actor) (subscriberID : SubscriberID)
  (U : Set SyncTarget)

/-- What is known of a response. -/
def FitsResponse (limit : Nat) (resp : GatewaySubscribeResponse) (store : Traced Store) : Prop :=
  ∃ b state, Bound hooks actor U state.target b ∧ resp.state = some state ∧
    resp.bindingKey = b.bindingKey ∧
    Fits limit (committedOf subscriberID b store.now) (bindingCursorSeq state resp.bindingKey)
      resp.status (!(events resp).isEmpty) (batchSeq resp)

variable {hooks actor subscriberID U}

/-- It stays so when others perform operations. -/
theorem FitsResponse.later {limit : Nat} {resp : GatewaySubscribeResponse} {σ τ : Traced Store}
    (hσ : Reachable σ.now) (hstep : EnvStep σ τ)
    (h : FitsResponse hooks actor subscriberID U limit resp σ) :
    FitsResponse hooks actor subscriberID U limit resp τ := by
  obtain ⟨-, -, hle⟩ := envSteps_later hσ (.single hstep)
  obtain ⟨b, state, hbound, hstate, hkey, hfits⟩ := h
  exact ⟨b, state, hbound, hstate, hkey, hfits.mono (hle _ _)⟩

/-- The response for a polled result. -/
theorem FitsResponse.of_polled {σ τ : Traced Store} (hσ : Reachable σ.now) {limit totalLimit : Int}
    {target : SyncTarget} {b : StreamBinding} {result : GatewayCatchUpResult} (htarget : target ∈ U)
    (h : Polled (Traced.cell Store) EnvStep hooks actor subscriberID limit totalLimit .subscribe σ τ
      target b result) :
    FitsResponse hooks actor subscriberID U (normalizeLimit limit) (toSubscribeResponse result)
      τ := by
  obtain ⟨state, u, rfl, hresp⟩ := response_of_polled hσ h
  have hne : (!(events (toSubscribeResponse result)).isEmpty) = true →
      events (toSubscribeResponse result) ≠ [] := by simp
  refine ⟨b, state, bound_of_polled htarget h, hresp.withState, hresp.binding,
    hresp.cursor.trans hresp.committed, fun hfull => (hresp.run (hne hfull)).1, ?_⟩
  intro hfull
  obtain ⟨-, hlength, -, hlast⟩ := hresp.run (hne hfull)
  have hcommitted := hresp.committed
  omega

/-- A poll of targets of `U` that begins. -/
theorem reading_fitsResponse (req : GatewaySubscribeRequest)
    (hsub : resolveSubscriber hooks actor req.subscriberId = .ok subscriberID)
    (htargets : ∀ target ∈ req.targets, target ∈ U) {store : Traced Store}
    (h : Reachable store.now) :
    Reading (fun responses τ => ∀ resp ∈ responses,
        FitsResponse hooks actor subscriberID U (normalizeLimit req.batchLimitPerTarget) resp τ)
      store (gatewaySubscribePoll hooks actor req).run :=
  reading_of_each_polled hsub h fun _ target htarget _ _ hpoll =>
    .of_polled h (htargets target htarget) hpoll

namespace Loop

variable (U) in
/-- The store can be reached, the targets are within `U`, and of every response that the poll under
way will have, or that waits for its treatment, `Q` holds. -/
structure Knows (Q : GatewaySubscribeResponse → Traced Store → Prop) (σ : Loop) : Prop where
  reachable : Reachable σ.store.now
  targets : ∀ target ∈ σ.sub.snapshot, target ∈ U
  polling : ∀ p, σ.pc = .polling p →
    Reading (fun responses τ => ∀ resp ∈ responses, Q resp τ) σ.store p
  responding : ∀ rest sent hasMore throttled, σ.pc = .responding rest sent hasMore throttled →
    ∀ resp ∈ rest, Q resp σ.store

variable {Q : GatewaySubscribeResponse → Traced Store → Prop} {req : GatewaySubscribeRequest}
  {heartbeatEvery : Int} {σ τ : Loop}

/-- At the start nothing was polled. -/
theorem knows_start {s : Store} (hs : Reachable s) (htargets : ∀ target ∈ req.targets, target ∈ U)
    (now : Int) : Knows U Q (.start s req now) where
  reachable := hs
  targets target htarget := htargets target (LiveSub.mem_snapshot_new htarget)
  polling p hpc := by cases hpc
  responding _ _ _ _ hpc := by cases hpc

/-- What one step keeps of the knowledge about responses: it holds of those of every poll that
begins, and operations of other parties keep it. -/
theorem knows_step
    (hbegin : ∀ targets store, (∀ target ∈ targets, target ∈ U) → Reachable store.now →
      Reading (fun responses τ => ∀ resp ∈ responses, Q resp τ) store
        (gatewaySubscribePoll hooks actor { req with targets }).run)
    (hlater : ∀ resp σ τ, Reachable σ.now → EnvStep σ τ → Q resp σ → Q resp τ)
    (l : LoopLabel U) (σ τ : Loop)
    (hstep : (gatewayLoop hooks actor req U heartbeatEvery).step l σ = some τ)
    (h : Knows U Q σ) : Knows U Q τ := by
  have hexpects : Expects Q τ := Expects.step (fun hreach => hbegin _ _ h.targets hreach) hlater
    hstep ⟨h.reachable, h.polling, h.responding⟩
  exact ⟨hexpects.reachable, targets_step hstep h.targets, hexpects.polling, hexpects.responding⟩

/-- A run from a reachable store. -/
theorem knows_run
    (hbegin : ∀ targets store, (∀ target ∈ targets, target ∈ U) → Reachable store.now →
      Reading (fun responses τ => ∀ resp ∈ responses, Q resp τ) store
        (gatewaySubscribePoll hooks actor { req with targets }).run)
    (hlater : ∀ resp σ τ, Reachable σ.now → EnvStep σ τ → Q resp σ → Q resp τ)
    (htargets : ∀ target ∈ req.targets, target ∈ U) {ls : List (LoopLabel U)} {s : Store}
    {now : Int} (hs : Reachable s)
    (hrun : (gatewayLoop hooks actor req U heartbeatEvery).run ls (.start s req now) = some σ) :
    Knows U Q σ :=
  Machine.run_invariant (knows_step hbegin hlater) hrun (knows_start hs htargets now)

/-- A step that sends a response leads to a log with one response more. -/
theorem responses_ne {key : String} {resp : GatewaySubscribeResponse} {store : Traced Store}
    {mark : Mark} (h : τ.log = .response key resp store mark :: σ.log) :
    τ.log.filter LoopEvent.isResponse ≠ σ.log.filter LoopEvent.isResponse := by
  rw [h, List.filter_cons_of_pos rfl]
  exact List.cons_ne_self _ _

/-- The treatment of a response sends that response under its key, and what the marks say of it. -/
theorem respond_sends {now : Int} {resp resp' : GatewaySubscribeResponse}
    {rest : List GatewaySubscribeResponse} {sent hasMore throttled : Bool} {key : String}
    {store : Traced Store} {mark : Mark}
    (h : (σ.respond req now resp rest sent hasMore throttled).log =
      .response key resp' store mark :: σ.log) :
    key = responseKey resp ∧ resp' = { resp with serverTimeUnixMs := unixMS now } ∧
      ∃ outcome, σ.judge req resp =
          (outcome, (σ.respond req now resp rest sent hasMore throttled).mark key) ∧
        (outcome = .announced ∨ outcome = .delivered) := by
  obtain ⟨-, -, -, hmark, -⟩ := σ.respond_frame req now resp rest sent hasMore throttled
  have hkey : key = responseKey resp ∧ resp' = { resp with serverTimeUnixMs := unixMS now } ∧
      ((σ.judge req resp).1 = .announced ∨ (σ.judge req resp).1 = .delivered) := by
    unfold respond at h
    rcases hjudge : σ.judge req resp with ⟨outcome, m⟩
    rw [hjudge] at h
    rcases outcome
    · exact absurd h.symm (List.cons_ne_self _ _)
    · exact absurd h.symm (List.cons_ne_self _ _)
    · simp only [List.cons.injEq, LoopEvent.response.injEq] at h
      exact ⟨h.1.1.symm, h.1.2.1.symm, .inl rfl⟩
    · simp only [List.cons.injEq, LoopEvent.response.injEq] at h
      exact ⟨h.1.1.symm, h.1.2.1.symm, .inr rfl⟩
  obtain ⟨rfl, hresp, houtcome⟩ := hkey
  refine ⟨rfl, hresp, _, ?_, houtcome⟩
  rw [hmark, Function.update_self]

/-- A response is sent by the treatment of a response only. -/
theorem step_sends {l : LoopLabel U} {key : String} {resp : GatewaySubscribeResponse}
    {store : Traced Store} {mark : Mark}
    (hstep : (gatewayLoop hooks actor req U heartbeatEvery).step l σ = some τ)
    (h : τ.log = .response key resp store mark :: σ.log) :
    ∃ now resp' rest sent hasMore throttled,
      σ.pc = .responding (resp' :: rest) sent hasMore throttled ∧
        τ = σ.respond req now resp' rest sent hasMore throttled := by
  have hne := responses_ne h
  cases gatewayLoop_cases hstep with
  | @respond now resp' rest sent hasMore throttled hpc =>
      exact ⟨now, resp', rest, sent, hasMore, throttled, hpc, rfl⟩
  | begin now => exact absurd (σ.begin_responses hooks actor req heartbeatEvery now) hne
  | finish now sent hasMore throttled =>
      exact absurd (σ.finish_responses heartbeatEvery now sent hasMore throttled) hne
  | env | modify | takeWake | call | polled | leave => exact absurd rfl hne

end Loop

end Gateway

/-! ## The bound -/

/-- **How much is in flight.** In every run of either loop, right after a frame with events is sent:
the frame is for a binding, and its cursor was committed; the events of the binding delivered and
not acknowledged are at most as many as a batch may have, and, with a positive budget, before the
frame they were fewer than the budget, counted from the cursor in the frame. -/
theorem in_flight_within_batch {s : Store} (hs : Reachable s) (heartbeatEvery now : Int) :
    (∀ {Actor : Type} {hooks : Hooks Actor} {actor : Actor} {req : GatewaySubscribeRequest}
      {subscriberID : SubscriberID} {U : Set SyncTarget} {ls : List (LoopLabel U)}
      {l : LoopLabel U} {σ τ : Loop} {key : String} {resp : GatewaySubscribeResponse}
      {store : Traced Store} {mark : Mark},
      resolveSubscriber hooks actor req.subscriberId = .ok subscriberID →
      (∀ target ∈ req.targets, target ∈ U) →
      (gatewayLoop hooks actor req U heartbeatEvery).run ls (.start s req now) = some σ →
      (gatewayLoop hooks actor req U heartbeatEvery).step l σ = some τ →
      τ.log = .response key resp store mark :: σ.log → events resp ≠ [] →
      ∃ b state, Bound hooks actor U state.target b ∧ resp.state = some state ∧
        resp.bindingKey = b.bindingKey ∧ key = keyOf state.target b ∧
        bindingCursorSeq state resp.bindingKey ≤ committedOf subscriberID b τ.store.now ∧
        (τ.mark key).delivered - committedOf subscriberID b τ.store.now ≤
          normalizeLimit req.batchLimitPerTarget ∧
        (0 < req.maxInFlightPerTarget →
          (σ.mark key).delivered <
            bindingCursorSeq state resp.bindingKey + req.maxInFlightPerTarget)) ∧
    (∀ {req : SubscribeRequest} {ls : List RawLabel} {l : RawLabel} {σ τ : RawLoop}
      {result : CatchUpResult} {time : Int} {store : Traced Store} {mark : Mark},
      (rawLoop req heartbeatEvery).run ls (.start s now) = some σ →
      (rawLoop req heartbeatEvery).step l σ = some τ →
      τ.sent = .response result time store mark :: σ.sent → result.batch.events ≠ [] →
      result.cursor.seq ≤ req.committed τ.store.now ∧
        τ.mark.delivered - req.committed τ.store.now ≤ normalizeLimit req.batchLimit ∧
        (0 < req.maxInFlight → σ.mark.delivered < result.cursor.seq + req.maxInFlight)) := by
  constructor
  · intro Actor hooks actor req subscriberID U ls l σ τ key resp store mark hsub htargets hrun
      hstep hlog hne
    have hknows := Loop.knows_run
      (Q := FitsResponse hooks actor subscriberID U (normalizeLimit req.batchLimitPerTarget))
      (fun targets store htargets hstore =>
        reading_fitsResponse { req with targets } hsub htargets hstore)
      (fun resp σ τ => FitsResponse.later) htargets hs hrun
    obtain ⟨time, resp', rest, sent, hasMore, throttled, hpc, rfl⟩ := Loop.step_sends hstep hlog
    obtain ⟨rfl, rfl, outcome, hjudge, houtcome⟩ := Loop.respond_sends hlog
    obtain ⟨b, state, hbound, hstate, hkey, hfits⟩ :=
      hknows.responding _ _ _ _ hpc resp' List.mem_cons_self
    obtain ⟨hstore, -⟩ := σ.respond_frame req time resp' rest sent hasMore throttled
    unfold Loop.judge at hjudge
    simp only [hstate] at hjudge
    rcases houtcome with rfl | rfl
    · have hempty : events resp' = [] := by simpa using hfits.announced hjudge
      exact absurd hempty hne
    · obtain ⟨hafter, hbefore⟩ := hfits.delivered hjudge
      rw [hstore]
      exact ⟨b, state, hbound, hstate, hkey, responseKey_eq hstate hkey, hfits.cursor, hafter,
        hbefore⟩
  · intro req ls l σ τ result time store mark hrun hstep hsent hne
    have hknows := RawLoop.knows_run (Q := FitsResult req) (fun _ => reading_fitsResult req)
      (fun _ _ _ => FitsResult.later) hs hrun
    obtain ⟨time', hpc, rfl⟩ := RawLoop.step_sends hstep hsent
    obtain ⟨-, outcome, hmark, houtcome⟩ := RawLoop.treat_sends hsent
    have hfits : FitsResult req result σ.store := (hknows.catchingUp _ hpc).ret
    obtain ⟨hstore, -⟩ := σ.treat_frame req heartbeatEvery time' result
    rcases houtcome with rfl | rfl
    · have hempty : result.batch.events = [] := by simpa using Fits.announced hfits hmark
      exact absurd hempty hne
    · obtain ⟨hafter, hbefore⟩ := Fits.delivered hfits hmark
      rw [hstore]
      exact ⟨hfits.cursor, hafter, hbefore⟩

/-- The subscriber of the gateway stream, with room for one event. -/
def gatewayOne : GatewaySubscribeRequest :=
  { gatewayReq with maxInFlightPerTarget := 1, batchLimitPerTarget := 2 }

/-- The subscriber of the raw stream, with room for one event. -/
def deviceOne : SubscribeRequest :=
  { deviceReq with maxInFlight := 1, batchLimit := 2 }

/-- The steps of the gateway loop up to the treatment of its first response. -/
def gatewayPoll : List (LoopLabel {targetS}) := List.replicate 7 (.loop 0)

/-- The steps of the raw loop up to the treatment of its first result. -/
def rawPoll : List RawLabel := List.replicate 4 (.loop 0)

/-- One event is sent at a time. -/
theorem in_flight_within_batch_one :
    (∃ σ τ resp store mark state b,
      (gatewayLoop perActorHooks "alice" gatewayOne {targetS} 1000000).run gatewayPoll
        (.start twoEvents gatewayOne 0) = some σ ∧
      (gatewayLoop perActorHooks "alice" gatewayOne {targetS} 1000000).step (.loop 0) σ = some τ ∧
      τ.log = .response "n/s/#default" resp store mark :: σ.log ∧
      Bound perActorHooks "alice" {targetS} state.target b ∧ resp.state = some state ∧
      "n/s/#default" = keyOf state.target b ∧
      bindingCursorSeq state resp.bindingKey ≤ committedOf "alice/device" b τ.store.now ∧
      (τ.mark "n/s/#default").delivered - committedOf "alice/device" b τ.store.now ≤ 2 ∧
      (0 < 1 →
        (σ.mark "n/s/#default").delivered < bindingCursorSeq state resp.bindingKey + 1)) ∧
    (∃ σ τ result time store mark,
      (rawLoop deviceOne 1000000).run rawPoll (.start twoEvents 0) = some σ ∧
      (rawLoop deviceOne 1000000).step (.loop 0) σ = some τ ∧
      τ.sent = .response result time store mark :: σ.sent ∧
      result.cursor.seq ≤ deviceOne.committed τ.store.now ∧
      τ.mark.delivered - deviceOne.committed τ.store.now ≤ 2 ∧
      (0 < 1 → σ.mark.delivered < result.cursor.seq + 1)) := by
  constructor
  · obtain ⟨σ, τ, resp, store, mark, hrun, hstep, hlog, hne⟩ : ∃ σ τ resp store mark,
        (gatewayLoop perActorHooks "alice" gatewayOne {targetS} 1000000).run gatewayPoll
          (.start twoEvents gatewayOne 0) = some σ ∧
        (gatewayLoop perActorHooks "alice" gatewayOne {targetS} 1000000).step (.loop 0) σ =
          some τ ∧
        τ.log = .response "n/s/#default" resp store mark :: σ.log ∧ events resp ≠ [] :=
      ⟨_, _, _, _, _, rfl, rfl, rfl, by decide⟩
    have hresolve : resolveSubscriber perActorHooks "alice" gatewayOne.subscriberId =
        .ok "alice/device" := resolves_device
    obtain ⟨b, state, hbound, hstate, -, hkey, hcursor, hafter, hbefore⟩ :=
      (in_flight_within_batch twoEvents_reachable 1000000 0).1 hresolve
        (by simp [gatewayOne, gatewayReq]) hrun hstep hlog hne
    exact ⟨σ, τ, resp, store, mark, state, b, hrun, hstep, hlog, hbound, hstate, hkey, hcursor,
      hafter, hbefore⟩
  · obtain ⟨σ, τ, result, time, store, mark, hrun, hstep, hsent, hne⟩ :
        ∃ σ τ result time store mark,
          (rawLoop deviceOne 1000000).run rawPoll (.start twoEvents 0) = some σ ∧
          (rawLoop deviceOne 1000000).step (.loop 0) σ = some τ ∧
          τ.sent = .response result time store mark :: σ.sent ∧ result.batch.events ≠ [] :=
      ⟨_, _, _, _, _, _, rfl, rfl, rfl, by decide⟩
    obtain ⟨hcursor, hafter, hbefore⟩ :=
      (in_flight_within_batch twoEvents_reachable 1000000 0).2 hrun hstep hsent hne
    exact ⟨σ, τ, result, time, store, mark, hrun, hstep, hsent, hcursor, hafter, hbefore⟩

/-- With room for one event a batch of two is sent, and both are in flight. -/
theorem two_in_flight :
    Reachable twoEvents ∧
    (∃ σ τ resp store mark,
      (gatewayLoop perActorHooks "alice" gatewayOne {targetS} 1000000).run gatewayPoll
        (.start twoEvents gatewayOne 0) = some σ ∧
      (gatewayLoop perActorHooks "alice" gatewayOne {targetS} 1000000).step (.loop 0) σ = some τ ∧
      τ.log = .response (keyOf targetS bindingS) resp store mark :: σ.log ∧ events resp ≠ [] ∧
      gatewayOne.maxInFlightPerTarget = 1 ∧
      (τ.mark (keyOf targetS bindingS)).delivered -
        committedOf "alice/device" bindingS τ.store.now = 2) ∧
    (∃ σ τ result time store mark,
      (rawLoop deviceOne 1000000).run rawPoll (.start twoEvents 0) = some σ ∧
      (rawLoop deviceOne 1000000).step (.loop 0) σ = some τ ∧
      τ.sent = .response result time store mark :: σ.sent ∧ result.batch.events ≠ [] ∧
      deviceOne.maxInFlight = 1 ∧
      τ.mark.delivered - deviceOne.committed τ.store.now = 2) := by
  refine ⟨twoEvents_reachable, ?_, ?_⟩
  · exact ⟨_, _, _, _, _, rfl, rfl, rfl, by decide, rfl, rfl⟩
  · exact ⟨_, _, _, _, _, _, rfl, rfl, rfl, by decide, rfl, rfl⟩

end Synclog.Transport
