import Synclog.Transport.InFlight

/-!
# Backpressure and `TOO_LONG`

Both loops ask what is in flight before they look at the status of an answer, and they remember an
announcement until the cursor in an answer has reached the delivered mark. So an answer that reports
`TOO_LONG` can be passed over; `Mark.Clear` says when neither happens.

* `RawLoop.Surfaces`, `Loop.Surfaces` — what a step makes of a `TOO_LONG` that was not announced
  since the committed cursor advanced last: it sends a frame.
* `too_long_surfaces_iff` — the runs in which every `TOO_LONG` surfaces; `too_long_hidden` has both
  ways in which one does not.
* `first_too_long_surfaces` — only backpressure can hide the first one.
-/

namespace Synclog.Transport

open Synclog.Lib Synclog.Core Synclog.Memory Synclog.Gateway

/-! ## The raw loop -/

namespace RawLoop

/-- The catch-up of the iteration under way has reported `TOO_LONG`. -/
def Reports (σ : RawLoop) (result : CatchUpResult) : Prop :=
  σ.pc = .catchingUp (.ret (.ok result)) ∧ result.status = .tooLong

/-- No `TOO_LONG` frame was sent since the committed cursor advanced last. -/
def Unannounced (σ : RawLoop) (req : SubscribeRequest) : Prop :=
  ∀ f ∈ σ.frames req, f.IsTooLong → f.committed < req.committed σ.store.now

instance (σ : RawLoop) (req : SubscribeRequest) : Decidable (σ.Unannounced req) :=
  inferInstanceAs (Decidable (∀ f ∈ σ.frames req, f.IsTooLong →
    f.committed < req.committed σ.store.now))

variable (req : SubscribeRequest) (heartbeatEvery : Int)

/-- The treatment of a `TOO_LONG` that was not announced sends it. -/
def Surfaces (l : RawLabel) (σ : RawLoop) : Prop :=
  ∀ now result, l = .loop now → σ.Reports result → σ.Unannounced req →
    ∃ τ, (rawLoop req heartbeatEvery).step l σ = some τ ∧
      τ.sent = .response result (unixMS now) σ.store σ.mark :: σ.sent

/-- Wherever a `TOO_LONG` that was not announced is treated, the mark is clear. -/
def ClearsTooLong (l : RawLabel) (σ : RawLoop) : Prop :=
  ∀ now result, l = .loop now → σ.Reports result → σ.Unannounced req →
    σ.mark.Clear req.maxInFlight result.cursor.seq

variable {req heartbeatEvery}

/-- The treatment of a `TOO_LONG` sends it where the mark is clear. -/
theorem treat_tooLong_iff {σ : RawLoop} {now : Int} {result : CatchUpResult}
    (hstatus : result.status = .tooLong) :
    (σ.treat req heartbeatEvery now result).sent =
        .response result (unixMS now) σ.store σ.mark :: σ.sent ↔
      σ.mark.Clear req.maxInFlight result.cursor.seq := by
  rw [← Mark.step_announced_iff (!result.batch.events.isEmpty) result.batch.seq, ← hstatus]
  constructor
  · intro hsent
    obtain ⟨-, outcome, hstep, houtcome⟩ := treat_sends hsent
    rcases houtcome with rfl | rfl
    · rw [hstep]
    · exact absurd hstatus (Mark.step_delivered hstep).2.1
  · intro hannounced
    unfold treat
    rcases hstep : σ.mark.step req.maxInFlight result.cursor.seq result.status
      (!result.batch.events.isEmpty) result.batch.seq with ⟨outcome, mark⟩
    rw [hstep] at hannounced
    simp only at hannounced
    rw [hannounced]
    rfl

/-- The step that treats it. -/
theorem Reports.step {σ : RawLoop} {result : CatchUpResult} (h : σ.Reports result) (now : Int) :
    (rawLoop req heartbeatEvery).step (.loop now) σ =
      some (σ.treat req heartbeatEvery now result) := by
  unfold rawLoop
  simp only [h.1]

/-- One step. -/
theorem surfaces_iff (l : RawLabel) (σ : RawLoop) :
    Surfaces req heartbeatEvery l σ ↔ ClearsTooLong req l σ := by
  constructor
  · rintro h now result rfl hreports hnew
    obtain ⟨τ, hτ, hsent⟩ := h now result rfl hreports hnew
    rw [hreports.step now] at hτ
    cases hτ
    exact (treat_tooLong_iff hreports.2).mp hsent
  · rintro h now result rfl hreports hnew
    exact ⟨_, hreports.step now,
      (treat_tooLong_iff hreports.2).mpr (h now result rfl hreports hnew)⟩

end RawLoop

/-! ## The gateway loop -/

/-- The response is about the binding. -/
def Concerns (resp : GatewaySubscribeResponse) (target : SyncTarget) (b : StreamBinding) : Prop :=
  resp.bindingKey = b.bindingKey ∧ resp.state.map TargetState.target = some target

instance (resp : GatewaySubscribeResponse) (target : SyncTarget) (b : StreamBinding) :
    Decidable (Concerns resp target b) :=
  inferInstanceAs (Decidable (_ ∧ _))

/-- The committed cursor at which `TOO_LONG` was sent for the binding, when this was done. -/
def LoopEvent.announcedAt? (committed : Store → Nat) (target : SyncTarget) (b : StreamBinding) :
    LoopEvent → Option Nat
  | .response _ resp store _ =>
    if Concerns resp target b ∧ resp.status = .tooLong then some (committed store.now) else none
  | .heartbeat _ | .dropped _ => none

namespace Loop

/-- The poll of the iteration under way has reported `TOO_LONG`, and this is treated next. -/
def Reports (σ : Loop) (resp : GatewaySubscribeResponse) : Prop :=
  (∃ rest sent hasMore throttled, σ.pc = .responding (resp :: rest) sent hasMore throttled) ∧
    resp.status = .tooLong

/-- No `TOO_LONG` frame was sent for the binding since its committed cursor advanced last. -/
def Unannounced (σ : Loop) (subscriberID : SubscriberID) (target : SyncTarget)
    (b : StreamBinding) : Prop :=
  ∀ c ∈ σ.log.filterMap (LoopEvent.announcedAt? (committedOf subscriberID b) target b),
    c < committedOf subscriberID b σ.store.now

instance (σ : Loop) (subscriberID : SubscriberID) (target : SyncTarget) (b : StreamBinding) :
    Decidable (σ.Unannounced subscriberID target b) :=
  inferInstanceAs (Decidable (∀ c ∈ σ.log.filterMap _, c < committedOf subscriberID b σ.store.now))

section Surfaces

variable {Actor : Type} (hooks : Hooks Actor) (actor : Actor) (req : GatewaySubscribeRequest)
  (subscriberID : SubscriberID) (U : Set SyncTarget) (heartbeatEvery : Int)

/-- The treatment of a `TOO_LONG` that was not announced for its binding sends it. -/
def Surfaces (l : LoopLabel U) (σ : Loop) : Prop :=
  ∀ now resp target b, l = .loop now → σ.Reports resp → Bound hooks actor U target b →
    Concerns resp target b → σ.Unannounced subscriberID target b →
    ∃ τ, (gatewayLoop hooks actor req U heartbeatEvery).step l σ = some τ ∧
      τ.log = .response (responseKey resp) { resp with serverTimeUnixMs := unixMS now } σ.store
        (σ.mark (responseKey resp)) :: σ.log

/-- Wherever a `TOO_LONG` that was not announced for its binding is treated, the mark of its key is
clear. -/
def ClearsTooLong (l : LoopLabel U) (σ : Loop) : Prop :=
  ∀ now resp target b state, l = .loop now → σ.Reports resp → Bound hooks actor U target b →
    Concerns resp target b → σ.Unannounced subscriberID target b → resp.state = some state →
    (σ.mark (responseKey resp)).Clear req.maxInFlightPerTarget
      (bindingCursorSeq state resp.bindingKey)

end Surfaces

variable {Actor : Type} {hooks : Hooks Actor} {actor : Actor} {req : GatewaySubscribeRequest}
  {subscriberID : SubscriberID} {U : Set SyncTarget} {heartbeatEvery : Int}

/-- The treatment of a `TOO_LONG` sends it where the mark of its key is clear. -/
theorem respond_tooLong_iff {σ : Loop} {now : Int} {resp : GatewaySubscribeResponse}
    {rest : List GatewaySubscribeResponse} {sent hasMore throttled : Bool} {state : TargetState}
    (hstate : resp.state = some state) (hstatus : resp.status = .tooLong) :
    (σ.respond req now resp rest sent hasMore throttled).log =
        .response (responseKey resp) { resp with serverTimeUnixMs := unixMS now } σ.store
          (σ.mark (responseKey resp)) :: σ.log ↔
      (σ.mark (responseKey resp)).Clear req.maxInFlightPerTarget
        (bindingCursorSeq state resp.bindingKey) := by
  have hjudge : σ.judge req resp = (σ.mark (responseKey resp)).step req.maxInFlightPerTarget
      (bindingCursorSeq state resp.bindingKey) .tooLong (!(events resp).isEmpty)
        (batchSeq resp) := by
    unfold judge
    simp only [hstate, hstatus]
  rw [← Mark.step_announced_iff (!(events resp).isEmpty) (batchSeq resp), ← hjudge]
  constructor
  · intro hsent
    obtain ⟨-, -, outcome, hstep, houtcome⟩ := respond_sends hsent
    rcases houtcome with rfl | rfl
    · rw [hstep]
    · exact absurd rfl (Mark.step_delivered (hjudge.symm.trans hstep)).2.1
  · intro hannounced
    unfold respond
    rcases hstep : σ.judge req resp with ⟨outcome, mark⟩
    rw [hstep] at hannounced
    simp only at hannounced
    rw [hannounced]

/-- The step that treats it. -/
theorem Reports.step {σ : Loop} {resp : GatewaySubscribeResponse} (h : σ.Reports resp) (now : Int) :
    ∃ rest sent hasMore throttled,
      (gatewayLoop hooks actor req U heartbeatEvery).step (.loop now) σ =
        some (σ.respond req now resp rest sent hasMore throttled) := by
  obtain ⟨⟨rest, sent, hasMore, throttled, hpc⟩, -⟩ := h
  refine ⟨rest, sent, hasMore, throttled, ?_⟩
  unfold gatewayLoop
  simp only [hpc]

/-- One step. -/
theorem surfaces_iff (l : LoopLabel U) (σ : Loop) :
    Surfaces hooks actor req subscriberID U heartbeatEvery l σ ↔
      ClearsTooLong hooks actor req subscriberID U l σ := by
  constructor
  · rintro h now resp target b state rfl hreports hbound hconcerns hnew hstate
    obtain ⟨τ, hτ, hsent⟩ := h now resp target b rfl hreports hbound hconcerns hnew
    obtain ⟨rest, sent, hasMore, throttled, hstep⟩ := hreports.step now
    rw [hstep] at hτ
    cases hτ
    exact (respond_tooLong_iff hstate hreports.2).mp hsent
  · rintro h now resp target b rfl hreports hbound hconcerns hnew
    obtain ⟨state, hstate, -⟩ := Option.map_eq_some_iff.mp hconcerns.2
    have hclear := h now resp target b state rfl hreports hbound hconcerns hnew hstate
    obtain ⟨rest, sent, hasMore, throttled, hstep⟩ := hreports.step now
    exact ⟨_, hstep, (respond_tooLong_iff hstate hreports.2).mpr hclear⟩

end Loop

/-! ## What the responses are about -/

section Concerned

variable {Actor : Type} {hooks : Hooks Actor} {actor : Actor} {req : GatewaySubscribeRequest}
  {subscriberID : SubscriberID} {U : Set SyncTarget} {heartbeatEvery now : Int}

/-- A poll of targets of `U` that begins: its responses are about bindings of them. -/
theorem reading_concerns (req : GatewaySubscribeRequest)
    (hsub : resolveSubscriber hooks actor req.subscriberId = .ok subscriberID)
    (htargets : ∀ target ∈ req.targets, target ∈ U) {store : Traced Store}
    (h : Reachable store.now) :
    Reading (fun responses _ => ∀ resp ∈ responses,
        ∃ target b, Bound hooks actor U target b ∧ Concerns resp target b)
      store (gatewaySubscribePoll hooks actor req).run := by
  refine reading_of_each_polled hsub h fun τ target htarget b result hpoll => ?_
  obtain ⟨state, u, hstate, hresp⟩ := response_of_polled h hpoll
  refine ⟨target, b, bound_of_polled (htargets target htarget) hpoll, hresp.binding, ?_⟩
  exact Option.map_eq_some_iff.mpr ⟨state, hresp.withState, hstate⟩

/-- In every run from a reachable store, a `TOO_LONG` that is treated is about a binding. -/
theorem Loop.Reports.concerns
    (hsub : resolveSubscriber hooks actor req.subscriberId = .ok subscriberID)
    (htargets : ∀ target ∈ req.targets, target ∈ U) {s : Store} (hs : Reachable s)
    {ls : List (LoopLabel U)} {σ : Loop}
    (hrun : (gatewayLoop hooks actor req U heartbeatEvery).run ls (.start s req now) = some σ)
    {resp : GatewaySubscribeResponse} (h : σ.Reports resp) :
    ∃ target b, Bound hooks actor U target b ∧ Concerns resp target b := by
  have hknows := Loop.knows_run
    (Q := fun resp _ => ∃ target b, Bound hooks actor U target b ∧ Concerns resp target b)
    (fun targets _ htargets hstore => reading_concerns { req with targets } hsub htargets hstore)
    (fun _ _ _ _ _ h => h) htargets hs hrun
  obtain ⟨⟨rest, sent, hasMore, throttled, hpc⟩, -⟩ := h
  exact hknows.responding _ _ _ _ hpc resp List.mem_cons_self

end Concerned

/-! ## What is remembered -/

/-- An announcement that the raw loop remembers was sent. -/
theorem RawLoop.founded_run {req : SubscribeRequest} {heartbeatEvery now : Int} {s : Store}
    {ls : List RawLabel} {σ : RawLoop}
    (hrun : (rawLoop req heartbeatEvery).run ls (.start s now) = some σ) :
    σ.mark.Founded (σ.frames req) := by
  refine Machine.run_invariant (I := fun σ : RawLoop => σ.mark.Founded (σ.frames req)) ?_ hrun
    (.fresh _)
  intro l σ τ hstep h
  cases rawLoop_cases hstep with
  | @treat now result hpc =>
      obtain ⟨hmark, hframes⟩ := σ.treat_marks req heartbeatEvery now result
      rw [hmark, hframes]
      exact h.step (f := σ.frameOf req result) _ _ _ _
  | env | begin | call | leave => exact h

namespace Loop

/-- An announcement that the gateway loop remembers for a key was sent under it, since the entries
of the key were dropped last. -/
theorem founded_run {Actor : Type} {hooks : Hooks Actor} {actor : Actor}
    {req : GatewaySubscribeRequest} {U : Set SyncTarget} {heartbeatEvery now : Int} {s : Store}
    {ls : List (LoopLabel U)} {σ : Loop}
    (hrun : (gatewayLoop hooks actor req U heartbeatEvery).run ls (.start s req now) = some σ)
    (committed : Store → Nat) (key : String) :
    (σ.mark key).Founded (framesSince committed key σ.log) := by
  refine Machine.run_invariant
    (I := fun σ : Loop => (σ.mark key).Founded (framesSince committed key σ.log)) ?_ hrun
    (.fresh _)
  intro l σ τ hstep h
  refine rel_step (.fresh _) ?_ hstep h
  rintro resp _ _ _ _ _ rfl
  unfold judge
  cases resp.state with
  | none => exact h.settle (f := σ.frameOf committed resp) _ _
  | some state => exact h.step (f := σ.frameOf committed resp) _ _ _ _

end Loop

/-! ## When `TOO_LONG` surfaces -/

/-- **When backpressure hides no `TOO_LONG`.** In a run of either loop, from any state, every
`TOO_LONG` that was not announced for its binding since the committed cursor advanced last is sent
when it is treated, exactly when the mark is clear wherever one is treated: the cursor in the answer
has reached the delivered mark, or no announcement is remembered and the binding is not held
back. -/
theorem too_long_surfaces_iff (heartbeatEvery : Int) :
    (∀ {Actor : Type} {hooks : Hooks Actor} {actor : Actor} {req : GatewaySubscribeRequest}
      {subscriberID : SubscriberID} {U : Set SyncTarget} {ls : List (LoopLabel U)} {σ : Loop},
      (gatewayLoop hooks actor req U heartbeatEvery).Always
          (Loop.Surfaces hooks actor req subscriberID U heartbeatEvery) ls σ ↔
        (gatewayLoop hooks actor req U heartbeatEvery).Always
          (Loop.ClearsTooLong hooks actor req subscriberID U) ls σ) ∧
    (∀ {req : SubscribeRequest} {ls : List RawLabel} {σ : RawLoop},
      (rawLoop req heartbeatEvery).Always (RawLoop.Surfaces req heartbeatEvery) ls σ ↔
        (rawLoop req heartbeatEvery).Always (RawLoop.ClearsTooLong req) ls σ) := by
  constructor
  · intro Actor hooks actor req subscriberID U ls σ
    exact Machine.always_congr (I := fun _ => True) (fun l σ _ => Loop.surfaces_iff l σ)
      (fun _ _ _ _ _ _ => trivial) trivial
  · intro req ls σ
    exact Machine.always_congr (I := fun _ => True) (fun l σ _ => RawLoop.surfaces_iff l σ)
      (fun _ _ _ _ _ _ => trivial) trivial

/-- The steps of the gateway loop to the treatment of its second response; the events of the first
are truncated meanwhile. -/
def gatewayHeld : List (LoopLabel {targetS}) :=
  List.replicate 9 (.loop 0) ++ [.env (.truncateBefore "s" 3) trivial, .resume] ++
    List.replicate 6 (.loop 0)

/-- The same steps of the raw loop. -/
def rawHeld : List RawLabel :=
  List.replicate 5 (.loop 0) ++ [.env (.truncateBefore "s" 3) trivial, .resume] ++
    List.replicate 3 (.loop 0)

/-- The steps of the raw loop to the treatment of its third result: after the announcement the first
of the events is acknowledged. -/
def rawStale : List RawLabel :=
  rawRounds ++ [.env (.ack ⟨"device", "s", 1, ""⟩) trivial, .resume] ++ List.replicate 3 (.loop 0)

/-- With room for one event, a `TOO_LONG` is held back in either loop while two are not
acknowledged. With any room, one is passed over while an announcement at a lower cursor is
remembered. -/
theorem too_long_hidden :
    Reachable twoEvents ∧
    (∃ σ, (gatewayLoop perActorHooks "alice" gatewayOne {targetS} 1000000).run gatewayHeld
        (.start twoEvents gatewayOne 0) = some σ ∧
      ¬ Loop.Surfaces perActorHooks "alice" gatewayOne "alice/device" {targetS} 1000000
        (.loop 0) σ) ∧
    (∃ σ, (rawLoop deviceOne 1000000).run rawHeld (.start twoEvents 0) = some σ ∧
      ¬ RawLoop.Surfaces deviceOne 1000000 (.loop 0) σ) ∧
    (∃ σ, (rawLoop deviceReq 1000000).run rawStale (.start twoEvents 0) = some σ ∧
      ¬ RawLoop.Surfaces deviceReq 1000000 (.loop 0) σ) := by
  refine ⟨twoEvents_reachable, ⟨_, rfl, ?_⟩, ⟨_, rfl, ?_⟩, ⟨_, rfl, ?_⟩⟩
  · rw [Loop.surfaces_iff]
    intro h
    have hclear := h 0 _ targetS bindingS _ rfl ⟨⟨_, _, _, _, rfl⟩, rfl⟩ bound_targetS (by decide)
      (by decide) rfl
    exact absurd hclear (by decide)
  · rw [RawLoop.surfaces_iff]
    intro h
    have hclear := h 0 _ rfl ⟨rfl, rfl⟩ (by decide)
    exact absurd hclear (by decide)
  · rw [RawLoop.surfaces_iff]
    intro h
    have hclear := h 0 _ rfl ⟨rfl, rfl⟩ (by decide)
    exact absurd hclear (by decide)

/-- **The first `TOO_LONG`.** In every run of either loop, an answer that reports `TOO_LONG` is
about a binding, and while none was sent (under its key, since the entries of the key were dropped
last) only backpressure can hide it. -/
theorem first_too_long_surfaces {s : Store} (hs : Reachable s) (heartbeatEvery now : Int) :
    (∀ {Actor : Type} {hooks : Hooks Actor} {actor : Actor} {req : GatewaySubscribeRequest}
      {subscriberID : SubscriberID} {U : Set SyncTarget} {ls : List (LoopLabel U)} {σ : Loop}
      {resp : GatewaySubscribeResponse},
      resolveSubscriber hooks actor req.subscriberId = .ok subscriberID →
      (∀ target ∈ req.targets, target ∈ U) →
      (gatewayLoop hooks actor req U heartbeatEvery).run ls (.start s req now) = some σ →
      σ.Reports resp →
      ∃ target b state, Bound hooks actor U target b ∧ Concerns resp target b ∧
        resp.state = some state ∧
        ((∀ f ∈ framesSince (committedOf subscriberID b) (responseKey resp) σ.log,
            ¬ f.IsTooLong) →
          ¬ (σ.mark (responseKey resp)).Held req.maxInFlightPerTarget
            (bindingCursorSeq state resp.bindingKey) →
          ∀ time, ∃ τ,
            (gatewayLoop hooks actor req U heartbeatEvery).step (.loop time) σ = some τ ∧
            τ.log = .response (responseKey resp) { resp with serverTimeUnixMs := unixMS time }
              σ.store (σ.mark (responseKey resp)) :: σ.log)) ∧
    (∀ {req : SubscribeRequest} {ls : List RawLabel} {σ : RawLoop} {result : CatchUpResult},
      (rawLoop req heartbeatEvery).run ls (.start s now) = some σ → σ.Reports result →
      (∀ f ∈ σ.frames req, ¬ f.IsTooLong) → ¬ σ.mark.Held req.maxInFlight result.cursor.seq →
      ∀ time, ∃ τ, (rawLoop req heartbeatEvery).step (.loop time) σ = some τ ∧
        τ.sent = .response result (unixMS time) σ.store σ.mark :: σ.sent) := by
  -- nothing was sent, so nothing is remembered
  have hflag : ∀ {m : Mark} {frames : List Sent}, m.Founded frames →
      (∀ f ∈ frames, ¬ f.IsTooLong) → m.tooLongSent = false := by
    intro m frames hfounded hnone
    refine Bool.eq_false_iff.mpr fun hset => ?_
    obtain ⟨f, hf, hlong⟩ := hfounded hset
    exact hnone f hf hlong
  constructor
  · intro Actor hooks actor req subscriberID U ls σ resp hsub htargets hrun hreports
    obtain ⟨target, b, hbound, hconcerns⟩ := hreports.concerns hsub htargets hs hrun
    obtain ⟨state, hstate, -⟩ := Option.map_eq_some_iff.mp hconcerns.2
    refine ⟨target, b, state, hbound, hconcerns, hstate, ?_⟩
    intro hnone hheld time
    obtain ⟨rest, sent, hasMore, throttled, hstep⟩ := hreports.step time
    refine ⟨_, hstep, (Loop.respond_tooLong_iff hstate hreports.2).mpr (.inr ⟨?_, hheld⟩)⟩
    exact hflag (Loop.founded_run hrun _ _) hnone
  · intro req ls σ result hrun hreports hnone hheld time
    refine ⟨_, hreports.step time, (RawLoop.treat_tooLong_iff hreports.2).mpr (.inr ⟨?_, hheld⟩)⟩
    exact hflag (RawLoop.founded_run hrun) hnone

end Synclog.Transport
