import Synclog.Transport.GatewaySubscribe

/-!
# One iteration over a store that stands still

While nothing else happens, an iteration of a subscribe loop is a function of the state it begins
in. What it makes of a binding depends on the marks of its key, on the committed cursor and on the
head of the stream only (`Mark.follow`).

* `RawLoop.poll`, `RawLoop.poll_ok` — the catch-up of the raw loop and what it answers.
* `Loop.poll`, `Loop.poll_ok` — the poll of the gateway loop: one answer for each binding.
* `RawLoop.run_poll`, `Loop.run_poll` — the machines take exactly these steps.
-/

namespace Synclog.Transport

open Synclog.Lib Synclog.Core Synclog.Memory Synclog.Gateway
open Relation (ReflTransGen)

/-! ## One catch-up -/

/-- The head of a stream as `GetHead` answers it; a missing stream answers like a fresh one. -/
def headIn (s : Store) (streamID : StreamID) : StreamHead :=
  (s.ensureStream streamID).headCursor streamID

/-- The result of a catch-up of a store that stands still, without a bound on the whole replay: it
says what there is behind the committed cursor. -/
structure Standing (s : Store) (req : CatchUpRequest) (result : CatchUpResult) : Prop where
  cursor : result.cursor.seq = s.committed req.subscriberID req.streamID
  head : result.head = headIn s req.streamID
  status : result.status =
    if replayTooOld (s.committed req.subscriberID req.streamID)
      (headIn s req.streamID).retainedSeqStart then .tooLong else .ok
  batch : result.status = .ok →
    Consecutive Event.seq (s.committed req.subscriberID req.streamID + 1) result.batch.events ∧
      result.batch.events.length = min (normalizeLimit req.limit)
        ((headIn s req.streamID).cursor.seq - s.committed req.subscriberID req.streamID) ∧
      (result.batch.events ≠ [] → result.batch.seq =
        s.committed req.subscriberID req.streamID + result.batch.events.length)

/-- The answer of a catch-up without a budget, when nothing comes between. -/
theorem standing_of_catchUpOf {s : Store} (hs : Reachable s) {req : CatchUpRequest}
    (htotal : req.totalLimit = 0) {result : CatchUpResult} (h : catchUpOf req s s s = .ok result) :
    Standing s req result := by
  obtain ⟨L, hL⟩ := hs.holds req.streamID
  have hhead : headIn s req.streamID = headOf req.streamID L := hL.headCursor
  obtain rfl := catchUpOf_ok hL hL h
  have hbudget : replayOverBudget (s.cursorOf req.subscriberID req.streamID).cursor.seq L.head
      req.totalLimit = false := by
    simp [replayOverBudget, htotal]
  have hlong : replayTooOld (s.committed req.subscriberID req.streamID)
      (headIn s req.streamID).retainedSeqStart = true ↔
        (s.cursorOf req.subscriberID req.streamID).cursor.seq < L.base := by
    rw [hhead]
    exact replayTooOld_start
  unfold catchUpResult
  simp only [hbudget, Bool.false_eq_true, false_or, or_self]
  by_cases hold : (s.cursorOf req.subscriberID req.streamID).cursor.seq < L.base
  · rw [if_pos hold]
    exact ⟨rfl, hhead.symm, (if_pos (hlong.mpr hold)).symm, fun hok => by cases hok⟩
  · rw [if_neg hold]
    refine ⟨rfl, hhead.symm, (if_neg (mt hlong.mp hold)).symm, fun _ => ⟨?_, ?_, ?_⟩⟩
    · exact numbered_batchAfter _ _ hL.numbered
    · rw [hhead]
      exact length_batchAfter _ _
    · exact seq_eq_add_length _ _

/-- What a loop makes of such a result. -/
theorem Standing.step {s : Store} {req : CatchUpRequest} {result : CatchUpResult}
    (h : Standing s req result) (m : Mark) (maxInFlight : Nat) {hasEvents : Bool} {seq : Nat}
    (hevents : result.status = .ok → hasEvents = !result.batch.events.isEmpty)
    (hseq : result.status = .ok → result.batch.events ≠ [] → seq = result.batch.seq) :
    m.step maxInFlight (s.committed req.subscriberID req.streamID) result.status hasEvents seq =
      m.follow maxInFlight (s.committed req.subscriberID req.streamID) (normalizeLimit req.limit)
        (headIn s req.streamID) := by
  refine Mark.step_eq_follow h.status fun hok => ?_
  obtain ⟨-, hlength, hlast⟩ := h.batch hok
  have hpos := normalizeLimit_pos req.limit
  have hne : result.batch.events ≠ [] ↔
      s.committed req.subscriberID req.streamID < (headIn s req.streamID).cursor.seq := by
    rw [← List.length_pos_iff, hlength]
    omega
  constructor
  · rw [hevents hok, Bool.eq_iff_iff, Bool.not_eq_true', List.isEmpty_eq_false_iff,
      decide_eq_true_eq]
    exact hne
  · intro hhead
    rw [hseq hok (hne.mpr hhead), hlast (hne.mpr hhead), hlength]
    omega

/-! ## The raw loop -/

namespace RawLoop

variable {σ : RawLoop} {req : SubscribeRequest}

/-- What the catch-up of an iteration answers. -/
def poll (σ : RawLoop) (req : SubscribeRequest) : Except GoError CatchUpResult :=
  (Prog.run pollHandler (Engine.catchUp req.catchUp).run σ.store).1

/-- A poll is the catch-up of the store as it is. -/
theorem poll_eq (σ : RawLoop) (req : SubscribeRequest) :
    σ.poll req = catchUpOf req.catchUp σ.store.now σ.store.now σ.store.now := by
  have hexec := Prog.exec_run pollHandler (fun _ _ => False) (Engine.catchUp req.catchUp).run
    σ.store
  obtain ⟨s₁, s₂, h₁, h₂, h₃, heq⟩ := Memory.exec_catchUp hexec
  obtain rfl := Prog.eq_of_alone h₁
  obtain rfl := Prog.eq_of_alone h₂
  rw [← Prog.eq_of_alone h₃] at heq
  exact heq

/-- What a poll of a reachable store answers. -/
theorem poll_ok (hσ : Reachable σ.store.now) {result : CatchUpResult}
    (h : σ.poll req = .ok result) : Standing σ.store.now req.catchUp result := by
  rw [poll_eq] at h
  exact standing_of_catchUpOf hσ rfl h

/-- The catch-up fails for an empty id only. -/
theorem poll_isOk_iff (hσ : Reachable σ.store.now) :
    (∃ result, σ.poll req = .ok result) ↔ req.subscriberId ≠ "" ∧ req.streamId ≠ "" := by
  obtain ⟨L, hL⟩ := hσ.holds req.streamId
  constructor
  · rintro ⟨result, h⟩
    rw [poll_eq] at h
    unfold catchUpOf at h
    split_ifs at h with hsub hid
    exact ⟨hsub, hid⟩
  · rintro ⟨hsub, hid⟩
    rw [poll_eq]
    exact ⟨_, catchUpOf_eq hsub hid hL hL⟩

/-- What the loop makes of the answer. -/
theorem poll_step (hσ : Reachable σ.store.now) {result : CatchUpResult}
    (h : σ.poll req = .ok result) (m : Mark) :
    m.step req.maxInFlight result.cursor.seq result.status (!result.batch.events.isEmpty)
        result.batch.seq =
      m.follow req.maxInFlight (req.committed σ.store.now) (normalizeLimit req.batchLimit)
        (headIn σ.store.now req.streamId) := by
  have hstanding := poll_ok hσ h
  rw [hstanding.cursor]
  exact hstanding.step m req.maxInFlight (fun _ => rfl) fun _ _ => rfl

/-- What one iteration does with the marks and the frames. -/
theorem treat_follow (hσ : Reachable σ.store.now) {result : CatchUpResult}
    (h : σ.poll req = .ok result) (heartbeatEvery now : Int) :
    σ.treat req heartbeatEvery now result =
      match σ.mark.follow req.maxInFlight (req.committed σ.store.now)
        (normalizeLimit req.batchLimit) (headIn σ.store.now req.streamId) with
      | (.throttled, mark) => { σ with mark, pc := .waiting }
      | (.announced, mark) =>
        ({ σ with mark } : RawLoop).send
          (.response result (unixMS now) σ.store σ.mark) .waiting
      | (.delivered, mark) =>
        ({ σ with mark } : RawLoop).send
          (.response result (unixMS now) σ.store σ.mark)
          (if result.batch.final then .waiting else .top)
      | (.silent, mark) =>
        if result.status = .tooLong then { σ with mark, pc := .waiting }
        else ({ σ with mark } : RawLoop).idle heartbeatEvery now := by
  unfold treat
  rw [poll_step hσ h]
  rcases σ.mark.follow req.maxInFlight (req.committed σ.store.now)
    (normalizeLimit req.batchLimit) (headIn σ.store.now req.streamId) with ⟨outcome, mark⟩
  rcases outcome <;> rfl

/-- The machine takes exactly these steps. -/
theorem run_poll (heartbeatEvery now : Int) (hpc : σ.pc = .top) {result : CatchUpResult}
    (h : σ.poll req = .ok result) :
    ∃ n, (rawLoop req heartbeatEvery).run (List.replicate n (.loop now)) σ =
      some (σ.treat req heartbeatEvery now result) := by
  have hbegin : (rawLoop req heartbeatEvery).step (.loop now) σ =
      some { σ with pc := .catchingUp (Engine.catchUp req.catchUp).run } := by
    unfold rawLoop
    simp only [hpc]
  have hcall (β : Type) (c : StoreCall β) (k : β → Prog StoreCall (Except GoError CatchUpResult))
      (hc : StoreCall.IsRead β c) :
      (rawLoop req heartbeatEvery).step (.loop now) { σ with pc := .catchingUp (.call c k) } =
        some { σ with pc := .catchingUp (k (pollHandler β c σ.store).1) } := by
    unfold rawLoop
    simp only [pollHandler_isRead β c σ.store hc]
  have hend : (rawLoop req heartbeatEvery).step (.loop now)
      { σ with pc := .catchingUp (.ret (σ.poll req)) } =
        some (σ.treat req heartbeatEvery now result) := by
    rw [h]
    rfl
  exact Machine.run_held (fun p => { σ with pc := .catchingUp p })
    (fun β c hc => pollHandler_isRead β c σ.store hc) hcall
    (Engine.catchUp_only_reads req.catchUp) hbegin hend

end RawLoop

/-! ## The gateway loop -/

section Gateway

variable {Actor : Type} (hooks : Hooks Actor) (actor : Actor)

/-- The response for a binding when nothing else happens: the cursor in its state is the committed
one, and its status and its batch are those of a catch-up. -/
structure Answered (subscriberID : SubscriberID) (limit : Int) (s : Store)
    (p : SyncTarget × StreamBinding) (resp : GatewaySubscribeResponse) : Prop where
  key : responseKey resp = keyOf p.1 p.2
  state : ∃ state, resp.state = some state ∧
    bindingCursorSeq state resp.bindingKey = committedOf subscriberID p.2 s
  result : ∃ result, Standing s { subscriberID, streamID := p.2.streamID, limit } result ∧
    resp.status = result.status ∧
    (result.status = .ok → resp.batch = some (toGatewayBatch p.1 p.2.bindingKey result.batch))

namespace Loop

/-- What the poll of an iteration answers. -/
def poll (σ : Loop) (req : GatewaySubscribeRequest) :
    Except GoError (List GatewaySubscribeResponse) :=
  (Prog.run pollHandler
    (gatewaySubscribePoll hooks actor { req with targets := σ.sub.snapshot }).run σ.store).1

variable {hooks actor} {σ : Loop} {req : GatewaySubscribeRequest}

/-- One result of a poll alone. -/
theorem answered_of_polled {s : Traced Store} (hs : Reachable s.now) {subscriberID : SubscriberID}
    {limit : Int} {target : SyncTarget} {b : StreamBinding} {result : GatewayCatchUpResult}
    (h : Polled (Traced.cell Store) (fun _ _ => False) hooks actor subscriberID limit 0 .subscribe
      s s target b result) :
    Answered subscriberID limit s.now (target, b) (toSubscribeResponse result) := by
  obtain ⟨state, u, u', htarget, hu, hu', hcursor, hread⟩ := h.read
  obtain rfl := Prog.eq_of_alone hu
  obtain rfl := Prog.eq_of_alone hu'
  obtain ⟨u₁, u₂, u₃, catchUp, h₁, h₂, h₃, h₄, hcatchUp, hstatus, hbatch⟩ := hread.reads
  obtain rfl := Prog.eq_of_alone h₁
  obtain rfl := Prog.eq_of_alone h₂
  obtain rfl := Prog.eq_of_alone h₃
  refine ⟨?_, ⟨state, hread.withState, ?_⟩, catchUp, standing_of_catchUpOf hs rfl hcatchUp,
    hstatus, ?_⟩
  · unfold responseKey toSubscribeResponse keyOf
    simp only [hread.withState, hread.forBinding, htarget]
  · show bindingCursorSeq state result.bindingKey = _
    rw [hread.forBinding]
    exact hcursor
  · intro hok
    show result.batch = _
    rw [resultBatch_eq hbatch, if_pos hok]

/-- A poll that succeeds is a catch-up of the targets that succeeds. -/
theorem exec_of_poll {responses : List GatewaySubscribeResponse}
    (h : σ.poll hooks actor req = .ok responses) :
    ∃ results τ, responses = results.map toSubscribeResponse ∧
      Prog.Exec pollHandler (fun _ _ => False)
        (catchUp hooks actor req.subscriberId σ.sub.snapshot req.batchLimitPerTarget 0
          .subscribe).run σ.store (.ok results) τ := by
  have hexec := Prog.exec_run pollHandler (fun _ _ => False)
    (gatewaySubscribePoll hooks actor { req with targets := σ.sub.snapshot }).run σ.store
  unfold poll at h
  rw [h] at hexec
  obtain ⟨results, hresults, hmap⟩ := Prog.exec_bind_pure_ok.mp hexec
  exact ⟨results, _, hmap, hresults⟩

/-- A poll that succeeds has one response for each binding, for what was polled of it. -/
theorem poll_polled {responses : List GatewaySubscribeResponse}
    (h : σ.poll hooks actor req = .ok responses) :
    ∃ subscriberID, resolveSubscriber hooks actor req.subscriberId = .ok subscriberID ∧
      List.Forall₂ (fun p resp => ∃ result, resp = toSubscribeResponse result ∧
          Polled (Traced.cell Store) (fun _ _ => False) hooks actor subscriberID
            req.batchLimitPerTarget 0 .subscribe σ.store σ.store p.1 p.2 result)
        (boundIn hooks actor σ.sub.snapshot) responses := by
  obtain ⟨results, τ, rfl, hresults⟩ := exec_of_poll h
  obtain ⟨subscriberID, hsub, hne, htargets⟩ := exec_catchUp_targets hresults
  obtain ⟨-, parts, rfl, hparts⟩ := exec_catchUpTargets_parts hne htargets
  refine ⟨subscriberID, hsub, ?_⟩
  unfold boundIn
  rw [List.forall₂_map_right_iff, List.flatMap]
  refine List.rel_flatten ?_
  rw [List.forall₂_map_left_iff]
  refine hparts.imp ?_
  rintro target part ⟨u, v, hu, hv, hpart⟩
  obtain ⟨hsame, bindings, hresolve, hpolled⟩ := exec_catchUpTarget hne hpart
  obtain rfl := Prog.eq_of_alone hu
  obtain rfl := Prog.eq_of_alone hsame
  rw [hresolve, List.forall₂_map_left_iff]
  exact hpolled.imp fun b result hresult => ⟨result, rfl, hresult⟩

/-- Each response says what there is for its binding. -/
theorem poll_ok (hσ : Reachable σ.store.now) {responses : List GatewaySubscribeResponse}
    (h : σ.poll hooks actor req = .ok responses) :
    ∃ subscriberID, resolveSubscriber hooks actor req.subscriberId = .ok subscriberID ∧
      List.Forall₂ (Answered subscriberID req.batchLimitPerTarget σ.store.now)
        (boundIn hooks actor σ.sub.snapshot) responses := by
  obtain ⟨subscriberID, hsub, hall⟩ := poll_polled h
  refine ⟨subscriberID, hsub, hall.imp ?_⟩
  rintro p resp ⟨result, rfl, hpolled⟩
  exact answered_of_polled hσ hpolled

/-- What the loop makes of a response. -/
theorem judge_of_answered {subscriberID : SubscriberID} {s : Store}
    {p : SyncTarget × StreamBinding} {resp : GatewaySubscribeResponse}
    (h : Answered subscriberID req.batchLimitPerTarget s p resp) (σ : Loop) :
    σ.judge req resp =
      (σ.mark (keyOf p.1 p.2)).follow req.maxInFlightPerTarget (committedOf subscriberID p.2 s)
        (normalizeLimit req.batchLimitPerTarget) (headIn s p.2.streamID) := by
  obtain ⟨state, hstate, hcursor⟩ := h.state
  obtain ⟨result, hstanding, hstatus, hbatch⟩ := h.result
  unfold judge
  simp only [hstate, h.key, hcursor, hstatus]
  refine hstanding.step _ req.maxInFlightPerTarget ?_ ?_
  · intro hok
    simp [events, hbatch hok, toGatewayBatch]
  · intro hok _
    simp [batchSeq, hbatch hok, toGatewayBatch]

/-- The marks after the answers for these bindings, in this order. -/
def marksAfter (req : GatewaySubscribeRequest) (subscriberID : SubscriberID) (s : Store) :
    List (SyncTarget × StreamBinding) → (String → Mark) → String → Mark
  | [], marks => marks
  | p :: ps, marks =>
    let key := keyOf p.1 p.2
    marksAfter req subscriberID s ps (Function.update marks key
      ((marks key).follow req.maxInFlightPerTarget (committedOf subscriberID p.2 s)
        (normalizeLimit req.batchLimitPerTarget) (headIn s p.2.streamID)).2)

/-- The marks under other keys do not matter. -/
theorem marksAfter_congr (req : GatewaySubscribeRequest) (subscriberID : SubscriberID) (s : Store)
    {ps : List (SyncTarget × StreamBinding)} {marks marks' : String → Mark} {key : String}
    (hps : ∀ p ∈ ps, marks (keyOf p.1 p.2) = marks' (keyOf p.1 p.2))
    (hkey : marks key = marks' key) :
    marksAfter req subscriberID s ps marks key = marksAfter req subscriberID s ps marks' key := by
  induction ps generalizing marks marks' with
  | nil => exact hkey
  | cons p ps ih =>
      have hp := hps p List.mem_cons_self
      have hupdate : ∀ k, marks k = marks' k → ∀ m,
          Function.update marks (keyOf p.1 p.2) m k =
            Function.update marks' (keyOf p.1 p.2) m k := by
        intro k hk m
        rw [Function.update_apply, Function.update_apply, hk]
      unfold marksAfter
      simp only [hp]
      exact ih (fun q hq => hupdate _ (hps q (List.mem_cons_of_mem _ hq)) _) (hupdate key hkey _)

/-- Pruning keeps the marks of the bindings that are polled. -/
theorem mark_prune_of_mem {targets : List SyncTarget} {p : SyncTarget × StreamBinding}
    (hp : p ∈ boundIn hooks actor targets) (σ : Loop) :
    (σ.pruneDeliveryState targets).mark (keyOf p.1 p.2) = σ.mark (keyOf p.1 p.2) := by
  have hbound : Bound hooks actor {t | t ∈ targets} p.1 p.2 := bound_iff.mpr hp
  rw [σ.mark_pruneDeliveryState, if_pos (keeps_keyOf hbound.1 p.2)]

/-- The first step of an iteration that polls. -/
theorem begin_of_polls (hne : σ.sub.snapshot ≠ []) (hooks : Hooks Actor) (actor : Actor)
    (req : GatewaySubscribeRequest) (heartbeatEvery now : Int) :
    σ.begin hooks actor req heartbeatEvery now =
      { σ.pruneDeliveryState σ.sub.snapshot with
        pc := .polling (gatewaySubscribePoll hooks actor
          { req with targets := σ.sub.snapshot }).run } := by
  unfold begin
  simp only
  rw [if_neg (by simpa using hne)]

/-- The poll of an iteration, one step of the machine for each call. -/
theorem run_poll (U : Set SyncTarget) (heartbeatEvery now : Int) (hpc : σ.pc = .top)
    (hne : σ.sub.snapshot ≠ []) {responses : List GatewaySubscribeResponse}
    (h : σ.poll hooks actor req = .ok responses) :
    ∃ n, (gatewayLoop hooks actor req U heartbeatEvery).run (List.replicate n (.loop now)) σ =
      some { σ.pruneDeliveryState σ.sub.snapshot with
        pc := .responding responses false false false } := by
  have hbegin : (gatewayLoop hooks actor req U heartbeatEvery).step (.loop now) σ =
      some { σ.pruneDeliveryState σ.sub.snapshot with
        pc := .polling (gatewaySubscribePoll hooks actor
          { req with targets := σ.sub.snapshot }).run } := by
    unfold gatewayLoop
    simp only [hpc]
    rw [begin_of_polls hne]
  have hcall (β : Type) (c : StoreCall β)
      (k : β → Prog StoreCall (Except GoError (List GatewaySubscribeResponse)))
      (hc : StoreCall.IsRead β c) :
      (gatewayLoop hooks actor req U heartbeatEvery).step (.loop now)
          { σ.pruneDeliveryState σ.sub.snapshot with pc := .polling (.call c k) } =
        some { σ.pruneDeliveryState σ.sub.snapshot with
          pc := .polling (k (pollHandler β c σ.store).1) } := by
    unfold gatewayLoop
    simp only [Loop.pruneDeliveryState, pollHandler_isRead β c σ.store hc]
  have hend : (gatewayLoop hooks actor req U heartbeatEvery).step (.loop now)
      { σ.pruneDeliveryState σ.sub.snapshot with pc := .polling (.ret (σ.poll hooks actor req)) } =
        some { σ.pruneDeliveryState σ.sub.snapshot with
          pc := .responding responses false false false } := by
    rw [h]
    rfl
  exact Machine.run_held (fun p => { σ.pruneDeliveryState σ.sub.snapshot with pc := .polling p })
    (fun β c hc => pollHandler_isRead β c σ.store hc) hcall
    (gatewaySubscribePoll_only_reads hooks actor { req with targets := σ.sub.snapshot }) hbegin hend

/-- The answers for the first bindings, one step of the machine for each. -/
theorem run_responses (hooks : Hooks Actor) (actor : Actor) (U : Set SyncTarget)
    (heartbeatEvery now : Int) {subscriberID : SubscriberID} {s : Store}
    {front : List (SyncTarget × StreamBinding)} {responses : List GatewaySubscribeResponse}
    (h : List.Forall₂ (Answered subscriberID req.batchLimitPerTarget s) front responses)
    {rest : List GatewaySubscribeResponse} {sent hasMore throttled : Bool}
    (hpc : σ.pc = .responding (responses ++ rest) sent hasMore throttled) :
    ∃ ρ sent' hasMore' throttled',
      (gatewayLoop hooks actor req U heartbeatEvery).run
          (List.replicate responses.length (.loop now)) σ = some ρ ∧
        ρ.pc = .responding rest sent' hasMore' throttled' ∧ ρ.store = σ.store ∧
        ρ.mark = marksAfter req subscriberID s front σ.mark := by
  induction h generalizing σ sent hasMore throttled with
  | nil => exact ⟨σ, _, _, _, rfl, hpc, rfl, rfl⟩
  | @cons p resp front responses hresp _ ih =>
      have hstep : (gatewayLoop hooks actor req U heartbeatEvery).step (.loop now) σ =
          some (σ.respond req now resp (responses ++ rest) sent hasMore throttled) := by
        unfold gatewayLoop
        simp only [hpc, List.cons_append]
      obtain ⟨hstore, -, -, hmark, sent', hasMore', throttled', hpc'⟩ :=
        σ.respond_frame req now resp (responses ++ rest) sent hasMore throttled
      rw [judge_of_answered hresp, hresp.key] at hmark
      obtain ⟨ρ, sent'', hasMore'', throttled'', hrun, hpc'', hstore', hmark'⟩ := ih hpc'
      refine ⟨ρ, sent'', hasMore'', throttled'', ?_, hpc'', hstore'.trans hstore, ?_⟩
      · rw [List.length_cons, List.replicate_succ, Machine.run_cons, hstep]
        exact hrun
      · rw [hmark', hmark]
        rfl

end Loop

end Gateway

end Synclog.Transport
