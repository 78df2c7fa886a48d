import Synclog.Gateway.Poll

/-!
# Adding a target to a live poll

A poll that runs alone changes nothing, so it succeeds when the poll of each of its targets
succeeds, and then returns their responses one after the other (`answer_catchUpTargets`). A target
that `ResolveSubscribeTargets` has accepted was resolved and authorized without a payload type;
polling it also checks every pending event, and this is where the two part
(`added_target_harmless_iff`).
-/

namespace Synclog.Gateway

open Synclog.Lib Synclog.Core Synclog.Memory
open Relation (ReflTransGen)

/-! ## Programs that only read, run alone -/

section Answer

variable {α β : Type} {now : Int} {s : Store}

/-- The answer of a program that runs alone on the memory store. -/
def answer (now : Int) (p : ServerProg α) (s : Store) : Except GoError α :=
  (Prog.run (handler now) p.run s).1

/-- Sequencing programs of which the first only reads. -/
theorem answer_bind {x : ServerProg α} (hx : Prog.Only StoreCall.IsRead x.run)
    (f : α → ServerProg β) :
    answer now (x >>= f) s = answer now x s >>= fun a => answer now (f a) s := by
  have hstate : (Prog.run (handler now) x.run s).2 = s :=
    hx.run_state (fun β c s hc => handler_isRead now (.whole Store) β c s hc) s
  unfold answer
  rw [Prog.run_bindE, hstate]
  cases (Prog.run (handler now) x.run s).1 <;> rfl

/-- What is computed without the store is the answer. -/
@[simp] theorem answer_ofExcept (r : Except GoError α) : answer now (Prog.ofExcept r) s = r := rfl

/-- A value is the answer. -/
@[simp] theorem answer_pure (a : α) : answer now (pure a : ServerProg α) s = .ok a := rfl

/-- A program that cannot fail is answered. -/
@[simp] theorem answer_lift (p : Prog StoreCall α) :
    answer now (ExceptT.lift p) s = .ok (Prog.run (handler now) p s).1 := by
  show (Prog.run (handler now) (p >>= fun a => pure (Except.ok a)) s).1 = _
  rw [Prog.run_bind]
  rfl

variable (now) in
/-- Where a program alone ends, an execution without interference does. -/
theorem exec_of_answer {p : ServerProg α} {r : Except GoError α} (h : answer now p s = r) :
    Prog.Exec ((handler now).within (.whole Store)) (fun _ _ => False) p.run s r
      (Prog.run (handler now) p.run s).2 := by
  rw [← h]
  exact Prog.exec_run _ _ _ _

/-- `CatchUp` alone. -/
theorem answer_catchUp (req : CatchUpRequest) :
    answer now (Engine.catchUp req) s = catchUpOf req s s s := by
  obtain ⟨s₁, s₂, h₁, h₂, h₃, heq⟩ :=
    Memory.exec_catchUp (exec_of_answer now (p := Engine.catchUp req) (s := s) rfl)
  have e₁ := Prog.eq_of_alone h₁
  have e₂ := Prog.eq_of_alone h₂
  have e₃ := Prog.eq_of_alone h₃
  rw [heq, ← e₃, ← e₂, ← e₁]
  rfl

end Answer

/-! ## A poll target by target -/

section Poll

variable {Actor : Type} {hooks : Hooks Actor} {actor : Actor} {subscriberID : SubscriberID}
  {limit totalLimit : Int} {operation : Operation} {now : Int} {s : Store}

/-- The results of one target, polled alone; none where its poll fails. -/
def resultsFor (hooks : Hooks Actor) (actor : Actor) (subscriberID : SubscriberID)
    (limit totalLimit : Int) (operation : Operation) (now : Int) (s : Store)
    (target : SyncTarget) : List GatewayCatchUpResult :=
  (answer now (catchUpTarget hooks actor subscriberID limit totalLimit operation target)
    s).toOption.getD []

/-- A poll of several targets succeeds when the poll of each does, and concatenates. -/
theorem answer_catchUpTargets {targets : List SyncTarget} {results : List GatewayCatchUpResult} :
    answer now (catchUpTargets hooks actor subscriberID limit totalLimit operation targets) s =
        .ok results ↔
      (∀ target ∈ targets, ∃ part, answer now
        (catchUpTarget hooks actor subscriberID limit totalLimit operation target) s = .ok part) ∧
      results = targets.flatMap
        (resultsFor hooks actor subscriberID limit totalLimit operation now s) := by
  induction targets generalizing results with
  | nil =>
      unfold catchUpTargets
      rw [answer_pure]
      constructor
      · rintro ⟨⟩
        exact ⟨by simp, rfl⟩
      · rintro ⟨-, rfl⟩
        rfl
  | cons target targets ih =>
      unfold catchUpTargets
      rw [answer_bind (catchUpTarget_only_reads hooks actor subscriberID limit totalLimit operation
        target)]
      simp only [List.forall_mem_cons, List.flatMap_cons]
      cases htarget : answer now
          (catchUpTarget hooks actor subscriberID limit totalLimit operation target) s with
      | error err =>
          refine iff_of_false (by rintro ⟨⟩) ?_
          rintro ⟨⟨⟨part, hpart⟩, -⟩, -⟩
          cases hpart
      | ok part =>
          have hpart : resultsFor hooks actor subscriberID limit totalLimit operation now s target =
              part := by
            unfold resultsFor
            rw [htarget]
            rfl
          show answer now (catchUpTargets hooks actor subscriberID limit totalLimit operation
            targets >>= fun rest => pure (part ++ rest)) s = .ok results ↔ _
          rw [answer_bind (catchUpTargets_only_reads hooks actor subscriberID limit totalLimit
            operation targets), hpart]
          cases hrest : answer now
              (catchUpTargets hooks actor subscriberID limit totalLimit operation targets) s with
          | error err =>
              refine iff_of_false (by rintro ⟨⟩) ?_
              rintro ⟨⟨-, hall⟩, -⟩
              have hok := ih.mpr ⟨hall, rfl⟩
              rw [hrest] at hok
              cases hok
          | ok rest =>
              obtain ⟨hall, rfl⟩ := ih.mp hrest
              show Except.ok _ = Except.ok results ↔ _
              constructor
              · rintro ⟨⟩
                exact ⟨⟨⟨part, rfl⟩, hall⟩, rfl⟩
              · rintro ⟨-, rfl⟩
                rfl

end Poll

/-! ## The checks of a pending event -/

section Deliverable

variable {Actor : Type} {hooks : Hooks Actor} {actor : Actor} {subscriberID : SubscriberID}
  {limit : Int} {operation : Operation} {now : Int} {s : Store}

/-- The hooks let an event of a binding through: its type is on the binding's list, the operation is
authorized for the type, the payload policy allows it and a codec is registered. -/
structure Deliverable (hooks : Hooks Actor) (actor : Actor) (subscriberID : SubscriberID)
    (operation : Operation) (target : SyncTarget) (b : StreamBinding) (event : Event) : Prop where
  listed : b.payloadTypes = [] ∨ event.payloadType ∈ b.payloadTypes
  authorized : hooks.authorize
    { actor, operation, target, payloadType := event.payloadType, subscriberID } = .ok ()
  allowed : hooks.allowPayload actor target event.payloadType = .ok ()
  decodable : hooks.canDecode event.payloadType event.payloadVersion = true

/-- The retained events behind the subscriber's cursor that one poll takes up, when replay can
serve the cursor. -/
def pendingEvents (s : Store) (subscriberID : SubscriberID) (streamID : StreamID) (limit : Int) :
    List Event :=
  let st := s.ensureStream streamID
  let cursor := s.committed subscriberID streamID
  if replayTooOld cursor st.retainedSeqStart then []
  else (st.events.filter fun event => cursor < event.seq).take (normalizeLimit limit)

/-- An empty list allows every type. -/
theorem requireAllowedType_ok_iff (allowed : List String) (payloadType kind : String) :
    requireAllowedType allowed payloadType kind = .ok () ↔
      allowed = [] ∨ payloadType ∈ allowed := by
  unfold requireAllowedType
  split_ifs with hempty hmem
  · exact iff_of_true rfl (.inl (List.length_eq_zero_iff.mp hempty))
  · exact iff_of_true rfl (.inr hmem)
  · refine iff_of_false (by rintro ⟨⟩) ?_
    rintro (rfl | hin)
    · exact hempty rfl
    · exact hmem hin

/-- An event passes its checks when the hooks let it through. -/
theorem checkEvent_ok_iff {target : SyncTarget} {b : StreamBinding} {event : Event} :
    checkEvent hooks actor subscriberID target b operation event = .ok () ↔
      Deliverable hooks actor subscriberID operation target b event := by
  have hlisted := requireAllowedType_ok_iff b.payloadTypes event.payloadType "payload"
  unfold checkEvent
  constructor
  · intro h
    split at h
    · cases h
    · rename_i htype
      split at h
      · cases h
      · rename_i hauth
        split at h
        · cases h
        · rename_i hpolicy
          split_ifs at h with hcodec
          exact ⟨hlisted.mp htype, hauth, hpolicy, hcodec⟩
  · rintro ⟨htype, hauth, hpolicy, hcodec⟩
    rw [hlisted.mpr htype]
    simp only [hauth, hpolicy, hcodec, if_true]

/-- Events pass their checks when each of them does. -/
theorem checkEvents_ok_iff {target : SyncTarget} {b : StreamBinding} {events : List Event} :
    checkEvents hooks actor subscriberID target b operation events = .ok () ↔
      ∀ event ∈ events, Deliverable hooks actor subscriberID operation target b event := by
  induction events with
  | nil =>
      unfold checkEvents
      simp
  | cons event events ih =>
      unfold checkEvents
      rw [List.forall_mem_cons, ← ih, ← checkEvent_ok_iff]
      cases checkEvent hooks actor subscriberID target b operation event with
      | error err => exact iff_of_false (by rintro ⟨⟩) (by rintro ⟨⟨⟩, -⟩)
      | ok => exact (and_iff_right rfl).symm

/-- A result gets its batch when the pending events pass the checks. -/
theorem resultBatch_ok_iff {target : SyncTarget} {b : StreamBinding} {result : CatchUpResult} :
    (∃ batch, resultBatch hooks actor subscriberID target b operation result = .ok batch) ↔
      (result.status = .ok → ∀ event ∈ result.batch.events,
        Deliverable hooks actor subscriberID operation target b event) := by
  unfold resultBatch gatewayBatch
  rw [← checkEvents_ok_iff]
  split_ifs with hok
  · cases hchecks : checkEvents hooks actor subscriberID target b operation result.batch.events with
    | error err => exact iff_of_false (by rintro ⟨_, ⟨⟩⟩) (fun h => by cases h hok)
    | ok => exact iff_of_true ⟨_, rfl⟩ (fun _ => rfl)
  · exact iff_of_true ⟨_, rfl⟩ (fun h => absurd h hok)

variable (limit now) in
/-- One binding of a poll that runs alone: the core engine answers, and what it delivers are the
pending events. -/
theorem answer_catchUp_pending (hs : Reachable s) (hsub : subscriberID ≠ "") {streamID : StreamID}
    (hid : streamID ≠ "") :
    ∃ result, answer now (Engine.catchUp { subscriberID, streamID, limit }) s = .ok result ∧
      ∀ P : Event → Prop, (result.status = .ok → ∀ event ∈ result.batch.events, P event) ↔
        ∀ event ∈ pendingEvents s subscriberID streamID limit, P event := by
  obtain ⟨L, hL⟩ := hs.holds streamID
  refine ⟨_, (answer_catchUp _).trans (catchUpOf_eq hsub hid hL hL), ?_⟩
  intro P
  have hbudget : ∀ c h : Nat, replayOverBudget c h 0 = false := fun c h => rfl
  have hcursor :
      (s.cursorOf subscriberID streamID).cursor.seq = s.committed subscriberID streamID :=
    rfl
  unfold catchUpResult pendingEvents
  simp only [hbudget, hcursor, Bool.false_eq_true, false_or, or_self]
  by_cases hold : s.committed subscriberID streamID < L.base
  · have hretained : replayTooOld (s.committed subscriberID streamID)
        (s.ensureStream streamID).retainedSeqStart = true := by
      rw [hL.start]
      exact replayTooOld_start.mpr hold
    rw [if_pos hold, if_pos hretained]
    refine iff_of_true ?_ (by simp)
    rintro ⟨⟩
  · have hretained : ¬ replayTooOld (s.committed subscriberID streamID)
        (s.ensureStream streamID).retainedSeqStart = true := by
      rw [hL.start, replayTooOld_start]
      exact hold
    rw [if_neg hold, if_neg hretained, hL.filter_events (not_lt.mp hold), ← events_batchAfter]
    exact ⟨fun h => h rfl, fun h _ => h⟩

variable (now) in
/-- Polling the bindings of a target succeeds when all pending events pass the checks. -/
theorem answer_catchUpBindings_iff (state : TargetState) (hs : Reachable s)
    (hsub : subscriberID ≠ "") {target : SyncTarget} {bindings : List StreamBinding}
    (hids : ∀ b ∈ bindings, b.streamID ≠ "") :
    (∃ part, answer now (catchUpBindings hooks actor subscriberID target state limit 0 operation
        bindings) s = .ok part) ↔
      ∀ b ∈ bindings, ∀ event ∈ pendingEvents s subscriberID b.streamID limit,
        Deliverable hooks actor subscriberID operation target b event := by
  induction bindings with
  | nil => exact iff_of_true ⟨[], rfl⟩ (by simp)
  | cons b bindings ih =>
      obtain ⟨result, hresult, hpending⟩ := answer_catchUp_pending limit now hs hsub
        (hids b List.mem_cons_self)
      unfold catchUpBindings
      rw [List.forall_mem_cons, ← hpending, ← resultBatch_ok_iff,
        ← ih fun b hb => hids b (List.mem_cons_of_mem _ hb),
        answer_bind (Engine.catchUp_only_reads _), hresult]
      show (∃ part, answer now (Prog.ofExcept (resultBatch hooks actor subscriberID target b
        operation result) >>= _) s = .ok part) ↔ _
      rw [answer_bind (ofExcept_only_reads _), answer_ofExcept]
      cases resultBatch hooks actor subscriberID target b operation result with
      | error err => exact iff_of_false (by rintro ⟨_, ⟨⟩⟩) (by rintro ⟨⟨_, ⟨⟩⟩, -⟩)
      | ok batch =>
          show (∃ part, answer now (_ >>= _) s = .ok part) ↔ _
          rw [answer_bind (catchUpBindings_only_reads hooks actor subscriberID target state limit 0
            operation bindings)]
          cases answer now (catchUpBindings hooks actor subscriberID target state limit 0 operation
              bindings) s with
          | error err => exact iff_of_false (by rintro ⟨_, ⟨⟩⟩) (by rintro ⟨-, ⟨_, ⟨⟩⟩⟩)
          | ok rest => exact iff_of_true ⟨_, rfl⟩ ⟨⟨_, rfl⟩, ⟨_, rfl⟩⟩

end Deliverable

/-! ## Accepting a target and polling it -/

section Accept

variable {Actor : Type} {hooks : Hooks Actor} {actor : Actor} {subscriberID : SubscriberID}
  {limit : Int} {operation : Operation} {now : Int} {s : Store}

/-- Targets are valid when each of them is. -/
theorem validateEach_ok_iff {targets : List SyncTarget} :
    validateEach targets = .ok () ↔
      ∀ target ∈ targets, validateTarget (some target) = .ok target := by
  induction targets with
  | nil =>
      unfold validateEach
      simp
  | cons target targets ih =>
      unfold validateEach
      rw [List.forall_mem_cons, ← ih]
      cases hvalid : validateTarget (some target) with
      | error err => exact iff_of_false (by rintro ⟨⟩) (by rintro ⟨⟨⟩, -⟩)
      | ok target' => rw [validateTarget_ok hvalid]; exact (and_iff_right rfl).symm

/-- A request needs at least one target, and valid ones. -/
theorem validateTargets_ok_iff {targets : List SyncTarget} :
    validateTargets targets = .ok () ↔
      targets ≠ [] ∧ ∀ target ∈ targets, validateTarget (some target) = .ok target := by
  unfold validateTargets
  rw [← validateEach_ok_iff]
  split_ifs with hempty
  · refine iff_of_false (by rintro ⟨⟩) ?_
    rintro ⟨hne, -⟩
    exact hne (List.length_eq_zero_iff.mp hempty)
  · refine (and_iff_right ?_).symm
    rintro rfl
    exact hempty rfl

/-- What `resolveSubscribeTarget` has checked when it succeeds. -/
theorem answer_resolveSubscribeTarget {target : SyncTarget} {state : TargetState}
    (h : answer now (resolveSubscribeTarget hooks actor subscriberID target) s = .ok state) :
    state.target = target ∧ ∃ bindings, resolveBindings hooks actor target = .ok bindings ∧
      hooks.authorize { actor, operation := .subscribe, target, subscriberID } = .ok () ∧
      answer now (targetState subscriberID target bindings) s = .ok state := by
  unfold resolveSubscribeTarget resolveTargetState at h
  rw [answer_bind (ofExcept_only_reads _), answer_ofExcept] at h
  cases hresolve : resolveBindings hooks actor target with
  | error err =>
      rw [hresolve] at h
      cases h
  | ok bindings =>
      rw [hresolve] at h
      change answer now (Prog.ofExcept _ >>= fun _ => targetState subscriberID target bindings) s =
        .ok state at h
      rw [answer_bind (ofExcept_only_reads _), answer_ofExcept] at h
      cases hauth : hooks.authorize { actor, operation := .subscribe, target, subscriberID } with
      | error err =>
          rw [hauth] at h
          cases h
      | ok =>
          rw [hauth] at h
          change answer now (targetState subscriberID target bindings) s = .ok state at h
          refine ⟨?_, bindings, rfl, rfl, h⟩
          unfold targetState at h
          rw [answer_bind (bindingStates_only_reads subscriberID bindings)] at h
          cases hstates : answer now (bindingStates subscriberID bindings) s with
          | error err =>
              rw [hstates] at h
              cases h
          | ok states =>
              rw [hstates] at h
              cases h
              rfl

variable (hooks actor) in
/-- Each state that `ResolveSubscribeTargets` returns is the state of an accepted target. -/
theorem run_resolveSubscribeEach (targets : List SyncTarget) :
    (Prog.run (handler now) (resolveSubscribeEach hooks actor subscriberID targets) s).2 = s ∧
      ∀ state ∈
          (Prog.run (handler now) (resolveSubscribeEach hooks actor subscriberID targets) s).1.1,
        ∃ target ∈ targets,
          answer now (resolveSubscribeTarget hooks actor subscriberID target) s = .ok state := by
  induction targets with
  | nil => exact ⟨rfl, by simp [resolveSubscribeEach, pure]⟩
  | cons target targets ih =>
      have hstate : (Prog.run (handler now)
          (resolveSubscribeTarget hooks actor subscriberID target).run s).2 = s :=
        (resolveTargetState_only_reads hooks actor subscriberID .subscribe target).run_state
          (fun β c s hc => handler_isRead now (.whole Store) β c s hc) s
      unfold resolveSubscribeEach
      rw [Prog.run_bind, hstate, Prog.run_bind, ih.1]
      have hanswer : (Prog.run (handler now)
          (resolveSubscribeTarget hooks actor subscriberID target).run s).1 =
            answer now (resolveSubscribeTarget hooks actor subscriberID target) s := rfl
      rw [hanswer]
      cases htarget : answer now (resolveSubscribeTarget hooks actor subscriberID target) s with
      | error err =>
          refine ⟨rfl, ?_⟩
          intro state hmem
          obtain ⟨target', htarget', hok⟩ := ih.2 state hmem
          exact ⟨target', List.mem_cons_of_mem _ htarget', hok⟩
      | ok state' =>
          refine ⟨rfl, ?_⟩
          intro state hmem
          rcases List.mem_cons.mp hmem with rfl | hmem
          · exact ⟨target, List.mem_cons_self, htarget⟩
          · obtain ⟨target', htarget', hok⟩ := ih.2 state hmem
            exact ⟨target', List.mem_cons_of_mem _ htarget', hok⟩

/-- An accepted target was resolved and authorized, and its state could be read. -/
theorem accepted {requested : SubscriberID} (hsub : resolveSubscriber hooks actor requested =
      .ok subscriberID) {adds : List SyncTarget} {states : List TargetState}
    {rejections : List TargetRejection}
    (h : answer now (resolveSubscribeTargets hooks actor requested adds) s =
      .ok (states, rejections))
    {state : TargetState} (hmem : state ∈ states) :
    ∃ bindings, resolveBindings hooks actor state.target = .ok bindings ∧
      hooks.authorize { actor, operation := .subscribe, target := state.target, subscriberID } =
        .ok () ∧
      answer now (targetState subscriberID state.target bindings) s = .ok state := by
  unfold resolveSubscribeTargets at h
  rw [answer_bind (ofExcept_only_reads _), answer_ofExcept, hsub] at h
  change answer now (ExceptT.lift (resolveSubscribeEach hooks actor subscriberID adds)) s = _ at h
  rw [answer_lift] at h
  have hstates := (run_resolveSubscribeEach hooks actor adds).2 state
    (by rw [Except.ok.inj h]; exact hmem)
  obtain ⟨target, -, hok⟩ := hstates
  obtain ⟨rfl, bindings, hresolve, hauth, hstate⟩ := answer_resolveSubscribeTarget hok
  exact ⟨bindings, hresolve, hauth, hstate⟩

variable (limit now) in
/-- Polling a target that was accepted succeeds when all its pending events pass the checks. -/
theorem answer_catchUpTarget_iff (hs : Reachable s) (hsub : subscriberID ≠ "")
    {target : SyncTarget} {bindings : List StreamBinding} {state : TargetState}
    (hresolve : resolveBindings hooks actor target = .ok bindings)
    (hauth : hooks.authorize { actor, operation, target, subscriberID } = .ok ())
    (hstate : answer now (targetState subscriberID target bindings) s = .ok state) :
    (∃ part, answer now (catchUpTarget hooks actor subscriberID limit 0 operation target) s =
        .ok part) ↔
      ∀ b ∈ bindings, ∀ event ∈ pendingEvents s subscriberID b.streamID limit,
        Deliverable hooks actor subscriberID operation target b event := by
  rw [← answer_catchUpBindings_iff now state hs hsub
    fun b hb => ((resolveBindings_ok hresolve).1 b hb).1]
  unfold catchUpTarget
  rw [answer_bind (ofExcept_only_reads _), answer_ofExcept, hresolve]
  show (∃ part, answer now (Prog.ofExcept _ >>= _) s = .ok part) ↔ _
  rw [answer_bind (ofExcept_only_reads _), answer_ofExcept, hauth]
  show (∃ part, answer now (targetState subscriberID target bindings >>= _) s = .ok part) ↔ _
  rw [answer_bind (targetState_only_reads subscriberID target bindings), hstate]
  rfl

/-- The responses of one target, polled alone. -/
def responsesFor (hooks : Hooks Actor) (actor : Actor) (subscriberID : SubscriberID) (limit : Int)
    (now : Int) (s : Store) (target : SyncTarget) : List GatewaySubscribeResponse :=
  (resultsFor hooks actor subscriberID limit 0 .subscribe now s target).map toSubscribeResponse

/-- The responses of a target carry its state. -/
theorem state_of_mem_responsesFor (hsub : subscriberID ≠ "") {target : SyncTarget}
    {response : GatewaySubscribeResponse}
    (h : response ∈ responsesFor hooks actor subscriberID limit now s target) :
    ∃ state, response.state = some state ∧ state.target = target := by
  unfold responsesFor resultsFor at h
  obtain ⟨result, hresult, rfl⟩ := List.mem_map.mp h
  cases hok : answer now (catchUpTarget hooks actor subscriberID limit 0 .subscribe target) s with
  | error err =>
      rw [hok] at hresult
      simp [Except.toOption] at hresult
  | ok results =>
      rw [hok] at hresult
      obtain ⟨-, bindings, -, hpolled⟩ := exec_catchUpTarget hsub (exec_of_answer now hok)
      obtain ⟨b, -, hb⟩ := exists_partner hpolled hresult
      obtain ⟨state, _, _, htarget, _, _, _, hread⟩ := hb.read
      exact ⟨state, hread.withState, htarget⟩

/-- A poll that runs alone: it succeeds when the poll of each target does, and concatenates. -/
theorem answer_gatewaySubscribePoll (req : GatewaySubscribeRequest)
    (hsub : resolveSubscriber hooks actor req.subscriberId = .ok subscriberID)
    {responses : List GatewaySubscribeResponse} :
    answer now (gatewaySubscribePoll hooks actor req) s = .ok responses ↔
      validateTargets req.targets = .ok () ∧
      (∀ target ∈ req.targets, ∃ part, answer now
        (catchUpTarget hooks actor subscriberID req.batchLimitPerTarget 0 .subscribe target) s =
          .ok part) ∧
      responses = req.targets.flatMap
        (responsesFor hooks actor subscriberID req.batchLimitPerTarget now s) := by
  unfold gatewaySubscribePoll
  rw [answer_bind (catchUp_only_reads hooks actor _ _ _ _ _)]
  unfold catchUp
  rw [answer_bind (ofExcept_only_reads _), answer_ofExcept, hsub]
  show (answer now (Prog.ofExcept _ >>= _) s >>= fun results => _) = .ok responses ↔ _
  rw [answer_bind (ofExcept_only_reads _), answer_ofExcept]
  cases validateTargets req.targets with
  | error err => exact iff_of_false (by rintro ⟨⟩) (by rintro ⟨⟨⟩, -⟩)
  | ok =>
      show (answer now (catchUpTargets hooks actor subscriberID req.batchLimitPerTarget 0
        .subscribe req.targets) s >>= fun results => Except.ok (results.map toSubscribeResponse)) =
          .ok responses ↔ _
      have hmap : req.targets.flatMap
          (responsesFor hooks actor subscriberID req.batchLimitPerTarget now s) =
            (req.targets.flatMap (resultsFor hooks actor subscriberID req.batchLimitPerTarget 0
              .subscribe now s)).map toSubscribeResponse := (List.map_flatMap ..).symm
      rw [hmap]
      cases hresults : answer now (catchUpTargets hooks actor subscriberID req.batchLimitPerTarget 0
          .subscribe req.targets) s with
      | error err =>
          refine iff_of_false (by rintro ⟨⟩) ?_
          rintro ⟨-, hall, -⟩
          have hok := answer_catchUpTargets.mpr ⟨hall, rfl⟩
          rw [hresults] at hok
          cases hok
      | ok results =>
          obtain ⟨hall, rfl⟩ := answer_catchUpTargets.mp hresults
          show Except.ok _ = Except.ok responses ↔ _
          constructor
          · rintro ⟨⟩
            exact ⟨rfl, hall, rfl⟩
          · rintro ⟨-, -, rfl⟩
            rfl

/-- Polling the request's targets together with `target`, in any order, succeeds and returns for the
old targets the responses that were returned without it. -/
def PollUnchanged (hooks : Hooks Actor) (actor : Actor) (now : Int) (s : Store)
    (req : GatewaySubscribeRequest) (responses : List GatewaySubscribeResponse)
    (target : SyncTarget) : Prop :=
  ∀ order : List SyncTarget, order.Perm (target :: req.targets) →
    ∃ responsesOf : SyncTarget → List GatewaySubscribeResponse,
      answer now (gatewaySubscribePoll hooks actor { req with targets := order }) s =
        .ok (order.flatMap responsesOf) ∧
      responses = req.targets.flatMap responsesOf ∧
      ∀ target, ∀ response ∈ responsesOf target,
        ∃ state, response.state = some state ∧ state.target = target

/-- **An added target and the targets of a live stream.** The poll of the old targets succeeds, and
`ResolveSubscribeTargets` has accepted the new one. Polling both leaves the responses of the old
targets as they were exactly when every pending event of the new target passes the checks that only
the poll makes. -/
theorem added_target_harmless_iff (hs : Reachable s) {req : GatewaySubscribeRequest}
    {responses : List GatewaySubscribeResponse}
    (hpoll : answer now (gatewaySubscribePoll hooks actor req) s = .ok responses)
    {adds : List SyncTarget} {states : List TargetState} {rejections : List TargetRejection}
    (hadd : answer now (resolveSubscribeTargets hooks actor req.subscriberId adds) s =
      .ok (states, rejections)) {state : TargetState} (hstate : state ∈ states) :
    PollUnchanged hooks actor now s req responses state.target ↔
      ∀ subscriberID bindings, resolveSubscriber hooks actor req.subscriberId = .ok subscriberID →
        resolveBindings hooks actor state.target = .ok bindings → ∀ b ∈ bindings,
          ∀ event ∈ pendingEvents s subscriberID b.streamID req.batchLimitPerTarget,
            Deliverable hooks actor subscriberID .subscribe state.target b event := by
  cases hsub : resolveSubscriber hooks actor req.subscriberId with
  | error err =>
      unfold gatewaySubscribePoll at hpoll
      rw [answer_bind (catchUp_only_reads hooks actor _ _ _ _ _)] at hpoll
      unfold catchUp at hpoll
      rw [answer_bind (ofExcept_only_reads _), answer_ofExcept, hsub] at hpoll
      cases hpoll
  | ok subscriberID =>
      have hne := resolveSubscriber_ne hsub
      obtain ⟨bindings, hresolve, hauth, hread⟩ := accepted hsub hadd hstate
      have htarget := answer_catchUpTarget_iff req.batchLimitPerTarget now hs hne hresolve
        hauth hread
      obtain ⟨hvalid, hall, rfl⟩ := (answer_gatewaySubscribePoll req hsub).mp hpoll
      have hcond : (∀ subscriberID' bindings',
          (Except.ok subscriberID : Except GoError SubscriberID) = .ok subscriberID' →
          resolveBindings hooks actor state.target = .ok bindings' → ∀ b ∈ bindings',
            ∀ event ∈ pendingEvents s subscriberID' b.streamID req.batchLimitPerTarget,
              Deliverable hooks actor subscriberID' .subscribe state.target b event) ↔
          ∃ part, answer now (catchUpTarget hooks actor subscriberID req.batchLimitPerTarget 0
            .subscribe state.target) s = .ok part := by
        rw [htarget]
        constructor
        · intro h
          exact h _ _ rfl hresolve
        · rintro h _ _ ⟨⟩ hresolve'
          rw [hresolve] at hresolve'
          cases hresolve'
          exact h
      rw [hcond]
      constructor
      · intro hunchanged
        obtain ⟨_, hok, -⟩ := hunchanged _ (.refl _)
        obtain ⟨-, hall', -⟩ := (answer_gatewaySubscribePoll
          { req with targets := state.target :: req.targets } hsub).mp hok
        exact hall' state.target List.mem_cons_self
      · intro hok order horder
        refine ⟨responsesFor hooks actor subscriberID req.batchLimitPerTarget now s, ?_, rfl,
          fun target response => state_of_mem_responsesFor hne⟩
        refine (answer_gatewaySubscribePoll { req with targets := order } hsub).mpr
          ⟨?_, ?_, rfl⟩
        · rw [validateTargets_ok_iff] at hvalid ⊢
          refine ⟨fun hnil => ?_, ?_⟩
          · simp only at hnil
            rw [hnil] at horder
            exact absurd horder.symm.eq_nil (List.cons_ne_nil _ _)
          · intro target hmem
            rcases List.mem_cons.mp (horder.mem_iff.mp hmem) with rfl | hold
            · exact validateTarget_of_resolveBindings hresolve
            · exact hvalid.2 target hold
        · intro target hmem
          rcases List.mem_cons.mp (horder.mem_iff.mp hmem) with rfl | hold
          · exact hok
          · exact hall target hold

end Accept

/-! ## An accepted target that ends the poll -/

/-- Hooks that resolve each target to the stream of its id and deny the payload type `secret`. -/
def secretHooks : Hooks Unit where
  resolveSubscriber _ requested := .ok requested
  resolveTarget _ target := .ok { bindings := [{ streamID := target.id }] }
  authorize req := if req.payloadType = "secret" then .error errAccessDenied else .ok ()
  allowPayload _ _ _ := .ok ()
  allowSnapshot _ _ _ := .ok ()
  canDecode _ _ := true

/-- One pending event of the denied type, on the stream `b`. -/
def secretBacklog : Store :=
  runOps [.append 0 { streamID := "b", payloadType := "secret" }] newStore

/-- The poll of the target `a`. -/
def pollA : GatewaySubscribeRequest where
  subscriberId := "u"
  targets := [{ ns := "n", id := "a" }]

/-- The target `b` is accepted, and polling it together with `a` fails: the stream ends. -/
theorem added_target_ends_poll :
    (∃ responses, answer 0 (gatewaySubscribePoll secretHooks () pollA) secretBacklog =
        .ok responses) ∧
      (∃ state, state.target = { ns := "n", id := "b" } ∧
        answer 0 (resolveSubscribeTargets secretHooks () "u" [{ ns := "n", id := "b" }])
          secretBacklog = .ok ([state], [])) ∧
      answer 0 (gatewaySubscribePoll secretHooks ()
        { pollA with targets := [{ ns := "n", id := "a" }, { ns := "n", id := "b" }] })
          secretBacklog = .error errAccessDenied :=
  ⟨⟨_, rfl⟩, ⟨_, rfl, rfl⟩, rfl⟩

/-- A target is added whose event the hooks refuse, and the others get nothing any more. -/
theorem added_target_harmless_iff_secret :
    ∃ (responses : List GatewaySubscribeResponse) (state : TargetState),
      (PollUnchanged secretHooks () 0 secretBacklog pollA responses state.target ↔
        ∀ subscriberID bindings,
          resolveSubscriber secretHooks () pollA.subscriberId = .ok subscriberID →
          resolveBindings secretHooks () state.target = .ok bindings → ∀ b ∈ bindings,
            ∀ event ∈ pendingEvents secretBacklog subscriberID b.streamID
                pollA.batchLimitPerTarget,
              Deliverable secretHooks () subscriberID .subscribe state.target b event) := by
  have hpoll : ∃ responses, answer 0 (gatewaySubscribePoll secretHooks () pollA) secretBacklog =
      .ok responses := ⟨_, rfl⟩
  have hadd : ∃ state, answer 0 (resolveSubscribeTargets secretHooks () pollA.subscriberId
      [{ ns := "n", id := "b" }]) secretBacklog = .ok ([state], []) := ⟨_, rfl⟩
  obtain ⟨responses, hpoll⟩ := hpoll
  obtain ⟨state, hadd⟩ := hadd
  exact ⟨responses, state, added_target_harmless_iff ⟨_, rfl⟩ hpoll hadd List.mem_cons_self⟩

end Synclog.Gateway
