import Synclog.Gateway.Ack
import Synclog.Memory.TooLong

/-!
# The gateway over a store that nobody else touches

What `GatewayCatchUp`, `GatewayGetLatestSnapshot` and `GatewayAck` do when nothing comes between
their calls, for a catch-up of one target. Each of them succeeds exactly where it is granted:

* `CatchUpGranted`, `catchUp_alone` — and then it has one result for each binding, `TOO_LONG` where
  the replay is (`TooLongAt`), else with the events that are `offered`.
* `SnapshotGranted`, `getLatestSnapshot_alone` — and then it answers the latest compatible snapshot.
* `AckGranted`, `ack_alone` — and then it has the effect `AckEffect`.
-/

namespace Synclog.Gateway

open Synclog.Lib Synclog.Core Synclog.Memory

/-! ## Replays -/

/-- A replay for a reader at `c` is too long: some of it is no longer retained, or it has more
events than the budget allows. -/
def TooLongAt (s : Store) (id : StreamID) (totalLimit : Int) (c : Nat) : Prop :=
  NeedsRemoved s id c ∨ OverBudget s id c totalLimit

/-- A reader further on has less to replay. -/
theorem TooLongAt.anti {s : Store} {id : StreamID} {totalLimit : Int} {c c' : Nat} (hle : c ≤ c')
    (h : TooLongAt s id totalLimit c') : TooLongAt s id totalLimit c := by
  have hsub : Finset.Ioc c' (s.ensureStream id).head ⊆ Finset.Ioc c (s.ensureStream id).head :=
    Finset.Ioc_subset_Ioc_left hle
  rcases h with ⟨n, hn, hgone⟩ | ⟨hpos, hlt⟩
  · exact .inl ⟨n, hsub hn, hgone⟩
  · have hcard := Finset.card_le_card hsub
    exact .inr ⟨hpos, by omega⟩

/-- The events that a batch for a subscriber offers. -/
def offered (s : Store) (subscriberID : SubscriberID) (streamID : StreamID) (limit : Int) :
    List Event :=
  ((s.ensureStream streamID).events.filter fun event =>
    s.committed subscriberID streamID < event.seq).take (normalizeLimit limit)

/-- What `CatchUp` answers alone: that the replay is too long, or the events that are offered. -/
theorem exists_run_catchUp {s : Store} (hs : Reachable s) (req : CatchUpRequest)
    (hsub : req.subscriberID ≠ "") (hid : req.streamID ≠ "") :
    ∃ answer, Prog.run (handler 0) (Engine.catchUp req).run s = (.ok answer, s) ∧
      (answer.status = .tooLong ∧ TooLongAt s req.streamID req.totalLimit
          (s.committed req.subscriberID req.streamID) ∨
        answer.status = .ok ∧ ¬ TooLongAt s req.streamID req.totalLimit
            (s.committed req.subscriberID req.streamID) ∧
          answer.batch.events = offered s req.subscriberID req.streamID req.limit ∧
          Consecutive Event.seq (s.committed req.subscriberID req.streamID + 1)
            answer.batch.events ∧
          (answer.batch.events = [] →
            (s.ensureStream req.streamID).head ≤ s.committed req.subscriberID req.streamID) ∧
          (answer.batch.final = true ↔ (s.ensureStream req.streamID).head ≤
            s.committed req.subscriberID req.streamID + normalizeLimit req.limit)) := by
  obtain ⟨L, hL⟩ := hs.holds req.streamID
  refine ⟨_, run_catchUp 0 hsub hid hL, ?_⟩
  unfold TooLongAt
  rw [needsRemoved_iff hL, ← replayOverBudget_iff, hL.head]
  unfold catchUpResult
  simp only
  split_ifs with hlong
  · refine .inl ⟨rfl, ?_⟩
    rcases hlong with hold | hbudget | hold
    · exact .inl hold
    · exact .inr hbudget
    · exact .inl hold
  · have hbase : L.base ≤ s.committed req.subscriberID req.streamID :=
      not_lt.mp fun hlt => hlong (.inl hlt)
    refine .inr ⟨rfl, fun h => hlong (h.imp_right .inl), ?_, numbered_batchAfter _ _ hL.numbered,
      fun hnone => ?_, ?_⟩
    · show (batchAfter L (s.committed req.subscriberID req.streamID) _).events = _
      unfold offered
      rw [events_batchAfter, hL.filter_events hbase]
    · have hlength := length_batchAfter (s.committed req.subscriberID req.streamID)
        (normalizeLimit req.limit) (L := L)
      have hempty := (congrArg List.length hnone).symm.trans hlength
      have hlimit := normalizeLimit_pos req.limit
      rw [List.length_nil] at hempty
      omega
    · show (batchAfter L (s.committed req.subscriberID req.streamID) _).final = true ↔ _
      rw [final_batchAfter, decide_eq_true_eq]

section Alone

variable {Actor : Type} (hooks : Hooks Actor) (actor : Actor)

/-! ## `GatewayCatchUp` -/

section CatchUp

variable (s : Store) (subscriberID : SubscriberID) (target : SyncTarget) (limit totalLimit : Int)
  (operation : Operation)

/-- The hooks let the subscriber see what is offered under a binding. -/
def Exposes (b : StreamBinding) : Prop :=
  ¬ TooLongAt s b.streamID totalLimit (s.committed subscriberID b.streamID) →
    checkEvents hooks actor subscriberID target b operation
      (offered s subscriberID b.streamID limit) = .ok ()

/-- The result for a binding says that its replay is too long, or has the events offered, and says
whether they are the last ones. -/
structure ResultFor (b : StreamBinding) (result : GatewayCatchUpResult) : Prop where
  forBinding : result.bindingKey = b.bindingKey
  answer : result.status = .tooLong ∧
      TooLongAt s b.streamID totalLimit (s.committed subscriberID b.streamID) ∨
    result.status = .ok ∧
      ¬ TooLongAt s b.streamID totalLimit (s.committed subscriberID b.streamID) ∧
      ∃ inner, result.batch = some (toGatewayBatch target b.bindingKey inner) ∧
        inner.events = offered s subscriberID b.streamID limit ∧
        Consecutive Event.seq (s.committed subscriberID b.streamID + 1) inner.events ∧
        (inner.events = [] →
          (s.ensureStream b.streamID).head ≤ s.committed subscriberID b.streamID) ∧
        (inner.final = true ↔ (s.ensureStream b.streamID).head ≤
          s.committed subscriberID b.streamID + normalizeLimit limit)

variable {hooks actor s subscriberID target limit totalLimit operation}

variable (hooks actor target limit totalLimit operation) in
/-- One binding: a result, or an error where the hooks do not let the subscriber see the events. -/
theorem resultBatch_alone (hs : Reachable s) (hsub : subscriberID ≠ "") {b : StreamBinding}
    (hid : b.streamID ≠ "") (state : TargetState) :
    ∃ answer, Prog.run (handler 0) (Engine.catchUp
        { subscriberID, streamID := b.streamID, limit, totalLimit }).run s = (.ok answer, s) ∧
      ((∃ batch, resultBatch hooks actor subscriberID target b operation answer = .ok batch ∧
          Exposes hooks actor s subscriberID target limit totalLimit operation b ∧
          ResultFor s subscriberID target limit totalLimit b
            { target, status := answer.status, batch, state := some state,
              bindingKey := b.bindingKey }) ∨
        ∃ err, resultBatch hooks actor subscriberID target b operation answer = .error err ∧
          ¬ Exposes hooks actor s subscriberID target limit totalLimit operation b) := by
  obtain ⟨answer, hrun, hanswer⟩ := exists_run_catchUp hs
    { subscriberID, streamID := b.streamID, limit, totalLimit } hsub hid
  refine ⟨answer, hrun, ?_⟩
  unfold resultBatch gatewayBatch
  rcases hanswer with ⟨hstatus, hlong⟩ | ⟨hstatus, hshort, hevents, hrest⟩
  · rw [hstatus, if_neg (by decide)]
    exact .inl ⟨none, rfl, fun hshort => absurd hlong hshort, rfl, .inl ⟨rfl, hlong⟩⟩
  · rw [hstatus, if_pos rfl, hevents]
    cases hcheck : checkEvents hooks actor subscriberID target b operation
        (offered s subscriberID b.streamID limit) with
    | error err =>
        refine .inr ⟨err, rfl, fun hexposes => ?_⟩
        have hok := hexposes hshort
        rw [hcheck] at hok
        cases hok
    | ok =>
        exact .inl ⟨_, rfl, fun _ => hcheck, rfl,
          .inr ⟨rfl, hshort, answer.batch, rfl, hevents, hrest⟩⟩

variable (hooks actor target limit totalLimit operation) in
/-- The loop over the bindings. -/
theorem catchUpBindings_alone (hs : Reachable s) (hsub : subscriberID ≠ "") (state : TargetState)
    {bindings : List StreamBinding} (hids : ∀ b ∈ bindings, b.streamID ≠ "") :
    (∃ results, Prog.run (handler 0) (catchUpBindings hooks actor subscriberID target state limit
          totalLimit operation bindings).run s = (.ok results, s) ∧
        (∀ b ∈ bindings, Exposes hooks actor s subscriberID target limit totalLimit operation b) ∧
        List.Forall₂ (ResultFor s subscriberID target limit totalLimit) bindings results) ∨
      ∃ err, Prog.run (handler 0) (catchUpBindings hooks actor subscriberID target state limit
          totalLimit operation bindings).run s = (.error err, s) ∧
        ∃ b ∈ bindings,
          ¬ Exposes hooks actor s subscriberID target limit totalLimit operation b := by
  induction bindings with
  | nil => exact .inl ⟨[], rfl, by simp, .nil⟩
  | cons b bindings ih =>
      unfold catchUpBindings
      obtain ⟨answer, hrun, hresult⟩ := resultBatch_alone hooks actor target limit totalLimit
        operation hs hsub (hids b List.mem_cons_self) state
      rw [Prog.run_bindE, hrun]
      simp only [Prog.run_ofExcept_bindE]
      rcases hresult with ⟨batch, hbatch, hexposes, hresult⟩ | ⟨err, herr, hhidden⟩
      · rw [hbatch]
        simp only [Prog.run_bindE]
        rcases ih fun b hb => hids b (List.mem_cons_of_mem _ hb) with
          ⟨results, hrest, hall, hforall⟩ | ⟨err, hrest, b', hb', hhidden⟩
        · rw [hrest]
          exact .inl ⟨_, rfl, List.forall_mem_cons.mpr ⟨hexposes, hall⟩, .cons hresult hforall⟩
        · rw [hrest]
          exact .inr ⟨err, rfl, b', List.mem_cons_of_mem _ hb', hhidden⟩
      · rw [herr]
        exact .inr ⟨err, rfl, b, List.mem_cons_self, hhidden⟩

variable (hooks actor s target limit totalLimit operation) in
/-- A catch-up of one target is granted: the subscriber and the target are resolved, the operation
is authorized, and the hooks let the subscriber see the events of every binding. -/
structure CatchUpGranted (requested : SubscriberID) (subscriberID : SubscriberID)
    (bindings : List StreamBinding) : Prop where
  subscriber : resolveSubscriber hooks actor requested = .ok subscriberID
  resolves : resolveBindings hooks actor target = .ok bindings
  authorized : hooks.authorize { actor, operation, target, subscriberID } = .ok ()
  exposes : ∀ b ∈ bindings, Exposes hooks actor s subscriberID target limit totalLimit operation b

variable (hooks actor target limit totalLimit operation) in
/-- A catch-up of one target, alone: it is granted and has a result for each binding, or it fails.
-/
theorem catchUp_alone (hs : Reachable s) (requested : SubscriberID) :
    (∃ results subscriberID bindings,
        Prog.run (handler 0) (catchUp hooks actor requested [target] limit totalLimit
          operation).run s = (.ok results, s) ∧
        CatchUpGranted hooks actor s target limit totalLimit operation requested subscriberID
          bindings ∧
        List.Forall₂ (ResultFor s subscriberID target limit totalLimit) bindings results) ∨
      ∃ err, Prog.run (handler 0) (catchUp hooks actor requested [target] limit totalLimit
          operation).run s = (.error err, s) ∧
        ∀ subscriberID bindings, ¬ CatchUpGranted hooks actor s target limit totalLimit operation
          requested subscriberID bindings := by
  unfold catchUp
  rw [Prog.run_ofExcept_bindE]
  rcases hsub : resolveSubscriber hooks actor requested with err | subscriberID
  · refine .inr ⟨err, rfl, fun _ _ h => ?_⟩
    cases hsub.symm.trans h.subscriber
  have hne := resolveSubscriber_ne hsub
  simp only [Prog.run_ofExcept_bindE]
  rcases hvalid : validateTargets [target] with err | _
  · refine .inr ⟨err, rfl, fun _ _ h => ?_⟩
    unfold validateTargets at hvalid
    simp [validateEach, validateTarget_of_resolveBindings h.resolves] at hvalid
  simp only [catchUpTargets, Prog.run_bindE]
  unfold catchUpTarget
  rw [Prog.run_ofExcept_bindE]
  rcases hresolve : resolveBindings hooks actor target with err | bindings
  · refine .inr ⟨err, rfl, fun _ _ h => ?_⟩
    cases hresolve.symm.trans h.resolves
  have hids : ∀ b ∈ bindings, b.streamID ≠ "" :=
    fun b hb => ((resolveBindings_ok hresolve).1 b hb).1
  simp only [Prog.run_ofExcept_bindE]
  rcases hauth : hooks.authorize { actor, operation, target, subscriberID } with err | _
  · refine .inr ⟨err, rfl, fun subscriberID' _ h => ?_⟩
    obtain rfl := Except.ok.inj (hsub.symm.trans h.subscriber)
    cases hauth.symm.trans h.authorized
  obtain ⟨state, hstate⟩ := run_targetState hne target hids s 0
  simp only [Prog.run_bindE, hstate]
  rcases catchUpBindings_alone hooks actor target limit totalLimit operation hs hne state hids with
    ⟨results, hrun, hexposes, hall⟩ | ⟨err, hrun, b, hb, hhidden⟩
  · rw [hrun]
    refine .inl ⟨results, subscriberID, bindings, ?_, ⟨hsub, hresolve, hauth, hexposes⟩, hall⟩
    show (Except.ok (results ++ []), s) = _
    rw [List.append_nil]
  · rw [hrun]
    refine .inr ⟨err, rfl, fun subscriberID' bindings' h => hhidden ?_⟩
    obtain rfl := Except.ok.inj (hsub.symm.trans h.subscriber)
    obtain rfl := Except.ok.inj (hresolve.symm.trans h.resolves)
    exact h.exposes b hb

end CatchUp

/-! ## `GatewayGetLatestSnapshot` -/

section Snapshot

variable (s : Store) (req : GatewayGetLatestSnapshotRequest)

/-- A request for a snapshot is granted: the subscriber, the target and the binding are resolved,
the hooks agree, and there is a compatible snapshot that can be decoded. -/
structure SnapshotGranted (subscriberID : SubscriberID) (target : SyncTarget)
    (bindings : List StreamBinding) (b : StreamBinding) (snapshot : Snapshot) : Prop where
  subscriber : resolveSubscriber hooks actor req.subscriberId = .ok subscriberID
  forTarget : req.target = some target
  typed : req.payloadType ≠ ""
  resolves : resolveBindings hooks actor target = .ok bindings
  authorized : hooks.authorize { actor, operation := .getSnapshot, target,
                                 payloadType := req.payloadType, subscriberID } = .ok ()
  selects : selectBinding bindings req.bindingKey = .ok b
  listed : requireAllowedType b.snapshotTypes req.payloadType "snapshot" = .ok ()
  allowed : hooks.allowSnapshot actor target req.payloadType = .ok ()
  stored : s.getLatestSnapshot b.streamID req.payloadType req.maxPayloadVersion = .ok snapshot
  decodable : hooks.canDecode snapshot.ref.payloadType snapshot.ref.payloadVersion = true

variable {hooks actor s req}

/-- A request that is granted is answered. -/
theorem SnapshotGranted.run {subscriberID : SubscriberID} {target : SyncTarget}
    {bindings : List StreamBinding} {b : StreamBinding} {snapshot : Snapshot}
    (h : SnapshotGranted hooks actor s req subscriberID target bindings b snapshot) :
    ∃ state, Prog.run (handler 0) (gatewayGetLatestSnapshot hooks actor req).run s =
      (.ok { snapshot := gatewaySnapshot target b snapshot, state }, s) := by
  have hids : ∀ b ∈ bindings, b.streamID ≠ "" :=
    fun b hb => ((resolveBindings_ok h.resolves).1 b hb).1
  obtain ⟨state, hstate⟩ := run_targetState (resolveSubscriber_ne h.subscriber) target hids s 0
  have hvalid : validateTarget req.target = .ok target := by
    rw [h.forTarget]
    exact validateTarget_of_resolveBindings h.resolves
  have hcodec : checkSnapshotCodec hooks snapshot.ref = .ok () := by
    unfold checkSnapshotCodec
    rw [if_pos h.decodable]
  have hread : handler 0 _ (.getLatestSnapshot b.streamID req.payloadType req.maxPayloadVersion) s =
      (.ok snapshot, s) := Prod.ext h.stored rfl
  refine ⟨state, ?_⟩
  unfold gatewayGetLatestSnapshot
  simp only [h.subscriber, hvalid, if_neg h.typed, h.resolves, h.authorized, h.selects, h.listed,
    h.allowed, Prog.ofExcept_ok_bind]
  rw [Prog.run_bindE, Prog.run_performE, hread]
  simp only [hcodec, Prog.ofExcept_ok_bind]
  rw [Prog.run_bindE, hstate]
  rfl

variable (hooks actor s req) in
/-- A request for a snapshot, alone: it is granted and answered, or it fails. -/
theorem getLatestSnapshot_alone :
    (∃ resp subscriberID target bindings b snapshot,
        Prog.run (handler 0) (gatewayGetLatestSnapshot hooks actor req).run s = (.ok resp, s) ∧
        SnapshotGranted hooks actor s req subscriberID target bindings b snapshot ∧
        resp.snapshot = gatewaySnapshot target b snapshot) ∨
      ∃ err, Prog.run (handler 0) (gatewayGetLatestSnapshot hooks actor req).run s =
          (.error err, s) ∧
        ∀ subscriberID target bindings b snapshot,
          ¬ SnapshotGranted hooks actor s req subscriberID target bindings b snapshot := by
  have hsame : (Prog.run (handler 0) (gatewayGetLatestSnapshot hooks actor req).run s).2 = s :=
    (gatewayGetLatestSnapshot_only_reads hooks actor req).run_state
      (fun β c s hc => handler_isRead 0 (.whole Store) β c s hc) s
  have hexec := Prog.exec_run (handler 0) (fun _ _ => False)
    (gatewayGetLatestSnapshot hooks actor req).run s
  rcases hanswer : (Prog.run (handler 0) (gatewayGetLatestSnapshot hooks actor req).run s).1 with
    err | resp
  · refine .inr ⟨err, Prod.ext hanswer hsame, fun _ _ _ _ _ h => ?_⟩
    obtain ⟨state, hrun⟩ := h.run
    rw [hrun] at hanswer
    cases hanswer
  · rw [hanswer, ← handler_within_whole] at hexec
    obtain ⟨subscriberID, target, bindings, b, snapshot, hread⟩ :=
      exec_gatewayGetLatestSnapshot hexec
    obtain ⟨u, hu, -, hstored⟩ := hread.stored
    obtain rfl := Prog.eq_of_alone hu
    exact .inl ⟨resp, subscriberID, target, bindings, b, snapshot, Prod.ext hanswer hsame,
      ⟨hread.canonical, hread.forTarget, hread.typed, hread.resolved, hread.authorized,
        hread.selected, hread.listed, hread.allowed, hstored, hread.decodable⟩, hread.answered⟩

end Snapshot

/-! ## `GatewayAck` -/

section Ack

variable (s : Store) (req : GatewayAckRequest)

/-- An acknowledgement is granted: the subscriber, the target and the binding are resolved, the
operation is authorized, and the seq is not above the head. -/
structure AckGranted (subscriberID : SubscriberID) (target : SyncTarget)
    (bindings : List StreamBinding) (b : StreamBinding) : Prop where
  subscriber : resolveSubscriber hooks actor req.subscriberId = .ok subscriberID
  forTarget : req.target = some target
  resolves : resolveBindings hooks actor target = .ok bindings
  authorized : hooks.authorize { actor, operation := .ack, target, subscriberID } = .ok ()
  selects : selectBinding bindings req.bindingKey = .ok b
  within : req.seq ≤ (s.ensureStream b.streamID).head

variable {hooks actor s req}

/-- A selected binding is one of the bindings. -/
theorem mem_of_selectBinding {bindings : List StreamBinding} {bindingKey : String}
    {b : StreamBinding} (h : selectBinding bindings bindingKey = .ok b) : b ∈ bindings := by
  obtain ⟨honly, hnamed⟩ := selectBinding_ok h
  by_cases hempty : bindingKey = ""
  · rw [honly hempty]
    exact List.mem_singleton_self b
  · exact (hnamed hempty).1

/-- `Engine.Ack`, alone: it acknowledges a seq up to the head, and fails above it. -/
theorem engine_ack_alone (hs : Reachable s) (req : AckRequest) (hsub : req.subscriberID ≠ "")
    (hid : req.streamID ≠ "") :
    (∃ result t, Prog.run (handler 0) (Engine.ack req).run s = (.ok result, t) ∧
        req.seq ≤ (s.ensureStream req.streamID).head ∧ Reachable t ∧
        AckEffect s req.subscriberID req.streamID req.seq req.metadata t) ∨
      ∃ err, Prog.run (handler 0) (Engine.ack req).run s = (.error err, s) ∧
        (s.ensureStream req.streamID).head < req.seq := by
  rw [run_engine_ack 0 hsub hid]
  split_ifs with habove
  · exact .inr ⟨_, rfl, habove⟩
  · have hle := Nat.le_of_not_lt habove
    obtain ⟨cursor, hok⟩ := Store.ack_ok hs.cursorsNamed hsub hid
    rw [hok]
    exact .inl ⟨_, _, rfl, hle, hs.apply (.ack req), ackEffect_ack hs hsub hid hle⟩

variable (hooks actor req) in
/-- An acknowledgement, alone: it is granted and moves the cursor of its binding, or it fails. -/
theorem ack_alone (hs : Reachable s) :
    (∃ state t subscriberID target bindings b,
        Prog.run (handler 0) (gatewayAck hooks actor req).run s = (.ok state, t) ∧
        AckGranted hooks actor s req subscriberID target bindings b ∧ Reachable t ∧
        AckEffect s subscriberID b.streamID req.seq req.metadata t) ∨
      ∃ err, Prog.run (handler 0) (gatewayAck hooks actor req).run s = (.error err, s) ∧
        ∀ subscriberID target bindings b,
          ¬ AckGranted hooks actor s req subscriberID target bindings b := by
  unfold gatewayAck
  rw [Prog.run_ofExcept_bindE]
  rcases hsub : resolveSubscriber hooks actor req.subscriberId with err | subscriberID
  · refine .inr ⟨err, rfl, fun _ _ _ _ h => ?_⟩
    cases hsub.symm.trans h.subscriber
  have hne := resolveSubscriber_ne hsub
  simp only [Prog.run_ofExcept_bindE]
  rcases hvalid : validateTarget req.target with err | target
  · refine .inr ⟨err, rfl, fun _ _ _ _ h => ?_⟩
    rw [h.forTarget, validateTarget_of_resolveBindings h.resolves] at hvalid
    cases hvalid
  have htarget : req.target = some target := by
    rcases hreq : req.target with _ | target'
    · rw [hreq] at hvalid
      cases hvalid
    · rw [hreq] at hvalid
      rw [validateTarget_ok hvalid]
  simp only
  rcases hresolve : resolveBindings hooks actor target with err | bindings
  · refine .inr ⟨err, rfl, fun _ _ _ _ h => ?_⟩
    obtain rfl := Option.some.inj (htarget.symm.trans h.forTarget)
    cases hresolve.symm.trans h.resolves
  have hids : ∀ b ∈ bindings, b.streamID ≠ "" :=
    fun b hb => ((resolveBindings_ok hresolve).1 b hb).1
  simp only
  rcases hauth : hooks.authorize { actor, operation := .ack, target, subscriberID } with err | _
  · refine .inr ⟨err, rfl, fun _ _ _ _ h => ?_⟩
    obtain rfl := Except.ok.inj (hsub.symm.trans h.subscriber)
    obtain rfl := Option.some.inj (htarget.symm.trans h.forTarget)
    cases hauth.symm.trans h.authorized
  simp only
  rcases hselect : selectBinding bindings req.bindingKey with err | b
  · refine .inr ⟨err, rfl, fun _ _ _ _ h => ?_⟩
    obtain rfl := Option.some.inj (htarget.symm.trans h.forTarget)
    obtain rfl := Except.ok.inj (hresolve.symm.trans h.resolves)
    cases hselect.symm.trans h.selects
  have hack := engine_ack_alone hs
    { subscriberID, streamID := b.streamID, seq := req.seq, metadata := req.metadata } hne
    (hids b (mem_of_selectBinding hselect))
  simp only [Prog.run_bindE]
  rcases hack with ⟨result, t, hrun, hle, hreach, heffect⟩ | ⟨err, hrun, habove⟩
  · obtain ⟨state, hstate⟩ := run_targetState hne target hids t 0
    rw [hrun]
    exact .inl ⟨state, t, subscriberID, target, bindings, b, hstate,
      ⟨hsub, htarget, hresolve, hauth, hselect, hle⟩, hreach, heffect⟩
  · rw [hrun]
    refine .inr ⟨err, rfl, fun _ _ _ _ h => ?_⟩
    obtain rfl := Option.some.inj (htarget.symm.trans h.forTarget)
    obtain rfl := Except.ok.inj (hresolve.symm.trans h.resolves)
    obtain rfl := Except.ok.inj (hselect.symm.trans h.selects)
    exact absurd h.within (Nat.not_le_of_lt habove)

/-! ## What an acknowledgement leaves alone -/

variable {subscriberID : SubscriberID} {streamID : StreamID} {seq : Nat} {metadata : String}
  {t : Store}

/-- No replay changes, but for where the acknowledged subscriber begins it. -/
theorem AckEffect.tooLongAt_iff (h : AckEffect s subscriberID streamID seq metadata t)
    {id : StreamID} {totalLimit : Int} {c : Nat} :
    TooLongAt t id totalLimit c ↔ TooLongAt s id totalLimit c := by
  rw [h.rest]
  exact Iff.rfl

/-- The cursors on the other streams stay. -/
theorem AckEffect.committed_of_ne (h : AckEffect s subscriberID streamID seq metadata t)
    {id : StreamID} (hne : id ≠ streamID) :
    t.committed subscriberID id = s.committed subscriberID id := by
  unfold Store.committed Store.cursorOf
  rw [h.others ⟨subscriberID, id⟩ (by simpa using hne)]

/-- What is offered on the other streams stays. -/
theorem AckEffect.offered_of_ne (h : AckEffect s subscriberID streamID seq metadata t)
    {id : StreamID} (hne : id ≠ streamID) (limit : Int) :
    offered t subscriberID id limit = offered s subscriberID id limit := by
  unfold offered
  rw [h.committed_of_ne hne, h.rest]
  rfl

/-- An acknowledgement that is not ahead of the cursor moves no cursor. -/
theorem AckEffect.committed_of_le (h : AckEffect s subscriberID streamID seq metadata t)
    (hle : seq ≤ s.committed subscriberID streamID) (id : StreamID) :
    t.committed subscriberID id = s.committed subscriberID id := by
  by_cases hid : id = streamID
  · rw [hid, h.cursor, max_eq_left hle]
  · exact h.committed_of_ne hid

/-- Neither does it change what is offered. -/
theorem AckEffect.offered_of_le (h : AckEffect s subscriberID streamID seq metadata t)
    (hle : seq ≤ s.committed subscriberID streamID) (id : StreamID) (limit : Int) :
    offered t subscriberID id limit = offered s subscriberID id limit := by
  unfold offered
  rw [h.committed_of_le hle, h.rest]
  rfl

/-- An acknowledgement that is granted is granted again, also for a lower seq. -/
theorem AckGranted.again {req req' : GatewayAckRequest} {target : SyncTarget}
    {bindings : List StreamBinding} {b : StreamBinding}
    (hgranted : AckGranted hooks actor s req subscriberID target bindings b)
    (h : AckEffect s subscriberID streamID seq metadata t)
    (hreq : req' = { req with seq := req'.seq }) (hle : req'.seq ≤ req.seq) :
    AckGranted hooks actor t req' subscriberID target bindings b := by
  have hhead : (t.ensureStream b.streamID).head = (s.ensureStream b.streamID).head := by
    rw [h.rest]
    rfl
  rw [hreq]
  exact { hgranted with within := hle.trans (hgranted.within.trans_eq hhead.symm) }

/-- A catch-up that is granted stays granted, if the replay on the acknowledged stream is too long,
or the acknowledgement does not move the cursor. -/
theorem CatchUpGranted.ack {target : SyncTarget} {limit totalLimit : Int} {operation : Operation}
    {requested : SubscriberID} {bindings : List StreamBinding}
    (hgranted : CatchUpGranted hooks actor s target limit totalLimit operation requested
      subscriberID bindings)
    (h : AckEffect s subscriberID streamID seq metadata t)
    (hsame : TooLongAt t streamID totalLimit (t.committed subscriberID streamID) ∨
      seq ≤ s.committed subscriberID streamID) :
    CatchUpGranted hooks actor t target limit totalLimit operation requested subscriberID
      bindings := by
  refine { hgranted with exposes := ?_ }
  intro b hb hshort
  by_cases hid : b.streamID = streamID
  · rcases hsame with hlong | hle
    · rw [hid] at hshort
      exact absurd hlong hshort
    · rw [h.offered_of_le hle]
      refine hgranted.exposes b hb ?_
      rwa [h.tooLongAt_iff, h.committed_of_le hle] at hshort
  · rw [h.offered_of_ne hid]
    refine hgranted.exposes b hb ?_
    rwa [h.tooLongAt_iff, h.committed_of_ne hid] at hshort

end Ack

end Alone

end Synclog.Gateway
