import Synclog.Gateway.Poll
import Synclog.Gateway.Registry
import Synclog.Transport.Subscribe

/-!
# The gateway subscribe loop

`Server.GatewaySubscribe` of `pkg/gateway/transport/grpc/server.go` as a machine. Its steps
interleave with operations on the store and with modifications of its target set in any order: one
step of the loop is one call of the poll, or the treatment of one response. The waits may return at
any time, and the context may end or a send may fail at any time (`fail`).

The maps `delivered` and `tooLongSent` are one map of marks. They are written under the same keys
and pruned together, and a missing entry is read as the zero value.

* `Loop`, `gatewayLoop` — the machine; `gatewayLoop_cases` lists what one step can do.
* `Bound`, `DistinctKeys` — the bindings that a stream can be about, and that their keys tell them
  apart.
* `Loop.Expects`, `Loop.rel_step` — what one step keeps of what is known of the responses of a poll,
  and of what relates the mark of a key to the frames sent under it.
* `LoopInv`, `loopInv_step`, `loopInv_run` — what holds in every state of every run.
-/

namespace Synclog.Transport

open Synclog.Lib Synclog.Core Synclog.Memory Synclog.Gateway
open Relation (ReflTransGen)

/-! ## The machine -/

/-- The events of a response.
Source: `resp.GetBatch().GetEvents()`. -/
def events (resp : GatewaySubscribeResponse) : List GatewayEvent :=
  match resp.batch with
  | some batch => batch.events
  | none => []

/-- Source: `resp.GetBatch().GetSeq()`. -/
def batchSeq (resp : GatewaySubscribeResponse) : Nat :=
  match resp.batch with
  | some batch => batch.seq
  | none => 0

/-- Source: `resp.GetBatch().GetFinal()`. -/
def batchFinal (resp : GatewaySubscribeResponse) : Bool :=
  match resp.batch with
  | some batch => batch.final
  | none => false

/-- Where the loop stands; `sleeping` is in `waitWake`, `watching` in `waitOrWake`. -/
inductive LoopPc
  | top
  | polling (p : Prog StoreCall (Except GoError (List GatewaySubscribeResponse)))
  | responding (rest : List GatewaySubscribeResponse) (sent hasMore throttled : Bool)
  | sleeping
  | watching
  | ended

/-- What the loop has done that matters afterwards: it has sent a heartbeat, or a response under a
key (with the store at that time, and the mark before the response was treated), or it has dropped
the entries of a key. -/
inductive LoopEvent
  | heartbeat (serverTimeUnixMs : Int)
  | response (key : String) (resp : GatewaySubscribeResponse) (store : Traced Store) (mark : Mark)
  | dropped (key : String)

/-- Source: `server.go`, `Server.GatewaySubscribe`: the variables of the loop, with the store and
with what the loop has done, newest first. -/
structure Loop where
  store : Traced Store
  sub : LiveSub
  marks : FinMap String Mark := ∅
  lastHeartbeat : Int
  pc : LoopPc := .top
  log : List LoopEvent := []

/-- Source: package `strings`, `HasPrefix`. -/
def hasPrefix (s pre : String) : Bool := pre.toList.isPrefixOf s.toList

namespace Loop

/-- The marks of a key; a missing entry is the zero value. -/
def mark (σ : Loop) (key : String) : Mark := (σ.marks.lookup key).getD {}

/-- Whether the entries of a key survive while these targets are active.
Source: `server.go`, `pruneDeliveryState`, `keep`. -/
def keeps (targets : List SyncTarget) (key : String) : Bool :=
  targets.any fun t => hasPrefix key (targetKey t ++ "#")

/-- Source: `server.go`, `pruneDeliveryState`. -/
def pruneDeliveryState (σ : Loop) (targets : List SyncTarget) : Loop :=
  { σ with
    marks := σ.marks.keep (keeps targets)
    log := ((σ.marks.keys.filter fun key => !keeps targets key).map .dropped) ++ σ.log }

/-- A heartbeat when one is due. -/
def beat (σ : Loop) (heartbeatEvery now : Int) : Loop :=
  if now - σ.lastHeartbeat ≥ heartbeatEvery then
    { σ with lastHeartbeat := now, log := .heartbeat (unixMS now) :: σ.log }
  else σ

/-- What the source's loop body makes of one response: the outcome, and the new mark of its key.
Source: `server.go`, `Server.GatewaySubscribe`, the loop over the responses. -/
def judge (σ : Loop) (req : GatewaySubscribeRequest) (resp : GatewaySubscribeResponse) :
    Outcome × Mark :=
  let mark := σ.mark (responseKey resp)
  match resp.state with
  | some state => mark.step req.maxInFlightPerTarget (bindingCursorSeq state resp.bindingKey)
      resp.status (!(events resp).isEmpty) (batchSeq resp)
  | none => mark.settle resp.status (!(events resp).isEmpty) (batchSeq resp)

/-- The treatment of one response.
Source: `server.go`, `Server.GatewaySubscribe`, the loop over the responses. -/
def respond (σ : Loop) (req : GatewaySubscribeRequest) (now : Int) (resp : GatewaySubscribeResponse)
    (rest : List GatewaySubscribeResponse) (sent hasMore throttled : Bool) : Loop :=
  let key := responseKey resp
  let (outcome, mark) := σ.judge req resp
  let frame :=
    LoopEvent.response key { resp with serverTimeUnixMs := unixMS now } σ.store (σ.mark key)
  -- where the source writes no entry, this one has the value that was read
  let σ := { σ with marks := σ.marks.insert key mark }
  match outcome with
  | .throttled => { σ with pc := .responding rest sent hasMore true }
  | .silent => { σ with pc := .responding rest sent hasMore throttled }
  | .announced =>
    { σ with log := frame :: σ.log, pc := .responding rest true hasMore throttled }
  | .delivered =>
    { σ with
      log := frame :: σ.log
      pc := .responding rest true (hasMore || !batchFinal resp) throttled }

/-- The beginning of the loop body.
Source: `server.go`, `Server.GatewaySubscribe`, up to the poll. -/
def begin {Actor : Type} (σ : Loop) (hooks : Hooks Actor) (actor : Actor)
    (req : GatewaySubscribeRequest) (heartbeatEvery now : Int) : Loop :=
  let targets := σ.sub.snapshot
  let σ := σ.pruneDeliveryState targets
  if targets.length = 0 then { σ.beat heartbeatEvery now with pc := .sleeping }
  else { σ with pc := .polling (gatewaySubscribePoll hooks actor { req with targets }).run }

/-- The end of the loop body.
Source: `server.go`, `Server.GatewaySubscribe`, behind the loop over the responses. -/
def finish (σ : Loop) (heartbeatEvery now : Int) (sent hasMore throttled : Bool) : Loop :=
  let σ := if sent then σ else σ.beat heartbeatEvery now
  { σ with pc := if hasMore then .top else if throttled then .sleeping else .watching }

/-- The state in which a stream begins. -/
def start (s : Store) (req : GatewaySubscribeRequest) (now : Int) : Loop where
  store := { now := s }
  sub := .new req.subscriberId req.targets
  lastHeartbeat := now

end Loop

/-- What happens next: another party performs an operation that keeps the cursors, or modifies the
target set, adding targets of `U` only; a wait takes the token of the wake channel; the loop takes
its next step at the time `now`; the wait returns; or the stream ends. -/
inductive LoopLabel (U : Set SyncTarget)
  | env (op : Op) (keeps : op.KeepsCursors)
  | modify (add remove : List SyncTarget) (adds : ∀ t ∈ add, t ∈ U)
  | takeWake
  | loop (now : Int)
  | resume
  | fail

/-- Source: `server.go`, `Server.GatewaySubscribe`. -/
def gatewayLoop {Actor : Type} (hooks : Hooks Actor) (actor : Actor) (req : GatewaySubscribeRequest)
    (U : Set SyncTarget) (heartbeatEvery : Int) : Machine Loop (LoopLabel U) where
  step
    | .env op _, σ => some { σ with store := σ.store.push (op.apply σ.store.now) }
    | .modify add remove _, σ => some { σ with sub := σ.sub.apply add remove }
    | .takeWake, σ =>
      if σ.sub.wake then some { σ with sub := { σ.sub with wake := false } } else none
    | .loop now, σ =>
      match σ.pc with
      | .top => some (σ.begin hooks actor req heartbeatEvery now)
      | .polling (.call c k) =>
        some { σ with
          store := (pollHandler _ c σ.store).2
          pc := .polling (k (pollHandler _ c σ.store).1) }
      | .polling (.ret (.ok responses)) =>
        some { σ with pc := .responding responses false false false }
      | .polling (.ret (.error _)) => some { σ with pc := .ended }
      | .responding (resp :: rest) sent hasMore throttled =>
        some (σ.respond req now resp rest sent hasMore throttled)
      | .responding [] sent hasMore throttled =>
        some (σ.finish heartbeatEvery now sent hasMore throttled)
      | .sleeping | .watching | .ended => none
    | .resume, σ =>
      match σ.pc with
      | .sleeping | .watching => some { σ with pc := .top }
      | _ => none
    | .fail, σ => some { σ with pc := .ended }

section Steps

variable {Actor : Type} {hooks : Hooks Actor} {actor : Actor} {req : GatewaySubscribeRequest}
  {U : Set SyncTarget} {heartbeatEvery : Int} {σ τ : Loop}

variable (hooks actor req U heartbeatEvery σ) in
/-- What one step of the machine can do. -/
inductive LoopStep : Loop → Prop
  | env {op : Op} (keeps : op.KeepsCursors) :
      LoopStep { σ with store := σ.store.push (op.apply σ.store.now) }
  | modify {add : List SyncTarget} (remove : List SyncTarget) (adds : ∀ t ∈ add, t ∈ U) :
      LoopStep { σ with sub := σ.sub.apply add remove }
  | takeWake : LoopStep { σ with sub := { σ.sub with wake := false } }
  | begin (now : Int) : LoopStep (σ.begin hooks actor req heartbeatEvery now)
  | call {β : Type} {c : StoreCall β}
      {k : β → Prog StoreCall (Except GoError (List GatewaySubscribeResponse))}
      (hpc : σ.pc = .polling (.call c k)) :
      LoopStep { σ with
        store := (pollHandler _ c σ.store).2
        pc := .polling (k (pollHandler _ c σ.store).1) }
  | polled {responses : List GatewaySubscribeResponse}
      (hpc : σ.pc = .polling (.ret (.ok responses))) :
      LoopStep { σ with pc := .responding responses false false false }
  | respond (now : Int) {resp : GatewaySubscribeResponse} {rest : List GatewaySubscribeResponse}
      {sent hasMore throttled : Bool}
      (hpc : σ.pc = .responding (resp :: rest) sent hasMore throttled) :
      LoopStep (σ.respond req now resp rest sent hasMore throttled)
  | finish (now : Int) (sent hasMore throttled : Bool) :
      LoopStep (σ.finish heartbeatEvery now sent hasMore throttled)
  | leave {pc : LoopPc} (hpoll : ∀ p, pc ≠ .polling p)
      (hrespond : ∀ rest sent hasMore throttled, pc ≠ .responding rest sent hasMore throttled) :
      LoopStep { σ with pc }

/-- What a step does. -/
theorem gatewayLoop_cases {l : LoopLabel U}
    (hstep : (gatewayLoop hooks actor req U heartbeatEvery).step l σ = some τ) :
    LoopStep hooks actor req U heartbeatEvery σ τ := by
  unfold gatewayLoop at hstep
  cases l with
  | env op keeps =>
      cases hstep
      exact .env keeps
  | modify add remove adds =>
      cases hstep
      exact .modify remove adds
  | takeWake =>
      simp only at hstep
      split_ifs at hstep
      cases hstep
      exact .takeWake
  | loop now =>
      simp only at hstep
      split at hstep
      · cases hstep
        exact .begin now
      · rename_i hpc
        cases hstep
        exact .call hpc
      · rename_i hpc
        cases hstep
        exact .polled hpc
      · cases hstep
        exact .leave (by simp) (by simp)
      · rename_i hpc
        cases hstep
        exact .respond now hpc
      · cases hstep
        exact .finish now _ _ _
      all_goals cases hstep
  | resume =>
      simp only at hstep
      split at hstep
      · cases hstep
        exact .leave (by simp) (by simp)
      · cases hstep
        exact .leave (by simp) (by simp)
      · cases hstep
  | fail =>
      cases hstep
      exact .leave (by simp) (by simp)

end Steps

/-! ## What a stream is about -/

section Bound

variable {Actor : Type} (hooks : Hooks Actor) (actor : Actor) (subscriberID : SubscriberID)
  (U : Set SyncTarget)

/-- The target is one of `U`, and the binding one of those it resolves to. -/
def Bound (target : SyncTarget) (b : StreamBinding) : Prop :=
  target ∈ U ∧ ∃ bindings, resolveBindings hooks actor target = .ok bindings ∧ b ∈ bindings

/-- The key under which a binding of a target is delivered. -/
def keyOf (target : SyncTarget) (b : StreamBinding) : String :=
  targetBindingKey target b.bindingKey

/-- The encoded keys of the targets are pairwise distinct. -/
def DistinctKeys : Prop :=
  ∀ target target' b b', Bound hooks actor U target b → Bound hooks actor U target' b' →
    keyOf target b = keyOf target' b' → target = target' ∧ b.bindingKey = b'.bindingKey

/-- The committed cursor that a binding is about. -/
def committedOf (b : StreamBinding) (s : Store) : Nat := s.committed subscriberID b.streamID

/-- What is known of a response of a poll from the time on at which the poll ended. -/
def ResponseOk (store : Traced Store) (resp : GatewaySubscribeResponse) : Prop :=
  ∃ target b state, Bound hooks actor U target b ∧ resp.state = some state ∧
    responseKey resp = keyOf target b ∧
    AnswerOk (committedOf subscriberID b store.now) (bindingCursorSeq state resp.bindingKey)
      ((events resp).map GatewayEvent.seq) (batchSeq resp) ∧
    (events resp ≠ [] →
      ContiguousFrom (committedOf subscriberID b) store GatewayEvent.seq (events resp)
        (batchSeq resp))

variable {hooks actor subscriberID U}

/-- A key belongs to one binding only. -/
theorem DistinctKeys.eq (h : DistinctKeys hooks actor U) {target target' : SyncTarget}
    {b b' : StreamBinding} (hb : Bound hooks actor U target b)
    (hb' : Bound hooks actor U target' b')
    (hkey : keyOf target b = keyOf target' b') : target = target' ∧ b = b' := by
  obtain ⟨rfl, hbinding⟩ := h target target' b b' hb hb' hkey
  obtain ⟨-, bindings, hresolve, hmem⟩ := hb
  obtain ⟨-, bindings', hresolve', hmem'⟩ := hb'
  rw [hresolve] at hresolve'
  cases hresolve'
  exact ⟨rfl, List.inj_on_of_nodup_map (resolveBindings_ok hresolve).2 hmem hmem' hbinding⟩

/-- The bindings of one target always have distinct keys. -/
theorem distinctKeys_singleton (hooks : Hooks Actor) (actor : Actor) (target : SyncTarget) :
    DistinctKeys hooks actor {target} := by
  rintro t t' b b' ⟨rfl, -⟩ ⟨rfl, -⟩ hkey
  refine ⟨rfl, ?_⟩
  unfold keyOf targetBindingKey at hkey
  exact (String.append_right_inj _).mp hkey

/-- A right response stays right while others go on. -/
theorem ResponseOk.later {σ τ : Traced Store} {resp : GatewaySubscribeResponse}
    (h : ResponseOk hooks actor subscriberID U σ resp) (hσ : Reachable σ.now)
    (hsteps : ReflTransGen EnvStep σ τ) : ResponseOk hooks actor subscriberID U τ resp := by
  obtain ⟨-, hpast, hle⟩ := envSteps_later hσ hsteps
  obtain ⟨target, b, state, hbound, hstate, hkey, hanswer, hcontiguous⟩ := h
  exact ⟨target, b, state, hbound, hstate, hkey, hanswer.mono (hle _ _),
    fun hne => (hcontiguous hne).later hpast⟩

/-- The batch of a result has the numbers of the batch of the catch-up, or it is empty. -/
theorem resultBatch_cases {target : SyncTarget} {b : StreamBinding} {operation : Operation}
    {result : CatchUpResult} {batch : Option GatewayBatch}
    (h : resultBatch hooks actor subscriberID target b operation result = .ok batch) :
    batch = none ∨ batch = some (toGatewayBatch target b.bindingKey result.batch) := by
  rw [resultBatch_eq h]
  split_ifs
  · exact .inr rfl
  · exact .inl rfl

/-- The key of a response is the one of its target and binding. -/
theorem responseKey_eq {resp : GatewaySubscribeResponse} {state : TargetState} {b : StreamBinding}
    (hstate : resp.state = some state) (hkey : resp.bindingKey = b.bindingKey) :
    responseKey resp = keyOf state.target b := by
  unfold responseKey keyOf
  simp only [hstate, hkey]

variable (subscriberID) in
/-- What a response for a binding says after a poll between `σ` and `τ`: the cursor in its state was
committed between the two, and its events lie right behind the cursor committed in the later store
`u`, no more of them than a batch may have. -/
structure FromPoll (σ τ : Traced Store) (limit : Nat) (b : StreamBinding)
    (resp : GatewaySubscribeResponse) (state : TargetState) (u : Store) : Prop where
  withState : resp.state = some state
  binding : resp.bindingKey = b.bindingKey
  past : u ∈ τ.states
  since : committedOf subscriberID b σ.now ≤ bindingCursorSeq state resp.bindingKey
  cursor : bindingCursorSeq state resp.bindingKey ≤ committedOf subscriberID b u
  committed : committedOf subscriberID b u ≤ committedOf subscriberID b τ.now
  run : events resp ≠ [] →
    resp.status = .ok ∧ (events resp).length ≤ limit ∧
      Consecutive GatewayEvent.seq (committedOf subscriberID b u + 1) (events resp) ∧
      batchSeq resp = committedOf subscriberID b u + (events resp).length

section Polled

variable {σ τ : Traced Store} {limit totalLimit : Int} {target : SyncTarget} {b : StreamBinding}
  {result : GatewayCatchUpResult}

/-- A binding that is polled is one of those that its target resolves to. -/
theorem bound_of_polled (htarget : target ∈ U)
    (h : Polled (Traced.cell Store) EnvStep hooks actor subscriberID limit totalLimit .subscribe σ τ
      target b result) : Bound hooks actor U target b := by
  obtain ⟨bindings, hresolve, hb⟩ := h.resolved
  exact ⟨htarget, bindings, hresolve, hb⟩

/-- The response for a polled result. -/
theorem response_of_polled (hσ : Reachable σ.now)
    (h : Polled (Traced.cell Store) EnvStep hooks actor subscriberID limit totalLimit .subscribe σ τ
      target b result) :
    ∃ state u, state.target = target ∧
      FromPoll subscriberID σ τ (normalizeLimit limit) b (toSubscribeResponse result) state u := by
  obtain ⟨state, u, u', htarget, hu, hu', hcursor, hread⟩ := h.read
  obtain ⟨u₁, u₂, u₃, catchUp, h₁, h₂, h₃, h₄, hcatchUp, hstatus, hbatch⟩ := hread.reads
  obtain ⟨hreach, -, hle⟩ := envSteps_later hσ hu
  obtain ⟨hreach₁, -, hle₁⟩ := envSteps_later hreach (hu'.trans h₁)
  obtain ⟨hreach₂, -, -⟩ := envSteps_later hreach₁ h₂
  obtain ⟨hreach₃, -, -⟩ := envSteps_later hreach₂ h₃
  obtain ⟨-, hpast, hle₂⟩ := envSteps_later hreach₁ (h₂.trans (h₃.trans h₄))
  have hbinding : (toSubscribeResponse result).bindingKey = b.bindingKey := hread.forBinding
  rw [← hbinding] at hcursor
  refine ⟨state, u₁.now, htarget,
    { withState := hread.withState
      binding := hbinding
      past := hpast _ u₁.now_mem_states
      since := (hle subscriberID b.streamID).trans_eq hcursor.symm
      cursor := hcursor.trans_le (hle₁ subscriberID b.streamID)
      committed := hle₂ subscriberID b.streamID
      run := fun hne => ?_ }⟩
  have hok : catchUp.status = .ok := by
    refine Classical.byContradiction fun hnot => ?_
    have hnone := resultBatch_eq hbatch
    rw [if_neg hnot] at hnone
    simp [events, toSubscribeResponse, hnone] at hne
  rcases resultBatch_cases hbatch with hnone | hsome
  · simp [events, toSubscribeResponse, hnone] at hne
  · simp only [events, batchSeq, toSubscribeResponse, hsome, toGatewayBatch] at hne ⊢
    obtain ⟨-, hrun⟩ := catchUpOf_batch hreach₂ hreach₃ hcatchUp
    obtain ⟨hcons, hlast⟩ := hrun (by simpa using hne)
    have hbounded := (catchUpOf_bounded hreach₂ hreach₃ hcatchUp (by simpa using hne)).2
    rw [List.length_map]
    exact ⟨hstatus.trans hok, hbounded, Consecutive.map_iff.mpr hcons, hlast⟩

/-- A polled result is known to be what a response must be. -/
theorem ResponseOk.of_polled (hσ : Reachable σ.now) (htarget : target ∈ U)
    (h : Polled (Traced.cell Store) EnvStep hooks actor subscriberID limit totalLimit .subscribe σ τ
      target b result) :
    ResponseOk hooks actor subscriberID U τ (toSubscribeResponse result) := by
  obtain ⟨state, u, rfl, hresp⟩ := response_of_polled hσ h
  refine ⟨state.target, b, state, bound_of_polled htarget h, hresp.withState,
    responseKey_eq hresp.withState hresp.binding, ⟨hresp.cursor.trans hresp.committed, ?_⟩, ?_⟩
  · intro hne
    obtain ⟨-, -, hcons, hlast⟩ := hresp.run (by simpa using hne)
    refine ⟨_, hresp.committed, Consecutive.map_iff.mpr hcons, ?_⟩
    rw [List.length_map]
    exact hlast
  · intro hne
    obtain ⟨-, -, hcons, hlast⟩ := hresp.run hne
    exact ⟨u, hresp.past, hcons, hlast⟩

end Polled

/-- A poll that begins: what is to hold of its responses follows from what was polled for each. -/
theorem reading_of_polled {req : GatewaySubscribeRequest}
    (hsub : resolveSubscriber hooks actor req.subscriberId = .ok subscriberID)
    {store : Traced Store} (h : Reachable store.now)
    {Q : List GatewaySubscribeResponse → Traced Store → Prop}
    (hQ : ∀ results τ,
      Prog.Exec pollHandler EnvStep (catchUp hooks actor req.subscriberId req.targets
        req.batchLimitPerTarget 0 .subscribe).run store (.ok results) τ →
      (∀ result ∈ results, ∃ target ∈ req.targets, ∃ b,
        Polled (Traced.cell Store) EnvStep hooks actor subscriberID req.batchLimitPerTarget 0
          .subscribe store τ target b result) →
      Q (results.map toSubscribeResponse) τ) :
    Reading Q store (gatewaySubscribePoll hooks actor req).run := by
  refine ⟨gatewaySubscribePoll_only_reads hooks actor req, ?_⟩
  intro r τ hexec
  refine ⟨exec_reachable hexec h, ?_⟩
  rintro responses rfl
  obtain ⟨results, hresults, rfl⟩ := Prog.exec_bind_pure_ok.mp hexec
  obtain ⟨subscriberID', hsub', hpolled⟩ := exec_catchUp hresults
  obtain rfl := Except.ok.inj (hsub.symm.trans hsub')
  exact hQ results τ hresults hpolled

/-- The same, where it is to hold of each response. -/
theorem reading_of_each_polled {req : GatewaySubscribeRequest}
    (hsub : resolveSubscriber hooks actor req.subscriberId = .ok subscriberID)
    {store : Traced Store} (h : Reachable store.now)
    {Q : GatewaySubscribeResponse → Traced Store → Prop}
    (hQ : ∀ τ, ∀ target ∈ req.targets, ∀ b result,
      Polled (Traced.cell Store) EnvStep hooks actor subscriberID req.batchLimitPerTarget 0
        .subscribe store τ target b result → Q (toSubscribeResponse result) τ) :
    Reading (fun responses τ => ∀ resp ∈ responses, Q resp τ) store
      (gatewaySubscribePoll hooks actor req).run := by
  refine reading_of_polled hsub h ?_
  intro results τ _ hpolled resp hresp
  obtain ⟨result, hresult, rfl⟩ := List.mem_map.mp hresp
  obtain ⟨target, htarget, b, hpoll⟩ := hpolled result hresult
  exact hQ τ target htarget b result hpoll

/-- A poll of targets of `U` that begins. -/
theorem reading_poll (req : GatewaySubscribeRequest)
    (hsub : resolveSubscriber hooks actor req.subscriberId = .ok subscriberID)
    (htargets : ∀ target ∈ req.targets, target ∈ U) {store : Traced Store}
    (h : Reachable store.now) :
    Reading (fun responses τ => ∀ resp ∈ responses, ResponseOk hooks actor subscriberID U τ resp)
      store (gatewaySubscribePoll hooks actor req).run :=
  reading_of_each_polled hsub h fun _ target htarget _ _ hpoll =>
    .of_polled h (htargets target htarget) hpoll

/-- The targets of a list, each with its bindings. -/
def boundIn (hooks : Hooks Actor) (actor : Actor) (targets : List SyncTarget) :
    List (SyncTarget × StreamBinding) :=
  targets.flatMap fun t =>
    match resolveBindings hooks actor t with
    | .ok bindings => bindings.map (t, ·)
    | .error _ => []

/-- The bindings that a poll of a list of targets is about. -/
theorem bound_iff {targets : List SyncTarget} {t : SyncTarget} {b : StreamBinding} :
    Bound hooks actor {t | t ∈ targets} t b ↔ (t, b) ∈ boundIn hooks actor targets := by
  unfold Bound boundIn
  rw [List.mem_flatMap]
  constructor
  · rintro ⟨ht, bindings, hresolve, hb⟩
    refine ⟨t, ht, ?_⟩
    simp only [hresolve]
    exact List.mem_map_of_mem hb
  · rintro ⟨t', ht', hmem⟩
    cases hresolve : resolveBindings hooks actor t' with
    | error e => simp [hresolve] at hmem
    | ok bindings =>
        simp only [hresolve, List.mem_map, Prod.mk.injEq] at hmem
        obtain ⟨b', hb', rfl, rfl⟩ := hmem
        exact ⟨ht', bindings, hresolve, hb'⟩

/-- A text begins with another one when it goes on from there. -/
theorem hasPrefix_iff {s pre : String} : hasPrefix s pre = true ↔ ∃ rest, s = pre ++ rest := by
  unfold hasPrefix
  rw [List.isPrefixOf_iff_prefix]
  constructor
  · rintro ⟨rest, heq⟩
    refine ⟨String.ofList rest, String.toList_inj.mp ?_⟩
    simp [String.toList_append, heq]
  · rintro ⟨rest, rfl⟩
    rw [String.toList_append]
    exact List.prefix_append _ _

/-- The keys that survive are those that an active target has with some binding key. -/
theorem keeps_iff {targets : List SyncTarget} {key : String} :
    Loop.keeps targets key = true ↔ ∃ t ∈ targets, ∃ b, key = targetBindingKey t b := by
  unfold Loop.keeps targetBindingKey
  simp only [List.any_eq_true, hasPrefix_iff]

/-- A key of a target is covered wherever the target is active. -/
theorem keeps_keyOf {targets : List SyncTarget} {t : SyncTarget} (ht : t ∈ targets)
    (b : StreamBinding) : Loop.keeps targets (keyOf t b) = true :=
  keeps_iff.mpr ⟨t, ht, b.bindingKey, rfl⟩

end Bound

/-! ## What was sent under a key -/

/-- The frames sent under a key since its entries were dropped last, newest first. -/
def framesSince (committed : Store → Nat) (key : String) : List LoopEvent → List Sent
  | [] => []
  | .heartbeat _ :: log => framesSince committed key log
  | .response k resp store mark :: log =>
    if k = key then
      { status := resp.status
        seqs := (events resp).map GatewayEvent.seq
        seq := batchSeq resp
        committed := committed store.now
        delivered := mark.delivered } :: framesSince committed key log
    else framesSince committed key log
  | .dropped k :: log => if k = key then [] else framesSince committed key log

/-- The frames since the entries of a key were dropped are none, if they were dropped just now. -/
theorem framesSince_dropped (committed : Store → Nat) (key : String) (keys : List String)
    (log : List LoopEvent) :
    framesSince committed key (keys.map .dropped ++ log) =
      if key ∈ keys then [] else framesSince committed key log := by
  induction keys with
  | nil => simp
  | cons k keys ih =>
      rw [List.map_cons, List.cons_append, framesSince, ih]
      by_cases hk : k = key
      · simp [hk]
      · have hmem : key ∈ k :: keys ↔ key ∈ keys := by simp [Ne.symm hk]
        simp only [if_neg hk, hmem]

namespace Loop

/-- Pruning keeps the marks of active targets, and resets the others. -/
theorem mark_pruneDeliveryState (σ : Loop) (targets : List SyncTarget) (key : String) :
    (σ.pruneDeliveryState targets).mark key = if keeps targets key then σ.mark key else {} := by
  unfold mark pruneDeliveryState
  simp only [FinMap.lookup_keep]
  split_ifs <;> rfl

section Frames

variable {Actor : Type} (σ : Loop) (hooks : Hooks Actor) (actor : Actor)
  (req : GatewaySubscribeRequest) (heartbeatEvery now : Int)

/-- A heartbeat changes neither the store nor the targets nor the marks. -/
theorem beat_frame : (σ.beat heartbeatEvery now).store = σ.store ∧
    (σ.beat heartbeatEvery now).sub = σ.sub ∧ (σ.beat heartbeatEvery now).marks = σ.marks := by
  unfold beat
  split_ifs
  · exact ⟨rfl, rfl, rfl⟩
  · exact ⟨rfl, rfl, rfl⟩

/-- The end of an iteration changes neither the store nor the targets nor the marks. -/
theorem finish_frame (sent hasMore throttled : Bool) :
    (σ.finish heartbeatEvery now sent hasMore throttled).store = σ.store ∧
      (σ.finish heartbeatEvery now sent hasMore throttled).sub = σ.sub ∧
      (σ.finish heartbeatEvery now sent hasMore throttled).marks = σ.marks := by
  unfold finish
  simp only
  split_ifs
  all_goals first
    | exact ⟨rfl, rfl, rfl⟩
    | exact σ.beat_frame heartbeatEvery now

/-- After the end of an iteration nothing is polled and nothing waits for its treatment. -/
theorem finish_pc (sent hasMore throttled : Bool) :
    (∀ p, (σ.finish heartbeatEvery now sent hasMore throttled).pc ≠ .polling p) ∧
      ∀ rest sent' hasMore' throttled',
        (σ.finish heartbeatEvery now sent hasMore throttled).pc ≠
          .responding rest sent' hasMore' throttled' := by
  unfold finish
  simp only
  split_ifs <;> simp

/-- The beginning of an iteration changes neither the store nor the targets. -/
theorem begin_frame : (σ.begin hooks actor req heartbeatEvery now).store = σ.store ∧
    (σ.begin hooks actor req heartbeatEvery now).sub = σ.sub := by
  obtain ⟨hstore, hsub, -⟩ := (σ.pruneDeliveryState σ.sub.snapshot).beat_frame heartbeatEvery now
  unfold begin
  simp only
  split_ifs
  · exact ⟨hstore, hsub⟩
  · exact ⟨rfl, rfl⟩

/-- The beginning of an iteration prunes the marks. -/
theorem begin_marks : (σ.begin hooks actor req heartbeatEvery now).marks =
    σ.marks.keep (keeps σ.sub.snapshot) := by
  obtain ⟨-, -, hmarks⟩ := (σ.pruneDeliveryState σ.sub.snapshot).beat_frame heartbeatEvery now
  unfold begin
  simp only
  split_ifs
  · exact hmarks
  · rfl

/-- The beginning of an iteration keeps the marks of active targets. -/
theorem begin_mark (k : String) : (σ.begin hooks actor req heartbeatEvery now).mark k =
    if keeps σ.sub.snapshot k then σ.mark k else {} := by
  obtain ⟨-, -, hmarks⟩ := (σ.pruneDeliveryState σ.sub.snapshot).beat_frame heartbeatEvery now
  rw [← σ.mark_pruneDeliveryState]
  unfold begin mark
  simp only
  split_ifs
  · rw [hmarks]
  · rfl

/-- The loop sleeps, or a poll of the targets it sees begins. -/
theorem begin_pc : (σ.begin hooks actor req heartbeatEvery now).pc = .sleeping ∨
    (σ.begin hooks actor req heartbeatEvery now).pc =
      .polling (gatewaySubscribePoll hooks actor { req with targets := σ.sub.snapshot }).run := by
  unfold begin
  simp only
  split_ifs
  · exact .inl rfl
  · exact .inr rfl

end Frames

/-- A response writes the mark of its own key, and the rest is treated next. -/
theorem respond_frame (σ : Loop) (req : GatewaySubscribeRequest) (now : Int)
    (resp : GatewaySubscribeResponse) (rest : List GatewaySubscribeResponse)
    (sent hasMore throttled : Bool) :
    (σ.respond req now resp rest sent hasMore throttled).store = σ.store ∧
      (σ.respond req now resp rest sent hasMore throttled).sub = σ.sub ∧
      (σ.respond req now resp rest sent hasMore throttled).lastHeartbeat = σ.lastHeartbeat ∧
      (σ.respond req now resp rest sent hasMore throttled).mark =
        Function.update σ.mark (responseKey resp) (σ.judge req resp).2 ∧
      ∃ sent' hasMore' throttled',
        (σ.respond req now resp rest sent hasMore throttled).pc =
          .responding rest sent' hasMore' throttled' := by
  have hmark : ∀ m k, ((σ.marks.insert (responseKey resp) m).lookup k).getD {} =
      Function.update σ.mark (responseKey resp) m k := by
    intro m k
    rw [FinMap.lookup_insert_eq_ite, Function.update_apply]
    split_ifs <;> rfl
  unfold respond
  rcases σ.judge req resp with ⟨outcome, m⟩
  cases outcome with
  | throttled | silent | announced | delivered =>
      exact ⟨rfl, rfl, rfl, funext (hmark m), _, _, _, rfl⟩

/-- The frame that the treatment of a response may send under its key. -/
def frameOf (σ : Loop) (committed : Store → Nat) (resp : GatewaySubscribeResponse) : Sent where
  status := resp.status
  seqs := (events resp).map GatewayEvent.seq
  seq := batchSeq resp
  committed := committed σ.store.now
  delivered := (σ.mark (responseKey resp)).delivered

/-- What the treatment of a response does with the entries of the map and with the frames. -/
theorem respond_marks (σ : Loop) (req : GatewaySubscribeRequest) (now : Int)
    (resp : GatewaySubscribeResponse) (rest : List GatewaySubscribeResponse)
    (sent hasMore throttled : Bool) :
    (σ.respond req now resp rest sent hasMore throttled).marks =
        σ.marks.insert (responseKey resp) (σ.judge req resp).2 ∧
      ∀ committed key,
        framesSince committed key (σ.respond req now resp rest sent hasMore throttled).log =
          if responseKey resp = key then
            record (σ.judge req resp).1 (σ.frameOf committed resp) (framesSince committed key σ.log)
          else framesSince committed key σ.log := by
  unfold respond
  rcases σ.judge req resp with ⟨outcome, m⟩
  cases outcome with
  | throttled | silent => exact ⟨rfl, fun committed key => (ite_self _).symm⟩
  | announced | delivered =>
      refine ⟨rfl, fun committed key => ?_⟩
      by_cases hkey : responseKey resp = key
      · subst hkey
        simp only [framesSince, if_true]
        rfl
      · simp only [framesSince, if_neg hkey]

/-- It sends nothing but that response. -/
theorem mem_log_respond {σ : Loop} {req : GatewaySubscribeRequest} {now : Int}
    {resp resp' : GatewaySubscribeResponse} {rest : List GatewaySubscribeResponse}
    {sent hasMore throttled : Bool} {key : String} {store : Traced Store} {mark : Mark}
    (h : .response key resp' store mark ∈
      (σ.respond req now resp rest sent hasMore throttled).log) :
    (key = responseKey resp ∧ resp' = { resp with serverTimeUnixMs := unixMS now } ∧
      store = σ.store) ∨ .response key resp' store mark ∈ σ.log := by
  unfold respond at h
  rcases hjudge : σ.judge req resp with ⟨outcome, m⟩
  rw [hjudge] at h
  cases outcome with
  | throttled | silent => exact .inr h
  | announced | delivered =>
      rcases List.mem_cons.mp h with heq | hmem
      · cases heq
        exact .inl ⟨rfl, rfl, rfl⟩
      · exact .inr hmem

end Loop

/-- What relates the mark of a key to the frames of a log that were sent under it, pruning keeps: a
key whose entries go starts afresh. -/
theorem rel_dropped {A : Mark → List Sent → Prop} (hfresh : A {} []) {σ : Loop}
    {committed : Store → Nat} {key : String} {log : List LoopEvent}
    (h : A (σ.mark key) (framesSince committed key log)) (targets : List SyncTarget) :
    A ((σ.pruneDeliveryState targets).mark key)
      (framesSince committed key
        (((σ.marks.keys.filter fun key => !Loop.keeps targets key).map .dropped) ++ log)) := by
  rw [σ.mark_pruneDeliveryState]
  simp only [framesSince_dropped, List.mem_filter, ← AList.mem_keys]
  by_cases hkeeps : Loop.keeps targets key = true
  · simpa [hkeeps] using h
  · by_cases hmem : key ∈ σ.marks
    · rw [if_neg hkeeps, if_pos ⟨hmem, by simpa using hkeeps⟩]
      exact hfresh
    · have hmark : σ.mark key = {} := by
        unfold Loop.mark
        rw [AList.lookup_eq_none.mpr hmem]
        rfl
      rw [hmark] at h
      simpa [hkeeps, hmem] using h

/-- The same, for the log of the loop itself. -/
theorem rel_prune {A : Mark → List Sent → Prop} (hfresh : A {} []) {σ : Loop}
    {committed : Store → Nat} {key : String}
    (h : A (σ.mark key) (framesSince committed key σ.log)) (targets : List SyncTarget) :
    A ((σ.pruneDeliveryState targets).mark key)
      (framesSince committed key (σ.pruneDeliveryState targets).log) :=
  rel_dropped hfresh h targets

/-- The entry is a response. -/
def LoopEvent.isResponse : LoopEvent → Bool
  | .response .. => true
  | .heartbeat _ | .dropped _ => false

namespace Loop

/-- A heartbeat is sent under no key. -/
theorem framesSince_beat (σ : Loop) (heartbeatEvery now : Int) (committed : Store → Nat)
    (key : String) :
    framesSince committed key (σ.beat heartbeatEvery now).log =
      framesSince committed key σ.log := by
  unfold beat
  split_ifs
  · rfl
  · rfl

/-- The beginning of an iteration sends nothing about a binding. -/
theorem framesSince_begin {Actor : Type} (σ : Loop) (hooks : Hooks Actor) (actor : Actor)
    (req : GatewaySubscribeRequest) (heartbeatEvery now : Int) (committed : Store → Nat)
    (key : String) :
    framesSince committed key (σ.begin hooks actor req heartbeatEvery now).log =
      framesSince committed key (σ.pruneDeliveryState σ.sub.snapshot).log := by
  unfold begin
  simp only
  split_ifs
  · exact framesSince_beat _ _ _ _ _
  · rfl

/-- The end of an iteration sends nothing about a binding. -/
theorem framesSince_finish (σ : Loop) (heartbeatEvery now : Int) (sent hasMore throttled : Bool)
    (committed : Store → Nat) (key : String) :
    framesSince committed key (σ.finish heartbeatEvery now sent hasMore throttled).log =
      framesSince committed key σ.log := by
  unfold finish
  simp only
  split_ifs
  all_goals first
    | rfl
    | exact framesSince_beat _ _ _ _ _

/-- A heartbeat is no response. -/
theorem beat_responses (σ : Loop) (heartbeatEvery now : Int) :
    (σ.beat heartbeatEvery now).log.filter LoopEvent.isResponse =
      σ.log.filter LoopEvent.isResponse := by
  unfold beat
  split_ifs
  · rfl
  · rfl

/-- The beginning of the loop body sends no response. -/
theorem begin_responses (σ : Loop) (hooks : Hooks Actor) (actor : Actor)
    (req : GatewaySubscribeRequest) (heartbeatEvery now : Int) :
    (σ.begin hooks actor req heartbeatEvery now).log.filter LoopEvent.isResponse =
      σ.log.filter LoopEvent.isResponse := by
  have hpruned : (σ.pruneDeliveryState σ.sub.snapshot).log.filter LoopEvent.isResponse =
      σ.log.filter LoopEvent.isResponse := by
    unfold pruneDeliveryState
    simp [List.filter_append, List.filter_map, Function.comp_def, LoopEvent.isResponse]
  unfold begin
  simp only
  split_ifs
  · exact (beat_responses _ _ _).trans hpruned
  · exact hpruned

/-- Neither does its end. -/
theorem finish_responses (σ : Loop) (heartbeatEvery now : Int) (sent hasMore throttled : Bool) :
    (σ.finish heartbeatEvery now sent hasMore throttled).log.filter LoopEvent.isResponse =
      σ.log.filter LoopEvent.isResponse := by
  unfold finish
  simp only
  split_ifs
  all_goals first
    | rfl
    | exact beat_responses _ _ _

/-- A step that sends no response keeps those there are. -/
theorem response_mem_of_eq {σ τ : Loop}
    (h : τ.log.filter LoopEvent.isResponse = σ.log.filter LoopEvent.isResponse) {key : String}
    {resp : GatewaySubscribeResponse} {store : Traced Store} {mark : Mark}
    (hmem : .response key resp store mark ∈ τ.log) : .response key resp store mark ∈ σ.log := by
  have hfiltered := List.mem_filter.mpr ⟨hmem, show LoopEvent.isResponse _ = true from rfl⟩
  rw [h] at hfiltered
  exact (List.mem_filter.mp hfiltered).1

section Steps

variable {Actor : Type} {hooks : Hooks Actor} {actor : Actor} {req : GatewaySubscribeRequest}
  {U : Set SyncTarget} {heartbeatEvery : Int} {l : LoopLabel U} {σ τ : Loop}

/-- What relates the mark of a key to the frames sent under it, a step keeps that keeps it where it
treats a response of that key. -/
theorem rel_step {A : Mark → List Sent → Prop} (hfresh : A {} []) {committed : Store → Nat}
    {key : String}
    (hrespond : ∀ resp rest sent hasMore throttled,
      σ.pc = .responding (resp :: rest) sent hasMore throttled → responseKey resp = key →
      A (σ.judge req resp).2
        (record (σ.judge req resp).1 (σ.frameOf committed resp) (framesSince committed key σ.log)))
    (hstep : (gatewayLoop hooks actor req U heartbeatEvery).step l σ = some τ)
    (h : A (σ.mark key) (framesSince committed key σ.log)) :
    A (τ.mark key) (framesSince committed key τ.log) := by
  cases gatewayLoop_cases hstep with
  | begin now =>
      rw [framesSince_begin, begin_mark, ← mark_pruneDeliveryState]
      exact rel_prune hfresh h _
  | @respond now resp rest sent hasMore throttled hpc =>
      obtain ⟨-, -, -, hmark, -⟩ := σ.respond_frame req now resp rest sent hasMore throttled
      obtain ⟨-, hframes⟩ := σ.respond_marks req now resp rest sent hasMore throttled
      rw [hmark, hframes, Function.update_apply]
      by_cases hkey : responseKey resp = key
      · rw [if_pos hkey.symm, if_pos hkey]
        exact hrespond resp rest sent hasMore throttled hpc hkey
      · rw [if_neg (Ne.symm hkey), if_neg hkey]
        exact h
  | finish now sent hasMore throttled =>
      obtain ⟨-, -, hmarks⟩ := σ.finish_frame heartbeatEvery now sent hasMore throttled
      rw [framesSince_finish]
      unfold mark
      rw [hmarks]
      exact h
  | env | modify | takeWake | call | polled | leave => exact h

/-- The targets stay within those that may be added. -/
theorem targets_step (hstep : (gatewayLoop hooks actor req U heartbeatEvery).step l σ = some τ)
    (h : ∀ target ∈ σ.sub.snapshot, target ∈ U) : ∀ target ∈ τ.sub.snapshot, target ∈ U := by
  cases gatewayLoop_cases hstep with
  | modify remove adds =>
      intro target htarget
      rcases LiveSub.mem_snapshot_apply htarget with hold | hnew
      · exact h target hold
      · exact adds target hnew
  | begin now =>
      rw [(σ.begin_frame hooks actor req heartbeatEvery now).2]
      exact h
  | @respond now resp rest sent hasMore throttled hpc =>
      rw [(σ.respond_frame req now resp rest sent hasMore throttled).2.1]
      exact h
  | finish now sent hasMore throttled =>
      rw [(σ.finish_frame heartbeatEvery now sent hasMore throttled).2.1]
      exact h
  | env | takeWake | call | polled | leave => exact h

/-! ## What is known of a poll under way -/

/-- The store can be reached, and `Q` holds of every response that the poll under way will have, or
that waits for its treatment. -/
structure Expects (Q : GatewaySubscribeResponse → Traced Store → Prop) (σ : Loop) : Prop where
  reachable : Reachable σ.store.now
  polling : ∀ p, σ.pc = .polling p →
    Reading (fun responses τ => ∀ resp ∈ responses, Q resp τ) σ.store p
  responding : ∀ rest sent hasMore throttled, σ.pc = .responding rest sent hasMore throttled →
    ∀ resp ∈ rest, Q resp σ.store

namespace Expects

variable {Q : GatewaySubscribeResponse → Traced Store → Prop}

/-- The variables of the loop matter only where a poll or a round of responses is under way. -/
theorem leave (h : Expects Q σ) (hstore : τ.store = σ.store) (hpoll : ∀ p, τ.pc ≠ .polling p)
    (hrespond : ∀ rest sent hasMore throttled, τ.pc ≠ .responding rest sent hasMore throttled) :
    Expects Q τ where
  reachable := hstore ▸ h.reachable
  polling p heq := absurd heq (hpoll p)
  responding _ _ _ _ heq := absurd heq (hrespond _ _ _ _)

/-- What one step keeps: `Q` holds of the responses of a poll that begins now, and operations of
other parties keep it. -/
theorem step
    (hbegin : Reachable σ.store.now →
      Reading (fun responses τ => ∀ resp ∈ responses, Q resp τ) σ.store
        (gatewaySubscribePoll hooks actor { req with targets := σ.sub.snapshot }).run)
    (hlater : ∀ resp σ τ, Reachable σ.now → EnvStep σ τ → Q resp σ → Q resp τ)
    (hstep : (gatewayLoop hooks actor req U heartbeatEvery).step l σ = some τ)
    (h : Expects Q σ) : Expects Q τ := by
  cases gatewayLoop_cases hstep with
  | @env op keeps =>
      have henv : EnvStep σ.store (σ.store.push (op.apply σ.store.now)) := ⟨op, keeps, rfl⟩
      refine ⟨h.reachable.apply op, ?_, ?_⟩
      · intro p hpc
        refine (h.polling p hpc).env henv ?_
        intro responses σ' τ' hreach hστ hok resp hresp
        exact hlater resp σ' τ' hreach hστ (hok resp hresp)
      · intro rest sent hasMore throttled hpc resp hresp
        exact hlater resp _ _ h.reachable henv
          (h.responding rest sent hasMore throttled hpc resp hresp)
  | modify | takeWake => exact ⟨h.reachable, h.polling, h.responding⟩
  | begin now =>
      obtain ⟨hstore, -⟩ := σ.begin_frame hooks actor req heartbeatEvery now
      refine ⟨hstore ▸ h.reachable, ?_, ?_⟩
      · intro p hpc
        rw [hstore]
        rcases σ.begin_pc hooks actor req heartbeatEvery now with hsleep | hpoll
        · cases hsleep.symm.trans hpc
        · cases hpoll.symm.trans hpc
          exact hbegin h.reachable
      · intro rest sent hasMore throttled hpc
        rcases σ.begin_pc hooks actor req heartbeatEvery now with hsleep | hpoll
        · cases hsleep.symm.trans hpc
        · cases hpoll.symm.trans hpc
  | call hpc =>
      obtain ⟨hsame, hnext⟩ := (h.polling _ hpc).call
      rw [hsame]
      refine ⟨h.reachable, ?_, ?_⟩
      · rintro p ⟨⟩
        exact hnext
      · rintro _ _ _ _ ⟨⟩
  | polled hpc =>
      refine ⟨h.reachable, ?_, ?_⟩
      · rintro p ⟨⟩
      · rintro _ _ _ _ ⟨⟩
        exact (h.polling _ hpc).ret
  | @respond now resp rest sent hasMore throttled hpc =>
      obtain ⟨hstore, -, -, -, sent', hasMore', throttled', hpc'⟩ :=
        σ.respond_frame req now resp rest sent hasMore throttled
      refine ⟨hstore ▸ h.reachable, ?_, ?_⟩
      · intro p heq
        cases hpc'.symm.trans heq
      · intro rest' _ _ _ heq resp' hmem
        cases hpc'.symm.trans heq
        rw [hstore]
        exact h.responding _ _ _ _ hpc resp' (List.mem_cons_of_mem _ hmem)
  | finish now sent hasMore throttled =>
      obtain ⟨hstore, -⟩ := σ.finish_frame heartbeatEvery now sent hasMore throttled
      obtain ⟨hpoll, hrespond⟩ := σ.finish_pc heartbeatEvery now sent hasMore throttled
      exact h.leave hstore hpoll hrespond
  | leave hpoll hrespond => exact h.leave rfl hpoll hrespond

/-- No committed cursor falls back. -/
theorem committed_le (hstep : (gatewayLoop hooks actor req U heartbeatEvery).step l σ = some τ)
    (h : Expects Q σ) (subscriberID : SubscriberID) (streamID : StreamID) :
    σ.store.now.committed subscriberID streamID ≤ τ.store.now.committed subscriberID streamID := by
  cases gatewayLoop_cases hstep with
  | env keeps => exact Op.committed_le keeps h.reachable _ _
  | begin now => rw [(σ.begin_frame hooks actor req heartbeatEvery now).1]
  | call hpc => rw [(h.polling _ hpc).call.1]
  | @respond now resp rest sent hasMore throttled hpc =>
      rw [(σ.respond_frame req now resp rest sent hasMore throttled).1]
  | finish now sent hasMore throttled =>
      rw [(σ.finish_frame heartbeatEvery now sent hasMore throttled).1]
  | modify | takeWake | polled | leave => exact le_rfl

end Expects

end Steps

end Loop

/-! ## What every run keeps -/

section Invariant

variable {Actor : Type} {hooks : Hooks Actor} {actor : Actor} {subscriberID : SubscriberID}
  {U : Set SyncTarget}

/-- The invariant of the gateway loop. -/
structure LoopInv (hooks : Hooks Actor) (actor : Actor) (subscriberID : SubscriberID)
    (U : Set SyncTarget) (σ : Loop) : Prop where
  reachable : Reachable σ.store.now
  targets : ∀ target ∈ σ.sub.snapshot, target ∈ U
  polling : ∀ p, σ.pc = .polling p →
    Reading (fun responses τ => ∀ resp ∈ responses, ResponseOk hooks actor subscriberID U τ resp)
      σ.store p
  responding : ∀ rest sent hasMore throttled, σ.pc = .responding rest sent hasMore throttled →
    ∀ resp ∈ rest, ResponseOk hooks actor subscriberID U σ.store resp
  marks : ∀ key m, σ.marks.lookup key = some m →
    ∃ target b, Bound hooks actor U target b ∧ key = keyOf target b
  accounted : ∀ target b, Bound hooks actor U target b →
    Accounted (σ.mark (keyOf target b))
      (framesSince (committedOf subscriberID b) (keyOf target b) σ.log)
      (committedOf subscriberID b σ.store.now)
  contiguous : ∀ key resp store mark, .response key resp store mark ∈ σ.log →
    ∃ target b, Bound hooks actor U target b ∧ key = keyOf target b ∧
      (events resp ≠ [] →
        ContiguousFrom (committedOf subscriberID b) store GatewayEvent.seq (events resp)
          (batchSeq resp))

variable {req : GatewaySubscribeRequest} {heartbeatEvery : Int}

/-- The invariant holds at the start. -/
theorem loopInv_start {s : Store} (hs : Reachable s) (htargets : ∀ target ∈ req.targets, target ∈ U)
    (now : Int) : LoopInv hooks actor subscriberID U (.start s req now) where
  reachable := hs
  targets target htarget := htargets target (LiveSub.mem_snapshot_new htarget)
  polling p hpc := by cases hpc
  responding _ _ _ _ hpc := by cases hpc
  marks key m hlookup := by simp [Loop.start] at hlookup
  accounted target b _ := .fresh _
  contiguous key resp store mark hmem := by simp [Loop.start] at hmem

section Step

variable {l : LoopLabel U} {σ τ : Loop}

/-- Every entry of the map is one of a binding. -/
theorem LoopInv.marks_step
    (hstep : (gatewayLoop hooks actor req U heartbeatEvery).step l σ = some τ)
    (h : LoopInv hooks actor subscriberID U σ) (key : String) (m : Mark)
    (hlookup : τ.marks.lookup key = some m) :
    ∃ target b, Bound hooks actor U target b ∧ key = keyOf target b := by
  cases gatewayLoop_cases hstep with
  | begin now =>
      rw [Loop.begin_marks, FinMap.lookup_keep] at hlookup
      split_ifs at hlookup
      exact h.marks key m hlookup
  | @respond now resp rest sent hasMore throttled hpc =>
      obtain ⟨hmarks, -⟩ := σ.respond_marks req now resp rest sent hasMore throttled
      rw [hmarks, FinMap.lookup_insert_eq_ite] at hlookup
      split_ifs at hlookup with heq
      · obtain ⟨target, b, -, hbound, -, hkey, -⟩ :=
          h.responding _ _ _ _ hpc resp List.mem_cons_self
        exact ⟨target, b, hbound, heq.trans hkey⟩
      · exact h.marks key m hlookup
  | finish now sent hasMore throttled =>
      rw [(σ.finish_frame heartbeatEvery now sent hasMore throttled).2.2] at hlookup
      exact h.marks key m hlookup
  | env | modify | takeWake | call | polled | leave => exact h.marks key m hlookup

/-- What is accounted for a binding before a step that treats a response of its key, is so
afterwards: by distinctness the response is about that binding. -/
theorem LoopInv.accounted_respond (hkeys : DistinctKeys hooks actor U)
    (h : LoopInv hooks actor subscriberID U σ) {target : SyncTarget} {b : StreamBinding}
    (hbound : Bound hooks actor U target b) {resp : GatewaySubscribeResponse}
    (hresp : ResponseOk hooks actor subscriberID U σ.store resp)
    (hkey : responseKey resp = keyOf target b) :
    Accounted (σ.judge req resp).2
      (record (σ.judge req resp).1 (σ.frameOf (committedOf subscriberID b) resp)
        (framesSince (committedOf subscriberID b) (keyOf target b) σ.log))
      (committedOf subscriberID b σ.store.now) := by
  obtain ⟨target', b', state, hbound', hstate, hkey', hanswer, -⟩ := hresp
  obtain ⟨rfl, rfl⟩ := hkeys.eq hbound hbound' (hkey.symm.trans hkey')
  have haccounted := (h.accounted target b hbound).step hanswer req.maxInFlightPerTarget resp.status
  rw [List.isEmpty_map] at haccounted
  unfold Loop.judge Loop.frameOf
  simp only [hstate, hkey]
  exact haccounted

/-- Every batch sent is a contiguous run. -/
theorem LoopInv.contiguous_step
    (hstep : (gatewayLoop hooks actor req U heartbeatEvery).step l σ = some τ)
    (h : LoopInv hooks actor subscriberID U σ) (key : String) (resp : GatewaySubscribeResponse)
    (store : Traced Store) (mark : Mark) (hmem : .response key resp store mark ∈ τ.log) :
    ∃ target b, Bound hooks actor U target b ∧ key = keyOf target b ∧
      (events resp ≠ [] →
        ContiguousFrom (committedOf subscriberID b) store GatewayEvent.seq (events resp)
          (batchSeq resp)) := by
  cases gatewayLoop_cases hstep with
  | begin now =>
      have hsame := σ.begin_responses hooks actor req heartbeatEvery now
      exact h.contiguous key resp store mark (Loop.response_mem_of_eq hsame hmem)
  | @respond now resp' rest sent hasMore throttled hpc =>
      rcases Loop.mem_log_respond hmem with ⟨rfl, rfl, rfl⟩ | hold
      · obtain ⟨target, b, -, hbound, -, hkey, -, hcontiguous⟩ :=
          h.responding _ _ _ _ hpc resp' List.mem_cons_self
        exact ⟨target, b, hbound, hkey, hcontiguous⟩
      · exact h.contiguous key resp store mark hold
  | finish now sent hasMore throttled =>
      have hsame := σ.finish_responses heartbeatEvery now sent hasMore throttled
      exact h.contiguous key resp store mark (Loop.response_mem_of_eq hsame hmem)
  | env | modify | takeWake | call | polled | leave => exact h.contiguous key resp store mark hmem

end Step

/-- What one step keeps. -/
theorem loopInv_step (hsub : resolveSubscriber hooks actor req.subscriberId = .ok subscriberID)
    (hkeys : DistinctKeys hooks actor U) (l : LoopLabel U) (σ τ : Loop)
    (hstep : (gatewayLoop hooks actor req U heartbeatEvery).step l σ = some τ)
    (h : LoopInv hooks actor subscriberID U σ) : LoopInv hooks actor subscriberID U τ := by
  have hexpects : Loop.Expects
      (fun resp store => ResponseOk hooks actor subscriberID U store resp) σ :=
    ⟨h.reachable, h.polling, h.responding⟩
  have hexpects' := hexpects.step
    (reading_poll { req with targets := σ.sub.snapshot } hsub h.targets)
    (fun _ _ _ hσ hστ hok => hok.later hσ (.single hστ)) hstep
  refine ⟨hexpects'.reachable, Loop.targets_step hstep h.targets, hexpects'.polling,
    hexpects'.responding, h.marks_step hstep, ?_, h.contiguous_step hstep⟩
  intro target b hbound
  have haccounted := Loop.rel_step
    (A := fun m frames => Accounted m frames (committedOf subscriberID b σ.store.now)) (.fresh _)
    (fun resp rest sent hasMore throttled hpc hkey => h.accounted_respond hkeys hbound
      (h.responding _ _ _ _ hpc resp List.mem_cons_self) hkey) hstep
    (h.accounted target b hbound)
  exact haccounted.mono (hexpects.committed_le hstep subscriberID b.streamID)

/-- The invariant holds in every run. -/
theorem loopInv_run (hsub : resolveSubscriber hooks actor req.subscriberId = .ok subscriberID)
    (hkeys : DistinctKeys hooks actor U) (htargets : ∀ target ∈ req.targets, target ∈ U)
    {ls : List (LoopLabel U)} {s : Store} {now : Int} {σ : Loop} (hs : Reachable s)
    (hrun : (gatewayLoop hooks actor req U heartbeatEvery).run ls (.start s req now) = some σ) :
    LoopInv hooks actor subscriberID U σ :=
  Machine.run_invariant (loopInv_step hsub hkeys) hrun (loopInv_start hs htargets now)

end Invariant

end Synclog.Transport
