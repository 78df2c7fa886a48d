import Synclog.Gateway.AddedTarget
import Synclog.Memory.Recorded

/-!
# Nothing is exposed unchecked

What the gateway's catch-up, poll and snapshot calls have asked the hooks when they answer, with any
operations of others between their calls.

* `EventChecked` — what was checked of an event that a response carries for a binding.
* `AllChecked` — a catch-up that succeeds: every event in it is checked, and nothing of what the
  core engine answered was left out, so that one event that fails a check fails the call.
* `SnapshotChecked` — what was checked of a snapshot that a response carries.
* `exec_catchUp_checked`, `exec_getLatestSnapshot_checked` — the lemmas for the methods.
* `nothing_unchecked` — the three calls of the gateway that hand out payloads.
-/

namespace Synclog.Gateway

open Synclog.Lib Synclog.Core Synclog.Memory
open Relation (ReflTransGen)

/-! ## What is checked -/

section Checked

variable {Actor : Type} (hooks : Hooks Actor) (actor : Actor)

/-- The target resolves to this binding, among others. -/
def HasBinding (target : SyncTarget) (b : StreamBinding) : Prop :=
  ∃ bindings, resolveBindings hooks actor target = .ok bindings ∧ b ∈ bindings

variable (subscriberID : SubscriberID)

/-- The event is stored for the binding's stream at some time between `s` and `t`, and the hooks let
it through: its type is on the binding's list, the operation is authorized, without a payload type
and for the type, the payload policy allows it and a codec is registered. -/
structure EventChecked (operation : Operation) (s t : Store) (target : SyncTarget)
    (b : StreamBinding) (event : GatewayEvent) : Prop where
  stored : ∃ u, ReflTransGen OpStep s u ∧ ReflTransGen OpStep u t ∧
    ∃ e ∈ (u.ensureStream b.streamID).events, e.streamID = b.streamID ∧
      event = gatewayEvent target b.bindingKey e
  listed : b.payloadTypes = [] ∨ event.payloadType ∈ b.payloadTypes
  authorized : hooks.authorize { actor, operation, target, subscriberID } = .ok ()
  authorizedType : hooks.authorize
    { actor, operation, target, payloadType := event.payloadType, subscriberID } = .ok ()
  allowed : hooks.allowPayload actor target event.payloadType = .ok ()
  decodable : hooks.canDecode event.payloadType event.payloadVersion = true

/-- The result is the whole answer of a catch-up of the core engine for the binding, and everything
in it is checked. -/
structure WholeAnswer (operation : Operation) (limit totalLimit : Int) (s t : Store)
    (target : SyncTarget) (b : StreamBinding) (result : GatewayCatchUpResult) : Prop where
  forTarget : result.target = target
  forBinding : result.bindingKey = b.bindingKey
  whole : ∃ u₁ u₂ u₃ answer, ReflTransGen OpStep s u₁ ∧ ReflTransGen OpStep u₁ u₂ ∧
    ReflTransGen OpStep u₂ u₃ ∧ ReflTransGen OpStep u₃ t ∧
    catchUpOf { subscriberID, streamID := b.streamID, limit, totalLimit } u₁ u₂ u₃ = .ok answer ∧
    result.status = answer.status ∧
    result.batch = (if answer.status = .ok then some (toGatewayBatch target b.bindingKey
      answer.batch) else none)
  checked : ∀ batch, result.batch = some batch → batch.bindingKey = b.bindingKey ∧
    ∀ event ∈ batch.events, event.bindingKey = b.bindingKey ∧
      EventChecked hooks actor subscriberID operation s t target b event

/-- A catch-up has asked for everything: each target is authorized and has a whole answer for each
of its bindings, and each result is one of these. -/
structure AllChecked (requested : SubscriberID) (targets : List SyncTarget)
    (operation : Operation) (limit totalLimit : Int) (s t : Store)
    (results : List GatewayCatchUpResult) : Prop where
  canonical : resolveSubscriber hooks actor requested = .ok subscriberID
  asked : ∀ target ∈ targets,
    hooks.authorize { actor, operation, target, subscriberID } = .ok () ∧
    ∃ bindings, resolveBindings hooks actor target = .ok bindings ∧ ∀ b ∈ bindings,
      ∃ result ∈ results, WholeAnswer hooks actor subscriberID operation limit totalLimit s t
        target b result
  exposed : ∀ result ∈ results, ∃ target ∈ targets, ∃ b, HasBinding hooks actor target b ∧
    WholeAnswer hooks actor subscriberID operation limit totalLimit s t target b result

/-- The snapshot is one that was stored for the selected binding's stream, it has the type that was
asked for and respects the bound on its version, and the hooks let it through. -/
structure SnapshotChecked (req : GatewayGetLatestSnapshotRequest) (s t : Store)
    (target : SyncTarget) (b : StreamBinding) (snapshot : GatewaySnapshot) : Prop where
  forBinding : snapshot.bindingKey = b.bindingKey
  stored : ∃ u, ReflTransGen OpStep s u ∧ ReflTransGen OpStep u t ∧
    ∃ key kept, u.snapshots.lookup key = some kept ∧ kept.ref.streamID = b.streamID ∧
      snapshot = gatewaySnapshot target b kept
  typed : snapshot.payloadType = req.payloadType
  bounded : req.maxPayloadVersion ≠ 0 → snapshot.payloadVersion ≤ req.maxPayloadVersion
  listed : b.snapshotTypes = [] ∨ snapshot.payloadType ∈ b.snapshotTypes
  authorized : hooks.authorize
    { actor, operation := .getSnapshot, target, payloadType := snapshot.payloadType,
      subscriberID } = .ok ()
  allowed : hooks.allowSnapshot actor target snapshot.payloadType = .ok ()
  decodable : hooks.canDecode snapshot.payloadType snapshot.payloadVersion = true

end Checked

/-! ## Catch-ups -/

section CatchUp

variable {Actor : Type} {hooks : Hooks Actor} {actor : Actor} {subscriberID : SubscriberID}
  {limit totalLimit : Int} {operation : Operation} {now : Int}

/-- A result has a batch when the core engine's answer is `OK`: all of it, and all its events
passed. -/
theorem resultBatch_ok {target : SyncTarget} {b : StreamBinding} {answer : CatchUpResult}
    {batch : Option GatewayBatch}
    (h : resultBatch hooks actor subscriberID target b operation answer = .ok batch) :
    batch = (if answer.status = .ok then some (toGatewayBatch target b.bindingKey answer.batch)
      else none) ∧
      (answer.status = .ok → ∀ event ∈ answer.batch.events,
        Deliverable hooks actor subscriberID operation target b event) :=
  ⟨resultBatch_eq h, resultBatch_ok_iff.mp ⟨batch, h⟩⟩

/-- What a catch-up of the core engine answers is retained by the store it was read from. -/
theorem retained_of_catchUpOf {req : CatchUpRequest} {u₁ u₂ u₃ : Store} (h₂ : Reachable u₂)
    (h₃ : Reachable u₃) {answer : CatchUpResult} (h : catchUpOf req u₁ u₂ u₃ = .ok answer)
    {event : Event} (hmem : event ∈ answer.batch.events) :
    event ∈ (u₃.ensureStream req.streamID).events := by
  obtain ⟨L₂, hL₂⟩ := h₂.holds req.streamID
  obtain ⟨L₃, hL₃⟩ := h₃.holds req.streamID
  obtain rfl := catchUpOf_ok hL₂ hL₃ h
  obtain ⟨hbase, hbatch⟩ := mem_catchUpResult hmem
  rw [events_batchAfter] at hbatch
  rw [hL₃.events]
  exact List.drop_subset_drop_left _ hbase (List.mem_of_mem_take hbatch)

/-- What was polled for a binding of an authorized target is checked. -/
theorem WholeAnswer.of_polled {s t : Store} (hs : Reachable s) {target : SyncTarget}
    {b : StreamBinding} {result : GatewayCatchUpResult}
    (hauth : hooks.authorize { actor, operation, target, subscriberID } = .ok ())
    (h : Polled (.whole Store) OpStep hooks actor subscriberID limit totalLimit operation s t target
      b result) :
    WholeAnswer hooks actor subscriberID operation limit totalLimit s t target b result := by
  obtain ⟨state, u, u', -, hu, hu', -, hread⟩ := h.read
  obtain ⟨u₁, u₂, u₃, answer, h₁, h₂, h₃, h₄, hanswer, hstatus, hbatch⟩ := hread.reads
  have hs₁ : ReflTransGen OpStep s u₁ := (hu.trans hu').trans h₁
  have hs₃ : ReflTransGen OpStep s u₃ := hs₁.trans (h₂.trans h₃)
  obtain ⟨hwhole, hpassed⟩ := resultBatch_ok hbatch
  refine ⟨hread.forTarget, hread.forBinding,
    ⟨u₁, u₂, u₃, answer, hs₁, h₂, h₃, h₄, hanswer, hstatus, hwhole⟩, ?_⟩
  intro batch hsome
  rw [hsome] at hwhole
  split_ifs at hwhole with hok
  cases hwhole
  refine ⟨rfl, ?_⟩
  intro event hevent
  obtain ⟨e, he, rfl⟩ := List.mem_map.mp hevent
  have hretained := retained_of_catchUpOf (hs.opSteps (hs₁.trans h₂)) (hs.opSteps hs₃) hanswer he
  have hpass := hpassed hok e he
  exact ⟨rfl, ⟨u₃, hs₃, h₄, e, hretained, (hs.opSteps hs₃).events_named hretained, rfl⟩,
    hpass.listed, hauth, hpass.authorized, hpass.allowed, hpass.decodable⟩

/-- A target that is polled is authorized first. -/
theorem authorized_of_catchUpTarget {σ : Type} {cell : Cell σ Store} {R : σ → σ → Prop}
    {target : SyncTarget} {s t : σ} {results : List GatewayCatchUpResult}
    (h : Prog.Exec ((handler now).within cell) R
      (catchUpTarget hooks actor subscriberID limit totalLimit operation target).run s
        (.ok results) t) :
    hooks.authorize { actor, operation, target, subscriberID } = .ok () := by
  obtain ⟨_, -, hafter⟩ := Prog.exec_ofExcept_bind_ok.mp h
  obtain ⟨⟨⟩, hauth, -⟩ := Prog.exec_ofExcept_bind_ok.mp hafter
  exact hauth

/-- The loop over the targets: each was authorized, and has a result for each of its bindings. -/
theorem exec_catchUpTargets_each {σ : Type} {cell : Cell σ Store} {R : σ → σ → Prop}
    (hsub : subscriberID ≠ "") {targets : List SyncTarget} {s t : σ}
    {results : List GatewayCatchUpResult}
    (h : Prog.Exec ((handler now).within cell) R
      (catchUpTargets hooks actor subscriberID limit totalLimit operation targets).run s
        (.ok results) t) {target : SyncTarget} (htarget : target ∈ targets) :
    hooks.authorize { actor, operation, target, subscriberID } = .ok () ∧
      ∃ bindings, resolveBindings hooks actor target = .ok bindings ∧
        ∀ b ∈ bindings, ∃ result ∈ results, Polled cell R hooks actor subscriberID limit totalLimit
          operation s t target b result := by
  obtain ⟨-, parts, rfl, hparts⟩ := exec_catchUpTargets_parts hsub h
  obtain ⟨part, hpart, u, v, hu, hv, hexec⟩ := exists_partner hparts.flip htarget
  obtain ⟨-, bindings, hresolve, hpolled⟩ := exec_catchUpTarget hsub hexec
  refine ⟨authorized_of_catchUpTarget hexec, bindings, hresolve, ?_⟩
  intro b hb
  obtain ⟨result, hresult, hpoll⟩ := exists_partner hpolled.flip hb
  exact ⟨result, List.mem_flatten.mpr ⟨part, hpart, hresult⟩, hpoll.widen hu hv⟩

/-- A successful catch-up has asked for everything it answers. -/
theorem exec_catchUp_checked {s t : Store} (hs : Reachable s) {requested : SubscriberID}
    {targets : List SyncTarget} {results : List GatewayCatchUpResult}
    (h : Prog.Exec (handler now) OpStep
      (catchUp hooks actor requested targets limit totalLimit operation).run s (.ok results) t) :
    ∃ subscriberID, AllChecked hooks actor subscriberID requested targets operation limit totalLimit
      s t results := by
  rw [← handler_within_whole] at h
  obtain ⟨subscriberID, hresolve, hsub, hafter⟩ := exec_catchUp_targets h
  obtain ⟨-, hpolled⟩ := exec_catchUpTargets hsub hafter
  refine ⟨subscriberID, hresolve, ?_, ?_⟩
  · intro target htarget
    obtain ⟨hauth, bindings, hbindings, hall⟩ := exec_catchUpTargets_each hsub hafter htarget
    refine ⟨hauth, bindings, hbindings, ?_⟩
    intro b hb
    obtain ⟨result, hresult, hpoll⟩ := hall b hb
    exact ⟨result, hresult, .of_polled hs hauth hpoll⟩
  · intro result hresult
    obtain ⟨target, htarget, b, hpoll⟩ := hpolled result hresult
    obtain ⟨hauth, -⟩ := exec_catchUpTargets_each hsub hafter htarget
    exact ⟨target, htarget, b, hpoll.resolved, .of_polled hs hauth hpoll⟩

end CatchUp

/-! ## Snapshots -/

section Snapshot

variable {Actor : Type} {hooks : Hooks Actor} {actor : Actor} {now : Int}

/-- A successful request for a snapshot has asked for what it answers. -/
theorem exec_getLatestSnapshot_checked {s t : Store} (hs : Reachable s)
    {req : GatewayGetLatestSnapshotRequest} {resp : GatewayGetLatestSnapshotResponse}
    (h : Prog.Exec (handler now) OpStep (gatewayGetLatestSnapshot hooks actor req).run s (.ok resp)
      t) :
    ∃ subscriberID target b, resolveSubscriber hooks actor req.subscriberId = .ok subscriberID ∧
      req.target = some target ∧ HasBinding hooks actor target b ∧
      SnapshotChecked hooks actor subscriberID req s t target b resp.snapshot := by
  rw [← handler_within_whole] at h
  obtain ⟨subscriberID, target, bindings, b, snapshot, hread⟩ := exec_gatewayGetLatestSnapshot h
  obtain ⟨u, hu, hu', hanswer⟩ := hread.stored
  obtain ⟨key, hlookup, hcompatible⟩ := Store.getLatestSnapshot_stored hanswer
  have hkey := (hs.opSteps hu).snapshots_named hlookup
  have hmem : b ∈ bindings := by
    obtain ⟨honly, hnamed⟩ := selectBinding_ok hread.selected
    by_cases hempty : req.bindingKey = ""
    · rw [honly hempty]
      exact List.mem_singleton_self b
    · exact (hnamed hempty).1
  unfold Store.compatible at hcompatible
  rw [hkey] at hcompatible
  simp only [Bool.and_eq_true, decide_eq_true_eq, Bool.not_eq_true', Bool.and_eq_false_iff,
    decide_eq_false_iff_not] at hcompatible
  obtain ⟨⟨hstream, htype⟩, hversion⟩ := hcompatible
  have hlisted := (requireAllowedType_ok_iff _ _ _).mp hread.listed
  refine ⟨subscriberID, target, b, hread.canonical, hread.forTarget,
    ⟨bindings, hread.resolved, hmem⟩, ?_⟩
  rw [hread.answered]
  refine ⟨rfl, ⟨u, hu, hu', key, snapshot, hlookup, hstream, rfl⟩, htype, ?_, ?_, ?_, ?_, ?_⟩
  · intro hbound
    show snapshot.ref.payloadVersion ≤ req.maxPayloadVersion
    rcases hversion with hzero | hle
    · omega
    · omega
  · show b.snapshotTypes = [] ∨ snapshot.ref.payloadType ∈ b.snapshotTypes
    rw [htype]
    exact hlisted
  · show hooks.authorize { actor, operation := .getSnapshot, target,
                           payloadType := snapshot.ref.payloadType, subscriberID } = .ok ()
    rw [htype]
    exact hread.authorized
  · show hooks.allowSnapshot actor target snapshot.ref.payloadType = .ok ()
    rw [htype]
    exact hread.allowed
  · exact hread.decodable

end Snapshot

/-! ## The calls that hand out payloads -/

/-- **Nothing is exposed unchecked.** Whatever the hooks and the store, and with any operations of
others in between: `GatewayCatchUp`, `GatewaySubscribePoll` and `GatewayGetLatestSnapshot` answer an
error, without any payload, or what they answer is checked. A catch-up that answers leaves out
nothing of what the core engine has answered it, so a single check that fails makes it an error. -/
theorem nothing_unchecked {Actor : Type} (hooks : Hooks Actor) (actor : Actor) {s : Store}
    (hs : Reachable s) (now : Int) :
    (∀ req r t, Prog.Exec (handler now) OpStep (gatewayCatchUp hooks actor req).run s r t →
      (∃ err, r = .error err) ∨ ∃ results subscriberID, r = .ok results ∧
        AllChecked hooks actor subscriberID req.subscriberId req.targets .catchUp
          req.limitPerTarget req.totalLimitPerTarget s t results) ∧
    (∀ req r t, Prog.Exec (handler now) OpStep (gatewaySubscribePoll hooks actor req).run s r t →
      (∃ err, r = .error err) ∨ ∃ results subscriberID,
        r = .ok (results.map toSubscribeResponse) ∧
        AllChecked hooks actor subscriberID req.subscriberId req.targets .subscribe
          req.batchLimitPerTarget 0 s t results) ∧
    (∀ req r t,
      Prog.Exec (handler now) OpStep (gatewayGetLatestSnapshot hooks actor req).run s r t →
      (∃ err, r = .error err) ∨ ∃ resp subscriberID target b, r = .ok resp ∧
        resolveSubscriber hooks actor req.subscriberId = .ok subscriberID ∧
        req.target = some target ∧ HasBinding hooks actor target b ∧
        SnapshotChecked hooks actor subscriberID req s t target b resp.snapshot) := by
  refine ⟨?_, ?_, ?_⟩
  · rintro req (err | results) t hexec
    · exact .inl ⟨err, rfl⟩
    · obtain ⟨subscriberID, hall⟩ := exec_catchUp_checked hs hexec
      exact .inr ⟨results, subscriberID, rfl, hall⟩
  · rintro req (err | responses) t hexec
    · exact .inl ⟨err, rfl⟩
    · obtain ⟨results, hresults, rfl⟩ := Prog.exec_bind_pure_ok.mp hexec
      obtain ⟨subscriberID, hall⟩ := exec_catchUp_checked hs hresults
      exact .inr ⟨results, subscriberID, rfl, hall⟩
  · rintro req (err | resp) t hexec
    · exact .inl ⟨err, rfl⟩
    · obtain ⟨subscriberID, target, b, hrest⟩ := exec_getLatestSnapshot_checked hs hexec
      exact .inr ⟨resp, subscriberID, target, b, rfl, hrest⟩

/-- An event and a snapshot of allowed types, on the stream `a`. -/
def noteBacklog : Store :=
  runOps
    [.append 0 { streamID := "a", payloadType := "note" },
      .putSnapshot { streamID := "a", seq := 1, payloadType := "notes", payloadVersion := 2 }]
    newStore

/-- The target whose stream is `a`. -/
def noteTarget : SyncTarget where
  ns := "n"
  id := "a"

/-- A request for the snapshot of `noteBacklog`. -/
def notesRequest : GatewayGetLatestSnapshotRequest where
  subscriberId := "u"
  target := some noteTarget
  payloadType := "notes"
  maxPayloadVersion := 2

/-- One note and one snapshot of the notes are checked and sent. -/
theorem nothing_unchecked_note :
    (∃ result t, result.status = .ok ∧
      AllChecked secretHooks () "u" "u" [noteTarget] .catchUp 0 0 noteBacklog t [result]) ∧
    ∃ snapshot b t, snapshot.payloadVersion = 2 ∧
      SnapshotChecked secretHooks () "u" notesRequest noteBacklog t noteTarget b snapshot := by
  obtain ⟨hcatchUp, -, hsnapshot⟩ :=
    nothing_unchecked secretHooks () (s := noteBacklog) ⟨_, rfl⟩ 0
  constructor
  · rcases hcatchUp { subscriberId := "u", targets := [noteTarget] } _ _
      (Prog.exec_run _ _ _ noteBacklog) with ⟨err, herr⟩ | ⟨results, subscriberID, hok, hall⟩
    · cases herr
    · cases hok
      obtain rfl : "u" = subscriberID := Except.ok.inj hall.canonical
      exact ⟨_, _, rfl, hall⟩
  · rcases hsnapshot notesRequest _ _ (Prog.exec_run _ _ _ noteBacklog) with
      ⟨err, herr⟩ | ⟨resp, subscriberID, target, b, hok, hsub, htarget, -, hchecked⟩
    · cases herr
    · cases hok
      obtain rfl : "u" = subscriberID := Except.ok.inj hsub
      obtain rfl : noteTarget = target := Option.some.inj htarget
      exact ⟨_, b, _, rfl, hchecked⟩

end Synclog.Gateway
