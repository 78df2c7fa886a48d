import Synclog.Client.ExactlyOnce
import Synclog.Client.Gaps
import Synclog.Gateway.Alone
import Synclog.Lib.Rounds

/-!
# Whether `catchUp` ends

`SyncClient.catchUp` calls the gateway again after every batch that is not the last and after every
recovery from a snapshot. Here nothing changes on the server but through the client's own
acknowledgements.

* `SoleClient`, `undisturbed` — the server with the records of its one client, and what the client's
  calls do there.
* `Recoverable` — every request of a recovery is granted.
* `handed`, `ProjectionStore.fed` — the next batch as the client hands it over, and what a record
  becomes by it.
* `Stuck` — the replay from the cursor is too long, and that from the latest compatible snapshot is
  too long as well.
* `Stalled` — the record is behind the cursor and does not catch up with it, however often the next
  batch is handed over.
* `catchUp_ends_iff` — `catchUp` ends, by returning or throwing, exactly where the client is neither
  stuck nor stalled.
-/

namespace Synclog.Client

open Synclog.Lib Synclog.Core Synclog.Memory Synclog.Gateway

/-! ## A server with one client -/

section SoleClient

variable {R V TSnapshot TEvent Actor : Type}

/-- The store of the server, and the records of the client. -/
structure SoleClient (R : Type) where
  server : Store
  records : TargetBindingKey → R

/-- A call of the client to the gateway: it is answered, or the promise rejects. -/
def SoleClient.call {α : Type} (σ : SoleClient R) (p : ServerProg α) :
    Except JsError α × SoleClient R :=
  let (r, server) := Prog.run (Memory.handler 0) p.run σ.server
  (r.mapError fun err => .rejected err.message, { σ with server })

/-- What the calls of the client do: the gateway and the projection store answer, and no one else
does anything. Nothing comes on a live stream. -/
def undisturbed (hooks : Hooks Actor) (actor : Actor)
    (store : ProjectionStore R V TSnapshot TEvent) :
    Handler (ClientCall TSnapshot TEvent) (SoleClient R)
  | _, .catchUp req, σ => σ.call (gatewayCatchUp hooks actor req)
  | _, .ack req, σ => σ.call do
      let _ ← gatewayAck hooks actor req
      return ()
  | _, .getLatestSnapshot req, σ => σ.call do
      let resp ← gatewayGetLatestSnapshot hooks actor req
      return some resp.snapshot
  | _, .getAppliedSeq key, σ => (.ok (store.appliedSeq (σ.records key)), σ)
  | _, .applySnapshot key snapshot, σ =>
    (.ok (), { σ with
      records := recordsAfter store (.applySnapshot key snapshot : ClientCall TSnapshot TEvent _)
        σ.records })
  | _, .applyEvents key events, σ =>
    (.ok (), { σ with
      records := recordsAfter store (.applyEvents key events : ClientCall TSnapshot TEvent _)
        σ.records })
  | _, .subscribe _, σ => ((), σ)
  | _, .next, σ => (.ok none, σ)
  | _, .aborted, σ => (false, σ)

/-- A call of the client that the gateway answers. -/
theorem SoleClient.call_ok {α : Type} {σ : SoleClient R} {p : ServerProg α} {a : α} {s : Store}
    (h : Prog.run (Memory.handler 0) p.run σ.server = (.ok a, s)) :
    σ.call p = (.ok a, { σ with server := s }) := by
  unfold SoleClient.call
  rw [h]
  rfl

/-- A call of the client that the gateway refuses. -/
theorem SoleClient.call_error {α : Type} {σ : SoleClient R} {p : ServerProg α} {err : GoError}
    {s : Store} (h : Prog.run (Memory.handler 0) p.run σ.server = (.error err, s)) :
    σ.call p = (.error (.rejected err.message), { σ with server := s }) := by
  unfold SoleClient.call
  rw [h]
  rfl

end SoleClient

/-! ## Which binding the client means -/

section Selection

/-- Among the results for some bindings the client selects that for the binding which the gateway
selects; where the gateway selects none, the client returns or throws. -/
theorem selectResult_cases {P : StreamBinding → GatewayCatchUpResult → Prop}
    {bindings : List StreamBinding} {results : List GatewayCatchUpResult}
    (h : List.Forall₂ P bindings results)
    (hkey : ∀ b result, P b result → result.bindingKey = b.bindingKey)
    (requestedKey : Option String) :
    (∃ b result, selectBinding bindings (requestedKey.getD "") = .ok b ∧
        selectResult results requestedKey = .ok (some result) ∧ P b result) ∨
      (∀ b, selectBinding bindings (requestedKey.getD "") ≠ .ok b) ∧
        (selectResult results requestedKey = .ok none ∨
          ∃ message, selectResult results requestedKey = .error (.thrown message)) := by
  unfold selectResult
  rcases hrequested : requested requestedKey with _ | key
  · have hempty : requestedKey.getD "" = "" := by
      rcases requestedKey with _ | key
      · rfl
      · unfold requested at hrequested
        simp only [ite_eq_right_iff, reduceCtorEq, imp_false, not_not] at hrequested
        exact hrequested
    rw [hempty]
    rcases h with _ | @⟨b, result, bindings, results, hab, hrest⟩
    · exact .inr ⟨nofun, .inl rfl⟩
    · rcases hrest with _ | ⟨hab', hrest⟩
      · exact .inl ⟨b, result, rfl, rfl, hab⟩
      · exact .inr ⟨nofun, .inr ⟨_, rfl⟩⟩
  · obtain ⟨rfl, hne⟩ : requestedKey = some key ∧ key ≠ "" := by
      rcases requestedKey with _ | key'
      · cases hrequested
      · unfold requested at hrequested
        simp only at hrequested
        split_ifs at hrequested with hne
        cases hrequested
        exact ⟨rfl, hne⟩
    simp only [Option.getD_some]
    unfold selectBinding
    rw [if_neg hne]
    rcases find?_partners (p := fun b => b.bindingKey == key)
      (q := fun result => result.bindingKey == key) h (fun b result hP => by rw [hkey b result hP])
      with ⟨b, result, hb, hresult, hP⟩ | ⟨hb, hresult⟩
    · rw [hb, hresult]
      exact .inl ⟨b, result, rfl, rfl, hP⟩
    · rw [hb, hresult]
      exact .inr ⟨nofun, .inl rfl⟩

end Selection

/-! ## What the client's methods do -/

section Methods

variable {R V TSnapshot TEvent Actor : Type} (hooks : Hooks Actor) (actor : Actor)
  (opts : SyncClientOptions) (binding : SyncBinding TSnapshot TEvent)

/-- The catch-up of the client is granted, and `b` is the binding that the client means. -/
structure Selected (s : Store) (subscriberID : SubscriberID) (bindings : List StreamBinding)
    (b : StreamBinding) : Prop where
  granted : CatchUpGranted hooks actor s binding.target
    (catchUpRequest opts binding).limitPerTarget (catchUpRequest opts binding).totalLimitPerTarget
    .catchUp opts.subscriberId subscriberID bindings
  selects : selectBinding bindings (binding.bindingKey.getD "") = .ok b

/-- The requests of a recovery from the snapshot are granted. -/
structure Recoverable (s : Store) (subscriberID : SubscriberID) (bindings : List StreamBinding)
    (b : StreamBinding) (snapshot : Snapshot) : Prop where
  loads : SnapshotGranted hooks actor s (snapshotRequest opts binding) subscriberID binding.target
    bindings b snapshot
  acks : AckGranted hooks actor s
    (ackRequest opts (keyFor opts binding b.bindingKey) snapshot.ref.seq) subscriberID
    binding.target bindings b

variable {hooks actor opts binding} {store : ProjectionStore R V TSnapshot TEvent}
  {σ : SoleClient R}

variable (opts) in
/-- The binding that is acknowledged for is the one that was answered. -/
theorem eq_of_selectBinding_keyFor {bindings : List StreamBinding} {b b' : StreamBinding}
    (hselect : selectBinding bindings (binding.bindingKey.getD "") = .ok b)
    (hack : selectBinding bindings (keyFor opts binding b.bindingKey).bindingKey = .ok b') :
    b' = b := by
  by_cases hempty : binding.bindingKey.getD "" = ""
  · have hmem := mem_of_selectBinding hack
    rw [(selectBinding_ok hselect).1 hempty] at hmem
    exact List.mem_singleton.mp hmem
  · have hkey : (keyFor opts binding b.bindingKey).bindingKey = binding.bindingKey.getD "" := by
      rcases hkey : binding.bindingKey with _ | key
      · rw [hkey] at hempty
        exact absurd rfl hempty
      · rw [hkey] at hempty
        simp [keyFor, hkey, normalizeBindingKey, show key ≠ "" from hempty]
    rw [hkey] at hack
    exact Except.ok.inj (hack.symm.trans hselect)

variable (store σ) in
/-- The acknowledgement for a binding that was answered: it moves the cursor of that binding, or the
promise rejects. -/
theorem ack_cases (hs : Reachable σ.server) {subscriberID : SubscriberID}
    {bindings : List StreamBinding} {b : StreamBinding}
    (hsub : resolveSubscriber hooks actor opts.subscriberId = .ok subscriberID)
    (hresolve : resolveBindings hooks actor binding.target = .ok bindings)
    (hselect : selectBinding bindings (binding.bindingKey.getD "") = .ok b) (seq : Nat) :
    (∃ t, Prog.run (undisturbed hooks actor store)
          (ack opts (keyFor opts binding b.bindingKey) seq).run σ =
            (.ok (), { σ with server := t }) ∧
        AckGranted hooks actor σ.server (ackRequest opts (keyFor opts binding b.bindingKey) seq)
          subscriberID binding.target bindings b ∧
        Reachable t ∧ AckEffect σ.server subscriberID b.streamID seq "" t) ∨
      ∃ message, Prog.run (undisturbed hooks actor store)
          (ack opts (keyFor opts binding b.bindingKey) seq).run σ =
          (.error (.rejected message), σ) ∧
        ¬ AckGranted hooks actor σ.server (ackRequest opts (keyFor opts binding b.bindingKey) seq)
          subscriberID binding.target bindings b := by
  show (∃ t, σ.call _ = _ ∧ _) ∨ ∃ message, σ.call _ = _ ∧ _
  rcases ack_alone hooks actor (ackRequest opts (keyFor opts binding b.bindingKey) seq) hs with
    ⟨state, t, subscriberID', target, bindings', b', hrun, hgranted, hreach, heffect⟩ |
      ⟨err, hrun, hdenied⟩
  · obtain rfl := Except.ok.inj (hsub.symm.trans hgranted.subscriber)
    obtain rfl : binding.target = target := Option.some.inj hgranted.forTarget
    obtain rfl := Except.ok.inj (hresolve.symm.trans hgranted.resolves)
    obtain rfl := eq_of_selectBinding_keyFor opts hselect hgranted.selects
    exact .inl ⟨t, SoleClient.call_ok (Prog.run_bindE_of_ok hrun), hgranted, hreach, heffect⟩
  · exact .inr ⟨err.message, SoleClient.call_error (Prog.run_bindE_of_error hrun), hdenied _ _ _ _⟩

variable (store) in
/-- A recovery: its requests are granted and it moves the cursor and the record up to the snapshot,
or it throws. -/
theorem recoverFromSnapshot_cases (hs : Reachable σ.server) {subscriberID : SubscriberID}
    {bindings : List StreamBinding} {b : StreamBinding}
    (hsub : resolveSubscriber hooks actor opts.subscriberId = .ok subscriberID)
    (hresolve : resolveBindings hooks actor binding.target = .ok bindings)
    (hselect : selectBinding bindings (binding.bindingKey.getD "") = .ok b) :
    (∃ snapshot τ, Prog.run (undisturbed hooks actor store)
          (recoverFromSnapshot opts binding).run σ = (.ok snapshot.ref.seq, τ) ∧
        Recoverable hooks actor opts binding σ.server subscriberID bindings b snapshot ∧
        snapshot.ref.seq ≤ store.appliedSeq (τ.records (keyFor opts binding b.bindingKey)) ∧
        Reachable τ.server ∧
        AckEffect σ.server subscriberID b.streamID snapshot.ref.seq "" τ.server) ∨
      ∃ err τ, Prog.run (undisturbed hooks actor store)
          (recoverFromSnapshot opts binding).run σ = (.error err, τ) ∧ err ≠ .outOfRounds ∧
        ∀ snapshot,
          ¬ Recoverable hooks actor opts binding σ.server subscriberID bindings b snapshot := by
  unfold recoverFromSnapshot
  rcases getLatestSnapshot_alone hooks actor σ.server (snapshotRequest opts binding) with
    ⟨resp, subscriberID', target, bindings', b', snapshot, hrun, hgranted, hresp⟩ |
      ⟨err, hrun, hdenied⟩
  · obtain rfl := Except.ok.inj (hsub.symm.trans hgranted.subscriber)
    obtain rfl : binding.target = target := Option.some.inj hgranted.forTarget
    obtain rfl := Except.ok.inj (hresolve.symm.trans hgranted.resolves)
    obtain rfl := Except.ok.inj (hselect.symm.trans hgranted.selects)
    have hload : Prog.run (undisturbed hooks actor store)
        (Prog.performE (.getLatestSnapshot (snapshotRequest opts binding))).run σ =
          (.ok (some (gatewaySnapshot binding.target b snapshot)), σ) := by
      rw [← hresp]
      exact SoleClient.call_ok (Prog.run_bindE_of_ok hrun)
    obtain ⟨records, happly, hreached⟩ : ∃ records, Prog.run (undisturbed hooks actor store)
        (Prog.performE (.applySnapshot (keyFor opts binding b.bindingKey)
          (decodeSnapshot binding (gatewaySnapshot binding.target b snapshot)))).run σ =
          (.ok (), { σ with records }) ∧
        snapshot.ref.seq ≤ store.appliedSeq (records (keyFor opts binding b.bindingKey)) := by
      refine ⟨_, rfl, ?_⟩
      rw [recordsAfter_applySnapshot]
      rcases store.applySnapshot_cases
          (decodeSnapshot binding (gatewaySnapshot binding.target b snapshot))
          (σ.records (keyFor opts binding b.bindingKey)) with
        ⟨-, happlied, -⟩ | ⟨hnewer, happlied, -⟩
      · exact happlied.ge
      · exact happlied ▸ hnewer
    have hack := ack_cases store { σ with records } hs hsub hresolve hselect
      snapshot.ref.seq
    rcases hack with ⟨t, hack, hacks, hreach, heffect⟩ | ⟨message, hack, hdenied⟩
    · refine .inl ⟨snapshot, { server := t, records }, ?_, ⟨hgranted, hacks⟩, hreached, hreach,
        heffect⟩
      exact (Prog.run_bindE_of_ok hload).trans
        ((Prog.run_bindE_of_ok happly).trans (Prog.run_bindE_of_ok hack))
    · refine .inr ⟨_, _, (Prog.run_bindE_of_ok hload).trans
        ((Prog.run_bindE_of_ok happly).trans (Prog.run_bindE_of_error hack)), by simp, ?_⟩
      intro snapshot' h
      obtain rfl := Except.ok.inj (hgranted.stored.symm.trans h.loads.stored)
      exact hdenied h.acks
  · have hload : Prog.run (undisturbed hooks actor store)
        (Prog.performE (.getLatestSnapshot (snapshotRequest opts binding))).run σ =
          (.error (.rejected err.message), σ) :=
      SoleClient.call_error (Prog.run_bindE_of_error hrun)
    exact .inr ⟨_, _, Prog.run_bindE_of_error hload, by simp,
      fun snapshot h => hdenied _ _ _ _ _ h.loads⟩

variable (binding) in
/-- The events of the next batch for the subscriber, as the client hands them to the store. -/
def handed (s : Store) (subscriberID : SubscriberID) (b : StreamBinding) (limit : Int) :
    List (DecodedGatewayEvent TEvent) :=
  (offered s subscriberID b.streamID limit).map fun event =>
    decodeEvent binding (gatewayEvent binding.target b.bindingKey event)

/-- The record when the new ones among these events were handed to the store. -/
def ProjectionStore.fed (store : ProjectionStore R V TSnapshot TEvent)
    (events : List (DecodedGatewayEvent TEvent)) (r : R) : R :=
  let new := events.filter fun event => event.seq > store.appliedSeq r
  if new.length > 0 then store.applyEvents new r else r

/-- The events that the client passes on from a batch. -/
theorem newEvents_toGatewayBatch {s : Store} {subscriberID : SubscriberID} {b : StreamBinding}
    {limit : Int} {inner : EventBatch}
    (hevents : inner.events = offered s subscriberID b.streamID limit) (appliedSeq : Nat) :
    newEvents binding appliedSeq (toGatewayBatch binding.target b.bindingKey inner) =
      (handed binding s subscriberID b limit).filter fun event => event.seq > appliedSeq := by
  unfold newEvents handed toGatewayBatch
  simp only [hevents, List.filter_map, List.map_map]
  rfl

variable (hooks actor) in
/-- The new events of a batch are handed over. -/
theorem run_applyNew (key : TargetBindingKey) (events : List (DecodedGatewayEvent TEvent))
    (σ : SoleClient R) :
    ∃ records, Prog.run (undisturbed hooks actor store)
        (applyNew key (events.filter fun event =>
          event.seq > store.appliedSeq (σ.records key))).run σ = (.ok (), { σ with records }) ∧
      records key = store.fed events (σ.records key) := by
  unfold applyNew ProjectionStore.fed
  simp only
  split_ifs with hnew
  · refine ⟨_, rfl, ?_⟩
    rw [recordsAfter_applyEvents]
  · exact ⟨σ.records, rfl, rfl⟩

variable (opts store) in
/-- A batch: what is new in it is handed to the store, and the applied seq is acknowledged, or the
promise rejects. -/
theorem applyBatch_cases (hs : Reachable σ.server) {subscriberID : SubscriberID}
    {bindings : List StreamBinding} {b : StreamBinding}
    (hsub : resolveSubscriber hooks actor opts.subscriberId = .ok subscriberID)
    (hresolve : resolveBindings hooks actor binding.target = .ok bindings)
    (hselect : selectBinding bindings (binding.bindingKey.getD "") = .ok b) {limit : Int}
    {inner : EventBatch}
    (hevents : inner.events = offered σ.server subscriberID b.streamID limit) :
    ∃ records, records (keyFor opts binding b.bindingKey) =
        store.fed (handed binding σ.server subscriberID b limit)
          (σ.records (keyFor opts binding b.bindingKey)) ∧
      ((∃ count t, Prog.run (undisturbed hooks actor store)
            (applyBatch opts binding (toGatewayBatch binding.target b.bindingKey inner)).run σ =
              (.ok (count, store.appliedSeq (records (keyFor opts binding b.bindingKey))),
                { server := t, records }) ∧
          AckGranted hooks actor σ.server (ackRequest opts (keyFor opts binding b.bindingKey)
            (store.appliedSeq (records (keyFor opts binding b.bindingKey)))) subscriberID
            binding.target bindings b ∧
          Reachable t ∧ AckEffect σ.server subscriberID b.streamID
            (store.appliedSeq (records (keyFor opts binding b.bindingKey))) "" t) ∨
        ∃ message, Prog.run (undisturbed hooks actor store)
            (applyBatch opts binding (toGatewayBatch binding.target b.bindingKey inner)).run σ =
              (.error (.rejected message), { σ with records }) ∧
          ¬ AckGranted hooks actor σ.server (ackRequest opts (keyFor opts binding b.bindingKey)
            (store.appliedSeq (records (keyFor opts binding b.bindingKey)))) subscriberID
            binding.target bindings b) := by
  obtain ⟨records, hnew, hrecord⟩ := run_applyNew hooks actor
    (keyFor opts binding b.bindingKey) (handed binding σ.server subscriberID b limit) σ
  rw [← newEvents_toGatewayBatch hevents] at hnew
  have happlied : ∀ τ : SoleClient R, Prog.run (undisturbed hooks actor store)
      (Prog.performE (.getAppliedSeq (keyFor opts binding b.bindingKey))).run τ =
        (.ok (store.appliedSeq (τ.records (keyFor opts binding b.bindingKey))), τ) := fun _ => rfl
  have hack := ack_cases store { σ with records } hs hsub hresolve hselect
    (store.appliedSeq (records (keyFor opts binding b.bindingKey)))
  refine ⟨records, hrecord, ?_⟩
  rcases hack with ⟨t, hack, hgranted, hreach, heffect⟩ | ⟨message, hack, hdenied⟩
  · exact .inl ⟨_, t, (Prog.run_bindE_of_ok (happlied σ)).trans ((Prog.run_bindE_of_ok hnew).trans
      ((Prog.run_bindE_of_ok (happlied { σ with records })).trans (Prog.run_bindE_of_ok hack))),
      hgranted, hreach, heffect⟩
  · refine .inr ⟨message, ?_, hdenied⟩
    exact (Prog.run_bindE_of_ok (happlied σ)).trans ((Prog.run_bindE_of_ok hnew).trans
      ((Prog.run_bindE_of_ok (happlied { σ with records })).trans
        (Prog.run_bindE_of_error hack)))

end Methods

/-! ## One round -/

section Round

variable {R V TSnapshot TEvent Actor : Type} (hooks : Hooks Actor) (actor : Actor)
  (opts : SyncClientOptions) (binding : SyncBinding TSnapshot TEvent)
  (store : ProjectionStore R V TSnapshot TEvent)

/-- What the loop of `catchUp` returns or throws within a number of rounds. -/
def looped (rounds : Nat) (st : SyncCatchUpSummary × SoleClient R) :
    Except JsError SyncCatchUpSummary :=
  (Prog.run (undisturbed hooks actor store) (catchUpLoop opts binding rounds st.1).run st.2).1

/-- The loop has returned or thrown; its rounds are not used up. -/
def Ended (r : Except JsError SyncCatchUpSummary) : Prop := r ≠ .error .outOfRounds

variable {hooks actor opts binding store} {σ : SoleClient R} {subscriberID : SubscriberID}
  {bindings : List StreamBinding} {b : StreamBinding}

variable (store) in
/-- What the client hears of the binding that it means, and picks out of the results. -/
theorem Selected.result (hs : Reachable σ.server)
    (h : Selected hooks actor opts binding σ.server subscriberID bindings b) :
    ∃ results result, Prog.run (undisturbed hooks actor store)
        (Prog.performE (.catchUp (catchUpRequest opts binding))).run σ = (.ok results, σ) ∧
      Prog.run (undisturbed hooks actor store)
        (Prog.ofExcept (selectResult results binding.bindingKey)).run σ = (.ok (some result), σ) ∧
      ResultFor σ.server subscriberID binding.target (catchUpRequest opts binding).limitPerTarget
        (catchUpRequest opts binding).totalLimitPerTarget b result := by
  rcases catchUp_alone hooks actor binding.target (catchUpRequest opts binding).limitPerTarget
      (catchUpRequest opts binding).totalLimitPerTarget .catchUp hs opts.subscriberId with
    ⟨results, subscriberID', bindings', hrun, hgranted, hforall⟩ | ⟨err, -, hdenied⟩
  · obtain rfl := Except.ok.inj (h.granted.subscriber.symm.trans hgranted.subscriber)
    obtain rfl := Except.ok.inj (h.granted.resolves.symm.trans hgranted.resolves)
    rcases selectResult_cases hforall (fun _ _ hresult => hresult.forBinding) binding.bindingKey
      with ⟨b', result, hselect, hresult, hfor⟩ | ⟨hnone, -⟩
    · obtain rfl := Except.ok.inj (h.selects.symm.trans hselect)
      refine ⟨results, result, SoleClient.call_ok hrun, ?_, hfor⟩
      rw [hresult]
      rfl
    · exact absurd h.selects (hnone b)
  · exact absurd h.granted (hdenied _ _)

/-- A loop that ends in its first round. -/
theorem halts_of_run {summary : SyncCatchUpSummary} {r : Except JsError SyncCatchUpSummary}
    {τ : SoleClient R} (hrun : Prog.run (undisturbed hooks actor store)
      (catchUpLoop opts binding 1 summary).run σ = (r, τ)) (hr : r ≠ .error .outOfRounds) :
    Halts (looped hooks actor opts binding store) Ended (summary, σ) := by
  refine ⟨1, ?_⟩
  unfold looped
  rw [hrun]
  exact hr

/-- Where the catch-up is not granted, or the client means none of the bindings, the loop ends. -/
theorem halts_of_not_selected (hs : Reachable σ.server)
    (hnot : ∀ subscriberID bindings b,
      ¬ Selected hooks actor opts binding σ.server subscriberID bindings b)
    (summary : SyncCatchUpSummary) :
    Halts (looped hooks actor opts binding store) Ended (summary, σ) := by
  rcases catchUp_alone hooks actor binding.target (catchUpRequest opts binding).limitPerTarget
      (catchUpRequest opts binding).totalLimitPerTarget .catchUp hs opts.subscriberId with
    ⟨results, subscriberID, bindings, hrun, hgranted, hforall⟩ | ⟨err, hrun, -⟩
  · have hfirst : Prog.run (undisturbed hooks actor store)
        (Prog.performE (.catchUp (catchUpRequest opts binding))).run σ = (.ok results, σ) :=
      SoleClient.call_ok hrun
    have hselect : ∀ r, selectResult results binding.bindingKey = r →
        Prog.run (undisturbed hooks actor store)
          (Prog.ofExcept (selectResult results binding.bindingKey)).run σ = (r, σ) := by
      rintro _ rfl
      rfl
    rcases selectResult_cases hforall (fun _ _ hresult => hresult.forBinding) binding.bindingKey
      with ⟨b, result, hb, -⟩ | ⟨-, hnone | ⟨message, hthrown⟩⟩
    · exact absurd ⟨hgranted, hb⟩ (hnot subscriberID bindings b)
    · refine halts_of_run (r := .ok summary) (τ := σ) ?_ (by simp)
      exact (Prog.run_bindE_of_ok hfirst).trans (Prog.run_bindE_of_ok (hselect _ hnone))
    · refine halts_of_run (r := .error (.thrown message)) (τ := σ) ?_ (by simp)
      exact (Prog.run_bindE_of_ok hfirst).trans (Prog.run_bindE_of_error (hselect _ hthrown))
  · refine halts_of_run (r := .error (.rejected err.message)) (τ := σ) ?_ (by simp)
    exact Prog.run_bindE_of_error (SoleClient.call_error hrun)

variable (store) in
/-- The client is heard about the binding, or the loop ends. -/
theorem selected_or_halts (hs : Reachable σ.server)
    (hsub : resolveSubscriber hooks actor opts.subscriberId = .ok subscriberID)
    (hresolve : resolveBindings hooks actor binding.target = .ok bindings)
    (hselect : selectBinding bindings (binding.bindingKey.getD "") = .ok b)
    (summary : SyncCatchUpSummary) :
    Selected hooks actor opts binding σ.server subscriberID bindings b ∨
      Halts (looped hooks actor opts binding store) Ended (summary, σ) := by
  by_cases hsel : Selected hooks actor opts binding σ.server subscriberID bindings b
  · exact .inl hsel
  · refine .inr (halts_of_not_selected hs ?_ summary)
    intro subscriberID' bindings' b' hsel'
    obtain rfl := Except.ok.inj (hsub.symm.trans hsel'.granted.subscriber)
    obtain rfl := Except.ok.inj (hresolve.symm.trans hsel'.granted.resolves)
    obtain rfl := Except.ok.inj (hselect.symm.trans hsel'.selects)
    exact hsel hsel'

variable (store) in
/-- A round in which the replay is too long: the loop goes on behind a snapshot, or it ends because
a request of the recovery is denied. -/
theorem round_of_tooLong (hs : Reachable σ.server)
    (h : Selected hooks actor opts binding σ.server subscriberID bindings b)
    (hlong : TooLongAt σ.server b.streamID (catchUpRequest opts binding).totalLimitPerTarget
      (σ.server.committed subscriberID b.streamID)) (summary : SyncCatchUpSummary) :
    (∃ snapshot summary' τ,
        GoesOn (looped hooks actor opts binding store) (summary, σ) (summary', τ) ∧
        Recoverable hooks actor opts binding σ.server subscriberID bindings b snapshot ∧
        snapshot.ref.seq ≤ store.appliedSeq (τ.records (keyFor opts binding b.bindingKey)) ∧
        Reachable τ.server ∧
        AckEffect σ.server subscriberID b.streamID snapshot.ref.seq "" τ.server) ∨
      Halts (looped hooks actor opts binding store) Ended (summary, σ) ∧ ∀ snapshot,
        ¬ Recoverable hooks actor opts binding σ.server subscriberID bindings b snapshot := by
  obtain ⟨results, result, hfirst, hselect, hfor⟩ := h.result store hs
  have hstatus : result.status = .tooLong := by
    rcases hfor.answer with ⟨hstatus, -⟩ | ⟨-, hshort, -⟩
    · exact hstatus
    · exact absurd hlong hshort
  rcases recoverFromSnapshot_cases store hs h.granted.subscriber h.granted.resolves
      h.selects with
    ⟨snapshot, τ, hrun, hrecoverable, hafter⟩ | ⟨err, τ, hrun, herr, hdenied⟩
  · refine .inl ⟨snapshot, { summary with
      appliedSnapshots := summary.appliedSnapshots + 1
      ackedSeq := max summary.ackedSeq snapshot.ref.seq }, τ, ?_, hrecoverable, hafter⟩
    intro n
    refine congrArg Prod.fst ((Prog.run_bindE_of_ok hfirst).trans
      ((Prog.run_bindE_of_ok hselect).trans ?_))
    simp only [if_pos hstatus]
    exact Prog.run_bindE_of_ok hrun
  · refine .inr ⟨halts_of_run (r := .error err) (τ := τ) ?_ (by simpa using herr), hdenied⟩
    refine (Prog.run_bindE_of_ok hfirst).trans ((Prog.run_bindE_of_ok hselect).trans ?_)
    simp only [if_pos hstatus]
    exact Prog.run_bindE_of_error hrun

/-- What a round leads to that goes on behind a batch: the batch was not the last one, its new
events were handed to the store, and the applied seq was acknowledged. -/
structure Passed (hooks : Hooks Actor) (actor : Actor) (opts : SyncClientOptions)
    (binding : SyncBinding TSnapshot TEvent) (store : ProjectionStore R V TSnapshot TEvent)
    (subscriberID : SubscriberID) (bindings : List StreamBinding) (b : StreamBinding)
    (σ τ : SoleClient R) : Prop where
  more : σ.server.committed subscriberID b.streamID +
    normalizeLimit (catchUpRequest opts binding).limitPerTarget <
      (σ.server.ensureStream b.streamID).head
  record : τ.records (keyFor opts binding b.bindingKey) =
    store.fed (handed binding σ.server subscriberID b (catchUpRequest opts binding).limitPerTarget)
      (σ.records (keyFor opts binding b.bindingKey))
  granted : AckGranted hooks actor σ.server (ackRequest opts (keyFor opts binding b.bindingKey)
    (store.appliedSeq (τ.records (keyFor opts binding b.bindingKey)))) subscriberID binding.target
    bindings b
  reachable : Reachable τ.server
  effect : AckEffect σ.server subscriberID b.streamID
    (store.appliedSeq (τ.records (keyFor opts binding b.bindingKey))) "" τ.server

variable (store) in
/-- A round in which the replay is not too long: the loop goes on behind a batch, or it ends because
the batch is the last one or the acknowledgement is denied. -/
theorem round_of_short (hs : Reachable σ.server)
    (h : Selected hooks actor opts binding σ.server subscriberID bindings b)
    (hshort : ¬ TooLongAt σ.server b.streamID (catchUpRequest opts binding).totalLimitPerTarget
      (σ.server.committed subscriberID b.streamID)) (summary : SyncCatchUpSummary) :
    (∃ summary' τ, GoesOn (looped hooks actor opts binding store) (summary, σ) (summary', τ) ∧
        Passed hooks actor opts binding store subscriberID bindings b σ τ) ∨
      Halts (looped hooks actor opts binding store) Ended (summary, σ) ∧
        ((σ.server.ensureStream b.streamID).head ≤ σ.server.committed subscriberID b.streamID +
            normalizeLimit (catchUpRequest opts binding).limitPerTarget ∨
          ¬ AckGranted hooks actor σ.server (ackRequest opts (keyFor opts binding b.bindingKey)
            (store.appliedSeq (store.fed (handed binding σ.server subscriberID b
              (catchUpRequest opts binding).limitPerTarget)
              (σ.records (keyFor opts binding b.bindingKey))))) subscriberID binding.target
            bindings b) := by
  obtain ⟨results, result, hfirst, hselect, hfor⟩ := h.result store hs
  rcases hfor.answer with
    ⟨-, hlong⟩ | ⟨hstatus, -, inner, hbatch, hevents, -, hnone, hlast⟩
  · exact absurd hlong hshort
  by_cases hempty : inner.events = []
  · refine .inr ⟨halts_of_run (r := .ok summary) (τ := σ) ?_ (by simp), .inl ?_⟩
    · refine (Prog.run_bindE_of_ok hfirst).trans ((Prog.run_bindE_of_ok hselect).trans ?_)
      simp only [hstatus, hbatch, toGatewayBatch, hempty]
      rfl
    · exact (hnone hempty).trans (Nat.le_add_right _ _)
  have hlength : ¬ (toGatewayBatch binding.target b.bindingKey inner).events.length = 0 := by
    simpa [toGatewayBatch] using hempty
  obtain ⟨records, hrecord, happly⟩ := applyBatch_cases opts store hs
    h.granted.subscriber h.granted.resolves h.selects hevents
  rcases happly with ⟨count, t, hrun, hgranted, hreach, heffect⟩ | ⟨message, hrun, hdenied⟩
  · by_cases hfinal : (toGatewayBatch binding.target b.bindingKey inner).final = true
    · refine .inr ⟨halts_of_run (r := .ok { summary with
        appliedEvents := summary.appliedEvents + count
        ackedSeq := max summary.ackedSeq
          (store.appliedSeq (records (keyFor opts binding b.bindingKey))) })
        (τ := { server := t, records }) ?_ (by simp), .inl (hlast.mp hfinal)⟩
      refine (Prog.run_bindE_of_ok hfirst).trans ((Prog.run_bindE_of_ok hselect).trans ?_)
      simp only [hstatus, hbatch, if_neg hlength]
      refine (Prog.run_bindE_of_ok hrun).trans ?_
      simp only [if_pos hfinal]
      rfl
    · refine .inl ⟨{ summary with
        appliedEvents := summary.appliedEvents + count
        ackedSeq := max summary.ackedSeq
          (store.appliedSeq (records (keyFor opts binding b.bindingKey))) },
        { server := t, records }, ?_, Nat.lt_of_not_le (mt hlast.mpr hfinal), hrecord, hgranted,
        hreach, heffect⟩
      intro n
      refine congrArg Prod.fst ((Prog.run_bindE_of_ok hfirst).trans
        ((Prog.run_bindE_of_ok hselect).trans ?_))
      simp only [hstatus, hbatch, if_neg hlength]
      refine (Prog.run_bindE_of_ok hrun).trans ?_
      simp only [if_neg hfinal]
  · refine .inr ⟨halts_of_run (r := .error (.rejected message)) (τ := { σ with records }) ?_
      (by simp), .inr (hrecord ▸ hdenied)⟩
    refine (Prog.run_bindE_of_ok hfirst).trans ((Prog.run_bindE_of_ok hselect).trans ?_)
    simp only [hstatus, hbatch, if_neg hlength]
    exact Prog.run_bindE_of_error hrun

/-! ## What a batch does to a record -/

/-- The events of the next batch follow the cursor, where the replay is not too long; and there are
some below the head. -/
theorem handed_ok {s : Store} (hs : Reachable s)
    (h : Selected hooks actor opts binding s subscriberID bindings b) {totalLimit : Int}
    (hshort : ¬ TooLongAt s b.streamID totalLimit (s.committed subscriberID b.streamID))
    (limit : Int) :
    Consecutive DecodedGatewayEvent.seq (s.committed subscriberID b.streamID + 1)
        (handed binding s subscriberID b limit) ∧
      (s.committed subscriberID b.streamID < (s.ensureStream b.streamID).head →
        handed binding s subscriberID b limit ≠ []) := by
  have hid := ((resolveBindings_ok h.granted.resolves).1 b (mem_of_selectBinding h.selects)).1
  obtain ⟨answer, -, ⟨-, hlong⟩ | ⟨-, -, hevents, hconsecutive, hnone, -⟩⟩ := exists_run_catchUp hs
    { subscriberID, streamID := b.streamID, limit, totalLimit }
    (resolveSubscriber_ne h.granted.subscriber) hid
  · exact absurd hlong hshort
  · unfold handed
    rw [← hevents]
    refine ⟨Consecutive.map_iff.mpr hconsecutive, fun hlt hempty => ?_⟩
    exact absurd (hnone (List.map_eq_nil_iff.mp hempty)) (Nat.not_le_of_lt hlt)

section Fed

variable {c : Nat} {events : List (DecodedGatewayEvent TEvent)} {r : R}

/-- A record that is not behind the cursor gets beyond it: the next batch goes in, or was there
already. -/
theorem lt_appliedSeq_fed (hevents : Consecutive DecodedGatewayEvent.seq (c + 1) events)
    (hne : events ≠ []) (hle : c ≤ store.appliedSeq r) :
    c < store.appliedSeq (store.fed events r) := by
  have hnew : Consecutive DecodedGatewayEvent.seq (store.appliedSeq r + 1)
      (events.filter fun event => event.seq > store.appliedSeq r) := by
    have hdrop := hevents.drop (store.appliedSeq r - c)
    rw [show c + 1 + (store.appliedSeq r - c) = store.appliedSeq r + 1 by omega] at hdrop
    rw [hevents.filter_lt_eq_drop, show store.appliedSeq r + 1 - (c + 1) =
      store.appliedSeq r - c by omega]
    exact hdrop
  unfold ProjectionStore.fed
  simp only
  split_ifs with hlength
  · have hsome := List.ne_nil_of_length_pos hlength
    obtain ⟨hlow, -⟩ := hnew.bounds (List.getLast_mem hsome)
    rw [store.appliedSeq_applyEvents _ r hsome hnew]
    omega
  · have hnone : (events.filter fun event => event.seq > store.appliedSeq r) = [] :=
      List.length_eq_zero_iff.mp (by omega)
    have hold := List.filter_eq_nil_iff.mp hnone _ (List.head_mem hne)
    rw [decide_eq_true_eq, hevents.head_eq hne] at hold
    omega

/-- To a record behind the cursor the whole batch is new. -/
theorem fed_eq_applyEvents (hevents : Consecutive DecodedGatewayEvent.seq (c + 1) events)
    (hne : events ≠ []) (hlt : store.appliedSeq r < c) :
    store.fed events r = store.applyEvents events r := by
  have hall : (events.filter fun event => event.seq > store.appliedSeq r) = events := by
    refine List.filter_eq_self.mpr fun event hevent => ?_
    obtain ⟨hlow, -⟩ := hevents.bounds hevent
    exact decide_eq_true (by omega)
  unfold ProjectionStore.fed
  simp only
  rw [hall, if_pos (List.length_pos_of_ne_nil hne)]

end Fed

end Round

/-! ## Whole runs -/

section Runs

variable {R V TSnapshot TEvent Actor : Type} (hooks : Hooks Actor) (actor : Actor)
  (opts : SyncClientOptions) (binding : SyncBinding TSnapshot TEvent)

/-- The client is served and may recover, but the replay from the latest compatible snapshot, or
from the cursor if that is ahead of it, is too long. -/
structure Stuck (s : Store) (subscriberID : SubscriberID) (bindings : List StreamBinding)
    (b : StreamBinding) (snapshot : Snapshot) : Prop where
  selected : Selected hooks actor opts binding s subscriberID bindings b
  recoverable : Recoverable hooks actor opts binding s subscriberID bindings b snapshot
  again : TooLongAt s b.streamID (catchUpRequest opts binding).totalLimitPerTarget
    (max (s.committed subscriberID b.streamID) snapshot.ref.seq)

variable {hooks actor opts binding} {store : ProjectionStore R V TSnapshot TEvent}
  {σ : SoleClient R} {subscriberID : SubscriberID} {bindings : List StreamBinding}
  {b : StreamBinding} {snapshot : Snapshot}

/-- The client is served and may acknowledge, the replay is not too long and more than a batch, and
the record is behind the cursor: it stays so, however often the next batch is handed over. -/
structure Stalled (hooks : Hooks Actor) (actor : Actor) (opts : SyncClientOptions)
    (binding : SyncBinding TSnapshot TEvent) (store : ProjectionStore R V TSnapshot TEvent)
    (s : Store) (subscriberID : SubscriberID) (bindings : List StreamBinding) (b : StreamBinding)
    (r : R) : Prop where
  selected : Selected hooks actor opts binding s subscriberID bindings b
  acks : AckGranted hooks actor s (ackRequest opts (keyFor opts binding b.bindingKey)
    (s.committed subscriberID b.streamID)) subscriberID binding.target bindings b
  short : ¬ TooLongAt s b.streamID (catchUpRequest opts binding).totalLimitPerTarget
    (s.committed subscriberID b.streamID)
  more : s.committed subscriberID b.streamID +
    normalizeLimit (catchUpRequest opts binding).limitPerTarget < (s.ensureStream b.streamID).head
  behind : ∀ n, store.appliedSeq ((store.applyEvents (handed binding s subscriberID b
    (catchUpRequest opts binding).limitPerTarget))^[n] r) < s.committed subscriberID b.streamID

/-- What was passed on behind a batch is served as before. -/
theorem Passed.short {τ : SoleClient R}
    (h : Passed hooks actor opts binding store subscriberID bindings b σ τ)
    (hshort : ¬ TooLongAt σ.server b.streamID (catchUpRequest opts binding).totalLimitPerTarget
      (σ.server.committed subscriberID b.streamID)) :
    ¬ TooLongAt τ.server b.streamID (catchUpRequest opts binding).totalLimitPerTarget
      (τ.server.committed subscriberID b.streamID) := by
  intro hlong
  refine hshort ((h.effect.tooLongAt_iff.mp hlong).anti ?_)
  rw [h.effect.cursor]
  exact le_max_left _ _

/-- A record that is not behind the cursor: the cursor advances in every round, up to the head. -/
theorem halts_of_ahead (hs : Reachable σ.server)
    (hsub : resolveSubscriber hooks actor opts.subscriberId = .ok subscriberID)
    (hresolve : resolveBindings hooks actor binding.target = .ok bindings)
    (hselect : selectBinding bindings (binding.bindingKey.getD "") = .ok b)
    (hshort : ¬ TooLongAt σ.server b.streamID (catchUpRequest opts binding).totalLimitPerTarget
      (σ.server.committed subscriberID b.streamID))
    (hahead : σ.server.committed subscriberID b.streamID ≤
      store.appliedSeq (σ.records (keyFor opts binding b.bindingKey)))
    (summary : SyncCatchUpSummary) :
    Halts (looped hooks actor opts binding store) Ended (summary, σ) := by
  refine halts_of_measure
    (I := fun st : SyncCatchUpSummary × SoleClient R => Reachable st.2.server ∧
      ¬ TooLongAt st.2.server b.streamID (catchUpRequest opts binding).totalLimitPerTarget
        (st.2.server.committed subscriberID b.streamID) ∧
      st.2.server.committed subscriberID b.streamID ≤
        store.appliedSeq (st.2.records (keyFor opts binding b.bindingKey)))
    (fun st => (st.2.server.ensureStream b.streamID).head -
      st.2.server.committed subscriberID b.streamID) ?_ ⟨hs, hshort, hahead⟩
  rintro ⟨summary, σ⟩ ⟨hs, hshort, hahead⟩
  dsimp only at hs hshort hahead
  rcases selected_or_halts store hs hsub hresolve hselect summary with hsel | hdone
  · rcases round_of_short store hs hsel hshort summary with
      ⟨summary', τ, hgoes, hpassed⟩ | ⟨hdone, -⟩
    · obtain ⟨hconsecutive, hsome⟩ := handed_ok hs hsel hshort
        (catchUpRequest opts binding).limitPerTarget
      have hmore := hpassed.more
      have hlt := lt_appliedSeq_fed hconsecutive (hsome (by omega)) hahead
      rw [← hpassed.record] at hlt
      have hcommitted := hpassed.effect.cursor
      rw [max_eq_right hlt.le] at hcommitted
      have hhead : (τ.server.ensureStream b.streamID).head =
          (σ.server.ensureStream b.streamID).head := by
        rw [hpassed.effect.rest]
        rfl
      refine .inr ⟨(summary', τ), hgoes, ⟨hpassed.reachable, hpassed.short hshort,
        hcommitted.le⟩, ?_⟩
      show (τ.server.ensureStream b.streamID).head - τ.server.committed subscriberID b.streamID <
        (σ.server.ensureStream b.streamID).head - σ.server.committed subscriberID b.streamID
      rw [hcommitted, hhead]
      omega
    · exact .inl hdone
  · exact .inl hdone

/-- A record that reaches the cursor when the next batch is handed over `n` times. -/
theorem halts_of_reaches (n : Nat) (hs : Reachable σ.server)
    (hsub : resolveSubscriber hooks actor opts.subscriberId = .ok subscriberID)
    (hresolve : resolveBindings hooks actor binding.target = .ok bindings)
    (hselect : selectBinding bindings (binding.bindingKey.getD "") = .ok b)
    (hshort : ¬ TooLongAt σ.server b.streamID (catchUpRequest opts binding).totalLimitPerTarget
      (σ.server.committed subscriberID b.streamID))
    (hreaches : σ.server.committed subscriberID b.streamID ≤
      store.appliedSeq ((store.applyEvents (handed binding σ.server subscriberID b
        (catchUpRequest opts binding).limitPerTarget))^[n]
          (σ.records (keyFor opts binding b.bindingKey))))
    (summary : SyncCatchUpSummary) :
    Halts (looped hooks actor opts binding store) Ended (summary, σ) := by
  induction n generalizing σ summary with
  | zero => exact halts_of_ahead hs hsub hresolve hselect hshort hreaches summary
  | succ n ih =>
      rcases Nat.lt_or_ge (store.appliedSeq (σ.records (keyFor opts binding b.bindingKey)))
        (σ.server.committed subscriberID b.streamID) with hbehind | hahead
      case inr => exact halts_of_ahead hs hsub hresolve hselect hshort hahead summary
      rcases selected_or_halts store hs hsub hresolve hselect summary with hsel | hdone
      case inr => exact hdone
      rcases round_of_short store hs hsel hshort summary with
        ⟨summary', τ, hgoes, hpassed⟩ | ⟨hdone, -⟩
      case inr => exact hdone
      obtain ⟨hconsecutive, hsome⟩ := handed_ok hs hsel hshort
        (catchUpRequest opts binding).limitPerTarget
      have hmore := hpassed.more
      have hrecord := hpassed.record
      rw [fed_eq_applyEvents hconsecutive (hsome (by omega)) hbehind] at hrecord
      refine .of_goesOn hgoes ?_
      rcases Nat.le_total (store.appliedSeq (τ.records (keyFor opts binding b.bindingKey)))
        (σ.server.committed subscriberID b.streamID) with hle | hge
      · -- the acknowledgement moves no cursor, so the same batch is next
        refine ih hpassed.reachable (hpassed.short hshort) ?_ summary'
        unfold handed
        rw [hpassed.effect.committed_of_le hle, hpassed.effect.offered_of_le hle, hrecord]
        exact hreaches
      · refine halts_of_ahead hpassed.reachable hsub hresolve hselect (hpassed.short hshort) ?_
          summary'
        rw [hpassed.effect.cursor, max_eq_right hge]

/-- Where the replay is not too long, a client that is not stalled gets to the end. -/
theorem halts_of_short (hs : Reachable σ.server)
    (hsel : Selected hooks actor opts binding σ.server subscriberID bindings b)
    (hshort : ¬ TooLongAt σ.server b.streamID (catchUpRequest opts binding).totalLimitPerTarget
      (σ.server.committed subscriberID b.streamID))
    (hfree : ¬ Stalled hooks actor opts binding store σ.server subscriberID bindings b
      (σ.records (keyFor opts binding b.bindingKey))) (summary : SyncCatchUpSummary) :
    Halts (looped hooks actor opts binding store) Ended (summary, σ) := by
  rcases round_of_short store hs hsel hshort summary with
    ⟨-, τ, -, hpassed⟩ | ⟨hdone, -⟩
  · have hmore := hpassed.more
    have hacks : AckGranted hooks actor σ.server (ackRequest opts (keyFor opts binding b.bindingKey)
        (σ.server.committed subscriberID b.streamID)) subscriberID binding.target bindings b :=
      { hpassed.granted with
        within := (Nat.le_add_right _ _).trans hmore.le }
    obtain ⟨n, hreaches⟩ : ∃ n, σ.server.committed subscriberID b.streamID ≤
        store.appliedSeq ((store.applyEvents (handed binding σ.server subscriberID b
          (catchUpRequest opts binding).limitPerTarget))^[n]
            (σ.records (keyFor opts binding b.bindingKey))) := by
      by_contra hnever
      exact hfree ⟨hsel, hacks, hshort, hmore, fun n => not_le.mp fun hle => hnever ⟨n, hle⟩⟩
    exact halts_of_reaches n hs hsel.granted.subscriber hsel.granted.resolves hsel.selects hshort
      hreaches summary
  · exact hdone

/-- To the record of a client that is stalled the whole batch is new. -/
theorem Stalled.fed {r : R} (hs : Reachable σ.server)
    (h : Stalled hooks actor opts binding store σ.server subscriberID bindings b r) :
    store.fed (handed binding σ.server subscriberID b (catchUpRequest opts binding).limitPerTarget)
        r =
      store.applyEvents (handed binding σ.server subscriberID b
        (catchUpRequest opts binding).limitPerTarget) r := by
  obtain ⟨hconsecutive, hsome⟩ := handed_ok hs h.selected h.short
    (catchUpRequest opts binding).limitPerTarget
  have hmore := h.more
  exact fed_eq_applyEvents hconsecutive (hsome (by omega)) (h.behind 0)

/-- A client that is stalled is stalled after a round. -/
theorem Stalled.passed {τ : SoleClient R} (hs : Reachable σ.server)
    (h : Stalled hooks actor opts binding store σ.server subscriberID bindings b
      (σ.records (keyFor opts binding b.bindingKey)))
    (hpassed : Passed hooks actor opts binding store subscriberID bindings b σ τ) :
    Stalled hooks actor opts binding store τ.server subscriberID bindings b
      (τ.records (keyFor opts binding b.bindingKey)) := by
  have hrecord := hpassed.record.trans (h.fed hs)
  have hle : store.appliedSeq (τ.records (keyFor opts binding b.bindingKey)) ≤
      σ.server.committed subscriberID b.streamID := hrecord ▸ (h.behind 1).le
  have hcommitted := hpassed.effect.committed_of_le hle b.streamID
  constructor
  case selected => exact ⟨h.selected.granted.ack hpassed.effect (.inr hle), h.selected.selects⟩
  case acks => exact h.acks.again hpassed.effect rfl hcommitted.le
  case short => exact hpassed.short h.short
  case more =>
    rw [hcommitted, hpassed.effect.rest]
    exact h.more
  case behind =>
    intro n
    unfold handed
    rw [hcommitted, hpassed.effect.offered_of_le hle, hrecord]
    exact h.behind (n + 1)

/-- A client that is stalled gets the same batch in every round. -/
theorem not_halts_of_stalled (hs : Reachable σ.server)
    (h : Stalled hooks actor opts binding store σ.server subscriberID bindings b
      (σ.records (keyFor opts binding b.bindingKey))) (summary : SyncCatchUpSummary) :
    ¬ Halts (looped hooks actor opts binding store) Ended (summary, σ) := by
  refine not_halts_of_invariant
    (I := fun st : SyncCatchUpSummary × SoleClient R => Reachable st.2.server ∧
      Stalled hooks actor opts binding store st.2.server subscriberID bindings b
        (st.2.records (keyFor opts binding b.bindingKey)))
    (fun st hdone => hdone rfl) ?_ ⟨hs, h⟩
  rintro ⟨summary, σ⟩ ⟨hs, h⟩
  dsimp only at hs h
  rcases round_of_short store hs h.selected h.short summary with
    ⟨summary', τ, hgoes, hpassed⟩ | ⟨-, hlast | hdenied⟩
  · exact ⟨(summary', τ), hgoes, hpassed.reachable, h.passed hs hpassed⟩
  · exact absurd h.more (Nat.not_lt_of_le hlast)
  · refine absurd { h.acks with within := ?_ } hdenied
    rw [h.fed hs]
    exact (h.behind 1).le.trans h.acks.within

/-- A client that is stuck is stuck after a recovery. -/
theorem Stuck.ack {s t : Store} (h : Stuck hooks actor opts binding s subscriberID bindings b
      snapshot)
    (heffect : AckEffect s subscriberID b.streamID snapshot.ref.seq "" t) :
    Stuck hooks actor opts binding t subscriberID bindings b snapshot := by
  have hlong : TooLongAt t b.streamID (catchUpRequest opts binding).totalLimitPerTarget
      (t.committed subscriberID b.streamID) := by
    rw [heffect.tooLongAt_iff, heffect.cursor]
    exact h.again
  refine ⟨⟨h.selected.granted.ack heffect (.inl hlong), h.selected.selects⟩, ⟨?_, ?_⟩, ?_⟩
  · refine { h.recoverable.loads with stored := ?_ }
    rw [heffect.rest]
    exact h.recoverable.loads.stored
  · refine { h.recoverable.acks with within := ?_ }
    rw [heffect.rest]
    exact h.recoverable.acks.within
  · rw [heffect.tooLongAt_iff, heffect.cursor, max_assoc, max_self]
    exact h.again

variable (store) in
/-- A client that is stuck recovers from the same snapshot in every round. -/
theorem not_halts_of_stuck (hs : Reachable σ.server)
    (h : Stuck hooks actor opts binding σ.server subscriberID bindings b snapshot)
    (summary : SyncCatchUpSummary) :
    ¬ Halts (looped hooks actor opts binding store) Ended (summary, σ) := by
  refine not_halts_of_invariant
    (I := fun st : SyncCatchUpSummary × SoleClient R => Reachable st.2.server ∧
      Stuck hooks actor opts binding st.2.server subscriberID bindings b snapshot)
    (fun st hdone => hdone rfl) ?_ ⟨hs, h⟩
  rintro ⟨summary, σ⟩ ⟨hs, h⟩
  rcases round_of_tooLong store hs h.selected (h.again.anti (le_max_left _ _)) summary
    with ⟨snapshot', summary', τ, hgoes, hrecoverable, -, hreach, heffect⟩ | ⟨-, hdenied⟩
  · obtain rfl := Except.ok.inj
      (h.recoverable.loads.stored.symm.trans hrecoverable.loads.stored)
    exact ⟨(summary', τ), hgoes, hreach, h.ack heffect⟩
  · exact absurd h.recoverable (hdenied snapshot)

/-- **When `catchUp` ends.** Over every reachable store that changes through the client's
acknowledgements only, and with every projection store: `catchUp` ends exactly where the client is
neither stuck nor stalled. -/
theorem catchUp_ends_iff (hs : Reachable σ.server) :
    (∃ rounds, (Prog.run (undisturbed hooks actor store)
        (catchUp opts binding rounds).run σ).1 ≠ .error .outOfRounds) ↔
      ∀ subscriberID bindings b,
        (∀ snapshot,
          ¬ Stuck hooks actor opts binding σ.server subscriberID bindings b snapshot) ∧
        ¬ Stalled hooks actor opts binding store σ.server subscriberID bindings b
          (σ.records (keyFor opts binding b.bindingKey)) := by
  constructor
  · rintro hends subscriberID bindings b
    refine ⟨fun snapshot hstuck => ?_, fun hstalled => ?_⟩
    · exact not_halts_of_stuck store hs hstuck {} hends
    · exact not_halts_of_stalled hs hstalled {} hends
  · intro hfree
    show Halts (looped hooks actor opts binding store) Ended ({}, σ)
    by_cases hsel : ∃ subscriberID bindings b,
        Selected hooks actor opts binding σ.server subscriberID bindings b
    · obtain ⟨subscriberID, bindings, b, hsel⟩ := hsel
      obtain ⟨hunstuck, hmoves⟩ := hfree subscriberID bindings b
      by_cases hlong : TooLongAt σ.server b.streamID
          (catchUpRequest opts binding).totalLimitPerTarget
          (σ.server.committed subscriberID b.streamID)
      · -- after one recovery the replay is not too long and the record is at the cursor, or there
        -- is no recovery
        rcases round_of_tooLong store hs hsel hlong {} with
          ⟨snapshot, summary, τ, hgoes, hrecoverable, hreached, hreach, heffect⟩ | ⟨hdone, -⟩
        · have hagain : ¬ TooLongAt σ.server b.streamID
              (catchUpRequest opts binding).totalLimitPerTarget
              (max (σ.server.committed subscriberID b.streamID) snapshot.ref.seq) :=
            fun hagain => hunstuck snapshot ⟨hsel, hrecoverable, hagain⟩
          have hahead : σ.server.committed subscriberID b.streamID ≤ snapshot.ref.seq := by
            refine Nat.le_of_not_lt fun hlt => hagain ?_
            rwa [max_eq_left hlt.le]
          refine .of_goesOn hgoes (halts_of_ahead hreach hsel.granted.subscriber
            hsel.granted.resolves hsel.selects ?_ ?_ summary)
          · rwa [heffect.tooLongAt_iff, heffect.cursor]
          · rwa [heffect.cursor, max_eq_right hahead]
        · exact hdone
      · exact halts_of_short hs hsel hlong hmoves {}
    · refine halts_of_not_selected hs (fun subscriberID bindings b h => ?_) {}
      exact hsel ⟨subscriberID, bindings, b, h⟩

end Runs

/-! ## Recoveries that end, and loops that do not -/

/-- A client that collects the seqs of events, with a type for its snapshots. -/
def listBinding : SyncBinding (List Nat) Nat :=
  { seqBinding with projection := { seqBinding.projection with snapshotType := "list" } }

/-- Three events of which those below 3 are gone, and one snapshot. -/
def truncatedWithSnapshot (seq : Nat) : Store :=
  let append : Op := .append 0 { streamID := "a" }
  runOps [append, append, append,
    .putSnapshot { streamID := "a", seq, payloadType := "list" }, .truncateBefore "a" 3] newStore

/-- The truncated log is that of a reachable store. -/
theorem truncatedWithSnapshot_reachable (seq : Nat) : Reachable (truncatedWithSnapshot seq) :=
  ⟨_, rfl⟩

/-- The server with a client that has no record yet. -/
def staleClient (seq : Nat) : SoleClient (Nat × List Nat) where
  server := truncatedWithSnapshot seq
  records _ := seqStore.empty

/-- The client is told `TOO_LONG`, and the snapshot at 2 leads to the event that is left. -/
theorem catchUp_ends_iff_recovered :
    TooLongAt (staleClient 2).server "a" 0 ((staleClient 2).server.committed "alice/laptop" "a") ∧
      ∃ rounds, (Prog.run (undisturbed perActorHooks "alice" seqStore)
        (catchUp laptopOpts listBinding rounds).run (staleClient 2)).1 ≠ .error .outOfRounds := by
  refine ⟨.inl ⟨1, by decide, by decide⟩,
    (catchUp_ends_iff (truncatedWithSnapshot_reachable 2)).mpr ?_⟩
  intro subscriberID bindings b
  refine ⟨fun snapshot hstuck => ?_, fun hstalled => ?_⟩
  · obtain rfl : "alice/laptop" = subscriberID :=
      Except.ok.inj hstuck.selected.granted.subscriber
    obtain rfl : [{ bindingKey := "default", streamID := "a" }] = bindings :=
      Except.ok.inj hstuck.selected.granted.resolves
    obtain rfl := List.mem_singleton.mp (mem_of_selectBinding hstuck.selected.selects)
    obtain rfl : Store.newSnapshot { streamID := "a", seq := 2, payloadType := "list" } =
      snapshot := Except.ok.inj hstuck.recoverable.loads.stored
    rcases hstuck.again with ⟨n, hn, hgone⟩ | ⟨hpos, -⟩
    · obtain rfl : n = 3 := by
        obtain ⟨hlow, hhigh⟩ := Finset.mem_Ioc.mp hn
        change 2 < n at hlow
        change n ≤ 3 at hhigh
        omega
      exact absurd hgone (by decide)
    · exact absurd hpos (by decide)
  · exact absurd (hstalled.behind 0) (Nat.not_lt_of_le (Nat.zero_le _))

/-- What follows the seqs 0 and 1 is gone. -/
theorem truncatedWithSnapshot_tooLong {c : Nat} (hc : c ≤ 1) :
    TooLongAt (truncatedWithSnapshot 1) "a" 0 c := by
  refine TooLongAt.anti hc (.inl ⟨2, Finset.mem_Ioc.mpr ⟨by decide, by decide⟩, ?_⟩)
  decide

/-- The snapshot at 1 does not help: the event behind it is gone. -/
theorem staleClient_stuck :
    Stuck perActorHooks "alice" laptopOpts listBinding (staleClient 1).server "alice/laptop"
      [{ bindingKey := "default", streamID := "a" }] { bindingKey := "default", streamID := "a" }
      (Store.newSnapshot { streamID := "a", seq := 1, payloadType := "list" }) := by
  refine ⟨⟨⟨rfl, rfl, rfl, ?_⟩, rfl⟩, ⟨⟨rfl, rfl, by decide, rfl, rfl, rfl, rfl, rfl, rfl, rfl⟩,
    ⟨rfl, rfl, rfl, rfl, rfl, by decide⟩⟩, truncatedWithSnapshot_tooLong (by decide)⟩
  intro b hb hshort
  obtain rfl := List.mem_singleton.mp hb
  exact absurd (truncatedWithSnapshot_tooLong (by decide)) hshort

/-- A store that passes over events that do not continue its applied seq. -/
def gapless : ProjectionStore Nat Unit (List Nat) Nat where
  empty := 0
  appliedSeq := id
  value _ := ()
  step _ _ := ()
  load _ := ()
  applyEvents events r :=
    if events.head?.map (·.seq) = some (r + 1) then (events.getLast?.map (·.seq)).getD r else r
  applySnapshot snapshot r := max r snapshot.seq
  appliedSeq_empty := rfl
  appliedSeq_applyEvents events r hne hevents := by
    have hhead : events.head?.map (·.seq) = some (r + 1) := by
      rw [List.head?_eq_some_head hne]
      exact congrArg some (hevents.head_eq hne)
    simp [hhead, List.getLast?_eq_some_getLast hne]
  value_applyEvents _ _ _ _ := rfl
  applySnapshot_cases snapshot r := by
    rcases Nat.le_total r snapshot.seq with hle | hge
    · exact .inl ⟨hle, max_eq_right hle, rfl⟩
    · exact .inr ⟨hge, max_eq_left hge, rfl⟩

/-- The same client in batches of one event. -/
def oneByOneOpts : SyncClientOptions := { laptopOpts with batchLimitPerTarget := 1 }

/-- Four events, of which the client has acknowledged two and lost its record since. -/
def lostClient : SoleClient Nat where
  server :=
    let append : Op := .append 0 { streamID := "a" }
    runOps [append, append, append, append, .ack ⟨"alice/laptop", "a", 2, ""⟩] newStore
  records _ := gapless.empty

/-- The store of the client passes over the third event again and again. -/
theorem lostClient_stalled :
    Stalled perActorHooks "alice" oneByOneOpts listBinding gapless lostClient.server "alice/laptop"
      [{ bindingKey := "default", streamID := "a" }] { bindingKey := "default", streamID := "a" }
      (lostClient.records ⟨"laptop", listBinding.target, "default"⟩) := by
  refine ⟨⟨⟨rfl, rfl, rfl, ?_⟩, rfl⟩, ⟨rfl, rfl, rfl, rfl, rfl, by decide⟩, ?_, by decide, ?_⟩
  · intro b hb _
    obtain rfl := List.mem_singleton.mp hb
    rfl
  · rintro (⟨n, hn, hgone⟩ | ⟨hpos, -⟩)
    · obtain ⟨hlow, hhigh⟩ := Finset.mem_Ioc.mp hn
      change 2 < n at hlow
      change n ≤ 4 at hhigh
      obtain rfl | rfl : n = 3 ∨ n = 4 := by omega
      · exact absurd hgone (by decide)
      · exact absurd hgone (by decide)
    · exact absurd hpos (by decide)
  · intro n
    have hsame : gapless.applyEvents (handed listBinding lostClient.server "alice/laptop"
        { bindingKey := "default", streamID := "a" }
        (catchUpRequest oneByOneOpts listBinding).limitPerTarget) 0 = 0 := rfl
    show gapless.appliedSeq (_^[n] 0) < 2
    rw [Function.iterate_fixed hsame]
    decide

/-- The first client is told `TOO_LONG`, recovers from the snapshot at 1, is told `TOO_LONG`, and so
on, as often as one likes. The second gets the third event, which its store passes over, and
acknowledges nothing. -/
theorem catchUp_never_ends :
    Reachable (staleClient 1).server ∧ Reachable lostClient.server ∧ ∀ rounds,
      (Prog.run (undisturbed perActorHooks "alice" seqStore)
          (catchUp laptopOpts listBinding rounds).run (staleClient 1)).1 = .error .outOfRounds ∧
        (Prog.run (undisturbed perActorHooks "alice" gapless)
          (catchUp oneByOneOpts listBinding rounds).run lostClient).1 = .error .outOfRounds := by
  have hstale := truncatedWithSnapshot_reachable 1
  have hlost : Reachable lostClient.server := ⟨_, rfl⟩
  refine ⟨hstale, hlost, fun rounds => ⟨?_, ?_⟩⟩
  · by_contra hends
    exact not_halts_of_stuck seqStore hstale staleClient_stuck {} ⟨rounds, hends⟩
  · by_contra hends
    exact not_halts_of_stalled hlost lostClient_stalled {} ⟨rounds, hends⟩

end Synclog.Client
