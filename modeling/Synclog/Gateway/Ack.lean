import Synclog.Gateway.Exposure
import Synclog.Memory.Acks

/-!
# Acknowledging through the gateway

The keys under which the gateway reports a target's bindings come from `resolveBindings`, which
fills in the default key and refuses duplicates; `GatewayAck` takes such a key back and looks it up
with `selectBinding`.

* `AckEffect` — one cursor becomes the larger of itself and the acknowledged seq, and nothing else
  changes.
* `MovesOneCursor` — what `GatewayAck` does under the key of a binding: it fails and leaves the
  store as it is, or it is authorized and has that effect on the binding's stream.
* `EntriesRead`, `ResultServed` — each key in a target's state, and the key of a result of a
  catch-up, is the key of one of the target's bindings, and was served from its stream.
* `gatewayAck_moves_one_cursor` — every key that a call of the gateway reports is the key of a
  binding, and `GatewayAck` moves the cursor on the stream it was served from.
-/

namespace Synclog.Gateway

open Synclog.Lib Synclog.Core Synclog.Memory
open Relation (ReflTransGen)

/-! ## One acknowledgement -/

/-- The acknowledgement is not above the head; the subscriber's cursor on the stream becomes the
larger of itself and `seq`, with the new metadata if it advances; and the store is otherwise the
same. -/
structure AckEffect (s : Store) (subscriberID : SubscriberID) (streamID : StreamID) (seq : Nat)
    (metadata : String) (t : Store) : Prop where
  within : seq ≤ (s.ensureStream streamID).head
  cursor : t.committed subscriberID streamID = max (s.committed subscriberID streamID) seq
  metadata : (t.cursorOf subscriberID streamID).metadata =
    if s.committed subscriberID streamID < seq then metadata
    else (s.cursorOf subscriberID streamID).metadata
  others : ∀ key : CursorKey, key ≠ ⟨subscriberID, streamID⟩ →
    t.cursors.lookup key = s.cursors.lookup key
  rest : t = { s with cursors := t.cursors }

/-- The effect of `Ack` on the memory store. -/
theorem ackEffect_ack {s : Store} (hs : Reachable s) {req : AckRequest}
    (hsub : req.subscriberID ≠ "") (hid : req.streamID ≠ "")
    (hhead : req.seq ≤ (s.ensureStream req.streamID).head) :
    AckEffect s req.subscriberID req.streamID req.seq req.metadata (s.ack req).2 := by
  refine ⟨hhead, Store.ack_committed hs.cursorsNamed hsub hid, ?_, ?_, ?_⟩
  · rw [Store.ack_eq hs.cursorsNamed hsub hid]
    split_ifs
    · unfold Store.cursorOf Store.raised
      simp
    · rfl
  · intro key hkey
    rw [Store.ack_eq hs.cursorsNamed hsub hid]
    split_ifs
    · exact AList.lookup_insert_ne hkey
    · rfl
  · rw [Store.ack_eq hs.cursorsNamed hsub hid]
    split_ifs
    · rfl
    · rfl

/-- `Engine.Ack` alone. -/
theorem run_ack {s : Store} (hs : Reachable s) (req : AckRequest) (hsub : req.subscriberID ≠ "")
    (hid : req.streamID ≠ "") (now : Int) :
    ((∃ err, (Prog.run (handler now) (Engine.ack req).run s).1 = .error err) ∧
        (Prog.run (handler now) (Engine.ack req).run s).2 = s) ∨
      (∃ result, (Prog.run (handler now) (Engine.ack req).run s).1 = .ok result) ∧
        AckEffect s req.subscriberID req.streamID req.seq req.metadata
          (Prog.run (handler now) (Engine.ack req).run s).2 := by
  rw [run_engine_ack now hsub hid]
  split_ifs with habove
  · exact .inl ⟨⟨_, rfl⟩, rfl⟩
  · obtain ⟨cursor, hok⟩ := Store.ack_ok hs.cursorsNamed hsub hid
    rw [hok]
    exact .inr ⟨⟨_, rfl⟩, ackEffect_ack hs hsub hid (Nat.le_of_not_lt habove)⟩

/-! ## `GatewayAck` -/

section GatewayAck

variable {Actor : Type} (hooks : Hooks Actor) (actor : Actor)

/-- `GatewayAck` under the key of a binding, alone on a reachable store and with a resolver that
answers as before: it fails and leaves the store as it is, or the hooks authorize it for the
canonical subscriber and it moves that subscriber's cursor on the binding's stream. The other hooks
may answer otherwise than when the key was reported. -/
def MovesOneCursor (target : SyncTarget) (b : StreamBinding) : Prop :=
  ∀ (hooks' : Hooks Actor) (s : Store) (now : Int) (req : GatewayAckRequest),
    hooks'.resolveTarget actor target = hooks.resolveTarget actor target → Reachable s →
    req.target = some target → req.bindingKey = b.bindingKey →
    ((∃ err, (Prog.run (handler now) (gatewayAck hooks' actor req).run s).1 = .error err) ∧
        (Prog.run (handler now) (gatewayAck hooks' actor req).run s).2 = s) ∨
      ∃ subscriberID state,
        (Prog.run (handler now) (gatewayAck hooks' actor req).run s).1 = .ok state ∧
        resolveSubscriber hooks' actor req.subscriberId = .ok subscriberID ∧
        hooks'.authorize { actor, operation := .ack, target, subscriberID } = .ok () ∧
        AckEffect s subscriberID b.streamID req.seq req.metadata
          (Prog.run (handler now) (gatewayAck hooks' actor req).run s).2

variable {hooks actor}

/-- A binding is selected by its key. -/
theorem selectBinding_of_mem {bindings : List StreamBinding} {b : StreamBinding}
    (hb : b ∈ bindings) (hne : b.bindingKey ≠ "") (hnodup : (bindings.map (·.bindingKey)).Nodup) :
    selectBinding bindings b.bindingKey = .ok b := by
  unfold selectBinding
  rw [if_neg hne]
  cases hfind : bindings.find? fun binding => binding.bindingKey == b.bindingKey with
  | none =>
      have hnone := List.find?_eq_none.mp hfind b hb
      simp at hnone
  | some found =>
      have hkey : found.bindingKey = b.bindingKey := by simpa using List.find?_some hfind
      have hmem := List.mem_of_find?_eq_some hfind
      rw [List.inj_on_of_nodup_map hnodup hmem hb hkey]

/-- The state of a target whose streams are named can be read, and reading it changes nothing. -/
theorem run_targetState {subscriberID : SubscriberID} (hsub : subscriberID ≠ "")
    (target : SyncTarget) {bindings : List StreamBinding} (hids : ∀ b ∈ bindings, b.streamID ≠ "")
    (s : Store) (now : Int) :
    ∃ state, Prog.run (handler now) (targetState subscriberID target bindings).run s =
      (.ok state, s) := by
  have hsame : (Prog.run (handler now) (targetState subscriberID target bindings).run s).2 = s :=
    (targetState_only_reads subscriberID target bindings).run_state
      (fun β c s hc => handler_isRead now (.whole Store) β c s hc) s
  have hexec := Prog.exec_run (handler now) (fun _ _ => False)
    (targetState subscriberID target bindings).run s
  rw [← handler_within_whole] at hexec
  obtain ⟨-, states, hok, -⟩ := exec_targetState_states hsub hids hexec
  exact ⟨_, Prod.ext hok hsame⟩

/-- The bindings of a target depend on the resolver only. -/
theorem resolveBindings_congr {hooks' : Hooks Actor} {target : SyncTarget}
    (h : hooks'.resolveTarget actor target = hooks.resolveTarget actor target) :
    resolveBindings hooks' actor target = resolveBindings hooks actor target := by
  unfold resolveBindings
  rw [h]

/-- The key of a binding leads back to it. -/
theorem movesOneCursor {target : SyncTarget} {b : StreamBinding}
    (h : HasBinding hooks actor target b) : MovesOneCursor hooks actor target b := by
  intro hooks' s now req hresolver hs htarget hkey
  obtain ⟨bindings, hresolve, hb⟩ := h
  rw [← resolveBindings_congr hresolver] at hresolve
  obtain ⟨hall, hnodup⟩ := resolveBindings_ok hresolve
  have hvalid : validateTarget req.target = .ok target := by
    rw [htarget]
    exact validateTarget_of_resolveBindings hresolve
  have hselect : selectBinding bindings req.bindingKey = .ok b := by
    rw [hkey]
    exact selectBinding_of_mem hb (hall b hb).2 hnodup
  unfold gatewayAck
  rw [Prog.run_ofExcept_bindE]
  cases hsub : resolveSubscriber hooks' actor req.subscriberId with
  | error err => exact .inl ⟨⟨err, rfl⟩, rfl⟩
  | ok subscriberID =>
      simp only [Prog.run_ofExcept_bindE, hvalid, hresolve]
      cases hauth : hooks'.authorize { actor, operation := .ack, target, subscriberID } with
      | error err => exact .inl ⟨⟨err, rfl⟩, rfl⟩
      | ok =>
          simp only [hselect]
          rw [Prog.run_bindE]
          have hne := resolveSubscriber_ne hsub
          rcases run_ack hs { subscriberID, streamID := b.streamID, seq := req.seq,
                              metadata := req.metadata } hne (hall b hb).1 now with
            ⟨⟨err, herr⟩, hsame⟩ | ⟨⟨result, hok⟩, heffect⟩
          · rw [herr]
            exact .inl ⟨⟨err, rfl⟩, hsame⟩
          · rw [hok]
            obtain ⟨state, hstate⟩ :=
              run_targetState hne target (fun b hb => (hall b hb).1) (Prog.run (handler now)
                (Engine.ack { subscriberID, streamID := b.streamID, seq := req.seq,
                              metadata := req.metadata }).run s).2 now
            simp only [hstate]
            exact .inr ⟨subscriberID, state, rfl, rfl, hauth, heffect⟩

end GatewayAck

/-! ## The keys that are reported -/

section Reported

variable {Actor : Type} (hooks : Hooks Actor) (actor : Actor) (subscriberID : SubscriberID)

/-- Each entry of a target's state has the key of one of the target's bindings and was read from its
stream, and its key is one with which `GatewayAck` moves the cursor there. -/
def EntriesRead (s t : Store) (state : TargetState) : Prop :=
  ∀ entry ∈ state.bindings, ∃ b, HasBinding hooks actor state.target b ∧
    StateRead (.whole Store) OpStep subscriberID s t b entry ∧
    MovesOneCursor hooks actor state.target b

/-- A result of a catch-up has the key of a binding of its target and was read from its stream, its
batch and its events have that key, `GatewayAck` moves the cursor there, and the same holds of the
entries of its state. -/
structure ResultServed (operation : Operation) (limit totalLimit : Int) (s t : Store)
    (result : GatewayCatchUpResult) : Prop where
  served : ∃ b, HasBinding hooks actor result.target b ∧
    WholeAnswer hooks actor subscriberID operation limit totalLimit s t result.target b result ∧
    MovesOneCursor hooks actor result.target b
  entries : ∃ state, result.state = some state ∧ state.target = result.target ∧
    EntriesRead hooks actor subscriberID s t state

variable {hooks actor subscriberID} {limit totalLimit : Int} {operation : Operation} {now : Int}

/-- The entries were read in any longer stretch of the run. -/
theorem EntriesRead.widen {s s' t t' : Store} {state : TargetState} (hs : ReflTransGen OpStep s' s)
    (ht : ReflTransGen OpStep t t') (h : EntriesRead hooks actor subscriberID s t state) :
    EntriesRead hooks actor subscriberID s' t' state := by
  intro entry hentry
  obtain ⟨b, hb, ⟨hkey, u, hu, hu', hseq⟩, hmoves⟩ := h entry hentry
  exact ⟨b, hb, ⟨hkey, u, hs.trans hu, hu'.trans ht, hseq⟩, hmoves⟩

/-- The state of a resolved target is about its bindings. -/
theorem exec_targetState_entries (hsub : subscriberID ≠ "") {target : SyncTarget}
    {bindings : List StreamBinding} (hresolve : resolveBindings hooks actor target = .ok bindings)
    {s t : Store} {state : TargetState}
    (h : Prog.Exec (handler now) OpStep (targetState subscriberID target bindings).run s (.ok state)
      t) :
    ReflTransGen OpStep s t ∧ state.target = target ∧
      EntriesRead hooks actor subscriberID s t state := by
  obtain ⟨hall, -⟩ := resolveBindings_ok hresolve
  rw [← handler_within_whole] at h
  obtain ⟨hsteps, states, heq, hforall⟩ :=
    exec_targetState_states hsub (fun b hb => (hall b hb).1) h
  cases heq
  refine ⟨hsteps, rfl, ?_⟩
  intro entry hentry
  obtain ⟨b, hb, hread⟩ := exists_partner hforall hentry
  exact ⟨b, ⟨bindings, hresolve, hb⟩, hread, movesOneCursor ⟨bindings, hresolve, hb⟩⟩

/-- Every entry that `Open` answers was read during the call. -/
theorem exec_openEach_entries (hsub : subscriberID ≠ "") {targets : List SyncTarget} {s t : Store}
    {states : List TargetState}
    (h : Prog.Exec (handler now) OpStep (openEach hooks actor subscriberID targets).run s
      (.ok states) t) :
    ReflTransGen OpStep s t ∧ ∀ state ∈ states, EntriesRead hooks actor subscriberID s t state := by
  induction targets generalizing s t states with
  | nil =>
      obtain ⟨rfl, rfl⟩ := Prog.exec_pure_ok.mp h
      exact ⟨.refl, by simp⟩
  | cons target targets ih =>
      obtain ⟨state, u, hstate, hafter⟩ := Prog.exec_bind_ok.mp h
      obtain ⟨rest, hrest, rfl⟩ := Prog.exec_bind_pure_ok.mp hafter
      obtain ⟨bindings, hresolve, hstate⟩ := Prog.exec_ofExcept_bind_ok.mp hstate
      obtain ⟨-, -, hstate⟩ := Prog.exec_ofExcept_bind_ok.mp hstate
      obtain ⟨hu, -, hentries⟩ := exec_targetState_entries hsub hresolve hstate
      obtain ⟨hv, hall⟩ := ih hrest
      refine ⟨hu.trans hv, ?_⟩
      intro state' hstate'
      rcases List.mem_cons.mp hstate' with rfl | hmem
      · exact hentries.widen .refl hv
      · exact (hall state' hmem).widen hu .refl

/-- The results of one target carry its state. -/
theorem exec_catchUpTarget_entries (hsub : subscriberID ≠ "") {target : SyncTarget} {s t : Store}
    {results : List GatewayCatchUpResult}
    (h : Prog.Exec (handler now) OpStep
      (catchUpTarget hooks actor subscriberID limit totalLimit operation target).run s
        (.ok results) t) :
    ∀ result ∈ results, ∃ state, result.state = some state ∧ state.target = target ∧
      EntriesRead hooks actor subscriberID s t state := by
  obtain ⟨bindings, hresolve, hafter⟩ := Prog.exec_ofExcept_bind_ok.mp h
  obtain ⟨-, -, hafter⟩ := Prog.exec_ofExcept_bind_ok.mp hafter
  obtain ⟨state, u, hstate, hloop⟩ := Prog.exec_bind_ok.mp hafter
  obtain ⟨-, htarget, hentries⟩ := exec_targetState_entries hsub hresolve hstate
  rw [← handler_within_whole] at hloop
  obtain ⟨ht, hforall⟩ := exec_catchUpBindings hloop
  intro result hresult
  obtain ⟨b, -, hread⟩ := exists_partner hforall hresult
  exact ⟨state, hread.withState, htarget, hentries.widen .refl ht⟩

/-- What a catch-up reports. -/
theorem exec_catchUp_served {s t : Store} (hs : Reachable s) {requested : SubscriberID}
    {targets : List SyncTarget} {results : List GatewayCatchUpResult}
    (h : Prog.Exec (handler now) OpStep
      (catchUp hooks actor requested targets limit totalLimit operation).run s (.ok results) t) :
    ∃ subscriberID, resolveSubscriber hooks actor requested = .ok subscriberID ∧
      ∀ result ∈ results,
        ResultServed hooks actor subscriberID operation limit totalLimit s t result := by
  obtain ⟨subscriberID, hchecked⟩ := exec_catchUp_checked hs h
  refine ⟨subscriberID, hchecked.canonical, ?_⟩
  intro result hresult
  obtain ⟨target, -, b, hb, hwhole⟩ := hchecked.exposed result hresult
  obtain rfl := hwhole.forTarget
  refine ⟨⟨b, hb, hwhole, movesOneCursor hb⟩, ?_⟩
  rw [← handler_within_whole] at h
  obtain ⟨subscriberID', hresolve, hsub, htargets⟩ := exec_catchUp_targets h
  obtain rfl : subscriberID = subscriberID' :=
    Except.ok.inj (hchecked.canonical.symm.trans hresolve)
  obtain ⟨-, parts, rfl, hparts⟩ := exec_catchUpTargets_parts hsub htargets
  obtain ⟨part, hpart, hmem⟩ := List.mem_flatten.mp hresult
  obtain ⟨target, -, u, v, hu, hv, hexec⟩ := exists_partner hparts hpart
  obtain ⟨state, hstate, htarget, hentries⟩ := exec_catchUpTarget_entries hsub hexec result hmem
  refine ⟨state, hstate, ?_, hentries.widen hu hv⟩
  rw [htarget, (exec_catchUpTarget_distinct hsub hexec).1 result hmem]

/-- What a request for a snapshot reports. -/
theorem exec_getLatestSnapshot_state {s t : Store} {req : GatewayGetLatestSnapshotRequest}
    {resp : GatewayGetLatestSnapshotResponse}
    (h : Prog.Exec (handler now) OpStep (gatewayGetLatestSnapshot hooks actor req).run s (.ok resp)
      t) :
    ∃ subscriberID target, resolveSubscriber hooks actor req.subscriberId = .ok subscriberID ∧
      req.target = some target ∧ resp.state.target = target ∧
      EntriesRead hooks actor subscriberID s t resp.state := by
  rw [← handler_within_whole] at h
  obtain ⟨subscriberID, target, bindings, b, snapshot, hread⟩ := exec_gatewayGetLatestSnapshot h
  obtain ⟨u, hu, hstate⟩ := hread.withState
  obtain ⟨-, htarget, hentries⟩ :=
    exec_targetState_entries (resolveSubscriber_ne hread.canonical) hread.resolved hstate
  exact ⟨subscriberID, target, hread.canonical, hread.forTarget, htarget,
    hentries.widen hu .refl⟩

end Reported

/-- **`GatewayAck` moves one cursor.** Whatever the hooks and the store, and with any operations of
others while a call is under way: each binding key that `Open`, `GatewayCatchUp`,
`GatewaySubscribePoll` and `GatewayGetLatestSnapshot` report for a target is the key of one of its
bindings, what is reported under it was read from the stream of that binding, and `GatewayAck` with
it, on any store, moves the cursor on that stream or changes nothing. -/
theorem gatewayAck_moves_one_cursor {Actor : Type} (hooks : Hooks Actor) (actor : Actor) {s : Store}
    (hs : Reachable s) (now : Int) :
    (∀ requested targets states t,
      Prog.Exec (handler now) OpStep («open» hooks actor requested targets).run s (.ok states) t →
      ∃ subscriberID, resolveSubscriber hooks actor requested = .ok subscriberID ∧
        ∀ state ∈ states, EntriesRead hooks actor subscriberID s t state) ∧
    (∀ req results t,
      Prog.Exec (handler now) OpStep (gatewayCatchUp hooks actor req).run s (.ok results) t →
      ∃ subscriberID, resolveSubscriber hooks actor req.subscriberId = .ok subscriberID ∧
        ∀ result ∈ results, ResultServed hooks actor subscriberID .catchUp req.limitPerTarget
          req.totalLimitPerTarget s t result) ∧
    (∀ req responses t,
      Prog.Exec (handler now) OpStep (gatewaySubscribePoll hooks actor req).run s (.ok responses)
        t →
      ∃ subscriberID results, resolveSubscriber hooks actor req.subscriberId = .ok subscriberID ∧
        responses = List.map toSubscribeResponse results ∧
        ∀ result ∈ results, ResultServed hooks actor subscriberID .subscribe
          req.batchLimitPerTarget 0 s t result) ∧
    (∀ req resp t,
      Prog.Exec (handler now) OpStep (gatewayGetLatestSnapshot hooks actor req).run s (.ok resp)
        t →
      ∃ subscriberID target b, resolveSubscriber hooks actor req.subscriberId = .ok subscriberID ∧
        HasBinding hooks actor target b ∧
        SnapshotChecked hooks actor subscriberID req s t target b resp.snapshot ∧
        MovesOneCursor hooks actor target b ∧ resp.state.target = target ∧
        EntriesRead hooks actor subscriberID s t resp.state) := by
  refine ⟨?_, ?_, ?_, ?_⟩
  · intro requested targets states t hexec
    obtain ⟨subscriberID, hresolve, hafter⟩ := Prog.exec_ofExcept_bind_ok.mp hexec
    obtain ⟨-, -, hafter⟩ := Prog.exec_ofExcept_bind_ok.mp hafter
    obtain ⟨-, hall⟩ := exec_openEach_entries (resolveSubscriber_ne hresolve) hafter
    exact ⟨subscriberID, hresolve, hall⟩
  · intro req results t hexec
    exact exec_catchUp_served hs hexec
  · intro req responses t hexec
    obtain ⟨results, hresults, rfl⟩ := Prog.exec_bind_pure_ok.mp hexec
    obtain ⟨subscriberID, hresolve, hall⟩ := exec_catchUp_served hs hresults
    exact ⟨subscriberID, results, hresolve, rfl, hall⟩
  · intro req resp t hexec
    obtain ⟨subscriberID, target, b, hresolve, htarget, hb, hchecked⟩ :=
      exec_getLatestSnapshot_checked hs hexec
    obtain ⟨subscriberID', target', hresolve', htarget', hstate, hentries⟩ :=
      exec_getLatestSnapshot_state hexec
    obtain rfl : subscriberID = subscriberID' := Except.ok.inj (hresolve.symm.trans hresolve')
    obtain rfl : target = target' := Option.some.inj (htarget.symm.trans htarget')
    exact ⟨subscriberID, target, b, hresolve, hb, hchecked, movesOneCursor hb, hstate, hentries⟩

/-- An acknowledgement under the default key. -/
def noteAck : GatewayAckRequest where
  subscriberId := "u"
  target := some noteTarget
  bindingKey := defaultBindingKey
  seq := 1

/-- One note is acknowledged, and the cursor of its binding moves to it. -/
theorem gatewayAck_moves_one_cursor_note :
    ∃ (state : TargetState) (t : Store), ∃ entry ∈ state.bindings,
      entry.bindingKey = defaultBindingKey ∧
      EntriesRead secretHooks () "u" noteBacklog t state ∧
      ∃ streamID, AckEffect noteBacklog "u" streamID 1 ""
        (Prog.run (handler 0) (gatewayAck secretHooks () noteAck).run noteBacklog).2 := by
  obtain ⟨hopen, -⟩ := gatewayAck_moves_one_cursor secretHooks () (s := noteBacklog) ⟨_, rfl⟩ 0
  obtain ⟨subscriberID, hsub, hall⟩ :=
    hopen "u" [noteTarget] _ _ (Prog.exec_run _ _ _ noteBacklog)
  obtain rfl : "u" = subscriberID := Except.ok.inj hsub
  have hentries := hall _ List.mem_cons_self
  refine ⟨_, _, _, List.mem_cons_self, rfl, hentries, ?_⟩
  obtain ⟨b, -, ⟨hkey, -⟩, hmoves⟩ := hentries _ List.mem_cons_self
  rcases hmoves secretHooks noteBacklog 0 noteAck rfl ⟨_, rfl⟩ rfl hkey with
    ⟨⟨err, herr⟩, -⟩ | ⟨subscriberID, state, -, hsub, -, heffect⟩
  · cases herr
  · obtain rfl : "u" = subscriberID := Except.ok.inj hsub
    exact ⟨b.streamID, heffect⟩

end Synclog.Gateway
