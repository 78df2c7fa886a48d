import Synclog.Client.Answers
import Synclog.Client.Projection

/-!
# What the server does for the client

The server's side of exactly-once projection. Where every request is one that the client sends
(`RequestOk`), a task of the gateway, in the midst of allowed operations of others,

* answers batches and snapshots of the stream (`sat_serve`): a batch begins right behind a committed
  cursor that the task has read;
* makes no call that changes the store other than an acknowledgement for the client's own cursor, of
  the seq that was requested (`only_serve`).
-/

namespace Synclog.Client

open Synclog.Lib Synclog.Core Synclog.Memory Synclog.Gateway Synclog.Transport
open Relation (ReflTransGen)

section Serving

variable {R V TSnapshot TEvent Actor : Type}

/-- The subscriber of the client is `canonical`, its target resolves to the one binding `b`, and the
client does not ask for a binding key. -/
structure FixedBinding (hooks : Hooks Actor) (actor : Actor) (opts : SyncClientOptions)
    (binding : SyncBinding TSnapshot TEvent) (b : StreamBinding) (canonical : SubscriberID) :
    Prop where
  subscriber : resolveSubscriber hooks actor opts.subscriberId = .ok canonical
  resolves : resolveBindings hooks actor binding.target = .ok [b]
  unset : binding.bindingKey = none

/-- The request is one that the client sends; `n` bounds what it acknowledges. -/
def RequestOk (opts : SyncClientOptions) (binding : SyncBinding TSnapshot TEvent)
    (b : StreamBinding) (n : Nat) : Request → Prop
  | .catchUp req => req = catchUpRequest opts binding
  | .ack req => ∃ seq ≤ n, req = ackRequest opts (recordKey opts binding b) seq
  | .getLatestSnapshot req => req = snapshotRequest opts binding
  | .subscribe req => req = subscribeRequest opts binding

/-- The reply carries batches of the stream that begin at or below `bound`, or a snapshot of it. -/
def ReplyOk (store : ProjectionStore R V TSnapshot TEvent) (binding : SyncBinding TSnapshot TEvent)
    (b : StreamBinding) (log : List Event) (bound : Nat) : Reply → Prop
  | .results results => ∀ result ∈ results, ∀ batch, result.batch = some batch →
      BatchOk binding b log bound batch
  | .acked => True
  | .snapshot snapshot => SnapshotOk store binding b log snapshot
  | .frame resp => ∀ batch, resp.batch = some batch → BatchOk binding b log bound batch

/-- A call that reads, or acknowledges at most `n` for one cursor. -/
inductive AcksUpTo (subscriberID : SubscriberID) (streamID : StreamID) (n : Nat) :
    (β : Type) → StoreCall β → Prop
  | read {β : Type} {c : StoreCall β} (hread : StoreCall.IsRead β c) :
      AcksUpTo subscriberID streamID n β c
  | ack {req : AckRequest} (hsub : req.subscriberID = subscriberID)
      (hstream : req.streamID = streamID) (hle : req.seq ≤ n) :
      AcksUpTo subscriberID streamID n _ (.ack req)

variable {hooks : Hooks Actor} {actor : Actor} {opts : SyncClientOptions}
  {binding : SyncBinding TSnapshot TEvent} {b : StreamBinding} {canonical : SubscriberID}
  {store : ProjectionStore R V TSnapshot TEvent}

/-- A request stays one that the client sends while the bound grows. -/
theorem RequestOk.mono {n n' : Nat} {req : Request} (h : RequestOk opts binding b n req)
    (hn : n ≤ n') : RequestOk opts binding b n' req := by
  cases req with
  | ack req =>
      obtain ⟨seq, hle, heq⟩ := h
      exact ⟨seq, hle.trans hn, heq⟩
  | catchUp | getLatestSnapshot | subscribe => exact h

/-- A right reply stays right when the log and the bound grow. -/
theorem ReplyOk.mono {log log' : List Event} {bound bound' : Nat} {reply : Reply}
    (h : ReplyOk store binding b log bound reply) (hlog : log <+: log') (hbound : bound ≤ bound') :
    ReplyOk store binding b log' bound' reply := by
  cases reply with
  | results results =>
      exact fun result hmem batch hbatch => (h result hmem batch hbatch).mono hlog hbound
  | acked => trivial
  | snapshot snapshot => exact SnapshotOk.mono h hlog
  | frame resp => exact fun batch hbatch => (h batch hbatch).mono hlog hbound

/-- Who acknowledges at most `n` acknowledges at most what is more. -/
theorem AcksUpTo.mono {subscriberID : SubscriberID} {streamID : StreamID} {n n' : Nat} (hn : n ≤ n')
    {β : Type} {c : StoreCall β} (h : AcksUpTo subscriberID streamID n β c) :
    AcksUpTo subscriberID streamID n' β c := by
  cases h with
  | read hread => exact .read hread
  | ack hsub hstream hle => exact .ack hsub hstream (hle.trans hn)

/-! ## What tasks answer -/

/-- The steps of the others, while a task runs. -/
abbrev TaskEnv (store : ProjectionStore R V TSnapshot TEvent)
    (binding : SyncBinding TSnapshot TEvent) (b : StreamBinding) : Recorded → Recorded → Prop :=
  Recorded.Step b.streamID (snapshotRule store binding b)

/-- A polled batch is a piece of the stream, right behind the cursor that the poll has read. -/
theorem batchOk_of_polled (h : FixedBinding hooks actor opts binding b canonical)
    {limit totalLimit : Int} {operation : Operation} {w w' : Recorded}
    (hw : w.Ok b.streamID (snapshotRule store binding b)) {result : GatewayCatchUpResult}
    (hpolled : Polled Recorded.cell (TaskEnv store binding b) hooks actor canonical limit totalLimit
      operation w w' binding.target b result) {batch : GatewayBatch}
    (hbatch : result.batch = some batch) :
    BatchOk binding b w'.log (w'.store.committed canonical b.streamID) batch := by
  obtain ⟨_, u, u', -, hu, hu', -, hread⟩ := hpolled.read
  obtain ⟨u₁, u₂, u₃, catchUp, h₁, h₂, h₃, h₄, hcatchUp, -, hresult⟩ := hread.reads
  have hok₁ := (hw.steps (hu.trans (hu'.trans h₁))).1
  have hok₂ := (hok₁.steps h₂).1
  obtain ⟨hok₃, -, -⟩ := hok₂.steps h₃
  obtain ⟨-, hlog, -⟩ := hok₃.steps h₄
  obtain ⟨-, -, hcommitted⟩ := hok₁.steps (h₂.trans (h₃.trans h₄))
  obtain ⟨L₂, hL₂, -⟩ := hok₂.holds
  obtain ⟨L₃, hL₃, hall⟩ := hok₃.holds
  have hid : b.streamID ≠ "" := ((resolveBindings_ok h.resolves).1 b (List.mem_singleton_self b)).1
  have hsome := hcatchUp.symm.trans
    (catchUpOf_eq (resolveSubscriber_ne h.subscriber) hid hL₂ hL₃)
  obtain rfl := Except.ok.inj hsome
  have hwhole := resultBatch_eq hresult
  rw [hbatch] at hwhole
  split_ifs at hwhole with hstatus
  obtain ⟨-, heq⟩ := catchUpResult_ok hstatus
  rw [heq] at hwhole
  cases hwhole
  refine ⟨_, _, rfl, hcommitted canonical, ?_, numbered_batchAfter _ _ hL₃.numbered⟩
  rw [events_batchAfter, hall]
  exact (List.take_prefix _ _).trans (hlog.drop _)

/-- The results of a catch-up of the binding's target carry batches of the stream. -/
theorem results_ok (h : FixedBinding hooks actor opts binding b canonical)
    {limit totalLimit : Int} {operation : Operation} {w w' : Recorded}
    (hw : w.Ok b.streamID (snapshotRule store binding b)) {results : List GatewayCatchUpResult}
    (hexec : Prog.Exec taskHandler (TaskEnv store binding b)
      (Gateway.catchUp hooks actor opts.subscriberId [binding.target] limit totalLimit
        operation).run w (.ok results) w') :
    ∀ result ∈ results, ∀ batch, result.batch = some batch →
      BatchOk binding b w'.log (w'.store.committed canonical b.streamID) batch := by
  obtain ⟨subscriberID, hsub, hpolled⟩ := Gateway.exec_catchUp hexec
  obtain rfl := Except.ok.inj (h.subscriber.symm.trans hsub)
  intro result hresult batch hbatch
  obtain ⟨target, htarget, b', hb'⟩ := hpolled result hresult
  obtain rfl := List.mem_singleton.mp htarget
  obtain ⟨bindings, hresolve, hmem⟩ := hb'.resolved
  obtain rfl := Except.ok.inj (h.resolves.symm.trans hresolve)
  obtain rfl := List.mem_singleton.mp hmem
  exact batchOk_of_polled h hw hb' hbatch

/-- The snapshot that a task answers is right for the stream. -/
theorem snapshot_ok (h : FixedBinding hooks actor opts binding b canonical) {w w' : Recorded}
    (hw : w.Ok b.streamID (snapshotRule store binding b))
    {resp : GatewayGetLatestSnapshotResponse}
    (hexec : Prog.Exec taskHandler (TaskEnv store binding b)
      (gatewayGetLatestSnapshot hooks actor (snapshotRequest opts binding)).run w (.ok resp) w') :
    SnapshotOk store binding b w'.log resp.snapshot := by
  obtain ⟨bindings, b', stored, u, hresolve, hselect, hu, hu', hstored, hresp⟩ :=
    exec_getLatestSnapshot rfl hexec
  obtain rfl := Except.ok.inj (h.resolves.symm.trans hresolve)
  have hunset : (snapshotRequest opts binding).bindingKey = "" := by
    simp [snapshotRequest, h.unset]
  obtain ⟨rfl⟩ : b = b' := by simpa using (selectBinding_ok hselect).1 hunset
  obtain ⟨key, hlookup, hcompatible⟩ := Store.getLatestSnapshot_stored hstored
  obtain ⟨hok, -, -⟩ := hw.steps hu
  obtain ⟨-, hlog, -⟩ := hok.steps hu'
  have hkey : key.streamID = b.streamID := by
    unfold Store.compatible at hcompatible
    simp only [Bool.and_eq_true, decide_eq_true_eq] at hcompatible
    exact hcompatible.1.1
  exact ⟨stored, hresp, (snapshotRule store binding b).mono hlog
    (hok.snapshots key stored hlookup hkey)⟩

/-- What a task for a request of the client answers. -/
theorem sat_serve (h : FixedBinding hooks actor opts binding b canonical) {w : Recorded}
    (hw : w.Ok b.streamID (snapshotRule store binding b)) {n : Nat} {req : Request}
    (hreq : RequestOk opts binding b n req) :
    Prog.Sat taskHandler (TaskEnv store binding b) (serve hooks actor req).run
      (fun r t => ∀ replies, r = .ok replies → ∀ reply ∈ replies,
        ReplyOk store binding b t.log (t.store.committed canonical b.streamID) reply) w := by
  rintro _ w' hexec replies rfl
  cases req with
  | catchUp req =>
      obtain rfl : req = _ := hreq
      obtain ⟨results, hresults, rfl⟩ := Prog.exec_bind_pure_ok.mp hexec
      intro reply hreply
      obtain rfl := List.mem_singleton.mp hreply
      exact results_ok h hw hresults
  | ack req =>
      obtain ⟨_, -, rfl⟩ := Prog.exec_bind_pure_ok.mp hexec
      intro reply hreply
      obtain rfl := List.mem_singleton.mp hreply
      trivial
  | getLatestSnapshot req =>
      obtain rfl : req = _ := hreq
      obtain ⟨resp, hresp, rfl⟩ := Prog.exec_bind_pure_ok.mp hexec
      intro reply hreply
      obtain rfl := List.mem_singleton.mp hreply
      exact snapshot_ok h hw hresp
  | subscribe req =>
      obtain rfl : req = _ := hreq
      obtain ⟨responses, hpoll, rfl⟩ := Prog.exec_bind_pure_ok.mp hexec
      obtain ⟨results, hresults, rfl⟩ := Prog.exec_bind_pure_ok.mp hpoll
      intro reply hreply
      rcases List.mem_cons.mp hreply with rfl | hframe
      · rintro batch ⟨⟩
      · simp only [List.map_map, List.mem_map, Function.comp_apply] at hframe
        obtain ⟨result, hmem, rfl⟩ := hframe
        exact results_ok h hw hresults result hmem

/-! ## What tasks do -/

/-- `Ack` of the core engine changes the cursor that it is asked to change. -/
theorem ack_acksUpTo {subscriberID : SubscriberID} {streamID : StreamID} {n : Nat}
    {req : AckRequest} (hsub : req.subscriberID = subscriberID) (hstream : req.streamID = streamID)
    (hle : req.seq ≤ n) : Prog.Only (AcksUpTo subscriberID streamID n) (Engine.ack req).run := by
  unfold Engine.ack
  split_ifs
  · trivial
  · trivial
  · refine Prog.Only.bindE ⟨.read (.getHead _), fun _ => trivial⟩ ?_
    intro head
    have hrest : Prog.Only (AcksUpTo subscriberID streamID n)
        (do
          let cursor ← Prog.performE (.ack req)
          return ({ cursor, head } : AckResult) : ServerProg AckResult).run :=
      Prog.Only.bindE ⟨.ack hsub hstream hle, fun _ => trivial⟩ fun _ => trivial
    split_ifs
    · exact Prog.Only.bindE trivial fun _ => hrest
    · exact hrest

/-- A task for a request of the client reads, and acknowledges for the client at most what the
client asked for. -/
theorem only_serve (h : FixedBinding hooks actor opts binding b canonical) {n : Nat} {req : Request}
    (hreq : RequestOk opts binding b n req) :
    Prog.Only (AcksUpTo canonical b.streamID n) (serve hooks actor req).run := by
  have hreads : ∀ {α : Type} {p : Prog StoreCall α}, Prog.Only StoreCall.IsRead p →
      Prog.Only (AcksUpTo canonical b.streamID n) p :=
    fun hp => hp.imp fun _ _ hread => .read hread
  cases req with
  | catchUp req =>
      exact Prog.Only.bindE (hreads (catchUp_only_reads hooks actor _ _ _ _ _)) fun _ => trivial
  | getLatestSnapshot req =>
      exact Prog.Only.bindE (hreads (gatewayGetLatestSnapshot_only_reads hooks actor req))
        fun _ => trivial
  | subscribe req =>
      exact Prog.Only.bindE (hreads (gatewaySubscribePoll_only_reads hooks actor req))
        fun _ => trivial
  | ack req =>
      obtain ⟨seq, hle, rfl⟩ := hreq
      refine Prog.Only.bindE ?_ fun _ => trivial
      unfold gatewayAck
      refine Prog.Only.ofExcept_bindE fun subscriberID hsub => ?_
      obtain rfl := Except.ok.inj (h.subscriber.symm.trans hsub)
      refine Prog.Only.ofExcept_bindE fun target htarget => ?_
      obtain rfl := validateTarget_ok htarget
      refine Prog.Only.ofExcept_bindE fun bindings hresolve => ?_
      obtain rfl := Except.ok.inj (h.resolves.symm.trans hresolve)
      refine Prog.Only.ofExcept_bindE fun _ _ => ?_
      refine Prog.Only.ofExcept_bindE fun b' hselect => ?_
      have hne : b.bindingKey ≠ "" :=
        ((resolveBindings_ok h.resolves).1 b (List.mem_singleton_self b)).2
      have hkey : (ackRequest opts (recordKey opts binding b) seq).bindingKey = b.bindingKey := by
        simp [ackRequest, recordKey, keyFor, h.unset, normalizeBindingKey, hne]
      obtain ⟨hmem, -⟩ := (selectBinding_ok hselect).2 (hkey ▸ hne)
      obtain rfl := List.mem_singleton.mp hmem
      refine Prog.Only.bindE (ack_acksUpTo rfl rfl hle) fun _ => ?_
      exact hreads (targetState_only_reads _ _ _)

end Serving

end Synclog.Client
