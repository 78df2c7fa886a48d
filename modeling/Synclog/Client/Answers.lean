import Synclog.Client.SyncClient
import Synclog.Transport.GatewaySubscribe

/-!
# What the gateway answers its clients

`Gives p a` says that a program of the gateway may end with the answer `a`, over some store and with
any operations of others between its calls. `CanSend` are the frames of a live stream; every frame
that a run of the gateway loop sends is one of them (`canSend_of_run`).

An answer names the target and the binding that it is about in several places. `AddressedTo` says
that all of them agree, and the lemmas `gives_*` and `CanSend.addressed` that the gateway's answers
are so addressed.
-/

namespace Synclog.Client

open Synclog.Lib Synclog.Core Synclog.Memory Synclog.Gateway Synclog.Transport
open Relation (ReflTransGen)

/-- Another party performs any operation at all. -/
def AnyStep (s s' : Store) : Prop := ∃ op : Op, s' = op.apply s

/-- The program may end with this answer, whatever the others do. -/
def Gives {α : Type} (p : ServerProg α) (a : α) : Prop :=
  ∃ now s t, Prog.Exec (handler now) AnyStep p.run s (.ok a) t

/-- The answer of a program that runs alone is one that it gives. -/
theorem gives_of_run {α : Type} {p : ServerProg α} {now : Int} {s : Store} {a : α}
    (h : (Prog.run (handler now) p.run s).1 = .ok a) : Gives p a := by
  have hexec := Prog.exec_run (handler now) AnyStep p.run s
  rw [h] at hexec
  exact ⟨now, s, _, hexec⟩

section Answers

variable {Actor : Type} (hooks : Hooks Actor) (actor : Actor)

/-- A frame that the gateway can send on a live stream: a heartbeat, or a response of a poll, of
whatever targets are active at the time. -/
inductive CanSend : GatewaySubscribeResponse → Prop
  | heartbeat (time : Int) : CanSend { heartbeat := true, serverTimeUnixMs := time }
  | response {req : GatewaySubscribeRequest} {responses : List GatewaySubscribeResponse}
      {resp : GatewaySubscribeResponse}
      (gives : Gives (gatewaySubscribePoll hooks actor req) responses)
      (mem : resp ∈ responses) (time : Int) : CanSend { resp with serverTimeUnixMs := time }

/-- A binding that the target resolves to. -/
def Resolves (target : SyncTarget) (b : StreamBinding) : Prop :=
  ∃ bindings, resolveBindings hooks actor target = .ok bindings ∧ b ∈ bindings

variable {hooks actor}

/-- A resolved binding has a key. -/
theorem Resolves.bindingKey_ne {target : SyncTarget} {b : StreamBinding}
    (h : Resolves hooks actor target b) : b.bindingKey ≠ "" := by
  obtain ⟨bindings, hresolve, hb⟩ := h
  exact ((resolveBindings_ok hresolve).1 b hb).2

/-! ## Results -/

/-- A result is about one binding of one target, and says so wherever it names them. -/
structure AddressedTo (target : SyncTarget) (b : StreamBinding) (result : GatewayCatchUpResult) :
    Prop where
  forTarget : result.target = target
  forBinding : result.bindingKey = b.bindingKey
  withState : ∃ state, result.state = some state ∧ state.target = target
  withBatch : ∀ batch, result.batch = some batch →
    ∃ inner, batch = toGatewayBatch target b.bindingKey inner

/-- A polled result is addressed to what it was polled for. -/
theorem AddressedTo.of_polled {σ : Type} {cell : Cell σ Store} {R : σ → σ → Prop}
    {subscriberID : SubscriberID} {limit totalLimit : Int} {operation : Operation} {s t : σ}
    {target : SyncTarget} {b : StreamBinding} {result : GatewayCatchUpResult}
    (h : Polled cell R hooks actor subscriberID limit totalLimit operation s t target b result) :
    AddressedTo target b result := by
  obtain ⟨state, u, u', hstate, -, -, -, hread⟩ := h.read
  obtain ⟨_, _, _, catchUp, -, -, -, -, -, -, hbatch⟩ := hread.reads
  refine ⟨hread.forTarget, hread.forBinding, ⟨state, hread.withState, hstate⟩, ?_⟩
  intro batch hsome
  rw [hsome] at hbatch
  rcases resultBatch_cases hbatch with hnone | hinner
  · cases hnone
  · exact ⟨_, Option.some.inj hinner⟩

/-- A catch-up of one target has one result for each of its bindings. -/
theorem gives_catchUp {req : GatewayCatchUpRequest} {target : SyncTarget}
    {results : List GatewayCatchUpResult} (htargets : req.targets = [target])
    (h : Gives (gatewayCatchUp hooks actor req) results) :
    ∃ bindings, resolveBindings hooks actor target = .ok bindings ∧
      List.Forall₂ (AddressedTo target) bindings results := by
  obtain ⟨now, s, t, hexec⟩ := h
  unfold gatewayCatchUp at hexec
  rw [htargets, ← handler_within_whole] at hexec
  obtain ⟨subscriberID, -, hsub, hafter⟩ := exec_catchUp_targets hexec
  obtain ⟨front, u, hfront, hafter⟩ := Prog.exec_bind_ok.mp hafter
  obtain ⟨rest, hrest, rfl⟩ := Prog.exec_bind_pure_ok.mp hafter
  obtain ⟨rfl, rfl⟩ := Prog.exec_pure_ok.mp hrest
  rw [List.append_nil]
  obtain ⟨-, bindings, hbindings, hpolled⟩ := exec_catchUpTarget hsub hfront
  exact ⟨bindings, hbindings, hpolled.imp fun _ _ => AddressedTo.of_polled⟩

/-! ## Snapshots -/

/-- A snapshot is one that the store had for the selected binding of the target that was asked for,
and names both. -/
theorem exec_getLatestSnapshot {σ : Type} {cell : Cell σ Store} {R : σ → σ → Prop} {now : Int}
    {req : GatewayGetLatestSnapshotRequest} {target : SyncTarget}
    {resp : GatewayGetLatestSnapshotResponse} {s t : σ} (htarget : req.target = some target)
    (h : Prog.Exec ((handler now).within cell) R (gatewayGetLatestSnapshot hooks actor req).run s
      (.ok resp) t) :
    ∃ bindings b snapshot u, resolveBindings hooks actor target = .ok bindings ∧
      selectBinding bindings req.bindingKey = .ok b ∧ ReflTransGen R s u ∧ ReflTransGen R u t ∧
      (cell.get u).getLatestSnapshot b.streamID req.payloadType req.maxPayloadVersion =
        .ok snapshot ∧ resp.snapshot = gatewaySnapshot target b snapshot := by
  obtain ⟨_, target', bindings, b, snapshot, hread⟩ := exec_gatewayGetLatestSnapshot h
  obtain rfl : target = target' := Option.some.inj (htarget.symm.trans hread.forTarget)
  obtain ⟨u, hu, hu', hsnapshot⟩ := hread.stored
  exact ⟨bindings, b, snapshot, u, hread.resolved, hread.selected, hu, hu', hsnapshot,
    hread.answered⟩

/-- A snapshot names the target that was asked for, and the binding that was selected. -/
theorem gives_getLatestSnapshot {req : GatewayGetLatestSnapshotRequest} {target : SyncTarget}
    {resp : GatewayGetLatestSnapshotResponse} (htarget : req.target = some target)
    (h : Gives (gatewayGetLatestSnapshot hooks actor req) resp) :
    ∃ bindings b, resolveBindings hooks actor target = .ok bindings ∧
      selectBinding bindings req.bindingKey = .ok b ∧ resp.snapshot.target = target ∧
      resp.snapshot.bindingKey = b.bindingKey := by
  obtain ⟨now, s, t, hexec⟩ := h
  rw [← handler_within_whole] at hexec
  obtain ⟨bindings, b, snapshot, _, hresolve, hselect, -, -, -, hresp⟩ :=
    exec_getLatestSnapshot htarget hexec
  exact ⟨bindings, b, hresolve, hselect, by rw [hresp]; rfl, by rw [hresp]; rfl⟩

/-! ## Frames -/

/-- A frame is a heartbeat, or a result for one binding of one target. -/
theorem CanSend.addressed {f : GatewaySubscribeResponse} (h : CanSend hooks actor f) :
    f.heartbeat = true ∨ ∃ target b result time, Resolves hooks actor target b ∧
      AddressedTo target b result ∧
      f = { toSubscribeResponse result with serverTimeUnixMs := time } := by
  cases h with
  | heartbeat time => exact .inl rfl
  | response gives mem time =>
      obtain ⟨now, s, t, hexec⟩ := gives
      rw [← handler_within_whole] at hexec
      obtain ⟨results, hresults, rfl⟩ := Prog.exec_bind_pure_ok.mp hexec
      obtain ⟨result, hresult, rfl⟩ := List.mem_map.mp mem
      obtain ⟨_, -, hpolled⟩ := exec_catchUp hresults
      obtain ⟨target, -, b, hb⟩ := hpolled result hresult
      exact .inr ⟨target, b, result, time, hb.resolved, .of_polled hb, rfl⟩

/-- The frames of a stream, oldest first. -/
def sentFrames (log : List LoopEvent) : List GatewaySubscribeResponse :=
  log.reverse.filterMap fun
    | .heartbeat time => some { heartbeat := true, serverTimeUnixMs := time }
    | .response _ resp _ _ => some resp
    | .dropped _ => none

/-- Responses that can be sent, at whatever time. -/
def Sendable (hooks : Hooks Actor) (actor : Actor) (responses : List GatewaySubscribeResponse) :
    Prop :=
  ∀ resp ∈ responses, ∀ time, CanSend hooks actor { resp with serverTimeUnixMs := time }

/-- What a poll under interference returns can be sent. -/
theorem sendable_of_exec {req : GatewaySubscribeRequest} {σ τ : Traced Store}
    {responses : List GatewaySubscribeResponse}
    (h : Prog.Exec pollHandler EnvStep (gatewaySubscribePoll hooks actor req).run σ
      (.ok responses) τ) : Sendable hooks actor responses := by
  have hexec : Prog.Exec (handler 0) AnyStep (gatewaySubscribePoll hooks actor req).run σ.now
      (.ok responses) τ.now := by
    refine h.map Traced.now ?_ ?_
    · intro β c s
      rfl
    · rintro s s' ⟨op, -, rfl⟩
      exact ⟨op, rfl⟩
  intro resp hresp time
  exact .response ⟨0, _, _, hexec⟩ hresp time

/-- Every response that the loop holds, and every frame that it has sent, can be sent. -/
structure FramesInv (hooks : Hooks Actor) (actor : Actor) (σ : Loop) : Prop where
  reachable : Reachable σ.store.now
  polling : ∀ p, σ.pc = .polling p →
    Reading (fun responses _ => Sendable hooks actor responses) σ.store p
  responding : ∀ rest sent hasMore throttled, σ.pc = .responding rest sent hasMore throttled →
    Sendable hooks actor rest
  sent : ∀ f ∈ sentFrames σ.log, CanSend hooks actor f

/-- The frames of a log are those of its newest entry and those before. -/
theorem mem_sentFrames_cons {e : LoopEvent} {log : List LoopEvent} {f : GatewaySubscribeResponse} :
    f ∈ sentFrames (e :: log) ↔ f ∈ sentFrames [e] ∨ f ∈ sentFrames log := by
  unfold sentFrames
  simp only [List.reverse_cons, List.filterMap_append, List.mem_append, List.reverse_nil,
    List.nil_append]
  exact or_comm

/-- To drop the entries of keys sends nothing. -/
theorem sentFrames_dropped (keys : List String) (log : List LoopEvent) :
    sentFrames (keys.map .dropped ++ log) = sentFrames log := by
  induction keys with
  | nil => rfl
  | cons key keys ih =>
      rw [List.map_cons, List.cons_append, ← ih]
      unfold sentFrames
      rw [List.reverse_cons, List.filterMap_append]
      exact List.append_nil _

section Frames

variable {σ : Loop} {f : GatewaySubscribeResponse}

/-- A heartbeat sends no frame about a binding. -/
theorem mem_sentFrames_beat {heartbeatEvery now : Int}
    (hf : f ∈ sentFrames (σ.beat heartbeatEvery now).log) :
    CanSend hooks actor f ∨ f ∈ sentFrames σ.log := by
  unfold Loop.beat at hf
  split_ifs at hf
  · rcases mem_sentFrames_cons.mp hf with hbeat | hold
    · obtain rfl : f = _ := List.mem_singleton.mp hbeat
      exact .inl (.heartbeat _)
    · exact .inr hold
  · exact .inr hf

/-- The beginning of the loop body sends heartbeats only. -/
theorem mem_sentFrames_begin {req : GatewaySubscribeRequest} {heartbeatEvery now : Int}
    (hf : f ∈ sentFrames (σ.begin hooks actor req heartbeatEvery now).log) :
    CanSend hooks actor f ∨ f ∈ sentFrames σ.log := by
  have hpruned : sentFrames (σ.pruneDeliveryState σ.sub.snapshot).log = sentFrames σ.log :=
    sentFrames_dropped _ _
  unfold Loop.begin at hf
  simp only at hf
  split_ifs at hf
  · exact hpruned ▸ mem_sentFrames_beat hf
  · exact .inr (hpruned ▸ hf)

/-- Neither does its end. -/
theorem mem_sentFrames_finish {heartbeatEvery now : Int} {sent hasMore throttled : Bool}
    (hf : f ∈ sentFrames (σ.finish heartbeatEvery now sent hasMore throttled).log) :
    CanSend hooks actor f ∨ f ∈ sentFrames σ.log := by
  unfold Loop.finish at hf
  cases sent with
  | true => exact .inr hf
  | false => exact mem_sentFrames_beat hf

/-- The treatment of a response sends that response. -/
theorem mem_sentFrames_respond {req : GatewaySubscribeRequest} {now : Int}
    {resp : GatewaySubscribeResponse} {rest : List GatewaySubscribeResponse}
    {sent hasMore throttled : Bool}
    (hf : f ∈ sentFrames (σ.respond req now resp rest sent hasMore throttled).log) :
    f = { resp with serverTimeUnixMs := unixMS now } ∨ f ∈ sentFrames σ.log := by
  unfold Loop.respond at hf
  rcases hjudge : σ.judge req resp with ⟨outcome, mark⟩
  rw [hjudge] at hf
  cases outcome with
  | throttled | silent => exact .inr hf
  | announced | delivered =>
      rcases mem_sentFrames_cons.mp hf with hnew | hold
      · exact .inl (List.mem_singleton.mp hnew)
      · exact .inr hold

end Frames

/-- What one step keeps. -/
theorem framesInv_step {req : GatewaySubscribeRequest} {U : Set SyncTarget} {heartbeatEvery : Int}
    (l : LoopLabel U) (σ τ : Loop)
    (hstep : (gatewayLoop hooks actor req U heartbeatEvery).step l σ = some τ)
    (h : FramesInv hooks actor σ) : FramesInv hooks actor τ := by
  have hbegin (hreach : Reachable σ.store.now) :
      Reading (fun responses _ => Sendable hooks actor responses) σ.store
        (gatewaySubscribePoll hooks actor { req with targets := σ.sub.snapshot }).run := by
    refine ⟨gatewaySubscribePoll_only_reads hooks actor _, ?_⟩
    intro r τ hexec
    refine ⟨exec_reachable hexec hreach, ?_⟩
    rintro responses rfl
    exact sendable_of_exec hexec
  obtain ⟨hreach, hpolling, hresponding⟩ := Loop.Expects.step hbegin
    (fun _ _ _ _ _ hok => hok) hstep ⟨h.reachable, h.polling, h.responding⟩
  refine ⟨hreach, hpolling, hresponding, ?_⟩
  intro f hf
  cases gatewayLoop_cases hstep with
  | begin now => exact (mem_sentFrames_begin hf).elim id (h.sent f)
  | @respond now resp rest sent hasMore throttled hpc =>
      rcases mem_sentFrames_respond hf with rfl | hold
      · exact h.responding _ _ _ _ hpc resp List.mem_cons_self _
      · exact h.sent f hold
  | finish now sent hasMore throttled => exact (mem_sentFrames_finish hf).elim id (h.sent f)
  | env | modify | takeWake | call | polled | leave => exact h.sent f hf

/-- Every frame that a run of the gateway loop has sent is one that it can send. -/
theorem canSend_of_run {req : GatewaySubscribeRequest} {U : Set SyncTarget} {heartbeatEvery : Int}
    {ls : List (LoopLabel U)} {s : Store} {now : Int} {σ : Loop} (hs : Reachable s)
    (hrun : (gatewayLoop hooks actor req U heartbeatEvery).run ls (.start s req now) = some σ) :
    ∀ f ∈ sentFrames σ.log, CanSend hooks actor f := by
  have hstart : FramesInv hooks actor (.start s req now) :=
    { reachable := hs
      polling := fun p hpc => by cases hpc
      responding := fun _ _ _ _ hpc => by cases hpc
      sent := fun f hf => by cases hf }
  exact (Machine.run_invariant framesInv_step hrun hstart).sent

end Answers

end Synclog.Client
