import Synclog.Transport.GatewaySubscribe

/-!
# What the subscribe loops guarantee

The guarantee for a subscriber, read off the invariants of the two loops.

* `live_subscription_loses_nothing` — what lies at or below a delivered mark is committed or was
  sent, and every batch that was sent is a contiguous run behind a value the committed cursor had.
-/

namespace Synclog.Transport

open Synclog.Lib Synclog.Core Synclog.Memory Synclog.Gateway

/-! ## A stream that loses its events -/

/-- A store in which the stream `s` has two events. -/
def twoEvents : Store :=
  runOps [.append 0 { streamID := "s" }, .append 0 { streamID := "s" }] newStore

/-- The store with two events is reachable. -/
theorem twoEvents_reachable : Reachable twoEvents := ⟨_, rfl⟩

/-- The subscriber of the raw stream. -/
def deviceReq : SubscribeRequest where
  subscriberId := "device"
  streamId := "s"

/-- Two rounds of the raw loop: the batch of both events is sent; before the second round they are
truncated. -/
def rawRounds : List RawLabel :=
  List.replicate 5 (.loop 0) ++ [.env (.truncateBefore "s" 3) trivial, .resume] ++
    List.replicate 4 (.loop 0)

/-- The target whose stream is `s`. -/
def targetS : SyncTarget where
  ns := "n"
  id := "s"

/-- The binding it resolves to. -/
def bindingS : StreamBinding where
  bindingKey := "default"
  streamID := "s"

/-- The subscriber of the gateway stream. -/
def gatewayReq : GatewaySubscribeRequest where
  subscriberId := "device"
  targets := [targetS]

/-- Two rounds of the gateway loop: the batch of both events is sent; before the second round they
are truncated. -/
def gatewayRounds : List (LoopLabel {targetS}) :=
  List.replicate 9 (.loop 0) ++ [.env (.truncateBefore "s" 3) trivial, .resume] ++
    List.replicate 8 (.loop 0)

/-- Alice's device is resolved. -/
theorem resolves_device :
    resolveSubscriber perActorHooks "alice" gatewayReq.subscriberId = .ok "alice/device" := by
  decide

/-- The target of the examples is bound. -/
theorem bound_targetS : Bound perActorHooks "alice" {targetS} targetS bindingS :=
  ⟨rfl, [bindingS], by decide, List.mem_singleton_self _⟩

/-! ## Nothing is lost -/

/-- What lies at or below the delivered mark is committed or was sent, and of the batches sent each
ends further ahead than those before it. -/
structure LosesNothing (m : Mark) (frames : List Sent) (committed : Nat) : Prop where
  covered : ∀ seq ≤ m.delivered, seq ≤ committed ∨ ∃ f ∈ frames, seq ∈ f.seqs
  increasing : frames.Pairwise Sent.MovesOn

/-- **A live subscription loses nothing.** In every run of either loop: for every delivered mark
there is, the frames sent since its entry was made lose nothing, and every batch sent is a
contiguous run right behind a value that the committed cursor of its binding had by then. -/
theorem live_subscription_loses_nothing {s : Store} (hs : Reachable s) (heartbeatEvery now : Int) :
    (∀ {Actor : Type} {hooks : Hooks Actor} {actor : Actor} {req : GatewaySubscribeRequest}
      {subscriberID : SubscriberID} {U : Set SyncTarget} {ls : List (LoopLabel U)} {σ : Loop},
      resolveSubscriber hooks actor req.subscriberId = .ok subscriberID →
      DistinctKeys hooks actor U → (∀ target ∈ req.targets, target ∈ U) →
      (gatewayLoop hooks actor req U heartbeatEvery).run ls (.start s req now) = some σ →
      (∀ key m, σ.marks.lookup key = some m → ∃ target b,
        Bound hooks actor U target b ∧ key = keyOf target b ∧
          LosesNothing m (framesSince (committedOf subscriberID b) key σ.log)
            (committedOf subscriberID b σ.store.now)) ∧
      (∀ key resp store mark, .response key resp store mark ∈ σ.log → ∃ target b,
        Bound hooks actor U target b ∧ key = keyOf target b ∧
          (events resp ≠ [] → ContiguousFrom (committedOf subscriberID b) store GatewayEvent.seq
            (events resp) (batchSeq resp)))) ∧
    (∀ {req : SubscribeRequest} {ls : List RawLabel} {σ : RawLoop},
      (rawLoop req heartbeatEvery).run ls (.start s now) = some σ →
      LosesNothing σ.mark (σ.frames req) (req.committed σ.store.now) ∧
      (∀ result time store mark, .response result time store mark ∈ σ.sent →
        result.batch.events ≠ [] →
          ContiguousFrom req.committed store Event.seq result.batch.events result.batch.seq)) := by
  constructor
  · intro Actor hooks actor req subscriberID U ls σ hsub hkeys htargets hrun
    have hinv := loopInv_run hsub hkeys htargets hs hrun
    refine ⟨?_, hinv.contiguous⟩
    intro key m hlookup
    obtain ⟨target, b, hbound, rfl⟩ := hinv.marks key m hlookup
    have haccounted := hinv.accounted target b hbound
    have hmark : σ.mark (keyOf target b) = m := by
      unfold Loop.mark
      rw [hlookup]
      rfl
    rw [hmark] at haccounted
    exact ⟨target, b, hbound, rfl, haccounted.covered, haccounted.movesOn⟩
  · intro req ls σ hrun
    have hinv := rawInv_run hs hrun
    exact ⟨⟨hinv.accounted.covered, hinv.accounted.movesOn⟩, hinv.contiguous⟩

/-- Both events are sent, and after a truncation `TOO_LONG`; nothing is lost. -/
theorem live_subscription_loses_nothing_truncated :
    (∃ σ m, (gatewayLoop perActorHooks "alice" gatewayReq {targetS} 1000000).run gatewayRounds
        (.start twoEvents gatewayReq 0) = some σ ∧
      σ.marks.lookup "n/s/#default" = some m ∧ m.delivered = 2 ∧
      ∃ target b, Bound perActorHooks "alice" {targetS} target b ∧
        "n/s/#default" = keyOf target b ∧
        LosesNothing m (framesSince (committedOf "alice/device" b) "n/s/#default" σ.log)
          (committedOf "alice/device" b σ.store.now)) ∧
    (∃ σ, (rawLoop deviceReq 1000000).run rawRounds (.start twoEvents 0) = some σ ∧
      σ.mark.delivered = 2 ∧
      LosesNothing σ.mark (σ.frames deviceReq) (deviceReq.committed σ.store.now)) := by
  constructor
  · obtain ⟨σ, m, hrun, hlookup, hm⟩ : ∃ σ m,
        (gatewayLoop perActorHooks "alice" gatewayReq {targetS} 1000000).run gatewayRounds
          (.start twoEvents gatewayReq 0) = some σ ∧
        σ.marks.lookup "n/s/#default" = some m ∧ m.delivered = 2 := ⟨_, _, rfl, rfl, rfl⟩
    obtain ⟨hmarks, -⟩ := (live_subscription_loses_nothing twoEvents_reachable 1000000 0).1
      resolves_device (distinctKeys_singleton perActorHooks "alice" targetS) (by simp [gatewayReq])
        hrun
    exact ⟨σ, m, hrun, hlookup, hm, hmarks _ m hlookup⟩
  · obtain ⟨σ, hrun, hm⟩ : ∃ σ, (rawLoop deviceReq 1000000).run rawRounds (.start twoEvents 0) =
        some σ ∧ σ.mark.delivered = 2 := ⟨_, rfl, rfl⟩
    exact ⟨σ, hrun, hm, ((live_subscription_loses_nothing twoEvents_reachable 1000000 0).2 hrun).1⟩

end Synclog.Transport
