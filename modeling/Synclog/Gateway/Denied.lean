import Synclog.Gateway.Exposure

/-!
# A denied actor learns nothing

The calls of the gateway that are about one target validate and resolve it, ask the authorizer, and
only then look at the binding key of the request or reach the storage.

* `GatewayCall.Asks` — a call about one target, with the operation and the payload type for which
  it asks the authorizer.
* `Denied`, `Resolves` — the authorizer denies that question; the resolver's bindings are valid.
* `prog_of_invalid`, `prog_of_refused` — the methods up to the validation, and up to the question.
* `prog_denied` — a call that is denied makes no call of the storage, and its answer is a function
  of the target and the denial.
* `denied_learns_nothing` — two such runs answer the same.
-/

namespace Synclog.Gateway

open Synclog.Lib Synclog.Core Synclog.Memory

/-! ## Calls about one target -/

/-- The call is about one target, and asks the authorizer for this operation and payload type. The
request for a snapshot names a payload type. -/
inductive GatewayCall.Asks (requested : SubscriberID) (target : SyncTarget) :
    GatewayCall → Operation → String → Prop
  | «open» : Asks requested target (.open requested [target]) .open ""
  | catchUp (limitPerTarget totalLimitPerTarget : Nat) :
      Asks requested target
        (.catchUp { subscriberId := requested, targets := [target],
                    limitPerTarget, totalLimitPerTarget }) .catchUp ""
  | subscribePoll (batchLimitPerTarget maxInFlightPerTarget : Nat) (subscriptionId : String) :
      Asks requested target
        (.subscribePoll { subscriberId := requested, targets := [target], batchLimitPerTarget,
                          maxInFlightPerTarget, subscriptionId }) .subscribe ""
  | ack (bindingKey : String) (seq : Nat) (metadata : String) :
      Asks requested target
        (.ack { subscriberId := requested, target := some target, bindingKey, seq, metadata })
        .ack ""
  | getLatestSnapshot (payloadType : String) (maxPayloadVersion : Nat) (bindingKey : String)
      (htyped : payloadType ≠ "") :
      Asks requested target
        (.getLatestSnapshot { subscriberId := requested, target := some target, payloadType,
                              maxPayloadVersion, bindingKey }) .getSnapshot payloadType

section Denied

variable {Actor : Type} (hooks : Hooks Actor) (actor : Actor)

/-- The authorizer denies the operation to the actor, for the canonical subscriber. -/
def Denied (requested : SubscriberID) (target : SyncTarget) (operation : Operation)
    (payloadType : String) (err : GoError) : Prop :=
  ∃ subscriberID, resolveSubscriber hooks actor requested = .ok subscriberID ∧
    hooks.authorize { actor, operation, target, payloadType, subscriberID } = .error err

/-- The resolver's bindings of the target pass the gateway's validation. -/
def Resolves (target : SyncTarget) : Prop :=
  ∃ resolution bindings, hooks.resolveTarget actor target = .ok resolution ∧
    resolution.bindings ≠ [] ∧
    resolveEach resolution.bindings.length [] resolution.bindings = .ok bindings

/-- The error of a denied call: that of an invalid target, or else the authorizer's. -/
def denial (target : SyncTarget) (err : GoError) : GoError :=
  match validateTarget (some target) with
  | .error err => err
  | .ok _ => err

variable {hooks actor} {requested : SubscriberID} {target : SyncTarget} {operation : Operation}
  {payloadType : String} {err : GoError}

/-! ## What a denied call does -/

/-- A valid target that the resolver knows has bindings. -/
theorem Resolves.bindings (h : Resolves hooks actor target)
    (hvalid : validateTarget (some target) = .ok target) :
    ∃ bindings, resolveBindings hooks actor target = .ok bindings := by
  obtain ⟨resolution, bindings, hresolve, hne, heach⟩ := h
  refine ⟨bindings, ?_⟩
  unfold resolveBindings
  rw [hvalid]
  simp only [hresolve]
  rw [if_neg fun hlen => hne (List.length_eq_zero_iff.mp hlen), heach]

/-- The targets of a request for one target are valid when it is. -/
theorem validateTargets_singleton :
    validateTargets [target] =
      match validateTarget (some target) with
      | .error err => .error err
      | .ok _ => .ok () := by
  unfold validateTargets validateEach validateEach
  rfl

/-- A call about an invalid target ends with the error of the validation. -/
theorem prog_of_invalid {c : GatewayCall} (hc : c.Asks requested target operation payloadType)
    {subscriberID : SubscriberID}
    (hsub : resolveSubscriber hooks actor requested = .ok subscriberID)
    (hinvalid : validateTarget (some target) = .error err) :
    (c.prog hooks actor).run = .ret (.error err) := by
  have htargets : validateTargets [target] = .error err := by
    rw [validateTargets_singleton, hinvalid]
  cases hc with
  | «open» =>
      simp only [GatewayCall.prog, Gateway.open, hsub, htargets, Prog.ofExcept_ok_bind,
        Prog.ofExcept_error_bind]
      rfl
  | catchUp =>
      simp only [GatewayCall.prog, gatewayCatchUp, catchUp, hsub, htargets, Prog.ofExcept_ok_bind,
        Prog.ofExcept_error_bind]
      rfl
  | subscribePoll =>
      simp only [GatewayCall.prog, gatewaySubscribePoll, catchUp, hsub, htargets,
        Prog.ofExcept_ok_bind, Prog.ofExcept_error_bind]
      rfl
  | ack =>
      simp only [GatewayCall.prog, gatewayAck, hsub, hinvalid, Prog.ofExcept_ok_bind,
        Prog.ofExcept_error_bind]
      rfl
  | getLatestSnapshot =>
      simp only [GatewayCall.prog, gatewayGetLatestSnapshot, hsub, hinvalid, Prog.ofExcept_ok_bind,
        Prog.ofExcept_error_bind]
      rfl

/-- A call about a target with bindings asks the authorizer next: neither the binding key nor the
storage has been looked at. -/
theorem prog_of_refused {c : GatewayCall} (hc : c.Asks requested target operation payloadType)
    {subscriberID : SubscriberID}
    (hsub : resolveSubscriber hooks actor requested = .ok subscriberID)
    (hvalid : validateTarget (some target) = .ok target) {bindings : List StreamBinding}
    (hbindings : resolveBindings hooks actor target = .ok bindings)
    (hauth : hooks.authorize { actor, operation, target, payloadType, subscriberID } = .error err) :
    (c.prog hooks actor).run = .ret (.error err) := by
  have htargets : validateTargets [target] = .ok () := by
    rw [validateTargets_singleton, hvalid]
  cases hc with
  | «open» =>
      simp only [GatewayCall.prog, Gateway.open, openEach, resolveTargetState, hsub, htargets,
        hbindings, hauth, Prog.ofExcept_ok_bind, Prog.ofExcept_error_bind]
      rfl
  | catchUp =>
      simp only [GatewayCall.prog, gatewayCatchUp, catchUp, catchUpTargets, catchUpTarget, hsub,
        htargets, hbindings, hauth, Prog.ofExcept_ok_bind, Prog.ofExcept_error_bind]
      rfl
  | subscribePoll =>
      simp only [GatewayCall.prog, gatewaySubscribePoll, catchUp, catchUpTargets, catchUpTarget,
        hsub, htargets, hbindings, hauth, Prog.ofExcept_ok_bind, Prog.ofExcept_error_bind]
      rfl
  | ack =>
      simp only [GatewayCall.prog, gatewayAck, hsub, hvalid, hbindings, hauth,
        Prog.ofExcept_ok_bind, Prog.ofExcept_error_bind]
      rfl
  | getLatestSnapshot _ _ _ htyped =>
      simp only [GatewayCall.prog, gatewayGetLatestSnapshot, hsub, hvalid, hbindings, hauth,
        Prog.ofExcept_ok_bind, Prog.ofExcept_error_bind, if_neg htyped]
      rfl

/-- A call that is denied makes no call of the storage: its answer is the denial. -/
theorem prog_denied {c : GatewayCall} (hc : c.Asks requested target operation payloadType)
    (hresolves : Resolves hooks actor target)
    (hdenied : Denied hooks actor requested target operation payloadType err) :
    (c.prog hooks actor).run = .ret (.error (denial target err)) := by
  obtain ⟨subscriberID, hsub, hauth⟩ := hdenied
  unfold denial
  cases hvalid : validateTarget (some target) with
  | error invalid => exact prog_of_invalid hc hsub hvalid
  | ok target' =>
      obtain rfl := validateTarget_ok hvalid
      obtain ⟨bindings, hbindings⟩ := hresolves.bindings hvalid
      exact prog_of_refused hc hsub hvalid hbindings hauth

end Denied

/-! ## Two runs -/

/-- **A denied actor learns nothing.** Two calls of one method by one actor, with the same
subscriber id and about the same target, in two worlds: the stores, what others do to them, the
other fields of the requests and the bindings that the resolvers return may all differ. When the
authorizer denies both with the same error, the two answers are the same, and neither call has
changed a store. -/
theorem denied_learns_nothing {Actor σ σ' : Type} {hooks hooks' : Hooks Actor} {actor : Actor}
    {requested : SubscriberID} {target : SyncTarget} {operation : Operation}
    {payloadType payloadType' : String} {err : GoError} {c c' : GatewayCall}
    (hc : c.Asks requested target operation payloadType)
    (hc' : c'.Asks requested target operation payloadType')
    (hresolves : Resolves hooks actor target) (hresolves' : Resolves hooks' actor target)
    (hdenied : Denied hooks actor requested target operation payloadType err)
    (hdenied' : Denied hooks' actor requested target operation payloadType' err)
    {h : Handler StoreCall σ} {h' : Handler StoreCall σ'} {R : σ → σ → Prop} {R' : σ' → σ' → Prop}
    {s t : σ} {s' t' : σ'} {r r' : Except GoError GatewayAnswer}
    (hexec : Prog.Exec h R (c.prog hooks actor).run s r t)
    (hexec' : Prog.Exec h' R' (c'.prog hooks' actor).run s' r' t') :
    r = r' ∧ t = s ∧ t' = s' := by
  rw [prog_denied hc hresolves hdenied] at hexec
  rw [prog_denied hc' hresolves' hdenied'] at hexec'
  obtain ⟨rfl, rfl⟩ := Prog.exec_ret.mp hexec
  obtain ⟨rfl, rfl⟩ := Prog.exec_ret.mp hexec'
  exact ⟨rfl, rfl, rfl⟩

/-- Hooks that deny everything, over these bindings of any target. -/
def closedHooks (bindings : List StreamBinding) : Hooks Unit :=
  { secretHooks with
    resolveTarget := fun _ _ => .ok { bindings }
    authorize := fun _ => .error errAccessDenied }

/-- An acknowledgement under this key. -/
def probe (bindingKey : String) (seq : Nat) : GatewayCall :=
  .ack { subscriberId := "u", target := some noteTarget, bindingKey, seq }

/-- The default key of a target with one stream, which holds an event, and an unknown key of a
target with two streams that are not there. -/
theorem denied_learns_nothing_probe :
    (Prog.run (handler 0)
        ((probe defaultBindingKey 1).prog (closedHooks [{ streamID := "a" }]) ()).run
        noteBacklog).1 =
      (Prog.run (handler 0)
        ((probe "z" 7).prog (closedHooks [{ bindingKey := "x", streamID := "b" },
          { bindingKey := "y", streamID := "c" }]) ()).run newStore).1 :=
  (denied_learns_nothing (.ack defaultBindingKey 1 "") (.ack "z" 7 "")
    ⟨_, _, rfl, List.cons_ne_nil _ _, rfl⟩ ⟨_, _, rfl, List.cons_ne_nil _ _, rfl⟩
    ⟨"u", rfl, rfl⟩ ⟨"u", rfl, rfl⟩ (Prog.exec_run _ (fun _ _ => False) _ _)
    (Prog.exec_run _ (fun _ _ => False) _ _)).1

end Synclog.Gateway
