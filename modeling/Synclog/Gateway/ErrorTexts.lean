import Synclog.Gateway.Engine
import Synclog.Lib.Agreement

/-!
# The texts of unclassified errors

An error of a hook or of the storage is *unclassified* when it is none of the errors that the
gateway knows and carries no gRPC status: a driver's error, say. This file compares two runs of the
engine that differ in the texts of such errors only.

* `TextBlind E` — a relation between the errors of two runs that relates a classified error to
  itself, and an unclassified one to unclassified ones only.
* `SameButText` — the largest such relation: two runs differ in texts of unclassified errors only.
* `Hooks.Alike`, `StoreCall.Alike` — hooks and storage answer alike, up to `E`.
* `open_agree`, `gatewayCatchUp_agree` and so on — the methods of the engine then end alike.
* `attempts`, `resolveSubscribeEach_eq` — `ResolveSubscribeTargets` as how the resolution of each
  target has ended, sorted into states and rejections.
-/

namespace Synclog.Core

/-- None of the errors that `toStatusError` looks for, and no gRPC status. -/
def GoError.Unclassified (err : GoError) : Prop := err.status = none ∧ err.wraps = []

instance (err : GoError) : Decidable err.Unclassified :=
  inferInstanceAs (Decidable (err.status = none ∧ err.wraps = []))

/-- The same error, or two unclassified ones. -/
def GoError.SameButText (err err' : GoError) : Prop :=
  err' = err ∨ err.Unclassified ∧ err'.Unclassified

/-- Classified errors are related to themselves, and unclassified ones to unclassified ones. -/
structure TextBlind (E : GoError → GoError → Prop) : Prop where
  classified : ∀ err, ¬ err.Unclassified → E err err
  same : ∀ err err', E err err' → err.SameButText err'

/-- To have the same but for the text says nothing about the text. -/
theorem textBlind_sameButText : TextBlind GoError.SameButText where
  classified _ _ := .inl rfl
  same _ _ h := h

namespace TextBlind

variable {E : GoError → GoError → Prop}

/-- Errors of the gateway itself are classified. -/
theorem invalidArgument (hE : TextBlind E) (text : String) :
    E (errInvalidArgument text) (errInvalidArgument text) := by
  refine hE.classified _ ?_
  rintro ⟨-, hwraps⟩
  cases hwraps

/-- Errors that only differ in their texts wrap the same. -/
theorem wraps (hE : TextBlind E) {err err' : GoError} (h : E err err') :
    err'.wraps = err.wraps := by
  rcases hE.same err err' h with rfl | ⟨⟨-, hwraps⟩, -, hwraps'⟩
  · rfl
  · rw [hwraps, hwraps']

/-- Errors that only differ in their texts are told apart by no sentinel. -/
theorem is_eq (hE : TextBlind E) {err err' : GoError} (h : E err err') (target : Sentinel) :
    err'.is target = err.is target := by
  unfold GoError.is
  rw [hE.wraps h]

end TextBlind

/-- The storage answers a call alike. -/
def StoreCall.Alike (E : GoError → GoError → Prop) : Lib.Likeness StoreCall
  | _, .append _, r, r' => Lib.ExceptRel E Eq r r'
  | _, .getHead _, r, r' => Lib.ExceptRel E Eq r r'
  | _, .read _ _ _, r, r' => Lib.ExceptRel E Eq r r'
  | _, .getCursor _ _, r, r' => Lib.ExceptRel E Eq r r'
  | _, .ack _, r, r' => Lib.ExceptRel E Eq r r'
  | _, .getLatestSnapshot _ _ _, r, r' => Lib.ExceptRel E Eq r r'

/-- Answers that are alike stay so when more errors are. -/
theorem StoreCall.Alike.imp {E E' : GoError → GoError → Prop}
    (hE : ∀ err err', E err err' → E' err err') {β : Type} {c : StoreCall β} {b b' : β}
    (h : StoreCall.Alike E β c b b') : StoreCall.Alike E' β c b b' := by
  cases c <;> exact Lib.ExceptRel.imp hE h

/-- An answer is like itself. -/
theorem StoreCall.Alike.refl {E : GoError → GoError → Prop} (hE : ∀ err, E err err) {β : Type}
    (c : StoreCall β) (b : β) : StoreCall.Alike E β c b b := by
  cases c <;> exact Lib.ExceptRel.refl hE b

end Synclog.Core

namespace Synclog.Gateway

open Synclog.Lib Synclog.Core

/-- Two runs of a program of the storage that end alike, with equal values. -/
abbrev EndAlike (E : GoError → GoError → Prop) {α : Type} (p p' : ServerProg α) : Prop :=
  Prog.Agree (StoreCall.Alike E) (ExceptRel E Eq) p.run p'.run

/-! ## The core engine -/

section Core

variable {E : GoError → GoError → Prop} (hE : TextBlind E)
include hE

/-- `Engine.GetHead` passes on alike errors for alike errors. -/
theorem getHead_agree (streamID : StreamID) :
    EndAlike E (Engine.getHead streamID) (Engine.getHead streamID) := by
  refine Prog.Agree.ite (fun _ => .throw (hE.invalidArgument _)) fun _ => ?_
  exact .performE fun _ _ h => h

/-- `Engine.GetCursor` passes on alike errors for alike errors. -/
theorem getCursor_agree (subscriberID : SubscriberID) (streamID : StreamID) :
    EndAlike E (Engine.getCursor subscriberID streamID)
      (Engine.getCursor subscriberID streamID) := by
  refine Prog.Agree.ite (fun _ => .throw (hE.invalidArgument _)) fun _ => ?_
  refine Prog.Agree.ite (fun _ => .throw (hE.invalidArgument _)) fun _ => ?_
  exact .performE fun _ _ h => h

/-- `CatchUp` looks at the kind of an error of `Read`, not at its text. -/
theorem withBatch_alike (cursor : SubscriberCursor) (head : StreamHead)
    {r r' : Except GoError (EventBatch × StreamHead)} (h : ExceptRel E Eq r r') :
    ExceptRel E Eq (Engine.withBatch cursor head r) (Engine.withBatch cursor head r') := by
  cases h with
  | @error err err' herr =>
      show ExceptRel E Eq
        (if err.is .tooLong then .ok (Engine.noBatch .tooLong cursor head) else .error err)
        (if err'.is .tooLong then .ok (Engine.noBatch .tooLong cursor head) else .error err')
      rw [hE.is_eq herr]
      split_ifs
      · exact .ok rfl
      · exact .error herr
  | ok hvalue =>
      subst hvalue
      exact .ok rfl

/-- `Engine.CatchUp` of the core passes on alike errors for alike errors. -/
theorem core_catchUp_agree (req : CatchUpRequest) :
    EndAlike E (Engine.catchUp req) (Engine.catchUp req) := by
  unfold Engine.catchUp
  refine Prog.Agree.ite (fun _ => .throw (hE.invalidArgument _)) fun _ => ?_
  refine Prog.Agree.ite (fun _ => .throw (hE.invalidArgument _)) fun _ => ?_
  refine Prog.Agree.performE_bindE (fun _ _ h => h) ?_
  rintro cursor _ rfl
  refine Prog.Agree.performE_bindE (fun _ _ h => h) ?_
  rintro head _ rfl
  refine Prog.Agree.ite (fun _ => .pureE rfl) fun _ => ?_
  refine Prog.Agree.attempt_bindE ?_
  intro batch batch' hbatch
  exact .ofExcept (withBatch_alike hE cursor head hbatch)

/-- `Engine.Ack` passes on alike errors for alike errors. -/
theorem ack_agree (req : AckRequest) : EndAlike E (Engine.ack req) (Engine.ack req) := by
  unfold Engine.ack
  refine Prog.Agree.ite (fun _ => .throw (hE.invalidArgument _)) fun _ => ?_
  refine Prog.Agree.ite (fun _ => .throw (hE.invalidArgument _)) fun _ => ?_
  refine Prog.Agree.performE_bindE (fun _ _ h => h) ?_
  rintro head _ rfl
  refine Prog.Agree.ite (fun _ => ?_) fun _ => ?_
  · exact .throw (hE.invalidArgument _)
  · refine Prog.Agree.performE_bindE (fun _ _ h => h) ?_
    rintro cursor _ rfl
    exact .pureE rfl

end Core

/-! ## What asks the hooks only -/

/-- Hooks that answer alike. -/
structure Hooks.Alike {Actor : Type} (E : GoError → GoError → Prop) (hooks hooks' : Hooks Actor) :
    Prop where
  resolveSubscriber : ∀ actor requested, ExceptRel E Eq
    (hooks.resolveSubscriber actor requested) (hooks'.resolveSubscriber actor requested)
  resolveTarget : ∀ actor target, ExceptRel E Eq
    (hooks.resolveTarget actor target) (hooks'.resolveTarget actor target)
  authorize : ∀ req, ExceptRel E Eq (hooks.authorize req) (hooks'.authorize req)
  allowPayload : ∀ actor target payloadType, ExceptRel E Eq
    (hooks.allowPayload actor target payloadType) (hooks'.allowPayload actor target payloadType)
  allowSnapshot : ∀ actor target payloadType, ExceptRel E Eq
    (hooks.allowSnapshot actor target payloadType) (hooks'.allowSnapshot actor target payloadType)
  canDecode : hooks'.canDecode = hooks.canDecode

/-- Hooks that are alike stay so when more errors are. -/
theorem Hooks.Alike.imp {Actor : Type} {E E' : GoError → GoError → Prop}
    {hooks hooks' : Hooks Actor} (hE : ∀ err err', E err err' → E' err err')
    (h : hooks.Alike E hooks') : hooks.Alike E' hooks' where
  resolveSubscriber actor requested := (h.resolveSubscriber actor requested).imp hE
  resolveTarget actor target := (h.resolveTarget actor target).imp hE
  authorize req := (h.authorize req).imp hE
  allowPayload actor target payloadType := (h.allowPayload actor target payloadType).imp hE
  allowSnapshot actor target payloadType := (h.allowSnapshot actor target payloadType).imp hE
  canDecode := h.canDecode

/-- Hooks are like themselves. -/
theorem Hooks.Alike.refl {Actor : Type} {E : GoError → GoError → Prop} (hE : ∀ err, E err err)
    (hooks : Hooks Actor) : hooks.Alike E hooks where
  resolveSubscriber _ _ := .refl hE _
  resolveTarget _ _ := .refl hE _
  authorize _ := .refl hE _
  allowPayload _ _ _ := .refl hE _
  allowSnapshot _ _ _ := .refl hE _
  canDecode := rfl

section Pure

variable {E : GoError → GoError → Prop} (hE : TextBlind E) {Actor : Type}
  {hooks hooks' : Hooks Actor} (hhooks : hooks.Alike E hooks') (actor : Actor)

include hE

/-- Checks of the gateway itself end the same way in both runs. -/
theorem alike_refl {α : Type} {r : Except GoError α}
    (h : ∀ err, r = .error err → ∃ text, err = errInvalidArgument text) :
    ExceptRel E Eq r r := by
  cases r with
  | error err =>
      obtain ⟨text, rfl⟩ := h err rfl
      exact .error (hE.invalidArgument text)
  | ok a => exact .ok rfl

/-- The check of a target fails in one way. -/
theorem validateTarget_alike (target : Option SyncTarget) :
    ExceptRel E Eq (validateTarget target) (validateTarget target) := by
  cases target with
  | none => exact .error (hE.invalidArgument _)
  | some target =>
      simp only [validateTarget]
      split_ifs
      · exact .error (hE.invalidArgument _)
      · exact .error (hE.invalidArgument _)
      · exact .ok rfl

/-- The checks of the targets fail in one way. -/
theorem validateEach_alike (targets : List SyncTarget) :
    ExceptRel E Eq (validateEach targets) (validateEach targets) := by
  induction targets with
  | nil => exact .ok rfl
  | cons target targets ih =>
      unfold validateEach
      rcases (validateTarget_alike hE (some target)).cases with
        ⟨err, _, heq, heq', herr⟩ | ⟨_, _, heq, -, -⟩
      · rw [heq] at heq' ⊢
        cases heq'
        exact .error herr
      · rw [heq]
        exact ih

/-- The check of a request's targets fails in one way. -/
theorem validateTargets_alike (targets : List SyncTarget) :
    ExceptRel E Eq (validateTargets targets) (validateTargets targets) := by
  unfold validateTargets
  split_ifs
  · exact .error (hE.invalidArgument _)
  · exact validateEach_alike hE targets

/-- The check of a type fails in one way. -/
theorem requireAllowedType_alike (allowed : List String) (payloadType kind : String) :
    ExceptRel E Eq (requireAllowedType allowed payloadType kind)
      (requireAllowedType allowed payloadType kind) := by
  unfold requireAllowedType
  split_ifs
  · exact .ok rfl
  · exact .ok rfl
  · exact .error (hE.invalidArgument _)

/-- The choice of a binding fails in one way. -/
theorem selectBinding_alike (bindings : List StreamBinding) (requested : String) :
    ExceptRel E Eq (selectBinding bindings requested) (selectBinding bindings requested) := by
  refine alike_refl hE ?_
  intro err herr
  unfold selectBinding at herr
  split_ifs at herr
  · split at herr <;> cases herr
    exact ⟨_, rfl⟩
  · split at herr <;> cases herr
    exact ⟨_, rfl⟩

/-- The check of the bindings fails in one way. -/
theorem resolveEach_alike (n : Nat) (seen : List String) (bindings : List StreamBinding) :
    ExceptRel E Eq (resolveEach n seen bindings) (resolveEach n seen bindings) := by
  induction bindings generalizing seen with
  | nil => exact .ok rfl
  | cons b bindings ih =>
      have hkey : ExceptRel E Eq (effectiveKey n b) (effectiveKey n b) := by
        unfold effectiveKey
        split_ifs
        · exact .error (hE.invalidArgument _)
        · exact .ok rfl
        · exact .ok rfl
      unfold resolveEach
      split_ifs
      · exact .error (hE.invalidArgument _)
      rcases hkey.cases with ⟨err, _, heq, heq', herr⟩ | ⟨key, _, heq, -, -⟩
      · rw [heq] at heq' ⊢
        cases heq'
        exact .error herr
      · simp only [heq]
        split_ifs
        · exact .error (hE.invalidArgument _)
        rcases (ih (key :: seen)).cases with ⟨err, _, hout, hout', herr⟩ | ⟨out, _, hout, -, -⟩
        · rw [hout] at hout' ⊢
          cases hout'
          exact .error herr
        · rw [hout]
          exact .ok rfl

include hhooks

/-- Alike hooks resolve a subscriber alike. -/
theorem resolveSubscriber_alike (requested : SubscriberID) :
    ExceptRel E Eq (resolveSubscriber hooks actor requested)
      (resolveSubscriber hooks' actor requested) := by
  unfold resolveSubscriber
  split_ifs
  · exact .error (hE.invalidArgument _)
  rcases (hhooks.resolveSubscriber actor requested).cases with
    ⟨err, err', heq, heq', herr⟩ | ⟨id, _, heq, heq', rfl⟩
  · rw [heq, heq']
    exact .error herr
  · simp only [heq, heq']
    split_ifs
    · exact .error (hE.invalidArgument _)
    · exact .ok rfl

/-- Alike hooks resolve a target alike. -/
theorem resolveBindings_alike (target : SyncTarget) :
    ExceptRel E Eq (resolveBindings hooks actor target) (resolveBindings hooks' actor target) := by
  unfold resolveBindings
  rcases (validateTarget_alike hE (some target)).cases with
    ⟨err, _, heq, heq', herr⟩ | ⟨_, _, heq, -, -⟩
  · rw [heq] at heq' ⊢
    cases heq'
    exact .error herr
  rcases (hhooks.resolveTarget actor target).cases with
    ⟨err, err', hhook, hhook', herr⟩ | ⟨resolution, _, hhook, hhook', rfl⟩
  · simp only [heq, hhook, hhook']
    exact .error herr
  · simp only [heq, hhook, hhook']
    split_ifs
    · exact .error (hE.invalidArgument _)
    · exact resolveEach_alike hE _ _ _

variable (subscriberID : SubscriberID) (target : SyncTarget) (b : StreamBinding)
  (operation : Operation)

/-- Alike hooks check an event alike. -/
theorem checkEvent_alike (event : Event) :
    ExceptRel E Eq (checkEvent hooks actor subscriberID target b operation event)
      (checkEvent hooks' actor subscriberID target b operation event) := by
  unfold checkEvent
  rcases (requireAllowedType_alike hE b.payloadTypes event.payloadType "payload").cases with
    ⟨err, _, heq, heq', herr⟩ | ⟨_, _, heq, -, -⟩
  · rw [heq] at heq' ⊢
    cases heq'
    exact .error herr
  rcases (hhooks.authorize
      { actor, operation, target, payloadType := event.payloadType, subscriberID }).cases with
    ⟨err, err', hauth, hauth', herr⟩ | ⟨_, _, hauth, hauth', rfl⟩
  · simp only [heq, hauth, hauth']
    exact .error herr
  rcases (hhooks.allowPayload actor target event.payloadType).cases with
    ⟨err, err', hallow, hallow', herr⟩ | ⟨_, _, hallow, hallow', rfl⟩
  · simp only [heq, hauth, hauth', hallow, hallow']
    exact .error herr
  · simp only [heq, hauth, hauth', hallow, hallow', hhooks.canDecode]
    split_ifs
    · exact .ok rfl
    · exact .error (hE.invalidArgument _)

/-- Alike hooks check events alike. -/
theorem checkEvents_alike (events : List Event) :
    ExceptRel E Eq (checkEvents hooks actor subscriberID target b operation events)
      (checkEvents hooks' actor subscriberID target b operation events) := by
  induction events with
  | nil => exact .ok rfl
  | cons event events ih =>
      unfold checkEvents
      rcases (checkEvent_alike hE hhooks actor subscriberID target b operation event).cases with
        ⟨err, err', heq, heq', herr⟩ | ⟨_, _, heq, heq', rfl⟩
      · rw [heq, heq']
        exact .error herr
      · rw [heq, heq']
        exact ih

/-- What becomes of a catch-up's batch. -/
theorem resultBatch_alike (result : CatchUpResult) :
    ExceptRel E Eq (resultBatch hooks actor subscriberID target b operation result)
      (resultBatch hooks' actor subscriberID target b operation result) := by
  unfold resultBatch gatewayBatch
  split_ifs
  · rcases (checkEvents_alike hE hhooks actor subscriberID target b operation
        result.batch.events).cases with
      ⟨err, err', heq, heq', herr⟩ | ⟨_, _, heq, heq', rfl⟩
    · rw [heq, heq']
      exact .error herr
    · rw [heq, heq']
      exact .ok rfl
  · exact .ok rfl

end Pure

/-! ## The methods -/

section Methods

variable {E : GoError → GoError → Prop} (hE : TextBlind E)
include hE

/-- The states of the bindings are read alike. -/
theorem bindingStates_agree (subscriberID : SubscriberID) (bindings : List StreamBinding) :
    EndAlike E (bindingStates subscriberID bindings) (bindingStates subscriberID bindings) := by
  induction bindings with
  | nil => exact .pureE rfl
  | cons b bindings ih =>
      unfold bindingStates
      refine Prog.Agree.bindE_same (getCursor_agree hE subscriberID b.streamID) fun cursor => ?_
      refine Prog.Agree.bindE_same (getHead_agree hE b.streamID) fun head => ?_
      refine Prog.Agree.bindE_same ih fun rest => ?_
      exact .pureE rfl

/-- The state of a target is read alike. -/
theorem targetState_agree (subscriberID : SubscriberID) (target : SyncTarget)
    (bindings : List StreamBinding) :
    EndAlike E (targetState subscriberID target bindings)
      (targetState subscriberID target bindings) := by
  unfold targetState
  refine Prog.Agree.bindE_same (bindingStates_agree hE subscriberID bindings) fun states => ?_
  exact .pureE rfl

variable {Actor : Type} {hooks hooks' : Hooks Actor} (hhooks : hooks.Alike E hooks')
  (actor : Actor)
include hhooks

/-- A target is resolved, and its state read, alike. -/
theorem resolveTargetState_agree (subscriberID : SubscriberID) (operation : Operation)
    (target : SyncTarget) :
    EndAlike E (resolveTargetState hooks actor subscriberID operation target)
      (resolveTargetState hooks' actor subscriberID operation target) := by
  unfold resolveTargetState
  refine Prog.Agree.ofExcept_bindE_same (resolveBindings_alike hE hhooks actor target)
    fun bindings => ?_
  refine Prog.Agree.ofExcept_bindE_same (hhooks.authorize _) fun _ => ?_
  exact targetState_agree hE subscriberID target bindings

/-- The targets of `Open` are resolved alike. -/
theorem openEach_agree (subscriberID : SubscriberID) (targets : List SyncTarget) :
    EndAlike E (openEach hooks actor subscriberID targets)
      (openEach hooks' actor subscriberID targets) := by
  induction targets with
  | nil => exact .pureE rfl
  | cons target targets ih =>
      unfold openEach
      refine Prog.Agree.bindE_same
        (resolveTargetState_agree hE hhooks actor subscriberID .open target) fun state => ?_
      refine Prog.Agree.bindE_same ih fun states => ?_
      exact .pureE rfl

/-- `Open` answers alike. -/
theorem open_agree (requested : SubscriberID) (targets : List SyncTarget) :
    EndAlike E (Gateway.open hooks actor requested targets)
      (Gateway.open hooks' actor requested targets) := by
  unfold Gateway.open
  refine Prog.Agree.ofExcept_bindE_same (resolveSubscriber_alike hE hhooks actor requested)
    fun subscriberID => ?_
  refine Prog.Agree.ofExcept_bindE_same (validateTargets_alike hE targets) fun _ => ?_
  exact openEach_agree hE hhooks actor subscriberID targets

/-- The bindings of a target are caught up alike. -/
theorem catchUpBindings_agree (subscriberID : SubscriberID) (target : SyncTarget)
    (state : TargetState) (limit totalLimit : Int) (operation : Operation)
    (bindings : List StreamBinding) :
    EndAlike E
      (catchUpBindings hooks actor subscriberID target state limit totalLimit operation bindings)
      (catchUpBindings hooks' actor subscriberID target state limit totalLimit operation
        bindings) := by
  induction bindings with
  | nil => exact .pureE rfl
  | cons b bindings ih =>
      unfold catchUpBindings
      refine Prog.Agree.bindE_same (core_catchUp_agree hE _) fun result => ?_
      refine Prog.Agree.ofExcept_bindE_same
        (resultBatch_alike hE hhooks actor subscriberID target b operation result) fun batch => ?_
      refine Prog.Agree.bindE_same ih fun results => ?_
      exact .pureE rfl

/-- The targets are caught up alike. -/
theorem catchUpTargets_agree (subscriberID : SubscriberID) (limit totalLimit : Int)
    (operation : Operation) (targets : List SyncTarget) :
    EndAlike E (catchUpTargets hooks actor subscriberID limit totalLimit operation targets)
      (catchUpTargets hooks' actor subscriberID limit totalLimit operation targets) := by
  induction targets with
  | nil => exact .pureE rfl
  | cons target targets ih =>
      have htarget : EndAlike E
          (catchUpTarget hooks actor subscriberID limit totalLimit operation target)
          (catchUpTarget hooks' actor subscriberID limit totalLimit operation target) := by
        unfold catchUpTarget
        refine Prog.Agree.ofExcept_bindE_same (resolveBindings_alike hE hhooks actor target)
          fun bindings => ?_
        refine Prog.Agree.ofExcept_bindE_same (hhooks.authorize _) fun _ => ?_
        refine Prog.Agree.bindE_same (targetState_agree hE subscriberID target bindings)
          fun state => ?_
        exact catchUpBindings_agree hE hhooks actor subscriberID target state limit totalLimit
          operation bindings
      unfold catchUpTargets
      refine Prog.Agree.bindE_same htarget fun results => ?_
      refine Prog.Agree.bindE_same ih fun rest => ?_
      exact .pureE rfl

/-- The targets of a request are caught up alike. -/
theorem catchUp_agree (requested : SubscriberID) (targets : List SyncTarget)
    (limit totalLimit : Int) (operation : Operation) :
    EndAlike E (catchUp hooks actor requested targets limit totalLimit operation)
      (catchUp hooks' actor requested targets limit totalLimit operation) := by
  unfold catchUp
  refine Prog.Agree.ofExcept_bindE_same (resolveSubscriber_alike hE hhooks actor requested)
    fun subscriberID => ?_
  refine Prog.Agree.ofExcept_bindE_same (validateTargets_alike hE targets) fun _ => ?_
  exact catchUpTargets_agree hE hhooks actor subscriberID limit totalLimit operation targets

/-- `GatewayCatchUp` answers alike. -/
theorem gatewayCatchUp_agree (req : GatewayCatchUpRequest) :
    EndAlike E (gatewayCatchUp hooks actor req) (gatewayCatchUp hooks' actor req) :=
  catchUp_agree hE hhooks actor _ _ _ _ _

/-- `GatewaySubscribePoll` answers alike. -/
theorem gatewaySubscribePoll_agree (req : GatewaySubscribeRequest) :
    EndAlike E (gatewaySubscribePoll hooks actor req)
      (gatewaySubscribePoll hooks' actor req) := by
  unfold gatewaySubscribePoll
  refine Prog.Agree.bindE_same (catchUp_agree hE hhooks actor _ _ _ _ _) fun results => ?_
  exact .pureE rfl

/-- `GatewayAck` answers alike. -/
theorem gatewayAck_agree (req : GatewayAckRequest) :
    EndAlike E (gatewayAck hooks actor req) (gatewayAck hooks' actor req) := by
  unfold gatewayAck
  refine Prog.Agree.ofExcept_bindE_same (resolveSubscriber_alike hE hhooks actor req.subscriberId)
    fun subscriberID => ?_
  refine Prog.Agree.ofExcept_bindE_same (validateTarget_alike hE req.target) fun target => ?_
  refine Prog.Agree.ofExcept_bindE_same (resolveBindings_alike hE hhooks actor target)
    fun bindings => ?_
  refine Prog.Agree.ofExcept_bindE_same (hhooks.authorize _) fun _ => ?_
  refine Prog.Agree.ofExcept_bindE_same (selectBinding_alike hE bindings req.bindingKey) fun b => ?_
  refine Prog.Agree.bindE_same (ack_agree hE _) fun _ => ?_
  exact targetState_agree hE subscriberID target bindings

/-- `GatewayGetLatestSnapshot` answers alike. -/
theorem gatewayGetLatestSnapshot_agree (req : GatewayGetLatestSnapshotRequest) :
    EndAlike E (gatewayGetLatestSnapshot hooks actor req)
      (gatewayGetLatestSnapshot hooks' actor req) := by
  unfold gatewayGetLatestSnapshot
  refine Prog.Agree.ofExcept_bindE_same (resolveSubscriber_alike hE hhooks actor req.subscriberId)
    fun subscriberID => ?_
  refine Prog.Agree.ofExcept_bindE_same (validateTarget_alike hE req.target) fun target => ?_
  refine Prog.Agree.ite (fun _ => .throw (hE.invalidArgument _)) fun _ => ?_
  refine Prog.Agree.ofExcept_bindE_same (resolveBindings_alike hE hhooks actor target)
    fun bindings => ?_
  refine Prog.Agree.ofExcept_bindE_same (hhooks.authorize _) fun _ => ?_
  refine Prog.Agree.ofExcept_bindE_same (selectBinding_alike hE bindings req.bindingKey) fun b => ?_
  refine Prog.Agree.ofExcept_bindE_same
    (requireAllowedType_alike hE b.snapshotTypes req.payloadType "snapshot") fun _ => ?_
  refine Prog.Agree.ofExcept_bindE_same (hhooks.allowSnapshot actor target req.payloadType)
    fun _ => ?_
  refine Prog.Agree.performE_bindE (fun _ _ h => h) ?_
  rintro snapshot _ rfl
  have hcodec : ExceptRel E Eq (checkSnapshotCodec hooks snapshot.ref)
      (checkSnapshotCodec hooks' snapshot.ref) := by
    unfold checkSnapshotCodec
    rw [hhooks.canDecode]
    split_ifs
    · exact .ok rfl
    · exact .error (hE.invalidArgument _)
  refine Prog.Agree.ofExcept_bindE_same hcodec fun _ => ?_
  refine Prog.Agree.bindE_same (targetState_agree hE subscriberID target bindings) fun state => ?_
  exact .pureE rfl

end Methods

/-! ## How the resolution of each target ends -/

section Attempts

variable {Actor : Type} (hooks : Hooks Actor) (actor : Actor)

/-- A target with what `resolveSubscribeTarget` has returned for it. -/
abbrev Attempt := SyncTarget × Except GoError TargetState

/-- The resolution of each target in turn. -/
def attempts (subscriberID : SubscriberID) : List SyncTarget → Prog StoreCall (List Attempt)
  | [] => pure []
  | target :: targets => do
    let state ← (resolveSubscribeTarget hooks actor subscriberID target).run
    let rest ← attempts subscriberID targets
    return (target, state) :: rest

/-- The states of the accepted targets. -/
def acceptedStates (ended : List Attempt) : List TargetState :=
  ended.filterMap fun attempt => attempt.2.toOption

/-- The rejection that a target gets for an error.
Source: `gateway/engine.go`, `Engine.ResolveSubscribeTargets`. -/
def rejection (target : SyncTarget) (err : GoError) : TargetRejection where
  target := target
  code := rejectionCode err
  message := err.message

/-- The rejections of the others. -/
def rejections (ended : List Attempt) : List TargetRejection :=
  ended.filterMap fun attempt =>
    match attempt.2 with
    | .error err => some (rejection attempt.1 err)
    | .ok _ => none

/-- The loop of `ResolveSubscribeTargets` sorts the ends of its resolutions. -/
theorem run_resolveSubscribeEach_attempts {σ : Type} (h : Handler StoreCall σ)
    (subscriberID : SubscriberID) (targets : List SyncTarget) (s : σ) :
    Prog.run h (resolveSubscribeEach hooks actor subscriberID targets) s =
      ((acceptedStates (Prog.run h (attempts hooks actor subscriberID targets) s).1,
        rejections (Prog.run h (attempts hooks actor subscriberID targets) s).1),
        (Prog.run h (attempts hooks actor subscriberID targets) s).2) := by
  induction targets generalizing s with
  | nil => rfl
  | cons target targets ih =>
      unfold resolveSubscribeEach attempts
      simp only [Prog.run_bind, ih]
      cases (Prog.run h (resolveSubscribeTarget hooks actor subscriberID target).run s).1 with
      | error err => rfl
      | ok state => rfl

/-- Two ends of the resolution of one target. -/
def AttemptRel (E : GoError → GoError → Prop) (attempt attempt' : Attempt) : Prop :=
  attempt.1 = attempt'.1 ∧ ExceptRel E Eq attempt.2 attempt'.2

variable {hooks} in
/-- The attempts on the targets that are added go alike. -/
theorem attempts_agree {E : GoError → GoError → Prop} (hE : TextBlind E) {hooks' : Hooks Actor}
    (hhooks : hooks.Alike E hooks') (subscriberID : SubscriberID) (targets : List SyncTarget) :
    Prog.Agree (StoreCall.Alike E) (List.Forall₂ (AttemptRel E))
      (attempts hooks actor subscriberID targets) (attempts hooks' actor subscriberID targets) := by
  induction targets with
  | nil => exact .ret .nil
  | cons target targets ih =>
      refine Prog.Agree.bind
        (resolveTargetState_agree hE hhooks actor subscriberID .subscribe target) ?_
      intro state state' hstate
      refine Prog.Agree.bind ih ?_
      intro rest rest' hrest
      exact .ret (.cons ⟨rfl, hstate⟩ hrest)

/-- The accepted targets are the same ones. -/
theorem acceptedStates_alike {E : GoError → GoError → Prop} {ended ended' : List Attempt}
    (h : List.Forall₂ (AttemptRel E) ended ended') :
    acceptedStates ended' = acceptedStates ended := by
  induction h with
  | nil => rfl
  | @cons attempt attempt' rest rest' hattempt _ ih =>
      obtain ⟨target, state⟩ := attempt
      obtain ⟨target', state'⟩ := attempt'
      obtain ⟨-, hstate⟩ := hattempt
      unfold acceptedStates at ih ⊢
      rw [List.filterMap_cons, List.filterMap_cons, ih]
      rcases hstate with herr | rfl
      · rfl
      · rfl

/-- Where no resolution has ended with an unclassified error, the rejections are the same. -/
theorem rejections_same {ended ended' : List Attempt}
    (h : List.Forall₂ (AttemptRel GoError.SameButText) ended ended')
    (hclassified : ∀ target err, (target, .error err) ∈ ended → ¬ err.Unclassified) :
    rejections ended' = rejections ended := by
  induction h with
  | nil => rfl
  | @cons attempt attempt' rest rest' hattempt _ ih =>
      have hrest := ih fun target err hmem =>
        hclassified target err (List.mem_cons_of_mem _ hmem)
      obtain ⟨target, state⟩ := attempt
      obtain ⟨target', state'⟩ := attempt'
      obtain ⟨htarget, hstate⟩ := hattempt
      obtain rfl : target = target' := htarget
      unfold rejections at hrest ⊢
      rw [List.filterMap_cons, List.filterMap_cons, hrest]
      rcases hstate with herr | rfl
      · rcases herr with rfl | ⟨hunclassified, -⟩
        · rfl
        · exact absurd hunclassified (hclassified target _ List.mem_cons_self)
      · rfl

end Attempts

/-! ## The same run with other texts -/

section Retext

/-- Another text for an unclassified error. -/
def retext (err : GoError) : GoError :=
  if err.Unclassified then { err with message := err.message ++ "'" } else err

/-- `err'` is `err` with the other text. -/
def Retexted (err err' : GoError) : Prop := err' = retext err

/-- The other text is another one. -/
theorem retext_message_ne {err : GoError} (h : err.Unclassified) :
    (retext err).message ≠ err.message := by
  unfold retext
  rw [if_pos h]
  intro heq
  have hlength := congrArg String.length heq
  simp at hlength

/-- An error whose text is exchanged only differs in its text. -/
theorem textBlind_retexted : TextBlind Retexted where
  classified err h := (if_neg h).symm
  same err err' h := by
    obtain rfl : err' = retext err := h
    by_cases hunclassified : err.Unclassified
    · unfold retext
      rw [if_pos hunclassified]
      exact .inr ⟨hunclassified, hunclassified⟩
    · exact .inl (if_neg hunclassified)

/-- A result whose error gets the other text is like the result. -/
theorem exceptRel_mapError {α : Type} (r : Except GoError α) :
    ExceptRel Retexted Eq r (r.mapError retext) := by
  cases r with
  | error err => exact .error rfl
  | ok a => exact .ok rfl

/-- The hooks with the other texts. -/
def Hooks.retext {Actor : Type} (hooks : Hooks Actor) : Hooks Actor where
  resolveSubscriber actor requested :=
    (hooks.resolveSubscriber actor requested).mapError Gateway.retext
  resolveTarget actor target := (hooks.resolveTarget actor target).mapError Gateway.retext
  authorize req := (hooks.authorize req).mapError Gateway.retext
  allowPayload actor target payloadType :=
    (hooks.allowPayload actor target payloadType).mapError Gateway.retext
  allowSnapshot actor target payloadType :=
    (hooks.allowSnapshot actor target payloadType).mapError Gateway.retext
  canDecode := hooks.canDecode

/-- Hooks whose errors get the other text are like the hooks. -/
theorem Hooks.alike_retext {Actor : Type} (hooks : Hooks Actor) :
    hooks.Alike Retexted hooks.retext where
  resolveSubscriber _ _ := exceptRel_mapError _
  resolveTarget _ _ := exceptRel_mapError _
  authorize _ := exceptRel_mapError _
  allowPayload _ _ _ := exceptRel_mapError _
  allowSnapshot _ _ _ := exceptRel_mapError _
  canDecode := rfl

/-- An answer of the storage with the other text. -/
def retextAnswer : (β : Type) → StoreCall β → β → β
  | _, .append _, r => r.mapError retext
  | _, .getHead _, r => r.mapError retext
  | _, .read _ _ _, r => r.mapError retext
  | _, .getCursor _ _, r => r.mapError retext
  | _, .ack _, r => r.mapError retext
  | _, .getLatestSnapshot _ _ _, r => r.mapError retext

/-- An answer whose error gets the other text is like the answer. -/
theorem alike_retextAnswer (β : Type) (c : StoreCall β) (b : β) :
    StoreCall.Alike Retexted β c b (retextAnswer β c b) := by
  cases c <;> exact exceptRel_mapError _

/-- Where the rejections are the same although the texts have changed, no resolution has ended with
an unclassified error. -/
theorem rejections_retexted {ended ended' : List Attempt}
    (h : List.Forall₂ (AttemptRel Retexted) ended ended')
    (heq : rejections ended' = rejections ended) :
    ∀ target err, (target, .error err) ∈ ended → ¬ err.Unclassified := by
  induction h with
  | nil => exact fun _ _ hmem => nomatch hmem
  | @cons attempt attempt' rest rest' hattempt _ ih =>
      obtain ⟨target, state⟩ := attempt
      obtain ⟨target', state'⟩ := attempt'
      obtain ⟨htarget, hstate⟩ := hattempt
      obtain rfl : target = target' := htarget
      unfold rejections at heq ih
      rw [List.filterMap_cons, List.filterMap_cons] at heq
      intro target' err hmem
      rcases hstate with @⟨err₀, err₀', herr⟩ | rfl
      · obtain rfl : err₀' = retext err₀ := herr
        obtain ⟨hhead, htail⟩ := List.cons.inj heq
        rcases List.mem_cons.mp hmem with hfirst | hlater
        · cases hfirst
          intro hunclassified
          exact retext_message_ne hunclassified (congrArg TargetRejection.message hhead)
        · exact ih htail target' err hlater
      · rcases List.mem_cons.mp hmem with hfirst | hlater
        · cases hfirst
        · exact ih heq target' err hlater

end Retext

end Synclog.Gateway
