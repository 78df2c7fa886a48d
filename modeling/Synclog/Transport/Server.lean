import Synclog.Gateway.ErrorTexts
import Synclog.Transport.GatewaySubscribe

/-!
# What the gateway sends

The gRPC methods of `pkg/gateway/transport/grpc/server.go`, with everything that they send to the
client: the answer, or the status of an error, and for the live stream its frames. A `World` is what
a call meets: who the actor is found to be, what the hooks and the storage answer, and when; for
the live stream also the order of its steps.

`texts_stay_inside_iff` compares worlds that differ in the texts of unclassified errors only. The
client cannot tell them apart, with one exception: a rejection of `ModifySubscription` carries the
text of the error, where every status has gone through `toStatusError`.
-/

namespace Synclog.Transport

open Synclog.Lib Synclog.Core Synclog.Memory Synclog.Gateway

/-! ## The methods -/

section Methods

variable {Actor : Type} (hooks : Hooks Actor) (actor : Except GoError Actor)

/-- A unary method: the actor is extracted, the engine's method runs, and an error becomes a
status. -/
def unary {α : Type} (method : Actor → ServerProg α) : Prog StoreCall (Except GoError α) :=
  match actor with
  | .error err => pure (.error (toStatusError err))
  | .ok actor => do
    match ← (method actor).run with
    | .error err => return .error (toStatusError err)
    | .ok resp => return .ok resp

/-- Source: `server.go`, `Server.Open`. -/
def Server.open (subscriberId : SubscriberID) (targets : List SyncTarget) :
    Prog StoreCall (Except GoError (List TargetState)) :=
  unary actor fun actor => Gateway.open hooks actor subscriberId targets

/-- Source: `server.go`, `Server.GatewayCatchUp`. -/
def Server.gatewayCatchUp (req : GatewayCatchUpRequest) :
    Prog StoreCall (Except GoError (List GatewayCatchUpResult)) :=
  unary actor fun actor => Gateway.gatewayCatchUp hooks actor req

/-- Source: `server.go`, `Server.GatewayAck`. -/
def Server.gatewayAck (req : GatewayAckRequest) : Prog StoreCall (Except GoError TargetState) :=
  unary actor fun actor => Gateway.gatewayAck hooks actor req

/-- Source: `server.go`, `Server.GatewayGetLatestSnapshot`. -/
def Server.gatewayGetLatestSnapshot (req : GatewayGetLatestSnapshotRequest) :
    Prog StoreCall (Except GoError GatewayGetLatestSnapshotResponse) :=
  unary actor fun actor => Gateway.gatewayGetLatestSnapshot hooks actor req

/-- `reg` is the registry when the stream is looked up.
Source: `server.go`, `Server.ModifySubscription`. -/
def Server.modifySubscription (reg : Registry) (req : ModifySubscriptionRequest) :
    Prog StoreCall (Except GoError ModifySubscriptionResponse × Registry) :=
  match actor with
  | .error err => pure (.error (toStatusError err), reg)
  | .ok actor =>
    if req.subscriptionId = "" then
      pure (.error (statusError .invalidArgument "subscription_id is required"), reg)
    else do
      let resolved ← (resolveSubscribeTargets hooks actor req.subscriberId req.addTargets).run
      return reg.modifySubscription req resolved

end Methods

/-! ## The live stream -/

/-- A live stream, with the status it has ended with. The storage is any one that answers the calls
of a poll: the memory store in `Loop` is not used. -/
structure Live where
  loop : Loop
  status : Option GoError := none

/-- What happens next: the target set is modified; a wait takes the token of the wake channel; the
loop takes its next step at the time `now`, with what the hooks and the storage answer at that time;
the wait returns what `WaitGatewaySubscribe` has returned; or the context has ended, or a send has
failed, with `err`. -/
inductive LiveLabel (Actor : Type)
  | modify (add remove : List SyncTarget)
  | takeWake
  | loop (hooks : Hooks Actor) (answers : (β : Type) → StoreCall β → β) (now : Int)
  | waited (err : Option GoError)
  | fail (err : GoError)

/-- The stream ends with an error.
Source: `server.go`, `Server.GatewaySubscribe`, `return toStatusError(err)`. -/
def Live.end (σ : Live) (err : GoError) : Live where
  loop := { σ.loop with pc := .ended }
  status := some (toStatusError err)

/-- The state in which a stream begins. -/
def Live.start (req : GatewaySubscribeRequest) (now : Int) : Live where
  loop := .start newStore req now

/-- Source: `server.go`, `Server.GatewaySubscribe` and `Server.waitOrWake`. -/
def liveStream {Actor : Type} (actor : Actor) (req : GatewaySubscribeRequest)
    (heartbeatEvery : Int) : Machine Live (LiveLabel Actor) where
  step
    | .modify add remove, σ =>
      some { σ with loop := { σ.loop with sub := σ.loop.sub.apply add remove } }
    | .takeWake, σ =>
      if σ.loop.sub.wake then
        some { σ with loop := { σ.loop with sub := { σ.loop.sub with wake := false } } }
      else none
    | .loop hooks answers now, σ =>
      match σ.loop.pc with
      | .top => some { σ with loop := σ.loop.begin hooks actor req heartbeatEvery now }
      | .polling (.call c k) =>
        some { σ with loop := { σ.loop with pc := .polling (k (answers _ c)) } }
      | .polling (.ret (.ok responses)) =>
        some { σ with loop := { σ.loop with pc := .responding responses false false false } }
      | .polling (.ret (.error err)) => some (σ.end err)
      | .responding (resp :: rest) sent hasMore throttled =>
        some { σ with loop := σ.loop.respond req now resp rest sent hasMore throttled }
      | .responding [] sent hasMore throttled =>
        some { σ with loop := σ.loop.finish heartbeatEvery now sent hasMore throttled }
      | .sleeping | .watching | .ended => none
    | .waited err, σ =>
      match σ.loop.pc, err with
      | .sleeping, none | .watching, none => some { σ with loop := { σ.loop with pc := .top } }
      | .watching, some err =>
        -- a cancellation comes from a wake-up and is swallowed
        if err.is .canceled then some { σ with loop := { σ.loop with pc := .top } }
        else some (σ.end err)
      | _, _ => none
    | .fail err, σ =>
      match σ.loop.pc with
      | .ended => none
      | _ => some (σ.end err)

/-- The frame that a client gets. -/
def LoopEvent.frame? : LoopEvent → Option GatewaySubscribeResponse
  | .heartbeat serverTimeUnixMs => some { heartbeat := true, serverTimeUnixMs }
  | .response _ resp _ _ => some resp
  | .dropped _ => none

/-! ## Everything that is sent -/

/-- A call of the gateway's service. -/
inductive Rpc
  | «open» (subscriberId : SubscriberID) (targets : List SyncTarget)
  | gatewayCatchUp (req : GatewayCatchUpRequest)
  | gatewaySubscribe (req : GatewaySubscribeRequest)
  | modifySubscription (req : ModifySubscriptionRequest)
  | gatewayAck (req : GatewayAckRequest)
  | gatewayGetLatestSnapshot (req : GatewayGetLatestSnapshotRequest)

/-- The message that a unary call answers. -/
inductive RpcAnswer
  | opened (states : List TargetState)
  | caughtUp (results : List GatewayCatchUpResult)
  | modified (resp : ModifySubscriptionResponse)
  | acked (state : TargetState)
  | snapshot (resp : GatewayGetLatestSnapshotResponse)
  deriving DecidableEq, Repr

/-- What a client is sent: the frames of a stream, and the answer or the error at the end. -/
structure Transmitted where
  frames : List GatewaySubscribeResponse := []
  answer : Option (Except GoError RpcAnswer) := none
  deriving DecidableEq

/-- What a live stream has sent. -/
def Live.transmitted (σ : Live) : Transmitted where
  frames := σ.loop.log.reverse.filterMap LoopEvent.frame?
  answer := σ.status.map .error

/-- What a call meets. -/
structure World (Actor : Type) where
  /-- What the actor extractor answers. -/
  actor : Except GoError Actor
  hooks : Hooks Actor
  /-- What the storage answers when it is asked for the `n`-th time. -/
  answers : Nat → (β : Type) → StoreCall β → β
  /-- The registry when it is looked at. -/
  registry : Registry
  /-- The time at which a stream begins. -/
  now : Int
  /-- The steps of a stream. -/
  schedule : List (LiveLabel Actor)

namespace World

variable {Actor : Type} (w : World Actor)

/-- Run a program against the answers of the storage. -/
def run {α : Type} (p : Prog StoreCall α) : α := (Prog.run (oracle w.answers) p 0).1

/-- The answer of `ModifySubscription`. -/
def modifyAnswer (req : ModifySubscriptionRequest) : Except GoError ModifySubscriptionResponse :=
  (w.run (Server.modifySubscription w.hooks w.actor w.registry req)).1

/-- The answer of a unary call. -/
def answered {α : Type} (p : Prog StoreCall (Except GoError α)) (f : α → RpcAnswer) :
    Option Transmitted :=
  some { answer := some ((w.run p).map f) }

/-- What a call sends to its client; `none` where the schedule has a step that is not possible. -/
def sent (heartbeatEvery : Int) : Rpc → Option Transmitted
  | .open subscriberId targets =>
    w.answered (Server.open w.hooks w.actor subscriberId targets) .opened
  | .gatewayCatchUp req => w.answered (Server.gatewayCatchUp w.hooks w.actor req) .caughtUp
  | .gatewaySubscribe req =>
    match w.actor with
    | .error err => some { answer := some (.error (toStatusError err)) }
    | .ok actor =>
      match (w.registry.openStream req).1 with
      | .error err => some { answer := some (.error err) }
      | .ok _ =>
        ((liveStream actor req heartbeatEvery).run w.schedule (.start req w.now)).map
          Live.transmitted
  | .modifySubscription req => some { answer := some ((w.modifyAnswer req).map .modified) }
  | .gatewayAck req => w.answered (Server.gatewayAck w.hooks w.actor req) .acked
  | .gatewayGetLatestSnapshot req =>
    w.answered (Server.gatewayGetLatestSnapshot w.hooks w.actor req) .snapshot

end World

/-! ## Two worlds -/

/-- The status of an error does not depend on the text of an unclassified one. -/
theorem toStatusError_same {err err' : GoError} (h : err.SameButText err') :
    toStatusError err' = toStatusError err := by
  have hinternal : ∀ err : GoError, err.Unclassified →
      toStatusError err = statusError .internal "internal error" := by
    rintro ⟨wraps, status, message⟩ ⟨hstatus, hwraps⟩
    obtain rfl : status = none := hstatus
    obtain rfl : wraps = [] := hwraps
    rfl
  rcases h with rfl | ⟨hunclassified, hunclassified'⟩
  · rfl
  · rw [hinternal err hunclassified, hinternal err' hunclassified']

/-- The answers of the storage to one call, or a series of them. -/
abbrev AnswersAlike (answers answers' : (β : Type) → StoreCall β → β) : Prop :=
  ∀ β c, StoreCall.Alike GoError.SameButText β c (answers β c) (answers' β c)

/-- Steps that differ in the texts of unclassified errors of hooks and storage only. -/
inductive LiveLabel.Alike {Actor : Type} : LiveLabel Actor → LiveLabel Actor → Prop
  | modify (add remove : List SyncTarget) : Alike (.modify add remove) (.modify add remove)
  | takeWake : Alike .takeWake .takeWake
  | loop {hooks hooks' : Hooks Actor} {answers answers' : (β : Type) → StoreCall β → β}
      (hhooks : hooks.Alike GoError.SameButText hooks') (hanswers : AnswersAlike answers answers')
      (now : Int) : Alike (.loop hooks answers now) (.loop hooks' answers' now)
  | woken : Alike (.waited none) (.waited none)
  | waited {err err' : GoError} (h : err.SameButText err') :
      Alike (.waited (some err)) (.waited (some err'))
  | fail (err : GoError) : Alike (.fail err) (.fail err)

/-- A label is like itself. -/
theorem LiveLabel.alike_refl {Actor : Type} (l : LiveLabel Actor) : l.Alike l := by
  cases l with
  | modify add remove => exact .modify add remove
  | takeWake => exact .takeWake
  | loop hooks answers now =>
      exact .loop (.refl (fun _ => .inl rfl) hooks) (fun _ c => .refl (fun _ => .inl rfl) c _) now
  | waited err =>
      cases err with
      | none => exact .woken
      | some err => exact .waited (.inl rfl)
  | fail err => exact .fail err

/-- Worlds that differ in the texts of unclassified errors of hooks and storage only. -/
structure World.Alike {Actor : Type} (w w' : World Actor) : Prop where
  actor : ExceptRel GoError.SameButText Eq w.actor w'.actor
  hooks : w.hooks.Alike GoError.SameButText w'.hooks
  answers : ∀ n, AnswersAlike (w.answers n) (w'.answers n)
  registry : w'.registry = w.registry
  now : w'.now = w.now
  schedule : List.Forall₂ LiveLabel.Alike w.schedule w'.schedule

section Unary

variable {Actor : Type}

/-- Unary methods end with the same answer or the same status. -/
theorem unary_agree {actor actor' : Except GoError Actor}
    (hactor : ExceptRel GoError.SameButText Eq actor actor') {α : Type}
    {method method' : Actor → ServerProg α}
    (hmethod : ∀ a, EndAlike GoError.SameButText (method a) (method' a)) :
    Prog.Agree (StoreCall.Alike GoError.SameButText) Eq (unary actor method)
      (unary actor' method') := by
  unfold unary
  rcases hactor.cases with ⟨err, err', rfl, rfl, herr⟩ | ⟨a, _, rfl, rfl, rfl⟩
  · exact .ret (by rw [toStatusError_same herr])
  · refine Prog.Agree.bind (hmethod a) ?_
    rintro _ _ (herr | rfl)
    · exact .ret (by rw [toStatusError_same herr])
    · exact .ret rfl

/-- Worlds that are alike answer a program alike. -/
theorem World.Alike.answered {w w' : World Actor} (h : w.Alike w') {α : Type}
    {p p' : Prog StoreCall (Except GoError α)}
    (hp : Prog.Agree (StoreCall.Alike GoError.SameButText) Eq p p') (f : α → RpcAnswer) :
    w'.answered p' f = w.answered p f := by
  have hrun : w.run p = w'.run p' := hp.oracle h.answers
  unfold World.answered
  rw [hrun]

end Unary

/-! ### The live stream -/

/-- The loops stand at the same place; a poll that is under way ends alike. -/
inductive LoopPc.Alike : LoopPc → LoopPc → Prop
  | polling {p p' : Prog StoreCall (Except GoError (List GatewaySubscribeResponse))}
      (h : Prog.Agree (StoreCall.Alike GoError.SameButText)
        (ExceptRel GoError.SameButText Eq) p p') : Alike (.polling p) (.polling p')
  | same {pc : LoopPc} (h : ∀ p, pc ≠ .polling p) : Alike pc pc

/-- Two streams that differ in the texts of errors that a poll may still end with only. -/
structure Live.Alike (σ σ' : Live) : Prop where
  rest : σ' = { σ with loop := { σ.loop with pc := σ'.loop.pc } }
  pc : σ.loop.pc.Alike σ'.loop.pc

namespace Live.Alike

variable {σ σ' : Live}

/-- The same stream, not in a poll. -/
theorem refl (h : ∀ p, σ.loop.pc ≠ .polling p) : Live.Alike σ σ := ⟨rfl, .same h⟩

/-- Both streams are in a poll, or they are equal. -/
theorem cases (h : Live.Alike σ σ') :
    (∃ p p', σ.loop.pc = .polling p ∧ σ'.loop.pc = .polling p' ∧
      Prog.Agree (StoreCall.Alike GoError.SameButText) (ExceptRel GoError.SameButText Eq) p p') ∨
      (σ' = σ ∧ ∀ p, σ.loop.pc ≠ .polling p) := by
  have hpcs := h.pc
  generalize hp : σ.loop.pc = pc, hp' : σ'.loop.pc = pc' at hpcs
  rcases hpcs with hagree | hnot
  · exact .inl ⟨_, _, rfl, rfl, hagree⟩
  · refine .inr ⟨?_, hnot⟩
    rw [h.rest, hp', ← hp]

/-- What was sent is the same. -/
theorem transmitted (h : Live.Alike σ σ') : σ'.transmitted = σ.transmitted := by
  rw [h.rest]
  rfl

/-- They end with the same status. -/
theorem ends (h : Live.Alike σ σ') {err err' : GoError} (herr : err.SameButText err') :
    Live.Alike (σ.end err) (σ'.end err') := by
  have heq : σ'.end err' = σ.end err := by
    unfold Live.end
    rw [h.rest, toStatusError_same herr]
  rw [heq]
  exact refl nofun

end Live.Alike

/-- The beginning of an iteration. -/
theorem Live.Alike.begin {Actor : Type} {σ : Live} {hooks hooks' : Hooks Actor}
    (hhooks : hooks.Alike GoError.SameButText hooks') (actor : Actor)
    (req : GatewaySubscribeRequest) (heartbeatEvery now : Int) :
    Live.Alike { σ with loop := σ.loop.begin hooks actor req heartbeatEvery now }
      { σ with loop := σ.loop.begin hooks' actor req heartbeatEvery now } := by
  unfold Loop.begin
  simp only
  split_ifs
  · exact refl nofun
  · exact ⟨rfl, .polling (gatewaySubscribePoll_agree textBlind_sameButText hhooks actor _)⟩

/-- A step of a poll, or its end. -/
theorem liveStream_polling {Actor : Type} {actor : Actor} {req : GatewaySubscribeRequest}
    {heartbeatEvery : Int} {hooks hooks' : Hooks Actor}
    {answers answers' : (β : Type) → StoreCall β → β} (hanswers : AnswersAlike answers answers')
    (now : Int) {σ σ' : Live} (h : Live.Alike σ σ')
    {p p' : Prog StoreCall (Except GoError (List GatewaySubscribeResponse))}
    (hpc : σ.loop.pc = .polling p) (hpc' : σ'.loop.pc = .polling p')
    (hagree : Prog.Agree (StoreCall.Alike GoError.SameButText)
      (ExceptRel GoError.SameButText Eq) p p') :
    Option.Rel Live.Alike
      ((liveStream actor req heartbeatEvery).step (.loop hooks answers now) σ)
      ((liveStream actor req heartbeatEvery).step (.loop hooks' answers' now) σ') := by
  unfold liveStream
  simp only [hpc, hpc']
  have hwith : ∀ {pc pc' : LoopPc}, pc.Alike pc' →
      Live.Alike { σ with loop := { σ.loop with pc } }
        { σ' with loop := { σ'.loop with pc := pc' } } := by
    intro pc pc' hpcs
    refine ⟨?_, hpcs⟩
    rw [h.rest]
  cases hagree with
  | ret hr =>
      rcases hr with herr | rfl
      · exact .some (h.ends herr)
      · exact .some (hwith (.same nofun))
  | call hrest => exact .some (hwith (.polling (hrest _ _ (hanswers _ _))))

/-- A step of the loop outside a poll. -/
theorem liveStream_outside {Actor : Type} {actor : Actor} {req : GatewaySubscribeRequest}
    {heartbeatEvery : Int} {hooks hooks' : Hooks Actor}
    (hhooks : hooks.Alike GoError.SameButText hooks')
    (answers answers' : (β : Type) → StoreCall β → β) (now : Int) {σ : Live}
    (hpc : ∀ p, σ.loop.pc ≠ .polling p) :
    Option.Rel Live.Alike
      ((liveStream actor req heartbeatEvery).step (.loop hooks answers now) σ)
      ((liveStream actor req heartbeatEvery).step (.loop hooks' answers' now) σ) := by
  unfold liveStream
  simp only
  split
  · exact .some (.begin hhooks actor req heartbeatEvery now)
  · exact absurd ‹_› (hpc _)
  · exact absurd ‹_› (hpc _)
  · exact absurd ‹_› (hpc _)
  · refine .some (.refl ?_)
    intro p
    unfold Loop.respond
    simp only
    split <;> simp
  · exact .some (.refl (Loop.finish_pc _ heartbeatEvery now _ _ _).1)
  all_goals exact .none

/-- A wait that returns: whether its error is swallowed does not depend on the text. -/
theorem liveStream_waited {Actor : Type} {actor : Actor} {req : GatewaySubscribeRequest}
    {heartbeatEvery : Int} (err err' : Option GoError)
    (herr : Option.Rel GoError.SameButText err err') {σ σ' : Live} (h : Live.Alike σ σ') :
    Option.Rel Live.Alike ((liveStream actor req heartbeatEvery).step (.waited err) σ)
      ((liveStream actor req heartbeatEvery).step (.waited err') σ') := by
  unfold liveStream
  rcases h.cases with ⟨p, p', hp, hp', -⟩ | ⟨rfl, -⟩
  · simp only [hp, hp']
    cases herr <;> exact .none
  · have hends : ∀ {e e' : GoError}, e.SameButText e' → Live.Alike (σ'.end e) (σ'.end e') :=
      fun he => h.ends he
    cases herr with
    | none =>
        simp only
        cases σ'.loop.pc with
        | sleeping | watching => exact .some (.refl nofun)
        | top | polling | responding | ended => exact .none
    | some he =>
        simp only
        cases σ'.loop.pc with
        | watching =>
            simp only [textBlind_sameButText.is_eq he]
            split_ifs
            · exact .some (.refl nofun)
            · exact .some (hends he)
        | sleeping | top | polling | responding | ended => exact .none

/-- What one step keeps. -/
theorem liveStream_step {Actor : Type} (actor : Actor) (req : GatewaySubscribeRequest)
    (heartbeatEvery : Int) (l l' : LiveLabel Actor) (σ σ' : Live) (hl : l.Alike l')
    (h : Live.Alike σ σ') :
    Option.Rel Live.Alike ((liveStream actor req heartbeatEvery).step l σ)
      ((liveStream actor req heartbeatEvery).step l' σ') := by
  cases hl with
  | modify add remove =>
      refine .some ⟨?_, h.pc⟩
      rw [h.rest]
  | takeWake =>
      unfold liveStream
      have hwake : σ'.loop.sub = σ.loop.sub := by rw [h.rest]
      simp only [hwake]
      split_ifs
      · refine .some ⟨?_, h.pc⟩
        rw [h.rest]
      · exact .none
  | loop hhooks hanswers now =>
      rcases h.cases with ⟨p, p', hp, hp', hagree⟩ | ⟨rfl, hnot⟩
      · exact liveStream_polling hanswers now h hp hp' hagree
      · exact liveStream_outside hhooks _ _ now hnot
  | woken => exact liveStream_waited none none .none h
  | waited herr => exact liveStream_waited _ _ (.some herr) h
  | fail err =>
      have hends : Live.Alike (σ.end err) (σ'.end err) := h.ends (.inl rfl)
      unfold liveStream
      simp only
      rcases h.cases with ⟨p, p', hp, hp', -⟩ | ⟨rfl, -⟩
      · rw [hp, hp']
        exact .some hends
      · split
        · exact .none
        · exact .some hends

/-- What a live stream sends does not depend on the texts. -/
theorem liveStream_transmitted {Actor : Type} (actor : Actor) (req : GatewaySubscribeRequest)
    (heartbeatEvery now : Int) {ls ls' : List (LiveLabel Actor)}
    (hls : List.Forall₂ LiveLabel.Alike ls ls') :
    ((liveStream actor req heartbeatEvery).run ls' (.start req now)).map Live.transmitted =
      ((liveStream actor req heartbeatEvery).run ls (.start req now)).map Live.transmitted := by
  have hstart : Live.Alike (.start req now) (.start req now) := .refl nofun
  have hrun := Machine.run_rel (liveStream_step actor req heartbeatEvery) hls hstart
  generalize (liveStream actor req heartbeatEvery).run ls (.start req now) = σ,
    (liveStream actor req heartbeatEvery).run ls' (.start req now) = σ' at hrun
  cases hrun with
  | some h => exact congrArg some h.transmitted
  | none => rfl

/-! ### Modifications -/

/-- There is an active stream of the subscriber that the request names. -/
def Owned (reg : Registry) (req : ModifySubscriptionRequest) : Prop :=
  ∃ ref sub, reg.lookupSub req.subscriptionId = some ref ∧ reg.heap.lookup ref = some sub ∧
    sub.subscriberID = req.subscriberId

section Modify

variable {reg : Registry} {req : ModifySubscriptionRequest}

/-- The owner's change is answered with what was added and what was rejected. -/
theorem modifySubscription_owned (hid : req.subscriptionId ≠ "") (howned : Owned reg req)
    (added : List TargetState) (rejected : List TargetRejection) :
    (reg.modifySubscription req (.ok (added, rejected))).1 = .ok { added, rejected } := by
  obtain ⟨ref, sub, href, hsub, hsubscriber⟩ := howned
  have hfound : ((reg.lookupSub req.subscriptionId).bind fun ref =>
      (reg.heap.lookup ref).map fun sub => (ref, sub)) = some (ref, sub) := by simp [href, hsub]
  unfold Registry.modifySubscription
  rw [if_neg hid]
  simp only [hfound]
  rw [if_neg (fun hne => hne hsubscriber)]

/-- Anyone else's change is answered as if there were no such subscription. -/
theorem modifySubscription_refused (hid : req.subscriptionId ≠ "") (howned : ¬ Owned reg req)
    (added : List TargetState) (rejected : List TargetRejection) :
    (reg.modifySubscription req (.ok (added, rejected))).1 = .error Registry.errNoSubscription := by
  unfold Registry.modifySubscription
  rw [if_neg hid]
  simp only
  split
  · rfl
  · rename_i ref sub hfound
    obtain ⟨ref', href, hmap⟩ := Option.bind_eq_some_iff.mp hfound
    obtain ⟨sub', hsub, heq⟩ := Option.map_eq_some_iff.mp hmap
    cases heq
    rw [if_pos fun hsubscriber => howned ⟨ref, sub, href, hsub, hsubscriber⟩]

variable {Actor : Type}

/-- How the resolutions of the added targets end. -/
def World.ended (w : World Actor) (actor : Actor) (subscriberID : SubscriberID)
    (req : ModifySubscriptionRequest) : List Attempt :=
  w.run (attempts w.hooks actor subscriberID req.addTargets)

/-- What `ResolveSubscribeTargets` returns. -/
theorem World.run_resolveSubscribeTargets (w : World Actor) (actor : Actor)
    (req : ModifySubscriptionRequest) :
    w.run (resolveSubscribeTargets w.hooks actor req.subscriberId req.addTargets).run =
      match resolveSubscriber w.hooks actor req.subscriberId with
      | .error err => .error err
      | .ok subscriberID =>
        .ok (acceptedStates (w.ended actor subscriberID req),
          rejections (w.ended actor subscriberID req)) := by
  unfold World.run resolveSubscribeTargets
  rw [Prog.run_ofExcept_bindE]
  cases resolveSubscriber w.hooks actor req.subscriberId with
  | error err => rfl
  | ok subscriberID =>
      show (Prog.run (oracle w.answers)
        (resolveSubscribeEach w.hooks actor subscriberID req.addTargets >>= fun a =>
          pure (Except.ok a)) 0).1 = _
      rw [Prog.run_bind, run_resolveSubscribeEach_attempts]
      rfl

/-- A change is answered from the registry, once its targets are resolved. -/
theorem World.modifyAnswer_eq (w : World Actor) {actor : Actor} (hactor : w.actor = .ok actor)
    (hid : req.subscriptionId ≠ "") :
    w.modifyAnswer req = (w.registry.modifySubscription req
      (w.run (resolveSubscribeTargets w.hooks actor req.subscriberId req.addTargets).run)).1 := by
  unfold World.modifyAnswer Server.modifySubscription
  rw [hactor]
  simp only
  rw [if_neg hid]
  unfold World.run
  rw [Prog.run_bind]
  rfl

end Modify

/-! ## What the texts may change -/

/-- The answer of a modification shows the text of an unclassified error: the call is answered, and
the resolution of an added target has ended with such an error. -/
def World.Exposes {Actor : Type} (w : World Actor) : Rpc → Prop
  | .modifySubscription req => ∃ actor subscriberID target err, w.actor = .ok actor ∧
      req.subscriptionId ≠ "" ∧
      resolveSubscriber w.hooks actor req.subscriberId = .ok subscriberID ∧
      Owned w.registry req ∧ (target, .error err) ∈ w.ended actor subscriberID req ∧
      err.Unclassified
  | _ => False

namespace World

variable {Actor : Type} {w w' : World Actor} {req : ModifySubscriptionRequest}

/-- The storage and the hooks end the resolutions alike. -/
theorem Alike.ended (h : w.Alike w') (actor : Actor) (subscriberID : SubscriberID)
    (req : ModifySubscriptionRequest) :
    List.Forall₂ (AttemptRel GoError.SameButText) (w.ended actor subscriberID req)
      (w'.ended actor subscriberID req) :=
  (attempts_agree actor textBlind_sameButText h.hooks subscriberID req.addTargets).oracle h.answers

/-- A modification that shows no text is answered the same. -/
theorem Alike.modifyAnswer (h : w.Alike w') (hexposes : ¬ w.Exposes (.modifySubscription req)) :
    w'.modifyAnswer req = w.modifyAnswer req := by
  rcases h.actor.cases with ⟨err, err', hactor, hactor', herr⟩ | ⟨actor, _, hactor, hactor', rfl⟩
  · unfold World.modifyAnswer Server.modifySubscription
    rw [hactor, hactor']
    exact congrArg Except.error (toStatusError_same herr)
  by_cases hid : req.subscriptionId = ""
  · unfold World.modifyAnswer Server.modifySubscription
    rw [hactor, hactor']
    simp only
    rw [if_pos hid, if_pos hid]
    rfl
  rw [modifyAnswer_eq w hactor hid, modifyAnswer_eq w' hactor' hid, h.registry,
    run_resolveSubscribeTargets, run_resolveSubscribeTargets]
  rcases (resolveSubscriber_alike textBlind_sameButText h.hooks actor req.subscriberId).cases with
    ⟨err, err', hsub, hsub', herr⟩ | ⟨subscriberID, _, hsub, hsub', rfl⟩
  · simp only [hsub, hsub', Registry.modifySubscription, if_neg hid, toStatusError_same herr]
  · simp only [hsub, hsub']
    have hended := h.ended actor subscriberID req
    by_cases howned : Owned w.registry req
    · rw [modifySubscription_owned hid howned, modifySubscription_owned hid howned,
        acceptedStates_alike hended, rejections_same hended]
      intro target err hmem hunclassified
      exact hexposes ⟨actor, subscriberID, target, err, hactor, hid, hsub, howned, hmem,
        hunclassified⟩
    · rw [modifySubscription_refused hid howned, modifySubscription_refused hid howned]

/-- The world with other texts. -/
def retext (w : World Actor) : World Actor :=
  { w with
    hooks := w.hooks.retext
    answers := fun n β c => retextAnswer β c (w.answers n β c) }

/-- A world in which the texts are exchanged is like the world. -/
theorem alike_retext (w : World Actor) : w.Alike w.retext where
  actor := .refl (fun _ => .inl rfl) _
  hooks := w.hooks.alike_retext.imp textBlind_retexted.same
  answers n β c := (alike_retextAnswer β c (w.answers n β c)).imp textBlind_retexted.same
  registry := rfl
  now := rfl
  schedule := List.forall₂_same.mpr fun l _ => LiveLabel.alike_refl l

/-- An answer that shows a text changes with it. -/
theorem modifyAnswer_retext_ne (hexposes : w.Exposes (.modifySubscription req)) :
    w.retext.modifyAnswer req ≠ w.modifyAnswer req := by
  obtain ⟨actor, subscriberID, target, err, hactor, hid, hsub, howned, hmem, hunclassified⟩ :=
    hexposes
  have hactor' : w.retext.actor = .ok actor := hactor
  have hsub' : resolveSubscriber w.retext.hooks actor req.subscriberId = .ok subscriberID := by
    rcases (resolveSubscriber_alike textBlind_retexted w.hooks.alike_retext actor
        req.subscriberId).cases with ⟨_, _, herr, -, -⟩ | ⟨_, _, hok, hok', rfl⟩
    · rw [hsub] at herr
      cases herr
    · rw [hsub] at hok
      cases hok
      exact hok'
  have hended : List.Forall₂ (AttemptRel Retexted) (w.ended actor subscriberID req)
      (w.retext.ended actor subscriberID req) :=
    (attempts_agree actor textBlind_retexted w.hooks.alike_retext subscriberID
      req.addTargets).oracle fun n β c => alike_retextAnswer β c (w.answers n β c)
  rw [modifyAnswer_eq w hactor hid, modifyAnswer_eq w.retext hactor' hid,
    run_resolveSubscribeTargets, run_resolveSubscribeTargets]
  simp only [hsub, hsub']
  have howned' : Owned w.retext.registry req := howned
  rw [modifySubscription_owned hid howned, modifySubscription_owned hid howned']
  intro heq
  have hrejected := congrArg ModifySubscriptionResponse.rejected (Except.ok.inj heq)
  exact rejections_retexted hended hrejected target err hmem hunclassified

end World

/-- Answers to changes are equal when what they carry is. -/
theorem map_modified_inj {r r' : Except GoError ModifySubscriptionResponse}
    (h : r.map RpcAnswer.modified = r'.map RpcAnswer.modified) : r = r' := by
  cases r <;> cases r' <;> cases h <;> rfl

/-- **Where the texts of internal errors stay inside.** What a call sends, frames and rejections
included, is the same in every world that differs in the texts of unclassified errors only, unless
the call is a modification that is answered with the rejection of a target whose resolution has
ended with such an error. -/
theorem texts_stay_inside_iff {Actor : Type} (w : World Actor) (heartbeatEvery : Int) (rpc : Rpc) :
    (∀ w' : World Actor, w.Alike w' → w'.sent heartbeatEvery rpc = w.sent heartbeatEvery rpc) ↔
      ¬ w.Exposes rpc := by
  constructor
  · intro hsame hexposes
    cases rpc with
    | modifySubscription req =>
        have heq : (w.retext.modifyAnswer req).map RpcAnswer.modified =
            (w.modifyAnswer req).map .modified :=
          Option.some.inj (congrArg Transmitted.answer
            (Option.some.inj (hsame w.retext w.alike_retext)))
        exact World.modifyAnswer_retext_ne hexposes (map_modified_inj heq)
    | _ => exact hexposes
  · intro hexposes w' h
    cases rpc with
    | «open» subscriberId targets =>
        exact h.answered (unary_agree h.actor fun a =>
          open_agree textBlind_sameButText h.hooks a subscriberId targets) _
    | gatewayCatchUp req =>
        exact h.answered (unary_agree h.actor fun a =>
          gatewayCatchUp_agree textBlind_sameButText h.hooks a req) _
    | gatewayAck req =>
        exact h.answered (unary_agree h.actor fun a =>
          gatewayAck_agree textBlind_sameButText h.hooks a req) _
    | gatewayGetLatestSnapshot req =>
        exact h.answered (unary_agree h.actor fun a =>
          gatewayGetLatestSnapshot_agree textBlind_sameButText h.hooks a req) _
    | modifySubscription req =>
        simp only [World.sent, h.modifyAnswer hexposes]
    | gatewaySubscribe req =>
        unfold World.sent
        rcases h.actor.cases with ⟨err, err', hactor, hactor', herr⟩ | ⟨a, _, hactor, hactor', rfl⟩
        · simp only [hactor, hactor', toStatusError_same herr]
        · simp only [hactor, hactor', h.registry, h.now]
          split
          · rfl
          · exact liveStream_transmitted a req heartbeatEvery w.now h.schedule

/-! ## A rejection that shows a text -/

/-- `alice` adds a target to her stream, and the resolver fails with the text. -/
def failingWorld (text : String) : World String where
  actor := .ok "alice"
  hooks := { perActorHooks with resolveTarget := fun _ _ => .error { message := text } }
  answers _ _ c := (Memory.handler 0 _ c newStore).1
  registry := aliceStreams.registry
  now := 0
  schedule := []

/-- The modification of `alice`. -/
def aliceAdds : ModifySubscriptionRequest where
  subscriberId := "device"
  subscriptionId := "tab"
  addTargets := [{ ns := "n", id := "b" }]

/-- Two worlds that differ in the text of an error are alike. -/
theorem failingWorld_alike (text text' : String) :
    (failingWorld text).Alike (failingWorld text') where
  actor := .ok rfl
  hooks :=
    { resolveSubscriber := fun _ _ => .ok rfl
      resolveTarget := fun _ _ => .error (.inr ⟨⟨rfl, rfl⟩, rfl, rfl⟩)
      authorize := fun _ => .ok rfl
      allowPayload := fun _ _ _ => .ok rfl
      allowSnapshot := fun _ _ _ => .ok rfl
      canDecode := rfl }
  answers _ _ c := .refl (fun _ => .inl rfl) c _
  registry := rfl
  now := rfl
  schedule := .nil

/-- The client is shown which host the resolver could not reach. -/
theorem rejection_shows_text :
    (failingWorld "dial tcp 10.0.0.5:5432: connection refused").Alike
        (failingWorld "dial tcp 10.0.0.6:5432: connection refused") ∧
      (failingWorld "dial tcp 10.0.0.5:5432: connection refused").sent 1
          (.modifySubscription aliceAdds) =
        some { answer := some (.ok (.modified
          { rejected := [{ target := { ns := "n", id := "b" }, code := "INTERNAL",
                           message := "dial tcp 10.0.0.5:5432: connection refused" }] })) } ∧
      (failingWorld "dial tcp 10.0.0.6:5432: connection refused").sent 1
          (.modifySubscription aliceAdds) ≠
        (failingWorld "dial tcp 10.0.0.5:5432: connection refused").sent 1
          (.modifySubscription aliceAdds) :=
  ⟨failingWorld_alike _ _, by decide, by decide⟩

end Synclog.Transport
