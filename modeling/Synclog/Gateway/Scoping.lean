import Synclog.Gateway.Registry

/-!
# Whose subscription id it is

`GatewaySubscribeRequest.subscription_id` is to be unique among the active streams of one
subscriber. The registry of `pkg/gateway/transport/grpc/server.go` is keyed by the id alone.

* `Registry.locate`, `Registry.applyAt` — the two critical sections of `ModifySubscription`;
  `Registry.modifySubscription_eq` composes them.
* `sessions` — the registry as a machine: streams are opened and end, and modifications find a
  stream and change its set, in any order.
* `SessionsInv` — a registered id belongs to one active stream, and each of them is registered.
* `ids_scoped_iff` — a run keeps the ids of the subscribers apart exactly when no id is used by two
  of them at once.
-/

namespace Synclog.Gateway

open Synclog.Lib Synclog.Core

/-! ## A modification in two steps -/

namespace Registry

/-- The stream that a modification is for, with the targets that were accepted and rejected.
Source: `server.go`, `Server.ModifySubscription`, up to the check of the owner. -/
def locate (reg : Registry) (req : ModifySubscriptionRequest)
    (resolved : Except GoError (List TargetState × List TargetRejection)) :
    Except GoError (Nat × List TargetState × List TargetRejection) :=
  if req.subscriptionId = "" then
    .error (statusError .invalidArgument "subscription_id is required")
  else
    match resolved with
    | .error err => .error (toStatusError err)
    | .ok (added, rejected) =>
      match (reg.lookupSub req.subscriptionId).bind fun ref =>
          (reg.heap.lookup ref).map fun sub => (ref, sub) with
      | none => .error errNoSubscription
      | some (ref, sub) =>
        if sub.subscriberID ≠ req.subscriberId then .error errNoSubscription
        else .ok (ref, added, rejected)

/-- The set that a reference leads to is changed.
Source: `server.go`, `Server.ModifySubscription`, the call of `liveSub.apply`. -/
def applyAt (reg : Registry) (ref : Nat) (add remove : List SyncTarget) : Registry :=
  match reg.heap.lookup ref with
  | none => reg
  | some sub => { reg with heap := reg.heap.insert ref (sub.apply add remove) }

/-- Without anything in between, the two steps are the RPC. -/
theorem modifySubscription_eq (reg : Registry) (req : ModifySubscriptionRequest)
    (resolved : Except GoError (List TargetState × List TargetRejection)) :
    reg.modifySubscription req resolved =
      match reg.locate req resolved with
      | .error err => (.error err, reg)
      | .ok (ref, added, rejected) =>
        (.ok { added, rejected }, reg.applyAt ref (added.map (·.target)) req.removeTargets) := by
  unfold modifySubscription locate
  by_cases hid : req.subscriptionId = ""
  · simp only [if_pos hid]
  · simp only [if_neg hid]
    rcases resolved with err | ⟨added, rejected⟩
    · rfl
    · simp only
      rcases hfound : (reg.lookupSub req.subscriptionId).bind fun ref =>
        (reg.heap.lookup ref).map fun sub => (ref, sub) with _ | ⟨ref, sub⟩
      · rfl
      · simp only
        obtain ⟨ref', -, hmap⟩ := Option.bind_eq_some_iff.mp hfound
        obtain ⟨sub', hsub, heq⟩ := Option.map_eq_some_iff.mp hmap
        cases heq
        by_cases howner : sub.subscriberID ≠ req.subscriberId
        · simp only [if_pos howner]
        · simp only [if_neg howner, applyAt, hsub]

/-- What a modification finds: the stream registered for its id, when the subscriber that the stream
was opened for is the one that the request names. -/
theorem locate_ok_iff {reg : Registry} {req : ModifySubscriptionRequest}
    {resolved : Except GoError (List TargetState × List TargetRejection)} {ref : Nat}
    {added : List TargetState} {rejected : List TargetRejection} :
    reg.locate req resolved = .ok (ref, added, rejected) ↔
      req.subscriptionId ≠ "" ∧ resolved = .ok (added, rejected) ∧
        reg.subs.lookup req.subscriptionId = some ref ∧
        ∃ sub, reg.heap.lookup ref = some sub ∧ sub.subscriberID = req.subscriberId := by
  unfold locate lookupSub
  constructor
  · intro h
    split_ifs at h with hid
    split at h
    · cases h
    · rename_i added' rejected'
      split at h
      · cases h
      · rename_i ref' sub hfound
        split_ifs at h with howner
        cases h
        obtain ⟨ref'', hlookup, hmap⟩ := Option.bind_eq_some_iff.mp hfound
        obtain ⟨sub', hsub, heq⟩ := Option.map_eq_some_iff.mp hmap
        cases heq
        exact ⟨hid, rfl, hlookup, sub, hsub, not_not.mp howner⟩
  · rintro ⟨hid, rfl, hlookup, sub, hsub, howner⟩
    simp [hid, hlookup, hsub, howner]

/-- Only the set that the pointer leads to is changed. -/
theorem applyAt_subs (reg : Registry) (ref : Nat) (add remove : List SyncTarget) :
    (reg.applyAt ref add remove).subs = reg.subs ∧
      (reg.applyAt ref add remove).made = reg.made := by
  unfold applyAt
  split
  · exact ⟨rfl, rfl⟩
  · exact ⟨rfl, rfl⟩

/-- A change of one set leaves the others alone. -/
theorem applyAt_of_ne (reg : Registry) {ref ref' : Nat} (hne : ref' ≠ ref)
    (add remove : List SyncTarget) :
    (reg.applyAt ref add remove).heap.lookup ref' = reg.heap.lookup ref' := by
  unfold applyAt
  split
  · rfl
  · rw [FinMap.lookup_insert_eq_ite, if_neg hne]

/-- A change of a set leaves its owner as it was. -/
theorem applyAt_owner {reg : Registry} {ref' : Nat} {sub : LiveSub}
    (hsub : reg.heap.lookup ref' = some sub) (ref : Nat) (add remove : List SyncTarget) :
    ∃ sub', (reg.applyAt ref add remove).heap.lookup ref' = some sub' ∧
      sub'.subscriberID = sub.subscriberID := by
  rcases eq_or_ne ref' ref with rfl | hne
  · unfold applyAt
    simp only [hsub, FinMap.lookup_insert_eq_ite]
    exact ⟨_, rfl, rfl⟩
  · exact ⟨sub, (reg.applyAt_of_ne hne add remove).trans hsub, rfl⟩

/-- The end of a stream takes its own registration away and no other. -/
theorem lookup_closeStream (reg : Registry) (req : GatewaySubscribeRequest) (ref : Nat)
    (id : String) (ref' : Nat) :
    (reg.closeStream req ref).subs.lookup id = some ref' ↔
      reg.subs.lookup id = some ref' ∧
        ¬ (req.subscriptionId ≠ "" ∧ id = req.subscriptionId ∧ ref' = ref) := by
  unfold closeStream unregisterSub
  by_cases hid : req.subscriptionId = ""
  · simp [hid]
  · by_cases hown : reg.subs.lookup req.subscriptionId = some ref
    · simp only [ne_eq, hid, not_false_eq_true, if_true, if_pos hown, true_and,
        FinMap.lookup_erase_eq_ite]
      by_cases heq : id = req.subscriptionId
      · subst heq
        simp [hown, eq_comm]
      · simp [heq]
    · simp only [ne_eq, hid, not_false_eq_true, if_true, if_neg hown, true_and]
      constructor
      · intro h
        refine ⟨h, ?_⟩
        rintro ⟨rfl, rfl⟩
        exact hown h
      · exact fun h => h.1

end Registry

/-! ## The machine -/

variable {Actor : Type}

/-- A stream with the actor and the request that opened it; it is active until its handler has
returned, the deferred `unregisterSub` included. -/
structure Session (Actor : Type) where
  actor : Actor
  req : GatewaySubscribeRequest
  active : Bool := true

/-- A modification that has found its stream and has not changed its set yet. -/
structure Located (Actor : Type) where
  actor : Actor
  req : ModifySubscriptionRequest
  added : List TargetState
  ref : Nat

/-- The registry, with the streams there were and the modifications under way. -/
structure Sessions (Actor : Type) where
  registry : Registry := {}
  streams : FinMap Nat (Session Actor) := ∅
  located : List (Located Actor) := []

/-- What happens next: a stream is opened or ends; a modification, with whatever its resolution has
answered, looks for its stream; or one that has found its stream changes its set. -/
inductive SessionEvent (Actor : Type)
  | opens (actor : Actor) (req : GatewaySubscribeRequest)
  | ends (ref : Nat)
  | locates (actor : Actor) (req : ModifySubscriptionRequest)
      (resolved : Except GoError (List TargetState × List TargetRejection))
  | applies (n : Nat)

/-- A stream that is refused ends at once; a modification that finds no stream of its subscriber
changes nothing. -/
def sessions : Machine (Sessions Actor) (SessionEvent Actor) where
  step
    | .opens actor req, σ =>
      match σ.registry.openStream req with
      | (.error _, registry) => some { σ with registry }
      | (.ok ref, registry) =>
        some { σ with registry, streams := σ.streams.insert ref { actor, req } }
    | .ends ref, σ =>
      match σ.streams.lookup ref with
      | none => none
      | some stream =>
        if stream.active then
          some { σ with
            registry := σ.registry.closeStream stream.req ref
            streams := σ.streams.insert ref { stream with active := false } }
        else none
    | .locates actor req resolved, σ =>
      match σ.registry.locate req resolved with
      | .error _ => some σ
      | .ok (ref, added, _) => some { σ with located := { actor, req, added, ref } :: σ.located }
    | .applies n, σ =>
      match σ.located[n]? with
      | none => none
      | some m => some { σ with
          registry := σ.registry.applyAt m.ref (m.added.map (·.target)) m.req.removeTargets
          located := σ.located.eraseIdx n }

namespace Sessions

/-- An active stream with this subscription id. -/
def Uses (σ : Sessions Actor) (id : String) (ref : Nat) (stream : Session Actor) : Prop :=
  σ.streams.lookup ref = some stream ∧ stream.active = true ∧ stream.req.subscriptionId = id

end Sessions

/-! ## What every run keeps -/

/-- A registered id is that of one active stream, and each of them is registered; the set of a
stream carries the subscriber id it was opened for; a modification under way has found a stream with
the id and for the subscriber that its request names. -/
structure SessionsInv (σ : Sessions Actor) : Prop where
  fresh : ∀ ref stream, σ.streams.lookup ref = some stream → ref < σ.registry.made
  heap : ∀ ref stream, σ.streams.lookup ref = some stream →
    ∃ sub, σ.registry.heap.lookup ref = some sub ∧ sub.subscriberID = stream.req.subscriberId
  registered : ∀ id ref, σ.registry.subs.lookup id = some ref ↔
    id ≠ "" ∧ ∃ stream, σ.Uses id ref stream
  located : ∀ m ∈ σ.located, ∃ stream, σ.streams.lookup m.ref = some stream ∧
    stream.req.subscriptionId = m.req.subscriptionId ∧
    stream.req.subscriberId = m.req.subscriberId

/-- Before the first session nothing is registered. -/
theorem sessionsInv_empty : SessionsInv ({} : Sessions Actor) where
  fresh ref stream h := by simp at h
  heap ref stream h := by simp at h
  registered id ref := by simp [Sessions.Uses]
  located m h := by cases h

namespace SessionsInv

variable {σ : Sessions Actor}

/-- An id that is not empty is used by one active stream at most. -/
theorem uses_unique (h : SessionsInv σ) {id : String} (hid : id ≠ "") {ref ref' : Nat}
    {stream stream' : Session Actor} (huses : σ.Uses id ref stream)
    (huses' : σ.Uses id ref' stream') : ref = ref' ∧ stream = stream' := by
  have hlookup := (h.registered id ref).mpr ⟨hid, stream, huses⟩
  have hlookup' := (h.registered id ref').mpr ⟨hid, stream', huses'⟩
  obtain rfl := Option.some.inj (hlookup.symm.trans hlookup')
  exact ⟨rfl, Option.some.inj (huses.1.symm.trans huses'.1)⟩

/-- Making a set leaves the streams as they were. -/
theorem allocate (h : SessionsInv σ) (sub : LiveSub) :
    SessionsInv { σ with registry := (σ.registry.allocate sub).2 } where
  fresh ref stream hlookup := (h.fresh ref stream hlookup).trans (Nat.lt_succ_self _)
  heap := by
    intro ref stream hlookup
    have hne : ref ≠ σ.registry.made := (h.fresh ref stream hlookup).ne
    simp only [Registry.allocate, FinMap.lookup_insert_eq_ite, if_neg hne]
    exact h.heap ref stream hlookup
  registered := h.registered
  located := h.located

/-- A stream that begins with a new set, under no id or under a free one. -/
theorem opened (h : SessionsInv σ) (actor : Actor) (req : GatewaySubscribeRequest)
    {subs : FinMap String Nat}
    (hsubs : req.subscriptionId = "" ∧ subs = σ.registry.subs ∨
      req.subscriptionId ≠ "" ∧ σ.registry.subs.lookup req.subscriptionId = none ∧
        subs = σ.registry.subs.insert req.subscriptionId σ.registry.made) :
    SessionsInv { σ with
      registry := { (σ.registry.allocate (.new req.subscriberId req.targets)).2 with subs }
      streams := σ.streams.insert σ.registry.made { actor, req } } := by
  have hold := h.allocate (.new req.subscriberId req.targets)
  have hne : ∀ {ref stream}, σ.streams.lookup ref = some stream → ref ≠ σ.registry.made :=
    fun hlookup => (h.fresh _ _ hlookup).ne
  refine ⟨?_, ?_, ?_, ?_⟩
  · intro ref stream hlookup
    simp only [FinMap.lookup_insert_eq_ite] at hlookup
    split_ifs at hlookup with heq
    · cases hlookup
      rw [heq]
      exact Nat.lt_succ_self _
    · exact hold.fresh ref stream hlookup
  · intro ref stream hlookup
    simp only [FinMap.lookup_insert_eq_ite] at hlookup
    split_ifs at hlookup with heq
    · cases hlookup
      refine ⟨.new req.subscriberId req.targets, ?_, rfl⟩
      rw [heq]
      simp [Registry.allocate]
    · exact hold.heap ref stream hlookup
  · intro id ref
    unfold Sessions.Uses
    simp only [FinMap.lookup_insert_eq_ite]
    rcases eq_or_ne ref σ.registry.made with rfl | hmade
    · have hnone : ∀ id, σ.registry.subs.lookup id ≠ some σ.registry.made := by
        intro id hlookup
        obtain ⟨-, stream, huses⟩ := (h.registered _ _).mp hlookup
        exact hne huses.1 rfl
      simp only [if_true, Option.some.injEq]
      rcases hsubs with ⟨hempty, rfl⟩ | ⟨hid, -, rfl⟩
      · refine iff_of_false (hnone id) ?_
        rintro ⟨hid, stream, rfl, -, rfl⟩
        exact hid hempty
      · rw [FinMap.lookup_insert_eq_ite]
        split_ifs with heq
        · exact iff_of_true rfl ⟨heq ▸ hid, _, rfl, rfl, heq.symm⟩
        · refine iff_of_false (hnone id) ?_
          rintro ⟨-, stream, rfl, -, rfl⟩
          exact heq rfl
    · rw [if_neg hmade]
      rcases hsubs with ⟨-, rfl⟩ | ⟨hid, hfree, rfl⟩
      · exact h.registered id ref
      · rw [FinMap.lookup_insert_eq_ite]
        split_ifs with heq
        · subst heq
          have hunused := h.registered req.subscriptionId ref
          rw [hfree] at hunused
          simp only [reduceCtorEq, false_iff] at hunused
          simp only [Option.some.injEq, hmade.symm, false_iff]
          exact hunused
        · exact h.registered id ref
  · intro m hm
    obtain ⟨stream, hlookup, hid, hsub⟩ := h.located m hm
    refine ⟨stream, ?_, hid, hsub⟩
    simp only [FinMap.lookup_insert_eq_ite, if_neg (hne hlookup)]
    exact hlookup

/-- A stream that ends. -/
theorem ended (h : SessionsInv σ) {ref : Nat} {stream : Session Actor}
    (hlookup : σ.streams.lookup ref = some stream) :
    SessionsInv { σ with
      registry := σ.registry.closeStream stream.req ref
      streams := σ.streams.insert ref { stream with active := false } } := by
  have hframe : (σ.registry.closeStream stream.req ref).heap = σ.registry.heap ∧
      (σ.registry.closeStream stream.req ref).made = σ.registry.made := by
    unfold Registry.closeStream Registry.unregisterSub
    split_ifs <;> exact ⟨rfl, rfl⟩
  have hback : ∀ {ref' stream'},
      (σ.streams.insert ref { stream with active := false }).lookup ref' = some stream' →
        ∃ stream₀, σ.streams.lookup ref' = some stream₀ ∧ stream'.req = stream₀.req := by
    intro ref' stream' hlookup'
    rw [FinMap.lookup_insert_eq_ite] at hlookup'
    split_ifs at hlookup' with heq
    · cases hlookup'
      exact ⟨stream, heq ▸ hlookup, rfl⟩
    · exact ⟨stream', hlookup', rfl⟩
  refine ⟨?_, ?_, ?_, ?_⟩
  · intro ref' stream' hlookup'
    obtain ⟨stream₀, hlookup₀, -⟩ := hback hlookup'
    show ref' < (σ.registry.closeStream stream.req ref).made
    rw [hframe.2]
    exact h.fresh ref' stream₀ hlookup₀
  · intro ref' stream' hlookup'
    obtain ⟨stream₀, hlookup₀, hreq⟩ := hback hlookup'
    rw [hframe.1, hreq]
    exact h.heap ref' stream₀ hlookup₀
  · intro id ref'
    rw [Registry.lookup_closeStream, h.registered]
    unfold Sessions.Uses
    simp only [FinMap.lookup_insert_eq_ite]
    rcases eq_or_ne ref' ref with rfl | hne
    · simp only [if_true, Option.some.injEq, and_true]
      constructor
      · rintro ⟨⟨hid, stream', hlookup', -, rfl⟩, hnot⟩
        obtain rfl := Option.some.inj (hlookup.symm.trans hlookup')
        exact absurd ⟨hid, rfl⟩ hnot
      · rintro ⟨-, stream', rfl, hfalse, -⟩
        cases hfalse
    · simp [hne]
  · intro m hm
    obtain ⟨stream₀, hlookup₀, hid, hsub⟩ := h.located m hm
    rcases eq_or_ne m.ref ref with heq | hne
    · rw [heq] at hlookup₀ ⊢
      obtain rfl := Option.some.inj (hlookup.symm.trans hlookup₀)
      exact ⟨{ stream with active := false }, by simp, hid, hsub⟩
    · refine ⟨stream₀, ?_, hid, hsub⟩
      rw [FinMap.lookup_insert_eq_ite, if_neg hne]
      exact hlookup₀

/-- The stream that a modification finds. -/
theorem of_locate (h : SessionsInv σ) {req : ModifySubscriptionRequest}
    {resolved : Except GoError (List TargetState × List TargetRejection)} {ref : Nat}
    {added : List TargetState} {rejected : List TargetRejection} :
    σ.registry.locate req resolved = .ok (ref, added, rejected) ↔
      req.subscriptionId ≠ "" ∧ resolved = .ok (added, rejected) ∧
        ∃ stream, σ.Uses req.subscriptionId ref stream ∧
          stream.req.subscriberId = req.subscriberId := by
  rw [Registry.locate_ok_iff, h.registered]
  constructor
  · rintro ⟨hid, hresolved, ⟨-, stream, huses⟩, sub, hsub, howner⟩
    obtain ⟨sub', hsub', howner'⟩ := h.heap ref stream huses.1
    obtain rfl := Option.some.inj (hsub.symm.trans hsub')
    exact ⟨hid, hresolved, stream, huses, howner'.symm.trans howner⟩
  · rintro ⟨hid, hresolved, stream, huses, howner⟩
    obtain ⟨sub, hsub, howner'⟩ := h.heap ref stream huses.1
    exact ⟨hid, hresolved, ⟨hid, stream, huses⟩, sub, hsub, howner'.trans howner⟩

end SessionsInv

/-- Every event keeps the registry in step with the sessions. -/
theorem sessionsInv_step (event : SessionEvent Actor) (σ τ : Sessions Actor)
    (hstep : sessions.step event σ = some τ) (h : SessionsInv σ) : SessionsInv τ := by
  unfold sessions at hstep
  cases event with
  | opens actor req =>
      rcases σ.registry.openStream_cases req with
          ⟨hempty, hcase⟩ | ⟨-, -, hcase⟩ | ⟨hid, hfree, hcase⟩
      · simp only [hcase] at hstep
        cases hstep
        exact h.opened actor req (.inl ⟨hempty, rfl⟩)
      · simp only [hcase] at hstep
        cases hstep
        exact h.allocate _
      · simp only [hcase] at hstep
        cases hstep
        exact h.opened actor req (.inr ⟨hid, hfree, rfl⟩)
  | ends ref =>
      simp only at hstep
      split at hstep
      · cases hstep
      · rename_i stream hlookup
        split_ifs at hstep
        cases hstep
        exact h.ended hlookup
  | locates actor req resolved =>
      simp only at hstep
      split at hstep
      · cases hstep
        exact h
      · rename_i ref added rejected hlocate
        cases hstep
        obtain ⟨hid, -, stream, huses, howner⟩ := h.of_locate.mp hlocate
        refine { h with located := ?_ }
        intro m hm
        rcases List.mem_cons.mp hm with rfl | hm
        · exact ⟨stream, huses.1, huses.2.2, howner⟩
        · exact h.located m hm
  | applies n =>
      simp only at hstep
      split at hstep
      · cases hstep
      · rename_i m hm
        cases hstep
        obtain ⟨hsubs, hmade⟩ :=
          σ.registry.applyAt_subs m.ref (m.added.map (·.target)) m.req.removeTargets
        refine ⟨?_, ?_, ?_, ?_⟩
        · rw [hmade]
          exact h.fresh
        · intro ref stream hlookup
          obtain ⟨sub, hsub, howner⟩ := h.heap ref stream hlookup
          obtain ⟨sub', hsub', howner'⟩ := Registry.applyAt_owner hsub m.ref
            (m.added.map (·.target)) m.req.removeTargets
          exact ⟨sub', hsub', howner'.trans howner⟩
        · rw [hsubs]
          exact h.registered
        · intro m' hm'
          exact h.located m' (List.mem_of_mem_eraseIdx hm')

/-! ## Ids of one subscriber -/

section Scope

variable {S : Type} (subscriber : Actor → SubscriberID → S)

/-- The stream was opened by this subscriber. Who the subscriber of a request is may depend on the
actor: it is the id that the request names, or the one it resolves to. -/
def Session.Of (stream : Session Actor) (actor : Actor) (requested : SubscriberID) : Prop :=
  subscriber stream.actor stream.req.subscriberId = subscriber actor requested

/-- What scoped ids promise of one event. An opening with an id is refused exactly when the same
subscriber has an active stream with it; the end of a stream leaves the registrations of all others
as they are; a modification finds an active stream of its own subscriber with its id, and changes no
set but the one of such a stream. -/
def Scoped : SessionEvent Actor → Sessions Actor → Prop
  | .opens actor req, σ => req.subscriptionId ≠ "" →
    ((σ.registry.openStream req).1 = .error Registry.errAlreadyActive ↔
      ∃ ref stream, σ.Uses req.subscriptionId ref stream ∧
        stream.Of subscriber actor req.subscriberId)
  | .ends ref, σ => ∀ stream, σ.streams.lookup ref = some stream → ∀ id ref', ref' ≠ ref →
    ((σ.registry.closeStream stream.req ref).subs.lookup id = some ref' ↔
      σ.registry.subs.lookup id = some ref')
  | .locates actor req resolved, σ => ∀ ref added rejected,
    σ.registry.locate req resolved = .ok (ref, added, rejected) →
      ∃ stream, σ.Uses req.subscriptionId ref stream ∧ stream.Of subscriber actor req.subscriberId
  | .applies n, σ => ∀ m, σ.located[n]? = some m →
    (∃ stream, σ.streams.lookup m.ref = some stream ∧
      stream.req.subscriptionId = m.req.subscriptionId ∧
      stream.Of subscriber m.actor m.req.subscriberId) ∧
    ∀ ref, ref ≠ m.ref →
      (σ.registry.applyAt m.ref (m.added.map (·.target)) m.req.removeTargets).heap.lookup ref =
        σ.registry.heap.lookup ref

/-- No id is used by two subscribers at once. A stream that is opened with an id finds it unused by
the active streams of other subscribers; and of the active streams with its id, a modification whose
targets were resolved names the subscriber id of no other subscriber's. -/
def Apart : SessionEvent Actor → Sessions Actor → Prop
  | .opens actor req, σ => req.subscriptionId ≠ "" → ∀ ref stream,
    σ.Uses req.subscriptionId ref stream → stream.Of subscriber actor req.subscriberId
  | .locates actor req resolved, σ => req.subscriptionId ≠ "" → ∀ added rejected,
    resolved = .ok (added, rejected) → ∀ ref stream, σ.Uses req.subscriptionId ref stream →
      stream.req.subscriberId = req.subscriberId → stream.Of subscriber actor req.subscriberId
  | .ends _, _ | .applies _, _ => True

/-- The modifications under way have found streams of their own subscribers. -/
def Owned (σ : Sessions Actor) : Prop :=
  ∀ m ∈ σ.located, ∃ stream, σ.streams.lookup m.ref = some stream ∧
    stream.Of subscriber m.actor m.req.subscriberId

variable {subscriber} {σ τ : Sessions Actor}

/-- When an opening is refused. -/
theorem SessionsInv.refused_iff (h : SessionsInv σ) {req : GatewaySubscribeRequest}
    (hid : req.subscriptionId ≠ "") :
    (σ.registry.openStream req).1 = .error Registry.errAlreadyActive ↔
      ∃ ref stream, σ.Uses req.subscriptionId ref stream := by
  rcases σ.registry.openStream_cases req with
    ⟨hempty, -⟩ | ⟨-, ⟨ref, hused⟩, hcase⟩ | ⟨-, hfree, hcase⟩
  · exact absurd hempty hid
  · rw [hcase]
    obtain ⟨-, stream, huses⟩ := (h.registered _ _).mp hused
    exact iff_of_true rfl ⟨ref, stream, huses⟩
  · rw [hcase]
    refine iff_of_false (by simp) ?_
    rintro ⟨ref, stream, huses⟩
    cases hfree.symm.trans ((h.registered _ _).mpr ⟨hid, stream, huses⟩)

/-- One event is treated as scoped ids promise exactly when it keeps them apart. -/
theorem scoped_iff_apart (h : SessionsInv σ) (howned : Owned subscriber σ)
    (event : SessionEvent Actor) : Scoped subscriber event σ ↔ Apart subscriber event σ := by
  cases event with
  | opens actor req =>
      refine imp_congr_right fun hid => ?_
      rw [h.refused_iff hid]
      constructor
      · intro hscoped ref stream huses
        obtain ⟨ref', stream', huses', hof⟩ := hscoped.mp ⟨ref, stream, huses⟩
        obtain ⟨-, rfl⟩ := h.uses_unique hid huses huses'
        exact hof
      · intro hapart
        refine ⟨?_, ?_⟩
        · rintro ⟨ref, stream, huses⟩
          exact ⟨ref, stream, huses, hapart ref stream huses⟩
        · rintro ⟨ref, stream, huses, -⟩
          exact ⟨ref, stream, huses⟩
  | ends ref =>
      refine iff_of_true ?_ trivial
      intro stream _ id ref' hne
      rw [Registry.lookup_closeStream]
      exact and_iff_left fun hsame => hne hsame.2.2
  | locates actor req resolved =>
      constructor
      · intro hscoped hid added rejected hresolved ref stream huses hnamed
        obtain ⟨stream', huses', hof⟩ := hscoped ref added rejected
          (h.of_locate.mpr ⟨hid, hresolved, stream, huses, hnamed⟩)
        obtain ⟨-, rfl⟩ := h.uses_unique hid huses huses'
        exact hof
      · intro hapart ref added rejected hlocate
        obtain ⟨hid, hresolved, stream, huses, hnamed⟩ := h.of_locate.mp hlocate
        exact ⟨stream, huses, hapart hid added rejected hresolved ref stream huses hnamed⟩
  | applies n =>
      refine iff_of_true ?_ trivial
      intro m hm
      have hmem := List.mem_of_getElem? hm
      obtain ⟨stream, hlookup, hid, -⟩ := h.located m hmem
      obtain ⟨stream', hlookup', hof⟩ := howned m hmem
      obtain rfl := Option.some.inj (hlookup.symm.trans hlookup')
      refine ⟨⟨stream, hlookup, hid, hof⟩, ?_⟩
      intro ref hne
      exact σ.registry.applyAt_of_ne hne _ _

/-- A stream keeps the actor and the request that opened it. -/
theorem SessionsInv.lookup_kept (h : SessionsInv σ) {event : SessionEvent Actor}
    (hstep : sessions.step event σ = some τ) {ref : Nat} {stream : Session Actor}
    (hlookup : σ.streams.lookup ref = some stream) :
    ∃ stream', τ.streams.lookup ref = some stream' ∧ stream'.actor = stream.actor ∧
      stream'.req = stream.req := by
  have hinsert : ∀ {actor : Actor} {req : GatewaySubscribeRequest},
      (σ.streams.insert σ.registry.made { actor, req }).lookup ref = some stream := by
    intro actor req
    rw [FinMap.lookup_insert_eq_ite, if_neg (h.fresh ref stream hlookup).ne]
    exact hlookup
  unfold sessions at hstep
  cases event with
  | opens actor req =>
      rcases σ.registry.openStream_cases req with
          ⟨-, hcase⟩ | ⟨-, -, hcase⟩ | ⟨-, -, hcase⟩
      · simp only [hcase] at hstep
        cases hstep
        exact ⟨stream, hinsert, rfl, rfl⟩
      · simp only [hcase] at hstep
        cases hstep
        exact ⟨stream, hlookup, rfl, rfl⟩
      · simp only [hcase] at hstep
        cases hstep
        exact ⟨stream, hinsert, rfl, rfl⟩
  | ends ref' =>
      simp only at hstep
      split at hstep
      · cases hstep
      · rename_i stream₀ hlookup₀
        split_ifs at hstep
        cases hstep
        simp only [FinMap.lookup_insert_eq_ite]
        split_ifs with heq
        · subst heq
          obtain rfl := Option.some.inj (hlookup.symm.trans hlookup₀)
          exact ⟨_, rfl, rfl, rfl⟩
        · exact ⟨stream, hlookup, rfl, rfl⟩
  | locates actor req resolved =>
      simp only at hstep
      split at hstep <;> cases hstep
      all_goals exact ⟨stream, hlookup, rfl, rfl⟩
  | applies n =>
      simp only at hstep
      split at hstep <;> cases hstep
      exact ⟨stream, hlookup, rfl, rfl⟩

/-- What an event that keeps the ids apart keeps of the modifications under way. -/
theorem owned_step (h : SessionsInv σ) {event : SessionEvent Actor}
    (hapart : Apart subscriber event σ) (hstep : sessions.step event σ = some τ)
    (howned : Owned subscriber σ) : Owned subscriber τ := by
  -- those that were under way before
  have hkept : ∀ m ∈ σ.located, ∃ stream, τ.streams.lookup m.ref = some stream ∧
      stream.Of subscriber m.actor m.req.subscriberId := by
    intro m hm
    obtain ⟨stream, hlookup, hof⟩ := howned m hm
    obtain ⟨stream', hlookup', hactor, hreq⟩ := h.lookup_kept hstep hlookup
    refine ⟨stream', hlookup', ?_⟩
    unfold Session.Of
    rw [hactor, hreq]
    exact hof
  unfold sessions at hstep
  cases event with
  | opens actor req =>
      simp only at hstep
      split at hstep <;> cases hstep
      all_goals exact hkept
  | ends ref =>
      simp only at hstep
      split at hstep
      · cases hstep
      · split_ifs at hstep
        cases hstep
        exact hkept
  | locates actor req resolved =>
      simp only at hstep
      split at hstep
      · cases hstep
        exact hkept
      · rename_i ref added rejected hlocate
        cases hstep
        obtain ⟨stream, huses, hof⟩ :=
          ((scoped_iff_apart h howned (.locates actor req resolved)).mpr hapart) _ _ _ hlocate
        intro m hm
        rcases List.mem_cons.mp hm with rfl | hm
        · exact ⟨stream, huses.1, hof⟩
        · exact hkept m hm
  | applies n =>
      simp only at hstep
      split at hstep <;> cases hstep
      intro m hm
      exact hkept m (List.mem_of_mem_eraseIdx hm)

variable (subscriber) in
/-- **Whose subscription id it is.** For every sequence of openings, ends and modifications, whoever
counts as the subscriber of a request: all of it is treated as ids scoped to their subscribers
promise exactly when at no time an id is used by two subscribers at once. -/
theorem ids_scoped_iff (events : List (SessionEvent Actor)) :
    sessions.Always (Scoped subscriber) events {} ↔
      sessions.Always (Apart subscriber) events {} := by
  refine Machine.always_congr (I := fun σ => SessionsInv σ ∧ Owned subscriber σ) ?_ ?_ ?_
  · rintro event σ ⟨h, howned⟩
    exact scoped_iff_apart h howned event
  · rintro event σ τ hapart hstep ⟨h, howned⟩
    exact ⟨sessionsInv_step event σ τ hstep h, owned_step h hapart hstep howned⟩
  · exact ⟨sessionsInv_empty, by simp [Owned]⟩

end Scope

/-! ## An id that another subscriber uses -/

/-- The stream that `bob` opens, with the subscription id of `alice`. -/
def bobOpens : GatewaySubscribeRequest where
  subscriberId := "laptop"
  targets := [{ ns := "n", id := "b" }]
  subscriptionId := "tab"

/-- While `alice` has an active stream under the id, `bob` is refused, though he is another
subscriber and has no stream: whether it is the id they name that makes the subscriber or the one
they resolve to. -/
theorem refused_for_another :
    ∃ σ, sessions.run [.opens "alice" aliceOpens] {} = some σ ∧
      (σ.registry.openStream bobOpens).1 = .error Registry.errAlreadyActive ∧
      (∀ ref stream, σ.streams.lookup ref = some stream → stream.actor = "alice" ∧
        stream.req.subscriberId ≠ bobOpens.subscriberId) ∧
      ¬ Scoped (fun _ requested => requested) (.opens "bob" bobOpens) σ ∧
      ¬ Scoped (resolveSubscriber perActorHooks) (.opens "bob" bobOpens) σ := by
  have hstreams : ∀ ref stream,
      ((∅ : FinMap Nat (Session String)).insert 0 { actor := "alice", req := aliceOpens }).lookup
        ref = some stream → stream = { actor := "alice", req := aliceOpens } := by
    intro ref stream hlookup
    rw [FinMap.lookup_insert_eq_ite] at hlookup
    split_ifs at hlookup
    · exact (Option.some.inj hlookup).symm
    · simp at hlookup
  have hrefused : ∀ {S : Type} (subscriber : String → SubscriberID → S) (σ : Sessions String),
      σ.streams = (∅ : FinMap Nat (Session String)).insert 0
        { actor := "alice", req := aliceOpens } →
      (σ.registry.openStream bobOpens).1 = .error Registry.errAlreadyActive →
      subscriber "alice" "device" ≠ subscriber "bob" "laptop" →
      ¬ Scoped subscriber (.opens "bob" bobOpens) σ := by
    intro S subscriber σ hσ herror hne hscoped
    obtain ⟨ref, stream, ⟨hlookup, -⟩, hof⟩ := (hscoped (by decide)).mp herror
    rw [hσ] at hlookup
    obtain rfl := hstreams ref stream hlookup
    exact hne hof
  refine ⟨_, rfl, by decide, ?_, ?_, ?_⟩
  · intro ref stream hlookup
    obtain rfl := hstreams ref stream hlookup
    exact ⟨rfl, by decide⟩
  · exact hrefused _ _ rfl (by decide) (by decide)
  · exact hrefused _ _ rfl (by decide) (by decide)

end Synclog.Gateway
