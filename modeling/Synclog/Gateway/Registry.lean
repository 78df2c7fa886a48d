import Synclog.Gateway.Engine
import Synclog.Lib.Machine
import Synclog.Memory.CatchUp

/-!
# Live subscriptions and their registry

The mutable target set behind a live stream (`LiveSub`), the registry of live streams by
`subscription_id`, and the RPC `ModifySubscription` that changes the set of a stream it finds there.

A registered stream is a pointer, so a set may be changed after the stream has left the registry:
`Registry.heap` keeps every set ever made, `Registry.subs` maps a `subscription_id` to one of them.
The registry compares the id a request *names* with the id the stream was opened with; the gateway
identifies subscribers by the id their actor *resolves* to. `ownership_iff` says when the two agree.
-/

namespace Synclog.Gateway

open Synclog.Lib Synclog.Core

/-! ## Statuses -/

/-- Source: package `codes`, `Code.String`. -/
def codeName : Code → String
  | .canceled => "Canceled"
  | .invalidArgument => "InvalidArgument"
  | .deadlineExceeded => "DeadlineExceeded"
  | .notFound => "NotFound"
  | .alreadyExists => "AlreadyExists"
  | .permissionDenied => "PermissionDenied"
  | .failedPrecondition => "FailedPrecondition"
  | .unimplemented => "Unimplemented"
  | .internal => "Internal"
  | .unauthenticated => "Unauthenticated"
  | .other code => "Code(" ++ toString code ++ ")"

/-- Source: package `status`, `Error`. -/
def statusError (code : Code) (message : String) : GoError where
  status := some { code, message }
  message := "rpc error: code = " ++ codeName code ++ " desc = " ++ message

/-- Source: `gateway/transport/grpc/server.go`, `toStatusError`. -/
def toStatusError (err : GoError) : GoError :=
  if err.status.isSome then err
  else if err.is .invalidArgument then statusError .invalidArgument err.message
  else if err.is .tooLong then statusError .failedPrecondition err.message
  else if err.is .notFound then statusError .notFound err.message
  else if err.is .accessDenied then statusError .permissionDenied err.message
  else if err.is .canceled then statusError .canceled err.message
  else if err.is .deadlineExceeded then statusError .deadlineExceeded err.message
  else statusError .internal "internal error"

/-! ## The target set of one stream -/

/-- `wake` says whether the channel holds a token: it has room for one.
Source: `server.go`, `liveSub`. -/
structure LiveSub where
  subscriberID : SubscriberID
  targets : FinMap String SyncTarget := ∅
  wake : Bool := false

namespace LiveSub

/-- Set the targets of a list, each under its key; a later one wins. -/
def addTargets (targets : FinMap String SyncTarget) (add : List SyncTarget) :
    FinMap String SyncTarget :=
  add.foldl (fun targets t => targets.insert (targetKey t) t) targets

/-- Delete the targets of a list. -/
def removeTargets (targets : FinMap String SyncTarget) (remove : List SyncTarget) :
    FinMap String SyncTarget :=
  remove.foldl (fun targets t => targets.erase (targetKey t)) targets

/-- Source: `server.go`, `newLiveSub`. -/
def new (subscriberID : SubscriberID) (initial : List SyncTarget) : LiveSub where
  subscriberID := subscriberID
  targets := addTargets ∅ initial

/-- Source: `server.go`, `liveSub.snapshot`. -/
def snapshot (l : LiveSub) : List SyncTarget := l.targets.values

/-- Source: `server.go`, `liveSub.apply` and `liveSub.signal`. -/
def apply (l : LiveSub) (add remove : List SyncTarget) : LiveSub :=
  { l with targets := addTargets (removeTargets l.targets remove) add, wake := true }

/-- Source: `server.go`, `liveSub.apply`, its critical section. -/
def change (l : LiveSub) (add remove : List SyncTarget) : LiveSub :=
  { l with targets := addTargets (removeTargets l.targets remove) add }

/-- Source: `server.go`, `liveSub.signal`. A full channel stays as it is. -/
def signal (l : LiveSub) : LiveSub := { l with wake := true }

/-- `apply` changes the targets, and then signals. -/
theorem apply_eq (l : LiveSub) (add remove : List SyncTarget) :
    l.apply add remove = (l.change add remove).signal := rfl

/-- Adding the targets of a list adds no others. -/
theorem mem_addTargets {targets : FinMap String SyncTarget} {add : List SyncTarget} {key : String}
    {target : SyncTarget} (h : (addTargets targets add).lookup key = some target) :
    targets.lookup key = some target ∨ target ∈ add := by
  induction add generalizing targets with
  | nil => exact .inl h
  | cons t add ih =>
      rcases ih h with hlookup | hmem
      · rw [FinMap.lookup_insert_eq_ite] at hlookup
        split_ifs at hlookup
        · cases hlookup
          exact .inr List.mem_cons_self
        · exact .inl hlookup
      · exact .inr (List.mem_cons_of_mem _ hmem)

/-- Removing targets adds none. -/
theorem mem_removeTargets {targets : FinMap String SyncTarget} {remove : List SyncTarget}
    {key : String} {target : SyncTarget}
    (h : (removeTargets targets remove).lookup key = some target) :
    targets.lookup key = some target := by
  induction remove generalizing targets with
  | nil => exact h
  | cons t remove ih =>
      have hlookup := ih h
      rw [FinMap.lookup_erase_eq_ite] at hlookup
      split_ifs at hlookup
      exact hlookup

/-- The targets of a new subscription are the initial ones. -/
theorem mem_snapshot_new {subscriberID : SubscriberID} {initial : List SyncTarget}
    {target : SyncTarget} (h : target ∈ (new subscriberID initial).snapshot) :
    target ∈ initial := by
  obtain ⟨key, hlookup⟩ := FinMap.mem_values_iff.mp h
  rcases mem_addTargets hlookup with hempty | hmem
  · simp at hempty
  · exact hmem

/-- `apply` brings in none but the added targets. -/
theorem mem_snapshot_apply {l : LiveSub} {add remove : List SyncTarget} {target : SyncTarget}
    (h : target ∈ (l.apply add remove).snapshot) : target ∈ l.snapshot ∨ target ∈ add := by
  obtain ⟨key, hlookup⟩ := FinMap.mem_values_iff.mp h
  rcases mem_addTargets hlookup with hold | hmem
  · exact .inl (FinMap.mem_values_iff.mpr ⟨key, mem_removeTargets hold⟩)
  · exact .inr hmem

/-- After targets were added, a key is there that was there before or that one of them has. -/
theorem mem_keys_addTargets {targets : FinMap String SyncTarget} {add : List SyncTarget}
    {key : String} :
    key ∈ addTargets targets add ↔ key ∈ targets ∨ ∃ t ∈ add, targetKey t = key := by
  induction add generalizing targets with
  | nil => simp [addTargets]
  | cons t add ih =>
      show key ∈ addTargets (targets.insert (targetKey t) t) add ↔ _
      rw [ih, AList.mem_insert, List.exists_mem_cons_iff, eq_comm, or_assoc, or_left_comm]

/-- After targets were removed, a key is there that was there before and that none of them has. -/
theorem mem_keys_removeTargets {targets : FinMap String SyncTarget} {remove : List SyncTarget}
    {key : String} :
    key ∈ removeTargets targets remove ↔ key ∈ targets ∧ ¬ ∃ t ∈ remove, targetKey t = key := by
  induction remove generalizing targets with
  | nil => simp [removeTargets]
  | cons t remove ih =>
      show key ∈ removeTargets (targets.erase (targetKey t)) remove ↔ _
      rw [ih, AList.mem_erase, List.exists_mem_cons_iff, not_or, eq_comm, ← and_assoc,
        and_comm (a := ¬ key = targetKey t)]

/-- Each target of the set is stored under its own key. -/
def Keyed (l : LiveSub) : Prop := ∀ key t, l.targets.lookup key = some t → targetKey t = key

/-- Adding targets keeps every target under its own key. -/
theorem keyed_addTargets {targets : FinMap String SyncTarget} {add : List SyncTarget}
    (h : ∀ key t, targets.lookup key = some t → targetKey t = key) :
    ∀ key t, (addTargets targets add).lookup key = some t → targetKey t = key := by
  induction add generalizing targets with
  | nil => exact h
  | cons t add ih =>
      refine ih ?_
      intro key t' hlookup
      rw [FinMap.lookup_insert_eq_ite] at hlookup
      split_ifs at hlookup with heq
      · cases hlookup
        exact heq.symm
      · exact h key t' hlookup

/-- In a new subscription every target is under its own key. -/
theorem keyed_new (subscriberID : SubscriberID) (initial : List SyncTarget) :
    (new subscriberID initial).Keyed := by
  refine keyed_addTargets ?_
  intro key t hlookup
  simp at hlookup

/-- `apply` keeps every target under its own key. -/
theorem Keyed.apply {l : LiveSub} (h : l.Keyed) (add remove : List SyncTarget) :
    (l.apply add remove).Keyed :=
  keyed_addTargets fun key t hlookup => h key t (mem_removeTargets hlookup)

/-- The encoded keys of the targets of a snapshot are those of the set, each once. -/
theorem Keyed.snapshot_keys {l : LiveSub} (h : l.Keyed) :
    l.snapshot.map targetKey = l.targets.keys := by
  unfold snapshot FinMap.values AList.keys List.keys
  rw [List.map_map]
  refine List.map_congr_left ?_
  rintro ⟨key, t⟩ hmem
  exact h key t (FinMap.mem_entries_iff.mp hmem)

end LiveSub

/-! ## The registry -/

/-- Source: `server.go`, `Server.subs`, with the sets the pointers lead to. -/
structure Registry where
  subs : FinMap String Nat := ∅
  heap : FinMap Nat LiveSub := ∅
  /-- The number of sets made so far. -/
  made : Nat := 0

namespace Registry

/-- Source: `server.go`, `Server.registerSub`. -/
def registerSub (reg : Registry) (id : String) (ref : Nat) : Bool × Registry :=
  if (reg.subs.lookup id).isSome then (false, reg)
  else (true, { reg with subs := reg.subs.insert id ref })

/-- Source: `server.go`, `Server.unregisterSub`. -/
def unregisterSub (reg : Registry) (id : String) (ref : Nat) : Registry :=
  if reg.subs.lookup id = some ref then { reg with subs := reg.subs.erase id } else reg

/-- Source: `server.go`, `Server.lookupSub`. -/
def lookupSub (reg : Registry) (id : String) : Option Nat := reg.subs.lookup id

/-- Make the target set of a new stream. -/
def allocate (reg : Registry) (sub : LiveSub) : Nat × Registry :=
  (reg.made, { reg with heap := reg.heap.insert reg.made sub, made := reg.made + 1 })

/-- The beginning of a stream; the answer is the reference to its target set.
Source: `server.go`, `Server.GatewaySubscribe`, up to the loop. -/
def openStream (reg : Registry) (req : GatewaySubscribeRequest) : Except GoError Nat × Registry :=
  let (ref, reg) := reg.allocate (.new req.subscriberId req.targets)
  if req.subscriptionId ≠ "" then
    match reg.registerSub req.subscriptionId ref with
    | (false, reg) =>
      (.error (statusError .alreadyExists "subscription_id is already active"), reg)
    | (true, reg) => (.ok ref, reg)
  else (.ok ref, reg)

/-- The end of a stream.
Source: `server.go`, `Server.GatewaySubscribe`, the deferred `unregisterSub`. -/
def closeStream (reg : Registry) (req : GatewaySubscribeRequest) (ref : Nat) : Registry :=
  if req.subscriptionId ≠ "" then reg.unregisterSub req.subscriptionId ref else reg

/-- The answer to an opening under an id that is in use. -/
def errAlreadyActive : GoError :=
  statusError .alreadyExists "subscription_id is already active"

/-- The error that hides whether a subscription exists. -/
def errNoSubscription : GoError :=
  statusError .notFound "no active subscription for subscription_id"

/-- `ModifySubscription` with the answer of `ResolveSubscribeTargets`.
Source: `server.go`, `Server.ModifySubscription`. -/
def modifySubscription (reg : Registry) (req : ModifySubscriptionRequest)
    (resolved : Except GoError (List TargetState × List TargetRejection)) :
    Except GoError ModifySubscriptionResponse × Registry :=
  if req.subscriptionId = "" then
    (.error (statusError .invalidArgument "subscription_id is required"), reg)
  else
    match resolved with
    | .error err => (.error (toStatusError err), reg)
    | .ok (added, rejected) =>
      match (reg.lookupSub req.subscriptionId).bind fun ref =>
          (reg.heap.lookup ref).map fun sub => (ref, sub) with
      | none => (.error errNoSubscription, reg)
      | some (ref, sub) =>
        if sub.subscriberID ≠ req.subscriberId then (.error errNoSubscription, reg)
        else
          (.ok { added, rejected },
            { reg with
              heap := reg.heap.insert ref
                (sub.apply (added.map (·.target)) req.removeTargets) })

end Registry

/-! ## Runs of the registry -/

section Runs

variable {Actor : Type}

/-- The registry, with the actor and the request that opened each stream. -/
structure Streams (Actor : Type) where
  registry : Registry := {}
  opened : FinMap Nat (Actor × GatewaySubscribeRequest) := ∅

/-- What happens to the registry: a stream is opened or ends, or a modification arrives, with
whatever its resolution has answered. -/
inductive StreamEvent (Actor : Type)
  | opens (actor : Actor) (req : GatewaySubscribeRequest)
  | ends (ref : Nat)
  | modifies (req : ModifySubscriptionRequest)
      (resolved : Except GoError (List TargetState × List TargetRejection))

/-- The registry as a machine. A stream that is refused ends at once. -/
def streams : Machine (Streams Actor) (StreamEvent Actor) where
  step
    | .opens actor req, σ =>
      match σ.registry.openStream req with
      | (.error _, registry) => some { σ with registry }
      | (.ok ref, registry) => some { registry, opened := σ.opened.insert ref (actor, req) }
    | .ends ref, σ =>
      match σ.opened.lookup ref with
      | none => none
      | some (_, req) => some { σ with registry := σ.registry.closeStream req ref }
    | .modifies req resolved, σ =>
      some { σ with registry := (σ.registry.modifySubscription req resolved).2 }

/-- What every run keeps: a registered stream was opened by someone, under the id it is registered
for, and its set carries the subscriber id of the request that opened it. -/
structure StreamsInv (σ : Streams Actor) : Prop where
  heap_lt : ∀ ref, (σ.registry.heap.lookup ref).isSome → ref < σ.registry.made
  opened_heap : ∀ ref actor req, σ.opened.lookup ref = some (actor, req) →
    ∃ sub, σ.registry.heap.lookup ref = some sub ∧ sub.subscriberID = req.subscriberId
  registered : ∀ id ref, σ.registry.subs.lookup id = some ref →
    id ≠ "" ∧ ∃ actor req, σ.opened.lookup ref = some (actor, req) ∧ req.subscriptionId = id

/-- Before the first stream nothing is registered. -/
theorem streamsInv_empty : StreamsInv ({} : Streams Actor) where
  heap_lt ref h := by simp at h
  opened_heap ref actor req h := by simp at h
  registered id ref h := by simp at h

/-- How a stream begins: unregistered, refused, or registered under a free id. -/
theorem Registry.openStream_cases (reg : Registry) (req : GatewaySubscribeRequest) :
    (req.subscriptionId = "" ∧ reg.openStream req =
        (.ok reg.made, (reg.allocate (.new req.subscriberId req.targets)).2)) ∨
      (req.subscriptionId ≠ "" ∧ (∃ ref, reg.subs.lookup req.subscriptionId = some ref) ∧
        reg.openStream req =
          (.error errAlreadyActive, (reg.allocate (.new req.subscriberId req.targets)).2)) ∨
      (req.subscriptionId ≠ "" ∧ reg.subs.lookup req.subscriptionId = none ∧ reg.openStream req =
        (.ok reg.made, { (reg.allocate (.new req.subscriberId req.targets)).2 with
          subs := reg.subs.insert req.subscriptionId reg.made })) := by
  unfold openStream registerSub allocate errAlreadyActive
  by_cases hid : req.subscriptionId = ""
  · exact .inl ⟨hid, by simp [hid]⟩
  · rcases hused : reg.subs.lookup req.subscriptionId with _ | ref
    · exact .inr (.inr ⟨hid, rfl, by simp [hid, hused]⟩)
    · exact .inr (.inl ⟨hid, ⟨ref, rfl⟩, by simp [hid, hused]⟩)

/-- What a modification does: nothing and an error, or the changed set of a stream whose subscriber
id is the one the request names. -/
theorem Registry.modifySubscription_cases (reg : Registry) (req : ModifySubscriptionRequest)
    (resolved : Except GoError (List TargetState × List TargetRejection)) :
    (∃ err, reg.modifySubscription req resolved = (.error err, reg)) ∨
      ∃ ref sub added rejected, reg.heap.lookup ref = some sub ∧
        reg.modifySubscription req resolved =
          (.ok { added, rejected }, { reg with
            heap :=
              reg.heap.insert ref (sub.apply (added.map (·.target)) req.removeTargets) }) := by
  unfold modifySubscription
  split_ifs with hid
  · exact .inl ⟨_, rfl⟩
  · split
    · exact .inl ⟨_, rfl⟩
    · rename_i added rejected
      split
      · exact .inl ⟨_, rfl⟩
      · rename_i ref sub hfound
        split_ifs
        · exact .inl ⟨_, rfl⟩
        · refine .inr ⟨ref, sub, added, rejected, ?_, rfl⟩
          obtain ⟨ref', -, hmap⟩ := Option.bind_eq_some_iff.mp hfound
          obtain ⟨sub', hsub, heq⟩ := Option.map_eq_some_iff.mp hmap
          cases heq
          exact hsub

/-- Nothing opened so far lies at the next reference. -/
theorem StreamsInv.ne_made {σ : Streams Actor} (h : StreamsInv σ) {ref : Nat} {actor : Actor}
    {req : GatewaySubscribeRequest} (hopened : σ.opened.lookup ref = some (actor, req)) :
    ref ≠ σ.registry.made := by
  rintro rfl
  obtain ⟨sub, hsub, -⟩ := h.opened_heap _ _ _ hopened
  have hlt := h.heap_lt σ.registry.made (by rw [hsub]; rfl)
  omega

/-- Making a set leaves the registered streams and their sets as they were. -/
theorem StreamsInv.allocate {σ : Streams Actor} (h : StreamsInv σ) (sub : LiveSub) :
    StreamsInv { σ with registry := (σ.registry.allocate sub).2 } where
  heap_lt := by
    intro ref hsome
    simp only [Registry.allocate, FinMap.lookup_insert_eq_ite] at hsome ⊢
    split_ifs at hsome with heq
    · omega
    · have hlt := h.heap_lt ref hsome
      omega
  opened_heap := by
    intro ref actor req hopened
    simp only [Registry.allocate, FinMap.lookup_insert_eq_ite]
    rw [if_neg (h.ne_made hopened)]
    exact h.opened_heap ref actor req hopened
  registered := h.registered

/-- A stream that begins: its set is new, and carries the subscriber id of its request. -/
theorem StreamsInv.opened {σ : Streams Actor} (h : StreamsInv σ) (actor : Actor)
    (req : GatewaySubscribeRequest) :
    StreamsInv
      { registry := (σ.registry.allocate (.new req.subscriberId req.targets)).2
        opened := σ.opened.insert σ.registry.made (actor, req) } where
  heap_lt := (h.allocate (.new req.subscriberId req.targets)).heap_lt
  opened_heap := by
    intro ref actor' req' hopened
    rw [FinMap.lookup_insert_eq_ite] at hopened
    split_ifs at hopened with heq
    · cases hopened
      refine ⟨.new req.subscriberId req.targets, ?_, rfl⟩
      rw [heq]
      simp [Registry.allocate]
    · exact (h.allocate (.new req.subscriberId req.targets)).opened_heap ref actor' req' hopened
  registered := by
    intro id ref hlookup
    obtain ⟨hid, actor', req', hopened, heq⟩ := h.registered id ref hlookup
    refine ⟨hid, actor', req', ?_, heq⟩
    rw [FinMap.lookup_insert_eq_ite, if_neg (h.ne_made hopened)]
    exact hopened

/-- Registering a new stream under its id. -/
theorem StreamsInv.register {σ : Streams Actor} (h : StreamsInv σ) {actor : Actor}
    {req : GatewaySubscribeRequest} {ref : Nat} (hopened : σ.opened.lookup ref = some (actor, req))
    (hid : req.subscriptionId ≠ "") :
    StreamsInv { σ with registry :=
      { σ.registry with subs := σ.registry.subs.insert req.subscriptionId ref } } where
  heap_lt := h.heap_lt
  opened_heap := h.opened_heap
  registered := by
    intro id ref' hlookup
    simp only [FinMap.lookup_insert_eq_ite] at hlookup
    split_ifs at hlookup with heq
    · cases hlookup
      exact ⟨heq ▸ hid, actor, req, hopened, heq.symm⟩
    · exact h.registered id ref' hlookup

/-- Changing a set that exists leaves its subscriber id as it was. -/
theorem StreamsInv.apply {σ : Streams Actor} (h : StreamsInv σ) {ref : Nat} {sub : LiveSub}
    (hsub : σ.registry.heap.lookup ref = some sub) (add remove : List SyncTarget) :
    StreamsInv { σ with registry :=
      { σ.registry with heap := σ.registry.heap.insert ref (sub.apply add remove) } } where
  heap_lt := by
    intro ref' hsome
    simp only [FinMap.lookup_insert_eq_ite] at hsome
    split_ifs at hsome with heq
    · exact heq ▸ h.heap_lt ref (by rw [hsub]; rfl)
    · exact h.heap_lt ref' hsome
  opened_heap := by
    intro ref' actor req hopened
    obtain ⟨sub', hsub', heq'⟩ := h.opened_heap ref' actor req hopened
    simp only [FinMap.lookup_insert_eq_ite]
    split_ifs with heq
    · subst heq
      rw [hsub] at hsub'
      cases hsub'
      exact ⟨_, rfl, heq'⟩
    · exact ⟨sub', hsub', heq'⟩
  registered := h.registered

/-- Every event keeps the registry in step with the streams. -/
theorem streamsInv_step (event : StreamEvent Actor) (σ τ : Streams Actor)
    (hstep : streams.step event σ = some τ) (h : StreamsInv σ) : StreamsInv τ := by
  unfold streams at hstep
  cases event with
  | opens actor req =>
      rcases σ.registry.openStream_cases req with
          ⟨-, hcase⟩ | ⟨-, -, hcase⟩ | ⟨hid, -, hcase⟩
      · simp only [hcase] at hstep
        cases hstep
        exact h.opened actor req
      · simp only [hcase] at hstep
        cases hstep
        exact h.allocate _
      · simp only [hcase] at hstep
        cases hstep
        have hopened : (σ.opened.insert σ.registry.made (actor, req)).lookup σ.registry.made =
            some (actor, req) := by simp
        exact (h.opened actor req).register hopened hid
  | ends ref =>
      simp only at hstep
      split at hstep
      · cases hstep
      · rename_i actor req hopened
        cases hstep
        unfold Registry.closeStream Registry.unregisterSub
        split_ifs
        · refine ⟨h.heap_lt, h.opened_heap, ?_⟩
          intro id ref' hlookup
          simp only [FinMap.lookup_erase_eq_ite] at hlookup
          split_ifs at hlookup
          exact h.registered id ref' hlookup
        · exact h
        · exact h
  | modifies req resolved =>
      simp only at hstep
      cases hstep
      rcases σ.registry.modifySubscription_cases req resolved with
          ⟨err, hcase⟩ | ⟨ref, sub, added, rejected, hsub, hcase⟩
      · rw [hcase]
        exact h
      · rw [hcase]
        exact h.apply hsub _ _

/-- The registry is in step with the streams in every run. -/
theorem streamsInv_run {events : List (StreamEvent Actor)} {σ : Streams Actor}
    (hrun : streams.run events {} = some σ) : StreamsInv σ :=
  Machine.run_invariant streamsInv_step hrun streamsInv_empty

/-! ## Ownership -/

/-- The canonical subscriber decides: the modification reaches the set of the stream `ref` when the
resolver gives the actor who opened it, for the id it was opened with, the subscriber
`subscriberID`; else the registry is as before and the answer is `NotFound`. -/
def OwnerDecides (hooks : Hooks Actor) (opener : Actor) (opening : GatewaySubscribeRequest)
    (ref : Nat) (reg : Registry) (req : ModifySubscriptionRequest) (subscriberID : SubscriberID)
    (resolved : Except GoError (List TargetState × List TargetRejection)) : Prop :=
  (resolveSubscriber hooks opener opening.subscriberId = .ok subscriberID →
    ∃ added rejected sub, resolved = .ok (added, rejected) ∧ reg.heap.lookup ref = some sub ∧
      (reg.modifySubscription req resolved).1 = .ok { added, rejected } ∧
      (reg.modifySubscription req resolved).2.heap.lookup ref =
        some (sub.apply (added.map (·.target)) req.removeTargets)) ∧
  (resolveSubscriber hooks opener opening.subscriberId ≠ .ok subscriberID →
    reg.modifySubscription req resolved = (.error Registry.errNoSubscription, reg))

/-- Once the subscriber resolves, `ResolveSubscribeTargets` cannot fail. -/
theorem exec_resolveSubscribeTargets {τ : Type} {handler : Handler StoreCall τ}
    {R : τ → τ → Prop} {hooks : Hooks Actor} {actor : Actor}
    {requested subscriberID : SubscriberID} {targets : List SyncTarget}
    (hsub : resolveSubscriber hooks actor requested = .ok subscriberID) {s t : τ}
    {resolved : Except GoError (List TargetState × List TargetRejection)}
    (h : Prog.Exec handler R (resolveSubscribeTargets hooks actor requested targets).run s
      resolved t) : ∃ added rejected, resolved = .ok (added, rejected) := by
  unfold resolveSubscribeTargets at h
  rw [hsub] at h
  change Prog.Exec handler R
    (resolveSubscribeEach hooks actor subscriberID targets >>= fun a => pure (.ok a)) s resolved t
    at h
  obtain ⟨⟨added, rejected⟩, u, -, hret⟩ := Prog.exec_bind.mp h
  obtain ⟨rfl, -⟩ := Prog.exec_pure.mp hret
  exact ⟨added, rejected, rfl⟩

/-- **Who may change a live stream.** In every run of the registry, whatever the resolver: the
canonical subscriber decides about a modification exactly when the ids that the two requests name
are equal where, and only where, the ids they resolve to are. -/
theorem ownership_iff {hooks : Hooks Actor} {events : List (StreamEvent Actor)} {σ : Streams Actor}
    (hrun : streams.run events {} = some σ) {opener modifier : Actor}
    {opening : GatewaySubscribeRequest} {ref : Nat}
    (hopened : σ.opened.lookup ref = some (opener, opening))
    (hlive : σ.registry.subs.lookup opening.subscriptionId = some ref)
    {req : ModifySubscriptionRequest} (hnames : req.subscriptionId = opening.subscriptionId)
    {subscriberID : SubscriberID}
    (hresolves : resolveSubscriber hooks modifier req.subscriberId = .ok subscriberID)
    {τ : Type} {handler : Handler StoreCall τ} {R : τ → τ → Prop} {s t : τ}
    {resolved : Except GoError (List TargetState × List TargetRejection)}
    (hexec : Prog.Exec handler R
      (resolveSubscribeTargets hooks modifier req.subscriberId req.addTargets).run s resolved t) :
    OwnerDecides hooks opener opening ref σ.registry req subscriberID resolved ↔
      (opening.subscriberId = req.subscriberId ↔
        resolveSubscriber hooks opener opening.subscriberId = .ok subscriberID) := by
  have hinv := streamsInv_run hrun
  obtain ⟨sub, hsub, hsubscriber⟩ := hinv.opened_heap ref opener opening hopened
  obtain ⟨hid, -⟩ := hinv.registered _ _ hlive
  obtain ⟨added, rejected, rfl⟩ := exec_resolveSubscribeTargets hresolves hexec
  have hfound : ((σ.registry.lookupSub req.subscriptionId).bind fun ref =>
      (σ.registry.heap.lookup ref).map fun sub => (ref, sub)) = some (ref, sub) := by
    unfold Registry.lookupSub
    rw [hnames, hlive]
    simp [hsub]
  unfold OwnerDecides
  by_cases hsame : opening.subscriberId = req.subscriberId
  · have hok : σ.registry.modifySubscription req (.ok (added, rejected)) =
        (.ok { added, rejected }, { σ.registry with
          heap := σ.registry.heap.insert ref
            (sub.apply (added.map (·.target)) req.removeTargets) }) := by
      unfold Registry.modifySubscription
      rw [if_neg (by rw [hnames]; exact hid)]
      simp only [hfound]
      rw [if_neg (by rw [hsubscriber, hsame]; exact fun h => h rfl)]
    rw [hok, iff_true_left hsame]
    constructor
    · rintro ⟨-, hrefuse⟩
      by_contra hne
      cases hrefuse hne
    · intro hcanonical
      refine ⟨fun _ => ⟨added, rejected, sub, rfl, hsub, rfl, by simp⟩, ?_⟩
      intro hne
      exact absurd hcanonical hne
  · have hrefused : σ.registry.modifySubscription req (.ok (added, rejected)) =
        (.error Registry.errNoSubscription, σ.registry) := by
      unfold Registry.modifySubscription
      rw [if_neg (by rw [hnames]; exact hid)]
      simp only [hfound]
      rw [if_pos (by rw [hsubscriber]; exact hsame)]
    rw [hrefused, iff_false_left hsame]
    constructor
    · rintro ⟨hreach, -⟩ hcanonical
      obtain ⟨_, _, _, -, -, ⟨⟩, -⟩ := hreach hcanonical
    · intro hne
      exact ⟨fun hcanonical => absurd hcanonical hne, fun _ => rfl⟩

end Runs

/-! ## Two actors who name the same subscriber -/

/-- Hooks that make the subscriber of a request the requested id below the actor's name. -/
def perActorHooks : Hooks String where
  resolveSubscriber actor requested := .ok (actor ++ "/" ++ requested)
  resolveTarget _ target := .ok { bindings := [{ streamID := target.id }] }
  authorize _ := .ok ()
  allowPayload _ _ _ := .ok ()
  allowSnapshot _ _ _ := .ok ()
  canDecode _ _ := true

/-- The stream that `alice` opens. -/
def aliceOpens : GatewaySubscribeRequest where
  subscriberId := "device"
  targets := [{ ns := "n", id := "a" }]
  subscriptionId := "tab"

/-- `bob`, who names the same subscriber id, removes the target of `alice`. -/
def bobRemoves : ModifySubscriptionRequest where
  subscriberId := "device"
  subscriptionId := "tab"
  removeTargets := [{ ns := "n", id := "a" }]

/-- The registry after `alice` has opened her stream. -/
def aliceStreams : Streams String where
  registry :=
    { subs := (∅ : FinMap String Nat).insert "tab" 0
      heap := (∅ : FinMap Nat LiveSub).insert 0 (.new "device" [{ ns := "n", id := "a" }])
      made := 1 }
  opened := (∅ : FinMap Nat (String × GatewaySubscribeRequest)).insert 0 ("alice", aliceOpens)

/-- The canonical ids differ, and `bob` empties the target set of `alice`'s stream. -/
theorem other_subscriber_modifies :
    streams.run [.opens "alice" aliceOpens] {} = some aliceStreams ∧
      resolveSubscriber perActorHooks "alice" aliceOpens.subscriberId = .ok "alice/device" ∧
      resolveSubscriber perActorHooks "bob" bobRemoves.subscriberId = .ok "bob/device" ∧
      ((aliceStreams.registry.modifySubscription bobRemoves (.ok ([], []))).2.heap.lookup 0).map
        LiveSub.snapshot = some [] ∧
      ¬ OwnerDecides perActorHooks "alice" aliceOpens 0 aliceStreams.registry bobRemoves
        "bob/device" (.ok ([], [])) := by
  refine ⟨rfl, by decide, by decide, by decide, ?_⟩
  rintro ⟨-, hrefuse⟩
  cases hrefuse (by decide)

/-- Bob asks for another subscription than the one that Alice has opened. -/
theorem ownership_iff_alice_bob :
    OwnerDecides perActorHooks "alice" aliceOpens 0 aliceStreams.registry bobRemoves "bob/device"
        (.ok ([], [])) ↔
      (aliceOpens.subscriberId = bobRemoves.subscriberId ↔
        resolveSubscriber perActorHooks "alice" aliceOpens.subscriberId = .ok "bob/device") := by
  have hrun : streams.run [.opens "alice" aliceOpens] {} = some aliceStreams := rfl
  have hexec : Prog.Exec (Memory.handler 0) (fun _ _ => False)
      (resolveSubscribeTargets perActorHooks "bob" bobRemoves.subscriberId
        bobRemoves.addTargets).run Memory.newStore (.ok ([], [])) Memory.newStore := .ret _ _
  exact ownership_iff hrun rfl rfl rfl (by decide) hexec

end Synclog.Gateway
