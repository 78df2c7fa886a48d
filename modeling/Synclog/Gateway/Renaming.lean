import Synclog.Gateway.Exposure
import Synclog.Memory.Renaming

/-!
# Stream ids never leave the gateway

The gateway over a renamed store, with a resolver that gives the renamed streams, answers the same.

* `Hooks.rename` — the same hooks, for renamed streams: the resolver's bindings are the only thing
  of the hooks that names a stream.
* `Same` — two programs of the gateway that make renamed calls and answer the same.
* `GatewayCall.same` — every method is the same program up to the renaming, errors included.
* `runCalls` — a sequence of calls of the gateway on a memory store.
* `stream_ids_stay_inside` — two such sequences.
-/

namespace Synclog.Gateway

open Synclog.Lib Synclog.Core Synclog.Memory

/-! ## Renamed hooks -/

/-- The binding of the renamed stream. -/
def StreamBinding.rename (f : Renaming) (b : StreamBinding) : StreamBinding :=
  { b with streamID := f.id b.streamID }

/-- The hooks with a resolver that gives the renamed streams. -/
def Hooks.rename {Actor : Type} (f : Renaming) (hooks : Hooks Actor) : Hooks Actor :=
  { hooks with
    resolveTarget := fun actor target => (hooks.resolveTarget actor target).map fun resolution =>
      { bindings := resolution.bindings.map (StreamBinding.rename f) } }

section Pure

variable {Actor : Type} (hooks : Hooks Actor) (actor : Actor) (f : Renaming)

/-- The checks of the bindings do not look at stream ids. -/
theorem resolveEach_rename (n : Nat) (seen : List String) (bindings : List StreamBinding) :
    resolveEach n seen (bindings.map (StreamBinding.rename f)) =
      (resolveEach n seen bindings).map (List.map (StreamBinding.rename f)) := by
  induction bindings generalizing seen with
  | nil => rfl
  | cons b bindings ih =>
      have hkey : effectiveKey n (b.rename f) = effectiveKey n b := rfl
      have hid : (b.rename f).streamID = "" ↔ b.streamID = "" := f.id_eq_empty
      simp only [List.map_cons, resolveEach, hid, hkey]
      split_ifs
      · rfl
      · cases effectiveKey n b with
        | error err => rfl
        | ok key =>
            simp only
            split_ifs
            · rfl
            · rw [ih]
              cases resolveEach n (key :: seen) bindings with
              | error err => rfl
              | ok out => rfl

/-- A target resolves to the same bindings under other stream ids. -/
theorem resolveBindings_rename (target : SyncTarget) :
    resolveBindings (hooks.rename f) actor target =
      (resolveBindings hooks actor target).map (List.map (StreamBinding.rename f)) := by
  unfold resolveBindings
  cases validateTarget (some target) with
  | error err => rfl
  | ok _ =>
      have hresolve : (hooks.rename f).resolveTarget actor target =
          (hooks.resolveTarget actor target).map fun resolution =>
            { bindings := resolution.bindings.map (StreamBinding.rename f) } := rfl
      rw [hresolve]
      cases hooks.resolveTarget actor target with
      | error err => rfl
      | ok resolution =>
          simp only [Except.map, List.length_map]
          split_ifs
          · rfl
          · exact resolveEach_rename f _ _ _

/-- The same binding is chosen under other stream ids. -/
theorem selectBinding_rename (bindings : List StreamBinding) (bindingKey : String) :
    selectBinding (bindings.map (StreamBinding.rename f)) bindingKey =
      (selectBinding bindings bindingKey).map (StreamBinding.rename f) := by
  unfold selectBinding
  split_ifs
  · cases bindings with
    | nil => rfl
    | cons b bindings =>
        cases bindings with
        | nil => rfl
        | cons b' bindings => rfl
  · have hfind : (bindings.map (StreamBinding.rename f)).find?
        (fun binding => binding.bindingKey == bindingKey) =
        (bindings.find? fun binding => binding.bindingKey == bindingKey).map
          (StreamBinding.rename f) := List.find?_map ..
    rw [hfind]
    cases bindings.find? fun binding => binding.bindingKey == bindingKey with
    | none => rfl
    | some b => rfl

variable (subscriberID : SubscriberID) (target : SyncTarget) (b : StreamBinding)
  (operation : Operation)

/-- The same events pass their checks under other stream ids. -/
theorem checkEvents_rename (events : List Event) :
    checkEvents (hooks.rename f) actor subscriberID target (b.rename f) operation
        (events.map f.event) =
      checkEvents hooks actor subscriberID target b operation events := by
  induction events with
  | nil => rfl
  | cons event events ih =>
      have hevent : checkEvent (hooks.rename f) actor subscriberID target (b.rename f) operation
          (f.event event) = checkEvent hooks actor subscriberID target b operation event := rfl
      rw [List.map_cons, checkEvents, checkEvents, hevent, ih]

/-- The result of a catch-up looks the same to the client. -/
theorem resultBatch_rename (result : CatchUpResult) :
    resultBatch (hooks.rename f) actor subscriberID target (b.rename f) operation
        (f.catchUpResult result) =
      resultBatch hooks actor subscriberID target b operation result := by
  have hchecks : checkEvents (hooks.rename f) actor subscriberID target (b.rename f) operation
      (f.batch result.batch).events =
      checkEvents hooks actor subscriberID target b operation result.batch.events :=
    checkEvents_rename hooks actor f subscriberID target b operation result.batch.events
  have hbatch : toGatewayBatch target (b.rename f).bindingKey (f.batch result.batch) =
      toGatewayBatch target b.bindingKey result.batch := by
    unfold toGatewayBatch Renaming.batch
    rw [List.map_map]
    rfl
  have hgateway : gatewayBatch (hooks.rename f) actor subscriberID target (b.rename f)
      (f.catchUpResult result).batch operation =
      gatewayBatch hooks actor subscriberID target b result.batch operation := by
    show gatewayBatch (hooks.rename f) actor subscriberID target (b.rename f)
      (f.batch result.batch) operation = _
    unfold gatewayBatch
    rw [hchecks, hbatch]
  have hstatus : (f.catchUpResult result).status = result.status := rfl
  unfold resultBatch
  rw [hgateway, hstatus]

end Pure

/-! ## The methods -/

/-- The second program makes the renamed calls of the first, and answers the same. -/
abbrev Same (f : Renaming) {α : Type} (x x' : ServerProg α) : Prop :=
  Prog.Recoded f.calls (Except.map id) x.run x'.run

section Methods

variable {Actor : Type} (hooks : Hooks Actor) (actor : Actor) (f : Renaming)
  (subscriberID : SubscriberID)

/-- The states of the bindings are the same under other stream ids. -/
theorem bindingStates_same (bindings : List StreamBinding) :
    Same f (bindingStates subscriberID bindings)
      (bindingStates subscriberID (bindings.map (StreamBinding.rename f))) := by
  induction bindings with
  | nil => exact .pureE _
  | cons b bindings ih =>
      refine .bindE (f.getCursor subscriberID b.streamID) fun cursor => ?_
      refine .bindE (f.getHead b.streamID) fun head => ?_
      exact .bindE ih fun rest => .pureE _

/-- The state of a target is the same under other stream ids. -/
theorem targetState_same (target : SyncTarget) (bindings : List StreamBinding) :
    Same f (targetState subscriberID target bindings)
      (targetState subscriberID target (bindings.map (StreamBinding.rename f))) :=
  .bindE (bindingStates_same f subscriberID bindings) fun _ => .pureE _

/-- What follows the resolution of a target. -/
theorem resolveBindings_bind_same {α : Type} (target : SyncTarget)
    {k k' : List StreamBinding → ServerProg α}
    (hk : ∀ bindings, Same f (k bindings) (k' (bindings.map (StreamBinding.rename f)))) :
    Same f (Prog.ofExcept (resolveBindings hooks actor target) >>= k)
      (Prog.ofExcept (resolveBindings (hooks.rename f) actor target) >>= k') := by
  rw [resolveBindings_rename]
  exact .bindE (.ofExcept _) hk

/-- A target that is resolved has the same state under other stream ids. -/
theorem resolveTargetState_same (operation : Operation) (target : SyncTarget) :
    Same f (resolveTargetState hooks actor subscriberID operation target)
      (resolveTargetState (hooks.rename f) actor subscriberID operation target) := by
  refine resolveBindings_bind_same hooks actor f target fun bindings => ?_
  exact .ofExcept_bindE fun _ _ => targetState_same f subscriberID target bindings

/-- The targets of `Open` have the same states under other stream ids. -/
theorem openEach_same (targets : List SyncTarget) :
    Same f (openEach hooks actor subscriberID targets)
      (openEach (hooks.rename f) actor subscriberID targets) := by
  induction targets with
  | nil => exact .pureE _
  | cons target targets ih =>
      refine .bindE (resolveTargetState_same hooks actor f subscriberID .open target) ?_
      intro state
      exact .bindE ih fun states => .pureE _

/-- `Open` answers the same under other stream ids. -/
theorem open_same (requested : SubscriberID) (targets : List SyncTarget) :
    Same f («open» hooks actor requested targets)
      («open» (hooks.rename f) actor requested targets) := by
  refine .ofExcept_bindE fun subscriberID _ => ?_
  exact .ofExcept_bindE fun _ _ => openEach_same hooks actor f subscriberID targets

/-- The added targets are resolved, or rejected, in the same way under other stream ids. -/
theorem resolveSubscribeEach_same (targets : List SyncTarget) :
    Prog.Recoded f.calls id (resolveSubscribeEach hooks actor subscriberID targets)
      (resolveSubscribeEach (hooks.rename f) actor subscriberID targets) := by
  induction targets with
  | nil => exact .ret _
  | cons target targets ih =>
      refine .bind (resolveTargetState_same hooks actor f subscriberID .subscribe target) ?_
      intro state
      refine .bind ih ?_
      rintro ⟨states, rejections⟩
      cases state with
      | error err => exact .ret _
      | ok state => exact .ret _

/-- `ResolveSubscribeTargets` answers the same under other stream ids. -/
theorem resolveSubscribeTargets_same (requested : SubscriberID) (targets : List SyncTarget) :
    Same f (resolveSubscribeTargets hooks actor requested targets)
      (resolveSubscribeTargets (hooks.rename f) actor requested targets) := by
  refine .ofExcept_bindE fun subscriberID _ => ?_
  exact .bind (resolveSubscribeEach_same hooks actor f subscriberID targets) fun _ => .ret _

variable (limit totalLimit : Int) (operation : Operation)

/-- The bindings of a target have the same results under other stream ids. -/
theorem catchUpBindings_same (target : SyncTarget) (state : TargetState)
    (bindings : List StreamBinding) :
    Same f
      (catchUpBindings hooks actor subscriberID target state limit totalLimit operation bindings)
      (catchUpBindings (hooks.rename f) actor subscriberID target state limit totalLimit operation
        (bindings.map (StreamBinding.rename f))) := by
  induction bindings with
  | nil => exact .pureE _
  | cons b bindings ih =>
      refine .bindE (f.catchUp { subscriberID, streamID := b.streamID, limit, totalLimit })
        fun result => ?_
      rw [resultBatch_rename]
      refine .ofExcept_bindE fun batch _ => ?_
      exact .bindE ih fun results => .pureE _

/-- A target has the same results under other stream ids. -/
theorem catchUpTarget_same (target : SyncTarget) :
    Same f (catchUpTarget hooks actor subscriberID limit totalLimit operation target)
      (catchUpTarget (hooks.rename f) actor subscriberID limit totalLimit operation target) := by
  refine resolveBindings_bind_same hooks actor f target fun bindings => ?_
  refine .ofExcept_bindE fun _ _ => ?_
  refine .bindE (targetState_same f subscriberID target bindings) fun state => ?_
  exact catchUpBindings_same hooks actor f subscriberID limit totalLimit operation target state
    bindings

/-- The targets have the same results under other stream ids. -/
theorem catchUpTargets_same (targets : List SyncTarget) :
    Same f (catchUpTargets hooks actor subscriberID limit totalLimit operation targets)
      (catchUpTargets (hooks.rename f) actor subscriberID limit totalLimit operation targets) := by
  induction targets with
  | nil => exact .pureE _
  | cons target targets ih =>
      refine .bindE
        (catchUpTarget_same hooks actor f subscriberID limit totalLimit operation target)
        fun results => ?_
      exact .bindE ih fun rest => .pureE _

/-- A catch-up has the same results under other stream ids. -/
theorem catchUp_same (requested : SubscriberID) (targets : List SyncTarget) :
    Same f (catchUp hooks actor requested targets limit totalLimit operation)
      (catchUp (hooks.rename f) actor requested targets limit totalLimit operation) := by
  refine .ofExcept_bindE fun subscriberID _ => ?_
  refine .ofExcept_bindE fun _ _ => ?_
  exact catchUpTargets_same hooks actor f subscriberID limit totalLimit operation targets

/-- A poll has the same responses under other stream ids. -/
theorem gatewaySubscribePoll_same (req : GatewaySubscribeRequest) :
    Same f (gatewaySubscribePoll hooks actor req)
      (gatewaySubscribePoll (hooks.rename f) actor req) :=
  .bindE (catchUp_same hooks actor f _ _ _ _ _) fun _ => .pureE _

/-- `GatewayAck` answers the same under other stream ids. -/
theorem gatewayAck_same (req : GatewayAckRequest) :
    Same f (gatewayAck hooks actor req) (gatewayAck (hooks.rename f) actor req) := by
  refine .ofExcept_bindE fun subscriberID _ => ?_
  refine .ofExcept_bindE fun target _ => ?_
  refine resolveBindings_bind_same hooks actor f target fun bindings => ?_
  refine .ofExcept_bindE fun _ _ => ?_
  rw [selectBinding_rename]
  refine .bindE (.ofExcept _) fun b => ?_
  refine .bindE (f.ack { subscriberID, streamID := b.streamID, seq := req.seq,
                         metadata := req.metadata }) fun _ => ?_
  exact targetState_same f subscriberID target bindings

/-- `GatewayGetLatestSnapshot` answers the same under other stream ids. -/
theorem gatewayGetLatestSnapshot_same (req : GatewayGetLatestSnapshotRequest) :
    Same f (gatewayGetLatestSnapshot hooks actor req)
      (gatewayGetLatestSnapshot (hooks.rename f) actor req) := by
  refine .ofExcept_bindE fun subscriberID _ => ?_
  refine .ofExcept_bindE fun target _ => ?_
  refine .ite Iff.rfl (fun _ => .throw_bindE _ _ _) fun _ => ?_
  refine resolveBindings_bind_same hooks actor f target fun bindings => ?_
  refine .ofExcept_bindE fun _ _ => ?_
  rw [selectBinding_rename]
  refine .bindE (.ofExcept _) fun b => ?_
  refine .ofExcept_bindE fun _ _ => ?_
  refine .ofExcept_bindE fun _ _ => ?_
  refine .bindE (.performE (c := StoreCall.getLatestSnapshot b.streamID req.payloadType
    req.maxPayloadVersion) trivial rfl) fun snapshot => ?_
  refine .ofExcept_bindE fun _ _ => ?_
  exact .bindE (targetState_same f subscriberID target bindings) fun state => .pureE _

/-- Every method of the gateway. -/
theorem GatewayCall.same (c : GatewayCall) :
    Same f (c.prog hooks actor) (c.prog (hooks.rename f) actor) := by
  cases c with
  | «open» subscriberId targets =>
      exact .bindE (open_same hooks actor f subscriberId targets) fun _ => .pureE _
  | resolveSubscribeTargets subscriberId targets =>
      exact .bindE (resolveSubscribeTargets_same hooks actor f subscriberId targets)
        fun _ => .pureE _
  | catchUp req =>
      exact .bindE (catchUp_same hooks actor f _ _ _ _ _) fun _ => .pureE _
  | subscribePoll req =>
      exact .bindE (gatewaySubscribePoll_same hooks actor f req) fun _ => .pureE _
  | ack req => exact .bindE (gatewayAck_same hooks actor f req) fun _ => .pureE _
  | getLatestSnapshot req =>
      exact .bindE (gatewayGetLatestSnapshot_same hooks actor f req) fun _ => .pureE _

end Methods

/-! ## Sequences of calls -/

/-- The answers to a sequence of calls, each by its actor and at its time, and the store after
them. -/
def runCalls {Actor : Type} (hooks : Hooks Actor) :
    List (Int × Actor × GatewayCall) → Store → List (Except GoError GatewayAnswer) × Store
  | [], s => ([], s)
  | (now, actor, c) :: calls, s =>
    let (answer, s) := Prog.run (handler now) (c.prog hooks actor).run s
    let (answers, s) := runCalls hooks calls s
    (answer :: answers, s)

/-- **Stream ids never leave the gateway.** Whatever the hooks, on a reachable store and the store
with its streams renamed, and with the resolver's bindings renamed alike: every sequence of calls of
the gateway gets the same answers, error texts included, and leaves stores that are again the same
up to the renaming. -/
theorem stream_ids_stay_inside {Actor : Type} (hooks : Hooks Actor) (f : Renaming) {s t : Store}
    (hs : Reachable s) (h : Store.Renamed f s t) (calls : List (Int × Actor × GatewayCall)) :
    (runCalls (hooks.rename f) calls t).1 = (runCalls hooks calls s).1 ∧
      Store.Renamed f (runCalls hooks calls s).2 (runCalls (hooks.rename f) calls t).2 := by
  induction calls generalizing s t with
  | nil => exact ⟨rfl, h⟩
  | cons call calls ih =>
      obtain ⟨now, actor, c⟩ := call
      obtain ⟨hanswer, hs', h'⟩ :=
        (c.same hooks actor f).run (Store.Renamed.respects f now) ⟨hs, h⟩
      obtain ⟨hanswers, hend⟩ := ih hs' h'
      rw [Except.map_id] at hanswer
      refine ⟨?_, hend⟩
      unfold runCalls
      simp only [hanswer, hanswers, id]

/-- The streams `a` and `z` change their ids. -/
def swapped : Renaming where
  id streamID := if streamID = "a" then "z" else if streamID = "z" then "a" else streamID
  injective := by
    intro a b h
    simp only at h
    split_ifs at h <;> simp_all
  empty := rfl

/-- Acknowledge the event of `noteBacklog`, then ask for its snapshot. -/
def noteCalls : List (Int × Unit × GatewayCall) :=
  [(0, (), .ack { subscriberId := "u", target := some noteTarget, seq := 1 }),
    (0, (), .getLatestSnapshot notesRequest)]

/-- The two streams of the notes change places, and the answers are the same. -/
theorem stream_ids_stay_inside_note :
    ∃ state resp, (runCalls (secretHooks.rename swapped) noteCalls (noteBacklog.rename swapped)).1 =
        [.ok (.acked state), .ok (.snapshot resp)] ∧
      state.cursorSeq = 1 ∧ resp.snapshot.payloadVersion = 2 := by
  obtain ⟨hanswers, -⟩ := stream_ids_stay_inside secretHooks swapped (s := noteBacklog) ⟨_, rfl⟩
    (Store.renamed_rename swapped noteBacklog) noteCalls
  rw [hanswers]
  exact ⟨_, _, rfl, rfl, rfl⟩

end Synclog.Gateway
