import Synclog.Gateway.Engine
import Synclog.Memory.CatchUp

/-!
# What a poll returns

A catch-up of the gateway over the memory store, with anything allowed by `R` happening between two
of its calls. `exec_catchUp` says of every result of a successful catch-up which target and which
binding it is for, and which stores it was read from, in the order of time: the cursor in its state
first, then the three reads of the core engine. The lemmas before it follow the structure of the
engine, one for each loop. `exec_gatewayGetLatestSnapshot` says what the answer to a request for a
snapshot went through.
-/

namespace Synclog.Gateway

open Synclog.Lib Synclog.Core Synclog.Memory
open Relation (ReflTransGen)

/-! ## Resolution -/

section Resolution

variable {Actor : Type} {hooks : Hooks Actor} {actor : Actor}

/-- A resolved subscriber id is not empty. -/
theorem resolveSubscriber_ne {requested subscriberID : SubscriberID}
    (h : resolveSubscriber hooks actor requested = .ok subscriberID) : subscriberID ≠ "" := by
  unfold resolveSubscriber at h
  split_ifs at h
  split at h
  · cases h
  · split_ifs at h with hempty
    cases h
    exact hempty

/-- A target that is validated is answered as it is. -/
theorem validateTarget_ok {target target' : SyncTarget}
    (h : validateTarget (some target) = .ok target') : target' = target := by
  unfold validateTarget at h
  simp only at h
  split_ifs at h
  cases h
  rfl

/-- What the loop of `resolveBindings` returns: bindings of named streams, under keys that are not
empty, pairwise distinct, and none of those seen before. -/
theorem resolveEach_ok {n : Nat} {seen : List String} {bindings out : List StreamBinding}
    (h : resolveEach n seen bindings = .ok out) :
    (∀ b ∈ out, b.streamID ≠ "" ∧ b.bindingKey ≠ "" ∧ b.bindingKey ∉ seen) ∧
      (out.map (·.bindingKey)).Nodup := by
  induction bindings generalizing seen out with
  | nil =>
      cases h
      exact ⟨by simp, List.nodup_nil⟩
  | cons binding bindings ih =>
      unfold resolveEach at h
      split_ifs at h with hstream
      split at h
      · cases h
      · rename_i key hkey
        split_ifs at h with hseen
        split at h
        · cases h
        · rename_i rest hrest
          cases h
          obtain ⟨hall, hnodup⟩ := ih hrest
          have hne : key ≠ "" := by
            unfold effectiveKey at hkey
            split_ifs at hkey with hempty
            · cases hkey
              decide
            · cases hkey
              exact hempty
          refine ⟨?_, ?_⟩
          · intro b hb
            rcases List.mem_cons.mp hb with rfl | hmem
            · exact ⟨hstream, hne, hseen⟩
            · obtain ⟨hs, hk, hnot⟩ := hall b hmem
              exact ⟨hs, hk, fun hin => hnot (List.mem_cons_of_mem _ hin)⟩
          · rw [List.map_cons, List.nodup_cons]
            refine ⟨?_, hnodup⟩
            intro hin
            obtain ⟨b, hb, heq⟩ := List.mem_map.mp hin
            exact (hall b hb).2.2 (by simp [heq])

/-- What a target resolves to has stream ids and binding keys, and no key twice. -/
theorem resolveBindings_ok {target : SyncTarget} {bindings : List StreamBinding}
    (h : resolveBindings hooks actor target = .ok bindings) :
    (∀ b ∈ bindings, b.streamID ≠ "" ∧ b.bindingKey ≠ "") ∧
      (bindings.map (·.bindingKey)).Nodup := by
  unfold resolveBindings at h
  split at h
  · cases h
  · split at h
    · cases h
    · split_ifs at h
      obtain ⟨hall, hnodup⟩ := resolveEach_ok h
      exact ⟨fun b hb => ⟨(hall b hb).1, (hall b hb).2.1⟩, hnodup⟩

/-- Only a valid target is resolved. -/
theorem validateTarget_of_resolveBindings {target : SyncTarget} {bindings : List StreamBinding}
    (h : resolveBindings hooks actor target = .ok bindings) :
    validateTarget (some target) = .ok target := by
  unfold resolveBindings at h
  split at h
  · cases h
  · rename_i target' hvalid
    rw [hvalid, validateTarget_ok hvalid]

/-- A selected binding is the only one, or has the key that was asked for. -/
theorem selectBinding_ok {bindings : List StreamBinding} {bindingKey : String} {b : StreamBinding}
    (h : selectBinding bindings bindingKey = .ok b) :
    (bindingKey = "" → bindings = [b]) ∧
      (bindingKey ≠ "" → b ∈ bindings ∧ b.bindingKey = bindingKey) := by
  unfold selectBinding at h
  split_ifs at h with hempty
  · refine ⟨fun _ => ?_, fun hne => absurd hempty hne⟩
    split at h
    · cases h
      rfl
    · cases h
  · refine ⟨fun heq => absurd heq hempty, fun _ => ?_⟩
    split at h
    · rename_i found hfound
      cases h
      exact ⟨List.mem_of_find?_eq_some hfound, by simpa using List.find?_some hfound⟩
    · cases h

/-- The batch of a result is that of the core engine when its answer is `OK`, else there is none. -/
theorem resultBatch_eq {subscriberID : SubscriberID} {target : SyncTarget} {b : StreamBinding}
    {operation : Operation} {answer : CatchUpResult} {batch : Option GatewayBatch}
    (h : resultBatch hooks actor subscriberID target b operation answer = .ok batch) :
    batch = if answer.status = .ok then some (toGatewayBatch target b.bindingKey answer.batch)
      else none := by
  unfold resultBatch gatewayBatch at h
  split_ifs at h ⊢
  · split at h
    · cases h
    · rename_i checked hchecked
      cases h
      split at hchecked
      · cases hchecked
      · cases hchecked
        rfl
  · exact (Except.ok.inj h).symm

end Resolution

/-! ## The programs of the gateway that only read -/

section OnlyReads

variable {Actor : Type} (hooks : Hooks Actor) (actor : Actor) (subscriberID : SubscriberID)

/-- What is computed without the store does not write it. -/
theorem ofExcept_only_reads {α : Type} (r : Except GoError α) :
    Prog.Only StoreCall.IsRead (Prog.ofExcept r : ServerProg α).run := trivial

/-- `Engine.GetCursor` only reads. -/
theorem getCursor_only_reads (streamID : StreamID) :
    Prog.Only StoreCall.IsRead (Engine.getCursor subscriberID streamID).run := by
  unfold Engine.getCursor
  split_ifs
  · trivial
  · trivial
  · exact ⟨.getCursor _ _, fun _ => trivial⟩

/-- `Engine.GetHead` only reads. -/
theorem getHead_only_reads (streamID : StreamID) :
    Prog.Only StoreCall.IsRead (Engine.getHead streamID).run := by
  unfold Engine.getHead
  split_ifs
  · trivial
  · exact ⟨.getHead _, fun _ => trivial⟩

/-- The states of the bindings are only read. -/
theorem bindingStates_only_reads (bindings : List StreamBinding) :
    Prog.Only StoreCall.IsRead (bindingStates subscriberID bindings).run := by
  induction bindings with
  | nil => trivial
  | cons b bindings ih =>
      refine Prog.Only.bindE (getCursor_only_reads subscriberID b.streamID) ?_
      intro cursor
      refine Prog.Only.bindE (getHead_only_reads b.streamID) ?_
      intro head
      exact Prog.Only.bindE ih fun _ => trivial

/-- The state of a target is only read. -/
theorem targetState_only_reads (target : SyncTarget) (bindings : List StreamBinding) :
    Prog.Only StoreCall.IsRead (targetState subscriberID target bindings).run :=
  Prog.Only.bindE (bindingStates_only_reads subscriberID bindings) fun _ => trivial

/-- Catching up bindings only reads. -/
theorem catchUpBindings_only_reads (target : SyncTarget) (state : TargetState)
    (limit totalLimit : Int) (operation : Operation) (bindings : List StreamBinding) :
    Prog.Only StoreCall.IsRead
      (catchUpBindings hooks actor subscriberID target state limit totalLimit operation
        bindings).run := by
  induction bindings with
  | nil => trivial
  | cons b bindings ih =>
      refine Prog.Only.bindE (Engine.catchUp_only_reads _) ?_
      intro catchUp
      refine Prog.Only.bindE (ofExcept_only_reads _) ?_
      intro batch
      exact Prog.Only.bindE ih fun _ => trivial

/-- Catching up one target only reads. -/
theorem catchUpTarget_only_reads (limit totalLimit : Int) (operation : Operation)
    (target : SyncTarget) :
    Prog.Only StoreCall.IsRead
      (catchUpTarget hooks actor subscriberID limit totalLimit operation target).run := by
  refine Prog.Only.bindE (ofExcept_only_reads _) ?_
  intro bindings
  refine Prog.Only.bindE (ofExcept_only_reads _) ?_
  intro _
  refine Prog.Only.bindE (targetState_only_reads subscriberID target bindings) ?_
  intro state
  exact catchUpBindings_only_reads hooks actor subscriberID target state limit totalLimit operation
    bindings

/-- Catching up targets only reads. -/
theorem catchUpTargets_only_reads (limit totalLimit : Int) (operation : Operation)
    (targets : List SyncTarget) :
    Prog.Only StoreCall.IsRead
      (catchUpTargets hooks actor subscriberID limit totalLimit operation targets).run := by
  induction targets with
  | nil => trivial
  | cons target targets ih =>
      refine Prog.Only.bindE
        (catchUpTarget_only_reads hooks actor subscriberID limit totalLimit operation target) ?_
      intro results
      exact Prog.Only.bindE ih fun _ => trivial

/-- A catch-up only reads. -/
theorem catchUp_only_reads (requested : SubscriberID) (targets : List SyncTarget)
    (limit totalLimit : Int) (operation : Operation) :
    Prog.Only StoreCall.IsRead
      (catchUp hooks actor requested targets limit totalLimit operation).run := by
  refine Prog.Only.bindE (ofExcept_only_reads _) ?_
  intro subscriberID
  refine Prog.Only.bindE (ofExcept_only_reads _) ?_
  intro _
  exact catchUpTargets_only_reads hooks actor subscriberID limit totalLimit operation targets

/-- Resolving a target only reads. -/
theorem resolveTargetState_only_reads (operation : Operation) (target : SyncTarget) :
    Prog.Only StoreCall.IsRead
      (resolveTargetState hooks actor subscriberID operation target).run := by
  refine Prog.Only.bindE (ofExcept_only_reads _) ?_
  intro bindings
  refine Prog.Only.bindE (ofExcept_only_reads _) ?_
  intro _
  exact targetState_only_reads subscriberID target bindings

/-- A poll only reads. -/
theorem gatewaySubscribePoll_only_reads (req : GatewaySubscribeRequest) :
    Prog.Only StoreCall.IsRead (gatewaySubscribePoll hooks actor req).run := by
  refine Prog.Only.bindE (catchUp_only_reads hooks actor _ _ _ _ _) ?_
  intro results
  trivial

/-- Asking for a snapshot only reads. -/
theorem gatewayGetLatestSnapshot_only_reads (req : GatewayGetLatestSnapshotRequest) :
    Prog.Only StoreCall.IsRead (gatewayGetLatestSnapshot hooks actor req).run := by
  refine Prog.Only.bindE (ofExcept_only_reads _) fun subscriberID => ?_
  refine Prog.Only.bindE (ofExcept_only_reads _) fun target => ?_
  have hrest : ∀ {p : ServerProg GatewayGetLatestSnapshotResponse} {q : ServerProg PUnit},
      Prog.Only StoreCall.IsRead p.run → Prog.Only StoreCall.IsRead q.run →
      Prog.Only StoreCall.IsRead (if req.payloadType = "" then q >>= fun _ => p else p).run := by
    intro p q hp hq
    split_ifs
    · exact Prog.Only.bindE hq fun _ => hp
    · exact hp
  refine hrest ?_ trivial
  refine Prog.Only.bindE (ofExcept_only_reads _) fun bindings => ?_
  refine Prog.Only.bindE (ofExcept_only_reads _) fun _ => ?_
  refine Prog.Only.bindE (ofExcept_only_reads _) fun binding => ?_
  refine Prog.Only.bindE (ofExcept_only_reads _) fun _ => ?_
  refine Prog.Only.bindE (ofExcept_only_reads _) fun _ => ?_
  refine Prog.Only.bindE ⟨.getLatestSnapshot _ _ _, fun _ => trivial⟩ fun snapshot => ?_
  refine Prog.Only.bindE (ofExcept_only_reads _) fun _ => ?_
  exact Prog.Only.bindE (targetState_only_reads _ _ _) fun _ => trivial

end OnlyReads

/-! ## The reads of a poll -/

/-- The store as a part of itself. -/
theorem handler_within_whole (now : Int) : (handler now).within (.whole Store) = handler now := rfl

section Exec

variable {σ : Type} {cell : Cell σ Store} {R : σ → σ → Prop} {now : Int}

/-- A cursor is the one that the store has at that moment. -/
theorem exec_getCursor {subscriberID : SubscriberID} {streamID : StreamID}
    (hsub : subscriberID ≠ "") (hid : streamID ≠ "") {s t : σ} {r : Except GoError SubscriberCursor}
    (h : Prog.Exec ((handler now).within cell) R
      (Engine.getCursor subscriberID streamID).run s r t) :
    ReflTransGen R s t ∧ r = .ok ((cell.get t).cursorOf subscriberID streamID) := by
  unfold Engine.getCursor at h
  rw [if_neg hsub, if_neg hid] at h
  obtain ⟨u, hu, heq⟩ := Prog.exec_performE.mp h
  simp only [Handler.within, handler, (cell.get u).getCursor_eq hsub hid, cell.set_get] at heq
  cases heq
  exact ⟨hu, rfl⟩

/-- A head is the one that the store has at that moment. -/
theorem exec_getHead {streamID : StreamID} (hid : streamID ≠ "") {s t : σ}
    {r : Except GoError StreamHead}
    (h : Prog.Exec ((handler now).within cell) R (Engine.getHead streamID).run s r t) :
    ReflTransGen R s t ∧ r = .ok (((cell.get t).ensureStream streamID).headCursor streamID) := by
  unfold Engine.getHead at h
  rw [if_neg hid] at h
  obtain ⟨u, hu, heq⟩ := Prog.exec_performE.mp h
  simp only [Handler.within, handler, (cell.get u).getHead_eq hid, cell.set_get] at heq
  cases heq
  exact ⟨hu, rfl⟩

/-- The cursor in a binding state is one that was committed between `s` and `t`. -/
def StateRead (cell : Cell σ Store) (R : σ → σ → Prop) (subscriberID : SubscriberID) (s t : σ)
    (b : StreamBinding) (state : TargetBindingState) : Prop :=
  state.bindingKey = b.bindingKey ∧
    ∃ u, ReflTransGen R s u ∧ ReflTransGen R u t ∧
      state.cursorSeq = (cell.get u).committed subscriberID b.streamID

/-- The reads of `targetState` succeed, and give one state for each binding. -/
theorem exec_bindingStates {subscriberID : SubscriberID} (hsub : subscriberID ≠ "")
    {bindings : List StreamBinding} (hids : ∀ b ∈ bindings, b.streamID ≠ "") {s t : σ}
    {r : Except GoError (List TargetBindingState)}
    (h : Prog.Exec ((handler now).within cell) R (bindingStates subscriberID bindings).run s r t) :
    ReflTransGen R s t ∧
      ∃ states, r = .ok states ∧
        List.Forall₂ (StateRead cell R subscriberID s t) bindings states := by
  induction bindings generalizing s t r with
  | nil =>
      obtain ⟨rfl, rfl⟩ := Prog.exec_pureE.mp h
      exact ⟨.refl, [], rfl, .nil⟩
  | cons b bindings ih =>
      have hid : b.streamID ≠ "" := hids b List.mem_cons_self
      obtain ⟨_, u, hcursor, h⟩ := Prog.exec_bindE.mp h
      obtain ⟨hu, rfl⟩ := exec_getCursor hsub hid hcursor
      obtain ⟨_, v, hhead, h⟩ := Prog.exec_bindE.mp h
      obtain ⟨hv, rfl⟩ := exec_getHead hid hhead
      obtain ⟨_, w, hrest, h⟩ := Prog.exec_bindE.mp h
      obtain ⟨hw, states, rfl, hstates⟩ := ih (fun b hb => hids b (List.mem_cons_of_mem _ hb)) hrest
      obtain ⟨rfl, rfl⟩ := Prog.exec_pureE.mp h
      refine ⟨hu.trans (hv.trans hw), _, rfl, .cons ⟨rfl, u, hu, hv.trans hw, rfl⟩ ?_⟩
      refine hstates.imp ?_
      rintro b' state ⟨hkey, x, hx, hx', hseq⟩
      exact ⟨hkey, x, (hu.trans hv).trans hx, hx', hseq⟩

/-- The first entries that two paired lists have with properties that go together are paired. -/
theorem find?_partners {α β : Type} {P : α → β → Prop} {p : α → Bool} {q : β → Bool}
    {as : List α} {bs : List β} (h : List.Forall₂ P as bs) (hpq : ∀ a b, P a b → p a = q b) :
    (∃ a b, as.find? p = some a ∧ bs.find? q = some b ∧ P a b) ∨
      as.find? p = none ∧ bs.find? q = none := by
  induction h with
  | nil => exact .inr ⟨rfl, rfl⟩
  | @cons a b as bs hab _ ih =>
      rw [List.find?_cons, List.find?_cons, hpq a b hab]
      cases q b with
      | true => exact .inl ⟨a, b, rfl, rfl, hab⟩
      | false => exact ih

/-- Among the states of bindings with distinct keys, that of a binding is found by its key. -/
theorem find_state {P : StreamBinding → TargetBindingState → Prop} {bindings : List StreamBinding}
    {states : List TargetBindingState} (h : List.Forall₂ P bindings states)
    (hkey : ∀ b state, P b state → state.bindingKey = b.bindingKey)
    (hnodup : (bindings.map (·.bindingKey)).Nodup) {b : StreamBinding} (hb : b ∈ bindings) :
    ∃ state, P b state ∧
      (states.find? fun state => state.bindingKey == b.bindingKey) = some state := by
  rcases find?_partners (p := fun b' => b'.bindingKey == b.bindingKey)
    (q := fun state => state.bindingKey == b.bindingKey) h
    (fun b' state hP => by rw [hkey b' state hP]) with
    ⟨b', state, hb', hstate, hP⟩ | ⟨hnone, -⟩
  · have hsame : b'.bindingKey = b.bindingKey := by simpa using List.find?_some hb'
    obtain rfl := List.inj_on_of_nodup_map hnodup (List.mem_of_find?_eq_some hb') hb hsame
    exact ⟨state, hP, hstate⟩
  · exact absurd (beq_self_eq_true b.bindingKey) (List.find?_eq_none.mp hnone b hb)

/-- In the aggregated state of a target, the state of a binding is found under its key. -/
theorem bindingCursorSeq_aggregate (target : SyncTarget)
    {P : StreamBinding → TargetBindingState → Prop} {bindings : List StreamBinding}
    {states : List TargetBindingState} (h : List.Forall₂ P bindings states)
    (hkey : ∀ b state, P b state → state.bindingKey = b.bindingKey)
    (hnodup : (bindings.map (·.bindingKey)).Nodup) {b : StreamBinding} (hb : b ∈ bindings) :
    ∃ state, P b state ∧
      bindingCursorSeq (aggregate target states) b.bindingKey = state.cursorSeq := by
  obtain ⟨state, hstate, hsome⟩ := find_state h hkey hnodup hb
  refine ⟨state, hstate, ?_⟩
  unfold bindingCursorSeq aggregate
  simp only [hsome]

/-- The reads of `targetState` succeed, and aggregate one state for each binding. -/
theorem exec_targetState_states {subscriberID : SubscriberID} (hsub : subscriberID ≠ "")
    {target : SyncTarget} {bindings : List StreamBinding} (hids : ∀ b ∈ bindings, b.streamID ≠ "")
    {s t : σ} {r : Except GoError TargetState}
    (h : Prog.Exec ((handler now).within cell) R
      (targetState subscriberID target bindings).run s r t) :
    ReflTransGen R s t ∧ ∃ states, r = .ok (aggregate target states) ∧
      List.Forall₂ (StateRead cell R subscriberID s t) bindings states := by
  obtain ⟨_, u, hstates, h⟩ := Prog.exec_bindE.mp h
  obtain ⟨hu, states, rfl, hforall⟩ := exec_bindingStates hsub hids hstates
  obtain ⟨rfl, rfl⟩ := Prog.exec_pureE.mp h
  exact ⟨hu, states, rfl, hforall⟩

/-- Every entry of a target's state is one that the store had meanwhile. -/
theorem exec_targetState {subscriberID : SubscriberID} (hsub : subscriberID ≠ "")
    {target : SyncTarget} {bindings : List StreamBinding} (hids : ∀ b ∈ bindings, b.streamID ≠ "")
    (hnodup : (bindings.map (·.bindingKey)).Nodup) {s t : σ} {r : Except GoError TargetState}
    (h : Prog.Exec ((handler now).within cell) R
      (targetState subscriberID target bindings).run s r t) :
    ReflTransGen R s t ∧ ∃ state, r = .ok state ∧ state.target = target ∧
      ∀ b ∈ bindings, ∃ u, ReflTransGen R s u ∧ ReflTransGen R u t ∧
        bindingCursorSeq state b.bindingKey = (cell.get u).committed subscriberID b.streamID := by
  obtain ⟨hu, states, rfl, hforall⟩ := exec_targetState_states hsub hids h
  refine ⟨hu, _, rfl, rfl, ?_⟩
  intro b hb
  obtain ⟨state, ⟨-, v, hv, hv', hseq⟩, hfind⟩ :=
    bindingCursorSeq_aggregate target hforall (fun _ _ h => h.1) hnodup hb
  exact ⟨v, hv, hv', hfind.trans hseq⟩

/-! ## The loops of a catch-up -/

section CatchUp

variable {Actor : Type} {hooks : Hooks Actor} {actor : Actor} {subscriberID : SubscriberID}
  {limit totalLimit : Int} {operation : Operation}

/-- The result for a binding was read from three stores between `s` and `t`, each no earlier than
the one before, and its events passed the checks of the hooks. -/
structure ResultRead (cell : Cell σ Store) (R : σ → σ → Prop) (hooks : Hooks Actor) (actor : Actor)
    (subscriberID : SubscriberID) (limit totalLimit : Int) (operation : Operation)
    (target : SyncTarget) (b : StreamBinding) (state : TargetState) (s t : σ)
    (result : GatewayCatchUpResult) : Prop where
  forTarget : result.target = target
  forBinding : result.bindingKey = b.bindingKey
  withState : result.state = some state
  reads : ∃ u₁ u₂ u₃ catchUp, ReflTransGen R s u₁ ∧ ReflTransGen R u₁ u₂ ∧ ReflTransGen R u₂ u₃ ∧
    ReflTransGen R u₃ t ∧
    catchUpOf { subscriberID, streamID := b.streamID, limit, totalLimit }
      (cell.get u₁) (cell.get u₂) (cell.get u₃) = .ok catchUp ∧
    result.status = catchUp.status ∧
    resultBatch hooks actor subscriberID target b operation catchUp = .ok result.batch

/-- A result is one of any longer stretch of the run. -/
theorem ResultRead.widen {target : SyncTarget} {b : StreamBinding} {state : TargetState}
    {s s' t t' : σ} {result : GatewayCatchUpResult} (hs : ReflTransGen R s' s)
    (ht : ReflTransGen R t t')
    (h : ResultRead cell R hooks actor subscriberID limit totalLimit operation target b state s t
      result) :
    ResultRead cell R hooks actor subscriberID limit totalLimit operation target b state s' t'
      result := by
  obtain ⟨u₁, u₂, u₃, catchUp, h₁, h₂, h₃, h₄, hread⟩ := h.reads
  exact { h with reads := ⟨u₁, u₂, u₃, catchUp, hs.trans h₁, h₂, h₃, h₄.trans ht, hread⟩ }

/-- A successful loop over the bindings has one result for each. -/
theorem exec_catchUpBindings {target : SyncTarget} {state : TargetState}
    {bindings : List StreamBinding} {s t : σ} {results : List GatewayCatchUpResult}
    (h : Prog.Exec ((handler now).within cell) R
      (catchUpBindings hooks actor subscriberID target state limit totalLimit operation
        bindings).run s (.ok results) t) :
    ReflTransGen R s t ∧
      List.Forall₂ (fun b result => ResultRead cell R hooks actor subscriberID limit totalLimit
        operation target b state s t result) bindings results := by
  induction bindings generalizing s t results with
  | nil =>
      obtain ⟨rfl, rfl⟩ := Prog.exec_pure_ok.mp h
      exact ⟨.refl, .nil⟩
  | cons b bindings ih =>
      obtain ⟨catchUp, v, hcatchUp, hafter⟩ := Prog.exec_bind_ok.mp h
      obtain ⟨u₁, u₂, h₁, h₂, h₃, heq⟩ := Memory.exec_catchUp hcatchUp
      obtain ⟨batch, hbatch, hafter⟩ := Prog.exec_ofExcept_bind_ok.mp hafter
      obtain ⟨rest, hrest, rfl⟩ := Prog.exec_bind_pure_ok.mp hafter
      obtain ⟨hw, hforall⟩ := ih hrest
      have hsv : ReflTransGen R s v := h₁.trans (h₂.trans h₃)
      refine ⟨hsv.trans hw, .cons ?_ (hforall.imp fun _ _ hres => hres.widen hsv .refl)⟩
      exact ⟨rfl, rfl, rfl, u₁, u₂, v, catchUp, h₁, h₂, h₃, hw, heq.symm, rfl, hbatch⟩

/-- Each entry on the right of a pairing has its partner on the left. -/
theorem exists_partner {α β : Type} {P : α → β → Prop} {as : List α} {bs : List β}
    (h : List.Forall₂ P as bs) {b : β} (hb : b ∈ bs) : ∃ a ∈ as, P a b := by
  induction h with
  | nil => simp at hb
  | cons hP _ ih =>
      rcases List.mem_cons.mp hb with rfl | hmem
      · exact ⟨_, List.mem_cons_self, hP⟩
      · obtain ⟨a, ha, haP⟩ := ih hmem
        exact ⟨a, List.mem_cons_of_mem _ ha, haP⟩

/-- A pairing split at an entry on the left. -/
theorem split_partner {α β : Type} {P : α → β → Prop} {front back : List α} {a : α} {bs : List β}
    (h : List.Forall₂ P (front ++ a :: back) bs) :
    ∃ front' b back', bs = front' ++ b :: back' ∧ List.Forall₂ P front front' ∧ P a b ∧
      List.Forall₂ P back back' := by
  induction front generalizing bs with
  | nil =>
      obtain ⟨b, back', hab, hback, rfl⟩ := List.forall₂_cons_left_iff.mp h
      exact ⟨[], b, back', rfl, .nil, hab, hback⟩
  | cons x front ih =>
      obtain ⟨y, rest, hxy, hrest, rfl⟩ := List.forall₂_cons_left_iff.mp h
      obtain ⟨front', b, back', rfl, hfront, hab, hback⟩ := ih hrest
      exact ⟨y :: front', b, back', rfl, .cons hxy hfront, hab, hback⟩

/-- Everything a poll says of one of its results: the target and the binding it is for, and where
the cursor in its state and its batch were read from, in the order of time. -/
structure Polled (cell : Cell σ Store) (R : σ → σ → Prop) (hooks : Hooks Actor) (actor : Actor)
    (subscriberID : SubscriberID) (limit totalLimit : Int) (operation : Operation) (s t : σ)
    (target : SyncTarget) (b : StreamBinding) (result : GatewayCatchUpResult) : Prop where
  resolved : ∃ bindings, resolveBindings hooks actor target = .ok bindings ∧ b ∈ bindings
  read : ∃ state u u', state.target = target ∧ ReflTransGen R s u ∧ ReflTransGen R u u' ∧
    bindingCursorSeq state b.bindingKey = (cell.get u).committed subscriberID b.streamID ∧
    ResultRead cell R hooks actor subscriberID limit totalLimit operation target b state u' t result

/-- A polled result is one of any longer stretch of the run. -/
theorem Polled.widen {target : SyncTarget} {b : StreamBinding} {s s' t t' : σ}
    {result : GatewayCatchUpResult} (hs : ReflTransGen R s' s) (ht : ReflTransGen R t t')
    (h : Polled cell R hooks actor subscriberID limit totalLimit operation s t target b result) :
    Polled cell R hooks actor subscriberID limit totalLimit operation s' t' target b result := by
  obtain ⟨state, u, u', htarget, hu, hu', hcursor, hread⟩ := h.read
  exact ⟨h.resolved, state, u, u', htarget, hs.trans hu, hu', hcursor, hread.widen .refl ht⟩

/-- One target of a catch-up: one result for each of its bindings, in their order. -/
theorem exec_catchUpTarget (hsub : subscriberID ≠ "") {target : SyncTarget} {s t : σ}
    {results : List GatewayCatchUpResult}
    (h : Prog.Exec ((handler now).within cell) R
      (catchUpTarget hooks actor subscriberID limit totalLimit operation target).run s
        (.ok results) t) :
    ReflTransGen R s t ∧ ∃ bindings, resolveBindings hooks actor target = .ok bindings ∧
      List.Forall₂ (fun b result => Polled cell R hooks actor subscriberID limit totalLimit
        operation s t target b result) bindings results := by
  obtain ⟨bindings, hresolve, hafter⟩ := Prog.exec_ofExcept_bind_ok.mp h
  obtain ⟨-, -, hafter⟩ := Prog.exec_ofExcept_bind_ok.mp hafter
  obtain ⟨state, v, hstate, hloop⟩ := Prog.exec_bind_ok.mp hafter
  obtain ⟨hall, hnodup⟩ := resolveBindings_ok hresolve
  obtain ⟨hv, _, heq, htarget, hcursors⟩ :=
    exec_targetState hsub (fun b hb => (hall b hb).1) hnodup hstate
  cases heq
  obtain ⟨ht, hforall⟩ := exec_catchUpBindings hloop
  refine ⟨hv.trans ht, bindings, hresolve, ?_⟩
  rw [List.forall₂_iff_get] at hforall ⊢
  refine ⟨hforall.1, ?_⟩
  intro i hb hresult
  have hmem := List.get_mem bindings ⟨i, hb⟩
  obtain ⟨w, hw, hw', hcursor⟩ := hcursors _ hmem
  exact ⟨⟨bindings, hresolve, hmem⟩, state, w, v, htarget, hw, hw', hcursor,
    hforall.2 i hb hresult⟩

/-- A target is polled at some time between `s` and `t`. -/
def PolledPart (cell : Cell σ Store) (R : σ → σ → Prop) (now : Int) (hooks : Hooks Actor)
    (actor : Actor) (subscriberID : SubscriberID) (limit totalLimit : Int) (operation : Operation)
    (s t : σ) (target : SyncTarget) (part : List GatewayCatchUpResult) : Prop :=
  ∃ u v, ReflTransGen R s u ∧ ReflTransGen R v t ∧
    Prog.Exec ((handler now).within cell) R
      (catchUpTarget hooks actor subscriberID limit totalLimit operation target).run u (.ok part) v

/-- The loop over the targets: one after the other is polled, and their results are concatenated. -/
theorem exec_catchUpTargets_parts (hsub : subscriberID ≠ "") {targets : List SyncTarget} {s t : σ}
    {results : List GatewayCatchUpResult}
    (h : Prog.Exec ((handler now).within cell) R
      (catchUpTargets hooks actor subscriberID limit totalLimit operation targets).run s
        (.ok results) t) :
    ReflTransGen R s t ∧ ∃ parts : List (List GatewayCatchUpResult), results = parts.flatten ∧
      List.Forall₂ (PolledPart cell R now hooks actor subscriberID limit totalLimit operation s t)
        targets parts := by
  induction targets generalizing s t results with
  | nil =>
      obtain ⟨rfl, rfl⟩ := Prog.exec_pure_ok.mp h
      exact ⟨.refl, [], rfl, .nil⟩
  | cons target targets ih =>
      obtain ⟨front, u, hfront, hafter⟩ := Prog.exec_bind_ok.mp h
      obtain ⟨hu, -⟩ := exec_catchUpTarget hsub hfront
      obtain ⟨rest, hrest, rfl⟩ := Prog.exec_bind_pure_ok.mp hafter
      obtain ⟨hv, parts, rfl, hparts⟩ := ih hrest
      refine ⟨hu.trans hv, front :: parts, rfl, .cons ⟨s, u, .refl, hv, hfront⟩ ?_⟩
      refine hparts.imp ?_
      rintro target' part ⟨x, y, hx, hy, hpart⟩
      exact ⟨x, y, hu.trans hx, hy, hpart⟩

/-- Every result of a catch-up is one of a binding of one of its targets. -/
theorem exec_catchUpTargets (hsub : subscriberID ≠ "") {targets : List SyncTarget} {s t : σ}
    {results : List GatewayCatchUpResult}
    (h : Prog.Exec ((handler now).within cell) R
      (catchUpTargets hooks actor subscriberID limit totalLimit operation targets).run s
        (.ok results) t) :
    ReflTransGen R s t ∧ ∀ result ∈ results, ∃ target ∈ targets, ∃ b,
      Polled cell R hooks actor subscriberID limit totalLimit operation s t target b result := by
  obtain ⟨ht, parts, rfl, hparts⟩ := exec_catchUpTargets_parts hsub h
  refine ⟨ht, ?_⟩
  intro result hresult
  obtain ⟨part, hpart, hmem⟩ := List.mem_flatten.mp hresult
  obtain ⟨target, htarget, u, v, hu, hv, hexec⟩ := exists_partner hparts hpart
  obtain ⟨-, bindings, -, hpolled⟩ := exec_catchUpTarget hsub hexec
  obtain ⟨b, -, hb⟩ := exists_partner hpolled hmem
  exact ⟨target, htarget, b, hb.widen hu hv⟩

/-- The results of one target have its name, and pairwise distinct binding keys. -/
theorem exec_catchUpTarget_distinct (hsub : subscriberID ≠ "") {target : SyncTarget} {s t : σ}
    {results : List GatewayCatchUpResult}
    (h : Prog.Exec ((handler now).within cell) R
      (catchUpTarget hooks actor subscriberID limit totalLimit operation target).run s
        (.ok results) t) :
    (∀ result ∈ results, result.target = target) ∧ (results.map (·.bindingKey)).Nodup := by
  obtain ⟨-, bindings, hresolve, hpolled⟩ := exec_catchUpTarget hsub h
  constructor
  · intro result hresult
    obtain ⟨b, -, hb⟩ := exists_partner hpolled hresult
    obtain ⟨_, _, _, -, -, -, -, hread⟩ := hb.read
    exact hread.forTarget
  · have hkeys : results.map (·.bindingKey) = bindings.map (·.bindingKey) := by
      rw [← List.forall₂_eq_eq_eq, List.forall₂_map_left_iff, List.forall₂_map_right_iff]
      refine hpolled.flip.imp ?_
      intro result b hb
      obtain ⟨_, _, _, -, -, -, -, hread⟩ := hb.read
      exact hread.forBinding
    exact hkeys ▸ (resolveBindings_ok hresolve).2

/-- The partners of distinct entries. -/
theorem pairwise_partners {α β : Type} {P : α → β → Prop} {as : List α} {bs : List β}
    (h : List.Forall₂ P as bs) (hnodup : as.Nodup) :
    bs.Pairwise fun b b' => ∃ a a', a ≠ a' ∧ P a b ∧ P a' b' := by
  induction h with
  | nil => exact .nil
  | @cons a b as bs hP hrest ih =>
      obtain ⟨hnot, hnodup'⟩ := List.nodup_cons.mp hnodup
      refine .cons ?_ (ih hnodup')
      intro b' hb'
      obtain ⟨a', ha', hP'⟩ := exists_partner hrest hb'
      exact ⟨a, a', fun heq => hnot (heq ▸ ha'), hP, hP'⟩

/-- A catch-up that succeeds resolves the subscriber and polls the targets. -/
theorem exec_catchUp_targets {requested : SubscriberID} {targets : List SyncTarget} {s t : σ}
    {results : List GatewayCatchUpResult}
    (h : Prog.Exec ((handler now).within cell) R
      (catchUp hooks actor requested targets limit totalLimit operation).run s (.ok results) t) :
    ∃ subscriberID, resolveSubscriber hooks actor requested = .ok subscriberID ∧
      subscriberID ≠ "" ∧ Prog.Exec ((handler now).within cell) R
        (catchUpTargets hooks actor subscriberID limit totalLimit operation targets).run s
          (.ok results) t := by
  obtain ⟨subscriberID, hresolve, hafter⟩ := Prog.exec_ofExcept_bind_ok.mp h
  obtain ⟨-, -, hafter⟩ := Prog.exec_ofExcept_bind_ok.mp hafter
  exact ⟨subscriberID, hresolve, resolveSubscriber_ne hresolve, hafter⟩

/-- What a successful catch-up of the gateway returns. -/
theorem exec_catchUp {requested : SubscriberID} {targets : List SyncTarget} {s t : σ}
    {results : List GatewayCatchUpResult}
    (h : Prog.Exec ((handler now).within cell) R
      (catchUp hooks actor requested targets limit totalLimit operation).run s (.ok results) t) :
    ∃ subscriberID, resolveSubscriber hooks actor requested = .ok subscriberID ∧
      ∀ result ∈ results, ∃ target ∈ targets, ∃ b,
        Polled cell R hooks actor subscriberID limit totalLimit operation s t target b result := by
  obtain ⟨subscriberID, hresolve, hsub, htargets⟩ := exec_catchUp_targets h
  obtain ⟨-, hpolled⟩ := exec_catchUpTargets hsub htargets
  exact ⟨subscriberID, hresolve, hpolled⟩

/-- Of two results of a catch-up of distinct targets, those for one target have distinct binding
keys. -/
theorem exec_catchUp_distinct {requested : SubscriberID} {targets : List SyncTarget}
    (hnodup : targets.Nodup) {s t : σ} {results : List GatewayCatchUpResult}
    (h : Prog.Exec ((handler now).within cell) R
      (catchUp hooks actor requested targets limit totalLimit operation).run s (.ok results) t) :
    results.Pairwise fun r r' => r.target = r'.target → r.bindingKey ≠ r'.bindingKey := by
  obtain ⟨subscriberID, -, hsub, htargets⟩ := exec_catchUp_targets h
  obtain ⟨-, parts, rfl, hparts⟩ := exec_catchUpTargets_parts hsub htargets
  refine List.pairwise_flatten.mpr ⟨?_, (pairwise_partners hparts hnodup).imp ?_⟩
  · intro part hpart
    obtain ⟨target, -, u, v, -, -, hexec⟩ := exists_partner hparts hpart
    refine (List.pairwise_map.mp (exec_catchUpTarget_distinct hsub hexec).2).imp ?_
    intro r r' hne _
    exact hne
  · rintro part part' ⟨target, target', hne, ⟨_, _, -, -, hexec⟩, ⟨_, _, -, -, hexec'⟩⟩
    intro r hr r' hr' heq
    rw [(exec_catchUpTarget_distinct hsub hexec).1 r hr,
      (exec_catchUpTarget_distinct hsub hexec').1 r' hr'] at heq
    exact absurd heq hne

end CatchUp

/-! ## Snapshots -/

section Snapshot

variable {Actor : Type} {hooks : Hooks Actor} {actor : Actor}

/-- What the answer to a request for a snapshot went through: the binding was selected among those
of the target that was asked for, the hooks agreed, the snapshot was read from a store between `s`
and `t`, and the state of the target after that. -/
structure SnapshotRead (cell : Cell σ Store) (R : σ → σ → Prop) (now : Int)
    (hooks : Hooks Actor) (actor : Actor) (req : GatewayGetLatestSnapshotRequest) (s t : σ)
    (resp : GatewayGetLatestSnapshotResponse) (subscriberID : SubscriberID) (target : SyncTarget)
    (bindings : List StreamBinding) (b : StreamBinding) (snapshot : Snapshot) : Prop where
  canonical : resolveSubscriber hooks actor req.subscriberId = .ok subscriberID
  forTarget : req.target = some target
  typed : req.payloadType ≠ ""
  resolved : resolveBindings hooks actor target = .ok bindings
  authorized : hooks.authorize { actor, operation := .getSnapshot, target,
                                 payloadType := req.payloadType, subscriberID } = .ok ()
  selected : selectBinding bindings req.bindingKey = .ok b
  listed : requireAllowedType b.snapshotTypes req.payloadType "snapshot" = .ok ()
  allowed : hooks.allowSnapshot actor target req.payloadType = .ok ()
  stored : ∃ u, ReflTransGen R s u ∧ ReflTransGen R u t ∧
    (cell.get u).getLatestSnapshot b.streamID req.payloadType req.maxPayloadVersion = .ok snapshot
  decodable : hooks.canDecode snapshot.ref.payloadType snapshot.ref.payloadVersion = true
  answered : resp.snapshot = gatewaySnapshot target b snapshot
  withState : ∃ u, ReflTransGen R s u ∧ Prog.Exec ((handler now).within cell) R
    (targetState subscriberID target bindings).run u (.ok resp.state) t

/-- The snapshot that is answered was read for the binding that is named. -/
theorem exec_gatewayGetLatestSnapshot {req : GatewayGetLatestSnapshotRequest}
    {resp : GatewayGetLatestSnapshotResponse} {s t : σ}
    (h : Prog.Exec ((handler now).within cell) R (gatewayGetLatestSnapshot hooks actor req).run s
      (.ok resp) t) :
    ∃ subscriberID target bindings b snapshot,
      SnapshotRead cell R now hooks actor req s t resp subscriberID target bindings b snapshot := by
  unfold gatewayGetLatestSnapshot at h
  obtain ⟨subscriberID, hsub, hafter⟩ := Prog.exec_ofExcept_bind_ok.mp h
  obtain ⟨target, hvalid, hafter⟩ := Prog.exec_ofExcept_bind_ok.mp hafter
  have htarget : req.target = some target := by
    cases hreq : req.target with
    | none =>
        rw [hreq] at hvalid
        cases hvalid
    | some target' =>
        rw [hreq] at hvalid
        rw [validateTarget_ok hvalid]
  split_ifs at hafter with hempty
  · obtain ⟨_, _, hthrow, -⟩ := Prog.exec_bind_ok.mp hafter
    obtain ⟨heq, -⟩ := Prog.exec_throw.mp hthrow
    cases heq
  · obtain ⟨bindings, hresolve, hafter⟩ := Prog.exec_ofExcept_bind_ok.mp hafter
    obtain ⟨⟨⟩, hauth, hafter⟩ := Prog.exec_ofExcept_bind_ok.mp hafter
    obtain ⟨b, hselect, hafter⟩ := Prog.exec_ofExcept_bind_ok.mp hafter
    obtain ⟨⟨⟩, hlisted, hafter⟩ := Prog.exec_ofExcept_bind_ok.mp hafter
    obtain ⟨⟨⟩, hallowed, hafter⟩ := Prog.exec_ofExcept_bind_ok.mp hafter
    obtain ⟨snapshot, _, hread, hafter⟩ := Prog.exec_bind_ok.mp hafter
    obtain ⟨u, hu, hcall⟩ := Prog.exec_performE.mp hread
    simp only [Handler.within, handler, cell.set_get, Prod.mk.injEq] at hcall
    obtain ⟨hsnapshot, rfl⟩ := hcall
    obtain ⟨⟨⟩, hcodec, hafter⟩ := Prog.exec_ofExcept_bind_ok.mp hafter
    obtain ⟨state, hstate, rfl⟩ := Prog.exec_bind_pure_ok.mp hafter
    obtain ⟨hall, hnodup⟩ := resolveBindings_ok hresolve
    obtain ⟨ht, -⟩ := exec_targetState (resolveSubscriber_ne hsub) (fun b hb => (hall b hb).1)
      hnodup hstate
    have hdecodable : hooks.canDecode snapshot.ref.payloadType snapshot.ref.payloadVersion =
        true := by
      unfold checkSnapshotCodec at hcodec
      split_ifs at hcodec with hcan
      exact hcan
    exact ⟨subscriberID, target, bindings, b, snapshot, hsub, htarget, hempty, hresolve, hauth,
      hselect, hlisted, hallowed, ⟨u, hu, ht, hsnapshot⟩, hdecodable, rfl, u, hu, hstate⟩

end Snapshot

end Exec

end Synclog.Gateway
