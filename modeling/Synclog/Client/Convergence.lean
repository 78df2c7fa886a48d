import Synclog.Client.Termination
import Synclog.Gateway.AddedTarget

/-!
# A client that catches up when all is quiet

Exactly-once projection says that a record never holds anything but the fold of the first events of
the stream. Once nothing else happens on the server, `SyncClient.catchUp` makes it the fold of all.

* `Consistent` — the record is right for the log of the server, and the committed cursor is not
  ahead of it; `Consistent.run` — whatever projects, alone with the server, keeps it so.
* `Round` — what one round of the loop may lead to.
* `Obliging`, `CanCatchUp` — the hooks refuse nothing, and some replay is not too long.
* `catchUp_converges` — after any run of the whole, a catch-up that returns has applied everything,
  and where it can, it returns.
-/

namespace Synclog.Client

open Synclog.Lib Synclog.Core Synclog.Memory Synclog.Gateway
open Prog (Meets)

section Convergence

variable {R V TSnapshot TEvent Actor : Type} (hooks : Hooks Actor) (actor : Actor)
  (opts : SyncClientOptions) (binding : SyncBinding TSnapshot TEvent) (b : StreamBinding)
  (canonical : SubscriberID) (store : ProjectionStore R V TSnapshot TEvent)

/-! ## Consistent states -/

/-- The server holds the log, its snapshots and the client's record are right for it, and the
committed cursor is not ahead of the record. -/
structure Consistent (L : TrimmedLog Event) (σ : SoleClient R) : Prop where
  reachable : Reachable σ.server
  holds : σ.server.Holds b.streamID L
  snapshots : ∀ key snapshot, σ.server.snapshots.lookup key = some snapshot →
    key.streamID = b.streamID → (snapshotRule store binding b).Right L.all snapshot
  record : RecordOk store binding b L.all (σ.records (recordKey opts binding b))
  committed : σ.server.committed canonical b.streamID ≤
    store.appliedSeq (σ.records (recordKey opts binding b))

variable {hooks actor opts binding b canonical store} {L : TrimmedLog Event} {σ : SoleClient R}

/-- The client means the one binding of its target. -/
theorem FixedBinding.selects (h : FixedBinding hooks actor opts binding b canonical) :
    selectBinding [b] (binding.bindingKey.getD "") = .ok b := by
  rw [h.unset]
  rfl

/-- The binding of the client has a key. -/
theorem FixedBinding.bindingKey_ne (h : FixedBinding hooks actor opts binding b canonical) :
    b.bindingKey ≠ "" :=
  ((resolveBindings_ok h.resolves).1 b (List.mem_singleton_self b)).2

/-- The record of the client is the one of its binding. -/
theorem FixedBinding.recordKey_bindingKey
    (h : FixedBinding hooks actor opts binding b canonical) :
    (recordKey opts binding b).bindingKey = b.bindingKey := by
  simp [recordKey, keyFor, h.unset, normalizeBindingKey, h.bindingKey_ne]

/-- The client acknowledges for the one binding. -/
theorem FixedBinding.selects_recordKey
    (h : FixedBinding hooks actor opts binding b canonical) :
    selectBinding [b] (recordKey opts binding b).bindingKey = .ok b := by
  rw [h.recordKey_bindingKey]
  exact selectBinding_of_mem (List.mem_singleton_self b) h.bindingKey_ne (by simp)

/-- An acknowledgement that is not ahead of the record. -/
theorem Consistent.ack (h : Consistent opts binding b canonical store L σ) {t : Store} {seq : Nat}
    (ht : Reachable t) (heffect : AckEffect σ.server canonical b.streamID seq "" t)
    (hseq : seq ≤ store.appliedSeq (σ.records (recordKey opts binding b))) :
    Consistent opts binding b canonical store L { σ with server := t } where
  reachable := ht
  holds := by
    have hstreams : t.ensureStream b.streamID = σ.server.ensureStream b.streamID := by
      rw [heffect.rest]
      rfl
    unfold Store.Holds
    rw [hstreams]
    exact h.holds
  snapshots key snapshot hkey := by
    have hsnapshots : t.snapshots = σ.server.snapshots := by rw [heffect.rest]
    exact h.snapshots key snapshot (hsnapshots ▸ hkey)
  record := h.record
  committed := by
    rw [heffect.cursor]
    exact max_le h.committed hseq

/-- A permitted call to the projection store. -/
theorem Consistent.records (h : Consistent opts binding b canonical store L σ) {β : Type}
    {c : ClientCall TSnapshot TEvent β}
    (hpre : View.Permits store opts binding b ⟨L.all, σ.records (recordKey opts binding b)⟩ β c) :
    Consistent opts binding b canonical store L
      { σ with records := recordsAfter store c σ.records } := by
  obtain ⟨hrecord, hle⟩ := recordOk_after h.record hpre
  exact ⟨h.reachable, h.holds, h.snapshots, hrecord, h.committed.trans hle⟩

/-- The batches that a catch-up alone answers: what the log has behind the committed cursor. -/
theorem batch_of_catchUp (hfixed : FixedBinding hooks actor opts binding b canonical) {s t : Store}
    (hL : s.Holds b.streamID L) {limit totalLimit : Int} {operation : Operation}
    {results : List GatewayCatchUpResult}
    (hrun : Prog.run (Memory.handler 0) (Gateway.catchUp hooks actor opts.subscriberId
      [binding.target] limit totalLimit operation).run s = (.ok results, t)) :
    ∀ result ∈ results, ∀ batch, result.batch = some batch →
      batch = toGatewayBatch binding.target b.bindingKey
        (batchAfter L (s.committed canonical b.streamID) (normalizeLimit limit)) := by
  have hexec := Prog.exec_run (Memory.handler 0) (fun _ _ => False)
    (Gateway.catchUp hooks actor opts.subscriberId [binding.target] limit totalLimit
      operation).run s
  rw [hrun, ← handler_within_whole] at hexec
  obtain ⟨subscriberID, hsub, hpolled⟩ := Gateway.exec_catchUp hexec
  obtain rfl := Except.ok.inj (hfixed.subscriber.symm.trans hsub)
  intro result hresult batch hbatch
  obtain ⟨target, htarget, b', hb'⟩ := hpolled result hresult
  obtain rfl := List.mem_singleton.mp htarget
  obtain ⟨bindings, hresolve, hmem⟩ := hb'.resolved
  obtain rfl := Except.ok.inj (hfixed.resolves.symm.trans hresolve)
  obtain rfl := List.mem_singleton.mp hmem
  obtain ⟨state, u, u', -, hu, hu', -, hread⟩ := hb'.read
  obtain ⟨u₁, u₂, u₃, answer, h₁, h₂, h₃, -, hanswer, -, hresult⟩ := hread.reads
  obtain rfl := Prog.eq_of_alone hu
  obtain rfl := Prog.eq_of_alone hu'
  obtain rfl := Prog.eq_of_alone h₁
  obtain rfl := Prog.eq_of_alone h₂
  obtain rfl := Prog.eq_of_alone h₃
  have hid : b'.streamID ≠ "" :=
    ((resolveBindings_ok hfixed.resolves).1 b' (List.mem_singleton_self b')).1
  have hsome := hanswer.symm.trans
    (catchUpOf_eq (resolveSubscriber_ne hfixed.subscriber) hid hL hL)
  obtain rfl := Except.ok.inj hsome
  have hwhole := resultBatch_eq hresult
  rw [hbatch] at hwhole
  split_ifs at hwhole with hstatus
  obtain ⟨-, heq⟩ := catchUpResult_ok hstatus
  rw [heq] at hwhole
  exact Option.some.inj hwhole

variable (opts binding b canonical L σ) in
/-- The batch behind the committed cursor. -/
def nextBatch : GatewayBatch :=
  toGatewayBatch binding.target b.bindingKey
    (batchAfter L (σ.server.committed canonical b.streamID)
      (normalizeLimit (catchUpRequest opts binding).limitPerTarget))

variable (opts binding b canonical σ) in
/-- The replay for the client is too long. -/
def ReplayTooLong : Prop :=
  TooLongAt σ.server b.streamID (catchUpRequest opts binding).totalLimitPerTarget
    (σ.server.committed canonical b.streamID)

/-- What the gateway answers to the client's request, alone: that the replay is too long, or what
the log has behind the committed cursor. Or it fails, where the catch-up is not granted. -/
theorem Consistent.call_catchUp (h : Consistent opts binding b canonical store L σ)
    (hfixed : FixedBinding hooks actor opts binding b canonical) :
    (∃ result, σ.call (gatewayCatchUp hooks actor (catchUpRequest opts binding)) =
          (.ok [result], σ) ∧
        (∀ batch, result.batch = some batch → batch = nextBatch opts binding b canonical L σ) ∧
        (result.status = .tooLong ∧ ReplayTooLong opts binding b canonical σ ∨
          result.status = .ok ∧ ¬ ReplayTooLong opts binding b canonical σ ∧
            result.batch = some (nextBatch opts binding b canonical L σ))) ∨
      (∃ message, σ.call (gatewayCatchUp hooks actor (catchUpRequest opts binding)) =
          (.error (.rejected message), σ)) ∧
        ¬ CatchUpGranted hooks actor σ.server binding.target
          (catchUpRequest opts binding).limitPerTarget
          (catchUpRequest opts binding).totalLimitPerTarget .catchUp opts.subscriberId canonical
          [b] := by
  rcases catchUp_alone hooks actor binding.target (catchUpRequest opts binding).limitPerTarget
      (catchUpRequest opts binding).totalLimitPerTarget .catchUp h.reachable opts.subscriberId with
    ⟨results, subscriberID, bindings, hrun, hgranted, hforall⟩ | ⟨err, hrun, hdenied⟩
  · obtain rfl := Except.ok.inj (hfixed.subscriber.symm.trans hgranted.subscriber)
    obtain rfl := Except.ok.inj (hfixed.resolves.symm.trans hgranted.resolves)
    obtain ⟨result, _, hfor, hnil, rfl⟩ := List.forall₂_cons_left_iff.mp hforall
    obtain rfl := List.forall₂_nil_left_iff.mp hnil
    have hall := batch_of_catchUp hfixed h.holds hrun result (List.mem_singleton_self _)
    refine .inl ⟨result, SoleClient.call_ok hrun, hall, ?_⟩
    rcases hfor.answer with hlong | ⟨hstatus, hshort, inner, hbatch, -⟩
    · exact .inl hlong
    · exact .inr ⟨hstatus, hshort, hbatch.trans (congrArg some (hall _ hbatch))⟩
  · exact .inr ⟨⟨err.message, SoleClient.call_error hrun⟩, hdenied _ _⟩

/-- The batch is one of the stream, and begins no later than behind the applied seq. -/
theorem Consistent.batchOk (h : Consistent opts binding b canonical store L σ) :
    BatchOk binding b L.all (store.appliedSeq (σ.records (recordKey opts binding b)))
      (nextBatch opts binding b canonical L σ) := by
  refine ⟨_, _, rfl, h.committed, ?_, numbered_batchAfter _ _ h.holds.numbered⟩
  rw [events_batchAfter]
  exact List.take_prefix _ _

/-- A permitted call gets an answer that the contract allows, and keeps everything consistent. -/
theorem Consistent.answers (hfixed : FixedBinding hooks actor opts binding b canonical)
    (h : Consistent opts binding b canonical store L σ) {β : Type}
    {c : ClientCall TSnapshot TEvent β}
    (hpre : View.Permits store opts binding b ⟨L.all, σ.records (recordKey opts binding b)⟩ β c)
    {r : β} {τ : SoleClient R} (hrun : undisturbed hooks actor store β c σ = (r, τ)) :
    View.Answers store binding b ⟨L.all, σ.records (recordKey opts binding b)⟩ β c r
        ⟨L.all, τ.records (recordKey opts binding b)⟩ ∧
      Consistent opts binding b canonical store L τ := by
  cases c with
  | catchUp req =>
      obtain rfl : req = catchUpRequest opts binding := hpre
      change σ.call _ = _ at hrun
      rcases h.call_catchUp hfixed with ⟨result, hcall, hbatches, -⟩ | ⟨⟨message, hcall⟩, -⟩
      · obtain ⟨rfl, rfl⟩ := Prod.mk.inj (hcall.symm.trans hrun)
        refine ⟨⟨.refl _, ?_⟩, h⟩
        intro result' hmem batch hbatch
        obtain rfl := List.mem_singleton.mp hmem
        rw [hbatches batch hbatch]
        exact h.batchOk
      · obtain ⟨rfl, rfl⟩ := Prod.mk.inj (hcall.symm.trans hrun)
        exact ⟨.refl _, h⟩
  | ack req =>
      obtain ⟨seq, hseq, rfl⟩ := hpre
      rcases ack_cases store σ h.reachable hfixed.subscriber hfixed.resolves hfixed.selects
          seq with
        ⟨t, hcall, -, hreach, heffect⟩ | ⟨message, hcall, -⟩
      · obtain ⟨rfl, rfl⟩ := Prod.mk.inj (hcall.symm.trans hrun)
        exact ⟨.refl _, h.ack hreach heffect hseq⟩
      · obtain ⟨rfl, rfl⟩ := Prod.mk.inj (hcall.symm.trans hrun)
        exact ⟨.refl _, h⟩
  | getLatestSnapshot req =>
      obtain rfl : req = snapshotRequest opts binding := hpre
      change σ.call _ = _ at hrun
      rcases getLatestSnapshot_alone hooks actor σ.server (snapshotRequest opts binding) with
        ⟨resp, subscriberID, target, bindings, b', snapshot, hanswer, hgranted, hresp⟩ |
          ⟨err, hanswer, -⟩
      · obtain ⟨rfl, rfl⟩ := Prod.mk.inj
          ((SoleClient.call_ok (Prog.run_bindE_of_ok hanswer)).symm.trans hrun)
        obtain rfl : binding.target = target := Option.some.inj hgranted.forTarget
        obtain rfl := Except.ok.inj (hfixed.resolves.symm.trans hgranted.resolves)
        obtain rfl := List.mem_singleton.mp (mem_of_selectBinding hgranted.selects)
        obtain ⟨key, hlookup, hcompatible⟩ := Store.getLatestSnapshot_stored hgranted.stored
        have hstream : key.streamID = b'.streamID := by
          simp only [Store.compatible, Bool.and_eq_true, decide_eq_true_eq] at hcompatible
          exact hcompatible.1.1
        exact ⟨⟨.refl _, snapshot, hresp, h.snapshots key snapshot hlookup hstream⟩, h⟩
      · obtain ⟨rfl, rfl⟩ := Prod.mk.inj
          ((SoleClient.call_error (Prog.run_bindE_of_error hanswer)).symm.trans hrun)
        exact ⟨.refl _, h⟩
  | getAppliedSeq key =>
      obtain rfl : key = recordKey opts binding b := hpre
      cases hrun
      exact ⟨⟨.refl _, rfl⟩, h⟩
  | applyEvents key events =>
      have hafter := h.records hpre
      obtain ⟨rfl, -⟩ := hpre
      cases hrun
      exact ⟨⟨List.prefix_rfl,
        recordsAfter_applyEvents store (recordKey opts binding b) events σ.records⟩, hafter⟩
  | applySnapshot key snapshot =>
      have hafter := h.records hpre
      obtain ⟨rfl, -⟩ := hpre
      cases hrun
      exact ⟨⟨List.prefix_rfl,
        recordsAfter_applySnapshot store (recordKey opts binding b) snapshot σ.records⟩, hafter⟩
  | subscribe | next | aborted =>
      cases hrun
      exact ⟨.refl _, h⟩

/-- Alone with the server, a program that projects keeps everything consistent. -/
theorem Consistent.run (hfixed : FixedBinding hooks actor opts binding b canonical)
    (h : Consistent opts binding b canonical store L σ) {α : Type}
    {p : Prog (ClientCall TSnapshot TEvent) α}
    (hp : Meets (projecting store opts binding b) View.Grows (fun _ _ => True) p
      ⟨L.all, σ.records (recordKey opts binding b)⟩) :
    Consistent opts binding b canonical store L (p.run (undisturbed hooks actor store) σ).2 := by
  have hcall : ∀ (β : Type) (c : ClientCall TSnapshot TEvent β) (σ : SoleClient R) v,
      (Consistent opts binding b canonical store L σ ∧
        v = ⟨L.all, σ.records (recordKey opts binding b)⟩) →
      (projecting store opts binding b).pre β c v →
      ∃ v', (projecting store opts binding b).post β c v
          (undisturbed hooks actor store β c σ).1 v' ∧
        Consistent opts binding b canonical store L (undisturbed hooks actor store β c σ).2 ∧
        v' = ⟨L.all, (undisturbed hooks actor store β c σ).2.records (recordKey opts binding b)⟩
      := by
    rintro β c σ _ ⟨h, rfl⟩ hpre
    obtain ⟨hanswer, hafter⟩ := h.answers hfixed hpre rfl
    exact ⟨_, hanswer, hafter, rfl⟩
  obtain ⟨v, ⟨hv, -⟩, -⟩ := hp.run hcall ⟨h, rfl⟩
  exact hv

/-! ## One round -/

variable (hooks actor) in
/-- What is new of the next batch goes into the record, which then has all of the batch. -/
theorem Consistent.run_applyNew (h : Consistent opts binding b canonical store L σ) :
    ∃ records, Prog.run (undisturbed hooks actor store)
        (applyNew (recordKey opts binding b)
          (newEvents binding (store.appliedSeq (σ.records (recordKey opts binding b)))
            (nextBatch opts binding b canonical L σ))).run σ = (.ok (), { σ with records }) ∧
      Consistent opts binding b canonical store L { σ with records } ∧
      ∀ event ∈ (nextBatch opts binding b canonical L σ).events,
        event.seq ≤ store.appliedSeq (records (recordKey opts binding b)) := by
  obtain ⟨c, inner, hbatch, hc, hpiece, hcons⟩ := h.batchOk
  obtain ⟨new, hnew, hprefix, hnumbered⟩ := newEvents_eq hbatch hc hpiece hcons
  unfold Client.applyNew
  by_cases hnone : new = []
  · refine ⟨σ.records, ?_, h, ?_⟩
    · rw [if_neg (by simp [hnew, hnone])]
      rfl
    · intro event hevent
      rw [hnone] at hnew
      have hall := List.filter_eq_nil_iff.mp (List.map_eq_nil_iff.mp hnew) event hevent
      simpa using hall
  · have hmap : new.map (decoded binding b) ≠ [] := by simpa using hnone
    have hpre : View.Permits store opts binding b ⟨L.all, σ.records (recordKey opts binding b)⟩ _
        (.applyEvents (recordKey opts binding b) (new.map (decoded binding b))) :=
      ⟨rfl, new, rfl, hnone, hprefix, hnumbered⟩
    have hnumbered' : Consecutive DecodedGatewayEvent.seq
        (store.appliedSeq (σ.records (recordKey opts binding b)) + 1)
        (new.map (decoded binding b)) := Consecutive.map_iff.mpr hnumbered
    have hlast := store.appliedSeq_applyEvents _ _ hmap hnumbered'
    have hend := hnumbered'.getLast_eq hmap
    rw [hnew, if_pos (List.length_pos_of_ne_nil hmap)]
    refine ⟨_, rfl, h.records hpre, ?_⟩
    intro event hevent
    rw [recordsAfter_applyEvents, hlast]
    by_cases hold : event.seq ≤ store.appliedSeq (σ.records (recordKey opts binding b))
    · omega
    · have hmem : decodeEvent binding event ∈ new.map (decoded binding b) := by
        rw [← hnew]
        exact List.mem_map_of_mem (List.mem_filter.mpr ⟨hevent, by simpa using hold⟩)
      have hbounds := (hnumbered'.bounds hmem).2
      have hseq : (decodeEvent binding event).seq = event.seq := rfl
      omega

/-- The next batch: it goes into the record and the committed cursor moves up to the applied seq, or
the acknowledgement is not authorized. -/
theorem Consistent.run_applyBatch (hfixed : FixedBinding hooks actor opts binding b canonical)
    (h : Consistent opts binding b canonical store L σ) :
    (∃ count seq τ, Prog.run (undisturbed hooks actor store)
          (applyBatch opts binding (nextBatch opts binding b canonical L σ)).run σ =
            (.ok (count, seq), τ) ∧
        Consistent opts binding b canonical store L τ ∧
        AckEffect σ.server canonical b.streamID seq "" τ.server ∧
        ∀ event ∈ (nextBatch opts binding b canonical L σ).events, event.seq ≤ seq) ∨
      ∃ err τ, Prog.run (undisturbed hooks actor store)
          (applyBatch opts binding (nextBatch opts binding b canonical L σ)).run σ =
            (.error err, τ) ∧
        hooks.authorize { actor, operation := .ack, target := binding.target,
                          subscriberID := canonical } ≠ .ok () := by
  obtain ⟨records, hnew, hrecords, hall⟩ := h.run_applyNew hooks actor
  have happlied : ∀ τ : SoleClient R, Prog.run (undisturbed hooks actor store)
      (Prog.performE (.getAppliedSeq (recordKey opts binding b))).run τ =
        (.ok (store.appliedSeq (τ.records (recordKey opts binding b))), τ) := fun _ => rfl
  have hack := ack_cases store { σ with records } h.reachable hfixed.subscriber hfixed.resolves
    hfixed.selects (store.appliedSeq (records (recordKey opts binding b)))
  rcases hack with ⟨t, hack, -, hreach, heffect⟩ | ⟨message, hack, hdenied⟩
  · refine .inl ⟨_, _, _, (Prog.run_bindE_of_ok (happlied σ)).trans
      ((Prog.run_bindE_of_ok hnew).trans ((Prog.run_bindE_of_ok (happlied _)).trans
        (Prog.run_bindE_of_ok hack))), ?_, heffect, hall⟩
    exact hrecords.ack hreach heffect le_rfl
  · refine .inr ⟨_, _, (Prog.run_bindE_of_ok (happlied σ)).trans
      ((Prog.run_bindE_of_ok hnew).trans ((Prog.run_bindE_of_ok (happlied _)).trans
        (Prog.run_bindE_of_error hack))), fun hauth => hdenied ?_⟩
    refine ⟨hfixed.subscriber, rfl, hfixed.resolves, hauth, ?_, ?_⟩
    · exact hfixed.selects_recordKey
    · show store.appliedSeq _ ≤ (σ.server.ensureStream b.streamID).head
      rw [h.holds.head]
      exact hrecords.record.1

variable (hooks actor binding b canonical) in
/-- The hooks let the client catch up with the stream. -/
structure Obliging (log : List Event) : Prop where
  catchUp : hooks.authorize { actor, operation := .catchUp, target := binding.target,
                              subscriberID := canonical } = .ok ()
  ack : hooks.authorize { actor, operation := .ack, target := binding.target,
                          subscriberID := canonical } = .ok ()
  events : ∀ event ∈ log, Deliverable hooks actor canonical .catchUp binding.target b event

/-- Where the hooks let the client catch up, the gateway does. -/
theorem Obliging.granted (hobliging : Obliging hooks actor binding b canonical L.all)
    (hfixed : FixedBinding hooks actor opts binding b canonical)
    (hL : σ.server.Holds b.streamID L) {limit totalLimit : Int} :
    CatchUpGranted hooks actor σ.server binding.target limit totalLimit .catchUp opts.subscriberId
      canonical [b] := by
  refine ⟨hfixed.subscriber, hfixed.resolves, hobliging.catchUp, ?_⟩
  intro b' hb' _
  obtain rfl := List.mem_singleton.mp hb'
  refine checkEvents_ok_iff.mpr fun event hevent => hobliging.events event ?_
  have hretained := (List.mem_filter.mp (List.mem_of_mem_take hevent)).1
  rw [hL.events] at hretained
  exact List.mem_of_mem_drop hretained

/-- The next batch has no events exactly where nothing is behind the cursor. -/
theorem nextBatch_empty_iff :
    (nextBatch opts binding b canonical L σ).events.length = 0 ↔
      L.head ≤ σ.server.committed canonical b.streamID := by
  have hpos := normalizeLimit_pos (catchUpRequest opts binding).limitPerTarget
  have hlength : (nextBatch opts binding b canonical L σ).events.length = min
      (normalizeLimit (catchUpRequest opts binding).limitPerTarget)
      (L.all.length - σ.server.committed canonical b.streamID) := by
    simp [nextBatch, toGatewayBatch, events_batchAfter]
  show _ ↔ L.all.length ≤ _
  omega

variable (opts binding) in
/-- The next batch has every event behind the cursor, up to its limit. -/
theorem mem_nextBatch (hL : σ.server.Holds b.streamID L) {n : Nat}
    (hn : σ.server.committed canonical b.streamID < n) (hhead : n ≤ L.head)
    (hlimit : n ≤ σ.server.committed canonical b.streamID +
      normalizeLimit (catchUpRequest opts binding).limitPerTarget) :
    ∃ event ∈ (nextBatch opts binding b canonical L σ).events, event.seq = n := by
  have hlength : (batchAfter L (σ.server.committed canonical b.streamID)
      (normalizeLimit (catchUpRequest opts binding).limitPerTarget)).events.length = min
      (normalizeLimit (catchUpRequest opts binding).limitPerTarget)
      (L.all.length - σ.server.committed canonical b.streamID) := by
    simp [events_batchAfter]
  change n ≤ L.all.length at hhead
  obtain ⟨event, hmem, hseq⟩ := (numbered_batchAfter (σ.server.committed canonical b.streamID)
    (normalizeLimit (catchUpRequest opts binding).limitPerTarget) hL.numbered).exists_mem
    (k := n) (by omega) (by omega)
  exact ⟨_, List.mem_map_of_mem hmem, hseq⟩

end Convergence

/-! ## Whole runs -/

section Runs

variable {R V TSnapshot TEvent Actor : Type} {hooks : Hooks Actor} {actor : Actor}
  {opts : SyncClientOptions} {binding : SyncBinding TSnapshot TEvent} {b : StreamBinding}
  {canonical : SubscriberID} {store : ProjectionStore R V TSnapshot TEvent}
  {L : TrimmedLog Event} {σ : SoleClient R}

variable (opts binding) in
/-- What a round does with a batch. -/
def afterBatch (rounds : Nat) (summary : SyncCatchUpSummary) (batch : GatewayBatch) :
    ClientProg TSnapshot TEvent SyncCatchUpSummary :=
  if batch.events.length = 0 then return summary
  else do
    let (count, seq) ← applyBatch opts binding batch
    let summary := { summary with
      appliedEvents := summary.appliedEvents + count
      ackedSeq := max summary.ackedSeq seq }
    if batch.final then return summary else catchUpLoop opts binding rounds summary

variable (opts binding) in
/-- What a round does when it is told that the replay is too long. -/
def afterTooLong (rounds : Nat) (summary : SyncCatchUpSummary) :
    ClientProg TSnapshot TEvent SyncCatchUpSummary := do
  let seq ← recoverFromSnapshot opts binding
  catchUpLoop opts binding rounds { summary with
    appliedSnapshots := summary.appliedSnapshots + 1
    ackedSeq := max summary.ackedSeq seq }

variable (hooks actor opts binding b canonical store L σ) in
/-- What a round may lead to: the loop returns at the head, it goes on, or it throws. Where the
replay is not too long the committed cursor has advanced, or the hooks refuse something. -/
inductive Round (run : Nat → Except JsError SyncCatchUpSummary × SoleClient R) : Prop
  | returns (summary : SyncCatchUpSummary) (τ : SoleClient R) (hrun : ∀ n, run n = (.ok summary, τ))
      (hτ : Consistent opts binding b canonical store L τ)
      (hhead : L.head ≤ τ.server.committed canonical b.streamID)
  | goesOn (summary : SyncCatchUpSummary) (τ : SoleClient R)
      (hrun : ∀ n, run n = Prog.run (undisturbed hooks actor store)
        (catchUpLoop opts binding n summary).run τ)
      (hτ : Consistent opts binding b canonical store L τ)
      (hprogress : ¬ ReplayTooLong opts binding b canonical σ →
        ¬ ReplayTooLong opts binding b canonical τ ∧
          σ.server.committed canonical b.streamID < τ.server.committed canonical b.streamID)
  | throws (err : JsError) (τ : SoleClient R) (hrun : ∀ n, run n = (.error err, τ))
      (hrefused : ¬ ReplayTooLong opts binding b canonical σ →
        ¬ Obliging hooks actor binding b canonical L.all)

/-- A round with the next batch. -/
theorem Consistent.round_afterBatch (hfixed : FixedBinding hooks actor opts binding b canonical)
    (h : Consistent opts binding b canonical store L σ) (summary : SyncCatchUpSummary)
    (hshort : ¬ ReplayTooLong opts binding b canonical σ) :
    Round hooks actor opts binding b canonical store L σ fun n =>
      Prog.run (undisturbed hooks actor store)
        (afterBatch opts binding n summary (nextBatch opts binding b canonical L σ)).run σ := by
  unfold Client.afterBatch
  have hpos := normalizeLimit_pos (catchUpRequest opts binding).limitPerTarget
  by_cases hempty : (nextBatch opts binding b canonical L σ).events.length = 0
  · simp only [if_pos hempty]
    exact .returns summary σ (fun _ => rfl) h (nextBatch_empty_iff.mp hempty)
  have hbehind : σ.server.committed canonical b.streamID < L.head :=
    Nat.lt_of_not_le (mt nextBatch_empty_iff.mpr hempty)
  simp only [if_neg hempty]
  rcases h.run_applyBatch hfixed with
    ⟨count, seq, τ, hrun, hτ, heffect, hall⟩ | ⟨err, τ, hrun, hdenied⟩
  · have hcursor := heffect.cursor
    by_cases hfinal : (nextBatch opts binding b canonical L σ).final = true
    · refine .returns { summary with
        appliedEvents := summary.appliedEvents + count
        ackedSeq := max summary.ackedSeq seq } τ (fun n => (Prog.run_bindE_of_ok hrun).trans ?_)
        hτ ?_
      · simp only [if_pos hfinal]
        rfl
      · have hreach : L.head ≤ σ.server.committed canonical b.streamID +
            normalizeLimit (catchUpRequest opts binding).limitPerTarget := by
          simpa [nextBatch, toGatewayBatch, final_batchAfter] using hfinal
        obtain ⟨event, hmem, hseq⟩ := mem_nextBatch opts binding h.holds
          hbehind le_rfl hreach
        have hle := hall event hmem
        omega
    · refine .goesOn { summary with
        appliedEvents := summary.appliedEvents + count
        ackedSeq := max summary.ackedSeq seq } τ (fun n => (Prog.run_bindE_of_ok hrun).trans ?_)
        hτ fun _ => ⟨fun hlong => hshort ((heffect.tooLongAt_iff.mp hlong).anti ?_), ?_⟩
      · simp only [if_neg hfinal]
      · rw [hcursor]
        exact le_max_left _ _
      · obtain ⟨event, hmem, hseq⟩ := mem_nextBatch opts binding h.holds
          (Nat.lt_succ_self _) hbehind (by omega)
        have hle := hall event hmem
        omega
  · exact .throws err τ (fun n => Prog.run_bindE_of_error hrun)
      fun _ hobliging => hdenied hobliging.ack

/-- What a round hears: that the replay is too long, or of the next batch; or it is refused. -/
theorem Consistent.heard (hfixed : FixedBinding hooks actor opts binding b canonical)
    (h : Consistent opts binding b canonical store L σ) (summary : SyncCatchUpSummary) :
    (ReplayTooLong opts binding b canonical σ ∧ ∀ n,
        Prog.run (undisturbed hooks actor store) (catchUpLoop opts binding (n + 1) summary).run σ =
          Prog.run (undisturbed hooks actor store) (afterTooLong opts binding n summary).run σ) ∨
      (¬ ReplayTooLong opts binding b canonical σ ∧ ∀ n,
        Prog.run (undisturbed hooks actor store) (catchUpLoop opts binding (n + 1) summary).run σ =
          Prog.run (undisturbed hooks actor store)
            (afterBatch opts binding n summary (nextBatch opts binding b canonical L σ)).run σ) ∨
      ∃ message, (∀ n, Prog.run (undisturbed hooks actor store)
          (catchUpLoop opts binding (n + 1) summary).run σ = (.error (.rejected message), σ)) ∧
        ¬ Obliging hooks actor binding b canonical L.all := by
  rcases h.call_catchUp hfixed with ⟨result, hcall, -, hanswer⟩ | ⟨⟨message, hcall⟩, hdenied⟩
  · have hfirst : Prog.run (undisturbed hooks actor store)
        (Prog.performE (.catchUp (catchUpRequest opts binding))).run σ = (.ok [result], σ) := hcall
    have hselect : Prog.run (undisturbed hooks actor store)
        (Prog.ofExcept (selectResult [result] binding.bindingKey)).run σ =
          (.ok (some result), σ) := by
      rw [hfixed.unset]
      rfl
    rcases hanswer with ⟨hstatus, hlong⟩ | ⟨hstatus, hshort, hbatch⟩
    · refine .inl ⟨hlong, fun n => ?_⟩
      refine (Prog.run_bindE_of_ok hfirst).trans ((Prog.run_bindE_of_ok hselect).trans ?_)
      simp only [if_pos hstatus]
      rfl
    · refine .inr (.inl ⟨hshort, fun n => ?_⟩)
      refine (Prog.run_bindE_of_ok hfirst).trans ((Prog.run_bindE_of_ok hselect).trans ?_)
      simp only [hstatus, hbatch]
      rfl
  · exact .inr (.inr ⟨message, fun _ => Prog.run_bindE_of_error hcall,
      fun hobliging => hdenied (hobliging.granted hfixed h.holds)⟩)

/-- One round of the loop. -/
theorem Consistent.round (hfixed : FixedBinding hooks actor opts binding b canonical)
    (h : Consistent opts binding b canonical store L σ) (summary : SyncCatchUpSummary) :
    Round hooks actor opts binding b canonical store L σ fun n =>
      Prog.run (undisturbed hooks actor store)
        (catchUpLoop opts binding (n + 1) summary).run σ := by
  rcases h.heard hfixed summary with
    ⟨hlong, hround⟩ | ⟨hshort, hround⟩ | ⟨message, hround, hrefused⟩
  · simp only [hround]
    rcases hrecover : Prog.run (undisturbed hooks actor store)
      (recoverFromSnapshot opts binding).run σ with ⟨err | seq, τ⟩
    · exact .throws err τ (fun n => Prog.run_bindE_of_error hrecover)
        fun hshort => absurd hlong hshort
    · have hτ := h.run hfixed (projects_recoverFromSnapshot _)
      rw [hrecover] at hτ
      exact .goesOn _ τ (fun n => Prog.run_bindE_of_ok hrecover) hτ
        fun hshort => absurd hlong hshort
  · simp only [hround]
    exact h.round_afterBatch hfixed summary hshort
  · exact .throws _ _ hround fun _ => hrefused

variable (opts binding b canonical store L) in
/-- Everything is applied, and acknowledged. -/
structure CaughtUp (σ : SoleClient R) : Prop where
  holds : σ.server.Holds b.streamID L
  committed : σ.server.committed canonical b.streamID = L.head
  applied : store.appliedSeq (σ.records (recordKey opts binding b)) = L.head
  value : store.value (σ.records (recordKey opts binding b)) = foldEvents store binding b L.all

/-- A record whose committed cursor is at the head has caught up. -/
theorem Consistent.caughtUp (h : Consistent opts binding b canonical store L σ)
    (hhead : L.head ≤ σ.server.committed canonical b.streamID) :
    CaughtUp opts binding b canonical store L σ := by
  have hcommitted := h.committed
  obtain ⟨happlied, hvalue⟩ := h.record
  change _ ≤ L.head at happlied
  have hall : store.appliedSeq (σ.records (recordKey opts binding b)) = L.all.length := by
    show _ = L.head
    omega
  refine ⟨h.holds, by omega, hall, ?_⟩
  rw [hvalue, hall, List.take_length]

/-- A loop that returns has caught up. -/
theorem Consistent.loop (hfixed : FixedBinding hooks actor opts binding b canonical)
    {rounds : Nat} {summary summary' : SyncCatchUpSummary} {τ : SoleClient R}
    (h : Consistent opts binding b canonical store L σ)
    (hrun : Prog.run (undisturbed hooks actor store)
      (catchUpLoop opts binding rounds summary).run σ = (.ok summary', τ)) :
    CaughtUp opts binding b canonical store L τ := by
  induction rounds generalizing summary σ with
  | zero => cases hrun
  | succ n ih =>
      rcases h.round hfixed summary with
        ⟨_, τ', hround, hτ, hhead⟩ | ⟨_, τ', hround, hτ, -⟩ | ⟨err, τ', hround, -⟩
      · obtain rfl := congrArg Prod.snd ((hround n).symm.trans hrun)
        exact hτ.caughtUp hhead
      · exact ih hτ ((hround n).symm.trans hrun)
      · cases (hround n).symm.trans hrun

/-- Where the hooks let the client catch up and the replay is not too long, the loop returns: every
round brings the committed cursor closer to the head. -/
theorem Consistent.returns (hfixed : FixedBinding hooks actor opts binding b canonical)
    (hobliging : Obliging hooks actor binding b canonical L.all)
    (h : Consistent opts binding b canonical store L σ)
    (hshort : ¬ ReplayTooLong opts binding b canonical σ) (summary : SyncCatchUpSummary) :
    Halts (looped hooks actor opts binding store) (fun r => r.isOk = true) (summary, σ) := by
  refine halts_of_measure
    (I := fun st : SyncCatchUpSummary × SoleClient R =>
      Consistent opts binding b canonical store L st.2 ∧
        ¬ ReplayTooLong opts binding b canonical st.2)
    (fun st => L.head - st.2.server.committed canonical b.streamID) ?_ ⟨h, hshort⟩
  rintro ⟨summary, σ⟩ ⟨h, hshort⟩
  dsimp only at h hshort
  rcases h.round hfixed summary with
    ⟨summary', τ, hround, -, -⟩ | ⟨summary', τ, hround, hτ, hprogress⟩ | ⟨err, τ, -, hrefused⟩
  · refine .inl ⟨1, ?_⟩
    unfold looped
    rw [hround 0]
    rfl
  · obtain ⟨hshort', hlt⟩ := hprogress hshort
    refine .inr ⟨(summary', τ), fun n => congrArg Prod.fst (hround n), ⟨hτ, hshort'⟩, ?_⟩
    have hhead : τ.server.committed canonical b.streamID ≤ L.head :=
      hτ.committed.trans hτ.record.1
    show L.head - τ.server.committed canonical b.streamID <
      L.head - σ.server.committed canonical b.streamID
    omega
  · exact absurd hobliging (hrefused hshort)

/-- The client can catch up: the replay is not too long, or it is not behind a snapshot from which
the client can recover. -/
def CanCatchUp (hooks : Hooks Actor) (actor : Actor) (opts : SyncClientOptions)
    (binding : SyncBinding TSnapshot TEvent) (b : StreamBinding) (canonical : SubscriberID)
    (σ : SoleClient R) : Prop :=
  ReplayTooLong opts binding b canonical σ → ∃ snapshot,
    Recoverable hooks actor opts binding σ.server canonical [b] b snapshot ∧
    ¬ TooLongAt σ.server b.streamID (catchUpRequest opts binding).totalLimitPerTarget
      (max (σ.server.committed canonical b.streamID) snapshot.ref.seq)

/-- A client that can catch up does. -/
theorem Consistent.returns_of_canCatchUp
    (hfixed : FixedBinding hooks actor opts binding b canonical)
    (hobliging : Obliging hooks actor binding b canonical L.all)
    (h : Consistent opts binding b canonical store L σ)
    (hcan : CanCatchUp hooks actor opts binding b canonical σ) (summary : SyncCatchUpSummary) :
    Halts (looped hooks actor opts binding store) (fun r => r.isOk = true) (summary, σ) := by
  rcases h.heard hfixed summary with ⟨hlong, hround⟩ | ⟨hshort, -⟩ | ⟨message, -, hrefused⟩
  · obtain ⟨snapshot, hrecoverable, hshort⟩ := hcan hlong
    rcases recoverFromSnapshot_cases store h.reachable hfixed.subscriber hfixed.resolves
        hfixed.selects with
      ⟨snapshot', τ, hrun, hrecoverable', -, -, heffect⟩ | ⟨err, τ, -, -, hdenied⟩
    · obtain rfl := Except.ok.inj
        (hrecoverable.loads.stored.symm.trans hrecoverable'.loads.stored)
      have hτ := h.run hfixed (projects_recoverFromSnapshot _)
      rw [hrun] at hτ
      refine .of_goesOn (t := ({ summary with
        appliedSnapshots := summary.appliedSnapshots + 1
        ackedSeq := max summary.ackedSeq snapshot.ref.seq }, τ)) ?_
        (hτ.returns hfixed hobliging ?_ _)
      · exact fun n => congrArg Prod.fst ((hround n).trans (Prog.run_bindE_of_ok hrun))
      · intro hagain
        change TooLongAt τ.server _ _ (τ.server.committed _ _) at hagain
        rw [heffect.tooLongAt_iff, heffect.cursor] at hagain
        exact hshort hagain
    · exact absurd hrecoverable (hdenied snapshot)
  · exact h.returns hfixed hobliging hshort summary
  · exact absurd hobliging hrefused

/-- A loop that returns, as a catch-up that does. -/
theorem exists_catchUp
    (h : Halts (looped hooks actor opts binding store) (fun r => r.isOk = true) ({}, σ)) :
    ∃ rounds summary τ, Prog.run (undisturbed hooks actor store)
      (catchUp opts binding rounds).run σ = (.ok summary, τ) := by
  obtain ⟨rounds, hok⟩ := h
  rcases hcatchUp : Prog.run (undisturbed hooks actor store)
    (catchUp opts binding rounds).run σ with ⟨err | summary, τ⟩
  · unfold looped at hok
    change (Prog.run _ (catchUp opts binding rounds).run _).1.isOk = true at hok
    rw [hcatchUp] at hok
    cases hok
  · exact ⟨rounds, summary, τ, hcatchUp⟩

/-! ## After any run -/

/-- What a run of the whole leaves is consistent. -/
theorem SystemInv.consistent {σ : System TSnapshot TEvent R}
    (h : SystemInv opts binding b canonical store σ) :
    ∃ L : TrimmedLog Event, L.all = σ.server.log ∧
      Consistent opts binding b canonical store L ⟨σ.server.store, σ.records⟩ := by
  obtain ⟨L, hholds, hall⟩ := h.server.holds
  refine ⟨L, hall, h.server.reachable, hholds, ?_, ?_, h.committed⟩
  · rw [hall]
    exact h.server.snapshots
  · rw [hall]
    exact h.record

/-- **Convergence: whatever happened before, in any run with crashes, lost, late and repeated
answers, once nothing else happens on the server a client that the hooks do not refuse and that can
catch up does: its `catchUp` returns, and the record is then the fold of all events of the stream.
Whatever the hooks do, a `catchUp` that returns leaves nothing else.** -/
theorem catchUp_converges (hfixed : FixedBinding hooks actor opts binding b canonical)
    {s : Store} {L : TrimmedLog Event} (hreachable : Reachable s) (hholds : s.Holds b.streamID L)
    (hcursor : s.committed canonical b.streamID = 0)
    (hsnapshots : ∀ key snapshot, s.snapshots.lookup key = some snapshot →
      key.streamID = b.streamID → (snapshotRule store binding b).Right L.all snapshot)
    {ls : List Label}
    (hpermitted : (system hooks actor opts binding b.streamID store).Always
      (Permitted binding b canonical store) ls (System.start store s L.all))
    {σ : System TSnapshot TEvent R}
    (hrun : (system hooks actor opts binding b.streamID store).run ls
      (System.start store s L.all) = some σ) :
    (∀ rounds summary τ, Prog.run (undisturbed hooks actor store)
        (catchUp opts binding rounds).run ⟨σ.server.store, σ.records⟩ = (.ok summary, τ) →
      τ.server.committed canonical b.streamID = σ.server.log.length ∧
        store.appliedSeq (τ.records (recordKey opts binding b)) = σ.server.log.length ∧
        store.value (τ.records (recordKey opts binding b)) =
          foldEvents store binding b σ.server.log) ∧
      (Obliging hooks actor binding b canonical σ.server.log →
        CanCatchUp hooks actor opts binding b canonical ⟨σ.server.store, σ.records⟩ →
        ∃ rounds summary τ, Prog.run (undisturbed hooks actor store)
          (catchUp opts binding rounds).run ⟨σ.server.store, σ.records⟩ = (.ok summary, τ)) := by
  have hstart : SystemInv opts binding b canonical store (System.start store s L.all) :=
    systemInv_start hreachable hholds hcursor hsnapshots
  obtain ⟨L', hall, hconsistent⟩ :=
    (Machine.run_invariant_of (systemInv_step hfixed) hpermitted hrun hstart).consistent
  constructor
  · intro rounds summary τ hcatchUp
    obtain ⟨-, hcommitted, happlied, hvalue⟩ := hconsistent.loop hfixed hcatchUp
    rw [← hall]
    exact ⟨hcommitted, happlied, hvalue⟩
  · intro hobliging hcan
    exact exists_catchUp
      (hconsistent.returns_of_canCatchUp hfixed (hall ▸ hobliging) hcan {})

end Runs

/-! ## After a lost acknowledgement -/

/-- The client has lost an acknowledgement and crashed, and two more events come. -/
theorem catchUp_converges_lostAck :
    ∃ rounds summary τ σ, (system perActorHooks "alice" laptopOpts seqBinding "a" seqStore).run
        (lostAck ++ List.replicate 2 (.env (.append 0 { streamID := "a" })))
        (System.start seqStore newStore []) = some σ ∧
      Prog.run (undisturbed perActorHooks "alice" seqStore)
        (catchUp laptopOpts seqBinding rounds).run ⟨σ.server.store, σ.records⟩ =
          (.ok summary, τ) ∧
      τ.server.committed "alice/laptop" "a" = 5 ∧
      (τ.records ⟨"laptop", seqBinding.target, "default"⟩).2 = [1, 2, 3, 4, 5] := by
  have hfixed : FixedBinding perActorHooks "alice" laptopOpts seqBinding
      { bindingKey := "default", streamID := "a" } "alice/laptop" := ⟨rfl, rfl, rfl⟩
  obtain ⟨σ, hrun, hlength, hfold, hcan⟩ : ∃ σ,
      (system perActorHooks "alice" laptopOpts seqBinding "a" seqStore).run
        (lostAck ++ List.replicate 2 (.env (.append 0 { streamID := "a" })))
        (System.start seqStore newStore []) = some σ ∧
      σ.server.log.length = 5 ∧
      foldEvents seqStore seqBinding { bindingKey := "default", streamID := "a" } σ.server.log =
        [1, 2, 3, 4, 5] ∧
      ¬ ReplayTooLong laptopOpts seqBinding { bindingKey := "default", streamID := "a" }
        "alice/laptop" ⟨σ.server.store, σ.records⟩ := by
    refine ⟨_, rfl, rfl, rfl, ?_⟩
    rintro (hgone | ⟨hpos, -⟩)
    · unfold NeedsRemoved at hgone
      revert hgone
      decide +kernel
    · exact absurd hpos (by decide)
  have hconverges := catchUp_converges (L := .empty) hfixed ⟨[], rfl⟩ .fresh rfl
    (by rintro _ _ ⟨⟩) (Machine.always_of_forall _
      (by simp [lostAck, Permitted, Recorded.Allows, Op.KeepsCursors, or_imp, forall_and]) _) hrun
  obtain ⟨rounds, summary, τ, hcatchUp⟩ := hconverges.2 ⟨rfl, rfl, fun _ _ =>
    ⟨.inl rfl, rfl, rfl, rfl⟩⟩ fun hlong => absurd hlong hcan
  obtain ⟨hcommitted, -, hvalue⟩ := hconverges.1 rounds summary τ hcatchUp
  exact ⟨rounds, summary, τ, σ, hrun, hcatchUp, hcommitted.trans hlength, hvalue.trans hfold⟩

end Synclog.Client
