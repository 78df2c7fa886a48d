import Synclog.Client.MemoryStore
import Synclog.Lib.TrimmedLog

/-!
# Whether the client detects gaps

`SyncClient.#applyBatch` passes over the events of a batch that were applied already, hands the rest
to the projection store and acknowledges what the store reached. The batch begins behind the cursor
of the server, which may be anywhere beside the applied seq of the store.

* `Act` — what the client does to others: the events that it applies, and what it acknowledges.
* `GatewayBatch.LeavesHole` — the batch begins beyond the event behind the applied seq.
* `DetectsGaps` — what is applied continues the applied seq, and nothing is applied or acknowledged
  where the batch leaves a hole.
* `detectsGaps_iff` — with every store and every transport, the client detects gaps exactly where
  there is none: no batch is refused.
-/

namespace Synclog.Client

open Synclog.Lib Synclog.Core Synclog.Gateway

section Gaps

variable {TSnapshot TEvent : Type} {σ : Type}

/-- What the client does to its store and to the cursor of the server. -/
inductive Act (TEvent : Type)
  | applied (key : TargetBindingKey) (events : List (DecodedGatewayEvent TEvent))
  | acked (req : GatewayAckRequest)

/-- What a call does to the store and to the cursor. -/
def act : (β : Type) → ClientCall TSnapshot TEvent β → Option (Act TEvent)
  | _, .applyEvents key events => some (.applied key events)
  | _, .ack req => some (.acked req)
  | _, _ => none

/-- The batch begins beyond the event that continues the applied seq. -/
def LeavesHole (appliedSeq : Nat) (batch : GatewayBatch) : Prop :=
  ∃ event ∈ batch.events.head?, appliedSeq + 1 < event.seq

/-- The acts that a batch leads to are those of a client that detects gaps. -/
structure DetectsGaps (appliedSeq : Nat) (batch : GatewayBatch) (acts : List (Act TEvent)) :
    Prop where
  contiguous : ∀ key events, .applied key events ∈ acts →
    Consecutive DecodedGatewayEvent.seq (appliedSeq + 1) events
  refuses : LeavesHole appliedSeq batch → acts = []

variable (opts : SyncClientOptions) (binding : SyncBinding TSnapshot TEvent)
  {appliedSeq : Nat} {batch : GatewayBatch}

variable (appliedSeq) in
/-- The events that are passed on from a contiguous batch: from the one that continues the applied
seq, or from the first of the batch, whichever is later. -/
theorem consecutive_newEvents {first : Nat}
    (hbatch : Consecutive GatewayEvent.seq first batch.events) :
    Consecutive DecodedGatewayEvent.seq (max first (appliedSeq + 1))
      (newEvents binding appliedSeq batch) := by
  have hstart : first + (appliedSeq + 1 - first) = max first (appliedSeq + 1) := by omega
  have hdrop := hbatch.drop (appliedSeq + 1 - first)
  rw [hstart, ← hbatch.filter_lt_eq_drop appliedSeq] at hdrop
  exact Consecutive.map_iff.mpr hdrop

/-- Events beyond the applied seq are passed on. -/
theorem newEvents_ne_nil (h : LeavesHole appliedSeq batch) :
    newEvents binding appliedSeq batch ≠ [] := by
  obtain ⟨event, hhead, hseq⟩ := h
  have hmem : event ∈ batch.events := List.mem_of_mem_head? hhead
  have hnew : event ∈ batch.events.filter fun event => event.seq > appliedSeq :=
    List.mem_filter.mpr ⟨hmem, decide_eq_true (by omega)⟩
  exact List.ne_nil_of_mem (List.mem_map_of_mem hnew)

/-- Where the batch leaves no hole, what is passed on continues the applied seq. -/
theorem consecutive_of_not_leavesHole {first : Nat}
    (hbatch : Consecutive GatewayEvent.seq first batch.events) (h : ¬ LeavesHole appliedSeq batch) :
    Consecutive DecodedGatewayEvent.seq (appliedSeq + 1) (newEvents binding appliedSeq batch) := by
  rcases hevents : batch.events with _ | ⟨event, events⟩
  · unfold newEvents
    rw [hevents]
    trivial
  · have hfirst : event.seq = first := by
      rw [hevents] at hbatch
      exact hbatch.1
    have hle : first ≤ appliedSeq + 1 := by
      refine not_lt.mp fun hlt => h ⟨event, by rw [hevents]; rfl, ?_⟩
      omega
    have hnew := consecutive_newEvents binding appliedSeq hbatch
    rwa [max_eq_right hle] at hnew

variable {opts binding} {h : Handler (ClientCall TSnapshot TEvent) σ} {s : σ}

/-- To ask the store how far it got is no act: the acts of a batch are those of the rest. -/
theorem noted_applyBatch
    (happlied : (h _ (.getAppliedSeq (keyFor opts binding batch.bindingKey)) s).1 =
      .ok appliedSeq) :
    Prog.noted h act (applyBatch opts binding batch).run s =
      Prog.noted h act (do
          applyNew (keyFor opts binding batch.bindingKey) (newEvents binding appliedSeq batch)
          let ackedSeq ← Prog.performE (.getAppliedSeq (keyFor opts binding batch.bindingKey))
          ack opts (keyFor opts binding batch.bindingKey) ackedSeq
          return ((newEvents binding appliedSeq batch).length, ackedSeq) :
            ClientProg TSnapshot TEvent (Nat × Nat)).run
        (h _ (.getAppliedSeq (keyFor opts binding batch.bindingKey)) s).2 :=
  Prog.noted_performE_bind_of_ok happlied

/-- The events that are applied of a batch are those that are passed on. -/
theorem eq_newEvents_of_applied
    (happlied : (h _ (.getAppliedSeq (keyFor opts binding batch.bindingKey)) s).1 =
      .ok appliedSeq) {key : TargetBindingKey} {events : List (DecodedGatewayEvent TEvent)}
    (hact : .applied key events ∈ Prog.noted h act (applyBatch opts binding batch).run s) :
    events = newEvents binding appliedSeq batch := by
  rw [noted_applyBatch happlied] at hact
  rcases Prog.mem_noted_bindE hact with hnew | ⟨_, _, hafter⟩
  · unfold applyNew at hnew
    split_ifs at hnew
    · cases List.mem_singleton.mp hnew
      rfl
    · cases hnew
  rcases Prog.mem_noted_bindE hafter with hread | ⟨_, _, hack⟩
  · cases hread
  rcases Prog.mem_noted_bindE hack with hacked | ⟨_, _, hret⟩
  · cases List.mem_singleton.mp hacked
  · cases hret

/-- What is passed on, if anything is, is applied. -/
theorem applied_mem
    (happlied : (h _ (.getAppliedSeq (keyFor opts binding batch.bindingKey)) s).1 =
      .ok appliedSeq) (hne : newEvents binding appliedSeq batch ≠ []) :
    .applied (keyFor opts binding batch.bindingKey) (newEvents binding appliedSeq batch) ∈
      Prog.noted h act (applyBatch opts binding batch).run s := by
  rw [noted_applyBatch happlied]
  refine Prog.mem_noted_bindE_left ?_
  unfold applyNew
  rw [if_pos (List.length_pos_of_ne_nil hne)]
  exact List.mem_singleton_self _

/-- Whatever the store and the gateway answer, the client detects the gaps before a contiguous batch
exactly where the batch leaves none. -/
theorem detectsGaps_iff
    (happlied : (h _ (.getAppliedSeq (keyFor opts binding batch.bindingKey)) s).1 =
      .ok appliedSeq) {first : Nat} (hbatch : Consecutive GatewayEvent.seq first batch.events) :
    DetectsGaps appliedSeq batch (Prog.noted h act (applyBatch opts binding batch).run s) ↔
      ¬ LeavesHole appliedSeq batch := by
  constructor
  · intro hdetects hhole
    have hmem := applied_mem happlied (newEvents_ne_nil binding hhole)
    rw [hdetects.refuses hhole] at hmem
    cases hmem
  · intro hnone
    refine ⟨?_, fun hhole => absurd hhole hnone⟩
    intro key events hact
    rw [eq_newEvents_of_applied happlied hact]
    exact consecutive_of_not_leavesHole binding hbatch hnone

end Gaps

section Room

/-- The calls of a client that keeps its records in memory; the gateway accepts every
acknowledgement, and has nothing else to say. -/
def memoryCalls : Handler (ClientCall Unit Unit) (MemorySyncStore Unit Unit)
  | _, .getAppliedSeq key, s => (.ok (s.getAppliedSeq key).1, (s.getAppliedSeq key).2)
  | _, .applyEvents key events, s => (.ok (), s.applyEvents key events)
  | _, .applySnapshot key snapshot, s => (.ok (), s.applySnapshot key snapshot)
  | _, .ack _, s => (.ok (), s)
  | _, .catchUp _, s => (.ok [], s)
  | _, .getLatestSnapshot _, s => (.ok none, s)
  | _, .next, s => (.ok none, s)
  | _, .subscribe _, s => ((), s)
  | _, .aborted, s => (false, s)

/-- The options of a phone. -/
private def roomOptions : SyncClientOptions := { subscriberId := "phone" }

/-- A room, folded into nothing. -/
private def roomBinding : SyncBinding Unit Unit where
  target := { ns := "chat", id := "room" }
  projection :=
    { snapshotType := "room", decodeSnapshot := fun _ _ => (), decodeEvent := fun _ => () }

/-- The events from `first` on, as the gateway serves them behind a cursor at `first - 1`. -/
private def roomBatch (first count : Nat) : GatewayBatch where
  target := roomBinding.target
  events := (List.range' first count).map fun seq => { target := roomBinding.target, seq }
  seqStart := first
  seq := first + count - 1

/-- The store is empty and the cursor of the server is at 2: the event 3 is applied, and
acknowledged, though the events 1 and 2 were never seen. -/
theorem emptyStore_hole_is_applied :
    Consecutive GatewayEvent.seq 3 (roomBatch 3 1).events ∧
      (∃ event, Prog.noted memoryCalls act
          (applyBatch roomOptions roomBinding (roomBatch 3 1)).run ∅ =
        [.applied (keyFor roomOptions roomBinding (some "")) [event],
          .acked (ackRequest roomOptions (keyFor roomOptions roomBinding (some "")) 3)] ∧
        event.seq = 3) ∧
      ¬ DetectsGaps 0 (roomBatch 3 1) (Prog.noted memoryCalls act
        (applyBatch roomOptions roomBinding (roomBatch 3 1)).run ∅) := by
  refine ⟨⟨rfl, trivial⟩, ⟨_, rfl, rfl⟩, fun hdetects => ?_⟩
  have hacts := hdetects.refuses ⟨_, rfl, by decide⟩
  cases hacts

/-- The events 1 to 3 continue an empty store. -/
theorem detectsGaps_iff_first :
    DetectsGaps 0 (roomBatch 1 3) (Prog.noted memoryCalls act
        (applyBatch roomOptions roomBinding (roomBatch 1 3)).run ∅) ↔
      ¬ LeavesHole 0 (roomBatch 1 3) :=
  have hbatch : Consecutive GatewayEvent.seq 1 (roomBatch 1 3).events := ⟨rfl, rfl, rfl, trivial⟩
  detectsGaps_iff rfl hbatch

end Room

end Synclog.Client
