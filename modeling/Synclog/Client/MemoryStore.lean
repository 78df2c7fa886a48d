import Mathlib.Data.List.Pairwise
import Mathlib.Order.Basic
import Synclog.Client.SyncClient
import Synclog.Lib.FinMap
import Synclog.Lib.Machine

/-!
# The memory store of the client

`MemorySyncStore` of `ts/synclog/src/memory-store.ts`, the projection store that keeps its records
in memory. Its methods run to their end without a pause, so that each is one step.

* `MemorySyncRecord.push`, `MemorySyncStore.applyEvents` — events at or below the applied seq are
  passed over; `MemorySyncRecord.pushed` are the seqs of those that are not.
* `MemorySyncStore.getRecord_applySnapshot`, `getRecord_applyEvents`, `getRecord_clearTarget`,
  `getRecord_getAppliedSeq` — what each method does to the record that is read under a key.
* `memorySync` — the store as a machine: a run is any sequence of calls of its methods.
* `MemorySyncStore.Advances` — no applied seq goes back; every method advances the store.
-/

namespace Synclog.Client

open Synclog.Lib Synclog.Core Synclog.Gateway

section MemoryStore

variable {TSnapshot TEvent : Type}

/-- Source: `memory-store.ts`, `MemorySyncRecord`. -/
structure MemorySyncRecord (TSnapshot TEvent : Type) where
  appliedSeq : Nat := 0
  snapshot : Option (DecodedGatewaySnapshot TSnapshot) := none
  events : List (DecodedGatewayEvent TEvent) := []

/-! ## The methods -/

namespace MemorySyncRecord

/-- Source: `memory-store.ts`, `MemorySyncStore.applyEvents`, the body of the loop. -/
def push (record : MemorySyncRecord TSnapshot TEvent) (event : DecodedGatewayEvent TEvent) :
    MemorySyncRecord TSnapshot TEvent :=
  if event.seq ≤ record.appliedSeq then record
  else { record with events := record.events ++ [event], appliedSeq := event.seq }

/-- A record that a snapshot arrives at: it begins anew with the snapshot, unless newer events
advanced past it.
Source: `memory-store.ts`, `MemorySyncStore.applySnapshot`. -/
def refresh (record : MemorySyncRecord TSnapshot TEvent)
    (snapshot : DecodedGatewaySnapshot TSnapshot) : MemorySyncRecord TSnapshot TEvent :=
  if record.appliedSeq > snapshot.seq then { record with snapshot := some snapshot }
  else { appliedSeq := snapshot.seq, snapshot := some snapshot }

end MemorySyncRecord

/-- The records by their encoded keys.
Source: `memory-store.ts`, `MemorySyncStore`. -/
abbrev MemorySyncStore (TSnapshot TEvent : Type) :=
  FinMap String (MemorySyncRecord TSnapshot TEvent)

namespace MemorySyncStore

/-- A missing record is read as an empty one.
Source: `memory-store.ts`, `MemorySyncStore.getRecord`. -/
def getRecord (s : MemorySyncStore TSnapshot TEvent) (key : TargetBindingKey) :
    MemorySyncRecord TSnapshot TEvent :=
  (s.lookup (targetBindingKey key)).getD {}

/-- The record of a key, which is made when it is missing.
Source: `memory-store.ts`, `MemorySyncStore.#record`. -/
def record (s : MemorySyncStore TSnapshot TEvent) (key : TargetBindingKey) :
    MemorySyncRecord TSnapshot TEvent × MemorySyncStore TSnapshot TEvent :=
  match s.lookup (targetBindingKey key) with
  | some record => (record, s)
  | none => ({}, s.insert (targetBindingKey key) {})

/-- Source: `memory-store.ts`, `MemorySyncStore.getAppliedSeq`. -/
def getAppliedSeq (s : MemorySyncStore TSnapshot TEvent) (key : TargetBindingKey) :
    Nat × MemorySyncStore TSnapshot TEvent :=
  let (record, s) := s.record key
  (record.appliedSeq, s)

/-- Source: `memory-store.ts`, `MemorySyncStore.applySnapshot`. -/
def applySnapshot (s : MemorySyncStore TSnapshot TEvent) (key : TargetBindingKey)
    (snapshot : DecodedGatewaySnapshot TSnapshot) : MemorySyncStore TSnapshot TEvent :=
  let fresh : MemorySyncRecord TSnapshot TEvent :=
    { appliedSeq := snapshot.seq, snapshot := some snapshot }
  match s.lookup (targetBindingKey key) with
  | some existing =>
    if existing.appliedSeq > snapshot.seq then
      s.insert (targetBindingKey key) { existing with snapshot := some snapshot }
    else s.insert (targetBindingKey key) fresh
  | none => s.insert (targetBindingKey key) fresh

/-- Source: `memory-store.ts`, `MemorySyncStore.applyEvents`. -/
def applyEvents (s : MemorySyncStore TSnapshot TEvent) (key : TargetBindingKey)
    (events : List (DecodedGatewayEvent TEvent)) : MemorySyncStore TSnapshot TEvent :=
  if events.length = 0 then s
  else
    let (record, s) := s.record key
    s.insert (targetBindingKey key) (events.foldl MemorySyncRecord.push record)

/-- `String.prototype.includes`. -/
def includes (s sub : String) : Bool := s.toList.tails.any sub.toList.isPrefixOf

/-- The segment by which `clearTarget` recognises the keys of a target.
Source: `memory-store.ts`, `MemorySyncStore.clearTarget`. -/
def marker (target : SyncTarget) : String := ":" ++ targetKey target ++ "#"

/-- Source: `memory-store.ts`, `MemorySyncStore.clearTarget`. -/
def clearTarget (s : MemorySyncStore TSnapshot TEvent) (target : SyncTarget) :
    MemorySyncStore TSnapshot TEvent :=
  s.keep fun key => !includes key (marker target)

end MemorySyncStore

/-- A call of a method of the store. -/
inductive MemorySyncCall (TSnapshot TEvent : Type)
  | getAppliedSeq (key : TargetBindingKey)
  | applySnapshot (key : TargetBindingKey) (snapshot : DecodedGatewaySnapshot TSnapshot)
  | applyEvents (key : TargetBindingKey) (events : List (DecodedGatewayEvent TEvent))
  | clearTarget (target : SyncTarget)

/-- The store after a call; its answer is left out. -/
def MemorySyncCall.apply :
    MemorySyncCall TSnapshot TEvent → MemorySyncStore TSnapshot TEvent →
      MemorySyncStore TSnapshot TEvent
  | .getAppliedSeq key, s => (s.getAppliedSeq key).2
  | .applySnapshot key snapshot, s => s.applySnapshot key snapshot
  | .applyEvents key events, s => s.applyEvents key events
  | .clearTarget target, s => s.clearTarget target

/-- The store as a machine whose labels are the calls. -/
def memorySync : Machine (MemorySyncStore TSnapshot TEvent) (MemorySyncCall TSnapshot TEvent) where
  step call s := some (call.apply s)

/-! ## One record -/

namespace MemorySyncRecord

/-- The seqs of the events that a list of events adds to a record. -/
def pushed (appliedSeq : Nat) : List (DecodedGatewayEvent TEvent) → List Nat
  | [] => []
  | event :: events =>
    if event.seq ≤ appliedSeq then pushed appliedSeq events
    else event.seq :: pushed event.seq events

/-- What a list of events does to a record: the events it adds are those of `pushed`, and the
applied seq is that of the last of them. -/
theorem foldl_push (record : MemorySyncRecord TSnapshot TEvent)
    (events : List (DecodedGatewayEvent TEvent)) :
    ((events.foldl push record).events.map (·.seq) =
        record.events.map (·.seq) ++ pushed record.appliedSeq events) ∧
      (events.foldl push record).appliedSeq =
        (pushed record.appliedSeq events).getLastD record.appliedSeq := by
  induction events generalizing record with
  | nil => simp [pushed]
  | cons event events ih =>
      rw [List.foldl_cons, pushed]
      obtain ⟨hevents, happlied⟩ := ih (record.push event)
      rw [hevents, happlied]
      unfold push
      split_ifs with hold
      · exact ⟨rfl, rfl⟩
      · refine ⟨by simp, ?_⟩
        rw [List.getLastD_cons]

/-- The seqs that are added are above the applied seq, each above those before it. -/
theorem pushed_increasing (appliedSeq : Nat) (events : List (DecodedGatewayEvent TEvent)) :
    (pushed appliedSeq events).Pairwise (· < ·) ∧ ∀ seq ∈ pushed appliedSeq events,
      appliedSeq < seq ∧ seq ≤ (pushed appliedSeq events).getLastD appliedSeq := by
  induction events generalizing appliedSeq with
  | nil => simp [pushed]
  | cons event events ih =>
      rw [pushed]
      split_ifs with hold
      · exact ih appliedSeq
      · obtain ⟨hincreasing, hbounds⟩ := ih event.seq
        refine ⟨List.pairwise_cons.mpr ⟨fun seq hseq => (hbounds seq hseq).1, hincreasing⟩, ?_⟩
        have hlast : event.seq ≤ (pushed event.seq events).getLastD event.seq := by
          rcases hpushed : pushed event.seq events with _ | ⟨seq, rest⟩
          · exact le_rfl
          · obtain ⟨hlt, hle⟩ := hbounds seq (hpushed ▸ List.mem_cons_self)
            rw [← hpushed]
            omega
        intro seq hseq
        rw [List.getLastD_cons]
        rcases List.mem_cons.mp hseq with rfl | hseq
        · exact ⟨by omega, hlast⟩
        · obtain ⟨hlt, hle⟩ := hbounds seq hseq
          exact ⟨by omega, hle⟩

/-- The applied seq does not go back, and is no less than what is added. -/
theorem le_appliedSeq_foldl_push (record : MemorySyncRecord TSnapshot TEvent)
    (events : List (DecodedGatewayEvent TEvent)) :
    record.appliedSeq ≤ (events.foldl push record).appliedSeq ∧
      ∀ seq ∈ pushed record.appliedSeq events, seq ≤ (events.foldl push record).appliedSeq := by
  rw [(foldl_push record events).2]
  obtain ⟨-, hbounds⟩ := pushed_increasing record.appliedSeq events
  refine ⟨?_, fun seq hseq => (hbounds seq hseq).2⟩
  rcases hpushed : pushed record.appliedSeq events with _ | ⟨seq, rest⟩
  · exact le_rfl
  · obtain ⟨hlt, hle⟩ := hbounds seq (hpushed ▸ List.mem_cons_self)
    rw [← hpushed]
    omega

end MemorySyncRecord

/-! ## The store -/

namespace MemorySyncStore

/-- The applied seq of a record. -/
def appliedSeq (s : MemorySyncStore TSnapshot TEvent) (encoded : String) : Nat :=
  ((s.lookup encoded).getD {}).appliedSeq

/-- No applied seq goes back. -/
def Advances (s t : MemorySyncStore TSnapshot TEvent) : Prop :=
  ∀ encoded, s.appliedSeq encoded ≤ t.appliedSeq encoded

/-- A store that stays as it is has not gone back. -/
theorem Advances.refl (s : MemorySyncStore TSnapshot TEvent) : s.Advances s := fun _ => le_rfl

/-- What goes ahead twice has gone ahead. -/
theorem Advances.trans {s t u : MemorySyncStore TSnapshot TEvent} (h : s.Advances t)
    (h' : t.Advances u) : s.Advances u := fun encoded => (h encoded).trans (h' encoded)

/-- Reading a record adds at most an empty one. -/
theorem lookup_record (s : MemorySyncStore TSnapshot TEvent) (key : TargetBindingKey) :
    (s.record key).1 = s.getRecord key ∧
      ∀ encoded, ((s.record key).2.lookup encoded).getD {} = (s.lookup encoded).getD {} := by
  unfold record getRecord
  rcases hlookup : s.lookup (targetBindingKey key) with _ | record
  · refine ⟨rfl, fun encoded => ?_⟩
    simp only [FinMap.lookup_insert_eq_ite]
    split_ifs with heq
    · rw [heq, hlookup]
      rfl
    · rfl
  · exact ⟨rfl, fun _ => rfl⟩

/-- To replace a record by one that is no older advances the store. -/
theorem advances_insert {s : MemorySyncStore TSnapshot TEvent} {encoded : String}
    {record : MemorySyncRecord TSnapshot TEvent} (h : s.appliedSeq encoded ≤ record.appliedSeq) :
    s.Advances (s.insert encoded record) := by
  intro encoded'
  unfold appliedSeq
  rw [FinMap.lookup_insert_eq_ite]
  split_ifs with heq
  · rw [heq]
    exact h
  · exact le_rfl

/-- What is answered is the applied seq of the record. -/
theorem getAppliedSeq_fst (s : MemorySyncStore TSnapshot TEvent) (key : TargetBindingKey) :
    (s.getAppliedSeq key).1 = s.appliedSeq (targetBindingKey key) := by
  show (s.record key).1.appliedSeq = (s.getRecord key).appliedSeq
  rw [(s.lookup_record key).1]

/-- To make a missing record changes nothing that can be read. -/
theorem getAppliedSeq_snd (s : MemorySyncStore TSnapshot TEvent) (key : TargetBindingKey)
    (encoded : String) :
    ((s.getAppliedSeq key).2.lookup encoded).getD {} = (s.lookup encoded).getD {} :=
  (s.lookup_record key).2 encoded

/-- What a snapshot leads to: a record that begins with it, or, when events beyond it were applied,
the record as it was, with another snapshot. -/
theorem applySnapshot_cases (s : MemorySyncStore TSnapshot TEvent) (key : TargetBindingKey)
    (snapshot : DecodedGatewaySnapshot TSnapshot) :
    ∃ record : MemorySyncRecord TSnapshot TEvent,
      s.applySnapshot key snapshot = s.insert (targetBindingKey key) record ∧
      (snapshot.seq < (s.getRecord key).appliedSeq ∧
          record = { s.getRecord key with snapshot := some snapshot } ∨
        (s.getRecord key).appliedSeq ≤ snapshot.seq ∧
          record = { appliedSeq := snapshot.seq, snapshot := some snapshot }) := by
  unfold applySnapshot getRecord
  rcases s.lookup (targetBindingKey key) with _ | existing
  · exact ⟨_, rfl, .inr ⟨Nat.zero_le _, rfl⟩⟩
  · simp only [Option.getD_some]
    split_ifs with hnewer
    · exact ⟨_, rfl, .inl ⟨hnewer, rfl⟩⟩
    · exact ⟨_, rfl, .inr ⟨not_lt.mp hnewer, rfl⟩⟩

/-- What a list of events leads to. -/
theorem lookup_applyEvents (s : MemorySyncStore TSnapshot TEvent) (key : TargetBindingKey)
    (events : List (DecodedGatewayEvent TEvent)) (encoded : String) :
    ((s.applyEvents key events).lookup encoded).getD {} =
      if encoded = targetBindingKey key then events.foldl MemorySyncRecord.push (s.getRecord key)
      else (s.lookup encoded).getD {} := by
  obtain ⟨hrecord, hlookup⟩ := s.lookup_record key
  unfold applyEvents
  rcases hparts : s.record key with ⟨record, s'⟩
  rw [hparts] at hrecord hlookup
  rcases events with _ | ⟨event, events⟩
  · simp only [List.length_nil, if_true, List.foldl_nil]
    split_ifs with heq
    · rw [heq]
      rfl
    · rfl
  · rw [if_neg (by simp)]
    simp only [FinMap.lookup_insert_eq_ite]
    split_ifs with heq
    · rw [← hrecord]
      rfl
    · exact hlookup encoded

/-- Records under other keys stay as they are. -/
theorem getRecord_insert (s : MemorySyncStore TSnapshot TEvent) (key key' : TargetBindingKey)
    (record : MemorySyncRecord TSnapshot TEvent) :
    getRecord (s.insert (targetBindingKey key) record) key' =
      if targetBindingKey key' = targetBindingKey key then record else s.getRecord key' := by
  unfold getRecord
  rw [FinMap.lookup_insert_eq_ite]
  split_ifs <;> rfl

/-- Asking for the applied seq changes no record. -/
theorem getRecord_getAppliedSeq (s : MemorySyncStore TSnapshot TEvent)
    (key key' : TargetBindingKey) : (s.getAppliedSeq key).2.getRecord key' = s.getRecord key' :=
  s.getAppliedSeq_snd key (targetBindingKey key')

/-- A snapshot refreshes the record of its key. -/
theorem getRecord_applySnapshot (s : MemorySyncStore TSnapshot TEvent) (key key' : TargetBindingKey)
    (snapshot : DecodedGatewaySnapshot TSnapshot) :
    (s.applySnapshot key snapshot).getRecord key' =
      if targetBindingKey key' = targetBindingKey key then (s.getRecord key).refresh snapshot
      else s.getRecord key' := by
  obtain ⟨record, happly, hrecord⟩ := s.applySnapshot_cases key snapshot
  have hrefresh : record = (s.getRecord key).refresh snapshot := by
    unfold MemorySyncRecord.refresh
    rcases hrecord with ⟨hnewer, rfl⟩ | ⟨holder, rfl⟩
    · rw [if_pos hnewer]
    · rw [if_neg (not_lt.mpr holder)]
  rw [happly, getRecord_insert, hrefresh]

/-- Events are pushed, one after the other, into the record of their key. -/
theorem getRecord_applyEvents (s : MemorySyncStore TSnapshot TEvent) (key key' : TargetBindingKey)
    (events : List (DecodedGatewayEvent TEvent)) :
    (s.applyEvents key events).getRecord key' =
      if targetBindingKey key' = targetBindingKey key then
        events.foldl MemorySyncRecord.push (s.getRecord key)
      else s.getRecord key' := s.lookup_applyEvents key events (targetBindingKey key')

/-- `clearTarget` empties the records whose encoded key has the marker in it. -/
theorem getRecord_clearTarget (s : MemorySyncStore TSnapshot TEvent) (target : SyncTarget)
    (key : TargetBindingKey) :
    (s.clearTarget target).getRecord key =
      if includes (targetBindingKey key) (marker target) then {} else s.getRecord key := by
  unfold clearTarget getRecord
  rw [FinMap.lookup_keep]
  cases includes (targetBindingKey key) (marker target) <;> rfl

/-- Asking for the applied seq takes no applied seq back. -/
theorem advances_getAppliedSeq (s : MemorySyncStore TSnapshot TEvent) (key : TargetBindingKey) :
    s.Advances (s.getAppliedSeq key).2 := by
  intro encoded
  unfold appliedSeq
  rw [getAppliedSeq_snd]

/-- A snapshot takes no applied seq back, and brings its own record up to its seq. -/
theorem advances_applySnapshot (s : MemorySyncStore TSnapshot TEvent) (key : TargetBindingKey)
    (snapshot : DecodedGatewaySnapshot TSnapshot) :
    s.Advances (s.applySnapshot key snapshot) ∧
      snapshot.seq ≤ (s.applySnapshot key snapshot).appliedSeq (targetBindingKey key) := by
  have hread : s.appliedSeq (targetBindingKey key) = (s.getRecord key).appliedSeq := rfl
  obtain ⟨record, happly, ⟨hnewer, rfl⟩ | ⟨holder, rfl⟩⟩ := s.applySnapshot_cases key snapshot
  · rw [happly]
    refine ⟨advances_insert hread.le, ?_⟩
    unfold appliedSeq
    rw [FinMap.lookup_insert_eq_ite, if_pos rfl]
    exact hnewer.le
  · rw [happly]
    refine ⟨advances_insert (hread.trans_le holder), ?_⟩
    unfold appliedSeq
    rw [FinMap.lookup_insert_eq_ite, if_pos rfl]
    exact le_rfl

/-- Events take no applied seq back. -/
theorem advances_applyEvents (s : MemorySyncStore TSnapshot TEvent) (key : TargetBindingKey)
    (events : List (DecodedGatewayEvent TEvent)) : s.Advances (s.applyEvents key events) := by
  intro encoded
  unfold appliedSeq
  rw [lookup_applyEvents]
  split_ifs with heq
  · rw [heq]
    exact (MemorySyncRecord.le_appliedSeq_foldl_push (s.getRecord key) events).1
  · exact le_rfl

end MemorySyncStore

end MemoryStore

end Synclog.Client
