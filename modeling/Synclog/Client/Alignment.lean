import Mathlib.Data.List.Count
import Synclog.Client.MemoryStore
import Synclog.Lib.TrimmedLog

/-!
# What a record of the memory store describes

A record of `MemorySyncStore` is a snapshot with the events after it. It describes its applied seq
when the events are the ones from the snapshot up to there, each once.

`applySnapshot` begins a record anew only when the snapshot is not behind the applied seq. Else it
keeps the events and replaces the snapshot below them, so that they no longer begin right after it,
unless the new snapshot is at the seq of the old one.

* `MemorySyncRecord.Describes` — what a reader who folds the record relies on.
* `MemorySyncRecord.Aligned` — the invariant: the events are consecutive, from the snapshot on.
* `Refreshes` — a snapshot is not behind the applied seq, or takes the place of one at its seq.
* `describes_iff_refreshes` — the runs in which every record describes its applied seq are those in
  which every snapshot does.
-/

namespace Synclog.Client

open Synclog.Lib Synclog.Core Synclog.Gateway

variable {TSnapshot TEvent : Type}

/-! ## One record -/

namespace MemorySyncRecord

/-- The seq of the snapshot of a record; `0` where it has none. -/
def base (record : MemorySyncRecord TSnapshot TEvent) : Nat :=
  match record.snapshot with
  | some snapshot => snapshot.seq
  | none => 0

/-- The seqs of the events of a record. -/
def seqs (record : MemorySyncRecord TSnapshot TEvent) : List Nat := record.events.map (·.seq)

/-- The events of a record are those from its snapshot up to the applied seq, so that the snapshot
or exactly one event covers each seq up to there. -/
structure Describes (record : MemorySyncRecord TSnapshot TEvent) : Prop where
  seqs_eq : record.seqs = List.range' (record.base + 1) (record.appliedSeq - record.base)
  covered_once : ∀ seq, 0 < seq → seq ≤ record.appliedSeq →
    (if seq ≤ record.base then 1 else 0) + record.seqs.count seq = 1

/-- The events of a record are consecutive, from its snapshot up to the applied seq. -/
structure Aligned (record : MemorySyncRecord TSnapshot TEvent) : Prop where
  consecutive : Consecutive (·.seq) (record.base + 1) record.events
  appliedSeq_eq : record.appliedSeq = record.base + record.events.length

/-- A new record has nothing to align. -/
theorem aligned_empty : Aligned ({} : MemorySyncRecord TSnapshot TEvent) :=
  ⟨Consecutive.nil, rfl⟩

variable {record : MemorySyncRecord TSnapshot TEvent}

/-- The seqs of an aligned record run from behind its snapshot to its applied seq. -/
theorem Aligned.seqs_eq (h : record.Aligned) :
    record.seqs = List.range' (record.base + 1) (record.appliedSeq - record.base) := by
  have hlength : record.appliedSeq - record.base = record.events.length := by
    rw [h.appliedSeq_eq]
    omega
  rw [hlength]
  exact Consecutive.iff_map_eq_range'.mp h.consecutive

/-- An aligned record describes the stream up to its applied seq. -/
theorem Aligned.describes (h : record.Aligned) : record.Describes := by
  have happlied := h.appliedSeq_eq
  refine ⟨h.seqs_eq, fun seq hpos hle => ?_⟩
  have hnodup : record.seqs.Nodup := h.seqs_eq ▸ List.nodup_range'
  have hmem : seq ∈ record.seqs ↔ record.base < seq := by
    rw [h.seqs_eq, List.mem_range'_1]
    omega
  rw [hnodup.count]
  by_cases hbelow : seq ≤ record.base
  · rw [if_pos hbelow, if_neg fun hin => absurd (hmem.mp hin) (not_lt.mpr hbelow)]
  · rw [if_neg hbelow, if_pos (hmem.mpr (not_le.mp hbelow))]

/-- Events that go on where the record ends, or overlap with it, keep it aligned. -/
theorem Aligned.foldl_push {events : List (DecodedGatewayEvent TEvent)} {n : Nat}
    (h : record.Aligned) (hevents : Consecutive (·.seq) n events) (hn : n ≤ record.appliedSeq + 1) :
    (events.foldl push record).Aligned := by
  induction events generalizing record n with
  | nil => exact h
  | cons event events ih =>
      have hseq : event.seq = n := hevents.1
      have hrest := hevents.2
      rw [List.foldl_cons]
      have happlied := h.appliedSeq_eq
      unfold push
      split_ifs with hold
      · exact ih h hrest (by omega)
      · -- the event is the next one
        have hnext : event.seq = record.base + 1 + record.events.length := by omega
        refine ih ⟨?_, ?_⟩ hrest (by show n + 1 ≤ event.seq + 1; omega)
        · exact Consecutive.append_iff.mpr ⟨h.consecutive, hnext, Consecutive.nil⟩
        · show event.seq = record.base + (record.events ++ [event]).length
          rw [List.length_append, List.length_singleton]
          omega

/-- A snapshot that is not behind the applied seq, or takes the place of one at its seq, keeps the
record aligned. -/
theorem Aligned.refresh {snapshot : DecodedGatewaySnapshot TSnapshot} (h : record.Aligned)
    (hsnapshot : record.appliedSeq ≤ snapshot.seq ∨ snapshot.seq = record.base) :
    (record.refresh snapshot).Aligned := by
  unfold MemorySyncRecord.refresh
  split_ifs with hnewer
  · have hsame : snapshot.seq = record.base := by omega
    refine ⟨?_, ?_⟩
    · show Consecutive (·.seq) (snapshot.seq + 1) record.events
      rw [hsame]
      exact h.consecutive
    · show record.appliedSeq = snapshot.seq + record.events.length
      rw [hsame]
      exact h.appliedSeq_eq
  · exact ⟨Consecutive.nil, rfl⟩

/-- Any other snapshot leaves a record that does not describe its applied seq: it has as many
events as before, and the distance from the snapshot to the applied seq is another one. -/
theorem not_describes_refresh {snapshot : DecodedGatewaySnapshot TSnapshot} (h : record.Aligned)
    (hsnapshot : ¬ (record.appliedSeq ≤ snapshot.seq ∨ snapshot.seq = record.base)) :
    ¬ (record.refresh snapshot).Describes := by
  intro hdescribes
  have hseqs := hdescribes.seqs_eq
  unfold MemorySyncRecord.refresh at hseqs
  rw [if_pos (by omega)] at hseqs
  have hlength := congrArg List.length hseqs
  simp only [seqs, base, List.length_map, List.length_range'] at hlength
  have happlied := h.appliedSeq_eq
  omega

end MemorySyncRecord

/-! ## Runs -/

/-- The events of a call go on where the applied seq ends: they are numbered without a gap, from the
next seq on or from an earlier one. -/
def Continues : MemorySyncCall TSnapshot TEvent → MemorySyncStore TSnapshot TEvent → Prop
  | .applyEvents key events, s =>
    ∃ n ≤ (s.getRecord key).appliedSeq + 1, Consecutive (·.seq) n events
  | _, _ => True

/-- The snapshot of a call is not behind the applied seq, or takes the place of one at its seq. -/
def Refreshes : MemorySyncCall TSnapshot TEvent → MemorySyncStore TSnapshot TEvent → Prop
  | .applySnapshot key snapshot, s =>
    (s.getRecord key).appliedSeq ≤ snapshot.seq ∨ snapshot.seq = (s.getRecord key).base
  | _, _ => True

/-- Every record describes its applied seq. -/
def MemorySyncStore.Described (s : MemorySyncStore TSnapshot TEvent) : Prop :=
  ∀ key, (s.getRecord key).Describes

/-- A call with events that continue, or a snapshot that refreshes, keeps every record aligned. -/
theorem aligned_apply (call : MemorySyncCall TSnapshot TEvent)
    (s : MemorySyncStore TSnapshot TEvent) (hcontinues : Continues call s)
    (hrefreshes : Refreshes call s) (h : ∀ key, (s.getRecord key).Aligned)
    (key : TargetBindingKey) : ((call.apply s).getRecord key).Aligned := by
  cases call with
  | getAppliedSeq key' =>
      show ((s.getAppliedSeq key').2.getRecord key).Aligned
      rw [s.getRecord_getAppliedSeq]
      exact h key
  | applySnapshot key' snapshot =>
      show ((s.applySnapshot key' snapshot).getRecord key).Aligned
      rw [s.getRecord_applySnapshot]
      split_ifs
      · exact (h key').refresh hrefreshes
      · exact h key
  | applyEvents key' events =>
      obtain ⟨n, hn, hevents⟩ := hcontinues
      show ((s.applyEvents key' events).getRecord key).Aligned
      rw [s.getRecord_applyEvents]
      split_ifs
      · exact (h key').foldl_push hevents hn
      · exact h key
  | clearTarget target =>
      show ((s.clearTarget target).getRecord key).Aligned
      rw [s.getRecord_clearTarget]
      split_ifs
      · exact MemorySyncRecord.aligned_empty
      · exact h key

/-- A call whose snapshot does not refresh leaves a record that is not described. -/
theorem not_described_apply (call : MemorySyncCall TSnapshot TEvent)
    (s : MemorySyncStore TSnapshot TEvent) (h : ∀ key, (s.getRecord key).Aligned)
    (hnot : ¬ Refreshes call s) : ¬ (call.apply s).Described := by
  cases call with
  | applySnapshot key snapshot =>
      intro hdescribed
      have hkey : ((s.applySnapshot key snapshot).getRecord key).Describes := hdescribed key
      rw [s.getRecord_applySnapshot, if_pos rfl] at hkey
      exact MemorySyncRecord.not_describes_refresh (h key) hnot hkey
  | getAppliedSeq | applyEvents | clearTarget => exact absurd trivial hnot

/-- In the runs from the empty store whose events continue the applied seq, every record describes
its applied seq throughout exactly when every snapshot is not behind the applied seq or takes the
place of one at its seq. -/
theorem describes_iff_refreshes (calls : List (MemorySyncCall TSnapshot TEvent))
    (hcontinues : memorySync.Always Continues calls (∅ : MemorySyncStore TSnapshot TEvent)) :
    memorySync.Throughout MemorySyncStore.Described calls ∅ ↔
      memorySync.Always Refreshes calls ∅ := by
  refine Machine.throughout_iff_always_given
    (I := fun s : MemorySyncStore TSnapshot TEvent => ∀ key, (s.getRecord key).Aligned)
    ?_ (fun s h key => (h key).describes) ?_ (fun _ => MemorySyncRecord.aligned_empty) hcontinues
  · intro call s t hcont hrefr hstep hs
    obtain rfl : call.apply s = t := Option.some.inj hstep
    exact aligned_apply call s hcont hrefr hs
  · intro call s hs _ hnot
    exact ⟨call.apply s, rfl, not_described_apply call s hs hnot⟩

section Runs

/-- A key, an event and a snapshot without contents. -/
private def roomKey : TargetBindingKey := ⟨"phone", { ns := "chat", id := "room" }, "default"⟩

/-- An event of the room. -/
private def roomEvent (seq : Nat) : DecodedGatewayEvent Unit where
  seq := seq
  payloadType := "event"
  payloadVersion := 1
  raw := { target := roomKey.target, seq }
  value := ()

/-- A snapshot of the room. -/
private def roomSnapshot (seq : Nat) : DecodedGatewaySnapshot Unit where
  seq := seq
  payloadType := "snapshot"
  payloadVersion := 1
  raw := { target := roomKey.target, seq }
  value := ()

/-- Three events, then a snapshot that is behind them. -/
def snapshotBehind : List (MemorySyncCall Unit Unit) :=
  [.applyEvents roomKey [roomEvent 1, roomEvent 2, roomEvent 3],
    .applySnapshot roomKey (roomSnapshot 2)]

/-- The snapshot at 2 takes its place below the events 1, 2 and 3. -/
theorem snapshotBehind_not_described :
    memorySync.Always Continues snapshotBehind ∅ ∧
      ¬ memorySync.Throughout MemorySyncStore.Described snapshotBehind ∅ := by
  refine ⟨⟨⟨1, by decide, rfl, rfl, rfl, trivial⟩, ?_⟩, ?_⟩
  · rintro t -
    exact ⟨trivial, fun u _ => trivial⟩
  · rintro ⟨-, hrest⟩
    have hlast : MemorySyncStore.Described _ := ((hrest _ rfl).2 _ rfl)
    exact absurd (hlast roomKey).seqs_eq (by decide)

/-- Three events, then a snapshot that is ahead of them, and an event after it. -/
def snapshotAhead : List (MemorySyncCall Unit Unit) :=
  [.applyEvents roomKey [roomEvent 1, roomEvent 2, roomEvent 3],
    .applySnapshot roomKey (roomSnapshot 5), .applyEvents roomKey [roomEvent 6]]

/-- A snapshot that is ahead of the record refreshes it, and the record goes on from there. -/
theorem describes_iff_refreshes_ahead :
    memorySync.Always Continues snapshotAhead ∅ ∧
      memorySync.Throughout MemorySyncStore.Described snapshotAhead ∅ := by
  have hcontinues : memorySync.Always Continues snapshotAhead ∅ := by
    refine ⟨⟨1, by decide, rfl, rfl, rfl, trivial⟩, ?_⟩
    rintro t ⟨⟩
    refine ⟨trivial, ?_⟩
    rintro u ⟨⟩
    exact ⟨⟨6, by decide, rfl, trivial⟩, fun v _ => trivial⟩
  refine ⟨hcontinues, (describes_iff_refreshes snapshotAhead hcontinues).mpr ?_⟩
  refine ⟨trivial, ?_⟩
  rintro t ⟨⟩
  refine ⟨.inl (by decide), ?_⟩
  rintro u ⟨⟩
  exact ⟨trivial, fun v _ => trivial⟩

end Runs

end Synclog.Client
