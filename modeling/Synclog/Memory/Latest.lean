import Synclog.Memory.Snapshots

/-!
# The latest snapshot, in every iteration order

`GetLatestSnapshot` looks at the snapshots one after the other, in the order in which Go happens to
iterate over their map.

* `SnapshotOrder s` — an iteration order of the snapshots of a store.
* `Eligible` — the snapshots of a stream and a payload type within a bound on the version.
* `getLatestSnapshot_greatest` — in every order the answer is the eligible snapshot with the
  greatest seq and, among those with this seq, the greatest version, or that there is none.
-/

namespace Synclog.Memory

open Synclog.Lib Synclog.Core

/-! ## Iteration orders -/

/-- An order in which a loop may visit the snapshots: the same entries, listed otherwise. -/
structure SnapshotOrder (s : Store) where
  order : FinMap SnapshotKey Snapshot
  perm : order.entries.Perm s.snapshots.entries

/-- The store whose loops visit its snapshots in the given order. -/
def Store.visiting (s : Store) (o : SnapshotOrder s) : Store := { s with snapshots := o.order }

/-- The snapshots of a stream and a payload type whose version is within the bound; `0` is no bound.
-/
def Eligible (s : Store) (streamID : StreamID) (payloadType : String) (maxPayloadVersion : Nat) :
    Set Snapshot :=
  {snapshot | (∃ key, s.snapshots.lookup key = some snapshot) ∧
    snapshot.ref.streamID = streamID ∧ snapshot.ref.payloadType = payloadType ∧
    (maxPayloadVersion = 0 ∨ snapshot.ref.payloadVersion ≤ maxPayloadVersion)}

section Latest

variable {s : Store} {streamID : StreamID} {payloadType : String} {maxPayloadVersion : Nat}

/-- The candidates of the loop are the eligible snapshots: a stored snapshot has the stream, the
type and the version of its key. -/
theorem mem_candidates_iff_eligible (hs : Reachable s) {snapshot : Snapshot} :
    snapshot ∈ Store.candidates streamID payloadType maxPayloadVersion s.snapshots.entries ↔
      snapshot ∈ Eligible s streamID payloadType maxPayloadVersion := by
  have hcompatible : ∀ {key}, s.snapshots.lookup key = some snapshot →
      (Store.compatible streamID payloadType maxPayloadVersion key = true ↔
        snapshot.ref.streamID = streamID ∧ snapshot.ref.payloadType = payloadType ∧
          (maxPayloadVersion = 0 ∨ snapshot.ref.payloadVersion ≤ maxPayloadVersion)) := by
    intro key hkey
    rw [hs.snapshots_named hkey]
    simp [Store.compatible, and_assoc, Nat.pos_iff_ne_zero]
  rw [Store.mem_candidates]
  constructor
  · rintro ⟨key, hkey, hc⟩
    exact ⟨⟨key, hkey⟩, (hcompatible hkey).mp hc⟩
  · rintro ⟨⟨key, hkey⟩, hc⟩
    exact ⟨key, hkey, (hcompatible hkey).mpr hc⟩

/-- The keys of the stored snapshots are not rejected. -/
theorem Reachable.snapshots_valid (hs : Reachable s) {key : SnapshotKey} {snapshot : Snapshot}
    (h : s.snapshots.lookup key = some snapshot) : key.Valid := by
  refine hs.invariant (I := fun s => ∀ key snapshot, s.snapshots.lookup key = some snapshot →
    key.Valid) ?_ ?_ key snapshot h
  · intro key snapshot hlookup
    simp [newStore] at hlookup
  · intro op s hvalid key snapshot hlookup
    rcases op.snapshots_cases hlookup with hold | ⟨req, rfl, rfl, rfl⟩
    · exact hvalid _ _ hold
    · by_contra hnot
      obtain ⟨err, hput⟩ := Store.putSnapshot_rejected (s := s) hnot
      change (s.putSnapshot req).2.snapshots.lookup _ = _ at hlookup
      rw [hput] at hlookup
      exact hnot (hvalid _ _ hlookup)

/-- Nothing is eligible for a request that does not pass the checks. -/
theorem valid_of_eligible (hs : Reachable s) {snapshot : Snapshot}
    (h : snapshot ∈ Eligible s streamID payloadType maxPayloadVersion) :
    streamID ≠ "" ∧ payloadType ≠ "" := by
  obtain ⟨⟨key, hkey⟩, rfl, rfl, -⟩ := h
  have hvalid := hs.snapshots_valid hkey
  rw [hs.snapshots_named hkey] at hvalid
  exact ⟨hvalid.streamID, hvalid.payloadType⟩

/-- The order does not matter. -/
theorem getLatestSnapshot_visiting (hs : Reachable s) (o : SnapshotOrder s) :
    (s.visiting o).getLatestSnapshot streamID payloadType maxPayloadVersion =
      s.getLatestSnapshot streamID payloadType maxPayloadVersion :=
  hs.getLatestSnapshot_congr fun _ => AList.perm_lookup o.perm

/-- A snapshot is answered exactly if it is the eligible one with the greatest rank. -/
theorem getLatestSnapshot_ok_iff_greatest (hs : Reachable s) {snapshot : Snapshot} :
    s.getLatestSnapshot streamID payloadType maxPayloadVersion = .ok snapshot ↔
      snapshot ∈ Eligible s streamID payloadType maxPayloadVersion ∧
        ∀ other ∈ Eligible s streamID payloadType maxPayloadVersion,
          Store.rank other ≤ Store.rank snapshot := by
  have hargmax : ∀ {x}, x ∈ Store.candidates streamID payloadType maxPayloadVersion
      s.snapshots.entries ↔ x ∈ Eligible s streamID payloadType maxPayloadVersion :=
    mem_candidates_iff_eligible hs
  constructor
  · intro h
    obtain ⟨hid, htyped⟩ := Store.checked_of_getLatestSnapshot h
    rw [Store.getLatestSnapshot_eq_ok_iff hid htyped,
      argmax_eq_some_iff_of_injOn hs.rank_injOn] at h
    simpa only [hargmax] using h
  · intro h
    obtain ⟨hid, htyped⟩ := valid_of_eligible hs h.1
    rw [Store.getLatestSnapshot_eq_ok_iff hid htyped, argmax_eq_some_iff_of_injOn hs.rank_injOn]
    simpa only [hargmax] using h

/-- That there is none is answered exactly if the checks are passed and nothing is eligible. -/
theorem getLatestSnapshot_notFound_iff (hs : Reachable s) :
    s.getLatestSnapshot streamID payloadType maxPayloadVersion = .error errNotFound ↔
      streamID ≠ "" ∧ payloadType ≠ "" ∧
        Eligible s streamID payloadType maxPayloadVersion = ∅ := by
  by_cases hid : streamID = ""
  · unfold Store.getLatestSnapshot Store.checkSnapshotKey
    rw [if_pos hid]
    simp [hid, errInvalidArgument, errNotFound]
  by_cases htyped : payloadType = ""
  · unfold Store.getLatestSnapshot Store.checkSnapshotKey
    rw [if_neg hid, if_pos htyped]
    simp [htyped, errInvalidArgument, errNotFound]
  rw [Store.getLatestSnapshot_eq _ hid htyped, Set.eq_empty_iff_forall_notMem]
  simp only [← mem_candidates_iff_eligible hs]
  rcases hbest : (Store.candidates streamID payloadType maxPayloadVersion
      s.snapshots.entries).argmax Store.rank with _ | best
  · rw [List.argmax_eq_none.mp hbest]
    simp [hid, htyped]
  · simp only [Option.elim_some, reduceCtorEq, false_iff]
    rintro ⟨-, -, hnone⟩
    exact hnone best (List.argmax_mem hbest)

/-- **The latest snapshot.** In every reachable store and every iteration order of its snapshots,
the answer is the eligible snapshot with the greatest seq and, among those, the greatest version;
it is `ErrNotFound` exactly if the request names a stream and a type and nothing is eligible; and it
is the same in all orders. -/
theorem getLatestSnapshot_greatest (hs : Reachable s) (o : SnapshotOrder s) (streamID : StreamID)
    (payloadType : String) (maxPayloadVersion : Nat) :
    (∀ snapshot, (s.visiting o).getLatestSnapshot streamID payloadType maxPayloadVersion =
        .ok snapshot ↔
      snapshot ∈ Eligible s streamID payloadType maxPayloadVersion ∧
        ∀ other ∈ Eligible s streamID payloadType maxPayloadVersion,
          Store.rank other ≤ Store.rank snapshot) ∧
    ((s.visiting o).getLatestSnapshot streamID payloadType maxPayloadVersion =
        .error errNotFound ↔
      streamID ≠ "" ∧ payloadType ≠ "" ∧
        Eligible s streamID payloadType maxPayloadVersion = ∅) ∧
    ∀ o' : SnapshotOrder s,
      (s.visiting o').getLatestSnapshot streamID payloadType maxPayloadVersion =
        (s.visiting o).getLatestSnapshot streamID payloadType maxPayloadVersion := by
  rw [getLatestSnapshot_visiting hs o]
  exact ⟨fun _ => getLatestSnapshot_ok_iff_greatest hs, getLatestSnapshot_notFound_iff hs,
    fun o' => getLatestSnapshot_visiting hs o'⟩

end Latest

/-- The snapshots in the opposite order. -/
def SnapshotOrder.reverse (s : Store) : SnapshotOrder s where
  order :=
    { entries := s.snapshots.entries.reverse
      nodupKeys :=
        (List.perm_nodupKeys (List.reverse_perm s.snapshots.entries)).mpr s.snapshots.nodupKeys }
  perm := List.reverse_perm s.snapshots.entries

/-- A snapshot of seq 2 in version 1, one of seq 4 in version 2, and one of another type. -/
def threeSnapshots : Store :=
  runOps
    [.putSnapshot { streamID := "s", seq := 2, payloadType := "state", payloadVersion := 1 },
      .putSnapshot { streamID := "s", seq := 4, payloadType := "state", payloadVersion := 2 },
      .putSnapshot { streamID := "s", seq := 5, payloadType := "other", payloadVersion := 1 }]
    newStore

/-- Within version 1 the first one is the latest, also in the opposite order. -/
theorem getLatestSnapshot_greatest_reversed :
    ∃ snapshot, snapshot.ref.seq = 2 ∧
      threeSnapshots.getLatestSnapshot "s" "state" 1 = .ok snapshot ∧
      (threeSnapshots.visiting (.reverse threeSnapshots)).getLatestSnapshot "s" "state" 1 =
        .ok snapshot := by
  have hreach : Reachable threeSnapshots := ⟨_, rfl⟩
  obtain ⟨-, -, hsame⟩ := getLatestSnapshot_greatest hreach ⟨_, .refl _⟩ "s" "state" 1
  exact ⟨_, rfl, rfl, hsame (.reverse threeSnapshots)⟩

end Synclog.Memory
