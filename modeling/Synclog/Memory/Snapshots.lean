import Synclog.Lib.Machine
import Synclog.Memory.Recorded

/-!
# The snapshots of the memory store, as a map

What the snapshot methods are for: under a key one reads what was put there last, unless it was
deleted since. `PutSnapshot` drops a put as a duplicate when the checksum is that of the stored
snapshot, also when both are empty.

* `lastPut` — the most recent put under a key since its last deletion, in a history of operations.
* `SnapshotRun.ReadsBack` — `GetSnapshot` answers payload and checksum of that put, under every key.
* `Honest` — a put is answered as a duplicate only when its payload is the stored one.
* `snapshots_map_iff` — where equal checksums mean equal payloads, a run reads back and is honest
  exactly when no put without a checksum meets a snapshot without a checksum and another payload.
-/

namespace Synclog.Memory

open Synclog.Lib Synclog.Core

/-! ## Histories -/

/-- What an operation does to the snapshot under a key: `none` for nothing, `some none` when it is
gone afterwards, `some (some req)` when it is what `req` puts. -/
def Op.effectOn (key : SnapshotKey) : Op → Option (Option PutSnapshotRequest)
  | .putSnapshot req => if Store.snapshotKeyOf req = key then some (some req) else none
  | .deleteSnapshot key' => if key' = key then some none else none
  | .deleteStream streamID => if streamID = key.streamID then some none else none
  | _ => none

/-- The most recent put under a key since its last deletion. The history begins with the newest
operation. -/
def lastPut (history : List Op) (key : SnapshotKey) : Option PutSnapshotRequest :=
  (history.findSome? (Op.effectOn key)).join

/-- The newest operation decides first. -/
theorem lastPut_cons (op : Op) (history : List Op) (key : SnapshotKey) :
    lastPut (op :: history) key = (op.effectOn key).getD (lastPut history key) := by
  unfold lastPut
  rw [List.findSome?_cons]
  cases op.effectOn key <;> rfl

/-- Only a put under the key puts something there. -/
theorem Op.eq_put_of_effectOn {op : Op} {key : SnapshotKey} {req : PutSnapshotRequest}
    (h : op.effectOn key = some (some req)) :
    op = .putSnapshot req ∧ Store.snapshotKeyOf req = key := by
  unfold Op.effectOn at h
  split at h
  · split_ifs at h with hkey
    obtain rfl := Option.some.inj (Option.some.inj h)
    exact ⟨rfl, hkey⟩
  · split_ifs at h
    cases Option.some.inj h
  · split_ifs at h
    cases Option.some.inj h
  · cases h

/-- The last put is one of the history. -/
theorem mem_of_lastPut {history : List Op} {key : SnapshotKey} {req : PutSnapshotRequest}
    (h : lastPut history key = some req) : .putSnapshot req ∈ history := by
  induction history with
  | nil => cases h
  | cons op history ih =>
      rw [lastPut_cons] at h
      cases heffect : op.effectOn key with
      | none =>
          rw [heffect] at h
          exact List.mem_cons_of_mem _ (ih h)
      | some said =>
          rw [heffect] at h
          obtain rfl : said = some req := h
          rw [← (Op.eq_put_of_effectOn heffect).1]
          exact List.mem_cons_self

/-! ## What the operations do to a snapshot -/

/-- The key is one that the snapshot methods do not reject. -/
structure SnapshotKey.Valid (key : SnapshotKey) : Prop where
  streamID : key.streamID ≠ ""
  payloadType : key.payloadType ≠ ""

/-- Payload and checksum of a snapshot, and of the put that it comes from. -/
def Snapshot.image (snapshot : Snapshot) : Bytes × String :=
  (snapshot.payload, snapshot.ref.checksum)

/-- What a put leaves to be read: payload and checksum. -/
def PutSnapshotRequest.image (req : PutSnapshotRequest) : Bytes × String :=
  (req.payload, req.checksum)

/-- The put finds a snapshot with its own checksum. -/
def Repeats (req : PutSnapshotRequest) (s : Store) : Prop :=
  ∃ kept, s.snapshots.lookup (Store.snapshotKeyOf req) = some kept ∧
    kept.ref.checksum = req.checksum

section Operations

variable {s : Store} {key : SnapshotKey} {req : PutSnapshotRequest}

/-- A valid key passes its check. -/
theorem SnapshotKey.Valid.check (h : key.Valid) :
    Store.checkSnapshotKey key.streamID key.payloadType = .ok () := by
  unfold Store.checkSnapshotKey
  rw [if_neg h.streamID, if_neg h.payloadType]

/-- A put that repeats a checksum is dropped as a duplicate. -/
theorem Store.putSnapshot_repeated (hvalid : (Store.snapshotKeyOf req).Valid)
    (h : Repeats req s) : ∃ ref, s.putSnapshot req = (.ok (ref, true), s) := by
  obtain ⟨kept, hkept, hsame⟩ := h
  have hcheck : checkSnapshotKey req.streamID req.payloadType = .ok () := hvalid.check
  refine ⟨kept.ref, ?_⟩
  unfold putSnapshot
  simp only [hcheck, hkept, if_pos hsame]

/-- Any other put is stored. -/
theorem Store.putSnapshot_stored (hvalid : (Store.snapshotKeyOf req).Valid)
    (h : ¬ Repeats req s) : ∃ ref, s.putSnapshot req = (.ok (ref, false),
      { s with snapshots := s.snapshots.insert (snapshotKeyOf req) (newSnapshot req) }) := by
  have hcheck : checkSnapshotKey req.streamID req.payloadType = .ok () := hvalid.check
  refine ⟨(newSnapshot req).ref, ?_⟩
  unfold putSnapshot
  simp only [hcheck]
  cases hkept : s.snapshots.lookup (snapshotKeyOf req) with
  | none => rfl
  | some kept =>
      have hother : kept.ref.checksum ≠ req.checksum := fun hsame => h ⟨kept, hkept, hsame⟩
      simp only [if_neg hother]
      rfl

/-- A put under any other key is rejected. -/
theorem Store.putSnapshot_rejected (h : ¬ (Store.snapshotKeyOf req).Valid) :
    ∃ err, s.putSnapshot req = (.error err, s) := by
  unfold putSnapshot checkSnapshotKey
  by_cases hid : req.streamID = ""
  · exact ⟨_, by rw [if_pos hid]⟩
  by_cases htype : req.payloadType = ""
  · exact ⟨_, by rw [if_neg hid, if_pos htype]⟩
  · exact absurd ⟨hid, htype⟩ h

/-- A put that is answered as a duplicate is not rejected, and repeats a checksum. -/
theorem Store.repeats_of_deduplicated {ref : SnapshotRef}
    (h : (s.putSnapshot req).1 = .ok (ref, true)) :
    (Store.snapshotKeyOf req).Valid ∧ Repeats req s := by
  by_cases hvalid : (snapshotKeyOf req).Valid
  · by_cases hrepeats : Repeats req s
    · exact ⟨hvalid, hrepeats⟩
    · obtain ⟨ref', hput⟩ := putSnapshot_stored hvalid hrepeats
      rw [hput] at h
      cases h
  · obtain ⟨err, hput⟩ := putSnapshot_rejected (s := s) hvalid
    rw [hput] at h
    cases h

/-- A snapshot that an operation has no effect on stays. -/
theorem Op.lookup_of_untouched {op : Op} (h : op.effectOn key = none) :
    (op.apply s).snapshots.lookup key = s.snapshots.lookup key := by
  cases op with
  | putSnapshot req =>
      have hkey : Store.snapshotKeyOf req ≠ key := by simpa [Op.effectOn] using h
      change (s.putSnapshot req).2.snapshots.lookup key = _
      rcases s.putSnapshot_cases req with hsame | hput
      · rw [hsame]
      · rw [hput, FinMap.lookup_insert_eq_ite, if_neg hkey.symm]
  | deleteSnapshot key' =>
      have hkey : key' ≠ key := by simpa [Op.effectOn] using h
      change (s.deleteSnapshot key').2.snapshots.lookup key = _
      rcases s.deleteSnapshot_cases key' with hsame | hdelete
      · rw [hsame]
      · rw [hdelete, FinMap.lookup_erase_eq_ite, if_neg hkey.symm]
  | deleteStream streamID =>
      have hkey : streamID ≠ key.streamID := by simpa [Op.effectOn] using h
      unfold Op.apply Store.deleteStream
      simp only
      split_ifs
      · rfl
      · rw [FinMap.lookup_keep, if_pos (decide_eq_true hkey.symm)]
  | ack req => exact congrArg (AList.lookup key) (s.ack_snapshots req)
  | resetCursor subscriberID streamID seq metadata =>
      exact congrArg (AList.lookup key) (s.resetCursor_snapshots subscriberID streamID seq metadata)
  | append | createStream | truncateBefore | compactStream | setStreamRetention |
    registerWatcher | removeWatcher =>
      rw [Op.aside snapshots_aside]
      trivial

/-- A snapshot that an operation removes is gone. -/
theorem Op.lookup_of_gone (hvalid : key.Valid) {op : Op} (h : op.effectOn key = some none) :
    (op.apply s).snapshots.lookup key = none := by
  unfold Op.effectOn at h
  split at h
  · split_ifs at h
    cases Option.some.inj h
  · rename_i key'
    split_ifs at h with hkey
    subst hkey
    change (s.deleteSnapshot key').2.snapshots.lookup key' = none
    unfold Store.deleteSnapshot
    simp only [hvalid.check]
    cases hlookup : s.snapshots.lookup key' with
    | none => exact hlookup
    | some kept => simp
  · rename_i streamID
    split_ifs at h with hkey
    have hid : streamID ≠ "" := hkey ▸ hvalid.streamID
    unfold Op.apply Store.deleteStream
    simp only
    rw [if_neg hid, FinMap.lookup_keep, if_neg]
    simpa using hkey.symm
  · cases h

end Operations

/-! ## Runs -/

/-- A store with the operations that led to it, newest first. -/
structure SnapshotRun where
  store : Store
  history : List Op := []

/-- The store with its history, as a machine whose labels are the operations. -/
def snapshotRuns : Machine SnapshotRun Op where
  step op σ := some { store := op.apply σ.store, history := op :: σ.history }

/-- Under every key that is not rejected, `GetSnapshot` answers payload and checksum of the last
put, and that nothing is found where there is none. -/
def SnapshotRun.ReadsBack (σ : SnapshotRun) : Prop :=
  ∀ key : SnapshotKey, key.Valid →
    (σ.store.getSnapshot key).map Snapshot.image =
      ((lastPut σ.history key).map PutSnapshotRequest.image).elim (.error errNotFound) .ok

/-- A put is answered as a duplicate only when its payload is the stored one. -/
def Honest (op : Op) (σ : SnapshotRun) : Prop :=
  ∀ req ref, op = .putSnapshot req → (σ.store.putSnapshot req).1 = .ok (ref, true) →
    ∃ kept, σ.store.snapshots.lookup (Store.snapshotKeyOf req) = some kept ∧
      kept.payload = req.payload

/-- A put without a checksum that finds a snapshot without one has its payload. -/
def BlankRepeats (op : Op) (σ : SnapshotRun) : Prop :=
  ∀ req kept, op = .putSnapshot req → (Store.snapshotKeyOf req).Valid → req.checksum = "" →
    σ.store.snapshots.lookup (Store.snapshotKeyOf req) = some kept → kept.ref.checksum = "" →
      kept.payload = req.payload

/-- Puts with the same checksum, where it is not empty, have the same payload. -/
def ChecksumsAgree (ops : List Op) : Prop :=
  ∀ req req', .putSnapshot req ∈ ops → .putSnapshot req' ∈ ops → req.checksum ≠ "" →
    req.checksum = req'.checksum → req.payload = req'.payload

/-- The next put agrees with those before it. -/
def AgreesWithPast (op : Op) (σ : SnapshotRun) : Prop :=
  ∀ req, op = .putSnapshot req → ∀ req', .putSnapshot req' ∈ σ.history → req.checksum ≠ "" →
    req.checksum = req'.checksum → req.payload = req'.payload

namespace SnapshotRun

/-- The invariant: under every key that is not rejected, the image of the last put is stored. -/
def Tracks (σ : SnapshotRun) : Prop :=
  ∀ key : SnapshotKey, key.Valid →
    (σ.store.snapshots.lookup key).map Snapshot.image =
      (lastPut σ.history key).map PutSnapshotRequest.image

variable {σ : SnapshotRun}

/-- A snapshot that is read is what is stored under its key. -/
theorem getSnapshot_image (s : Store) {key : SnapshotKey} (hvalid : key.Valid) :
    (s.getSnapshot key).map Snapshot.image =
      ((s.snapshots.lookup key).map Snapshot.image).elim (.error errNotFound) .ok := by
  unfold Store.getSnapshot
  simp only [hvalid.check]
  cases s.snapshots.lookup key <;> rfl

/-- Tracked snapshots read back. -/
theorem Tracks.readsBack (h : σ.Tracks) : σ.ReadsBack := by
  intro key hvalid
  rw [getSnapshot_image _ hvalid, h key hvalid]

/-- What reads back is stored. -/
theorem ReadsBack.tracks (h : σ.ReadsBack) : σ.Tracks := by
  intro key hvalid
  have hread := h key hvalid
  rw [getSnapshot_image _ hvalid] at hread
  cases hkept : (σ.store.snapshots.lookup key).map Snapshot.image with
  | none =>
      cases hlast : (lastPut σ.history key).map PutSnapshotRequest.image with
      | none => rfl
      | some image =>
          rw [hkept, hlast] at hread
          cases hread
  | some image =>
      cases hlast : (lastPut σ.history key).map PutSnapshotRequest.image with
      | none =>
          rw [hkept, hlast] at hread
          cases hread
      | some image' =>
          rw [hkept, hlast] at hread
          rw [Except.ok.inj hread]

/-- A stored snapshot has the image of a put in the history. -/
theorem Tracks.put_of_kept (h : σ.Tracks) {key : SnapshotKey} (hvalid : key.Valid)
    {kept : Snapshot} (hkept : σ.store.snapshots.lookup key = some kept) :
    ∃ req, .putSnapshot req ∈ σ.history ∧ kept.payload = req.payload ∧
      kept.ref.checksum = req.checksum := by
  have himage := h key hvalid
  rw [hkept] at himage
  obtain ⟨req, hlast, himage'⟩ := Option.map_eq_some_iff.mp himage.symm
  obtain ⟨hpayload, hchecksum⟩ := Prod.mk.inj himage'
  exact ⟨req, mem_of_lastPut hlast, hpayload.symm, hchecksum.symm⟩

/-- A put that repeats a checksum repeats the payload. -/
theorem Tracks.payload_eq (h : σ.Tracks) {req : PutSnapshotRequest}
    (hvalid : (Store.snapshotKeyOf req).Valid) (hpast : AgreesWithPast (.putSnapshot req) σ)
    (hblank : BlankRepeats (.putSnapshot req) σ) {kept : Snapshot}
    (hkept : σ.store.snapshots.lookup (Store.snapshotKeyOf req) = some kept)
    (hsame : kept.ref.checksum = req.checksum) : kept.payload = req.payload := by
  by_cases hempty : req.checksum = ""
  · exact hblank req kept rfl hvalid hempty hkept (hsame.trans hempty)
  · obtain ⟨req', hmem, hpayload, hchecksum⟩ := h.put_of_kept hvalid hkept
    rw [hpayload]
    exact (hpast req rfl req' hmem hempty (hsame.symm.trans hchecksum)).symm

/-- A step that meets both conditions keeps the last puts stored. -/
theorem Tracks.step (h : σ.Tracks) {op : Op} (hpast : AgreesWithPast op σ)
    (hblank : BlankRepeats op σ) :
    Tracks { store := op.apply σ.store, history := op :: σ.history } := by
  intro key hvalid
  show ((op.apply σ.store).snapshots.lookup key).map _ = (lastPut (op :: σ.history) key).map _
  rw [lastPut_cons]
  cases heffect : op.effectOn key with
  | none =>
      rw [Op.lookup_of_untouched heffect]
      exact h key hvalid
  | some said =>
      cases said with
      | none =>
          rw [Op.lookup_of_gone hvalid heffect]
          rfl
      | some req =>
          obtain ⟨rfl, rfl⟩ := Op.eq_put_of_effectOn heffect
          show ((σ.store.putSnapshot req).2.snapshots.lookup _).map _ = some req.image
          by_cases hrepeats : Repeats req σ.store
          · obtain ⟨kept, hkept, hsame⟩ := id hrepeats
            obtain ⟨ref, hput⟩ := Store.putSnapshot_repeated hvalid hrepeats
            rw [hput, hkept, Option.map_some, Snapshot.image, hsame,
              h.payload_eq hvalid hpast hblank hkept hsame]
            rfl
          · obtain ⟨ref, hput⟩ := Store.putSnapshot_stored hvalid hrepeats
            rw [hput]
            simp only [AList.lookup_insert]
            rfl

/-- A put without a checksum and with another payload leads to a store that does not read back. -/
theorem not_readsBack {op : Op} (hnot : ¬ BlankRepeats op σ) :
    ¬ ReadsBack { store := op.apply σ.store, history := op :: σ.history } := by
  intro hreads
  refine hnot fun req kept hop hvalid hempty hkept hblank => ?_
  subst hop
  have hsame : kept.ref.checksum = req.checksum := hblank.trans hempty.symm
  obtain ⟨ref, hput⟩ := Store.putSnapshot_repeated hvalid ⟨kept, hkept, hsame⟩
  have himage := hreads.tracks (Store.snapshotKeyOf req) hvalid
  have heffect : (Op.putSnapshot req).effectOn (Store.snapshotKeyOf req) = some (some req) :=
    if_pos rfl
  rw [lastPut_cons, heffect] at himage
  change ((σ.store.putSnapshot req).2.snapshots.lookup _).map _ = some req.image at himage
  rw [hput, hkept] at himage
  exact (Prod.mk.inj (Option.some.inj himage)).1

/-- Among the steps that agree with the past, the honest ones are those whose blank puts repeat. -/
theorem Tracks.honest_iff (h : σ.Tracks) {op : Op} (hpast : AgreesWithPast op σ) :
    Honest op σ ↔ BlankRepeats op σ := by
  constructor
  · rintro hhonest req kept rfl hvalid hempty hkept hblank
    have hsame : kept.ref.checksum = req.checksum := hblank.trans hempty.symm
    obtain ⟨ref, hput⟩ := Store.putSnapshot_repeated hvalid ⟨kept, hkept, hsame⟩
    obtain ⟨kept', hkept', hpayload⟩ := hhonest req ref rfl (by rw [hput])
    rw [hkept] at hkept'
    rw [Option.some.inj hkept', hpayload]
  · rintro hblank req ref rfl hput
    obtain ⟨hvalid, kept, hkept, hsame⟩ := Store.repeats_of_deduplicated hput
    exact ⟨kept, hkept, h.payload_eq hvalid hpast hblank hkept hsame⟩

/-- At the start there are no snapshots. -/
theorem tracks_start : Tracks { store := newStore } := by
  intro key _
  rfl

end SnapshotRun

/-- Where the puts of a run agree, each step agrees with the past. -/
theorem ChecksumsAgree.always {ops : List Op} {σ : SnapshotRun}
    (h : ChecksumsAgree (ops ++ σ.history)) : snapshotRuns.Always AgreesWithPast ops σ := by
  induction ops generalizing σ with
  | nil => trivial
  | cons op ops ih =>
      constructor
      · rintro req rfl req' hmem
        exact h req req' List.mem_cons_self (List.mem_append_right _ hmem)
      · rintro τ ⟨⟩
        refine ih fun req req' hmem hmem' => h req req' ?_ ?_
        · simpa [or_left_comm] using hmem
        · simpa [or_left_comm] using hmem'

/-- Where puts with one non-empty checksum have one payload: `GetSnapshot` answers the last put in
every state of a run and duplicates are reported honestly in every step, exactly when no put without
a checksum meets a snapshot without a checksum and with another payload. -/
theorem snapshots_map_iff {ops : List Op} (hagree : ChecksumsAgree ops) :
    (snapshotRuns.Throughout SnapshotRun.ReadsBack ops { store := newStore } ∧
        snapshotRuns.Always Honest ops { store := newStore }) ↔
      snapshotRuns.Always BlankRepeats ops { store := newStore } := by
  have hpast : snapshotRuns.Always AgreesWithPast ops { store := newStore } :=
    ChecksumsAgree.always (by simpa using hagree)
  have hreads : snapshotRuns.Throughout SnapshotRun.ReadsBack ops { store := newStore } ↔
      snapshotRuns.Always BlankRepeats ops { store := newStore } := by
    refine Machine.throughout_iff_always_given (I := SnapshotRun.Tracks) ?_
      (fun σ h => h.readsBack) ?_ SnapshotRun.tracks_start hpast
    · rintro op σ τ hagrees hblank ⟨⟩ hσ
      exact hσ.step hagrees hblank
    · intro op σ _ _ hnot
      exact ⟨_, rfl, SnapshotRun.not_readsBack hnot⟩
  have hhonest : snapshotRuns.Always (fun op σ => AgreesWithPast op σ ∧ Honest op σ) ops
      { store := newStore } ↔
        snapshotRuns.Always (fun op σ => AgreesWithPast op σ ∧ BlankRepeats op σ) ops
          { store := newStore } := by
    refine Machine.always_congr (I := SnapshotRun.Tracks)
      (fun op σ h => and_congr_right fun hagrees => h.honest_iff hagrees) ?_
      SnapshotRun.tracks_start
    rintro op σ τ ⟨hagrees, hblank⟩ ⟨⟩ hσ
    exact hσ.step hagrees hblank
  rw [Machine.always_and, Machine.always_and, and_iff_right hpast, and_iff_right hpast] at hhonest
  rw [hreads, hhonest, and_self]

/-- A put under one key. -/
def putOf (payload : Bytes) (checksum : String) : PutSnapshotRequest :=
  { streamID := "s", seq := 1, payload, payloadType := "state", checksum }

/-- Two images without a checksum: the second is dropped, and answered as a duplicate. -/
theorem second_blank_put_is_dropped :
    ChecksumsAgree [.putSnapshot (putOf [1] ""), .putSnapshot (putOf [2] "")] ∧
      ¬ snapshotRuns.Throughout SnapshotRun.ReadsBack
        [.putSnapshot (putOf [1] ""), .putSnapshot (putOf [2] "")] { store := newStore } ∧
        (((newStore.putSnapshot (putOf [1] "")).2.putSnapshot (putOf [2] "")).1.map (·.2)) =
          .ok true := by
  refine ⟨?_, ?_, by decide⟩
  · rintro req req' hmem - hne -
    simp only [List.mem_cons, Op.putSnapshot.injEq, List.not_mem_nil, or_false] at hmem
    rcases hmem with rfl | rfl
    · exact absurd rfl hne
    · exact absurd rfl hne
  · rintro ⟨-, hrest⟩
    have hlast : SnapshotRun.ReadsBack _ := (hrest _ rfl).2 _ rfl
    have hread := hlast ⟨"s", 1, "state", 0⟩ ⟨by decide, by decide⟩
    exact absurd hread (by decide)

/-- Two images with checksums of their own: the second one is read back. -/
theorem snapshots_map_iff_checked :
    snapshotRuns.Throughout SnapshotRun.ReadsBack
      [.putSnapshot (putOf [1] "a"), .putSnapshot (putOf [2] "b")] { store := newStore } := by
  have hagree : ChecksumsAgree [.putSnapshot (putOf [1] "a"), .putSnapshot (putOf [2] "b")] := by
    intro req req' hmem hmem' _ hsame
    simp only [List.mem_cons, Op.putSnapshot.injEq, List.not_mem_nil, or_false] at hmem hmem'
    rcases hmem with rfl | rfl <;> rcases hmem' with rfl | rfl
    · rfl
    · exact absurd hsame (by decide)
    · exact absurd hsame (by decide)
    · rfl
  refine ((snapshots_map_iff hagree).mpr ?_).1
  refine snapshotRuns.always_of_forall ?_ _
  intro op hmem σ req kept hop _ hempty
  subst hop
  simp only [List.mem_cons, Op.putSnapshot.injEq, List.not_mem_nil, or_false] at hmem
  rcases hmem with rfl | rfl
  · exact absurd hempty (by decide)
  · exact absurd hempty (by decide)

end Synclog.Memory
