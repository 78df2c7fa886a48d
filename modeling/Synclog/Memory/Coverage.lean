import Synclog.Memory.Compaction
import Synclog.Memory.Deletion
import Synclog.Memory.Latest
import Synclog.Memory.TooLong

/-!
# Snapshots that cover what is forgotten

A reader that is too far behind begins with a snapshot. That it finds one, and has nothing to read
behind it that is gone, is up to those who trim the stream and delete snapshots.

* `SnapshotKind` — the snapshots of a stream that a reader can use; `Reaches`, `Covers` — one of
  them goes as far as a seq, or as everything that is no longer retained.
* `Careful` — an operation that removes only what a snapshot reaches, and makes up for the snapshots
  that it takes away; `Careful.truncateBefore` is the rule for a truncation.
* `Covers.apply` — after careful operations the snapshots still cover what is forgotten.
* `Covers.latest` — and then the latest snapshot is far enough for every reader.
-/

namespace Synclog.Memory

open Synclog.Lib Synclog.Core

/-- Nothing is appended to another stream. -/
theorem Op.appended_of_ne {op : Op} {s : Store} {id : StreamID} (hne : op.streamID ≠ id) :
    op.appended id s = [] := by
  cases op with
  | append now req =>
      rcases s.appended_cases now req id with hnone | ⟨hid, -⟩
      · exact hnone
      · exact absurd hid hne
  | ack | createStream | deleteStream | resetCursor | truncateBefore | compactStream |
    setStreamRetention | putSnapshot | deleteSnapshot | registerWatcher | removeWatcher => rfl

/-! ## Coverage -/

/-- The snapshots of a stream with a payload type, up to a version; `0` is no bound. -/
structure SnapshotKind where
  streamID : StreamID
  payloadType : String
  maxPayloadVersion : Nat

namespace SnapshotKind

variable (k : SnapshotKind)

/-- The snapshots of the kind that are stored. -/
def Stored (s : Store) : Set Snapshot :=
  Eligible s k.streamID k.payloadType k.maxPayloadVersion

/-- A stored snapshot goes as far as `n`. -/
def Reaches (s : Store) (n : Nat) : Prop := ∃ snapshot ∈ k.Stored s, n ≤ snapshot.ref.seq

/-- Every seq that is no longer retained is reached. -/
def Covers (s : Store) : Prop :=
  ∀ n, 0 < n → n ≤ (s.ensureStream k.streamID).head →
    (∀ event ∈ (s.ensureStream k.streamID).events, event.seq ≠ n) → k.Reaches s n

/-- What the operation removes is reached afterwards, and what was reached still is. -/
structure Careful (op : Op) (s : Store) : Prop where
  removed : ∀ event ∈ (s.ensureStream k.streamID).events ++ op.appended k.streamID s,
    event ∉ ((op.apply s).ensureStream k.streamID).events → k.Reaches (op.apply s) event.seq
  reached : ∀ n, k.Reaches s n → k.Reaches (op.apply s) n

variable {k} {s t : Store} {L : TrimmedLog Event} {op : Op}

/-- A snapshot that reaches far reaches less far too. -/
theorem Reaches.mono {n n' : Nat} (h : k.Reaches s n) (hle : n' ≤ n) : k.Reaches s n' := by
  obtain ⟨snapshot, hstored, hseq⟩ := h
  exact ⟨snapshot, hstored, hle.trans hseq⟩

/-- It is the snapshots that count. -/
theorem reaches_congr (h : t.snapshots = s.snapshots) (n : Nat) :
    k.Reaches t n ↔ k.Reaches s n := by
  unfold Reaches Stored Eligible
  rw [h]

/-- In terms of the log: the newest of the forgotten events is reached. -/
theorem covers_iff (h : s.Holds k.streamID L) :
    k.Covers s ↔ (0 < L.base → k.Reaches s L.base) := by
  have hle : L.base ≤ L.head := L.base_le
  have hlength : (s.ensureStream k.streamID).events.length = L.head - L.base := h.length_events
  unfold Covers
  rw [h.head]
  constructor
  · intro hcovers hpos
    refine hcovers L.base hpos hle fun event hmem hseq => ?_
    have hbounds := h.numbered_retained.bounds hmem
    omega
  · intro hbase n hpos hn hgone
    have hforgotten : n ≤ L.base := by
      refine Classical.byContradiction fun hnot => ?_
      obtain ⟨event, hmem, hseq⟩ :=
        h.numbered_retained.exists_mem (k := n) (by omega) (by omega)
      exact hgone event hmem hseq
    exact (hbase (by omega)).mono hforgotten

/-- A careful operation leaves the forgotten events covered. -/
theorem Covers.apply (h : k.Covers s) (hs : Reachable s) (hcareful : k.Careful op s)
    (hne : op ≠ .deleteStream k.streamID) : k.Covers (op.apply s) := by
  obtain ⟨L, hL⟩ := hs.holds k.streamID
  obtain ⟨L', hL', hkept⟩ := op.holds hL
  obtain ⟨hextends, hall⟩ := hkept hne
  rw [covers_iff hL] at h
  rw [covers_iff hL']
  intro hpos
  rcases hextends.2.eq_or_lt with hsame | hmore
  · rw [← hsame] at hpos ⊢
    exact hcareful.reached _ (h hpos)
  · -- the newest forgotten event was retained before, or was just appended
    have hle : L'.base ≤ L'.all.length := L'.base_le
    have hnumbered : Consecutive Event.seq 1 L'.all := hL'.numbered
    obtain ⟨event, hmem, hseq⟩ :=
      (hnumbered.drop L.base).exists_mem (k := L'.base) (by omega)
        (by rw [List.length_drop]; omega)
    have hbefore : event ∈ (s.ensureStream k.streamID).events ++ op.appended k.streamID s := by
      rw [hL.events]
      have hdrop : L'.all.drop L.base = L.all.drop L.base ++ op.appended k.streamID s := by
        rw [hall, List.drop_append_of_le_length L.base_le]
      exact hdrop ▸ hmem
    rw [← hseq]
    refine hcareful.removed event hbefore fun hretained => ?_
    have hbounds := hL'.numbered_retained.bounds hretained
    omega

/-- The latest snapshot is far enough for a reader that needs what is gone. -/
theorem Covers.latest (h : k.Covers s) (hs : Reachable s) {c : Nat}
    (hneeds : NeedsRemoved s k.streamID c) :
    ∃ snapshot, s.getLatestSnapshot k.streamID k.payloadType k.maxPayloadVersion = .ok snapshot ∧
      snapshot ∈ k.Stored s ∧ c < snapshot.ref.seq ∧
      ¬ NeedsRemoved s k.streamID snapshot.ref.seq := by
  obtain ⟨L, hL⟩ := hs.holds k.streamID
  rw [needsRemoved_iff hL] at hneeds
  obtain ⟨far, hstored, hfar⟩ := (covers_iff hL).mp h (by omega)
  obtain ⟨hid, htyped⟩ := valid_of_eligible hs hstored
  rcases hlatest : s.getLatestSnapshot k.streamID k.payloadType k.maxPayloadVersion with
    err | snapshot
  · rw [Store.getLatestSnapshot_eq _ hid htyped] at hlatest
    rcases hbest : (Store.candidates k.streamID k.payloadType k.maxPayloadVersion
        s.snapshots.entries).argmax Store.rank with _ | best
    · have hmem := (mem_candidates_iff_eligible hs).mpr hstored
      rw [List.argmax_eq_none.mp hbest] at hmem
      cases hmem
    · rw [hbest] at hlatest
      cases hlatest
  · obtain ⟨hmem, hgreatest⟩ := (getLatestSnapshot_ok_iff_greatest hs).mp hlatest
    have hseq : far.ref.seq ≤ snapshot.ref.seq := by
      rcases (Prod.Lex.toLex_le_toLex).mp (hgreatest far hstored) with hlt | ⟨heq, -⟩
      · exact hlt.le
      · exact heq.le
    refine ⟨snapshot, rfl, hmem, by omega, ?_⟩
    rw [needsRemoved_iff hL]
    omega

/-! ## Careful operations -/

/-- An operation that removes nothing and leaves the snapshots alone. -/
theorem Careful.of_same
    (hevents : ((op.apply s).ensureStream k.streamID).events =
      (s.ensureStream k.streamID).events ++ op.appended k.streamID s)
    (hsnapshots : (op.apply s).snapshots = s.snapshots) : k.Careful op s where
  removed _ hmem hgone := absurd (hevents ▸ hmem) hgone
  reached n h := (reaches_congr hsnapshots n).mpr h

/-- An operation on another stream. -/
theorem Careful.of_other (hs : Reachable s) (hne : op.streamID ≠ k.streamID) :
    k.Careful op s := by
  have halike : AlikeOn {k.streamID} s (op.apply s) := .op_self op s hne
  have hstream : (op.apply s).ensureStream k.streamID = s.ensureStream k.streamID := by
    unfold Store.ensureStream
    rw [halike.streams k.streamID rfl]
  constructor
  · intro event hmem hgone
    rw [op.appended_of_ne hne, List.append_nil] at hmem
    exact absurd (hstream ▸ hmem) hgone
  · rintro n ⟨snapshot, ⟨⟨key, hkey⟩, hid, hrest⟩, hseq⟩
    have hnamed : key.streamID = k.streamID := by rw [hs.snapshots_named hkey, hid]
    exact ⟨snapshot, ⟨⟨key, (halike.snapshots key hnamed) ▸ hkey⟩, hid, hrest⟩, hseq⟩

/-- An acknowledgement removes nothing. -/
theorem Careful.ack (req : AckRequest) : k.Careful (.ack req) s := by
  refine .of_same ?_ (s.ack_snapshots req)
  change ((s.ack req).2.ensureStream _).events = _ ++ []
  rw [Store.ensureStream_ack, List.append_nil]

/-- A truncation below a bound that a snapshot reaches. -/
theorem Careful.truncateBefore (hs : Reachable s) {streamID : StreamID} {before : Nat}
    (hreached : streamID = k.streamID → k.Reaches s (before - 1)) :
    k.Careful (.truncateBefore streamID before) s := by
  by_cases hid : streamID = k.streamID
  · subst hid
    have hsnapshots : ((Op.truncateBefore k.streamID before).apply s).snapshots = s.snapshots :=
      Store.truncateBefore_aside snapshots_aside s k.streamID before
    refine ⟨fun event hmem hgone => ?_, fun n h => (reaches_congr hsnapshots n).mpr h⟩
    obtain ⟨snapshot, hstored, hseq⟩ := hreached rfl
    obtain ⟨L, hL⟩ := hs.holds k.streamID
    have hne : k.streamID ≠ "" := (valid_of_eligible hs hstored).1
    have hmem : event ∈ (s.ensureStream k.streamID).events := by
      simpa [Op.appended] using hmem
    have hbelow := (hL.removed_iff hne before hmem).mp hgone
    exact (reaches_congr hsnapshots _).mpr ⟨snapshot, hstored, by omega⟩
  · exact .of_other hs hid

/-- A snapshot is put; the one that it may replace has the same seq. -/
theorem Careful.putSnapshot (hs : Reachable s) (req : PutSnapshotRequest) :
    k.Careful (.putSnapshot req) s := by
  constructor
  · intro event hmem hgone
    refine absurd ?_ hgone
    have hmem : event ∈ (s.ensureStream k.streamID).events := by
      simpa [Op.appended] using hmem
    unfold Store.ensureStream at hmem ⊢
    change event ∈ (((s.putSnapshot req).2.streams.lookup k.streamID).getD {}).events
    rwa [Store.putSnapshot_streams]
  · rintro n ⟨snapshot, ⟨⟨key, hkey⟩, hid, htype, hversion⟩, hseq⟩
    change k.Reaches (s.putSnapshot req).2 n
    rcases s.putSnapshot_cases req with hsame | hstored
    · rw [hsame]
      exact ⟨snapshot, ⟨⟨key, hkey⟩, hid, htype, hversion⟩, hseq⟩
    · rw [hstored]
      by_cases hreplaced : key = Store.snapshotKeyOf req
      · have hnamed := (hs.snapshots_named hkey).symm.trans hreplaced
        unfold Store.snapshotKeyOf at hnamed
        obtain ⟨hid', hseq', htype', hversion'⟩ := SnapshotKey.mk.inj hnamed
        refine ⟨Store.newSnapshot req, ⟨⟨_, AList.lookup_insert _⟩, hid'.symm.trans hid,
          htype'.symm.trans htype, ?_⟩, hseq.trans hseq'.le⟩
        exact hversion.imp_right fun hle => hversion'.ge.trans hle
      · refine ⟨snapshot, ⟨⟨key, ?_⟩, hid, htype, hversion⟩, hseq⟩
        rw [FinMap.lookup_insert_eq_ite, if_neg hreplaced]
        exact hkey

end SnapshotKind

end Synclog.Memory
