import Synclog.Memory.Interference

/-!
# The memory store with the history of one stream

The store forgets trimmed events. `Recorded` keeps beside it the list of all events that `Append`
has added to one stream, and `Recorded.Ok` says that the stream stands for a log with these entries
and that the snapshots stored for it are right for them, in a sense that a `SnapshotRule` fixes.

`Recorded.Step` is an operation that resets no cursor, deletes no stream and puts no wrong
snapshot; `Recorded.Ok.steps` collects what any number of them keeps.

Before that, what holds after any operations at all (`OpStep`): events and snapshots name the stream
they are stored for (`Reachable.events_named`, `Reachable.snapshots_named`).
-/

namespace Synclog.Memory

open Synclog.Lib Synclog.Core
open Relation (ReflTransGen)

/-! ## What operations leave alone -/

namespace Store

/-- An acknowledgement leaves the snapshots alone. -/
theorem ack_snapshots (s : Store) (req : AckRequest) :
    (s.ack req).2.snapshots = s.snapshots := by
  unfold ack
  simp only
  split_ifs <;> rfl

/-- A reset leaves the snapshots alone. -/
theorem resetCursor_snapshots (s : Store) (subscriberID : SubscriberID)
    (streamID : StreamID) (seq : Nat) (metadata : String) :
    (s.resetCursor subscriberID streamID seq metadata).2.snapshots = s.snapshots := by
  unfold resetCursor
  split_ifs <;> rfl

/-- `DeleteSnapshot` stores nothing. -/
theorem deleteSnapshot_snapshots {s : Store} {key key' : SnapshotKey} {snapshot : Snapshot}
    (h : (s.deleteSnapshot key).2.snapshots.lookup key' = some snapshot) :
    s.snapshots.lookup key' = some snapshot := by
  rcases s.deleteSnapshot_cases key with hsame | herased
  · rwa [hsame] at h
  · rw [herased, FinMap.lookup_erase_eq_ite] at h
    split_ifs at h
    exact h

end Store

/-- A snapshot that is there after an operation was there before, or the operation has put it. -/
theorem Op.snapshots_cases (op : Op) {s : Store} {key : SnapshotKey} {snapshot : Snapshot}
    (h : (op.apply s).snapshots.lookup key = some snapshot) :
    s.snapshots.lookup key = some snapshot ∨
      ∃ req, op = .putSnapshot req ∧ key = Store.snapshotKeyOf req ∧
        snapshot = Store.newSnapshot req := by
  cases op with
  | putSnapshot req =>
      change (s.putSnapshot req).2.snapshots.lookup key = some snapshot at h
      rcases s.putSnapshot_cases req with hsame | hstored
      · exact .inl (hsame ▸ h)
      · rw [hstored, FinMap.lookup_insert_eq_ite] at h
        split_ifs at h with hkey
        · cases h
          exact .inr ⟨req, rfl, hkey, rfl⟩
        · exact .inl h
  | deleteSnapshot key' => exact .inl (Store.deleteSnapshot_snapshots h)
  | deleteStream streamID =>
      unfold Op.apply Store.deleteStream at h
      simp only at h
      split_ifs at h
      · exact .inl h
      · simp only [FinMap.lookup_keep] at h
        split_ifs at h
        exact .inl h
  | ack req => exact .inl (s.ack_snapshots req ▸ h)
  | resetCursor subscriberID streamID seq metadata =>
      exact .inl (s.resetCursor_snapshots subscriberID streamID seq metadata ▸ h)
  | append | createStream | truncateBefore | compactStream | setStreamRetention |
    registerWatcher | removeWatcher =>
      rw [Op.aside snapshots_aside] at h
      · exact .inl h
      · trivial

/-! ## What is stored for a stream names it -/

/-- Another party performs an operation, whichever. -/
def OpStep (s s' : Store) : Prop := ∃ op : Op, s' = op.apply s

/-- Operations of others lead to reachable stores. -/
theorem Reachable.opSteps {s s' : Store} (hs : Reachable s) (h : ReflTransGen OpStep s s') :
    Reachable s' := by
  induction h with
  | refl => exact hs
  | tail _ hstep ih =>
      obtain ⟨op, rfl⟩ := hstep
      exact ih.apply op

/-- What is appended to a stream carries its id. -/
theorem Op.appended_named {op : Op} {s : Store} {id : StreamID} {event : Event}
    (h : event ∈ op.appended id s) : event.streamID = id := by
  cases op with
  | append now req =>
      change event ∈ s.appended now req id at h
      rcases s.appended_cases now req id with hnone | ⟨hid, -, -, hevent⟩
      · simp [hnone] at h
      · rw [hevent] at h
        obtain rfl := List.mem_singleton.mp h
        exact hid
  | ack | createStream | deleteStream | resetCursor | truncateBefore | compactStream |
    setStreamRetention | putSnapshot | deleteSnapshot | registerWatcher | removeWatcher => cases h

/-- The events of a stream carry its id. -/
theorem Reachable.events_named {s : Store} (hs : Reachable s) {id : StreamID} {event : Event}
    (h : event ∈ (s.ensureStream id).events) : event.streamID = id := by
  have hall : ∃ L, s.Holds id L ∧ ∀ event ∈ L.all, event.streamID = id := by
    refine hs.invariant (I := fun s => ∃ L, s.Holds id L ∧ ∀ event ∈ L.all, event.streamID = id)
      ⟨.empty, .fresh, by simp [TrimmedLog.empty]⟩ ?_
    rintro op s ⟨L, hL, hnamed⟩
    rcases op.streamStep s id with hstep | ⟨-, hnone⟩
    · obtain ⟨L', hL', -, hall⟩ := hstep.represents hL
      refine ⟨L', hL', ?_⟩
      intro event hmem
      rw [hall] at hmem
      rcases List.mem_append.mp hmem with hold | hnew
      · exact hnamed event hold
      · exact Op.appended_named hnew
    · refine ⟨.empty, ?_, by simp [TrimmedLog.empty]⟩
      unfold Store.Holds Store.ensureStream
      rw [hnone]
      exact .fresh
  obtain ⟨L, hL, hnamed⟩ := hall
  rw [hL.events] at h
  exact hnamed event (List.mem_of_mem_drop h)

/-- A stored snapshot says under which key it is stored. -/
theorem Reachable.snapshots_named {s : Store} (hs : Reachable s) {key : SnapshotKey}
    {snapshot : Snapshot} (h : s.snapshots.lookup key = some snapshot) :
    key = ⟨snapshot.ref.streamID, snapshot.ref.seq, snapshot.ref.payloadType,
      snapshot.ref.payloadVersion⟩ := by
  refine hs.invariant (I := fun s => ∀ key snapshot, s.snapshots.lookup key = some snapshot →
    key = ⟨snapshot.ref.streamID, snapshot.ref.seq, snapshot.ref.payloadType,
      snapshot.ref.payloadVersion⟩) ?_ ?_ key snapshot h
  · intro key snapshot hlookup
    simp [newStore] at hlookup
  · intro op s hnamed key snapshot hlookup
    rcases op.snapshots_cases hlookup with hold | ⟨req, -, rfl, rfl⟩
    · exact hnamed key snapshot hold
    · rfl

section Latest

variable {s : Store} {streamID : StreamID} {payloadType : String} {maxPayloadVersion : Nat}

/-- Among the candidates for one request no two have one rank. -/
theorem Reachable.rank_injOn (hs : Reachable s) : Set.InjOn Store.rank
    {snapshot | snapshot ∈
      Store.candidates streamID payloadType maxPayloadVersion s.snapshots.entries} := by
  intro snapshot hmem snapshot' hmem' hrank
  obtain ⟨key, hkey, hc⟩ := Store.mem_candidates.mp hmem
  obtain ⟨key', hkey', hc'⟩ := Store.mem_candidates.mp hmem'
  have hnamed := hs.snapshots_named hkey
  have hnamed' := hs.snapshots_named hkey'
  obtain ⟨hseq, hversion⟩ := Prod.mk.inj (toLex.injective hrank)
  have heq : key = key' := by
    unfold Store.compatible at hc hc'
    simp only [Bool.and_eq_true, decide_eq_true_eq] at hc hc'
    rw [hnamed] at hc
    rw [hnamed'] at hc'
    rw [hnamed, hnamed', SnapshotKey.mk.injEq]
    exact ⟨hc.1.1.trans hc'.1.1.symm, hseq, hc.1.2.trans hc'.1.2.symm, hversion⟩
  rw [heq, hkey'] at hkey
  exact (Option.some.inj hkey).symm

/-- A store whose candidates are the images of those of `s`, with the ranks they have there, answers
the image of what `s` answers. -/
theorem Reachable.getLatestSnapshot_map (hs : Reachable s) {t : Store} {streamID' : StreamID}
    {g : Snapshot → Snapshot} (hempty : streamID' = "" ↔ streamID = "")
    (hrank : ∀ snapshot, Store.rank (g snapshot) = Store.rank snapshot)
    (hmem : ∀ snapshot',
      snapshot' ∈ Store.candidates streamID' payloadType maxPayloadVersion t.snapshots.entries ↔
        ∃ snapshot ∈ Store.candidates streamID payloadType maxPayloadVersion s.snapshots.entries,
          g snapshot = snapshot') :
    t.getLatestSnapshot streamID' payloadType maxPayloadVersion =
      (s.getLatestSnapshot streamID payloadType maxPayloadVersion).map g := by
  by_cases hid : streamID = ""
  · rw [hid, hempty.mpr hid]
    rfl
  have hid' := mt hempty.mp hid
  by_cases htyped : payloadType = ""
  · unfold Store.getLatestSnapshot Store.checkSnapshotKey
    rw [if_neg hid, if_neg hid', if_pos htyped]
    rfl
  · rw [Store.getLatestSnapshot_eq t hid' htyped, Store.getLatestSnapshot_eq s hid htyped,
      argmax_image hs.rank_injOn (fun snapshot _ => hrank snapshot) hmem]
    cases (Store.candidates streamID payloadType maxPayloadVersion
      s.snapshots.entries).argmax Store.rank <;> rfl

/-- The latest snapshot does not depend on the order in which the snapshots are visited. -/
theorem Reachable.getLatestSnapshot_congr (hs : Reachable s) {t : Store}
    (h : ∀ key, t.snapshots.lookup key = s.snapshots.lookup key) :
    t.getLatestSnapshot streamID payloadType maxPayloadVersion =
      s.getLatestSnapshot streamID payloadType maxPayloadVersion := by
  have hmem : ∀ snapshot,
      snapshot ∈ Store.candidates streamID payloadType maxPayloadVersion t.snapshots.entries ↔
        ∃ kept ∈ Store.candidates streamID payloadType maxPayloadVersion s.snapshots.entries,
          id kept = snapshot := by
    simp [Store.mem_candidates, h]
  rw [hs.getLatestSnapshot_map Iff.rfl (fun _ => rfl) hmem]
  cases s.getLatestSnapshot streamID payloadType maxPayloadVersion <;> rfl

end Latest

/-! ## The store with the history of a stream -/

/-- When a stored snapshot is right for a list of events; more events do not make it wrong. -/
structure SnapshotRule where
  Right : List Event → Snapshot → Prop
  mono : ∀ {log log' : List Event} {snapshot : Snapshot}, log <+: log' →
    Right log snapshot → Right log' snapshot

/-- A store, and the events that `Append` has added to one of its streams. -/
structure Recorded where
  store : Store
  log : List Event

namespace Recorded

/-- The store as a part. -/
def cell : Cell Recorded Store where
  get w := w.store
  set s w := { w with store := s }
  get_set _ _ := rfl
  set_get _ := rfl

variable (streamID : StreamID) (rule : SnapshotRule)

/-- The store after an operation, with what it has added to the stream. -/
def apply (w : Recorded) (op : Op) : Recorded where
  store := op.apply w.store
  log := w.log ++ op.appended streamID w.store

/-- The stream stands for a log of the recorded events, and its snapshots are right. -/
structure Ok (w : Recorded) : Prop where
  reachable : Reachable w.store
  holds : ∃ L, w.store.Holds streamID L ∧ L.all = w.log
  snapshots : ∀ key snapshot, w.store.snapshots.lookup key = some snapshot →
    key.streamID = streamID → rule.Right w.log snapshot

/-- The operation resets no cursor, deletes no stream, and a snapshot that it puts for the stream is
right. -/
def Allows (w : Recorded) (op : Op) : Prop :=
  op.KeepsCursors ∧ ∀ req, op = .putSnapshot req → req.streamID = streamID →
    rule.Right w.log (Store.newSnapshot req)

/-- An operation that is allowed, on a store whose record is right. -/
def Step (w w' : Recorded) : Prop :=
  w.Ok streamID rule ∧ ∃ op, w.Allows streamID rule op ∧ w' = w.apply streamID op

variable {streamID rule} {w w' : Recorded}

/-- The recorded events are numbered from one. -/
theorem Ok.numbered (h : w.Ok streamID rule) : Consecutive Event.seq 1 w.log := by
  obtain ⟨L, hL, hall⟩ := h.holds
  rw [← hall]
  exact hL.numbered

/-- The head of the stream is the number of recorded events. -/
theorem Ok.head (h : w.Ok streamID rule) :
    (w.store.ensureStream streamID).head = w.log.length := by
  obtain ⟨L, hL, hall⟩ := h.holds
  rw [← hall, hL.head]
  rfl

/-- An allowed operation leaves the record right. -/
theorem Ok.apply (h : w.Ok streamID rule) {op : Op} (hop : w.Allows streamID rule op) :
    (w.apply streamID op).Ok streamID rule where
  reachable := h.reachable.apply op
  holds := by
    obtain ⟨L, hL, hall⟩ := h.holds
    obtain ⟨L', hL', hkept⟩ := op.holds hL
    have hne : op ≠ .deleteStream streamID := by
      rintro rfl
      exact hop.1
    obtain ⟨-, hall'⟩ := hkept hne
    exact ⟨L', hL', by rw [hall', hall]; rfl⟩
  snapshots key snapshot hlookup hkey := by
    have hpiece : w.log <+: w.log ++ op.appended streamID w.store := List.prefix_append _ _
    rcases op.snapshots_cases hlookup with hold | ⟨req, rfl, rfl, rfl⟩
    · exact rule.mono hpiece (h.snapshots key snapshot hold hkey)
    · exact rule.mono hpiece (hop.2 req rfl hkey)

/-- After any number of allowed operations the record is right, more events are recorded, and no
committed cursor is smaller. -/
theorem Ok.steps (h : w.Ok streamID rule)
    (hsteps : ReflTransGen (Recorded.Step streamID rule) w w') :
    w'.Ok streamID rule ∧ w.log <+: w'.log ∧ ∀ subscriberID,
      w.store.committed subscriberID streamID ≤ w'.store.committed subscriberID streamID := by
  induction hsteps with
  | refl => exact ⟨h, List.prefix_rfl, fun _ => le_rfl⟩
  | tail _ hstep ih =>
      obtain ⟨hok, op, hop, rfl⟩ := hstep
      obtain ⟨-, hpiece, hle⟩ := ih
      refine ⟨hok.apply hop, hpiece.trans (List.prefix_append _ _), fun subscriberID => ?_⟩
      exact (hle subscriberID).trans (Op.committed_le hop.1 hok.reachable subscriberID streamID)

end Recorded

end Synclog.Memory
