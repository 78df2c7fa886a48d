import Synclog.Core.Renaming
import Synclog.Memory.Recorded

/-!
# Renaming streams: the memory store

`Store.Renamed f s t` says that the store `t` is `s` with its streams renamed: the same maps up to
the ids in the keys and in the values, whatever the order of their entries. The calls of the gateway
give renamed answers on renamed stores, and leave renamed stores (`respects`). The one that visits a
map, `GetLatestSnapshot`, does so whatever the order, because a stored snapshot says under which key
it is stored. `Store.rename` shows that there always is a renamed store.
-/

namespace Synclog.Memory

open Synclog.Lib Synclog.Core

/-! ## Renamed stores -/

section Data

variable (f : Renaming)

/-- The state of the renamed stream. -/
def StreamState.rename (st : StreamState) : StreamState :=
  { st with events := st.events.map f.event }

/-- The key of the cursor on the renamed stream. -/
def CursorKey.rename (key : CursorKey) : CursorKey := { key with streamID := f.id key.streamID }

/-- The key of the snapshot of the renamed stream. -/
def SnapshotKey.rename (key : SnapshotKey) : SnapshotKey :=
  { key with streamID := f.id key.streamID }

/-- The retention of the renamed stream. -/
def StreamRetention.rename (retention : StreamRetention) : StreamRetention :=
  { retention with streamID := f.id retention.streamID }

/-- Different cursors have different names afterwards. -/
theorem CursorKey.rename_injective : Function.Injective (CursorKey.rename f) := by
  intro a b h
  obtain ⟨hsub, hid⟩ := CursorKey.mk.inj h
  cases a
  cases b
  rw [CursorKey.mk.injEq]
  exact ⟨hsub, f.injective hid⟩

/-- Different snapshots have different names afterwards. -/
theorem SnapshotKey.rename_injective : Function.Injective (SnapshotKey.rename f) := by
  intro a b h
  obtain ⟨hid, hrest⟩ := SnapshotKey.mk.inj h
  cases a
  cases b
  rw [SnapshotKey.mk.injEq]
  exact ⟨f.injective hid, hrest⟩

namespace Store

/-- The second store is the first with its streams renamed. -/
structure Renamed (s t : Store) : Prop where
  streams : FinMap.Renames f.id (StreamState.rename f) s.streams t.streams
  cursors : FinMap.Renames (CursorKey.rename f) f.subscriberCursor s.cursors t.cursors
  snapshots : FinMap.Renames (SnapshotKey.rename f) f.snapshot s.snapshots t.snapshots
  retention : FinMap.Renames f.id (StreamRetention.rename f) s.retention t.retention
  watchers : FinMap.Renames f.id id s.watchers t.watchers
  closed : t.closed = s.closed
  made : t.made = s.made

/-- A renamed store. -/
def rename (s : Store) : Store where
  streams := s.streams.rename f.injective (StreamState.rename f)
  cursors := s.cursors.rename (CursorKey.rename_injective f) f.subscriberCursor
  snapshots := s.snapshots.rename (SnapshotKey.rename_injective f) f.snapshot
  retention := s.retention.rename f.injective (StreamRetention.rename f)
  watchers := s.watchers.rename f.injective id
  closed := s.closed
  made := s.made

/-- The renamed store is a renaming. -/
theorem renamed_rename (s : Store) : Renamed f s (s.rename f) where
  streams := FinMap.renames_rename f.injective _ _
  cursors := FinMap.renames_rename (CursorKey.rename_injective f) _ _
  snapshots := FinMap.renames_rename (SnapshotKey.rename_injective f) _ _
  retention := FinMap.renames_rename f.injective _ _
  watchers := FinMap.renames_rename f.injective _ _
  closed := rfl
  made := rfl

end Store

end Data

/-! ## What the calls answer -/

/-- The read of a renamed stream. -/
theorem readStream_rename (f : Renaming) (st : StreamState) (streamID : StreamID)
    (after limit : Nat) :
    Store.readStream (st.rename f) (f.id streamID) after limit =
      (Store.readStream st streamID after limit).map fun r => (f.batch r.1, f.head r.2) := by
  have hfind : (st.rename f).events.findIdx? (fun event => decide (after < event.seq)) =
      st.events.findIdx? fun event => decide (after < event.seq) := List.findIdx?_map ..
  unfold Store.readStream
  by_cases hold : replayTooOld after st.retainedSeqStart = true
  · rw [if_pos hold,
      if_pos (show replayTooOld after (st.rename f).retainedSeqStart = true from hold)]
    rfl
  · rw [if_neg hold,
      if_neg (show ¬ replayTooOld after (st.rename f).retainedSeqStart = true from hold), hfind]
    cases st.events.findIdx? fun event => decide (after < event.seq) with
    | none => rfl
    | some start =>
        have hevents : ((st.rename f).events.drop start).take limit =
            ((st.events.drop start).take limit).map f.event := by
          rw [List.map_take, List.map_drop]
          rfl
        simp only [hevents, List.head?_map, List.getLast?_map]
        generalize (st.events.drop start).take limit = events
        cases events.head? with
        | none => rfl
        | some first =>
            cases events.getLast? with
            | none => rfl
            | some last => rfl

namespace Store.Renamed

variable {f : Renaming} {s t : Store}

/-- A stream is found under its other name. -/
theorem ensureStream (h : Renamed f s t) (streamID : StreamID) :
    t.ensureStream (f.id streamID) = (s.ensureStream streamID).rename f := by
  unfold Store.ensureStream
  rw [h.streams.lookup]
  rcases s.streams.lookup streamID with _ | st
  · rfl
  · rfl

/-- A cursor is found under its other name. -/
theorem cursorOf (h : Renamed f s t) (subscriberID : SubscriberID) (streamID : StreamID) :
    t.cursorOf subscriberID (f.id streamID) =
      f.subscriberCursor (s.cursorOf subscriberID streamID) := by
  have hlookup : t.cursors.lookup ⟨subscriberID, f.id streamID⟩ = _ :=
    h.cursors.lookup ⟨subscriberID, streamID⟩
  unfold Store.cursorOf
  rw [hlookup]
  cases s.cursors.lookup ⟨subscriberID, streamID⟩ with
  | none => rfl
  | some cursor => rfl

/-- Names that are not empty are not empty afterwards. -/
theorem cursorsNamed (h : Renamed f s t) (hs : CursorsNamed s) : CursorsNamed t := by
  intro key cursor hcursor
  obtain ⟨key, kept, rfl, rfl, hkept⟩ := h.cursors.exists_of_lookup hcursor
  exact hs key kept hkept

/-- The head is answered under the other name. -/
theorem getHead (h : Renamed f s t) (streamID : StreamID) :
    t.getHead (f.id streamID) = (s.getHead streamID).map f.head := by
  by_cases hid : streamID = ""
  · rw [hid, f.empty]
    rfl
  · rw [s.getHead_eq hid, t.getHead_eq (mt f.id_eq_empty.mp hid), h.ensureStream]
    rfl

/-- Events are read under the other name. -/
theorem read (h : Renamed f s t) (streamID : StreamID) (after : Nat) (limit : Int) :
    t.read (f.id streamID) after limit =
      (s.read streamID after limit).map fun r => (f.batch r.1, f.head r.2) := by
  by_cases hid : streamID = ""
  · rw [hid, f.empty]
    rfl
  · rw [s.read_eq hid, t.read_eq (mt f.id_eq_empty.mp hid), h.ensureStream]
    exact readStream_rename f _ streamID after _

/-- A cursor is answered under the other name. -/
theorem getCursor (h : Renamed f s t) (subscriberID : SubscriberID) (streamID : StreamID) :
    t.getCursor subscriberID (f.id streamID) =
      (s.getCursor subscriberID streamID).map f.subscriberCursor := by
  by_cases hsub : subscriberID = ""
  · rw [hsub]
    rfl
  · by_cases hid : streamID = ""
    · unfold Store.getCursor
      rw [if_neg hsub, if_neg hsub, if_pos hid, if_pos (f.id_eq_empty.mpr hid)]
      rfl
    · rw [s.getCursor_eq hsub hid, t.getCursor_eq hsub (mt f.id_eq_empty.mp hid), h.cursorOf]
      rfl

/-- An acknowledgement is answered, and stored, under the other name. -/
theorem ack (h : Renamed f s t) (hs : CursorsNamed s) (req : AckRequest) :
    (t.ack (f.ackRequest req)).1 = (s.ack req).1.map f.subscriberCursor ∧
      Renamed f (s.ack req).2 (t.ack (f.ackRequest req)).2 := by
  by_cases hsub : req.subscriberID = ""
  · unfold Store.ack
    rw [if_pos hsub, if_pos (show (f.ackRequest req).subscriberID = "" from hsub)]
    exact ⟨rfl, h⟩
  · by_cases hid : req.streamID = ""
    · unfold Store.ack
      rw [if_neg hsub, if_neg (show (f.ackRequest req).subscriberID ≠ "" from hsub), if_pos hid,
        if_pos (show (f.ackRequest req).streamID = "" from f.id_eq_empty.mpr hid)]
      exact ⟨rfl, h⟩
    · have hcommitted : t.committed req.subscriberID (f.id req.streamID) =
          s.committed req.subscriberID req.streamID := by
        unfold Store.committed
        rw [h.cursorOf]
        rfl
      have hack : t.ack (f.ackRequest req) =
          if s.committed req.subscriberID req.streamID < req.seq then
            (.ok (f.subscriberCursor (raised (s.cursorOf req.subscriberID req.streamID) req)),
              { t with
                cursors := t.cursors.insert (CursorKey.rename f ⟨req.subscriberID, req.streamID⟩)
                  (f.subscriberCursor (raised (s.cursorOf req.subscriberID req.streamID) req)) })
          else (.ok (f.subscriberCursor (s.cursorOf req.subscriberID req.streamID)), t) := by
        have hsub' : (f.ackRequest req).subscriberID ≠ "" := hsub
        have hid' : (f.ackRequest req).streamID ≠ "" := mt f.id_eq_empty.mp hid
        rw [ack_eq (h.cursorsNamed hs) hsub' hid']
        simp only [Renaming.ackRequest, hcommitted, h.cursorOf]
        rfl
      rw [hack, ack_eq hs hsub hid]
      split_ifs
      · exact ⟨rfl, { h with
          cursors := h.cursors.insert (CursorKey.rename_injective f) _ _ }⟩
      · exact ⟨rfl, h⟩

/-- A snapshot is compatible with a request for the renamed stream when it is the renamed one of a
snapshot compatible with the request. -/
theorem compatible_rename (streamID : StreamID) (payloadType : String) (maxPayloadVersion : Nat)
    (key : SnapshotKey) :
    compatible (f.id streamID) payloadType maxPayloadVersion (key.rename f) =
      compatible streamID payloadType maxPayloadVersion key := by
  unfold compatible SnapshotKey.rename
  simp only [f.injective.eq_iff]

/-- The candidates of the renamed store are the renamed candidates of the store. -/
theorem mem_candidates (h : Renamed f s t) {streamID : StreamID} {payloadType : String}
    {maxPayloadVersion : Nat} (snapshot' : Snapshot) :
    snapshot' ∈ candidates (f.id streamID) payloadType maxPayloadVersion t.snapshots.entries ↔
      ∃ snapshot ∈ candidates streamID payloadType maxPayloadVersion s.snapshots.entries,
        f.snapshot snapshot = snapshot' := by
  simp only [Store.mem_candidates]
  constructor
  · rintro ⟨key', hkey', hc'⟩
    obtain ⟨key, snapshot, rfl, rfl, hkey⟩ := h.snapshots.exists_of_lookup hkey'
    rw [compatible_rename] at hc'
    exact ⟨snapshot, ⟨key, hkey, hc'⟩, rfl⟩
  · rintro ⟨snapshot, ⟨key, hkey, hc⟩, rfl⟩
    refine ⟨key.rename f, ?_, (compatible_rename _ _ _ key).trans hc⟩
    rw [h.snapshots.lookup, hkey]
    rfl

/-- What the renamed store answers is the renamed one of what the store answers. -/
theorem getLatestSnapshot (h : Renamed f s t) (hs : Reachable s) (streamID : StreamID)
    (payloadType : String) (maxPayloadVersion : Nat) :
    t.getLatestSnapshot (f.id streamID) payloadType maxPayloadVersion =
      (s.getLatestSnapshot streamID payloadType maxPayloadVersion).map f.snapshot :=
  hs.getLatestSnapshot_map f.id_eq_empty (fun _ => rfl) h.mem_candidates

/-- The handler of the store respects the renaming of the calls. -/
theorem respects (f : Renaming) (now : Int) :
    f.calls.Respects (handler now) (handler now) fun s t => Reachable s ∧ Renamed f s t := by
  rintro β c s t hmade ⟨hs, h⟩
  refine ⟨?_, handler_reachable now c hs, ?_⟩
  · cases c with
    | append req => exact hmade.elim
    | getHead streamID => exact h.getHead streamID
    | read streamID after limit => exact h.read streamID after limit
    | getCursor subscriberID streamID => exact h.getCursor subscriberID streamID
    | ack req => exact (h.ack hs.cursorsNamed req).1
    | getLatestSnapshot streamID payloadType maxPayloadVersion =>
        exact h.getLatestSnapshot hs streamID payloadType maxPayloadVersion
  · cases c with
    | append req => exact hmade.elim
    | ack req => exact (h.ack hs.cursorsNamed req).2
    | getHead | read | getCursor | getLatestSnapshot => exact h

end Store.Renamed

end Synclog.Memory
