import Mathlib.Data.List.Perm.Basic
import Synclog.Lib.Machine
import Synclog.Memory.Refinement

/-!
# The watchers of a stream

`Store.WaitForStream`, `notifyStreamLocked` and `removeWatcherLocked` of
`internal/storage/memory/store.go`, and the contract of `StreamWatcher` in `storage.go`: a wait
returns when the head moves past the seq it was called with, or when its context ends.

* `Store.watchersOf`, `Store.headOf` — who waits on a stream, and for what.
* `WatchersOk` — what holds of the watchers of every reachable store: nobody waits for what is there
  already, the channels are those made and not closed, and each is held by one watcher.
* `waitForStream` — any number of calls of `WaitForStream`, whose contexts may end at any time,
  interleaved with the other operations of the store.
* `watchers_woken_when_due` — what every run of it keeps.
-/

namespace Synclog.Memory

open Synclog.Lib Synclog.Core

/-! ## Heads -/

/-- The head moves by the number of events appended. -/
theorem StreamStep.head_eq {events : List Event} {o o' : Option StreamState}
    (h : StreamStep events o o') : (o'.getD {}).head = (o.getD {}).head + events.length := by
  have htrimmed : ∀ {st st' : StreamState}, TrimOf st st' → st'.head = st.head := by
    rintro st st' (rfl | ⟨n, rfl⟩) <;> rfl
  rcases h with o | _ | ⟨_, req, htrim⟩ | ⟨st, htrim⟩
  · rfl
  · rfl
  · simp [htrimmed htrim, StreamState.push]
  · simp [htrimmed htrim]

namespace Store

/-- The watchers registered on a stream. -/
def watchersOf (s : Store) (streamID : StreamID) : List StreamWatcher :=
  (s.watchers.lookup streamID).getD []

/-- The head of a stream, `0` when there is no such stream. -/
def headOf (s : Store) (streamID : StreamID) : Nat := (s.ensureStream streamID).head

/-- The head of a stream, and zero where there is none. -/
theorem headOf_eq (s : Store) (streamID : StreamID) :
    s.headOf streamID = ((s.streams.lookup streamID).getD {}).head := rfl

/-- What only the operations on watchers write: the watchers, and the channels. -/
def watching (s : Store) : FinMap StreamID (List StreamWatcher) × List Nat × Nat :=
  (s.watchers, s.closed, s.made)

/-- Stores with the same watching have the same watchers. -/
theorem watchersOf_congr {s s' : Store} (h : s'.watching = s.watching) (streamID : StreamID) :
    s'.watchersOf streamID = s.watchersOf streamID := by
  unfold watchersOf
  rw [show s'.watchers = s.watchers from congrArg Prod.fst h]

/-- Setting a stream leaves the watchers alone. -/
@[simp] theorem watching_setStream (s : Store) (streamID : StreamID) (st : StreamState) :
    (s.setStream streamID st).watching = s.watching := rfl

/-- Retention leaves the watchers alone. -/
@[simp] theorem watching_applyRetentionLocked (s : Store) (now : Int) (streamID : StreamID) :
    (s.applyRetentionLocked now streamID).watching = s.watching := by
  unfold applyRetentionLocked
  split <;> simp

/-- Appending an event, before anybody is woken, leaves the watchers alone. -/
theorem watching_pushed (s : Store) (now : Int) (req : AppendRequest) :
    (((s.setStream req.streamID (s.ensureStream req.streamID)).setStream req.streamID
      ((s.ensureStream req.streamID).push req)).applyRetentionLocked now req.streamID).watching =
      s.watching := by
  simp

/-- A truncation leaves the watchers alone. -/
theorem watching_truncateBefore (s : Store) (streamID : StreamID) (before : Nat) :
    (s.truncateBefore streamID before).2.watching = s.watching := by
  unfold truncateBefore
  split_ifs
  · rfl
  · split <;> simp

/-- A compaction leaves the watchers alone. -/
theorem watching_compactStream (s : Store) (streamID : StreamID) :
    (s.compactStream streamID).2.watching = s.watching := by
  rcases s.compactStream_cases streamID with hsame | ⟨before, htrunc⟩
  · rw [hsame]
  · rw [htrunc]
    exact s.watching_truncateBefore streamID before

/-- Putting a snapshot leaves the watchers alone. -/
theorem watching_putSnapshot (s : Store) (req : PutSnapshotRequest) :
    (s.putSnapshot req).2.watching = s.watching := by
  rcases s.putSnapshot_cases req with hsame | hstored
  · rw [hsame]
  · rw [hstored]
    rfl

/-- Deleting a snapshot leaves the watchers alone. -/
theorem watching_deleteSnapshot (s : Store) (key : SnapshotKey) :
    (s.deleteSnapshot key).2.watching = s.watching := by
  rcases s.deleteSnapshot_cases key with hsame | herased
  · rw [hsame]
  · rw [herased]
    rfl

end Store

/-- The operation registers, wakes or removes a watcher. -/
def Op.OnWatchers : Op → Prop
  | .append .. | .registerWatcher .. | .removeWatcher .. => True
  | _ => False

/-- The other operations leave the watchers alone. -/
theorem Op.watching_eq {op : Op} (hop : ¬ op.OnWatchers) (s : Store) :
    (op.apply s).watching = s.watching := by
  cases op with
  | append | registerWatcher | removeWatcher => exact absurd trivial hop
  | truncateBefore streamID before => exact s.watching_truncateBefore streamID before
  | compactStream streamID => exact s.watching_compactStream streamID
  | ack req =>
      unfold Op.apply Store.ack
      simp only
      split_ifs <;> rfl
  | createStream streamID =>
      unfold Op.apply Store.createStream
      simp only
      split_ifs <;> rfl
  | deleteStream streamID =>
      unfold Op.apply Store.deleteStream
      simp only
      split_ifs <;> rfl
  | resetCursor subscriberID streamID seq metadata =>
      unfold Op.apply Store.resetCursor
      simp only
      split_ifs <;> rfl
  | setStreamRetention now retention =>
      unfold Op.apply Store.setStreamRetention
      simp only
      split_ifs
      · rfl
      · exact Store.watching_applyRetentionLocked _ _ _
  | putSnapshot req => exact s.watching_putSnapshot req
  | deleteSnapshot key => exact s.watching_deleteSnapshot key

namespace Store

/-! ## The three operations on watchers -/

/-- Writing a list of watchers back; an empty list has no entry. -/
theorem getD_lookup_ite (m : FinMap StreamID (List StreamWatcher)) (streamID id : StreamID)
    (ws : List StreamWatcher) :
    ((if ws.length = 0 then m.erase streamID else m.insert streamID ws).lookup id).getD [] =
      if id = streamID then ws else (m.lookup id).getD [] := by
  by_cases hid : id = streamID
  · subst hid
    rw [if_pos rfl]
    split_ifs with hempty
    · rw [List.length_eq_zero_iff.mp hempty]
      simp
    · simp
  · rw [if_neg hid]
    split_ifs with hempty
    · rw [FinMap.lookup_erase_eq_ite, if_neg hid]
    · rw [FinMap.lookup_insert_eq_ite, if_neg hid]

/-- Who stays after a wake-up: those who wait for a higher seq. -/
theorem watchersOf_notifyStreamLocked (s : Store) (streamID : StreamID) (head : Nat)
    (id : StreamID) :
    (s.notifyStreamLocked streamID head).watchersOf id =
      if id = streamID then (s.watchersOf streamID).filter fun w => ¬ w.after < head
      else s.watchersOf id := by
  unfold notifyStreamLocked watchersOf
  simp only
  by_cases hempty : ((s.watchers.lookup streamID).getD []).length = 0
  · rw [if_pos hempty]
    split_ifs with hid
    · subst hid
      rw [List.length_eq_zero_iff.mp hempty]
      rfl
    · rfl
  · rw [if_neg hempty]
    exact getD_lookup_ite _ _ _ _

/-- Whose channels a wake-up closes. -/
theorem closed_notifyStreamLocked (s : Store) (streamID : StreamID) (head : Nat) :
    (s.notifyStreamLocked streamID head).closed =
      (((s.watchersOf streamID).filter fun w => w.after < head).map (·.ch)).reverse ++
        s.closed := by
  unfold notifyStreamLocked
  simp only
  split_ifs with hempty
  · have hnone : s.watchersOf streamID = [] := List.length_eq_zero_iff.mp hempty
    rw [hnone]
    rfl
  all_goals rfl

/-- A notification makes no channel. -/
@[simp] theorem made_notifyStreamLocked (s : Store) (streamID : StreamID) (head : Nat) :
    (s.notifyStreamLocked streamID head).made = s.made := by
  unfold notifyStreamLocked
  simp only
  split_ifs <;> rfl

/-- Registering adds one watcher with a new channel, unless the head is past `after` already. -/
theorem registerWatcher_eq (s : Store) (streamID : StreamID) (after : Nat) :
    s.registerWatcher streamID after =
      if after < s.headOf streamID then (none, s)
      else registerWatcher.register s streamID after := by
  unfold registerWatcher headOf ensureStream
  cases s.streams.lookup streamID with
  | none => exact (if_neg (Nat.not_lt_zero after)).symm
  | some st => rfl

/-- The new watcher comes last, with a channel of its own. -/
theorem watchersOf_register (s : Store) (streamID : StreamID) (after : Nat) (id : StreamID) :
    (registerWatcher.register s streamID after).2.watchersOf id =
      if id = streamID then s.watchersOf streamID ++ [{ after, ch := s.made }]
      else s.watchersOf id := by
  unfold registerWatcher.register watchersOf
  simp only [FinMap.lookup_insert_eq_ite]
  split_ifs <;> rfl

/-- Filling the place of an entry with the last one and dropping that takes the entry out. -/
theorem swap_dropLast_perm {α : Type} {l : List α} {i : Nat} (h : i < l.length) {last : α}
    (hlast : l.getLast? = some last) : (l[i] :: (l.set i last).dropLast).Perm l := by
  have hset : (l.set i last).getLast? = some last := by
    rw [List.getLast?_eq_getElem?] at hlast ⊢
    rw [List.length_set, List.getElem?_set]
    split_ifs
    · rfl
    · exact hlast
  have hsplit : (last :: (l.set i last).dropLast).Perm (l.set i last) := by
    conv_rhs => rw [← List.dropLast_append_getLast? last hset]
    exact (List.perm_append_singleton _ _).symm
  have herase : (l.set i last).dropLast.Perm (l.eraseIdx i) :=
    (hsplit.trans (List.set_perm_cons_eraseIdx h last)).cons_inv
  exact (herase.cons _).trans (List.getElem_cons_eraseIdx_perm h)

/-- Removing takes one watcher out, at most, one with the given channel, and leaves all others. -/
theorem watchersOf_removeWatcherLocked (s : Store) (streamID : StreamID) (ch : Nat)
    (id : StreamID) :
    (s.removeWatcherLocked streamID ch).watchersOf id = s.watchersOf id ∨
      id = streamID ∧ ∃ w, w.ch = ch ∧
        (w :: (s.removeWatcherLocked streamID ch).watchersOf id).Perm (s.watchersOf id) := by
  unfold removeWatcherLocked watchersOf
  simp only
  rw [getD_lookup_ite]
  split_ifs with hid
  · subst hid
    split
    · rename_i i last hi hlast
      obtain ⟨hlt, hch, -⟩ := List.findIdx?_eq_some_iff_getElem.mp hi
      exact .inr ⟨rfl, _, by simpa using hch, swap_dropLast_perm hlt hlast⟩
    · exact .inl rfl
  · exact .inl rfl

end Store

/-! ## The invariant of the store -/

/-- Nobody waits for what is there already; the channel of a watcher has been made and not been
closed, and no other watcher has it. -/
structure WatchersOk (s : Store) : Prop where
  above : ∀ id, ∀ w ∈ s.watchersOf id, s.headOf id ≤ w.after
  made : ∀ id, ∀ w ∈ s.watchersOf id, w.ch < s.made
  waits : ∀ id, ∀ w ∈ s.watchersOf id, w.ch ∉ s.closed
  once : ∀ id, ((s.watchersOf id).map (·.ch)).Nodup
  apart : ∀ id id', ∀ w ∈ s.watchersOf id, ∀ w' ∈ s.watchersOf id', w.ch = w'.ch → id = id'
  closedMade : ∀ ch ∈ s.closed, ch < s.made
  closedOnce : s.closed.Nodup

namespace WatchersOk

/-- In a new store nobody waits. -/
theorem newStore : WatchersOk newStore where
  above := by simp [Store.watchersOf, Memory.newStore]
  made := by simp [Store.watchersOf, Memory.newStore]
  waits := by simp [Store.watchersOf, Memory.newStore]
  once := by simp [Store.watchersOf, Memory.newStore]
  apart := by simp [Store.watchersOf, Memory.newStore]
  closedMade := by simp [Memory.newStore]
  closedOnce := List.nodup_nil

variable {s s' : Store}

/-- Two watchers of a stream with one channel are one watcher. -/
theorem eq_of_ch (h : WatchersOk s) {id : StreamID} {w w' : StreamWatcher}
    (hw : w ∈ s.watchersOf id) (hw' : w' ∈ s.watchersOf id) (hch : w.ch = w'.ch) : w = w' :=
  List.inj_on_of_nodup_map (h.once id) hw hw' hch

/-- Watchers go, no head moves, and no channel is closed. -/
theorem of_fewer (h : WatchersOk s) (hclosed : s'.closed = s.closed) (hmade : s'.made = s.made)
    (hhead : ∀ id, s'.headOf id ≤ s.headOf id)
    (hfewer : ∀ id, ∃ gone, (gone ++ s'.watchersOf id).Perm (s.watchersOf id)) :
    WatchersOk s' := by
  have hmem : ∀ id, ∀ w ∈ s'.watchersOf id, w ∈ s.watchersOf id := by
    intro id w hw
    obtain ⟨gone, hperm⟩ := hfewer id
    exact hperm.subset (List.mem_append_right _ hw)
  refine ⟨?_, ?_, ?_, ?_, ?_, ?_, ?_⟩
  · exact fun id w hw => (hhead id).trans (h.above id w (hmem id w hw))
  · exact fun id w hw => hmade ▸ h.made id w (hmem id w hw)
  · exact fun id w hw => hclosed ▸ h.waits id w (hmem id w hw)
  · intro id
    obtain ⟨gone, hperm⟩ := hfewer id
    have hnodup := (hperm.map (·.ch)).nodup_iff.mpr (h.once id)
    rw [List.map_append] at hnodup
    exact hnodup.of_append_right
  · exact fun id id' w hw w' hw' => h.apart id id' w (hmem id w hw) w' (hmem id' w' hw')
  · exact fun ch hch => hmade ▸ h.closedMade ch (hclosed ▸ hch)
  · exact hclosed ▸ h.closedOnce

/-- A watcher with a new channel comes, behind the head. -/
theorem register (h : WatchersOk s) {streamID : StreamID} {after : Nat}
    (hhead : s.headOf streamID ≤ after) :
    WatchersOk (Store.registerWatcher.register s streamID after).2 := by
  have hmem : ∀ {id : StreamID} {w : StreamWatcher},
      w ∈ (Store.registerWatcher.register s streamID after).2.watchersOf id →
        w ∈ s.watchersOf id ∨ id = streamID ∧ w = ⟨after, s.made⟩ := by
    intro id w hw
    rw [Store.watchersOf_register] at hw
    split_ifs at hw with hid
    · subst hid
      simpa using hw
    · exact .inl hw
  have hnew : ∀ {id : StreamID} {w : StreamWatcher}, w ∈ s.watchersOf id → w.ch ≠ s.made :=
    fun hw => (h.made _ _ hw).ne
  refine ⟨?_, ?_, ?_, ?_, ?_, ?_, h.closedOnce⟩
  · rintro id w hw
    rcases hmem hw with hold | ⟨rfl, rfl⟩
    · exact h.above id w hold
    · exact hhead
  · rintro id w hw
    rcases hmem hw with hold | ⟨rfl, rfl⟩
    · exact (h.made id w hold).trans (Nat.lt_succ_self _)
    · exact Nat.lt_succ_self _
  · rintro id w hw
    rcases hmem hw with hold | ⟨rfl, rfl⟩
    · exact h.waits id w hold
    · exact fun hclosed => absurd (h.closedMade _ hclosed) (lt_irrefl _)
  · intro id
    rw [Store.watchersOf_register]
    split_ifs with hid
    · rw [List.map_append, List.nodup_append]
      refine ⟨h.once streamID, List.nodup_singleton _, ?_⟩
      rintro ch hch ch' hch' rfl
      obtain ⟨w, hw, rfl⟩ := List.mem_map.mp hch
      exact hnew hw (by simpa using hch')
    · exact h.once id
  · rintro id id' w hw w' hw' hch
    rcases hmem hw with hold | ⟨rfl, rfl⟩ <;> rcases hmem hw' with hold' | ⟨rfl, rfl⟩
    · exact h.apart id id' w hold w' hold' hch
    · exact absurd hch (hnew hold)
    · exact absurd hch.symm (hnew hold')
    · rfl
  · exact fun ch hch => (h.closedMade ch hch).trans (Nat.lt_succ_self _)

end WatchersOk

/-- From `s` to `s'` the watchers that the head of a stream has passed are woken, their channels
closed, and nothing else happens to watchers or to other heads. -/
structure Wakes (streamID : StreamID) (s s' : Store) : Prop where
  watchersOf : ∀ id, s'.watchersOf id =
    if id = streamID then (s.watchersOf streamID).filter fun w => ¬ w.after < s'.headOf streamID
    else s.watchersOf id
  closed : s'.closed =
    (((s.watchersOf streamID).filter fun w => w.after < s'.headOf streamID).map (·.ch)).reverse ++
      s.closed
  made : s'.made = s.made
  headOf : ∀ id, id ≠ streamID → s'.headOf id = s.headOf id

namespace Wakes

variable {streamID : StreamID} {s s' : Store}

/-- Who waits for no more than the head is woken, and nobody else. -/
theorem mem_iff (h : Wakes streamID s s') {id : StreamID} {w : StreamWatcher} :
    w ∈ s'.watchersOf id ↔
      w ∈ s.watchersOf id ∧ (id = streamID → s'.headOf streamID ≤ w.after) := by
  rw [h.watchersOf]
  split_ifs with hid
  · subst hid
    simp
  · simp [hid]

/-- The channels of those who are woken are closed. -/
theorem closed_iff (h : Wakes streamID s s') {ch : Nat} :
    ch ∈ s'.closed ↔
      (∃ w ∈ s.watchersOf streamID, w.after < s'.headOf streamID ∧ w.ch = ch) ∨ ch ∈ s.closed := by
  rw [h.closed]
  simp [and_assoc]

/-- Waking keeps the invariant: those who stay wait for more than is there, and each closed channel
was open. -/
theorem watchersOk (h : Wakes streamID s s') (hs : WatchersOk s) : WatchersOk s' where
  above id w hw := by
    obtain ⟨hold, hpast⟩ := h.mem_iff.mp hw
    by_cases hid : id = streamID
    · subst hid
      exact hpast rfl
    · rw [h.headOf id hid]
      exact hs.above id w hold
  made id w hw := by
    rw [h.made]
    exact hs.made id w (h.mem_iff.mp hw).1
  waits id w hw := by
    obtain ⟨hold, hpast⟩ := h.mem_iff.mp hw
    rw [h.closed_iff]
    rintro (⟨w', hw', hlt, hch⟩ | hclosed)
    · obtain rfl := hs.apart _ _ w' hw' w hold hch
      obtain rfl := hs.eq_of_ch hw' hold hch
      exact absurd (hpast rfl) (Nat.not_le.mpr hlt)
    · exact hs.waits id w hold hclosed
  once id := by
    rw [h.watchersOf]
    split_ifs
    · exact (hs.once streamID).sublist (List.filter_sublist.map _)
    · exact hs.once id
  apart id id' w hw w' hw' := hs.apart id id' w (h.mem_iff.mp hw).1 w' (h.mem_iff.mp hw').1
  closedMade ch hch := by
    rw [h.made]
    rcases h.closed_iff.mp hch with ⟨w, hw, -, rfl⟩ | hclosed
    · exact hs.made _ w hw
    · exact hs.closedMade ch hclosed
  closedOnce := by
    rw [h.closed, List.nodup_append, List.nodup_reverse]
    refine ⟨(hs.once streamID).sublist (List.filter_sublist.map _), hs.closedOnce, ?_⟩
    rintro ch hch ch' hch' rfl
    obtain ⟨w, hw, rfl⟩ := List.mem_map.mp (List.mem_reverse.mp hch)
    exact hs.waits _ w (List.mem_of_mem_filter hw) hch'

/-- Where no head moves, nobody is woken. -/
theorem of_watching_eq (hs : WatchersOk s) (hwatching : s'.watching = s.watching)
    (hhead : ∀ id, s'.headOf id = s.headOf id) : Wakes streamID s s' := by
  have habove : ∀ w ∈ s.watchersOf streamID, ¬ w.after < s.headOf streamID :=
    fun w hw => Nat.not_lt.mpr (hs.above streamID w hw)
  refine ⟨?_, ?_, congrArg (·.2.2) hwatching, fun id _ => hhead id⟩
  · intro id
    rw [Store.watchersOf_congr hwatching, hhead]
    split_ifs with hid
    · subst hid
      exact (List.filter_eq_self.mpr fun w hw => by simpa using habove w hw).symm
    · rfl
  · rw [hhead, show s'.closed = s.closed from congrArg (·.2.1) hwatching,
      List.filter_eq_nil_iff.mpr fun w hw => by simpa using habove w hw]
    rfl

end Wakes

/-- The head of a stream moves by the events that an operation appends to it, or is `0` again after
`DeleteStream`. -/
theorem Op.headOf_eq (op : Op) (s : Store) (id : StreamID) :
    (op.apply s).headOf id = s.headOf id + (op.appended id s).length ∨
      op = .deleteStream id ∧ (op.apply s).headOf id = 0 := by
  rcases op.streamStep s id with hstep | ⟨hop, hnone⟩
  · exact .inl hstep.head_eq
  · refine .inr ⟨hop, ?_⟩
    rw [Store.headOf_eq, hnone]
    rfl

/-- Operations other than `Append` move no head forward. -/
theorem Op.headOf_le {op : Op} (hop : ∀ now req, op ≠ .append now req) (s : Store)
    (id : StreamID) : (op.apply s).headOf id ≤ s.headOf id := by
  have hnone : op.appended id s = [] := by
    unfold Op.appended
    split
    · exact absurd rfl (hop _ _)
    · rfl
  rcases op.headOf_eq s id with heq | ⟨-, hzero⟩
  · rw [heq, hnone]
    exact le_rfl
  · rw [hzero]
    exact Nat.zero_le _

/-- `Append`, whatever it answers, wakes the watchers that the head of its stream has passed. -/
theorem Store.append_wakes {s : Store} (hs : WatchersOk s) (now : Int) (req : AppendRequest) :
    Wakes req.streamID s (s.append now req).2 := by
  have hhead : ∀ id, (s.append now req).2.headOf id =
      s.headOf id + (s.appended now req id).length :=
    fun id => (s.append_streams now req id).head_eq
  by_cases hempty : req.streamID = ""
  · refine .of_watching_eq hs ?_ fun id => ?_ <;>
    · unfold append
      rw [if_pos hempty]
  rcases s.key_cases req with hnew | ⟨seq, hkey, hseq⟩
  · have happended : ∀ id, s.appended now req id =
        if req.streamID = id then [(s.ensureStream req.streamID).nextEvent req] else [] := by
      intro id
      unfold appended
      rw [append_new hempty hnew]
      rfl
    have hmoved : (s.append now req).2.headOf req.streamID = s.headOf req.streamID + 1 := by
      rw [hhead, happended, if_pos rfl]
      rfl
    have hother : ∀ id, id ≠ req.streamID → (s.append now req).2.headOf id = s.headOf id := by
      intro id hne
      rw [hhead, happended, if_neg hne.symm]
      rfl
    refine ⟨?_, ?_, ?_, hother⟩
    · intro id
      rw [hmoved, append_new hempty hnew, watchersOf_notifyStreamLocked]
      simp only [watchersOf_congr (s.watching_pushed now req)]
      rfl
    · rw [hmoved, append_new hempty hnew, closed_notifyStreamLocked]
      simp only [watchersOf_congr (s.watching_pushed now req)]
      exact congrArg _ (congrArg (·.2.1) (s.watching_pushed now req))
    · rw [append_new hempty hnew, made_notifyStreamLocked]
      exact congrArg (·.2.2) (s.watching_pushed now req)
  · obtain ⟨hnone, hafter⟩ := append_found now hempty hkey hseq
    refine .of_watching_eq hs (by rw [hafter]; rfl) fun id => ?_
    rw [hhead, hnone]
    rfl

/-- Every operation keeps the invariant. -/
theorem WatchersOk.apply {s : Store} (hs : WatchersOk s) (op : Op) : WatchersOk (op.apply s) := by
  by_cases hop : op.OnWatchers
  · cases op with
    | append now req => exact (Store.append_wakes hs now req).watchersOk hs
    | registerWatcher streamID after =>
        show WatchersOk (s.registerWatcher streamID after).2
        rw [Store.registerWatcher_eq]
        split_ifs with hlt
        · exact hs
        · exact hs.register (Nat.not_lt.mp hlt)
    | removeWatcher streamID ch =>
        refine hs.of_fewer rfl rfl (fun id => le_rfl) fun id => ?_
        rcases s.watchersOf_removeWatcherLocked streamID ch id with hsame | ⟨-, w, -, hperm⟩
        · exact ⟨[], by rw [← hsame]; exact .refl _⟩
        · exact ⟨[w], hperm⟩
    | _ => exact hop.elim
  · have hwatching := Op.watching_eq hop s
    refine hs.of_fewer (congrArg (·.2.1) hwatching) (congrArg (·.2.2) hwatching) (fun id => ?_)
      fun id => ⟨[], ?_⟩
    · exact Op.headOf_le (by rintro now req rfl; exact hop trivial) s id
    · rw [Store.watchersOf_congr hwatching]
      exact .refl _

/-- In every reachable store the watchers are in order. -/
theorem Reachable.watchersOk {s : Store} (hs : Reachable s) : WatchersOk s :=
  hs.invariant .newStore fun op _ h => h.apply op

/-! ## Calls of `WaitForStream` -/

/-- Where a call stands: before the check of its context, before its first critical section, in the
`select`, before the critical section that removes its watcher, and at its end with its result.
Source: `store.go`, `Store.WaitForStream`. -/
inductive WaitPC
  | calling
  | registering
  | selecting (ch : Nat)
  | removing (ch : Nat)
  | returned (result : Option GoError)
  deriving DecidableEq

/-- A call of `WaitForStream`; its context is `none` while it is alive, else its error. -/
structure WaitCall where
  streamID : StreamID
  after : Nat
  ctx : Option GoError := none
  pc : WaitPC := .calling
  /-- The stores at the instants of the call, newest first. -/
  during : List Store

namespace WaitCall

/-- The next step of a call, with the store after it. In the `select`, `done` chooses the case of
the context.
Source: `store.go`, `Store.WaitForStream`. -/
def next (c : WaitCall) (done : Bool) (s : Store) : Option (WaitPC × Store) :=
  match c.pc with
  | .calling =>
    if c.streamID = "" then
      some (.returned (some (errInvalidArgument "stream id is required")), s)
    else
      match c.ctx with
      | some err => some (.returned (some err), s)
      | none => some (.registering, s)
  | .registering =>
    match s.registerWatcher c.streamID c.after with
    | (none, s) => some (.returned none, s)
    | (some ch, s) => some (.selecting ch, s)
  | .selecting ch =>
    if done then
      match c.ctx with
      | some _ => some (.removing ch, s)
      | none => none
    else if ch ∈ s.closed then some (.returned none, s)
    else none
  | .removing ch => some (.returned c.ctx, s.removeWatcherLocked c.streamID ch)
  | .returned _ => none

/-- The channel that a call waits on, until it has returned. -/
def channel (c : WaitCall) : Option Nat :=
  match c.pc with
  | .selecting ch | .removing ch => some ch
  | .calling | .registering | .returned _ => none

/-- One more instant of the call, unless it has returned. -/
def observe (s : Store) (c : WaitCall) : WaitCall :=
  match c.pc with
  | .returned _ => c
  | _ => { c with during := s :: c.during }

/-- What `next` can do, by the place where the call stands. -/
inductive Next (c : WaitCall) (s : Store) : WaitPC → Store → Prop
  | refused (err : GoError) (hpc : c.pc = .calling) : Next c s (.returned (some err)) s
  | begun (hpc : c.pc = .calling) : Next c s .registering s
  | passed (hpc : c.pc = .registering) (hlt : c.after < s.headOf c.streamID) :
      Next c s (.returned none) s
  | registered (hpc : c.pc = .registering) (hle : s.headOf c.streamID ≤ c.after) :
      Next c s (.selecting s.made) (Store.registerWatcher.register s c.streamID c.after).2
  | woken {ch : Nat} (hpc : c.pc = .selecting ch) (hclosed : ch ∈ s.closed) :
      Next c s (.returned none) s
  | ended {ch : Nat} (hpc : c.pc = .selecting ch) (hctx : c.ctx ≠ none) : Next c s (.removing ch) s
  | removed {ch : Nat} (hpc : c.pc = .removing ch) :
      Next c s (.returned c.ctx) (s.removeWatcherLocked c.streamID ch)

/-- What the next step of a wait does. -/
theorem next_cases {c : WaitCall} {done : Bool} {s s' : Store} {pc : WaitPC}
    (h : c.next done s = some (pc, s')) : c.Next s pc s' := by
  unfold next at h
  split at h
  · rename_i hpc
    split_ifs at h
    · cases h
      exact .refused _ hpc
    · split at h <;> cases h
      · exact .refused _ hpc
      · exact .begun hpc
  · rename_i hpc
    rw [Store.registerWatcher_eq] at h
    split_ifs at h with hlt
    · cases h
      exact .passed hpc hlt
    · cases h
      exact .registered hpc (Nat.not_lt.mp hlt)
  · rename_i hpc
    split_ifs at h with hdone hclosed
    · split at h
      · rename_i hctx
        cases h
        exact .ended hpc (by simp [hctx])
      · cases h
    · cases h
      exact .woken hpc hclosed
  · rename_i hpc
    cases h
    exact .removed hpc
  · cases h

/-- To look at the store does not change the channel. -/
@[simp] theorem channel_observe (s : Store) (c : WaitCall) :
    (c.observe s).channel = c.channel := by
  unfold observe
  split <;> rfl

end WaitCall

/-- The store and the calls of `WaitForStream` so far. -/
structure Waiting where
  store : Store := newStore
  calls : List WaitCall := []

namespace Waiting

/-- The store is written, and the calls go on. -/
def write (σ : Waiting) (s : Store) : Waiting where
  store := s
  calls := σ.calls.map (·.observe s)

end Waiting

/-- What happens next: an operation on the store, a call of `WaitForStream`, the end of the context
of a call, or the next step of a call. -/
inductive WaitingLabel
  | op (op : Op)
  | call (streamID : StreamID) (after : Nat)
  | cancel (i : Nat) (err : GoError)
  | step (i : Nat) (done : Bool)

/-- The operation is a critical section of `WaitForStream`. -/
def Op.waits : Op → Bool
  | .registerWatcher .. | .removeWatcher .. => true
  | _ => false

/-- Calls of `WaitForStream` beside the other operations of the store.
Source: `store.go`, `Store`. -/
def waitForStream : Machine Waiting WaitingLabel where
  step
    | .op op, σ => if op.waits then none else some (σ.write (op.apply σ.store))
    | .call streamID after, σ =>
      some { σ with calls := σ.calls ++ [{ streamID, after, during := [σ.store] }] }
    | .cancel i err, σ =>
      match σ.calls[i]? with
      | none => none
      | some c => some { σ with calls := σ.calls.set i { c with ctx := c.ctx.or (some err) } }
    | .step i done, σ =>
      match σ.calls[i]? with
      | none => none
      | some c =>
        (c.next done σ.store).map fun (pc, s) =>
          Waiting.write { σ with calls := σ.calls.set i { c with pc } } s

/-! ## What every run keeps -/

/-- At some instant of the call the head was past the seq it was called with. -/
def WaitCall.Due (c : WaitCall) : Prop := ∃ s ∈ c.during, c.after < s.headOf c.streamID

/-- A call knows the present store until it returns; while it waits, its watcher is registered, or
its channel has been closed when the head moved past `after`; and it returns `nil` only then. -/
structure WaitCall.Ok (s : Store) (c : WaitCall) : Prop where
  present : (∀ result, c.pc ≠ .returned result) → s ∈ c.during
  waits : ∀ ch, c.channel = some ch → ch < s.made ∧
    (⟨c.after, ch⟩ ∈ s.watchersOf c.streamID ∨ ch ∈ s.closed ∧ c.Due)
  removing : ∀ ch, c.pc = .removing ch → c.ctx ≠ none
  woken : c.pc = .returned none → c.Due

/-- The invariant: the store's watchers are in order, and so is each call; no two calls wait on the
same channel. -/
structure WaitingOk (σ : Waiting) : Prop where
  store : WatchersOk σ.store
  calls : ∀ c ∈ σ.calls, c.Ok σ.store
  apart : ∀ (i j : Nat) (c d : WaitCall) (ch : Nat), σ.calls[i]? = some c → σ.calls[j]? = some d →
    c.channel = some ch → d.channel = some ch → i = j

/-- From `s` to `s'` no channel is forgotten, and each watcher that `P` admits stays, or is woken
because the head has passed it. -/
structure Keeps (P : StreamWatcher → Prop) (s s' : Store) : Prop where
  made : s.made ≤ s'.made
  closed : ∀ ch ∈ s.closed, ch ∈ s'.closed
  watchers : ∀ id, ∀ w ∈ s.watchersOf id, P w →
    w ∈ s'.watchersOf id ∨ w.ch ∈ s'.closed ∧ w.after < s'.headOf id

/-- A store keeps its own watchers. -/
theorem Keeps.refl (P : StreamWatcher → Prop) (s : Store) : Keeps P s s :=
  ⟨le_rfl, fun _ h => h, fun _ _ h _ => .inl h⟩

/-- Registering drops no watcher. -/
theorem Keeps.register (P : StreamWatcher → Prop) (s : Store) (streamID : StreamID) (after : Nat) :
    Keeps P s (Store.registerWatcher.register s streamID after).2 := by
  refine ⟨Nat.le_succ _, fun _ h => h, fun id w hw _ => .inl ?_⟩
  rw [Store.watchersOf_register]
  split_ifs with hid
  · subst hid
    exact List.mem_append_left _ hw
  · exact hw

/-- Removing drops no watcher with another channel. -/
theorem Keeps.remove (s : Store) (streamID : StreamID) (ch : Nat) :
    Keeps (fun w => w.ch ≠ ch) s (s.removeWatcherLocked streamID ch) := by
  refine ⟨le_rfl, fun _ h => h, fun id w hw hne => .inl ?_⟩
  rcases s.watchersOf_removeWatcherLocked streamID ch id with hsame | ⟨-, gone, hgone, hperm⟩
  · exact hsame ▸ hw
  · rcases List.mem_cons.mp (hperm.mem_iff.mpr hw) with rfl | hmem
    · exact absurd hgone hne
    · exact hmem

/-- A notification wakes only those who are due. -/
theorem Wakes.keeps {streamID : StreamID} {s s' : Store} (h : Wakes streamID s s')
    (P : StreamWatcher → Prop) : Keeps P s s' := by
  refine ⟨h.made.ge, fun ch hch => h.closed_iff.mpr (.inr hch), fun id w hw _ => ?_⟩
  by_cases hpast : id = streamID → s'.headOf streamID ≤ w.after
  · exact .inl (h.mem_iff.mpr ⟨hw, hpast⟩)
  · obtain ⟨rfl, hlt⟩ := Classical.not_imp.mp hpast
    have hlt := Nat.not_le.mp hlt
    exact .inr ⟨h.closed_iff.mpr (.inl ⟨w, hw, hlt, rfl⟩), hlt⟩

/-- The operations beside `WaitForStream` drop no watcher. -/
theorem Op.keeps {s : Store} (hs : WatchersOk s) (op : Op) (P : StreamWatcher → Prop)
    (hop : ∀ streamID ch, op ≠ .removeWatcher streamID ch) : Keeps P s (op.apply s) := by
  by_cases hon : op.OnWatchers
  · cases op with
    | append now req => exact (Store.append_wakes hs now req).keeps P
    | registerWatcher streamID after =>
        show Keeps P s (s.registerWatcher streamID after).2
        rw [Store.registerWatcher_eq]
        split_ifs
        · exact .refl P s
        · exact .register P s streamID after
    | removeWatcher streamID ch => exact absurd rfl (hop streamID ch)
    | _ => exact hon.elim
  · have hwatching := Op.watching_eq hon s
    refine ⟨(congrArg (·.2.2) hwatching).ge, fun ch hch => ?_, fun id w hw _ => .inl ?_⟩
    · rw [show (op.apply s).closed = s.closed from congrArg (·.2.1) hwatching]
      exact hch
    · rw [Store.watchersOf_congr hwatching]
      exact hw

namespace WaitCall

variable {c : WaitCall} {s s' : Store}

/-- A store written by another party: the call goes on. -/
theorem Ok.observe {P : StreamWatcher → Prop} (h : c.Ok s) (hkeeps : Keeps P s s')
    (hP : ∀ ch, c.channel = some ch → P ⟨c.after, ch⟩) : (c.observe s').Ok s' := by
  by_cases hreturned : ∃ result, c.pc = .returned result
  · obtain ⟨result, hpc⟩ := hreturned
    have hsame : c.observe s' = c := by
      unfold WaitCall.observe
      rw [hpc]
    rw [hsame]
    refine ⟨fun hne => absurd hpc (hne result), fun ch hch => ?_, h.removing, h.woken⟩
    unfold channel at hch
    rw [hpc] at hch
    cases hch
  · have hlive : ∀ result, c.pc ≠ .returned result := fun result hpc => hreturned ⟨result, hpc⟩
    have hsame : c.observe s' = { c with during := s' :: c.during } := by
      unfold WaitCall.observe
      split
      · rename_i hpc
        exact absurd hpc (hlive _)
      · rfl
    rw [hsame]
    refine ⟨fun _ => List.mem_cons_self, fun ch hch => ?_, h.removing,
      fun hpc => absurd hpc (hlive none)⟩
    obtain ⟨hmade, hwaits⟩ := h.waits ch hch
    refine ⟨hmade.trans_le hkeeps.made, ?_⟩
    rcases hwaits with hmem | ⟨hclosed, t, ht, hlt⟩
    · rcases hkeeps.watchers _ _ hmem (hP ch hch) with hstays | ⟨hclosed, hlt⟩
      · exact .inl hstays
      · exact .inr ⟨hclosed, s', List.mem_cons_self, hlt⟩
    · exact .inr ⟨hkeeps.closed ch hclosed, t, List.mem_cons_of_mem _ ht, hlt⟩

/-- A call that has returned is in order when the head was past `after` at some instant, or when it
has returned an error. -/
theorem Ok.returned {result : Option GoError} (hpc : c.pc = .returned result)
    (hdue : result = none → c.Due) : c.Ok s where
  present hlive := absurd hpc (hlive _)
  waits ch hch := by
    unfold channel at hch
    rw [hpc] at hch
    cases hch
  removing ch hch := by
    rw [hpc] at hch
    cases hch
  woken hnil := by
    rw [hpc] at hnil
    cases hnil
    exact hdue rfl

/-- A call that returns an error is in order. -/
theorem Ok.error (err : GoError) (hpc : c.pc = .returned (some err)) : c.Ok s :=
  .returned hpc fun hnil => (nomatch hnil)

/-- A call that returns `nil` is in order when the head was past `after` at some instant. -/
theorem Ok.due (hpc : c.pc = .returned none) (hdue : c.Due) : c.Ok s := .returned hpc fun _ => hdue

/-- The next step of a call keeps it in order. -/
theorem Ok.next (hs : WatchersOk s) (h : c.Ok s) {pc : WaitPC} (hnext : c.Next s pc s') :
    (({ c with pc } : WaitCall).observe s').Ok s' := by
  rcases hnext with ⟨err, hpc⟩ | hpc | ⟨hpc, hlt⟩ | ⟨hpc, hle⟩ | ⟨hpc, hclosed⟩ | ⟨hpc, hctx⟩ | hpc
  · exact .error err rfl
  · refine ⟨fun _ => List.mem_cons_self, fun ch hch => ?_, fun ch hch => ?_, fun hnil => ?_⟩
    · cases hch
    · cases hch
    · cases hnil
  · refine .due rfl ⟨s, h.present fun result => ?_, hlt⟩
    rw [hpc]
    rintro ⟨⟩
  · refine ⟨fun _ => List.mem_cons_self, fun ch hch => ?_, fun ch hch => ?_, fun hnil => ?_⟩
    · obtain rfl : s.made = ch := Option.some.inj hch
      refine ⟨Nat.lt_succ_self _, .inl ?_⟩
      show _ ∈ (Store.registerWatcher.register s c.streamID c.after).2.watchersOf c.streamID
      rw [Store.watchersOf_register, if_pos rfl]
      exact List.mem_append_right _ List.mem_cons_self
    · cases hch
    · cases hnil
  · rename_i ch
    refine .due rfl ?_
    rcases (h.waits ch (by simp [channel, hpc])).2 with hmem | ⟨-, hdue⟩
    · exact absurd hclosed (hs.waits _ _ hmem)
    · exact hdue
  · rename_i ch
    refine ⟨fun _ => List.mem_cons_self, fun ch' hch => ?_, fun _ _ => hctx, fun hnil => ?_⟩
    · obtain rfl : ch = ch' := Option.some.inj hch
      obtain ⟨hmade, hwaits⟩ := h.waits ch (by simp [channel, hpc])
      exact ⟨hmade, hwaits.imp_right fun ⟨hclosed, t, ht, hlt⟩ =>
        ⟨hclosed, t, List.mem_cons_of_mem _ ht, hlt⟩⟩
    · cases hnil
  · obtain ⟨err, herr⟩ := Option.ne_none_iff_exists'.mp (h.removing _ hpc)
    rw [herr]
    exact .error err rfl

end WaitCall

namespace WaitingOk

variable {σ : Waiting}

/-- At the start there are no waits. -/
theorem start : WaitingOk {} where
  store := .newStore
  calls := by simp
  apart := by simp

/-- Calls that wait where calls waited before do so on different channels; one of them may wait on a
channel that is to be made. -/
theorem apart_of (h : WaitingOk σ) {calls : List WaitCall} (new : Nat)
    (hold : ∀ (i : Nat) (c : WaitCall) (ch : Nat), calls[i]? = some c → c.channel = some ch →
      (∃ c', σ.calls[i]? = some c' ∧ c'.channel = some ch) ∨ i = new ∧ ch = σ.store.made)
    (i j : Nat) (c d : WaitCall) (ch : Nat) (hi : calls[i]? = some c) (hj : calls[j]? = some d)
    (hc : c.channel = some ch) (hd : d.channel = some ch) : i = j := by
  have hmade : ∀ {i : Nat} {c : WaitCall}, σ.calls[i]? = some c → c.channel = some ch →
      ch ≠ σ.store.made :=
    fun hi hc => (((h.calls _ (List.mem_of_getElem? hi)).waits ch hc).1).ne
  rcases hold i c ch hi hc with ⟨c', hi', hc'⟩ | ⟨rfl, rfl⟩ <;>
    rcases hold j d _ hj hd with ⟨d', hj', hd'⟩ | ⟨rfl, hch⟩
  · exact h.apart i j c' d' ch hi' hj' hc' hd'
  · exact absurd hch (hmade hi' hc')
  · exact absurd rfl (hmade hj' hd')
  · rfl

/-- A store written by an operation beside the calls. -/
theorem write (h : WaitingOk σ) {s : Store} (hs : WatchersOk s)
    (hkeeps : Keeps (fun _ => True) σ.store s) : WaitingOk (σ.write s) where
  store := hs
  calls := by
    intro c hc
    obtain ⟨d, hd, rfl⟩ := List.mem_map.mp hc
    exact (h.calls d hd).observe hkeeps fun _ _ => trivial
  apart := by
    refine h.apart_of 0 fun i c ch hi hc => .inl ?_
    simp only [Waiting.write, List.getElem?_map, Option.map_eq_some_iff] at hi
    obtain ⟨c', hi', rfl⟩ := hi
    exact ⟨c', hi', by rwa [WaitCall.channel_observe] at hc⟩

/-- A new call. -/
theorem call (h : WaitingOk σ) (streamID : StreamID) (after : Nat) :
    WaitingOk { σ with calls := σ.calls ++ [{ streamID, after, during := [σ.store] }] } where
  store := h.store
  calls := by
    intro c hc
    rcases List.mem_append.mp hc with hold | hnew
    · exact h.calls c hold
    · obtain rfl := List.mem_singleton.mp hnew
      refine ⟨fun _ => List.mem_singleton_self _, fun ch hch => ?_, fun ch hch => ?_,
        fun hnil => ?_⟩
      · cases hch
      · cases hch
      · cases hnil
  apart := by
    refine h.apart_of 0 fun i c ch hi hc => .inl ?_
    rw [List.getElem?_append] at hi
    split_ifs at hi
    · exact ⟨c, hi, hc⟩
    · rw [List.getElem?_singleton] at hi
      split_ifs at hi
      cases hi
      cases hc

/-- The context of a call ends. -/
theorem cancel (h : WaitingOk σ) {i : Nat} {c : WaitCall} (hi : σ.calls[i]? = some c)
    (err : GoError) :
    WaitingOk { σ with calls := σ.calls.set i { c with ctx := c.ctx.or (some err) } } where
  store := h.store
  calls := by
    intro d hd
    rcases List.mem_or_eq_of_mem_set hd with hold | rfl
    · exact h.calls d hold
    · obtain ⟨hpresent, hwaits, -, hwoken⟩ := h.calls c (List.mem_of_getElem? hi)
      exact ⟨hpresent, hwaits, fun _ _ => by cases c.ctx <;> simp, hwoken⟩
  apart := by
    refine h.apart_of 0 fun j d ch hj hd => .inl ?_
    rw [List.getElem?_set] at hj
    split_ifs at hj with hij
    · subst hij
      cases hj
      exact ⟨c, hi, hd⟩
    · exact ⟨d, hj, hd⟩

/-- What the next step of a call does to the store: it keeps the invariant and the watchers of the
other calls. -/
theorem next_store (h : WaitingOk σ) {i : Nat} {c : WaitCall} {pc : WaitPC} {s : Store}
    (hi : σ.calls[i]? = some c) (hnext : c.Next σ.store pc s) :
    WatchersOk s ∧ ∃ P, Keeps P σ.store s ∧ ∀ j d ch, j ≠ i → σ.calls[j]? = some d →
      d.channel = some ch → P ⟨d.after, ch⟩ := by
  have hsame : WatchersOk σ.store ∧ ∃ P, Keeps P σ.store σ.store ∧ ∀ j d ch, j ≠ i →
      σ.calls[j]? = some d → d.channel = some ch → P ⟨d.after, ch⟩ :=
    ⟨h.store, fun _ => True, .refl _ _, fun _ _ _ _ _ _ => trivial⟩
  rcases hnext with _ | _ | _ | ⟨hpc, hle⟩ | _ | _ | hpc
  · exact hsame
  · exact hsame
  · exact hsame
  · exact ⟨h.store.register hle, fun _ => True, .register _ _ _ _, fun _ _ _ _ _ _ => trivial⟩
  · exact hsame
  · exact hsame
  · rename_i ch
    refine ⟨h.store.apply (.removeWatcher c.streamID ch), _, .remove _ _ ch, ?_⟩
    rintro j d _ hji hj hd rfl
    exact hji (h.apart j i d c _ hj hi hd (by simp [WaitCall.channel, hpc]))

/-- The next step of a call. -/
theorem next (h : WaitingOk σ) {i : Nat} {c : WaitCall} {pc : WaitPC} {s : Store}
    (hi : σ.calls[i]? = some c) (hnext : c.Next σ.store pc s) :
    WaitingOk (Waiting.write { σ with calls := σ.calls.set i { c with pc } } s) := by
  obtain ⟨hs, P, hkeeps, hP⟩ := h.next_store hi hnext
  have hmem : ∀ {j : Nat} {d : WaitCall},
      ((σ.calls.set i { c with pc }).map (·.observe s))[j]? = some d →
        j = i ∧ d = ({ c with pc } : WaitCall).observe s ∨
          j ≠ i ∧ ∃ d', σ.calls[j]? = some d' ∧ d = d'.observe s := by
    intro j d hj
    simp only [List.getElem?_map, Option.map_eq_some_iff, List.getElem?_set] at hj
    obtain ⟨d', hj, rfl⟩ := hj
    split_ifs at hj with hij
    · cases hj
      exact .inl ⟨hij.symm, rfl⟩
    · exact .inr ⟨fun heq => hij heq.symm, d', hj, rfl⟩
  refine ⟨hs, fun d hd => ?_, ?_⟩
  · obtain ⟨j, hj⟩ := List.mem_iff_getElem?.mp hd
    rcases hmem hj with ⟨rfl, rfl⟩ | ⟨hji, d', hj', rfl⟩
    · exact (h.calls c (List.mem_of_getElem? hi)).next h.store hnext
    · exact (h.calls d' (List.mem_of_getElem? hj')).observe hkeeps fun ch => hP j d' ch hji hj'
  · refine h.apart_of i fun j d ch hj hd => ?_
    rcases hmem hj with ⟨rfl, rfl⟩ | ⟨-, d', hj', rfl⟩
    · rw [WaitCall.channel_observe] at hd
      rcases hnext with _ | _ | _ | ⟨hpc, hle⟩ | _ | ⟨hpc, hctx⟩ | _
      · cases hd
      · cases hd
      · cases hd
      · exact .inr ⟨rfl, (Option.some.inj hd).symm⟩
      · cases hd
      · exact .inl ⟨c, hi, by rw [← hd]; simp [WaitCall.channel, hpc]⟩
      · cases hd
    · rw [WaitCall.channel_observe] at hd
      exact .inl ⟨d', hj', hd⟩

end WaitingOk

/-- Every step keeps the invariant. -/
theorem waitForStream_step {l : WaitingLabel} {σ τ : Waiting}
    (hstep : waitForStream.step l σ = some τ) (h : WaitingOk σ) : WaitingOk τ := by
  cases l with
  | op op =>
      simp only [waitForStream] at hstep
      split_ifs at hstep with hwaits
      cases hstep
      refine h.write (h.store.apply op) (op.keeps h.store _ ?_)
      rintro streamID ch rfl
      exact hwaits rfl
  | call streamID after =>
      cases hstep
      exact h.call streamID after
  | cancel i err =>
      simp only [waitForStream] at hstep
      split at hstep
      · cases hstep
      · rename_i c hi
        cases hstep
        exact h.cancel hi err
  | step i done =>
      simp only [waitForStream] at hstep
      split at hstep
      · cases hstep
      · rename_i c hi
        obtain ⟨⟨pc, s⟩, hnext, rfl⟩ := Option.map_eq_some_iff.mp hstep
        exact h.next hi (WaitCall.next_cases hnext)

/-- **Stream watchers are woken exactly when due.** In every state that calls of `WaitForStream` and
the other operations reach from an empty store, in any interleaving:
each registered watcher waits for more than the head, and is registered once;
no channel has been closed twice;
a call has returned `nil` only if the head was past its seq at some instant of the call;
an `Append`, whatever it answers, wakes each watcher that the head has passed, and removes it;
no call waits on an open channel when the head is past its seq;
and removing a watcher leaves those with other channels. -/
theorem watchers_woken_when_due {ls : List WaitingLabel} {σ : Waiting}
    (hrun : waitForStream.run ls {} = some σ) :
    (∀ id, (∀ w ∈ σ.store.watchersOf id, σ.store.headOf id ≤ w.after) ∧
      ((σ.store.watchersOf id).map (·.ch)).Nodup ∧
      ∀ id', ∀ w ∈ σ.store.watchersOf id, ∀ w' ∈ σ.store.watchersOf id', w.ch = w'.ch → id = id') ∧
    σ.store.closed.Nodup ∧
    (∀ c ∈ σ.calls, c.pc = .returned none → ∃ s ∈ c.during, c.after < s.headOf c.streamID) ∧
    (∀ now req, ∀ w ∈ σ.store.watchersOf req.streamID,
      w.after < (σ.store.append now req).2.headOf req.streamID →
        w.ch ∈ (σ.store.append now req).2.closed ∧
          w ∉ (σ.store.append now req).2.watchersOf req.streamID) ∧
    (∀ c ∈ σ.calls, ∀ ch, c.pc = .selecting ch → c.after < σ.store.headOf c.streamID →
      ch ∈ σ.store.closed) ∧
    ∀ streamID ch id, ∀ w ∈ σ.store.watchersOf id, w.ch ≠ ch →
      w ∈ (σ.store.removeWatcherLocked streamID ch).watchersOf id := by
  have hok : WaitingOk σ :=
    Machine.run_invariant (fun _ _ _ hstep h => waitForStream_step hstep h) hrun .start
  have hs : WatchersOk σ.store := hok.store
  refine ⟨fun id => ⟨hs.above id, hs.once id, hs.apart id⟩, hs.closedOnce, fun c hc => ?_, ?_, ?_,
    ?_⟩
  · exact (hok.calls c hc).woken
  · intro now req w hw hlt
    have hwakes := Store.append_wakes hs now req
    refine ⟨hwakes.closed_iff.mpr (.inl ⟨w, hw, hlt, rfl⟩), fun hstays => ?_⟩
    exact absurd ((hwakes.mem_iff.mp hstays).2 rfl) (Nat.not_le.mpr hlt)
  · intro c hc ch hpc hlt
    rcases ((hok.calls c hc).waits ch (by simp [WaitCall.channel, hpc])).2 with hmem | ⟨hclosed, -⟩
    · exact absurd (hs.above _ _ hmem) (Nat.not_le.mpr hlt)
    · exact hclosed
  · intro streamID ch id w hw hne
    rcases (Keeps.remove σ.store streamID ch).watchers id w hw hne with hstays | ⟨hclosed, -⟩
    · exact hstays
    · exact absurd hclosed (hs.waits id w hw)

/-- Two calls wait for the first event of a stream; the context of one ends, the other is woken. -/
def oneWoken : List WaitingLabel :=
  [.call "s" 0, .step 0 false, .step 0 false, .call "s" 0, .step 1 false, .step 1 false,
    .cancel 0 { wraps := [.canceled], message := "context canceled" }, .step 0 true,
    .op (.append 0 { streamID := "s" }), .step 0 false, .step 1 false]

/-- One wait is woken by an append, the other one gives up. -/
theorem watchers_woken_when_due_oneWoken :
    ∃ σ, waitForStream.run oneWoken {} = some σ ∧
      σ.calls.map (·.pc) =
        [.returned (some { wraps := [.canceled], message := "context canceled" }),
          .returned none] ∧
      ∀ c ∈ σ.calls, c.pc = .returned none → ∃ s ∈ c.during, c.after < s.headOf c.streamID := by
  obtain ⟨σ, hrun, hpcs⟩ : ∃ σ, waitForStream.run oneWoken {} = some σ ∧ σ.calls.map (·.pc) =
      [.returned (some { wraps := [.canceled], message := "context canceled" }),
        .returned none] := ⟨_, rfl, rfl⟩
  exact ⟨σ, hrun, hpcs, (watchers_woken_when_due hrun).2.2.1⟩

end Synclog.Memory
