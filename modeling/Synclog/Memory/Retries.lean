import Synclog.Memory.Footprints

/-!
# Calls that change nothing

A client that got no answer calls again. Which calls may be made twice, and how long afterwards?

* `StoreMethod.Repeatable`, `StoreMethod.Tolerates` — the calls after which nothing is left to do
  for the same call, and the calls that leave it so.
* `StoreMethod.Done` — what a repeatable call has achieved; nothing is left to do for it then.
* `retry_unnoticed` — a repeatable call is made again, by a later clock, after any tolerated calls
  of any clients: no client can tell. A compaction that is made again has nobody between its
  sections.
* `StoreMethod.Idle`, `StoreMethod.Needless` — the answer of a call says that nothing was done, or
  the call finds nothing to do.
* `idle_unnoticed` — such a call has left no trace.
* `truncations_join` — truncations of a stream amount to the one with the greatest bound.
-/

namespace Synclog.Memory

open Synclog.Lib Synclog.Core

/-! ## What the logs keep -/

namespace Journal

variable {J : Journal} {id : StreamID} {L : TrimmedLog Event}

/-- The log of a stream that exists. -/
theorem logOf_eq (hL : J.logs id = some L) : J.logOf id = L := by
  unfold logOf
  rw [hL]
  rfl

/-- The log of a stream that does not exist is empty. -/
theorem logOf_eq_empty (hL : J.logs id = none) : J.logOf id = .empty := by
  unfold logOf
  rw [hL]
  rfl

/-- A stream goes on to exist when events are forgotten. -/
theorem logs_forget_some (hL : J.logs id = some L) {n : Nat} :
    (J.forget id n).logs id = some (L.forgetTo n) := by
  rw [logs_forget, if_pos rfl, hL]
  rfl

/-- Retention only trims a log. -/
theorem extends_keeping (r : Option StreamRetention) (now : Int) (L : TrimmedLog Event) :
    L.Extends (keeping r now L) := by
  rcases r with _ | r
  · exact .refl L
  · exact L.extends_trim _

/-- An append under a new key puts an event behind the log, and retention is applied. -/
theorem logs_append (now : Int) {req : AppendRequest} (hid : req.streamID ≠ "")
    (hnew : firstWith (J.logOf req.streamID) req.idempotencyKey = none) :
    (J.append now req).2.logs req.streamID =
      some (keeping (J.retention req.streamID) now ((J.logOf req.streamID).append
        (eventFor req ((J.logOf req.streamID).head + 1)))) := by
  unfold append
  rw [if_neg hid]
  simp only [hnew]
  change ((J.setLog _ _).retain now _).logs _ = _
  simp only [logs_retain, logs_setLog, if_true]
  rfl

/-- An append under a key that the log has changes nothing. -/
theorem append_eq_self {now : Int} {req : AppendRequest}
    (hdone : req.streamID = "" ∨ firstWith (J.logOf req.streamID) req.idempotencyKey ≠ none) :
    (J.append now req).2 = J := by
  unfold append
  split_ifs with hid
  · rfl
  · simp only
    split
    · split_ifs <;> rfl
    · rename_i hnew
      exact absurd hnew (hdone.resolve_left hid)

/-- The new retention trims the log at once. -/
theorem logs_setStreamRetention (now : Int) {r : StreamRetention} (hid : r.streamID ≠ "") :
    (J.setStreamRetention now r).2.logs r.streamID =
      (J.logs r.streamID).map (keeping (some r) now) := by
  unfold setStreamRetention
  rw [if_neg hid]
  change (Journal.retain _ _ _).logs _ = _
  simp only [logs_retain, if_true, Function.update_self]

end Journal

namespace StoreMethod

/-- The call does not delete the stream. -/
def Keeps (id : StreamID) : {β : Type} → StoreMethod β → Prop
  | _, .deleteStream id' => id' ≠ id
  | _, _ => True

end StoreMethod

/-- Unless it is deleted, a stream goes on to exist, and its log only grows. -/
theorem journal_extends {γ : Type} {d : StoreMethod γ} {id : StreamID} (hd : d.Keeps id)
    {J : Journal} {L : TrimmedLog Event} (hL : J.logs id = some L) :
    ∃ L', (journal γ d J).2.logs id = some L' ∧ L.Extends L' := by
  by_cases hwrites : StorePart.log id ∈ d.writes
  · cases d with
    | append now req =>
        obtain rfl : id = req.streamID := by simpa [StoreMethod.writes] using hwrites
        change ∃ L', (J.append now req).2.logs _ = some L' ∧ L.Extends L'
        by_cases hdone : req.streamID = "" ∨
            Journal.firstWith (J.logOf req.streamID) req.idempotencyKey ≠ none
        · rw [Journal.append_eq_self hdone]
          exact ⟨L, hL, .refl L⟩
        · rw [not_or, not_not] at hdone
          refine ⟨_, Journal.logs_append now hdone.1 hdone.2, ?_⟩
          rw [Journal.logOf_eq hL]
          exact (L.extends_append _).trans (Journal.extends_keeping _ now _)
    | createStream id' =>
        obtain rfl : id = id' := by simpa [StoreMethod.writes] using hwrites
        change ∃ L', (J.createStream id).2.logs id = some L' ∧ L.Extends L'
        unfold Journal.createStream
        split_ifs
        · exact ⟨L, hL, .refl L⟩
        · exact ⟨L, by simp [Journal.logs_setLog, Journal.logOf_eq hL], .refl L⟩
    | deleteStream id' =>
        have hid : id = id' := by
          simpa [StoreMethod.writes, StorePart.cursorsOn, StorePart.snapshotsOf] using hwrites
        exact absurd hid.symm hd
    | truncateBefore id' before =>
        obtain rfl : id = id' := by simpa [StoreMethod.writes] using hwrites
        change ∃ L', (J.truncateBefore id before).2.logs id = some L' ∧ L.Extends L'
        unfold Journal.truncateBefore
        split_ifs
        · exact ⟨L, hL, .refl L⟩
        · exact ⟨_, Journal.logs_forget_some hL, L.extends_trim _⟩
    | compactStream id' =>
        obtain rfl : id = id' := by simpa [StoreMethod.writes] using hwrites
        change ∃ L', (J.compact id).2.logs id = some L' ∧ L.Extends L'
        unfold Journal.compact
        split_ifs
        · exact ⟨L, hL, .refl L⟩
        · exact ⟨_, Journal.logs_forget_some hL, L.extends_trim _⟩
        · exact ⟨L, hL, .refl L⟩
    | setStreamRetention now r =>
        obtain rfl : id = r.streamID := by simpa [StoreMethod.writes] using hwrites
        change ∃ L', (J.setStreamRetention now r).2.logs _ = some L' ∧ L.Extends L'
        by_cases hid : r.streamID = ""
        · unfold Journal.setStreamRetention
          rw [if_pos hid]
          exact ⟨L, hL, .refl L⟩
        · rw [Journal.logs_setStreamRetention now hid, hL]
          exact ⟨_, rfl, Journal.extends_keeping _ now L⟩
    | _ => simp [StoreMethod.writes] at hwrites
  · have hframe : J.logs id = (journal γ d J).2.logs id :=
      journal_frame d J (.log id) hwrites
    exact ⟨L, hframe ▸ hL, .refl L⟩

/-! ## Repeated calls -/

namespace StoreMethod

/-- The same call when the clock reads `now`. -/
def atTime (now : Int) : {β : Type} → StoreMethod β → StoreMethod β
  | _, .append _ req => .append now req
  | _, .setStreamRetention _ r => .setStreamRetention now r
  | _, c => c

/-- The call drops the cursor, or puts it somewhere without looking where it is. -/
def Rewinds (key : CursorKey) : {β : Type} → StoreMethod β → Prop
  | _, .resetCursor subscriberID id _ _ => key = ⟨subscriberID, id⟩
  | _, .deleteStream id => id = key.streamID
  | _, _ => False

/-- The call drops the snapshot that a request puts, or puts another one in its place. -/
def Replaces (req : PutSnapshotRequest) : {β : Type} → StoreMethod β → Prop
  | _, .putSnapshot req' =>
    Store.snapshotKeyOf req' = Store.snapshotKeyOf req ∧ req'.checksum ≠ req.checksum
  | _, .deleteSnapshot key => key = Store.snapshotKeyOf req
  | _, .deleteStream id => id = req.streamID
  | _, _ => False

/-- The calls that, once made, have nothing left to do: an append needs a key, a truncation must not
go beyond the head, and retention must not go by the clock. -/
def Repeatable (head : StreamID → Nat) : {β : Type} → StoreMethod β → Prop
  | _, .append _ req => req.idempotencyKey ≠ ""
  | _, .truncateBefore id before => before ≤ head id + 1
  | _, .setStreamRetention _ r => r.ttlDays ≤ 0
  | _, .waitForStream .. => False
  | _, .giveUp .. => False
  | _, _ => True

/-- The calls after which there is still nothing left to do for `c`. -/
def Tolerates {β : Type} (c : StoreMethod β) (γ : Type) (d : StoreMethod γ) : Prop :=
  match c with
  | .append _ req => d.Keeps req.streamID
  | .ack req => ¬ d.Rewinds ⟨req.subscriberID, req.streamID⟩
  | .createStream id => d.Keeps id
  | .truncateBefore id _ => d.Keeps id
  | .setStreamRetention _ r => StorePart.retention r.streamID ∉ d.writes
  | .putSnapshot req => ¬ d.Replaces req
  | c => Disjoint d.writes c.reads

/-- The sections after which there is still nothing left to do for `c`. -/
def ToleratesSection {β : Type} (c : StoreMethod β) (γ : Type) : StoreSection γ → Prop
  | .inl d => c.Tolerates γ d
  | .inr (.minCursor _) => True
  | .inr (.truncateBefore id before) => c.Tolerates _ (.truncateBefore id before)

/-- What a repeatable call has achieved. -/
def Done : {β : Type} → StoreMethod β → Journal → Prop
  | _, .append _ req, J =>
    req.streamID = "" ∨ Journal.firstWith (J.logOf req.streamID) req.idempotencyKey ≠ none
  | _, .ack req, J =>
    (req.subscriberID = "" ∨ req.streamID = "") ∨
      req.seq ≤ (J.cursorOf req.subscriberID req.streamID).cursor.seq
  | _, .createStream id, J => id = "" ∨ ∃ L, J.logs id = some L
  | _, .truncateBefore id before, J => id = "" ∨ before - 1 ≤ (J.logOf id).base
  | _, .setStreamRetention _ r, J =>
    r.streamID = "" ∨
      J.retention r.streamID = some r ∧ Journal.overflowing (J.logOf r.streamID).retained r = 0
  | _, .putSnapshot req, J =>
    (∃ err, Store.checkSnapshotKey req.streamID req.payloadType = .error err) ∨
      ∃ snapshot, J.snapshots (Store.snapshotKeyOf req) = some snapshot ∧
        snapshot.ref.checksum = req.checksum
  | _, c, J => (journal _ c J).2 = J

/-- Where a method writes something, it has read it. -/
theorem writes_subset_reads {β : Type} (c : StoreMethod β) : c.writes ⊆ c.reads := by
  cases c with
  | append now req =>
      rintro x (rfl | rfl)
      · exact .inl rfl
      · exact .inr (.inr rfl)
  | waitForStream id after => exact Set.subset_insert _ _
  | compactStream id => exact Set.subset_union_left
  | giveUp | ack | createStream | deleteStream | resetCursor | truncateBefore | setStreamRetention
  | putSnapshot | deleteSnapshot => exact subset_rfl
  | getHead | read | getCursor | listStreams | listCursors | getStreamStats | getLatestSnapshot
  | getSnapshot | listSnapshots => exact Set.empty_subset _

end StoreMethod

namespace Journal

variable {J : Journal} {id : StreamID}

/-- A key that was found in a log is found in every later state of it. -/
theorem firstWith_ne_none {L L' : TrimmedLog Event} {key : String} (h : L.Extends L')
    (hfound : firstWith L key ≠ none) : firstWith L' key ≠ none := by
  unfold firstWith at hfound ⊢
  split_ifs at hfound ⊢
  · exact absurd rfl hfound
  · rw [Ne, List.find?_eq_none] at hfound ⊢
    exact fun hnone => hfound fun event hmem => hnone event (h.1.subset hmem)

/-- Nothing changes when the log is set to itself. -/
theorem setLog_logOf {L : TrimmedLog Event} (hL : J.logs id = some L) :
    J.setLog id (J.logOf id) = J := by
  unfold setLog
  rw [logOf_eq hL, ← hL, Function.update_eq_self]

/-- Nothing changes when what is to be forgotten is forgotten already. -/
theorem forget_eq_self {n : Nat} (hbase : n ≤ (J.logOf id).base) : J.forget id n = J := by
  unfold forget
  have hsame : (J.logs id).map (·.forgetTo n) = J.logs id := by
    rcases hL : J.logs id with _ | L
    · rfl
    · rw [logOf_eq hL] at hbase
      rw [Option.map_some, L.forgetTo_of_le hbase]
  rw [hsame, Function.update_eq_self]

/-- The log without what is forgotten. -/
theorem logOf_forget (J : Journal) (id : StreamID) (n : Nat) :
    (J.forget id n).logOf id = (J.logOf id).forgetTo n := by
  unfold logOf
  rw [logs_forget, if_pos rfl]
  rcases J.logs id with _ | L
  · refine TrimmedLog.ext rfl ?_
    rw [Option.map_none, Option.getD_none, TrimmedLog.base_forgetTo]
    change 0 = max 0 (min n 0)
    omega
  · rfl

/-- What lets the base stand changes nothing. -/
theorem forget_of_base {n : Nat} (h : ((J.logOf id).forgetTo n).base - (J.logOf id).base = 0) :
    J.forget id n = J := by
  unfold forget
  have hsame : (J.logs id).map (·.forgetTo n) = J.logs id := by
    rcases hL : J.logs id with _ | L
    · rfl
    · rw [logOf_eq hL] at h
      have hbase : (L.forgetTo n).base = L.base := by
        rw [TrimmedLog.base_forgetTo] at h ⊢
        omega
      exact congrArg some (TrimmedLog.ext rfl hbase)
  rw [hsame, Function.update_eq_self]

/-- To forget twice is to forget the greater number. -/
theorem forget_forget (J : Journal) (id : StreamID) (m n : Nat) :
    (J.forget id m).forget id n = J.forget id (max m n) := by
  unfold forget
  simp only [Function.update_idem, Function.update_self, Option.map_map]
  congr 3
  funext L
  exact L.forgetTo_forgetTo m n

/-- The bound on the number of events is all there is to retention that does not go by the clock. -/
theorem keeping_of_ttlDays {r : StreamRetention} (httl : r.ttlDays ≤ 0) (now : Int)
    (L : TrimmedLog Event) : keeping (some r) now L = L.trim (overflowing L.retained r) := by
  have hnot : ¬ r.ttlDays > 0 := by omega
  unfold keeping expired
  simp only [if_neg hnot, Nat.zero_max]

/-- A log of which retention has been seen to is within the bound. -/
theorem overflowing_keeping (r : StreamRetention) (now : Int) (L : TrimmedLog Event) :
    overflowing (keeping (some r) now L).retained r = 0 := by
  unfold keeping
  rw [TrimmedLog.retained_trim]
  unfold overflowing
  split_ifs
  · rw [List.length_drop]
    omega
  · rfl

/-- An empty log is within every bound. -/
theorem overflowing_empty (r : StreamRetention) :
    overflowing (TrimmedLog.empty : TrimmedLog Event).retained r = 0 := by
  unfold overflowing
  split_ifs
  · exact Nat.zero_sub _
  · rfl

/-- With fewer events the log is still within the bound. -/
theorem overflowing_mono {r : StreamRetention} {events events' : List Event}
    (hle : events'.length ≤ events.length) (h : overflowing events r = 0) :
    overflowing events' r = 0 := by
  unfold overflowing at h ⊢
  split_ifs at h ⊢
  · omega
  · rfl

end Journal

/-- Nothing is left to do for a call that has achieved what it is for. -/
theorem journal_of_done {β : Type} {c : StoreMethod β} {head : StreamID → Nat}
    (hc : c.Repeatable head) {J : Journal} (hdone : c.Done J) (now : Int) :
    (journal β (c.atTime now) J).2 = J := by
  cases c with
  | append _ req => exact Journal.append_eq_self hdone
  | ack req =>
      change (J.ack req).2 = J
      unfold Journal.ack
      split_ifs with hnames
      · rfl
      · have hseq := hdone.resolve_left hnames
        simp only
        rw [if_neg (by omega)]
  | createStream id =>
      change (J.createStream id).2 = J
      unfold Journal.createStream
      split_ifs with hid
      · rfl
      · obtain ⟨L, hL⟩ := hdone.resolve_left hid
        exact Journal.setLog_logOf hL
  | truncateBefore id before =>
      change (J.truncateBefore id before).2 = J
      unfold Journal.truncateBefore
      split_ifs with hid
      · rfl
      · exact Journal.forget_eq_self (hdone.resolve_left hid)
  | setStreamRetention _ r =>
      change (J.setStreamRetention now r).2 = J
      unfold Journal.setStreamRetention
      split_ifs with hid
      · rfl
      · obtain ⟨hretention, hwithin⟩ := hdone.resolve_left hid
        have hsame : (J.logs r.streamID).map (Journal.keeping (some r) now) =
            J.logs r.streamID := by
          rcases hL : J.logs r.streamID with _ | L
          · rfl
          · rw [Journal.logOf_eq hL] at hwithin
            rw [Option.map_some, Journal.keeping_of_ttlDays hc, hwithin, TrimmedLog.trim_zero]
        have hsame' : Function.update J.retention r.streamID (some r) = J.retention := by
          rw [← hretention, Function.update_eq_self]
        simp only [hsame']
        unfold Journal.retain
        rw [hretention, hsame, Function.update_eq_self]
  | putSnapshot req =>
      change (J.putSnapshot req).2 = J
      unfold Journal.putSnapshot
      rcases hdone with ⟨err, herr⟩ | ⟨snapshot, hsnapshot, hsum⟩
      · rw [herr]
      · rcases Store.checkSnapshotKey req.streamID req.payloadType with err | ⟨⟩
        · rfl
        · simp only [hsnapshot, Option.filter, hsum, decide_true, if_true]
  | waitForStream | giveUp => exact hc.elim
  | deleteStream | resetCursor | compactStream | deleteSnapshot | getHead | read | getCursor
  | listStreams | listCursors | getStreamStats | getLatestSnapshot | getSnapshot | listSnapshots =>
      exact hdone

/-- A repeatable call achieves what it is for. -/
theorem done_journal {β : Type} {c : StoreMethod β} {J : Journal}
    (hc : c.Repeatable fun id => (J.logOf id).head) : c.Done (journal β c J).2 := by
  cases c with
  | append now req =>
      change req.streamID = "" ∨
        Journal.firstWith ((J.append now req).2.logOf req.streamID) req.idempotencyKey ≠ none
      by_cases hdone : req.streamID = "" ∨
          Journal.firstWith (J.logOf req.streamID) req.idempotencyKey ≠ none
      · rw [Journal.append_eq_self hdone]
        exact hdone
      · rw [not_or, not_not] at hdone
        rw [Journal.logOf_eq (Journal.logs_append now hdone.1 hdone.2)]
        refine .inr fun hnone => ?_
        have hkey : req.idempotencyKey ≠ "" := hc
        unfold Journal.firstWith at hnone
        rw [if_neg hkey, List.find?_eq_none] at hnone
        have hgrown := (Journal.extends_keeping (J.retention req.streamID) now
          ((J.logOf req.streamID).append
            (Journal.eventFor req ((J.logOf req.streamID).head + 1)))).1
        refine hnone _ (hgrown.subset (List.mem_append_right _ (List.mem_singleton_self _))) ?_
        exact beq_self_eq_true req.idempotencyKey
  | ack req =>
      change _ ∨ req.seq ≤ ((J.ack req).2.cursorOf req.subscriberID req.streamID).cursor.seq
      unfold Journal.ack
      split_ifs with hnames
      · exact .inl hnames
      · simp only
        split_ifs with hlt
        · refine .inr (le_of_eq ?_)
          unfold Journal.cursorOf
          simp only [Journal.cursors_setCursor, if_true, Option.getD_some]
        · exact .inr (not_lt.mp hlt)
  | createStream id =>
      change id = "" ∨ ∃ L, (J.createStream id).2.logs id = some L
      unfold Journal.createStream
      split_ifs with hid
      · exact .inl hid
      · exact .inr ⟨J.logOf id, by simp only [Journal.logs_setLog, if_true]⟩
  | truncateBefore id before =>
      change id = "" ∨ before - 1 ≤ ((J.truncateBefore id before).2.logOf id).base
      have hhead : before ≤ (J.logOf id).head + 1 := hc
      unfold Journal.truncateBefore
      split_ifs with hid
      · exact .inl hid
      · rw [Journal.logOf_forget, TrimmedLog.base_forgetTo]
        exact .inr (by omega)
  | setStreamRetention now r =>
      change _ ∨ (J.setStreamRetention now r).2.retention r.streamID = some r ∧
        Journal.overflowing ((J.setStreamRetention now r).2.logOf r.streamID).retained r = 0
      by_cases hid : r.streamID = ""
      · exact .inl hid
      · refine .inr ⟨?_, ?_⟩
        · unfold Journal.setStreamRetention
          rw [if_neg hid]
          exact Function.update_self ..
        · have hlogs := Journal.logs_setStreamRetention (J := J) now hid
          rcases hL : J.logs r.streamID with _ | L
          · rw [hL, Option.map_none] at hlogs
            rw [Journal.logOf_eq_empty hlogs]
            exact Journal.overflowing_empty r
          · rw [hL, Option.map_some] at hlogs
            rw [Journal.logOf_eq hlogs]
            exact Journal.overflowing_keeping r now L
  | putSnapshot req =>
      change _ ∨ ∃ snapshot,
        (J.putSnapshot req).2.snapshots (Store.snapshotKeyOf req) = some snapshot ∧
          snapshot.ref.checksum = req.checksum
      unfold Journal.putSnapshot
      rcases Store.checkSnapshotKey req.streamID req.payloadType with err | ⟨⟩
      · exact .inl ⟨err, rfl⟩
      · simp only
        split
        · rename_i existing hexisting
          obtain ⟨hput, hsum⟩ := Option.filter_eq_some_iff.mp hexisting
          exact .inr ⟨existing, hput, by simpa using hsum⟩
        · exact .inr ⟨Store.newSnapshot req, Function.update_self .., rfl⟩
  | waitForStream | giveUp => exact hc.elim
  | deleteStream id =>
      change ((J.deleteStream id).2.deleteStream id).2 = (J.deleteStream id).2
      unfold Journal.deleteStream
      split_ifs
      · rfl
      · simp only [Function.update_idem]
        congr 1
        · funext key
          split_ifs <;> rfl
        · funext key
          split_ifs <;> rfl
  | resetCursor subscriberID id seq metadata =>
      change ((J.resetCursor subscriberID id seq metadata).2.resetCursor subscriberID id seq
        metadata).2 = (J.resetCursor subscriberID id seq metadata).2
      unfold Journal.resetCursor
      split_ifs
      · rfl
      · simp only [Journal.setCursor, Function.update_idem]
  | compactStream id =>
      change ((J.compact id).2.compact id).2 = (J.compact id).2
      have hseqs : ∀ n, (J.forget id n).cursorSeqs id = J.cursorSeqs id := fun _ => rfl
      unfold Journal.compact
      by_cases hid : id = ""
      · simp only [if_pos hid]
      by_cases hpos : 0 < sInf (J.cursorSeqs id)
      · simp only [if_neg hid, hseqs, if_pos hpos, Journal.forget_forget, max_self]
      · simp only [if_neg hid, if_neg hpos]
  | deleteSnapshot key =>
      change ((J.deleteSnapshot key).2.deleteSnapshot key).2 = (J.deleteSnapshot key).2
      unfold Journal.deleteSnapshot
      rcases Store.checkSnapshotKey key.streamID key.payloadType with err | ⟨⟩
      · rfl
      · simp only [Function.update_idem]
  | getHead | read | getCursor | listStreams | listCursors | getStreamStats | getLatestSnapshot
  | getSnapshot | listSnapshots => exact rfl

/-! ## Tolerated calls -/

/-- A cursor moves up unless it is put or dropped. -/
theorem journal_cursor_le {γ : Type} {d : StoreMethod γ} {subscriberID : SubscriberID}
    {id : StreamID} (hd : ¬ d.Rewinds ⟨subscriberID, id⟩) (J : Journal) :
    (J.cursorOf subscriberID id).cursor.seq ≤
      ((journal γ d J).2.cursorOf subscriberID id).cursor.seq := by
  by_cases hwrites : StorePart.cursor ⟨subscriberID, id⟩ ∈ d.writes
  · cases d with
    | ack req =>
        have hkey : (⟨subscriberID, id⟩ : CursorKey) = ⟨req.subscriberID, req.streamID⟩ := by
          simpa [StoreMethod.writes] using hwrites
        obtain ⟨rfl, rfl⟩ := CursorKey.mk.inj hkey
        change _ ≤ ((J.ack req).2.cursorOf req.subscriberID req.streamID).cursor.seq
        unfold Journal.ack
        split_ifs
        · exact le_rfl
        · simp only
          split_ifs with hlt
          · unfold Journal.cursorOf at hlt ⊢
            simp only [Journal.cursors_setCursor, if_true, Option.getD_some]
            exact hlt.le
          · exact le_rfl
    | resetCursor =>
        have hkey := hwrites
        simp only [StoreMethod.writes, Set.mem_singleton_iff, StorePart.cursor.injEq] at hkey
        exact absurd hkey hd
    | deleteStream id' =>
        have hid : id = id' := by
          simpa [StoreMethod.writes, StorePart.cursorsOn, StorePart.snapshotsOf] using hwrites
        exact absurd hid.symm hd
    | _ => simp [StoreMethod.writes] at hwrites
  · have hframe : J.cursors ⟨subscriberID, id⟩ = (journal γ d J).2.cursors ⟨subscriberID, id⟩ :=
      journal_frame d J (.cursor _) hwrites
    rw [Journal.cursorOf_congr hframe]

/-- A log within its bound stays within it. -/
theorem journal_overflowing {γ : Type} {d : StoreMethod γ} {r : StreamRetention}
    (hd : StorePart.retention r.streamID ∉ d.writes) {J : Journal}
    (hretention : J.retention r.streamID = some r)
    (hwithin : Journal.overflowing (J.logOf r.streamID).retained r = 0) :
    Journal.overflowing ((journal γ d J).2.logOf r.streamID).retained r = 0 := by
  have hforget : ∀ n, Journal.overflowing ((J.forget r.streamID n).logOf r.streamID).retained r =
      0 := by
    intro n
    refine Journal.overflowing_mono ?_ hwithin
    unfold Journal.logOf
    rw [Journal.logs_forget, if_pos rfl]
    rcases J.logs r.streamID with _ | L
    · exact le_rfl
    · simp only [Option.map_some, Option.getD_some, TrimmedLog.length_retained,
        TrimmedLog.head_forgetTo, TrimmedLog.base_forgetTo]
      omega
  by_cases hwrites : StorePart.log r.streamID ∈ d.writes
  · cases d with
    | append now req =>
        have hid : r.streamID = req.streamID := by simpa [StoreMethod.writes] using hwrites
        change Journal.overflowing ((J.append now req).2.logOf r.streamID).retained r = 0
        by_cases hdone : req.streamID = "" ∨
            Journal.firstWith (J.logOf req.streamID) req.idempotencyKey ≠ none
        · rw [Journal.append_eq_self hdone]
          exact hwithin
        · rw [not_or, not_not] at hdone
          have hlogs := Journal.logs_append now hdone.1 hdone.2
          rw [← hid, hretention] at hlogs
          rw [Journal.logOf_eq hlogs]
          exact Journal.overflowing_keeping r now _
    | createStream id =>
        have hid : r.streamID = id := by simpa [StoreMethod.writes] using hwrites
        change Journal.overflowing ((J.createStream id).2.logOf r.streamID).retained r = 0
        unfold Journal.createStream
        split_ifs
        · exact hwithin
        · rw [← hid, Journal.logOf_eq (L := J.logOf r.streamID)]
          · exact hwithin
          · rw [Journal.logs_setLog, if_pos rfl]
    | truncateBefore id before =>
        have hid : r.streamID = id := by simpa [StoreMethod.writes] using hwrites
        change Journal.overflowing ((J.truncateBefore id before).2.logOf r.streamID).retained r = 0
        unfold Journal.truncateBefore
        split_ifs
        · exact hwithin
        · rw [← hid]
          exact hforget _
    | compactStream id =>
        have hid : r.streamID = id := by simpa [StoreMethod.writes] using hwrites
        change Journal.overflowing ((J.compact id).2.logOf r.streamID).retained r = 0
        unfold Journal.compact
        split_ifs
        · exact hwithin
        · rw [← hid]
          exact hforget _
        · exact hwithin
    | deleteStream id =>
        exact absurd (by simpa [StoreMethod.writes, StorePart.cursorsOn, StorePart.snapshotsOf]
          using hwrites) hd
    | setStreamRetention now r' =>
        exact absurd (by simpa [StoreMethod.writes] using hwrites) hd
    | _ => simp [StoreMethod.writes] at hwrites
  · have hframe : J.logs r.streamID = (journal γ d J).2.logs r.streamID :=
      journal_frame d J (.log _) hwrites
    rw [← Journal.logOf_congr hframe]
    exact hwithin

/-- A snapshot stays under its key unless it is replaced. -/
theorem journal_snapshot {γ : Type} {d : StoreMethod γ} {req : PutSnapshotRequest}
    (hd : ¬ d.Replaces req) {J : Journal} {snapshot : Snapshot}
    (hsnapshot : J.snapshots (Store.snapshotKeyOf req) = some snapshot)
    (hsum : snapshot.ref.checksum = req.checksum) :
    (journal γ d J).2.snapshots (Store.snapshotKeyOf req) = some snapshot := by
  by_cases hwrites : StorePart.snapshot (Store.snapshotKeyOf req) ∈ d.writes
  · cases d with
    | putSnapshot req' =>
        have hkey : Store.snapshotKeyOf req = Store.snapshotKeyOf req' := by
          simpa [StoreMethod.writes] using hwrites
        have hsum' : req'.checksum = req.checksum := by
          by_contra hne
          exact hd ⟨hkey.symm, hne⟩
        change (J.putSnapshot req').2.snapshots _ = _
        unfold Journal.putSnapshot
        rcases Store.checkSnapshotKey req'.streamID req'.payloadType with err | ⟨⟩
        · exact hsnapshot
        · simp only [← hkey, hsnapshot, Option.filter, hsum, hsum', decide_true, if_true]
    | deleteSnapshot key =>
        have hkey : Store.snapshotKeyOf req = key := by simpa [StoreMethod.writes] using hwrites
        exact absurd hkey.symm hd
    | deleteStream id =>
        have hid : req.streamID = id := by
          simpa [StoreMethod.writes, StorePart.cursorsOn, StorePart.snapshotsOf,
            Store.snapshotKeyOf] using hwrites
        exact absurd hid.symm hd
    | _ => simp [StoreMethod.writes] at hwrites
  · have hframe : J.snapshots (Store.snapshotKeyOf req) =
        (journal γ d J).2.snapshots (Store.snapshotKeyOf req) :=
      journal_frame d J (.snapshot _) hwrites
    exact hframe ▸ hsnapshot

/-- After a tolerated call there is still nothing left to do. -/
theorem done_step {β γ : Type} {c : StoreMethod β} {d : StoreMethod γ} {J : Journal}
    (hdone : c.Done J) (hd : c.Tolerates γ d) : c.Done (journal γ d J).2 := by
  have hdefault : Disjoint d.writes c.reads → (journal β c J).2 = J →
      (journal β c (journal γ d J).2).2 = (journal γ d J).2 := by
    intro hdisjoint hsame
    have hlike : ∀ x, footprints.like x J (journal β c J).2 := by
      intro x
      rw [hsame]
      exact x.like_equivalence.refl J
    exact (Journal.ext_like (journal_local.nothing_left (c := .inl c) (d := .inl d)
      c.writes_subset_reads hdisjoint hlike)).symm
  cases c with
  | append now req =>
      refine hdone.imp_right fun hfound => ?_
      rcases hL : J.logs req.streamID with _ | L
      · rw [Journal.logOf_eq_empty hL] at hfound
        unfold Journal.firstWith TrimmedLog.empty at hfound
        simp at hfound
      · obtain ⟨L', hL', hextends⟩ := journal_extends hd hL
        rw [Journal.logOf_eq hL] at hfound
        rw [Journal.logOf_eq hL']
        exact Journal.firstWith_ne_none hextends hfound
  | ack req => exact hdone.imp_right fun hseq => hseq.trans (journal_cursor_le hd J)
  | createStream id =>
      refine hdone.imp_right fun ⟨L, hL⟩ => ?_
      obtain ⟨L', hL', -⟩ := journal_extends hd hL
      exact ⟨L', hL'⟩
  | truncateBefore id before =>
      refine hdone.imp_right fun hbase => ?_
      rcases hL : J.logs id with _ | L
      · rw [Journal.logOf_eq_empty hL] at hbase
        exact hbase.trans (Nat.zero_le _)
      · obtain ⟨L', hL', hextends⟩ := journal_extends hd hL
        rw [Journal.logOf_eq hL] at hbase
        rw [Journal.logOf_eq hL']
        exact hbase.trans hextends.2
  | setStreamRetention now r =>
      refine hdone.imp_right fun ⟨hretention, hwithin⟩ => ⟨?_, ?_⟩
      · have hframe : J.retention r.streamID = (journal γ d J).2.retention r.streamID :=
          journal_frame d J (.retention _) hd
        exact hframe ▸ hretention
      · exact journal_overflowing hd hretention hwithin
  | putSnapshot req =>
      refine hdone.imp_right fun ⟨snapshot, hsnapshot, hsum⟩ => ?_
      exact ⟨snapshot, journal_snapshot hd hsnapshot hsum, hsum⟩
  | waitForStream | giveUp | deleteStream | resetCursor | compactStream | deleteSnapshot | getHead
  | read | getCursor | listStreams | listCursors | getStreamStats | getLatestSnapshot | getSnapshot
  | listSnapshots => exact hdefault hd hdone

/-- After a tolerated section there is still nothing left to do. -/
theorem done_section {β γ : Type} {c : StoreMethod β} {d : StoreSection γ} {J : Journal}
    (hdone : c.Done J) (hd : c.ToleratesSection γ d) : c.Done (journalSections γ d J).2 := by
  rcases d with d | ⟨id⟩ | ⟨id, before⟩
  · exact done_step hdone hd
  · exact hdone
  · exact done_step (d := .truncateBefore id before) hdone hd

/-- **Retries.** A repeatable call is made on a reachable store, and then any number of clients make
calls that it tolerates, in any order. When the call is made again, at whatever time, no client can
tell that it was. -/
theorem retry_unnoticed {ι α β : Type} [DecidableEq ι] {s : Store} (hs : Reachable s)
    {c : StoreMethod β} (hc : c.Repeatable fun id => (s.ensureStream id).head)
    {p : ι → Prog StoreSection α} (hp : ∀ i, (p i).Only c.ToleratesSection)
    {ls : List (PoolLabel ι Unit)} {P : Pool StoreSection Store α ι}
    (hrun : (Pool.machine (fun _ => sections) p).run ls { shared := (methods β c s).2 } = some P)
    (now : Int) : Indistinguishable (methods β (c.atTime now) P.shared).2 P.shared := by
  obtain ⟨J, hJ⟩ := hs.standsFor
  have hheads : (fun id => (s.ensureStream id).head) = fun id => (J.logOf id).head :=
    funext fun id => (hJ.stream id).head
  rw [hheads] at hc
  obtain ⟨-, hs', hJ'⟩ := methods_journal c ⟨hs, hJ⟩
  have hstep : ∀ (_ : Unit) (γ : Type) (d : StoreSection γ) s, c.ToleratesSection γ d →
      (∃ J, Reachable s ∧ StandsFor s J ∧ c.Done J) →
        ∃ J, Reachable (sections γ d s).2 ∧ StandsFor (sections γ d s).2 J ∧ c.Done J := by
    rintro _ γ d s hd ⟨J, hs, hJ, hdone⟩
    obtain ⟨-, hs', hJ'⟩ := sections_journal d ⟨hs, hJ⟩
    exact ⟨_, hs', hJ', done_section hdone hd⟩
  obtain ⟨K, hsK, hK, hdone⟩ :=
    Pool.shared_invariant hp (I := fun s => ∃ J, Reachable s ∧ StandsFor s J ∧ c.Done J) hstep
      ⟨_, hs', hJ', done_journal hc⟩ hrun
  obtain ⟨-, hs'', hJ''⟩ := methods_journal (c.atTime now) ⟨hsK, hK⟩
  rw [journal_of_done hc hdone now] at hJ''
  exact hJ''.indistinguishable hs'' hsK hK

/-- An append under a key. -/
def keyed : AppendRequest := { streamID := "s", idempotencyKey := "k" }

/-- A client bounds the stream to one event, and appends another one. -/
def bounds : Prog StoreSection Unit :=
  .call (.inl (.setStreamRetention 0 { streamID := "s", maxEvents := 1 })) fun _ =>
    .call (.inl (.append 0 { streamID := "s" })) fun _ => .ret ()

/-- The keyed event is forgotten by the time its append is made again. -/
theorem retry_unnoticed_bounds :
    ∃ P, (Pool.machine (fun _ => sections) fun _ : Unit => bounds).run
        [.start (), .advance () (), .advance () ()]
        { shared := (methods _ (.append 0 keyed) newStore).2 } = some P ∧
      P.answer () = some () ∧
      Indistinguishable (methods _ (.append 5 keyed) P.shared).2 P.shared := by
  have hrun : (Pool.machine (fun _ => sections) fun _ : Unit => bounds).run
      [.start (), .advance () (), .advance () ()]
      { shared := (methods _ (.append 0 keyed) newStore).2 } = some _ := rfl
  refine ⟨_, hrun, rfl, ?_⟩
  refine retry_unnoticed (c := .append 0 keyed) ⟨[], rfl⟩ ?_ ?_ hrun 5
  · change "k" ≠ ""
    decide
  · exact fun _ => ⟨trivial, fun _ => ⟨trivial, fun _ => trivial⟩⟩

/-! ## Idle calls -/

/-- The answer says that the call has done nothing: an error, a duplicate, nothing to remove, or no
need to wait. -/
def StoreMethod.Idle : {β : Type} → StoreMethod β → β → Prop
  | _, .append .., r => (∃ err, r = .error err) ∨ ∃ event, r = .ok { event, deduplicated := true }
  | _, .waitForStream .., r => (∃ err, r = .error err) ∨ r = .ok false
  | _, .giveUp .., _ => False
  | _, .ack _, r => ∃ err, r = .error err
  | _, .createStream _, r => ∃ err, r = .error err
  | _, .deleteStream _, r => ∃ err, r = .error err
  | _, .resetCursor .., r => ∃ err, r = .error err
  | _, .truncateBefore .., r => (∃ err, r = .error err) ∨ r = .ok 0
  | _, .compactStream _, r => ∃ err, r = .error err
  | _, .setStreamRetention .., r => ∃ err, r = .error err
  | _, .putSnapshot _, r => (∃ err, r = .error err) ∨ ∃ ref, r = .ok (ref, true)
  | _, .deleteSnapshot _, r => (∃ err, r = .error err) ∨ r = .ok false
  | _, _, _ => True

/-- A call with such an answer leaves the journal as it is. -/
theorem journal_of_idle {β : Type} {c : StoreMethod β} {J : Journal}
    (h : c.Idle (journal β c J).1) : (journal β c J).2 = J := by
  cases c with
  | append now req =>
      refine Journal.append_eq_self ?_
      by_contra hdone
      rw [not_or, not_not] at hdone
      change (∃ err, (J.append now req).1 = .error err) ∨
        ∃ event, (J.append now req).1 = .ok { event, deduplicated := true } at h
      unfold Journal.append at h
      simp only [if_neg hdone.1, hdone.2] at h
      rcases h with ⟨err, herr⟩ | ⟨event, hevent⟩
      · cases herr
      · cases hevent
  | waitForStream id after =>
      change (∃ err, (J.waitForStream id after).1 = .error err) ∨
        (J.waitForStream id after).1 = .ok false at h
      change (J.waitForStream id after).2 = J
      unfold Journal.waitForStream at h ⊢
      split_ifs at h ⊢
      · rfl
      · rfl
      · rcases h with ⟨err, herr⟩ | hfalse
        · cases herr
        · cases hfalse
  | giveUp => exact h.elim
  | ack req =>
      obtain ⟨err, herr⟩ : ∃ err, (J.ack req).1 = .error err := h
      change (J.ack req).2 = J
      unfold Journal.ack at herr ⊢
      split_ifs at herr ⊢
      · rfl
      · simp only at herr ⊢
        split_ifs at herr
  | createStream id =>
      obtain ⟨err, herr⟩ : ∃ err, (J.createStream id).1 = .error err := h
      change (J.createStream id).2 = J
      unfold Journal.createStream at herr ⊢
      split_ifs at herr ⊢
      rfl
  | deleteStream id =>
      obtain ⟨err, herr⟩ : ∃ err, (J.deleteStream id).1 = .error err := h
      change (J.deleteStream id).2 = J
      unfold Journal.deleteStream at herr ⊢
      split_ifs at herr ⊢
      rfl
  | resetCursor subscriberID id seq metadata =>
      obtain ⟨err, herr⟩ : ∃ err, (J.resetCursor subscriberID id seq metadata).1 = .error err := h
      change (J.resetCursor subscriberID id seq metadata).2 = J
      unfold Journal.resetCursor at herr ⊢
      split_ifs at herr ⊢
      rfl
  | truncateBefore id before =>
      change (∃ err, (J.truncateBefore id before).1 = .error err) ∨
        (J.truncateBefore id before).1 = .ok 0 at h
      change (J.truncateBefore id before).2 = J
      unfold Journal.truncateBefore at h ⊢
      split_ifs at h ⊢
      · rfl
      · rcases h with ⟨err, herr⟩ | hzero
        · cases herr
        · exact Journal.forget_of_base (Except.ok.inj hzero)
  | compactStream id =>
      obtain ⟨err, herr⟩ : ∃ err, (J.compact id).1 = .error err := h
      change (J.compact id).2 = J
      unfold Journal.compact at herr ⊢
      split_ifs at herr ⊢
      rfl
  | setStreamRetention now r =>
      obtain ⟨err, herr⟩ : ∃ err, (J.setStreamRetention now r).1 = .error err := h
      change (J.setStreamRetention now r).2 = J
      unfold Journal.setStreamRetention at herr ⊢
      split_ifs at herr ⊢
      rfl
  | putSnapshot req =>
      change (∃ err, (J.putSnapshot req).1 = .error err) ∨
        ∃ ref, (J.putSnapshot req).1 = .ok (ref, true) at h
      change (J.putSnapshot req).2 = J
      unfold Journal.putSnapshot at h ⊢
      rcases hcheck : Store.checkSnapshotKey req.streamID req.payloadType with err | ⟨⟩
      · rfl
      · simp only [hcheck] at h ⊢
        generalize Option.filter _ (J.snapshots (Store.snapshotKeyOf req)) = o at h ⊢
        rcases o with _ | existing
        · rcases h with ⟨err, herr⟩ | ⟨ref, href⟩
          · cases herr
          · cases href
        · rfl
  | deleteSnapshot key =>
      change (∃ err, (J.deleteSnapshot key).1 = .error err) ∨
        (J.deleteSnapshot key).1 = .ok false at h
      change (J.deleteSnapshot key).2 = J
      unfold Journal.deleteSnapshot at h ⊢
      rcases hcheck : Store.checkSnapshotKey key.streamID key.payloadType with err | ⟨⟩
      · rfl
      · simp only [hcheck] at h
        rcases h with ⟨err, herr⟩ | hfalse
        · cases herr
        · have hnone : J.snapshots key = none := by simpa using Except.ok.inj hfalse
          simp only [← hnone, Function.update_eq_self]
  | getHead | read | getCursor | listStreams | listCursors | getStreamStats | getLatestSnapshot
  | getSnapshot | listSnapshots => rfl

/-- The call finds nothing to do in the store, though its answer does not say so: the cursor has
reached the seq, the stream exists, or no retained event lies at or below the smallest cursor. -/
def StoreMethod.Needless (s : Store) : {β : Type} → StoreMethod β → Prop
  | _, .ack req => req.seq ≤ s.committed req.subscriberID req.streamID
  | _, .createStream id => ∃ st, s.streams.lookup id = some st
  | _, .compactStream id => ∀ minSeq, s.minCursor id = some minSeq →
      ∀ event ∈ (s.ensureStream id).events, minSeq < event.seq
  | _, _ => False

/-- A compaction that finds nothing to delete leaves the journal as it is. -/
theorem compact_of_needless {s : Store} {J : Journal} (hJ : StandsFor s J) {id : StreamID}
    (h : (StoreMethod.compactStream id).Needless s) : (J.compact id).2 = J := by
  unfold Journal.compact
  split_ifs with hid hpos
  · rfl
  · refine Journal.forget_of_base ?_
    rw [hJ.sInf_cursorSeqs] at hpos ⊢
    rcases hmin : s.minCursor id with _ | minSeq
    · rw [hmin] at hpos
      exact absurd hpos (lt_irrefl 0)
    have hbound : Store.compactBound minSeq - 1 ≤ minSeq := by
      have hmod : (minSeq + 1) % 2 ^ 64 ≤ minSeq + 1 := Nat.mod_le _ _
      unfold Store.compactBound
      omega
    have hstream := (hJ.stream id).toRepresents
    have hlength := hstream.length_events
    rw [Option.getD_some, TrimmedLog.base_forgetTo]
    rcases hevents : (s.ensureStream id).events with _ | ⟨event, events⟩
    · -- nothing is retained: the log ends where it begins
      rw [hevents, List.length_nil] at hlength
      omega
    · have hfirst : event.seq = (J.logOf id).base + 1 := by
        have hnumbered := hstream.numbered_retained
        rw [hevents] at hnumbered
        exact hnumbered.1
      have habove := h minSeq hmin event (by rw [hevents]; exact List.mem_cons_self)
      omega
  · rfl

/-- A call that finds nothing to do leaves the journal as it is. -/
theorem journal_of_needless {β : Type} {c : StoreMethod β} {s : Store} {J : Journal}
    (hJ : StandsFor s J) (h : c.Needless s) : (journal β c J).2 = J := by
  cases c with
  | ack req =>
      have hrepeatable : (StoreMethod.ack req).Repeatable fun _ => 0 := trivial
      refine journal_of_done hrepeatable (.inr ?_) 0
      have hseq : req.seq ≤ (s.cursorOf req.subscriberID req.streamID).cursor.seq := h
      rwa [hJ.cursorOf] at hseq
  | createStream id =>
      obtain ⟨st, hst⟩ := h
      obtain ⟨L, hL⟩ : ∃ L, J.logs id = some L := by
        have hlog := hJ.logs id
        rw [hst] at hlog
        cases hlogs : J.logs id with
        | none =>
            rw [hlogs] at hlog
            cases hlog
        | some L => exact ⟨L, rfl⟩
      have hrepeatable : (StoreMethod.createStream id).Repeatable fun _ => 0 := trivial
      exact journal_of_done hrepeatable (.inr ⟨L, hL⟩) 0
  | compactStream id => exact compact_of_needless hJ h
  | append | waitForStream | giveUp | deleteStream | resetCursor | truncateBefore
  | setStreamRetention | putSnapshot | deleteSnapshot | getHead | read | getCursor | listStreams
  | listCursors | getStreamStats | getLatestSnapshot | getSnapshot | listSnapshots => exact h.elim

/-- **Idle calls leave no trace.** After a call whose answer says that nothing was done, or that
found nothing to do, no client can tell that it was made. -/
theorem idle_unnoticed {β : Type} {s : Store} (hs : Reachable s) {c : StoreMethod β}
    (hidle : c.Idle (methods β c s).1 ∨ c.Needless s) :
    Indistinguishable (methods β c s).2 s := by
  obtain ⟨J, hJ⟩ := hs.standsFor
  obtain ⟨hanswer, hs', hJ'⟩ := methods_journal c ⟨hs, hJ⟩
  have hsame : (journal β c J).2 = J := by
    rcases hidle with hidle | hneedless
    · rw [hanswer] at hidle
      exact journal_of_idle hidle
    · exact journal_of_needless hJ hneedless
  rw [hsame] at hJ'
  exact hJ'.indistinguishable hs' hs hJ

/-- The event of the key was trimmed, and the append fails; and an event is left that no one has
acknowledged, so that a compaction deletes nothing. -/
theorem idle_unnoticed_keyed :
    Indistinguishable
      (methods _ (.append 5 keyed) (bounds.run sections (newStore.append 0 keyed).2).2).2
      (bounds.run sections (newStore.append 0 keyed).2).2 ∧
    Indistinguishable
      (methods _ (.compactStream "s")
        (runOps [.append 0 keyed, .append 0 { streamID := "s" }, .ack ⟨"device", "s", 1, ""⟩,
          .compactStream "s"] newStore)).2
      (runOps [.append 0 keyed, .append 0 { streamID := "s" }, .ack ⟨"device", "s", 1, ""⟩,
        .compactStream "s"] newStore) := by
  constructor
  · refine idle_unnoticed ⟨[.append 0 keyed,
      .setStreamRetention 0 { streamID := "s", maxEvents := 1 }, .append 0 { streamID := "s" }],
      rfl⟩ (.inl (.inl ⟨?_, ?_⟩))
    · exact { errTooLong with message := errTooLong.message ++ ": idempotent event was compacted" }
    · rfl
  · refine idle_unnoticed ⟨_, rfl⟩ (.inr ?_)
    rintro minSeq hmin
    obtain rfl : 1 = minSeq := Option.some.inj hmin
    decide

/-! ## Truncations -/

/-- Truncations of a stream one after the other, with their answers. -/
def truncations (id : StreamID) : List Nat → Prog StoreSection (List (Except GoError Nat))
  | [] => .ret []
  | before :: rest =>
    .call (.inl (.truncateBefore id before)) fun deleted =>
      truncations id rest >>= fun answers => .ret (deleted :: answers)

/-- A truncation answers by how much the base has moved. -/
theorem Journal.truncateBefore_eq {J : Journal} {id : StreamID} (hid : id ≠ "") {before : Nat} :
    J.truncateBefore id before =
      (.ok (((J.logOf id).forgetTo (before - 1)).base - (J.logOf id).base),
        J.forget id (before - 1)) := by
  unfold truncateBefore
  rw [if_neg hid]

/-- What the truncations answer, and what they leave. -/
theorem run_truncations {id : StreamID} (hid : id ≠ "") (bounds : List Nat) (J : Journal) :
    ∃ counts : List Nat, ((truncations id bounds).run journalSections J).1 = counts.map .ok ∧
      counts.sum = ((J.logOf id).forgetTo (bounds.foldr max 0 - 1)).base - (J.logOf id).base ∧
      ((truncations id bounds).run journalSections J).2 = J.forget id (bounds.foldr max 0 - 1) := by
  induction bounds generalizing J with
  | nil =>
      have hsame : J.forget id 0 = J := Journal.forget_eq_self (Nat.zero_le _)
      refine ⟨[], rfl, ?_, hsame.symm⟩
      rw [TrimmedLog.base_forgetTo]
      change 0 = max _ (min 0 _) - _
      omega
  | cons before rest ih =>
      obtain ⟨counts, hanswers, hsum, hafter⟩ := ih (J.forget id (before - 1))
      have hbound : max (before - 1) (rest.foldr max 0 - 1) = (before :: rest).foldr max 0 - 1 := by
        rw [List.foldr_cons]
        omega
      have hrun : (truncations id (before :: rest)).run journalSections J =
          (.ok (((J.logOf id).forgetTo (before - 1)).base - (J.logOf id).base) ::
            ((truncations id rest).run journalSections (J.forget id (before - 1))).1,
            ((truncations id rest).run journalSections (J.forget id (before - 1))).2) := by
        change Prog.run journalSections (truncations id rest >>= _)
          (J.truncateBefore id before).2 = _
        rw [Prog.run_bind]
        change ((J.truncateBefore id before).1 :: _, _) = _
        rw [Journal.truncateBefore_eq hid]
      refine ⟨(((J.logOf id).forgetTo (before - 1)).base - (J.logOf id).base) :: counts, ?_, ?_, ?_⟩
      · rw [hrun, hanswers, List.map_cons]
      · rw [List.sum_cons, hsum, Journal.logOf_forget, TrimmedLog.forgetTo_forgetTo, hbound]
        rw [← hbound]
        simp only [TrimmedLog.base_forgetTo]
        omega
      · rw [hrun, hafter, Journal.forget_forget, hbound]

/-- **Truncations join.** Truncations of a stream, in any order and however often each is made,
delete as many events as the one with the greatest bound, and no client can tell the difference. -/
theorem truncations_join {s : Store} (hs : Reachable s) {id : StreamID} (hid : id ≠ "")
    (bounds : List Nat) :
    ∃ counts : List Nat, ((truncations id bounds).run sections s).1 = counts.map .ok ∧
      (s.truncateBefore id (bounds.foldr max 0)).1 = .ok counts.sum ∧
      Indistinguishable ((truncations id bounds).run sections s).2
        (s.truncateBefore id (bounds.foldr max 0)).2 := by
  obtain ⟨J, hJ⟩ := hs.standsFor
  obtain ⟨counts, hanswers, hsum, hafter⟩ := run_truncations hid bounds J
  obtain ⟨hsame, hs', hJ'⟩ := run_journal (truncations id bounds) ⟨hs, hJ⟩
  obtain ⟨hone, hs'', hJ''⟩ := methods_journal (.truncateBefore id (bounds.foldr max 0)) ⟨hs, hJ⟩
  change (s.truncateBefore id (bounds.foldr max 0)).1 =
    (J.truncateBefore id (bounds.foldr max 0)).1 at hone
  have hanswer : J.truncateBefore id (bounds.foldr max 0) =
      (.ok counts.sum, J.forget id (bounds.foldr max 0 - 1)) := by
    rw [Journal.truncateBefore_eq hid, hsum]
  refine ⟨counts, hsame.trans hanswers, hone.trans (congrArg Prod.fst hanswer), ?_⟩
  rw [hafter] at hJ'
  have hJ'' : StandsFor (s.truncateBefore id (bounds.foldr max 0)).2 _ := hJ''
  rw [show (journal _ (.truncateBefore id (bounds.foldr max 0)) J).2 =
    J.forget id (bounds.foldr max 0 - 1) from congrArg Prod.snd hanswer] at hJ''
  exact hJ'.indistinguishable hs' hs'' hJ''

/-- Three truncations, the greatest one first. -/
theorem truncations_join_three :
    ((truncations "s" [3, 2, 3]).run sections
        (runOps [.append 0 { streamID := "s" }, .append 0 { streamID := "s" }] newStore)).1 =
      [.ok 2, .ok 0, .ok 0] ∧
    Indistinguishable
      ((truncations "s" [3, 2, 3]).run sections
        (runOps [.append 0 { streamID := "s" }, .append 0 { streamID := "s" }] newStore)).2
      ((runOps [.append 0 { streamID := "s" }, .append 0 { streamID := "s" }]
        newStore).truncateBefore "s" 3).2 := by
  obtain ⟨counts, hanswers, hcount, hsame⟩ := truncations_join
    (s := runOps [.append 0 { streamID := "s" }, .append 0 { streamID := "s" }] newStore)
    ⟨_, rfl⟩ (by decide : "s" ≠ "") [3, 2, 3]
  exact ⟨rfl, hsame⟩

end Synclog.Memory
