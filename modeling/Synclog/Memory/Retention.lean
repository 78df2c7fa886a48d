import Mathlib.Data.List.TakeWhile
import Synclog.Memory.Deletion

/-!
# Retention

`applyRetentionLocked` removes leading events by two rules at once: those older than the time to
live, and as many as exceed the bound on the number of events.

* `StreamState.events_applyRetention` — what is left: the larger of the two counts is dropped.
* `Store.EventBound` — no stream is longer than its stored bound; `event_bound`: in every reachable
  store, and the newest event outlives the append that made it.
* `StreamState.exactCount` — how many events the two rules remove in exact integer arithmetic;
  `removes_exactly_iff`: that is what the code removes, unless the cutoff overflows and lies behind
  more leading events than the bound removes.
-/

namespace Synclog.Memory

open Synclog.Lib Synclog.Core

/-! ## How many events are removed -/

namespace StreamState

variable (st : StreamState) (retention : StreamRetention) (now : Int)

/-- How many events exceed the bound on their number. -/
def overflowing : Nat :=
  if retention.maxEvents > 0 then st.events.length - retention.maxEvents.toNat else 0

/-- No more events are expired than are stored. -/
theorem expired_le : st.expired retention now ≤ st.events.length := by
  unfold expired
  split_ifs
  · exact (List.takeWhile_prefix _).length_le
  · exact Nat.zero_le _

/-- No more events are too many than are stored. -/
theorem overflowing_le : st.overflowing retention ≤ st.events.length := by
  unfold overflowing
  split_ifs
  · exact Nat.sub_le ..
  · exact Nat.zero_le _

/-- What is removed is the greater of the two numbers. -/
theorem removeCount_eq :
    st.removeCount retention now =
      (max (st.expired retention now) (st.overflowing retention) : Nat) := by
  unfold removeCount overflowing
  simp only
  split_ifs <;> omega

/-- Retention drops as many events as the one rule or the other removes, whichever is more. -/
theorem events_applyRetention :
    (st.applyRetention retention now).events =
      st.events.drop (max (st.expired retention now) (st.overflowing retention)) := by
  have hexpired := st.expired_le retention now
  have hoverflowing := st.overflowing_le retention
  unfold applyRetention
  simp only [removeCount_eq]
  split_ifs with hempty hnone hall
  · rw [List.length_eq_zero_iff.mp hempty, List.drop_nil]
  · have hzero : max (st.expired retention now) (st.overflowing retention) = 0 := by omega
    rw [hzero, List.drop_zero]
  · omega
  · rw [Int.toNat_natCast]
    rfl

/-- With a bound, no more events than it says are left. -/
theorem length_applyRetention_le (h : 0 < retention.maxEvents) :
    ((st.applyRetention retention now).events.length : Int) ≤ retention.maxEvents := by
  rw [events_applyRetention, List.length_drop]
  unfold overflowing
  rw [if_pos h]
  omega

/-- With a bound and no time to live, the newest event is left. -/
theorem getLast?_applyRetention (hmax : 0 < retention.maxEvents) (httl : retention.ttlDays ≤ 0) :
    (st.applyRetention retention now).events.getLast? = st.events.getLast? := by
  have hexpired : st.expired retention now = 0 := by
    unfold expired
    rw [if_neg (not_lt.mpr httl)]
  rw [events_applyRetention, hexpired, Nat.zero_max]
  by_cases hempty : st.events = []
  · rw [hempty, List.drop_nil]
  · have hpos : 0 < st.events.length := List.length_pos_iff.mpr hempty
    refine List.getLast?_drop.trans (if_neg ?_)
    unfold overflowing
    rw [if_pos hmax]
    omega

end StreamState

/-! ## The bound on the number of events -/

namespace Store

/-- The stream is no longer than the bound stored for it. -/
def Bounded (s : Store) (id : StreamID) : Prop :=
  ∀ st retention, s.streams.lookup id = some st → s.retention.lookup id = some retention →
    0 < retention.maxEvents → (st.events.length : Int) ≤ retention.maxEvents

/-- No stream is longer than the bound stored for it. -/
def EventBound (s : Store) : Prop := ∀ id, s.Bounded id

variable {s t : Store} {id : StreamID} {req : AppendRequest}

/-- Where a stream gets no longer and its stored retention stays, the bound stays. -/
theorem Bounded.mono (h : s.Bounded id) (hretention : t.retention.lookup id = s.retention.lookup id)
    (hstep : StreamStep [] (s.streams.lookup id) (t.streams.lookup id)) : t.Bounded id := by
  intro st' retention hst' hret hmax
  rw [hretention] at hret
  have hbefore : ∀ st, s.streams.lookup id = some st →
      (st.events.length : Int) ≤ retention.maxEvents :=
    fun st hst => h st retention hst hret hmax
  rw [hst'] at hstep
  generalize s.streams.lookup id = o at hstep hbefore
  cases hstep with
  | same => exact hbefore st' rfl
  | create =>
      show ((0 : Nat) : Int) ≤ retention.maxEvents
      omega
  | trim st htrim =>
      have hle : st'.events.length ≤ st.events.length := by
        rcases htrim with rfl | ⟨n, rfl⟩
        · exact le_rfl
        · exact (List.drop_sublist n st.events).length_le
      have hst := hbefore st rfl
      omega

/-- After retention was applied to a stream, it is within its bound. -/
theorem bounded_applyRetentionLocked (s : Store) (now : Int) (id : StreamID) :
    (s.applyRetentionLocked now id).Bounded id := by
  unfold applyRetentionLocked
  split
  · rename_i st retention hst hret
    intro st' retention' hst' hret' hmax
    rw [streams_setStream, FinMap.lookup_insert_eq_ite, if_pos rfl] at hst'
    obtain rfl := Option.some.inj hst'
    obtain rfl : retention = retention' := Option.some.inj (hret.symm.trans hret')
    exact st.length_applyRetention_le retention now hmax
  · rename_i hnone
    intro st retention hst hret
    exact absurd hret (hnone st retention hst)

/-- To wake the watchers of a stream changes nothing that the bound is about. -/
theorem Bounded.notifyStreamLocked (h : s.Bounded id) (streamID : StreamID) (head : Nat) :
    (s.notifyStreamLocked streamID head).Bounded id := by
  obtain ⟨watchers, closed, hs⟩ := s.notifyStreamLocked_kept streamID head
  rw [hs]
  exact h

/-- The bound only depends on the stream and its retention. -/
theorem Bounded.alike (h : s.Bounded id) (halike : AlikeOn {id} s t) : t.Bounded id := by
  intro st retention hst hret
  rw [← halike.streams id rfl] at hst
  rw [← halike.retention id rfl] at hret
  exact h st retention hst hret

/-! ### Which operations leave the stored retention alone -/

/-- Setting a stream leaves the retention alone. -/
@[simp] theorem setStream_retention (s : Store) (streamID : StreamID) (st : StreamState) :
    (s.setStream streamID st).retention = s.retention := rfl

/-- An acknowledgement leaves the retention alone. -/
@[simp] theorem ack_retention (s : Store) (req : AckRequest) :
    (s.ack req).2.retention = s.retention := by
  unfold ack
  simp only
  split_ifs <;> rfl

/-- A creation leaves the retention alone. -/
@[simp] theorem createStream_retention (s : Store) (streamID : StreamID) :
    (s.createStream streamID).2.retention = s.retention := by
  unfold createStream
  split_ifs <;> rfl

/-- A reset leaves the retention alone. -/
@[simp] theorem resetCursor_retention (s : Store) (subscriberID : SubscriberID)
    (streamID : StreamID) (seq : Nat) (metadata : String) :
    (s.resetCursor subscriberID streamID seq metadata).2.retention = s.retention := by
  unfold resetCursor
  split_ifs <;> rfl

/-- A truncation leaves the retention alone. -/
@[simp] theorem truncateBefore_retention (s : Store) (streamID : StreamID) (before : Nat) :
    (s.truncateBefore streamID before).2.retention = s.retention := by
  unfold truncateBefore
  split_ifs
  · rfl
  · split <;> rfl

/-- A compaction leaves the retention alone. -/
@[simp] theorem compactStream_retention (s : Store) (streamID : StreamID) :
    (s.compactStream streamID).2.retention = s.retention := by
  rcases s.compactStream_cases streamID with hsame | ⟨before, htrunc⟩
  · rw [hsame]
  · rw [htrunc, truncateBefore_retention]

/-- Putting a snapshot leaves the retention alone. -/
@[simp] theorem putSnapshot_retention (s : Store) (req : PutSnapshotRequest) :
    (s.putSnapshot req).2.retention = s.retention := by
  rcases s.putSnapshot_cases req with hsame | hput <;> simp [*]

/-- Deleting a snapshot leaves the retention alone. -/
@[simp] theorem deleteSnapshot_retention (s : Store) (key : SnapshotKey) :
    (s.deleteSnapshot key).2.retention = s.retention := by
  rcases s.deleteSnapshot_cases key with hsame | hdelete <;> simp [*]

/-- A watcher leaves the retention alone. -/
@[simp] theorem registerWatcher_retention (s : Store) (streamID : StreamID) (after : Nat) :
    (s.registerWatcher streamID after).2.retention = s.retention := by
  unfold registerWatcher
  split
  · split_ifs <;> rfl
  · rfl

/-! ### Every operation keeps the bound -/

/-- An append keeps the bound. -/
theorem Bounded.append (h : s.Bounded req.streamID) (now : Int) :
    (s.append now req).2.Bounded req.streamID := by
  by_cases hid : req.streamID = ""
  · unfold Store.append
    rw [if_pos hid]
    exact h
  · rcases s.key_cases req with hnew | ⟨seq, hkey, hfound⟩
    · rw [append_new hid hnew]
      exact (bounded_applyRetentionLocked _ now req.streamID).notifyStreamLocked _ _
    · rw [(append_found now hid hkey hfound).2]
      exact h.mono rfl (s.ensureStream_streams req.streamID req.streamID)

/-- A deleted stream is within every bound. -/
theorem Bounded.deleteStream (h : s.Bounded id) : (s.deleteStream id).2.Bounded id := by
  unfold Store.deleteStream
  split_ifs
  · exact h
  · intro st retention hst
    simp at hst

/-- The bound holds when it is set. -/
theorem Bounded.setStreamRetention {retention : StreamRetention} (h : s.Bounded retention.streamID)
    (now : Int) : (s.setStreamRetention now retention).2.Bounded retention.streamID := by
  unfold Store.setStreamRetention
  split_ifs
  · exact h
  · exact bounded_applyRetentionLocked _ now retention.streamID

/-- An operation keeps every stream within its bound: on another stream it is not seen. -/
theorem Bounded.apply (h : s.Bounded id) (op : Op) : (op.apply s).Bounded id := by
  by_cases hid : op.streamID = id
  case neg =>
    have hother : op.streamID ∉ ({id} : Set StreamID) := hid
    exact h.alike (AlikeOn.op_self op s hother)
  case pos =>
    subst hid
    cases op with
    | append now req => exact h.append now
    | deleteStream streamID => exact h.deleteStream
    | setStreamRetention now retention => exact h.setStreamRetention now
    | createStream streamID => exact h.mono (by simp [Op.apply]) (s.createStream_streams _ _)
    | truncateBefore streamID before =>
        exact h.mono (by simp [Op.apply]) (s.truncateBefore_streams _ before _)
    | compactStream streamID => exact h.mono (by simp [Op.apply]) (s.compactStream_streams _ _)
    | ack | resetCursor | putSnapshot | deleteSnapshot | registerWatcher | removeWatcher =>
        refine h.mono (by simp [Op.apply, removeWatcherLocked]) ?_
        simp only [Op.apply, ack_streams, resetCursor_streams, putSnapshot_streams,
          deleteSnapshot_streams, registerWatcher_streams, removeWatcherLocked_streams]
        exact .same _

end Store

/-- In every reachable store every stream is within the bound stored for it. -/
theorem Reachable.eventBound {s : Store} (hs : Reachable s) : s.EventBound := by
  refine hs.invariant (I := Store.EventBound) ?_ fun op s h id => (h id).apply op
  intro id st retention hst
  simp [newStore] at hst

/-- With a bound and no time to live, the event that `Append` adds is the newest one retained. -/
theorem Store.append_retains {s : Store} {now : Int} {req : AppendRequest}
    {retention : StreamRetention} {result : AppendResult}
    (hret : s.retention.lookup req.streamID = some retention) (hmax : 0 < retention.maxEvents)
    (httl : retention.ttlDays ≤ 0) (hok : (s.append now req).1 = .ok result)
    (hnew : result.deduplicated = false) :
    ∃ st, (s.append now req).2.streams.lookup req.streamID = some st ∧
      st.events.getLast? = some result.event := by
  have hid : req.streamID ≠ "" := by
    rintro hempty
    unfold Store.append at hok
    rw [if_pos hempty] at hok
    cases hok
  rcases s.key_cases req with hnone | ⟨seq, hkey, hfound⟩
  · rw [append_new hid hnone] at hok ⊢
    obtain rfl := Except.ok.inj hok
    refine ⟨((s.ensureStream req.streamID).push req).applyRetention retention now, ?_, ?_⟩
    · unfold applyRetentionLocked
      simp [hret]
    · rw [StreamState.getLast?_applyRetention _ _ _ hmax httl]
      simp [StreamState.push]
  · -- a duplicate is no new event
    have hnothing := (append_found now hid hkey hfound).1 req.streamID
    unfold Store.appended at hnothing
    rw [if_pos rfl, hok] at hnothing
    simp [hnew] at hnothing

/-- The event bound holds in every reachable store, and with a bound and no time to live every new
event is retained. -/
theorem event_bound {s : Store} (hs : Reachable s) :
    (∀ id st retention, s.streams.lookup id = some st → s.retention.lookup id = some retention →
      0 < retention.maxEvents → (st.events.length : Int) ≤ retention.maxEvents) ∧
    ∀ now req retention result, s.retention.lookup req.streamID = some retention →
      0 < retention.maxEvents → retention.ttlDays ≤ 0 → (s.append now req).1 = .ok result →
      result.deduplicated = false →
        ∃ st, (s.append now req).2.streams.lookup req.streamID = some st ∧
          st.events.getLast? = some result.event :=
  ⟨hs.eventBound, fun _ _ _ _ hret hmax httl hok hnew =>
    Store.append_retains hret hmax httl hok hnew⟩

/-- A bound of two events, set before the stream exists, and three events. -/
def keptTwo : Store :=
  runOps [.setStreamRetention 0 { streamID := "s", maxEvents := 2 }, .append 0 { streamID := "s" },
    .append 0 { streamID := "s" }, .append 0 { streamID := "s" }] newStore

/-- Two events are kept, and an append is never the one that goes. -/
theorem event_bound_keptTwo :
    Reachable keptTwo ∧
      (∀ st, keptTwo.streams.lookup "s" = some st → (st.events.length : Int) ≤ 2) ∧
        ∃ st, (keptTwo.append 0 { streamID := "s" }).2.streams.lookup "s" = some st ∧
          st.events.getLast? = some { streamID := "s", seq := 4 } := by
  have hs : Reachable keptTwo := ⟨_, rfl⟩
  obtain ⟨hbound, hretained⟩ := event_bound hs
  refine ⟨hs, fun st hst => hbound "s" st _ hst rfl (by decide), ?_⟩
  exact hretained 0 { streamID := "s" } _ { event := { streamID := "s", seq := 4 } } rfl (by decide)
    (by decide) rfl rfl

/-! ## What retention removes, in exact arithmetic -/

/-- The cutoff of the time to live, in milliseconds and in exact integer arithmetic. -/
def exactCutoffMS (now ttlDays : Int) : Int := now / 1000000 - ttlDays * 86400000

/-- How many leading events are older than the time to live, in exact integer arithmetic. -/
def StreamState.exactlyExpired (st : StreamState) (retention : StreamRetention) (now : Int) : Nat :=
  if retention.ttlDays > 0 then
    (st.events.takeWhile fun event => 0 < event.createdAtUnixMS &&
      event.createdAtUnixMS < exactCutoffMS now retention.ttlDays).length
  else 0

/-- How many leading events retention should remove. -/
def StreamState.exactCount (st : StreamState) (retention : StreamRetention) (now : Int) : Nat :=
  max (st.exactlyExpired retention now) (st.overflowing retention)

/-- Retention removes exactly the leading events that it should. -/
def RemovesExactly (s : Store) (now : Int) (id : StreamID) : Prop :=
  ∀ st retention, s.streams.lookup id = some st → s.retention.lookup id = some retention →
    ∃ st', (s.applyRetentionLocked now id).streams.lookup id = some st' ∧
      st'.events = st.events.drop (st.exactCount retention now)

/-- The moment of the cutoff, in nanoseconds, is a 64-bit integer. -/
def CutoffFits (now ttlDays : Int) : Prop := -2 ^ 63 ≤ now - ttlDays * 86400000000000

/-- The cutoff is a difference of nanoseconds that may wrap, cut to milliseconds. -/
theorem cutoffMS_eq (now ttlDays : Int) :
    StreamState.cutoffMS now ttlDays =
      (StreamState.wrap64 (now - ttlDays * 86400000000000)).tdiv 1000000 := by
  unfold StreamState.cutoffMS StreamState.wrap64
  rw [Int.add_bmod_bmod]
  congr 2
  omega

/-- Where the cutoff fits, the code's one lies behind the same creation times as the exact one. -/
theorem lt_cutoffMS_iff {now ttlDays created : Int} (hnow : 0 ≤ now) (hnow' : now < 2 ^ 63)
    (httl : 0 < ttlDays) (hfits : CutoffFits now ttlDays) (hcreated : 0 < created) :
    created < StreamState.cutoffMS now ttlDays ↔ created < exactCutoffMS now ttlDays := by
  unfold CutoffFits at hfits
  rw [cutoffMS_eq]
  unfold StreamState.wrap64 exactCutoffMS
  rw [Int.bmod_eq_of_le_mul_two (by omega) (by omega)]
  by_cases hneg : 0 ≤ now - ttlDays * 86400000000000
  · rw [Int.tdiv_eq_ediv_of_nonneg hneg]
    omega
  · -- both cutoffs are before 1970
    have hle : (now - ttlDays * 86400000000000).tdiv 1000000 ≤ 0 := by
      have hsign : Int.sign 1000000 = 1 := rfl
      rw [Int.tdiv_eq_ediv, hsign]
      split_ifs <;> omega
    omega

/-- Where it does not, the exact cutoff is before 1970. -/
theorem exactCutoffMS_nonpos {now ttlDays : Int} (hfits : ¬ CutoffFits now ttlDays) :
    exactCutoffMS now ttlDays ≤ 0 := by
  unfold CutoffFits at hfits
  unfold exactCutoffMS
  omega

namespace StreamState

variable (st : StreamState) (retention : StreamRetention) (now : Int)

/-- No more events are exactly expired than are stored. -/
theorem exactlyExpired_le : st.exactlyExpired retention now ≤ st.events.length := by
  unfold exactlyExpired
  split_ifs
  · exact (List.takeWhile_prefix _).length_le
  · exact Nat.zero_le _

/-- Where the times fit, exactly the expired events are found to be so. -/
theorem expired_eq {now : Int} (hnow : 0 ≤ now) (hnow' : now < 2 ^ 63)
    (hfits : CutoffFits now retention.ttlDays) :
    st.expired retention now = st.exactlyExpired retention now := by
  unfold expired exactlyExpired
  split_ifs with httl
  · congr 2
    funext event
    rw [← Bool.decide_and, ← Bool.decide_and]
    exact decide_eq_decide.mpr
      (and_congr_right fun hcreated => lt_cutoffMS_iff hnow hnow' httl hfits hcreated)
  · rfl

/-- Where the cutoff does not fit, nothing is exactly expired. -/
theorem exactlyExpired_eq_zero {now : Int} (hfits : ¬ CutoffFits now retention.ttlDays) :
    st.exactlyExpired retention now = 0 := by
  have hcutoff := exactCutoffMS_nonpos hfits
  unfold exactlyExpired
  split_ifs with httl
  · rw [List.length_eq_zero_iff, List.takeWhile_eq_nil_iff]
    intro hne
    simp only [Bool.and_eq_true, decide_eq_true_eq, not_and, not_lt]
    omega
  · rfl

end StreamState

/-- A leading piece is no longer than `n` when the list is not, or one of its first `n + 1` entries
is outside of it. -/
theorem length_takeWhile_le_iff {α : Type} {p : α → Bool} {xs : List α} {n : Nat} :
    (xs.takeWhile p).length ≤ n ↔ xs.length ≤ n ∨ ∃ x ∈ xs.take (n + 1), p x = false := by
  induction xs generalizing n with
  | nil => simp
  | cons x xs ih =>
      by_cases hx : p x = true
      · rw [List.takeWhile_cons_of_pos hx, List.take_succ_cons]
        cases n with
        | zero => simp [hx]
        | succ n => simp [ih, hx]
      · have hx' : p x = false := by simpa using hx
        simp [List.takeWhile_cons_of_neg hx, hx']

/-- Where the exact cutoff does not fit, the wrapped one may lie behind events: those that the bound
removes anyway, or more. -/
def NotPast (st : StreamState) (retention : StreamRetention) (now : Int) : Prop :=
  st.events = [] ∨ ∃ event ∈ st.events.take (st.overflowing retention + 1),
    ¬ (0 < event.createdAtUnixMS ∧
      event.createdAtUnixMS < StreamState.cutoffMS now retention.ttlDays)

/-- No more events are found expired than the bound removes anyway. -/
theorem notPast_iff {st : StreamState} {retention : StreamRetention} {now : Int}
    (httl : 0 < retention.ttlDays) :
    NotPast st retention now ↔ st.expired retention now ≤ st.overflowing retention := by
  have hlength : st.events.length ≤ st.overflowing retention ↔ st.events = [] := by
    rw [← List.length_eq_zero_iff]
    unfold StreamState.overflowing
    split_ifs <;> omega
  unfold NotPast StreamState.expired
  rw [if_pos httl, length_takeWhile_le_iff, hlength]
  refine or_congr_right (exists_congr fun event => and_congr_right fun _ => ?_)
  rw [← Bool.decide_and, decide_eq_false_iff_not]

/-- Retention removes exactly what it should, for every time to live, every bound, every stream and
every time between 1970 and 2262, if and only if the moment of the cutoff is a 64-bit number of
nanoseconds, or the wrapped cutoff does not lie behind all of the events that the bound removes and
the one after them. -/
theorem removes_exactly_iff {s : Store} {now : Int} {id : StreamID} {st : StreamState}
    {retention : StreamRetention} (hnow : 0 ≤ now) (hnow' : now < 2 ^ 63)
    (hst : s.streams.lookup id = some st) (hret : s.retention.lookup id = some retention) :
    RemovesExactly s now id ↔
      CutoffFits now retention.ttlDays ∨ NotPast st retention now := by
  have hremoves : RemovesExactly s now id ↔
      max (st.expired retention now) (st.overflowing retention) = st.exactCount retention now := by
    have hcode := st.events_applyRetention retention now
    have hafter : (s.applyRetentionLocked now id).streams.lookup id =
        some (st.applyRetention retention now) := by
      unfold Store.applyRetentionLocked
      simp [hst, hret]
    have hdrop : st.events.drop (max (st.expired retention now) (st.overflowing retention)) =
        st.events.drop (st.exactCount retention now) ↔
          max (st.expired retention now) (st.overflowing retention) =
            st.exactCount retention now := by
      refine ⟨fun heq => ?_, fun heq => by rw [heq]⟩
      have hlengths := congrArg List.length heq
      rw [List.length_drop, List.length_drop] at hlengths
      have hexpired := st.expired_le retention now
      have hexact := st.exactlyExpired_le retention now
      have hover := st.overflowing_le retention
      unfold StreamState.exactCount at hlengths ⊢
      omega
    rw [← hdrop, ← hcode]
    constructor
    · intro h
      obtain ⟨st', hst', hevents⟩ := h st retention hst hret
      obtain rfl := Option.some.inj (hafter.symm.trans hst')
      exact hevents
    · intro heq st' retention' hst' hret'
      obtain rfl := Option.some.inj (hst.symm.trans hst')
      obtain rfl := Option.some.inj (hret.symm.trans hret')
      exact ⟨_, hafter, heq⟩
  rw [hremoves]
  unfold StreamState.exactCount
  by_cases hfits : CutoffFits now retention.ttlDays
  · rw [st.expired_eq retention hnow hnow' hfits]
    exact iff_of_true rfl (.inl hfits)
  · have httl : 0 < retention.ttlDays := by
      unfold CutoffFits at hfits
      omega
    rw [st.exactlyExpired_eq_zero retention hfits, Nat.zero_max, or_iff_right hfits,
      notPast_iff httl]
    omega

/-- The clock in November 2023, and an event written then. -/
def november : Int := 1700000000000000000

/-- One event, written in November 2023. -/
def written : Store :=
  runOps [.append november { streamID := "s", createdAtUnixMS := 1700000000000 }] newStore

/-- A store whose next retention goes by a time to live of so many days. -/
def withTtl (days : Int) : Store :=
  { written with retention := written.retention.insert "s" { streamID := "s", ttlDays := days } }

/-- A time to live of 200000 days, set in November 2023, removes an event written then. -/
theorem long_ttl_removes :
    Reachable written ∧ ¬ RemovesExactly (withTtl 200000) november "s" ∧
      ((written.setStreamRetention november
        { streamID := "s", ttlDays := 200000 }).2.streams.lookup "s").map (·.events) = some [] := by
  refine ⟨⟨_, rfl⟩, ?_, by decide⟩
  intro h
  obtain ⟨st', hst', hevents⟩ := h _ _ rfl rfl
  have hafter : ((withTtl 200000).applyRetentionLocked november "s").streams.lookup "s" =
      some { head := 1, retainedSeqStart := 2 } := rfl
  rw [hafter] at hst'
  obtain rfl := Option.some.inj hst'
  exact absurd hevents (by decide)

/-- A time to live of one day keeps it, and the law says so. -/
theorem removes_exactly_iff_day : RemovesExactly (withTtl 1) november "s" :=
  (removes_exactly_iff (by decide) (by decide) rfl rfl).mpr (.inl (by unfold CutoffFits; decide))

end Synclog.Memory
