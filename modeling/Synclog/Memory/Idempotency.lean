import Synclog.Memory.History

/-!
# Idempotent appends

`Append` looks its idempotency key up in a map of the stream that is never trimmed, and then the
event in a list that is. Over every run that does not delete the stream, the map is exactly the
first recorded event of each key (`Indexed`), so a key is used once, a retry answers the event of
the first append while it is retained and fails afterwards (`idempotent_append`), and neither a
retry nor a failure leaves a trace (`Store.append_same`).
-/

namespace Synclog.Memory

open Synclog.Lib Synclog.Core
open Relation (ReflTransGen)

/-! ## What an append leaves alone -/

/-- Two stores hold the same: the streams are compared as maps, where an entry that is written back
makes no difference. -/
structure Store.Same (s t : Store) : Prop where
  streams : ∀ id, t.streams.lookup id = s.streams.lookup id
  cursors : t.cursors = s.cursors
  snapshots : t.snapshots = s.snapshots
  retention : t.retention = s.retention
  watchers : t.watchers = s.watchers
  closed : t.closed = s.closed
  made : t.made = s.made

namespace Store

/-- A store is the same as itself. -/
theorem Same.refl (s : Store) : s.Same s where
  streams _ := rfl
  cursors := rfl
  snapshots := rfl
  retention := rfl
  watchers := rfl
  closed := rfl
  made := rfl

/-- Writing back a stream that exists changes nothing. -/
theorem same_setStream {s : Store} {id : StreamID} {st : StreamState}
    (hst : s.streams.lookup id = some st) : s.Same (s.setStream id (s.ensureStream id)) where
  streams id' := by
    rw [streams_setStream, FinMap.lookup_insert_eq_ite, ensureStream_of_lookup hst]
    split_ifs with hid
    · rw [hid, hst]
    · rfl
  cursors := rfl
  snapshots := rfl
  retention := rfl
  watchers := rfl
  closed := rfl
  made := rfl

/-- What `Append` answers to a request with an idempotency key. -/
theorem append_answer (s : Store) (now : Int) {req : AppendRequest} (hid : req.streamID ≠ "")
    (hkey : req.idempotencyKey ≠ "") :
    (s.append now req).1 =
      match (s.ensureStream req.streamID).idempotency.lookup req.idempotencyKey with
      | none => .ok { event := (s.ensureStream req.streamID).nextEvent req }
      | some seq =>
        match (s.ensureStream req.streamID).eventBySeq seq with
        | none => .error { errTooLong with
            message := errTooLong.message ++ ": idempotent event was compacted" }
        | some event => .ok { event, deduplicated := true } := by
  unfold append
  rw [if_neg hid]
  simp only [if_pos hkey]
  cases (s.ensureStream req.streamID).idempotency.lookup req.idempotencyKey with
  | none => rfl
  | some seq =>
      simp only
      cases (s.ensureStream req.streamID).eventBySeq seq with
      | none => rfl
      | some event => rfl

/-- A stream in which a key is found exists. -/
theorem exists_of_key {s : Store} {id : StreamID} {key : String} {seq : Nat}
    (h : (s.ensureStream id).idempotency.lookup key = some seq) :
    ∃ st, s.streams.lookup id = some st := by
  unfold ensureStream at h
  cases hst : s.streams.lookup id with
  | none =>
      rw [hst] at h
      simp at h
  | some st => exact ⟨st, rfl⟩

/-- A deduplicated or failed `Append` leaves the store as it is. -/
theorem append_same {s : Store} {now : Int} {req : AppendRequest}
    (h : ∀ event, (s.append now req).1 ≠ .ok { event, deduplicated := false }) :
    s.Same (s.append now req).2 := by
  by_cases hid : req.streamID = ""
  · have hafter : (s.append now req).2 = s := by
      unfold append
      rw [if_pos hid]
    rw [hafter]
    exact .refl s
  rcases s.key_cases req with hnew | ⟨seq, hkey, hseq⟩
  · refine absurd ?_ (h ((s.ensureStream req.streamID).nextEvent req))
    rw [append_new hid hnew]
  · obtain ⟨st, hst⟩ := exists_of_key hseq
    rw [(append_found now hid hkey hseq).2]
    exact same_setStream hst

end Store

/-! ## The map of the keys -/

/-- What an operation other than `DeleteStream` does to the keys of a stream. -/
theorem StreamStep.idempotency {events : List Event} {o o' : Option StreamState}
    (h : StreamStep events o o') :
    (events = [] ∧ (o'.getD {}).idempotency = (o.getD {}).idempotency) ∨
      ∃ event, events = [event] ∧
        (o'.getD {}).idempotency =
          if event.idempotencyKey ≠ "" then
            (o.getD {}).idempotency.insert event.idempotencyKey event.seq
          else (o.getD {}).idempotency := by
  have htrim : ∀ {st st' : StreamState}, TrimOf st st' → st'.idempotency = st.idempotency := by
    rintro st st' (rfl | ⟨n, rfl⟩)
    · rfl
    · rfl
  cases h with
  | same => exact .inl ⟨rfl, rfl⟩
  | create => exact .inl ⟨rfl, rfl⟩
  | append _ req hst => exact .inr ⟨_, rfl, htrim hst⟩
  | trim st hst => exact .inl ⟨rfl, htrim hst⟩

/-- `Append` adds an event only if it has not found its key. -/
theorem Op.fresh_of_appended {op : Op} {id : StreamID} {s : Store} {event : Event}
    (h : op.appended id s = [event]) (hkey : event.idempotencyKey ≠ "") :
    (s.ensureStream id).idempotency.lookup event.idempotencyKey = none := by
  cases op with
  | append now req =>
      change s.appended now req id = [event] at h
      rcases s.appended_cases now req id with hnone | ⟨rfl, -, hnew, hevent⟩
      · rw [hnone] at h
        cases h
      · rw [hevent] at h
        cases h
        exact hnew hkey
  | ack | createStream | deleteStream | resetCursor | truncateBefore | compactStream |
    setStreamRetention | putSnapshot | deleteSnapshot | registerWatcher | removeWatcher => cases h

namespace Recorded

/-- The first recorded event with this key. -/
def firstWith (key : String) (w : Recorded) : Option Event :=
  w.log.find? fun event => event.idempotencyKey == key

/-- The map of the keys leads to the first recorded event of each. -/
def Indexed (id : StreamID) (w : Recorded) : Prop :=
  ∀ key, key ≠ "" →
    (w.store.ensureStream id).idempotency.lookup key = (w.firstWith key).map Event.seq

/-- No two recorded events have the same key. -/
def KeysUnique (w : Recorded) : Prop :=
  w.log.Pairwise fun e e' => e.idempotencyKey ≠ "" → e'.idempotencyKey ≠ e.idempotencyKey

variable {id : StreamID} {w w' : Recorded}

/-- A new event goes to the map of the keys, unless its key is empty. -/
theorem indexed_append {log : List Event} {index index' : FinMap String Nat} {event : Event}
    (h : ∀ key, key ≠ "" → index.lookup key =
      (log.find? fun e => e.idempotencyKey == key).map Event.seq)
    (hfresh : event.idempotencyKey ≠ "" → index.lookup event.idempotencyKey = none)
    (hindex' : index' =
      if event.idempotencyKey ≠ "" then index.insert event.idempotencyKey event.seq else index)
    {key : String} (hkey : key ≠ "") :
    index'.lookup key =
      ((log ++ [event]).find? fun e => e.idempotencyKey == key).map Event.seq := by
  have hold := h key hkey
  rw [List.find?_append, hindex']
  by_cases heq : event.idempotencyKey = key
  · -- the new event is the first one with its key
    rw [heq] at hfresh
    rw [hfresh hkey] at hold
    have hnone := Option.map_eq_none_iff.mp hold.symm
    rw [hnone, if_pos (heq ▸ hkey), heq]
    simp [heq]
  · have hother : ([event].find? fun e => e.idempotencyKey == key) = none := by simp [heq]
    rw [hother, Option.or_none, ← hold]
    split_ifs
    · rw [FinMap.lookup_insert_eq_ite, if_neg (Ne.symm heq)]
    · rfl

/-- Every operation other than the deletion of the stream keeps the map of its keys right. -/
theorem Undeleted.indexed (hstep : Undeleted id w w') (h : w.Indexed id ∧ w.KeysUnique) :
    w'.Indexed id ∧ w'.KeysUnique := by
  obtain ⟨op, hop, rfl⟩ := hstep
  obtain ⟨hindexed, hunique⟩ := h
  rcases op.streamStep w.store id with hstep | ⟨hdel, -⟩
  · unfold Indexed KeysUnique firstWith apply at *
    simp only
    rcases hstep.idempotency with ⟨hnone, hsame⟩ | ⟨event, hone, hinsert⟩
    · rw [hnone, List.append_nil]
      refine ⟨fun key hkey => ?_, hunique⟩
      exact (congrArg (AList.lookup key) hsame).trans (hindexed key hkey)
    · have hfresh := fun hkey => Op.fresh_of_appended hone hkey
      rw [hone]
      refine ⟨fun key hkey => indexed_append hindexed hfresh hinsert hkey, ?_⟩
      rw [List.pairwise_append]
      refine ⟨hunique, List.pairwise_singleton _ _, ?_⟩
      intro e he e' he' hkey heq
      rw [List.mem_singleton.mp he'] at heq
      have hnone : (w.log.find? fun d => d.idempotencyKey == e.idempotencyKey) = none := by
        have hold := hindexed _ hkey
        rw [← heq, hfresh (heq ▸ hkey)] at hold
        rw [← heq]
        exact Option.map_eq_none_iff.mp hold.symm
      have hnot := List.find?_eq_none.mp hnone e he
      simp at hnot
  · exact absurd hdel hop

/-- Every run keeps the index of the keys. -/
theorem Run.indexed (hrun : Run id w w') (h : w.Indexed id ∧ w.KeysUnique) :
    w'.Indexed id ∧ w'.KeysUnique := by
  induction hrun with
  | refl => exact h
  | tail _ hstep ih => exact hstep.indexed ih

/-- At the start there are no keys. -/
theorem start_indexed (id : StreamID) : start.Indexed id ∧ start.KeysUnique := by
  refine ⟨fun key _ => ?_, List.Pairwise.nil⟩
  simp [start, newStore, Store.ensureStream, firstWith]

/-- Recorded events with the same key are the same. -/
theorem KeysUnique.eq (h : w.KeysUnique) {e e' : Event} (he : e ∈ w.log) (he' : e' ∈ w.log)
    (hkey : e.idempotencyKey ≠ "") (heq : e'.idempotencyKey = e.idempotencyKey) : e' = e := by
  refine Classical.byContradiction fun hne => ?_
  have hsymm : Std.Symm fun d d' : Event =>
      d.idempotencyKey ≠ "" → d'.idempotencyKey ≠ d.idempotencyKey :=
    ⟨fun d d' hd hd' hsame => hd (hsame ▸ hd') hsame.symm⟩
  exact List.Pairwise.forall h he he' (Ne.symm hne) hkey heq

/-- A recorded event is found by its seq while it is retained. -/
theorem Logs.eventBySeq {L : TrimmedLog Event} (h : w.Logs id L) {event : Event}
    (hmem : event ∈ w.log) :
    (w.store.ensureStream id).eventBySeq event.seq =
      if event ∈ (w.store.ensureStream id).events then some event else none := by
  rw [← h.all] at hmem
  have hsame : ∀ e ∈ (w.store.ensureStream id).events, e.seq = event.seq → e = event := by
    intro e he heq
    rw [h.holds.events] at he
    exact h.holds.numbered.injective (List.mem_of_mem_drop he) hmem heq
  unfold StreamState.eventBySeq
  split_ifs with hretained
  · cases hfound : (w.store.ensureStream id).events.find? fun e => e.seq == event.seq with
    | none =>
        have hnot := List.find?_eq_none.mp hfound event hretained
        simp at hnot
    | some e =>
        have hseq := List.find?_some hfound
        rw [hsame e (List.mem_of_find?_eq_some hfound) (beq_iff_eq.mp hseq)]
  · refine List.find?_eq_none.mpr fun e he hseq => hretained ?_
    rw [← hsame e he (beq_iff_eq.mp hseq)]
    exact he

/-- The answer to a retry: the recorded event with its key while it is retained, else an error. -/
theorem Logs.append_retry {L : TrimmedLog Event} (h : w.Logs id L) (hindexed : w.Indexed id)
    (hunique : w.KeysUnique) (hid : id ≠ "") {first : Event} (hmem : first ∈ w.log)
    (hkey : first.idempotencyKey ≠ "") (now : Int) {req : AppendRequest} (hreq : req.streamID = id)
    (hsame : req.idempotencyKey = first.idempotencyKey) :
    (w.store.append now req).1 =
      if first ∈ (w.store.ensureStream id).events then
        .ok { event := first, deduplicated := true }
      else .error { errTooLong with
        message := errTooLong.message ++ ": idempotent event was compacted" } := by
  have hfirst : w.firstWith first.idempotencyKey = some first := by
    unfold firstWith
    cases hfound : w.log.find? fun e => e.idempotencyKey == first.idempotencyKey with
    | none =>
        have hnot := List.find?_eq_none.mp hfound first hmem
        simp at hnot
    | some e =>
        have hekey := List.find?_some hfound
        rw [hunique.eq hmem (List.mem_of_find?_eq_some hfound) hkey (beq_iff_eq.mp hekey)]
  have hlookup := hindexed _ hkey
  rw [hfirst, Option.map_some] at hlookup
  rw [w.store.append_answer now (hreq ▸ hid) (hsame ▸ hkey), hreq, hsame, hlookup]
  simp only [h.eventBySeq hmem]
  split_ifs
  · rfl
  · rfl

end Recorded

/-! ## At most once -/

/-- **Idempotent appends happen at most once.** In every run from the empty store that does not
delete the stream: a key is used for one event only. The first append with a key answers a new
event; once this event is recorded, every later append with the key, whatever else it asks for,
answers the event as a duplicate while it is retained, and fails with `ErrTooLong` otherwise, which
stays so. A deduplicated or failed append leaves the store as it is. -/
theorem idempotent_append {id : StreamID} (hid : id ≠ "") {w w' : Recorded}
    (hw : Recorded.Run id .start w) (hw' : Recorded.Run id w w') :
    (∀ e ∈ w'.log, ∀ e' ∈ w'.log, e.idempotencyKey ≠ "" →
      e'.idempotencyKey = e.idempotencyKey → e' = e) ∧
    (∀ now req, req.streamID = id → req.idempotencyKey ≠ "" →
      (∀ e ∈ w'.log, e.idempotencyKey ≠ req.idempotencyKey) →
        ∃ event, (w'.store.append now req).1 = .ok { event, deduplicated := false } ∧
          event.idempotencyKey = req.idempotencyKey ∧ event.seq = w'.log.length + 1) ∧
    (∀ first ∈ w.log, first.idempotencyKey ≠ "" → ∀ now req, req.streamID = id →
      req.idempotencyKey = first.idempotencyKey →
        (first ∈ (w'.store.ensureStream id).events →
          (w'.store.append now req).1 = .ok { event := first, deduplicated := true }) ∧
        (first ∉ (w'.store.ensureStream id).events →
          ∃ err, (w'.store.append now req).1 = .error err ∧ err.is .tooLong = true)) ∧
    (∀ first ∈ w.log, first ∉ (w.store.ensureStream id).events →
      first ∉ (w'.store.ensureStream id).events) ∧
    ∀ now req, (∀ event, (w'.store.append now req).1 ≠ .ok { event, deduplicated := false }) →
      w'.store.Same (w'.store.append now req).2 := by
  obtain ⟨L, hL, -⟩ := hw.extends (Recorded.start_logs id)
  obtain ⟨L', hL', hext⟩ := hw'.extends hL
  obtain ⟨hindexed, hunique⟩ := hw'.indexed (hw.indexed (Recorded.start_indexed id))
  have hlater : ∀ e ∈ w.log, e ∈ w'.log := by
    intro e he
    rw [← hL.all] at he
    rw [← hL'.all]
    exact hext.1.subset he
  refine ⟨?_, ?_, ?_, ?_, ?_⟩
  · intro e he e' he' hkey heq
    exact hunique.eq he he' hkey heq
  · intro now req hreq hkey hnew
    have hlookup := hindexed _ hkey
    have hnone : w'.firstWith req.idempotencyKey = none :=
      List.find?_eq_none.mpr fun e he heq => hnew e he (beq_iff_eq.mp heq)
    rw [hnone, Option.map_none] at hlookup
    rw [w'.store.append_answer now (hreq ▸ hid) hkey, hreq, hlookup]
    refine ⟨_, rfl, rfl, ?_⟩
    show (w'.store.ensureStream id).head + 1 = w'.log.length + 1
    rw [hL'.holds.head, ← hL'.all]
    rfl
  · intro first hfirst hkey now req hreq hsame
    rw [hL'.append_retry hindexed hunique hid (hlater first hfirst) hkey now hreq hsame]
    refine ⟨fun hretained => if_pos hretained, fun hgone => ?_⟩
    rw [if_neg hgone]
    exact ⟨_, rfl, rfl⟩
  · intro first hfirst hgone hretained
    have hbase : first.seq ≤ L.base := by
      refine hL.le_base ⟨⟨first, hfirst, rfl⟩, fun e he heq => hgone ?_⟩
      have hall := he
      rw [hL.holds.events] at hall
      rw [← hL.all] at hfirst
      rw [← hL.holds.numbered.injective (List.mem_of_mem_drop hall) hfirst heq]
      exact he
    have hbounds := hL'.holds.numbered_retained.bounds hretained
    have hmono : L.base ≤ L'.base := hext.2
    omega
  · intro now req hnot
    exact Store.append_same hnot

/-- An event that was created ten days ago is trimmed by the append that writes it; the retry
fails. -/
theorem idempotent_append_expired :
    ∃ w first, Recorded.Run "s" .start w ∧ first ∈ w.log ∧ first.idempotencyKey = "k" ∧
      first ∉ (w.store.ensureStream "s").events ∧
      ∃ err, (w.store.append 0 { streamID := "s", idempotencyKey := "k" }).1 = .error err ∧
        err.is .tooLong = true := by
  let day : Int := 24 * 3600 * 1000
  let kept : Op := .setStreamRetention 0 { streamID := "s", ttlDays := 1 }
  let appended : Op := .append (20 * day * 1000000)
    { streamID := "s", idempotencyKey := "k", createdAtUnixMS := 10 * day }
  let w := (Recorded.start.apply "s" kept).apply "s" appended
  let first : Event :=
    { streamID := "s", seq := 1, idempotencyKey := "k", createdAtUnixMS := 10 * day }
  have hw : Recorded.Run "s" .start w :=
    .tail (.single ⟨kept, nofun, rfl⟩) ⟨appended, nofun, rfl⟩
  have hfirst : first ∈ w.log := by decide
  have hgone : first ∉ (w.store.ensureStream "s").events := by decide
  obtain ⟨-, -, hretry, -, -⟩ := idempotent_append (by decide) hw .refl
  exact ⟨w, first, hw, hfirst, rfl, hgone,
    (hretry first hfirst (by decide) 0 { streamID := "s", idempotencyKey := "k" } rfl rfl).2 hgone⟩

end Synclog.Memory
