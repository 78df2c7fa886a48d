import Synclog.Core.Engine
import Synclog.Lib.Pool
import Synclog.Memory.Deletion

/-!
# Subscribers do not interfere

The methods of the core engine and the operations on a stream, any number of them at the same time
on one memory store. What a subscriber `b` is told about a stream depends on nothing that other
subscribers do to their cursors, and on nothing that is done to other streams.

* `CoreRequest` — a request, `CoreRequest.program` — the calls that it makes to the store.
* `SameFor b id` — two stores that keep the same for `b` on the stream: its events, its retention,
  and the cursor of `b`.
* `Mine`, `Foreign` — the calls of requests that concern `b` on the stream, and of the others;
  `SameFor.mine`, `SameFor.foreign` — what they do to stores that keep the same.
* `subscribers_do_not_interfere` — the other requests can be deleted from a run.
-/

namespace Synclog.Memory

open Synclog.Lib Synclog.Core

/-! ## Requests -/

/-- A call that administers a stream. -/
inductive StreamCall : Type → Type
  | createStream (streamID : StreamID) : StreamCall (Except GoError StreamID)
  | deleteStream (streamID : StreamID) : StreamCall (Except GoError Bool)
  | resetCursor (subscriberID : SubscriberID) (streamID : StreamID) (seq : Nat)
      (metadata : String) : StreamCall (Except GoError SubscriberCursor)
  | truncateBefore (streamID : StreamID) (before : Nat) : StreamCall (Except GoError Nat)
  | setStreamRetention (retention : StreamRetention) : StreamCall (Except GoError StreamRetention)

/-- A call to the memory store, by the engine or by an administrator. -/
abbrev CoreCall (β : Type) := StoreCall β ⊕ StreamCall β

/-- What a call does to the store, when the clock reads `now`. -/
def coreHandler (now : Int) : Handler CoreCall Store
  | _, .inl c, s => handler now _ c s
  | _, .inr (.createStream streamID), s => s.createStream streamID
  | _, .inr (.deleteStream streamID), s => s.deleteStream streamID
  | _, .inr (.resetCursor subscriberID streamID seq metadata), s =>
    s.resetCursor subscriberID streamID seq metadata
  | _, .inr (.truncateBefore streamID before), s => s.truncateBefore streamID before
  | _, .inr (.setStreamRetention retention), s => s.setStreamRetention now retention

/-- A request to the engine or to the administration of streams. `clock` is the reading of the
engine's clock in milliseconds. -/
inductive CoreRequest
  | append (clock : Int) (req : AppendRequest)
  | catchUp (req : CatchUpRequest)
  | ack (req : AckRequest)
  | getCursor (subscriberID : SubscriberID) (streamID : StreamID)
  | getHead (streamID : StreamID)
  | resetCursor (subscriberID : SubscriberID) (streamID : StreamID) (seq : Nat) (metadata : String)
  | truncateStream (streamID : StreamID) (before : Nat)
  | setStreamRetention (retention : StreamRetention)
  | createStream (streamID : StreamID)
  | deleteStream (streamID : StreamID)

/-- The response to a request. -/
inductive CoreResponse
  | append (answer : Except GoError AppendResult)
  | catchUp (answer : Except GoError CatchUpResult)
  | ack (answer : Except GoError AckResult)
  | cursor (answer : Except GoError SubscriberCursor)
  | head (answer : Except GoError StreamHead)
  | truncated (answer : Except GoError Nat)
  | retention (answer : Except GoError StreamRetention)
  | created (answer : Except GoError StreamID)
  | deleted (answer : Except GoError Bool)

/-- One call that administers a stream. -/
def ofStream {α : Type} (c : StreamCall α) (respond : α → CoreResponse) :
    Prog CoreCall CoreResponse := .call (.inr c) fun a => .ret (respond a)

/-- A method of the engine, as calls to the memory store. -/
def ofEngine {α : Type} (p : ServerProg α) (respond : Except GoError α → CoreResponse) :
    Prog CoreCall CoreResponse := respond <$> p.run.embed fun _ c => .inl c

namespace CoreRequest

/-- The calls that a request makes. -/
def program : CoreRequest → Prog CoreCall CoreResponse
  | append clock req => ofEngine (Engine.append clock req) .append
  | catchUp req => ofEngine (Engine.catchUp req) .catchUp
  | ack req => ofEngine (Engine.ack req) .ack
  | getCursor subscriberID streamID => ofEngine (Engine.getCursor subscriberID streamID) .cursor
  | getHead streamID => ofEngine (Engine.getHead streamID) .head
  | resetCursor subscriberID streamID seq metadata =>
    ofStream (.resetCursor subscriberID streamID seq metadata) .cursor
  | truncateStream streamID before => ofStream (.truncateBefore streamID before) .truncated
  | setStreamRetention retention => ofStream (.setStreamRetention retention) .retention
  | createStream streamID => ofStream (.createStream streamID) .created
  | deleteStream streamID => ofStream (.deleteStream streamID) .deleted

/-- The stream that a request is about. -/
def streamID : CoreRequest → StreamID
  | append _ req => req.streamID
  | catchUp req => req.streamID
  | ack req => req.streamID
  | getCursor _ streamID => streamID
  | getHead streamID => streamID
  | resetCursor _ streamID _ _ => streamID
  | truncateStream streamID _ => streamID
  | setStreamRetention retention => retention.streamID
  | createStream streamID => streamID
  | deleteStream streamID => streamID

/-- The subscriber whose cursor a request reads or writes, if it does. -/
def subscriberID : CoreRequest → Option SubscriberID
  | catchUp req => some req.subscriberID
  | ack req => some req.subscriberID
  | getCursor subscriberID _ => some subscriberID
  | resetCursor subscriberID _ _ _ => some subscriberID
  | _ => none

/-- The request is about the stream, and about no other subscriber than `b`. -/
def Concerns (b : SubscriberID) (id : StreamID) (r : CoreRequest) : Prop :=
  r.streamID = id ∧ r.subscriberID.getD b = b

instance (b : SubscriberID) (id : StreamID) : DecidablePred (Concerns b id) :=
  fun r => inferInstanceAs (Decidable (r.streamID = id ∧ r.subscriberID.getD b = b))

end CoreRequest

/-! ## Stores that keep the same -/

/-- The stores keep the same for the subscriber on the stream. -/
structure SameFor (b : SubscriberID) (id : StreamID) (s t : Store) : Prop where
  stream : s.streams.lookup id = t.streams.lookup id
  retention : s.retention.lookup id = t.retention.lookup id
  cursor : s.cursors.lookup ⟨b, id⟩ = t.cursors.lookup ⟨b, id⟩

namespace SameFor

variable {b : SubscriberID} {id : StreamID} {s t u : Store}

/-- A store is the same as itself. -/
theorem refl (b : SubscriberID) (id : StreamID) (s : Store) : SameFor b id s s := ⟨rfl, rfl, rfl⟩

/-- Sameness goes both ways. -/
theorem symm (h : SameFor b id s t) : SameFor b id t s :=
  ⟨h.stream.symm, h.retention.symm, h.cursor.symm⟩

/-- Sameness goes on along a third store. -/
theorem trans (h : SameFor b id s t) (h' : SameFor b id t u) : SameFor b id s u :=
  ⟨h.stream.trans h'.stream, h.retention.trans h'.retention, h.cursor.trans h'.cursor⟩

/-- Stores that are alike on the stream keep the same for each of its subscribers. -/
theorem of_alike (h : AlikeOn {id} s t) : SameFor b id s t :=
  ⟨h.streams id rfl, h.retention id rfl, h.cursors ⟨b, id⟩ rfl⟩

/-! ### Pieces of calls -/

/-- The same stream is put into both stores. -/
theorem setStream (h : SameFor b id s t) (st : StreamState) :
    SameFor b id (s.setStream id st) (t.setStream id st) :=
  { h with stream := by simp [Store.setStream] }

/-- A notification changes nothing for the subscriber. -/
theorem notifyStreamLocked (h : SameFor b id s t) (head : Nat) :
    SameFor b id (s.notifyStreamLocked id head) (t.notifyStreamLocked id head) := by
  obtain ⟨watchers, closed, hs⟩ := s.notifyStreamLocked_kept id head
  obtain ⟨watchers', closed', ht⟩ := t.notifyStreamLocked_kept id head
  rw [hs, ht]
  exact ⟨h.stream, h.retention, h.cursor⟩

/-- A cursor is written in both. -/
theorem insertCursor (h : SameFor b id s t) (cursor : SubscriberCursor) :
    SameFor b id { s with cursors := s.cursors.insert ⟨b, id⟩ cursor }
      { t with cursors := t.cursors.insert ⟨b, id⟩ cursor } :=
  ⟨h.stream, h.retention, by simp⟩

/-- The cursor of another subscriber, or on another stream, is written. -/
theorem otherCursor (s : Store) {key : CursorKey} (hkey : key ≠ ⟨b, id⟩)
    (cursor : SubscriberCursor) :
    SameFor b id s { s with cursors := s.cursors.insert key cursor } := by
  refine ⟨rfl, rfl, ?_⟩
  rw [FinMap.lookup_insert_eq_ite, if_neg hkey.symm]

/-! ### Calls for the subscriber on the stream -/

/-- Stores that are the same for a subscriber agree on the stream. -/
theorem sees (b : SubscriberID) (id : StreamID) : Sees id (SameFor b id) where
  stream h := h.stream
  retention h := h.retention
  setStream h := h.setStream
  setRetention h _ := ⟨h.stream, by simp, h.cursor⟩
  notify h := h.notifyStreamLocked

/-- An acknowledgement of the subscriber is answered alike. -/
theorem ack {req : AckRequest} (h : SameFor req.subscriberID req.streamID s t) :
    (s.ack req).1 = (t.ack req).1 ∧
      SameFor req.subscriberID req.streamID (s.ack req).2 (t.ack req).2 := by
  unfold Store.ack
  simp only [h.cursor]
  split_ifs
  all_goals first
    | exact ⟨rfl, h⟩
    | exact ⟨rfl, h.insertCursor _⟩

/-- A deletion of the stream is answered alike. -/
theorem deleteStream (h : SameFor b id s t) :
    (s.deleteStream id).1 = (t.deleteStream id).1 ∧
      SameFor b id (s.deleteStream id).2 (t.deleteStream id).2 := by
  unfold Store.deleteStream
  rw [h.stream]
  split_ifs
  · exact ⟨rfl, h⟩
  · refine ⟨rfl, ?_, ?_, ?_⟩
    · simp
    · simp
    · rw [FinMap.lookup_keep, FinMap.lookup_keep, h.cursor]

/-- A reset of the subscriber's cursor is answered alike. -/
theorem resetCursor (h : SameFor b id s t) (seq : Nat) (metadata : String) :
    (s.resetCursor b id seq metadata).1 = (t.resetCursor b id seq metadata).1 ∧
      SameFor b id (s.resetCursor b id seq metadata).2 (t.resetCursor b id seq metadata).2 := by
  unfold Store.resetCursor
  split_ifs
  · exact ⟨rfl, h⟩
  · exact ⟨rfl, h⟩
  · exact ⟨rfl, h.insertCursor _⟩

end SameFor

/-! ## Whose calls -/

/-- The calls of requests that concern the subscriber on the stream. -/
def Mine (b : SubscriberID) (id : StreamID) (β : Type) : CoreCall β → Prop
  | .inl (.append req) => req.streamID = id
  | .inl (.getHead streamID) => streamID = id
  | .inl (.read streamID _ _) => streamID = id
  | .inl (.getCursor subscriberID streamID) => subscriberID = b ∧ streamID = id
  | .inl (.ack req) => req.subscriberID = b ∧ req.streamID = id
  | .inl (.getLatestSnapshot ..) => False
  | .inr (.createStream streamID) => streamID = id
  | .inr (.deleteStream streamID) => streamID = id
  | .inr (.resetCursor subscriberID streamID _ _) => subscriberID = b ∧ streamID = id
  | .inr (.truncateBefore streamID _) => streamID = id
  | .inr (.setStreamRetention retention) => retention.streamID = id

/-- The calls of the others: they read, write another cursor, or are about another stream. -/
def Foreign (b : SubscriberID) (id : StreamID) (β : Type) : CoreCall β → Prop
  | .inl (.append req) => req.streamID ≠ id
  | .inl (.ack req) => ¬ (req.subscriberID = b ∧ req.streamID = id)
  | .inl (.getHead _) | .inl (.read ..) | .inl (.getCursor ..) => True
  | .inl (.getLatestSnapshot ..) => True
  | .inr (.createStream streamID) => streamID ≠ id
  | .inr (.deleteStream streamID) => streamID ≠ id
  | .inr (.resetCursor subscriberID streamID _ _) => ¬ (subscriberID = b ∧ streamID = id)
  | .inr (.truncateBefore streamID _) => streamID ≠ id
  | .inr (.setStreamRetention retention) => retention.streamID ≠ id

section Calls

variable {b : SubscriberID} {id : StreamID} {s t : Store}

/-- Such a call is answered alike in stores that keep the same, which keep the same after it. -/
theorem SameFor.mine (now : Int) {β : Type} {c : CoreCall β} (hc : Mine b id β c)
    (h : SameFor b id s t) :
    (coreHandler now β c s).1 = (coreHandler now β c t).1 ∧
      SameFor b id (coreHandler now β c s).2 (coreHandler now β c t).2 := by
  cases c with
  | inl c =>
      cases c with
      | append req =>
          obtain rfl : req.streamID = id := hc
          exact (SameFor.sees b _).append h now
      | getHead streamID =>
          obtain rfl : streamID = id := hc
          refine ⟨?_, h⟩
          show s.getHead streamID = t.getHead streamID
          unfold Store.getHead
          rw [h.stream]
      | read streamID after limit =>
          obtain rfl : streamID = id := hc
          refine ⟨?_, h⟩
          show s.read streamID after limit = t.read streamID after limit
          unfold Store.read
          rw [h.stream]
      | getCursor subscriberID streamID =>
          obtain ⟨rfl, rfl⟩ : subscriberID = b ∧ streamID = id := hc
          refine ⟨?_, h⟩
          show s.getCursor subscriberID streamID = t.getCursor subscriberID streamID
          unfold Store.getCursor
          rw [h.cursor]
      | ack req =>
          obtain ⟨rfl, rfl⟩ : req.subscriberID = b ∧ req.streamID = id := hc
          exact h.ack
      | getLatestSnapshot => exact hc.elim
  | inr c =>
      cases c with
      | createStream streamID =>
          obtain rfl : streamID = id := hc
          exact (SameFor.sees b _).createStream h
      | deleteStream streamID =>
          obtain rfl : streamID = id := hc
          exact h.deleteStream
      | resetCursor subscriberID streamID seq metadata =>
          obtain ⟨rfl, rfl⟩ : subscriberID = b ∧ streamID = id := hc
          exact h.resetCursor seq metadata
      | truncateBefore streamID before =>
          obtain rfl : streamID = id := hc
          exact (SameFor.sees b _).truncateBefore h before
      | setStreamRetention retention =>
          obtain rfl : retention.streamID = id := hc
          exact (SameFor.sees b _).setStreamRetention h now

/-- An operation on another stream keeps the same. -/
theorem SameFor.op (s : Store) (op : Op) (hop : op.streamID ≠ id) :
    SameFor b id s (op.apply s) := by
  have hother : op.streamID ∉ ({id} : Set StreamID) := hop
  exact .of_alike (AlikeOn.op_self op s hother)

/-- An acknowledgement writes its own cursor, or nothing. -/
theorem Store.ack_writes (s : Store) (req : AckRequest) :
    (s.ack req).2 = s ∨ ∃ cursor, (s.ack req).2 =
      { s with cursors := s.cursors.insert ⟨req.subscriberID, req.streamID⟩ cursor } := by
  unfold Store.ack
  simp only
  split_ifs
  all_goals first
    | exact .inl rfl
    | exact .inr ⟨_, rfl⟩

/-- A call of the others keeps the same. -/
theorem SameFor.foreign (now : Int) {β : Type} {c : CoreCall β} (hc : Foreign b id β c)
    (s : Store) : SameFor b id s (coreHandler now β c s).2 := by
  cases c with
  | inl c =>
      cases c with
      | append req => exact SameFor.op s (.append now req) hc
      | ack req =>
          have hkey : (⟨req.subscriberID, req.streamID⟩ : CursorKey) ≠ ⟨b, id⟩ := by
            intro heq
            exact hc (CursorKey.mk.inj heq)
          show SameFor b id s (s.ack req).2
          rcases s.ack_writes req with hsame | ⟨cursor, hwrite⟩
          · rw [hsame]
            exact .refl b id s
          · rw [hwrite]
            exact .otherCursor s hkey cursor
      | getHead | read | getCursor | getLatestSnapshot => exact .refl b id s
  | inr c =>
      cases c with
      | createStream streamID => exact SameFor.op s (.createStream streamID) hc
      | deleteStream streamID => exact SameFor.op s (.deleteStream streamID) hc
      | resetCursor subscriberID streamID seq metadata =>
          have hkey : (⟨subscriberID, streamID⟩ : CursorKey) ≠ ⟨b, id⟩ := by
            intro heq
            exact hc (CursorKey.mk.inj heq)
          show SameFor b id s (s.resetCursor subscriberID streamID seq metadata).2
          unfold Store.resetCursor
          split_ifs
          · exact .refl b id s
          · exact .refl b id s
          · exact .otherCursor s hkey _
      | truncateBefore streamID before =>
          exact SameFor.op s (.truncateBefore streamID before) hc
      | setStreamRetention retention =>
          exact SameFor.op s (.setStreamRetention now retention) hc

end Calls

/-! ## The calls of a request -/

namespace CoreRequest

section Programs

variable {P : (β : Type) → CoreCall β → Prop}

/-- A call of the engine makes the engine's calls. -/
theorem ofEngine_only {α : Type} {p : ServerProg α} {respond : Except GoError α → CoreResponse}
    (h : p.run.Only fun β c => P β (.inl c)) : (ofEngine p respond).Only P :=
  Prog.Only.bind h.embed fun _ => trivial

/-- A call about a stream is a single one. -/
theorem ofStream_only {α : Type} {c : StreamCall α} {respond : α → CoreResponse}
    (h : P α (.inr c)) : (ofStream c respond).Only P := ⟨h, fun _ => trivial⟩

variable {Q : (β : Type) → StoreCall β → Prop}

/-- What an append may call. -/
theorem append_calls {clock : Int} {req : AppendRequest}
    (h : ∀ createdAtUnixMS, Q _ (.append { req with createdAtUnixMS })) :
    (Engine.append clock req).run.Only Q := by
  unfold Engine.append
  split_ifs
  · trivial
  · trivial
  · exact ⟨h clock, fun _ => trivial⟩
  · exact ⟨h req.createdAtUnixMS, fun _ => trivial⟩

/-- What a catch-up may call. -/
theorem catchUp_calls {req : CatchUpRequest}
    (hcursor : Q _ (.getCursor req.subscriberID req.streamID)) (hhead : Q _ (.getHead req.streamID))
    (hread : ∀ after limit, Q _ (.read req.streamID after limit)) :
    (Engine.catchUp req).run.Only Q := by
  unfold Engine.catchUp
  split_ifs
  · trivial
  · trivial
  · refine Prog.Only.bindE ⟨hcursor, fun _ => trivial⟩ ?_
    intro cursor
    refine Prog.Only.bindE ⟨hhead, fun _ => trivial⟩ ?_
    intro head
    split_ifs
    · trivial
    · exact ⟨hread _ _, fun _ => trivial⟩

/-- What an acknowledgement may call. -/
theorem ack_calls {req : AckRequest} (hhead : Q _ (.getHead req.streamID)) (hack : Q _ (.ack req)) :
    (Engine.ack req).run.Only Q := by
  unfold Engine.ack
  split_ifs
  · trivial
  · trivial
  · refine Prog.Only.bindE ⟨hhead, fun _ => trivial⟩ ?_
    intro head
    split_ifs
    · trivial
    · exact Prog.Only.bindE ⟨hack, fun _ => trivial⟩ fun _ => trivial

/-- What asking for a cursor may call. -/
theorem getCursor_calls {subscriberID : SubscriberID} {streamID : StreamID}
    (h : Q _ (.getCursor subscriberID streamID)) :
    (Engine.getCursor subscriberID streamID).run.Only Q := by
  unfold Engine.getCursor
  split_ifs
  · trivial
  · trivial
  · exact ⟨h, fun _ => trivial⟩

/-- What asking for a head may call. -/
theorem getHead_calls {streamID : StreamID} (h : Q _ (.getHead streamID)) :
    (Engine.getHead streamID).run.Only Q := by
  unfold Engine.getHead
  split_ifs
  · trivial
  · exact ⟨h, fun _ => trivial⟩

end Programs

variable {b : SubscriberID} {id : StreamID} {r : CoreRequest}

/-- A request that concerns the subscriber on the stream makes calls for it. -/
theorem program_mine (h : r.Concerns b id) : r.program.Only (Mine b id) := by
  obtain ⟨hid, hb⟩ := h
  cases r with
  | append clock req => exact ofEngine_only (append_calls fun _ => hid)
  | catchUp req => exact ofEngine_only (catchUp_calls ⟨hb, hid⟩ hid fun _ _ => hid)
  | ack req => exact ofEngine_only (ack_calls hid ⟨hb, hid⟩)
  | getCursor subscriberID streamID => exact ofEngine_only (getCursor_calls ⟨hb, hid⟩)
  | getHead streamID => exact ofEngine_only (getHead_calls hid)
  | resetCursor subscriberID streamID seq metadata => exact ofStream_only ⟨hb, hid⟩
  | truncateStream streamID before => exact ofStream_only hid
  | setStreamRetention retention => exact ofStream_only hid
  | createStream streamID => exact ofStream_only hid
  | deleteStream streamID => exact ofStream_only hid

/-- Any other request makes calls of the others only. -/
theorem program_foreign (h : ¬ r.Concerns b id) : r.program.Only (Foreign b id) := by
  have hother : r.subscriberID = none → r.streamID ≠ id := by
    intro hnone hid
    exact h ⟨hid, by rw [hnone]; rfl⟩
  cases r with
  | append clock req => exact ofEngine_only (append_calls fun _ => hother rfl)
  | catchUp req => exact ofEngine_only (catchUp_calls trivial trivial fun _ _ => trivial)
  | ack req => exact ofEngine_only (ack_calls trivial fun heq => h ⟨heq.2, heq.1⟩)
  | getCursor subscriberID streamID => exact ofEngine_only (getCursor_calls trivial)
  | getHead streamID => exact ofEngine_only (getHead_calls trivial)
  | resetCursor subscriberID streamID seq metadata =>
      exact ofStream_only fun heq => h ⟨heq.2, heq.1⟩
  | truncateStream streamID before => exact ofStream_only (hother rfl)
  | setStreamRetention retention => exact ofStream_only (hother rfl)
  | createStream streamID => exact ofStream_only (hother rfl)
  | deleteStream streamID => exact ofStream_only (hother rfl)

end CoreRequest

/-! ## Noninterference -/

/-- Requests that run at the same time on a memory store: the label that lets a request make its
next call has the reading of the clock at that call. -/
abbrev CoreRun := Pool CoreCall Store CoreResponse Nat

/-- The machine of the requests `requests 0`, `requests 1`, … -/
def coreRuns (requests : Nat → CoreRequest) : Machine CoreRun (PoolLabel Nat Int) :=
  Pool.machine coreHandler fun i => (requests i).program

/-- All other requests can be deleted from a run: every request that concerns the subscriber on the
stream is answered as before. -/
theorem subscribers_do_not_interfere (b : SubscriberID) (id : StreamID)
    (requests : Nat → CoreRequest) {labels : List (PoolLabel Nat Int)} {σ : CoreRun}
    (hrun : (coreRuns requests).run labels { shared := newStore } = some σ) :
    ∃ τ, (coreRuns requests).run (labels.filter fun l => (requests l.program).Concerns b id)
        { shared := newStore } = some τ ∧
      ∀ i, (requests i).Concerns b id → σ.answer i = τ.answer i := by
  have hstart : Pool.Sorted (fun i => (requests i).Concerns b id) (Mine b id) (Foreign b id)
      ({ shared := newStore } : CoreRun) := by
    constructor
    · rintro i q - ⟨⟩
    · rintro i q - ⟨⟩
  obtain ⟨τ, hτ, hsame⟩ := Pool.run_filter (T := SameFor b id)
    (fun i => CoreRequest.program_mine) (fun i => CoreRequest.program_foreign)
    (fun now β c s t hc h => h.mine now hc)
    (fun now β c s t hc h => (SameFor.foreign now hc s).symm.trans h)
    ⟨SameFor.refl b id newStore, fun _ _ => rfl⟩ hstart hrun
  exact ⟨τ, hτ, fun i hi => hsame.answer hi⟩

/-- Two subscribers of one stream: an event, an acknowledgement of each, and a catch-up of `b`. -/
def twoSubscribers : Nat → CoreRequest
  | 0 => .append 1 { streamID := "s" }
  | 1 => .ack { subscriberID := "a", streamID := "s", seq := 1 }
  | 2 => .ack { subscriberID := "b", streamID := "s", seq := 1 }
  | _ => .catchUp { subscriberID := "b", streamID := "s" }

/-- The acknowledgement of `a` runs between the calls of `b`. -/
def interleaved : List (PoolLabel Nat Int) :=
  [.start 0, .advance 0 0, .start 1, .start 2, .advance 1 0, .advance 2 0, .advance 1 0,
    .advance 2 0, .start 3, .advance 3 0, .advance 3 0, .advance 3 0]

/-- Two subscribers of one stream take turns, and each gets what it would get alone. -/
theorem subscribers_do_not_interfere_two :
    ∃ σ τ, (coreRuns twoSubscribers).run interleaved { shared := newStore } = some σ ∧
      (coreRuns twoSubscribers).run
        (interleaved.filter fun l => (twoSubscribers l.program).Concerns "b" "s")
          { shared := newStore } = some τ ∧
      ∀ i, (twoSubscribers i).Concerns "b" "s" → σ.answer i = τ.answer i := by
  have hrun : ((coreRuns twoSubscribers).run interleaved { shared := newStore }).isSome = true := by
    decide
  obtain ⟨σ, hσ⟩ := Option.isSome_iff_exists.mp hrun
  obtain ⟨τ, hτ, hsame⟩ := subscribers_do_not_interfere "b" "s" twoSubscribers hσ
  exact ⟨σ, τ, hσ, hτ, hsame⟩

end Synclog.Memory
