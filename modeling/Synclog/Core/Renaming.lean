import Synclog.Core.Engine
import Synclog.Lib.Recoding

/-!
# Renaming streams: the core engine

A `Renaming` gives streams other ids, different streams different ids. Everything that names a
stream can be renamed: events, cursors, heads, snapshots and the calls of the storage. The methods
of the core engine for a renamed stream make the renamed calls, and answer what is renamed; the
errors, texts included, are the same.
-/

namespace Synclog.Core

open Synclog.Lib

/-- Other ids for the streams, pairwise different and, for named streams, not empty. -/
structure Renaming where
  id : StreamID → StreamID
  injective : Function.Injective id
  empty : id "" = ""

namespace Renaming

variable (f : Renaming)

/-- A named stream stays one. -/
@[simp] theorem id_eq_empty {streamID : StreamID} : f.id streamID = "" ↔ streamID = "" := by
  constructor
  · intro h
    exact f.injective (h.trans f.empty.symm)
  · rintro rfl
    exact f.empty

/-! ## Data -/

/-- The event of the renamed stream. -/
def event (e : Event) : Event := { e with streamID := f.id e.streamID }

/-- The cursor on the renamed stream. -/
def cursor (c : Cursor) : Cursor := { c with streamID := f.id c.streamID }

/-- The subscriber's cursor on the renamed stream. -/
def subscriberCursor (c : SubscriberCursor) : SubscriberCursor :=
  { c with cursor := f.cursor c.cursor }

/-- The head of the renamed stream. -/
def head (h : StreamHead) : StreamHead := { h with cursor := f.cursor h.cursor }

/-- The batch of the renamed stream. -/
def batch (b : EventBatch) : EventBatch := { b with events := b.events.map f.event }

/-- The result of a catch-up on the renamed stream. -/
def catchUpResult (r : CatchUpResult) : CatchUpResult :=
  { r with batch := f.batch r.batch, cursor := f.cursor r.cursor, head := f.head r.head }

/-- The result of an acknowledgement on the renamed stream. -/
def ackResult (r : AckResult) : AckResult where
  cursor := f.subscriberCursor r.cursor
  head := f.head r.head

/-- The snapshot of the renamed stream. -/
def snapshot (s : Snapshot) : Snapshot :=
  { s with ref := { s.ref with streamID := f.id s.ref.streamID } }

/-- The request for a catch-up on the renamed stream. -/
def catchUpRequest (req : CatchUpRequest) : CatchUpRequest :=
  { req with streamID := f.id req.streamID }

/-- The acknowledgement on the renamed stream. -/
def ackRequest (req : AckRequest) : AckRequest := { req with streamID := f.id req.streamID }

/-- The storage calls that the gateway makes, for renamed streams. -/
def calls : Recoding StoreCall where
  made
    | _, .append _ => False
    | _, _ => True
  call
    | _, .append req => .append req
    | _, .getHead streamID => .getHead (f.id streamID)
    | _, .read streamID after limit => .read (f.id streamID) after limit
    | _, .getCursor subscriberID streamID => .getCursor subscriberID (f.id streamID)
    | _, .ack req => .ack (f.ackRequest req)
    | _, .getLatestSnapshot streamID payloadType maxPayloadVersion =>
      .getLatestSnapshot (f.id streamID) payloadType maxPayloadVersion
  answer
    | _, .append _ => fun r => r
    | _, .getHead _ => Except.map f.head
    | _, .read .. => Except.map fun r => (f.batch r.1, f.head r.2)
    | _, .getCursor .. => Except.map f.subscriberCursor
    | _, .ack _ => Except.map f.subscriberCursor
    | _, .getLatestSnapshot .. => Except.map f.snapshot

/-! ## The methods -/

/-- `Engine.GetCursor` under other stream ids. -/
theorem getCursor (subscriberID : SubscriberID) (streamID : StreamID) :
    Prog.Recoded f.calls (Except.map f.subscriberCursor)
      (Engine.getCursor subscriberID streamID).run
      (Engine.getCursor subscriberID (f.id streamID)).run := by
  refine .ite Iff.rfl (fun _ => .throw _) fun _ => ?_
  refine .ite f.id_eq_empty.symm (fun _ => .throw _) fun _ => ?_
  exact .performE (c := StoreCall.getCursor subscriberID streamID) trivial rfl

/-- `Engine.GetHead` under other stream ids. -/
theorem getHead (streamID : StreamID) :
    Prog.Recoded f.calls (Except.map f.head) (Engine.getHead streamID).run
      (Engine.getHead (f.id streamID)).run := by
  refine .ite f.id_eq_empty.symm (fun _ => .throw _) fun _ => ?_
  exact .performE (c := StoreCall.getHead streamID) trivial rfl

/-- The end of a catch-up looks at the error of the read only. -/
theorem withBatch (cursor : SubscriberCursor) (head : StreamHead)
    (r : Except GoError (EventBatch × StreamHead)) :
    Engine.withBatch (f.subscriberCursor cursor) (f.head head)
        (r.map fun r => (f.batch r.1, f.head r.2)) =
      (Engine.withBatch cursor head r).map f.catchUpResult := by
  cases r with
  | error err =>
      unfold Engine.withBatch
      simp only [Except.map]
      split_ifs
      · rfl
      · rfl
  | ok r => rfl

/-- `Engine.CatchUp` under other stream ids. -/
theorem catchUp (req : CatchUpRequest) :
    Prog.Recoded f.calls (Except.map f.catchUpResult) (Engine.catchUp req).run
      (Engine.catchUp (f.catchUpRequest req)).run := by
  refine .ite Iff.rfl (fun _ => .throw _) fun _ => ?_
  refine .ite f.id_eq_empty.symm (fun _ => .throw _) fun _ => ?_
  refine .bindE (.performE (c := StoreCall.getCursor req.subscriberID req.streamID) trivial rfl) ?_
  intro cursor
  refine .bindE (.performE (c := StoreCall.getHead req.streamID) trivial rfl) ?_
  intro head
  -- the renamed request, cursor and head have the same numbers
  refine .ite Iff.rfl (fun _ => .pureE _) fun _ => ?_
  refine .attempt_bindE
    (c := StoreCall.read req.streamID cursor.cursor.seq (normalizeLimit req.limit)) trivial ?_
  intro r
  have hend := Prog.Recoded.ofExcept (ρ := f.calls) (g := f.catchUpResult)
    (Engine.withBatch cursor head r)
  rw [← f.withBatch] at hend
  exact hend

/-- `Engine.Ack` under other stream ids. -/
theorem ack (req : AckRequest) :
    Prog.Recoded f.calls (Except.map f.ackResult) (Engine.ack req).run
      (Engine.ack (f.ackRequest req)).run := by
  refine .ite Iff.rfl (fun _ => .throw _) fun _ => ?_
  refine .ite f.id_eq_empty.symm (fun _ => .throw _) fun _ => ?_
  refine .bindE (.performE (c := StoreCall.getHead req.streamID) trivial rfl) ?_
  intro head
  refine .ite Iff.rfl (fun _ => .throw_bindE _ _ _) fun _ => ?_
  exact .bindE (.performE (c := StoreCall.ack req) trivial rfl) fun cursor => .pureE _

end Renaming

end Synclog.Core
