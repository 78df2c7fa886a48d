import Synclog.Memory.Sections

/-!
# With which errors the methods of the store fail

Each method checks first whether the ids it needs are there, and refuses the call if not. After that
only three methods fail at all: an append under the key of an event that is gone, a read from behind
the retained events, and a lookup of a snapshot that is not there. `StoreMethod.MayAnswer` states
this for all methods, whatever is in the store (`methods_mayAnswer`).
-/

namespace Synclog.Memory

open Synclog.Lib Synclog.Core

/-- The error of a call without a value that it needs. -/
def required (text value : String) : Option GoError :=
  if value = "" then some (errInvalidArgument text) else none

/-- The error of an append under the key of an event that is gone.
Source: `store.go`, `Store.Append`. -/
def errCompacted : GoError :=
  { errTooLong with message := errTooLong.message ++ ": idempotent event was compacted" }

/-- The call is refused with the first error; or, if there is none, it fails with no other errors
than those of `late`. -/
def Checked {α : Type} (refusal : Option GoError) (late : GoError → Prop)
    (r : Except GoError α) : Prop :=
  match refusal with
  | some err => r = .error err
  | none => ∀ err, r = .error err → late err

/-- The call may be refused, and does not fail otherwise. -/
def Never (_ : GoError) : Prop := False

/-- The errors of a call that needs the id of a stream. -/
def needsStream (id : StreamID) : Option GoError := required "stream id is required" id

/-- The errors of a call that needs the ids of a subscriber and a stream. -/
def needsCursor (b : SubscriberID) (id : StreamID) : Option GoError :=
  (required "subscriber id is required" b).or (needsStream id)

/-- The errors of a call that needs a stream and a payload type. -/
def needsSnapshot (id : StreamID) (payloadType : String) : Option GoError :=
  (needsStream id).or (required "payload type is required" payloadType)

/-- The answers that a method may give. -/
def StoreMethod.MayAnswer : {β : Type} → StoreMethod β → β → Prop
  | _, .append _ req, r =>
    Checked (needsStream req.streamID)
      (fun err => req.idempotencyKey ≠ "" ∧ err = errCompacted) r
  | _, .waitForStream id _, r => Checked (needsStream id) Never r
  | _, .giveUp .., _ => True
  | _, .getHead id, r => Checked (needsStream id) Never r
  | _, .read id _ _, r => Checked (needsStream id) (· = errTooLong) r
  | _, .getCursor b id, r => Checked (needsCursor b id) Never r
  | _, .ack req, r => Checked (needsCursor req.subscriberID req.streamID) Never r
  | _, .createStream id, r => Checked (needsStream id) Never r
  | _, .deleteStream id, r => Checked (needsStream id) Never r
  | _, .listStreams .., _ => True
  | _, .resetCursor b id _ _, r => Checked (needsCursor b id) Never r
  | _, .listCursors _ id, r => Checked (needsStream id) Never r
  | _, .truncateBefore id _, r => Checked (needsStream id) Never r
  | _, .compactStream id, r => Checked (needsStream id) Never r
  | _, .setStreamRetention _ retention, r => Checked (needsStream retention.streamID) Never r
  | _, .getStreamStats id, r => Checked (needsStream id) Never r
  | _, .putSnapshot req, r => Checked (needsSnapshot req.streamID req.payloadType) Never r
  | _, .getLatestSnapshot id payloadType _, r =>
    Checked (needsSnapshot id payloadType) (· = errNotFound) r
  | _, .getSnapshot key, r =>
    Checked (needsSnapshot key.streamID key.payloadType) (· = errNotFound) r
  | _, .listSnapshots _ id _ _, r => Checked (needsStream id) Never r
  | _, .deleteSnapshot key, r => Checked (needsSnapshot key.streamID key.payloadType) Never r

/-- The answers that a section may give. -/
def SectionMayAnswer : (β : Type) → StoreSection β → β → Prop
  | _, .inl c, r => c.MayAnswer r
  | _, .inr (.minCursor _), _ => True
  | _, .inr (.truncateBefore id before), r => (StoreMethod.truncateBefore id before).MayAnswer r

/-! ## Checks -/

/-- The error, if there is one, is about an argument. -/
def Invalid (missing : Option GoError) : Prop :=
  ∀ err, missing = some err → ∃ text, err = errInvalidArgument text

/-- A missing argument is invalid. -/
theorem invalid_required (text value : String) : Invalid (required text value) := by
  unfold required Invalid
  split_ifs
  · rintro err ⟨⟩
    exact ⟨text, rfl⟩
  · nofun

/-- The first of two missing arguments is invalid. -/
theorem Invalid.or {missing missing' : Option GoError} (h : Invalid missing)
    (h' : Invalid missing') : Invalid (missing.or missing') := by
  rcases missing with _ | err
  · exact h'
  · exact h

/-- A missing stream id is invalid. -/
theorem invalid_needsStream (id : StreamID) : Invalid (needsStream id) := invalid_required _ id

/-- A missing part of a cursor's name is invalid. -/
theorem invalid_needsCursor (b : SubscriberID) (id : StreamID) : Invalid (needsCursor b id) :=
  (invalid_required _ b).or (invalid_needsStream id)

/-- A missing part of a snapshot's name is invalid. -/
theorem invalid_needsSnapshot (id : StreamID) (payloadType : String) :
    Invalid (needsSnapshot id payloadType) :=
  (invalid_needsStream id).or (invalid_required _ payloadType)

/-- No stream id is missing. -/
theorem needsStream_eq_none {id : StreamID} : needsStream id = none ↔ id ≠ "" := by
  unfold needsStream required
  split_ifs with hid
  · simp [hid]
  · simp [hid]

/-- No part of a cursor's name is missing. -/
theorem needsCursor_eq_none {b : SubscriberID} {id : StreamID} :
    needsCursor b id = none ↔ b ≠ "" ∧ id ≠ "" := by
  unfold needsCursor
  rw [Option.or_eq_none_iff, needsStream_eq_none]
  refine and_congr_left fun _ => ?_
  unfold required
  split_ifs with hb
  · simp [hb]
  · simp [hb]

section Checks

variable {α : Type} {text value : String} {id : StreamID} {late : GoError → Prop}
  {r : Except GoError α}

/-- An error is the same in every type of answers. -/
theorem Checked.of_error {β : Type} {missing : Option GoError} {err : GoError}
    (h : Checked missing late (.error err : Except GoError α)) :
    Checked missing late (.error err : Except GoError β) := by
  rcases missing with _ | err'
  · exact fun e he => h e (by cases he; rfl)
  · obtain rfl := Except.error.inj h
    exact rfl

/-- A check, and then other ones. -/
theorem Checked.required_or {rest : Option GoError}
    (hr : value = "" → r = .error (errInvalidArgument text))
    (hrest : value ≠ "" → Checked rest late r) :
    Checked ((required text value).or rest) late r := by
  unfold required
  split_ifs with hvalue
  · exact hr hvalue
  · exact hrest hvalue

/-- A check that is the last one. -/
theorem Checked.required (hr : value = "" → r = .error (errInvalidArgument text))
    (hrest : value ≠ "" → ∀ err, r = .error err → late err) :
    Checked (Memory.required text value) late r := by
  rw [← Option.or_none (o := Memory.required text value)]
  exact .required_or hr hrest

/-- The subscriber id is checked before the stream id. -/
theorem Checked.needsCursor {b : SubscriberID}
    (hb : b = "" → r = .error (errInvalidArgument "subscriber id is required"))
    (hid : b ≠ "" → id = "" → r = .error (errInvalidArgument "stream id is required"))
    (hrest : b ≠ "" → id ≠ "" → ∀ err, r = .error err → late err) :
    Checked (Memory.needsCursor b id) late r :=
  .required_or hb fun hb => .required (hid hb) (hrest hb)

/-- The check that the snapshot methods make. -/
theorem Checked.needsSnapshot {payloadType : String}
    (hr : ∀ err, Store.checkSnapshotKey id payloadType = .error err → r = .error err)
    (hrest : Store.checkSnapshotKey id payloadType = .ok () → ∀ err, r = .error err → late err) :
    Checked (Memory.needsSnapshot id payloadType) late r := by
  unfold Store.checkSnapshotKey at hr hrest
  refine .required_or (fun hid => hr _ (if_pos hid)) fun hid => ?_
  rw [if_neg hid] at hr hrest
  exact .required (fun htype => hr _ (if_pos htype)) fun htype => hrest (if_neg htype)

end Checks

/-- The answers of the store are such. -/
theorem methods_mayAnswer {β : Type} (c : StoreMethod β) (s : Store) :
    c.MayAnswer (methods β c s).1 := by
  cases c with
  | append now req =>
      change Checked (needsStream req.streamID) _ (s.append now req).1
      unfold Store.append
      refine .required (fun hid => by rw [if_pos hid]) fun hid err herr => ?_
      rw [if_neg hid] at herr
      simp only at herr
      split at herr
      · rename_i seq hseq
        split at herr
        · cases herr
          refine ⟨fun hkey => ?_, rfl⟩
          rw [if_neg (not_not.mpr hkey)] at hseq
          cases hseq
        · cases herr
      · cases herr
  | waitForStream id after =>
      change Checked (needsStream id) _ (s.waitForStream id after).1
      unfold Store.waitForStream
      refine .required (fun hid => by rw [if_pos hid]) fun hid err herr => ?_
      rw [if_neg hid] at herr
      cases herr
  | giveUp id i => trivial
  | getHead id =>
      change Checked (needsStream id) _ (s.getHead id)
      unfold Store.getHead
      refine .required (fun hid => if_pos hid) fun hid err herr => ?_
      rw [if_neg hid] at herr
      split at herr <;> cases herr
  | read id after limit =>
      change Checked (needsStream id) _ (s.read id after limit)
      unfold Store.read
      refine .required (fun hid => if_pos hid) fun hid err herr => ?_
      rw [if_neg hid] at herr
      simp only at herr
      split at herr
      · cases herr
      · split at herr
        · cases herr
          rfl
        · split at herr
          · cases herr
          · split at herr <;> cases herr
  | getCursor b id =>
      change Checked (needsCursor b id) _ (s.getCursor b id)
      unfold Store.getCursor
      refine .needsCursor (fun hb => if_pos hb) (fun hb hid => by rw [if_neg hb, if_pos hid]) ?_
      intro hb hid err herr
      rw [if_neg hb, if_neg hid] at herr
      split at herr <;> cases herr
  | ack req =>
      change Checked (needsCursor req.subscriberID req.streamID) _ (s.ack req).1
      unfold Store.ack
      refine .needsCursor (fun hb => by rw [if_pos hb])
        (fun hb hid => by rw [if_neg hb, if_pos hid]) ?_
      intro hb hid err herr
      rw [if_neg hb, if_neg hid] at herr
      simp only at herr
      split_ifs at herr
  | createStream id =>
      change Checked (needsStream id) _ (s.createStream id).1
      unfold Store.createStream
      refine .required (fun hid => by rw [if_pos hid]) fun hid err herr => ?_
      rw [if_neg hid] at herr
      cases herr
  | deleteStream id =>
      change Checked (needsStream id) _ (s.deleteStream id).1
      unfold Store.deleteStream
      refine .required (fun hid => by rw [if_pos hid]) fun hid err herr => ?_
      rw [if_neg hid] at herr
      cases herr
  | listStreams order pre limit => trivial
  | resetCursor b id seq metadata =>
      change Checked (needsCursor b id) _ (s.resetCursor b id seq metadata).1
      unfold Store.resetCursor
      refine .needsCursor (fun hb => by rw [if_pos hb])
        (fun hb hid => by rw [if_neg hb, if_pos hid]) ?_
      intro hb hid err herr
      rw [if_neg hb, if_neg hid] at herr
      cases herr
  | listCursors order id =>
      change Checked (needsStream id) _ (s.listCursors order id)
      unfold Store.listCursors
      refine .required (fun hid => if_pos hid) fun hid err herr => ?_
      rw [if_neg hid] at herr
      cases herr
  | truncateBefore id before =>
      change Checked (needsStream id) _ (s.truncateBefore id before).1
      unfold Store.truncateBefore
      refine .required (fun hid => by rw [if_pos hid]) fun hid err herr => ?_
      rw [if_neg hid] at herr
      split at herr <;> cases herr
  | compactStream id =>
      change Checked (needsStream id) _ (s.compactStream id).1
      unfold Store.compactStream
      refine .required (fun hid => by rw [if_pos hid]) fun hid err herr => ?_
      rw [if_neg hid] at herr
      split at herr
      · cases herr
      · split_ifs at herr
        unfold Store.truncateBefore at herr
        rw [if_neg hid] at herr
        split at herr
        · rename_i hanswer
          split at hanswer <;> cases hanswer
        · cases herr
  | setStreamRetention now retention =>
      change Checked (needsStream retention.streamID) _ (s.setStreamRetention now retention).1
      unfold Store.setStreamRetention
      refine .required (fun hid => by rw [if_pos hid]) fun hid err herr => ?_
      rw [if_neg hid] at herr
      cases herr
  | getStreamStats id =>
      change Checked (needsStream id) _ (s.getStreamStats id)
      unfold Store.getStreamStats
      refine .required (fun hid => if_pos hid) fun hid err herr => ?_
      rw [if_neg hid] at herr
      cases herr
  | putSnapshot req =>
      change Checked (needsSnapshot req.streamID req.payloadType) _ (s.putSnapshot req).1
      unfold Store.putSnapshot
      refine .needsSnapshot (fun err hcheck => by rw [hcheck]) fun hcheck err herr => ?_
      simp only [hcheck] at herr
      split at herr
      · split_ifs at herr
        cases herr
      · cases herr
  | getLatestSnapshot id payloadType maxPayloadVersion =>
      change Checked (needsSnapshot id payloadType) _
        (s.getLatestSnapshot id payloadType maxPayloadVersion)
      unfold Store.getLatestSnapshot
      refine .needsSnapshot (fun err hcheck => by rw [hcheck]) fun hcheck err herr => ?_
      simp only [hcheck] at herr
      split at herr
      · cases herr
        rfl
      · cases herr
  | getSnapshot key =>
      change Checked (needsSnapshot key.streamID key.payloadType) _ (s.getSnapshot key)
      unfold Store.getSnapshot
      refine .needsSnapshot (fun err hcheck => by rw [hcheck]) fun hcheck err herr => ?_
      simp only [hcheck] at herr
      split at herr
      · cases herr
        rfl
      · cases herr
  | listSnapshots order id payloadType limit =>
      change Checked (needsStream id) _ (s.listSnapshots order id payloadType limit)
      unfold Store.listSnapshots
      refine .required (fun hid => if_pos hid) fun hid err herr => ?_
      rw [if_neg hid] at herr
      cases herr
  | deleteSnapshot key =>
      change Checked (needsSnapshot key.streamID key.payloadType) _ (s.deleteSnapshot key).1
      unfold Store.deleteSnapshot
      refine .needsSnapshot (fun err hcheck => by rw [hcheck]) fun hcheck err herr => ?_
      simp only [hcheck] at herr
      split at herr <;> cases herr

/-- Every section answers as it may. -/
theorem sections_mayAnswer {β : Type} (c : StoreSection β) (s : Store) :
    SectionMayAnswer β c (sections β c s).1 := by
  rcases c with c | ⟨id⟩ | ⟨id, before⟩
  · exact methods_mayAnswer c s
  · trivial
  · exact methods_mayAnswer (.truncateBefore id before) s

end Synclog.Memory
