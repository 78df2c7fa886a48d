import Synclog.Lib.Outcome
import Synclog.Memory.Refusals
import Synclog.Transport.RawServer

/-!
# Refused requests

A request to the raw server is refused before anything is looked up if the server was not given what
the method needs, or if a value of the request is missing. After that a request fails in four ways
only, each with a status of its own, however many requests are served at the same time
(`raw_requests_refused`): there is no `Internal` error of a server in front of the memory store.
-/

namespace Synclog.Transport

open Synclog.Lib Synclog.Core Synclog.Memory Synclog.Gateway

/-! ## The errors of a request -/

/-- The status of a request without a value that it needs. -/
def malformed (missing : Option GoError) : Option GoError :=
  missing.map fun err => statusError .invalidArgument err.message

namespace RawServer

/-- The error with which a method is refused for which the server must have been given something. -/
def gate (given : Bool) (what : String) (missing : Option GoError) : Option GoError :=
  if given then malformed missing else some (notConfigured what)

/-- The error with which a request is refused before anything is looked up. -/
def refusal (srv : RawServer) : RawRequest → Option GoError
  | .append id .. => malformed (needsStream id)
  | .getHead id => malformed (needsStream id)
  | .getCursor b id => malformed (needsCursor b id)
  | .catchUp b id .. => malformed (needsCursor b id)
  | .ack b id .. => malformed (needsCursor b id)
  | .putSnapshot req =>
    gate srv.snapshots "snapshot store" (needsSnapshot req.streamID req.payloadType)
  | .getLatestSnapshot id payloadType _ =>
    gate srv.snapshots "snapshot store" (needsSnapshot id payloadType)
  | .getSnapshot key =>
    gate srv.snapshots "snapshot store" (needsSnapshot key.streamID key.payloadType)
  | .listSnapshots _ id .. => gate srv.snapshotAdmin "snapshot admin" (needsStream id)
  | .deleteSnapshot key =>
    gate srv.snapshotAdmin "snapshot admin" (needsSnapshot key.streamID key.payloadType)
  | .createStream id => gate srv.streamRegistry "stream registry" (needsStream id)
  | .deleteStream id => gate srv.streamRegistry "stream registry" (needsStream id)
  | .listStreams .. => gate srv.streamRegistry "stream registry" none
  | .truncateStream id _ => gate srv.streamAdmin "stream admin" (needsStream id)
  | .compactStream id => gate srv.streamAdmin "stream admin" (needsStream id)
  | .setStreamRetention none =>
    gate srv.streamAdmin "stream admin" (some (errInvalidArgument "stream retention is required"))
  | .setStreamRetention (some retention) =>
    gate srv.streamAdmin "stream admin" (needsStream retention.streamID)
  | .resetCursor b id .. => gate srv.cursorAdmin "cursor admin" (needsCursor b id)
  | .listCursors _ id => gate srv.cursorAdmin "cursor admin" (needsStream id)
  | .getStreamStats id => gate srv.streamAdmin "stream admin" (needsStream id)

end RawServer

/-- The errors of a request that is not refused: the event of the key is gone, the acknowledged seq
is above the head, or there is no such snapshot. -/
def RawRequest.MayFail : RawRequest → GoError → Prop
  | .append _ _ _ _ key, err =>
    key ≠ "" ∧ err = statusError .failedPrecondition
      "synclog: replay too long: idempotent event was compacted"
  | .ack _ _ seq _, err =>
    ∃ head < seq, err = statusError .invalidArgument (Engine.errAckAboveHead seq head).message
  | .getLatestSnapshot .., err => err = statusError .notFound "synclog: not found"
  | .getSnapshot _, err => err = statusError .notFound "synclog: not found"
  | _, _ => False

/-! ## Programs that check -/

section Programs

variable {A : (β : Type) → StoreSection β → β → Prop} {α β : Type} {missing : Option GoError}
  {late late' : GoError → Prop}

/-- Where nothing is refused, what comes after a program fails with its own errors. -/
theorem checked_bindE {x : StoreProg α} {f : α → StoreProg β}
    (hx : x.run.Ends A (Checked missing late))
    (hf : missing = none → ∀ a, (f a).run.Ends A (Checked none late)) :
    (x >>= f).run.Ends A (Checked missing late) := by
  refine Prog.Ends.bindE hx (fun a ha => ?_) fun err herr => herr.of_error
  rcases missing with _ | err
  · exact hf rfl a
  · cases ha

/-- A program whose answer is put into a response. -/
theorem checked_response {x : StoreProg α} {f : α → β} (hx : x.run.Ends A (Checked missing late)) :
    (x >>= fun a => pure (f a)).run.Ends A (Checked missing late) :=
  checked_bindE hx fun _ _ => nofun

/-- A program whose error becomes a status. -/
theorem checked_withStatus {x : StoreProg α} (hx : x.run.Ends A (Checked missing late))
    (hmissing : Invalid missing) (hlate : ∀ err, late err → late' (rawStatusError err)) :
    (withStatus x).run.Ends A (Checked (malformed missing) late') := by
  refine Prog.Ends.bind hx fun r hr => ?_
  rcases missing with _ | err
  · rintro err herr
    rcases r with err' | a
    · obtain rfl := Except.error.inj herr
      exact hlate _ (hr _ rfl)
    · cases herr
  · obtain rfl : r = .error err := hr
    obtain ⟨text, rfl⟩ := hmissing _ rfl
    exact rfl

/-- A method of the store, if the server was given it. -/
theorem checked_delegate {given : Bool} {what : String} {x : StoreProg α}
    (hx : x.run.Ends A (Checked missing late)) (hmissing : Invalid missing)
    (hlate : ∀ err, late err → late' (rawStatusError err)) :
    (RawServer.delegate given what x).run.Ends A
      (Checked (RawServer.gate given what missing) late') := by
  unfold RawServer.delegate RawServer.gate
  rcases given with _ | _
  · exact rfl
  · exact checked_withStatus hx hmissing hlate

end Programs

/-! ## The engine in front of the store -/

section Engine

/-- The answers that the calls of an engine may get. -/
def CallMayAnswer (now : Int) (β : Type) (c : StoreCall β) (b : β) : Prop :=
  SectionMayAnswer β (sectionOf now β c) b

variable (now : Int)

/-- An engine's checks come first in front of the store, too. -/
theorem checked_onStore {now : Int} {α : Type} {missing : Option GoError} {late : GoError → Prop}
    {p : ServerProg α} (hp : p.run.Ends (CallMayAnswer now) (Checked missing late)) :
    (onStore now p).run.Ends SectionMayAnswer (Checked missing late) :=
  Prog.Ends.embed (f := sectionOf now) (fun _ _ _ h => h) hp

/-- An append checks the stream id, and then may find its event gone. -/
theorem checked_append (clock : Int) (req : AppendRequest) (hcreated : req.createdAtUnixMS = 0) :
    (Engine.append clock req).run.Ends (CallMayAnswer now)
      (Checked (needsStream req.streamID)
        fun err => req.idempotencyKey ≠ "" ∧ err = errCompacted) := by
  unfold Engine.append
  by_cases hid : req.streamID = ""
  · rw [if_pos hid]
    exact .required (fun _ => rfl) fun hne => absurd hid hne
  · rw [if_neg hid, hcreated, if_neg (lt_irrefl _), if_pos rfl]
    exact fun b hb => hb

/-- Asking for a head checks the stream id only. -/
theorem checked_getHead (id : StreamID) :
    (Engine.getHead id).run.Ends (CallMayAnswer now) (Checked (needsStream id) Never) := by
  unfold Engine.getHead
  by_cases hid : id = ""
  · rw [if_pos hid]
    exact .required (fun _ => rfl) fun hne => absurd hid hne
  · rw [if_neg hid]
    exact fun b hb => hb

/-- Asking for a cursor checks both ids only. -/
theorem checked_getCursor (b : SubscriberID) (id : StreamID) :
    (Engine.getCursor b id).run.Ends (CallMayAnswer now) (Checked (needsCursor b id) Never) := by
  unfold Engine.getCursor
  by_cases hb : b = ""
  · rw [if_pos hb]
    exact .required_or (fun _ => rfl) fun hne => absurd hb hne
  by_cases hid : id = ""
  · rw [if_neg hb, if_pos hid]
    exact .required_or (fun heq => absurd heq hb) fun _ => .required (fun _ => rfl)
      fun hne => absurd hid hne
  · rw [if_neg hb, if_neg hid]
    exact fun b hb => hb

/-- A catch-up checks both ids only. -/
theorem checked_catchUp (req : CatchUpRequest) :
    (Engine.catchUp req).run.Ends (CallMayAnswer now)
      (Checked (needsCursor req.subscriberID req.streamID) Never) := by
  unfold Engine.catchUp
  by_cases hb : req.subscriberID = ""
  · rw [if_pos hb]
    exact .required_or (fun _ => rfl) fun hne => absurd hb hne
  by_cases hid : req.streamID = ""
  · rw [if_neg hb, if_pos hid]
    exact .required_or (fun heq => absurd heq hb) fun _ => .required (fun _ => rfl)
      fun hne => absurd hid hne
  rw [if_neg hb, if_neg hid]
  have hcursor : needsCursor req.subscriberID req.streamID = none :=
    needsCursor_eq_none.mpr ⟨hb, hid⟩
  have hstream : needsStream req.streamID = none := needsStream_eq_none.mpr hid
  refine Prog.Ends.performE_bindE (fun cursor _ => ?_) fun err herr => Checked.of_error herr
  refine Prog.Ends.performE_bindE (fun head _ => ?_) fun err herr => ?_
  · rw [hcursor]
    split_ifs
    · exact fun _ herr => nomatch herr
    · intro batch hbatch
      change Checked (needsStream req.streamID) (· = errTooLong) batch at hbatch
      rw [hstream] at hbatch
      intro err herr
      unfold Engine.withBatch at herr
      split at herr
      · rename_i err'
        obtain rfl : err' = errTooLong := hbatch _ rfl
        rw [if_pos (by decide)] at herr
        cases herr
      · cases herr
  · change Checked (needsStream req.streamID) Never _ at herr
    rw [hstream] at herr
    rw [hcursor]
    exact herr.of_error

/-- An acknowledgement checks both ids, and then the head. -/
theorem checked_ack (req : AckRequest) :
    (Engine.ack req).run.Ends (CallMayAnswer now)
      (Checked (needsCursor req.subscriberID req.streamID)
        fun err => ∃ head < req.seq, err = Engine.errAckAboveHead req.seq head) := by
  unfold Engine.ack
  by_cases hb : req.subscriberID = ""
  · rw [if_pos hb]
    exact .required_or (fun _ => rfl) fun hne => absurd hb hne
  by_cases hid : req.streamID = ""
  · rw [if_neg hb, if_pos hid]
    exact .required_or (fun heq => absurd heq hb) fun _ => .required (fun _ => rfl)
      fun hne => absurd hid hne
  rw [if_neg hb, if_neg hid]
  have hcursor : needsCursor req.subscriberID req.streamID = none :=
    needsCursor_eq_none.mpr ⟨hb, hid⟩
  have hstream : needsStream req.streamID = none := needsStream_eq_none.mpr hid
  rw [hcursor]
  refine Prog.Ends.performE_bindE (fun head _ => ?_) fun err herr => ?_
  · split_ifs with habove
    · intro err herr
      exact ⟨head.cursor.seq, habove, (Except.error.inj herr).symm⟩
    · refine Prog.Ends.performE_bindE (fun cursor _ => ?_) fun err herr => ?_
      · exact fun err herr => nomatch herr
      · change Checked (needsCursor req.subscriberID req.streamID) Never _ at herr
        rw [hcursor] at herr
        exact fun err _ => (herr _ rfl).elim
  · change Checked (needsStream req.streamID) Never _ at herr
    rw [hstream] at herr
    exact fun err _ => (herr _ rfl).elim

end Engine

/-! ## The requests -/

/-- The answers that the sections of a compaction may get. -/
def CompactMayAnswer (β : Type) (c : AdminCall β) (b : β) : Prop := SectionMayAnswer β (.inr c) b

/-- The second section of a compaction does not fail. -/
theorem checked_truncateBehind {id : StreamID} (hid : id ≠ "") (minSeq : Option Nat) :
    (Admin.truncateBehind id minSeq).run.Ends CompactMayAnswer (Checked none Never) := by
  have hdone : Checked none Never (.ok () : Except GoError Unit) := fun _ herr => nomatch herr
  rcases minSeq with _ | minSeq
  · exact hdone
  unfold Admin.truncateBehind
  simp only
  split_ifs
  · refine Prog.Ends.performE_bindE (fun removed _ => hdone) fun err herr => ?_
    change Checked (needsStream id) Never _ at herr
    rw [needsStream_eq_none.mpr hid] at herr
    exact herr.of_error
  · exact hdone

/-- A compaction is refused or does not fail. -/
theorem checked_compactSections (id : StreamID) :
    (compactSections id).Ends SectionMayAnswer (Checked (needsStream id) Never) := by
  refine Prog.Ends.embed (A := CompactMayAnswer) (f := fun _ => Sum.inr) (fun _ _ _ h => h) ?_
  unfold Admin.compactStream
  by_cases hid : id = ""
  · rw [if_pos hid]
    exact .required (fun _ => rfl) fun hne => absurd hid hne
  · rw [if_neg hid, needsStream_eq_none.mpr hid]
    exact fun minSeq _ => checked_truncateBehind hid minSeq

/-- A request is refused, or fails with one of its errors, or is answered. -/
theorem answer_ends (srv : RawServer) (clocks : Clocks) (req : RawRequest) :
    (srv.answer clocks req).run.Ends SectionMayAnswer
      (Checked (srv.refusal req) req.MayFail) := by
  have hnever : ∀ {late : GoError → Prop} err, Never err → late (rawStatusError err) :=
    fun _ herr => herr.elim
  have hnotFound : ∀ err, err = errNotFound →
      rawStatusError err = statusError .notFound "synclog: not found" := by
    rintro _ rfl
    rfl
  cases req with
  | append id payload payloadType payloadVersion key =>
      have happend := checked_append clocks.store clocks.engine
        { streamID := id, payload, payloadType, payloadVersion, idempotencyKey := key } rfl
      refine checked_response (checked_withStatus (checked_onStore happend)
        (invalid_needsStream id) ?_)
      rintro _ ⟨hkey, rfl⟩
      exact ⟨hkey, rfl⟩
  | getHead id =>
      exact checked_response (checked_withStatus (checked_onStore (checked_getHead _ id))
        (invalid_needsStream id) hnever)
  | getCursor b id =>
      refine checked_bindE (checked_withStatus (checked_onStore (checked_getCursor _ b id))
        (invalid_needsCursor b id) hnever) fun hnone cursor => ?_
      have hid : needsStream id = none := by
        have hcursor : needsCursor b id = none := Option.map_eq_none_iff.mp hnone
        exact needsStream_eq_none.mpr (needsCursor_eq_none.mp hcursor).2
      have hhead : (withStatus (onStore clocks.store (Engine.getHead id))).run.Ends
          SectionMayAnswer (Checked (malformed (needsStream id))
            (RawRequest.getCursor b id).MayFail) :=
        checked_withStatus (checked_onStore (checked_getHead _ id)) (invalid_needsStream id) hnever
      rw [hid] at hhead
      exact checked_response hhead
  | catchUp b id limit totalLimit =>
      have hcatchUp := checked_catchUp clocks.store
        { subscriberID := b, streamID := id, limit, totalLimit }
      exact checked_response (checked_withStatus (checked_onStore hcatchUp)
        (invalid_needsCursor b id) hnever)
  | ack b id seq metadata =>
      have hack := checked_ack clocks.store { subscriberID := b, streamID := id, seq, metadata }
      refine checked_response (checked_withStatus (checked_onStore hack)
        (invalid_needsCursor b id) ?_)
      rintro _ ⟨head, hlt, rfl⟩
      exact ⟨head, hlt, rfl⟩
  | putSnapshot req =>
      exact checked_delegate (checked_response fun _ h => h) (invalid_needsSnapshot _ _) hnever
  | getLatestSnapshot id payloadType maxPayloadVersion =>
      exact checked_delegate (checked_response fun _ h => h) (invalid_needsSnapshot _ _) hnotFound
  | getSnapshot key =>
      exact checked_delegate (checked_response fun _ h => h) (invalid_needsSnapshot _ _) hnotFound
  | listSnapshots order id payloadType limit =>
      exact checked_delegate (checked_response fun _ h => h) (invalid_needsStream id) hnever
  | deleteSnapshot key =>
      exact checked_delegate (checked_response fun _ h => h) (invalid_needsSnapshot _ _) hnever
  | createStream id =>
      exact checked_delegate (checked_response fun _ h => h) (invalid_needsStream id) hnever
  | deleteStream id =>
      exact checked_delegate (checked_response fun _ h => h) (invalid_needsStream id) hnever
  | listStreams order pre limit =>
      have hlist : ∀ r : Option (List StreamID),
          Checked none Never (.ok (.streams r) : Except GoError RawResponse) := fun _ => nofun
      exact checked_delegate (fun r _ => hlist r) nofun hnever
  | truncateStream id before =>
      exact checked_delegate (checked_response fun _ h => h) (invalid_needsStream id) hnever
  | compactStream id =>
      refine checked_delegate (checked_bindE (checked_compactSections id) fun _ _ => nofun)
        (invalid_needsStream id) hnever
  | setStreamRetention retention =>
      rcases retention with _ | retention
      · have hmissing : Checked (some (errInvalidArgument "stream retention is required")) Never
            (.error (errInvalidArgument "stream retention is required") :
              Except GoError RawResponse) := rfl
        refine checked_delegate hmissing ?_ hnever
        rintro _ ⟨⟩
        exact ⟨_, rfl⟩
      · exact checked_delegate (checked_response fun _ h => h) (invalid_needsStream _) hnever
  | resetCursor b id seq metadata =>
      exact checked_delegate (checked_response fun _ h => h) (invalid_needsCursor b id) hnever
  | listCursors order id =>
      exact checked_delegate (checked_response fun _ h => h) (invalid_needsStream id) hnever
  | getStreamStats id =>
      exact checked_delegate (checked_response fun _ h => h) (invalid_needsStream id) hnever

/-- **Refused requests.** Whatever else is done to the store at the same time, a request without a
value that it needs, or to a server without what it needs, is refused with the error of the first
thing that is missing; any other request is answered, or fails with an error of its own. -/
theorem raw_requests_refused {ι : Type} [DecidableEq ι] (srv : RawServer) (clocks : Clocks)
    (req : RawRequest) {p : ι → Prog StoreSection (Except GoError RawResponse)} {i : ι}
    (hi : p i = (srv.answer clocks req).run) {s : Store} {ls : List (PoolLabel ι Unit)}
    {P : Pool StoreSection Store (Except GoError RawResponse) ι}
    (hrun : (Pool.machine (fun _ => sections) p).run ls { shared := s } = some P)
    {r : Except GoError RawResponse} (hanswer : P.answer i = some r) :
    Checked (srv.refusal req) req.MayFail r :=
  Pool.ends_run (I := fun _ => True) (fun _ _ _ _ _ => trivial)
    (fun _ _ c s _ => sections_mayAnswer c s) trivial (hi ▸ answer_ends srv clocks req) hrun hanswer

/-- The event is appended after the acknowledgement has looked at the head. -/
def ackBeforeAppend : Bool → RawRequest
  | true => .ack "device" "s" 1 ""
  | false => .append "s" [] "" 0 ""

/-- An acknowledgement above the head is refused, the append next to it is not. -/
theorem raw_requests_refused_ack :
    ∃ P, (Pool.machine (fun _ => sections) fun b =>
        (RawServer.answer {} ⟨0, 0⟩ (ackBeforeAppend b)).run).run
          [.start true, .start false, .advance true (), .advance false ()]
          { shared := newStore } = some P ∧
      P.answer false = some (.ok (.appended 1 false)) ∧
      Checked (RawServer.refusal {} (ackBeforeAppend true)) (ackBeforeAppend true).MayFail
        (.error (statusError .invalidArgument (Engine.errAckAboveHead 1 0).message) :
          Except GoError RawResponse) := by
  have hrun : (Pool.machine (fun _ => sections) fun b =>
      (RawServer.answer {} ⟨0, 0⟩ (ackBeforeAppend b)).run).run
        [.start true, .start false, .advance true (), .advance false ()]
        { shared := newStore } = some _ := rfl
  exact ⟨_, hrun, rfl, raw_requests_refused (i := true) {} ⟨0, 0⟩ _ rfl hrun rfl⟩

end Synclog.Transport
