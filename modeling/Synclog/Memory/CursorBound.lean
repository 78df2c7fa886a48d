import Synclog.Lib.Machine
import Synclog.Memory.Interference

/-!
# Committed cursors and the head

`Engine.Ack` checks the head and then writes the cursor, in two calls to the storage. `engines` is
the machine of any number of `Append` and `Ack` methods of the engine that run at the same time,
with operations on the store between any two of their calls. An acknowledgement is *overtaken* when
its stream was deleted since its head check: what it has checked is no longer so, and its cursor is
written all the same.

* `Op.head_le` — only `DeleteStream` takes the head of a stream back.
* `EnginesInv` — what holds in every reachable state while no overtaken acknowledgement writes a
  cursor above the head.
* `cursors_below_head_iff` — no committed cursor is ever ahead of its stream, exactly in the runs in
  which each overtaken acknowledgement finds a stream that has grown again to the seq it writes.
-/

namespace Synclog.Memory

open Synclog.Lib Synclog.Core

/-! ## The head -/

/-- Only `DeleteStream` takes the head of a stream back. -/
theorem Op.head_le {op : Op} {id : StreamID} (hop : op ≠ .deleteStream id) {s : Store}
    (hs : Reachable s) : (s.ensureStream id).head ≤ ((op.apply s).ensureStream id).head := by
  obtain ⟨L, hL⟩ := hs.holds id
  obtain ⟨L', hL', hkept⟩ := op.holds hL
  obtain ⟨⟨hall, -⟩, -⟩ := hkept hop
  rw [hL.head, hL'.head]
  exact hall.length_le

/-- No stored cursor is ahead of its stream; a stream that does not exist has the head `0`. -/
def CursorsBelowHead (s : Store) : Prop :=
  ∀ key cursor, s.cursors.lookup key = some cursor →
    cursor.cursor.seq ≤ (s.ensureStream key.streamID).head

/-- The operation is neither of the two that write a cursor. -/
def Op.WritesNoCursor : Op → Prop
  | .ack _ => False
  | .resetCursor .. => False
  | _ => True

/-- A cursor that is there after an operation that writes none was there before, and its stream was
not deleted. -/
theorem Op.cursors_kept {op : Op} (hop : op.WritesNoCursor) {s : Store} {key : CursorKey}
    {cursor : SubscriberCursor} (h : (op.apply s).cursors.lookup key = some cursor) :
    s.cursors.lookup key = some cursor ∧
      (op = .deleteStream key.streamID → op.apply s = s) := by
  cases op with
  | ack => exact hop.elim
  | resetCursor => exact hop.elim
  | putSnapshot req =>
      exact ⟨s.putSnapshot_cursors req ▸ h, fun heq => by cases heq⟩
  | deleteSnapshot key' =>
      exact ⟨s.deleteSnapshot_cursors key' ▸ h, fun heq => by cases heq⟩
  | deleteStream streamID =>
      unfold Op.apply Store.deleteStream at h ⊢
      simp only at h ⊢
      split_ifs at h ⊢ with hempty
      · exact ⟨h, fun _ => rfl⟩
      · simp only [FinMap.lookup_keep] at h
        split_ifs at h with hkeep
        refine ⟨h, ?_⟩
        rintro heq
        cases heq
        simp at hkeep
  | append | createStream | truncateBefore | compactStream | setStreamRetention |
    registerWatcher | removeWatcher =>
      rw [Op.aside cursors_aside] at h
      · exact ⟨h, fun heq => by cases heq⟩
      · trivial

/-- An operation that writes no cursor puts none ahead of its stream. -/
theorem CursorsBelowHead.apply {s : Store} (hs : Reachable s) (h : CursorsBelowHead s) {op : Op}
    (hop : op.WritesNoCursor) : CursorsBelowHead (op.apply s) := by
  intro key cursor hlookup
  obtain ⟨hold, hdeleted⟩ := op.cursors_kept hop hlookup
  by_cases heq : op = .deleteStream key.streamID
  · rw [hdeleted heq]
    exact h key cursor hold
  · exact (h key cursor hold).trans (op.head_le heq hs)

/-- An acknowledgement at or below the head puts no cursor ahead of its stream. -/
theorem CursorsBelowHead.ack {s : Store} (hs : Reachable s) (h : CursorsBelowHead s)
    {req : AckRequest} (hreq : req.seq ≤ (s.ensureStream req.streamID).head) :
    CursorsBelowHead (s.ack req).2 := by
  intro key cursor hlookup
  rw [Store.ensureStream_ack]
  rcases Store.ack_cursors hs.cursorsNamed req with hsame | ⟨written, -, hseq, -, hinsert⟩
  · exact h key cursor (hsame ▸ hlookup)
  · rw [hinsert, FinMap.lookup_insert_eq_ite] at hlookup
    split_ifs at hlookup with hkey
    · cases hlookup
      rw [hseq, hkey]
      exact hreq
    · exact h key cursor hlookup

/-- An acknowledgement above the head leaves some cursor ahead of its stream: the one it has
written, or one that was there before. -/
theorem CursorsBelowHead.not_ack {s : Store} (hs : Reachable s) {req : AckRequest}
    (hsub : req.subscriberID ≠ "") (hid : req.streamID ≠ "")
    (hreq : (s.ensureStream req.streamID).head < req.seq) : ¬ CursorsBelowHead (s.ack req).2 := by
  intro h
  have hle : req.seq ≤ (s.ack req).2.committed req.subscriberID req.streamID := by
    rw [Store.ack_committed hs.cursorsNamed hsub hid]
    exact le_max_right _ _
  rw [← Store.ensureStream_ack s req req.streamID] at hreq
  unfold Store.committed Store.cursorOf at hle
  cases hlookup : (s.ack req).2.cursors.lookup ⟨req.subscriberID, req.streamID⟩ with
  | none =>
      rw [hlookup] at hle
      simp only [Option.getD_none] at hle
      omega
  | some cursor =>
      have hbelow : cursor.cursor.seq ≤ ((s.ack req).2.ensureStream req.streamID).head :=
        h _ cursor hlookup
      rw [hlookup] at hle
      simp only [Option.getD_some] at hle
      omega

/-! ## Methods of the engine that run at the same time -/

/-- An acknowledgement of the engine that is running: what is left of it, and whether its stream was
deleted since its head check. -/
structure RunningAck where
  rest : Prog StoreCall (Except GoError AckResult)
  overtaken : Bool := false

/-- The request of the cursor write that comes next. -/
def RunningAck.writes (a : RunningAck) : Option AckRequest :=
  match a.rest with
  | .call (.ack req) _ => some req
  | _ => none

/-- Somebody performs an operation on the store: the deletion of its stream overtakes an
acknowledgement that is about to write. -/
def RunningAck.afterOp (op : Op) (a : RunningAck) : RunningAck :=
  match op, a.writes with
  | .deleteStream streamID, some req =>
    if req.streamID = streamID then { a with overtaken := true } else a
  | _, _ => a

/-- The store, and the methods of the engine that are running. -/
structure Engines where
  store : Store := newStore
  appends : List (Prog StoreCall (Except GoError AppendResult)) := []
  acks : List RunningAck := []

/-- What may happen next: a method is called, a running one makes its next call to the storage, or
somebody performs an operation on the store other than `Ack` and `ResetCursor`. -/
inductive EngineLabel
  | callAppend (clock : Int) (req : AppendRequest)
  | callAck (req : AckRequest)
  | stepAppend (i : Nat) (now : Int)
  | stepAck (i : Nat) (now : Int)
  | other (op : Op) (hop : op.WritesNoCursor)

/-- The machine of the running methods. -/
def engines : Machine Engines EngineLabel where
  step
    | .callAppend clock req, σ =>
      some { σ with appends := σ.appends ++ [(Engine.append clock req).run] }
    | .callAck req, σ => some { σ with acks := σ.acks ++ [{ rest := (Engine.ack req).run }] }
    | .stepAppend i now, σ =>
      match σ.appends[i]? with
      | none => none
      | some p => (p.advance (handler now) σ.store).map fun next =>
        { σ with store := next.2, appends := σ.appends.set i next.1 }
    | .stepAck i now, σ =>
      match σ.acks[i]? with
      | none => none
      | some a => (a.rest.advance (handler now) σ.store).map fun next =>
        { σ with store := next.2, acks := σ.acks.set i { rest := next.1 } }
    | .other op _, σ =>
      some { σ with store := op.apply σ.store, acks := σ.acks.map (RunningAck.afterOp op) }

/-- An overtaken acknowledgement that writes its cursor finds a stream that has grown again to the
seq it writes. -/
def GrownAgain : EngineLabel → Engines → Prop
  | .stepAck i _, σ => ∀ a req, σ.acks[i]? = some a → a.writes = some req → a.overtaken = true →
      req.seq ≤ (σ.store.ensureStream req.streamID).head
  | _, _ => True

/-! ## The two calls of an acknowledgement -/

/-- What is left of an acknowledgement behind its head check. -/
def ackWrite (req : AckRequest) (head : StreamHead) : Prog StoreCall (Except GoError AckResult) :=
  .call (.ack req) fun
    | .ok cursor => .ret (.ok { cursor, head })
    | .error err => .ret (.error err)

/-- `Engine.Ack` as its first call and what follows it. -/
theorem run_ack {req : AckRequest} (hsub : req.subscriberID ≠ "") (hid : req.streamID ≠ "") :
    (Engine.ack req).run = .call (.getHead req.streamID) fun
      | .ok head =>
        if req.seq > head.cursor.seq then
          .ret (.error (Engine.errAckAboveHead req.seq head.cursor.seq))
        else ackWrite req head
      | .error err => .ret (.error err) := by
  unfold Engine.ack
  rw [if_neg hsub, if_neg hid]
  show Prog.call _ _ = Prog.call _ _
  congr 1
  funext answer
  cases answer with
  | error err => rfl
  | ok head =>
      simp only [Prog.bind, ExceptT.bindCont]
      split_ifs
      · rfl
      · show Prog.call _ _ = Prog.call _ _
        congr 1
        funext written
        cases written <;> rfl

/-- With an empty id an acknowledgement ends before its first call. -/
theorem run_ack_invalid {req : AckRequest} (h : ¬ (req.subscriberID ≠ "" ∧ req.streamID ≠ "")) :
    ∃ err, (Engine.ack req).run = .ret (.error err) := by
  unfold Engine.ack
  split_ifs with hsub hid
  · exact ⟨_, rfl⟩
  · exact ⟨_, rfl⟩
  · exact absurd ⟨hsub, hid⟩ h

/-- Where a running acknowledgement is: called, behind its head check, or done. Unless it is
overtaken, what it has checked is still so. -/
inductive AckPhase (s : Store) : RunningAck → Prop
  | called (req : AckRequest) (overtaken : Bool) :
      AckPhase s { rest := (Engine.ack req).run, overtaken }
  | checked (req : AckRequest) (head : StreamHead) (overtaken : Bool)
      (hsub : req.subscriberID ≠ "") (hid : req.streamID ≠ "")
      (hle : overtaken = false → req.seq ≤ (s.ensureStream req.streamID).head) :
      AckPhase s { rest := ackWrite req head, overtaken }
  | done (r : Except GoError AckResult) (overtaken : Bool) :
      AckPhase s { rest := .ret r, overtaken }

/-- The cursor write that comes next is that of an acknowledgement behind its head check. -/
theorem AckPhase.of_writes {s : Store} {a : RunningAck} {req : AckRequest} (ha : AckPhase s a)
    (h : a.writes = some req) :
    req.subscriberID ≠ "" ∧ req.streamID ≠ "" ∧ (∃ head, a.rest = ackWrite req head) ∧
      (a.overtaken = false → req.seq ≤ (s.ensureStream req.streamID).head) := by
  cases ha with
  | called req' overtaken =>
      unfold RunningAck.writes at h
      simp only at h
      by_cases hids : req'.subscriberID ≠ "" ∧ req'.streamID ≠ ""
      · rw [run_ack hids.1 hids.2] at h
        cases h
      · obtain ⟨err, herr⟩ := run_ack_invalid hids
        rw [herr] at h
        cases h
  | checked req' head overtaken hsub hid hle =>
      cases h
      exact ⟨hsub, hid, ⟨head, rfl⟩, hle⟩
  | done r overtaken => cases h

/-- While no head goes back, a running acknowledgement stays where it is. -/
theorem AckPhase.mono {s t : Store}
    (hle : ∀ id, (s.ensureStream id).head ≤ (t.ensureStream id).head) {a : RunningAck}
    (ha : AckPhase s a) : AckPhase t a := by
  cases ha with
  | called req overtaken => exact .called req overtaken
  | checked req head overtaken hsub hid hbelow =>
      exact .checked req head overtaken hsub hid fun ho => (hbelow ho).trans (hle _)
  | done r overtaken => exact .done r overtaken

/-- An operation moves no running acknowledgement; a deletion overtakes those behind their head
check on its stream. -/
theorem AckPhase.afterOp {s : Store} (hs : Reachable s) {a : RunningAck} (ha : AckPhase s a)
    (op : Op) : AckPhase (op.apply s) (a.afterOp op) := by
  have hrest : ∃ overtaken, a.afterOp op = { rest := a.rest, overtaken } := by
    unfold RunningAck.afterOp
    split
    · split_ifs
      · exact ⟨true, rfl⟩
      · exact ⟨a.overtaken, rfl⟩
    · exact ⟨a.overtaken, rfl⟩
  cases ha with
  | called req overtaken =>
      obtain ⟨o, ho⟩ := hrest
      rw [ho]
      exact .called req o
  | checked req head overtaken hsub hid hle =>
      by_cases hop : op = .deleteStream req.streamID
      · have hovertaken : RunningAck.afterOp op { rest := ackWrite req head, overtaken } =
            { rest := ackWrite req head, overtaken := true } := by
          rw [hop]
          exact if_pos rfl
        rw [hovertaken]
        exact .checked req head true hsub hid fun hfalse => by cases hfalse
      · have hkept : RunningAck.afterOp op { rest := ackWrite req head, overtaken } =
            { rest := ackWrite req head, overtaken } := by
          unfold RunningAck.afterOp
          split
          · rename_i hwrites
            cases hwrites
            exact if_neg fun heq => hop (by rw [heq])
          · rfl
        rw [hkept]
        exact .checked req head overtaken hsub hid fun ho => (hle ho).trans (op.head_le hop hs)
  | done r overtaken =>
      obtain ⟨o, ho⟩ := hrest
      rw [ho]
      exact .done r o

/-! ## The invariant -/

/-- The calls that append. -/
inductive IsAppend : (β : Type) → StoreCall β → Prop
  | append (req : AppendRequest) : IsAppend _ (.append req)

/-- An append does not acknowledge. -/
theorem append_only_appends (clock : Int) (req : AppendRequest) :
    Prog.Only IsAppend (Engine.append clock req).run := by
  unfold Engine.append
  split_ifs
  · trivial
  · trivial
  · exact ⟨.append _, fun _ => trivial⟩
  · exact ⟨.append _, fun _ => trivial⟩

/-- What holds in every reachable state while no overtaken acknowledgement writes a cursor above the
head. -/
structure EnginesInv (σ : Engines) : Prop where
  reachable : Reachable σ.store
  below : CursorsBelowHead σ.store
  appends : ∀ p ∈ σ.appends, Prog.Only IsAppend p
  acks : ∀ a ∈ σ.acks, AckPhase σ.store a

namespace EnginesInv

variable {σ : Engines}

/-- At the start nothing is acknowledged. -/
theorem start : EnginesInv {} where
  reachable := ⟨[], rfl⟩
  below := by
    intro key cursor hlookup
    simp [newStore] at hlookup
  appends := by simp
  acks := by simp

/-- Somebody performs an operation that writes no cursor. -/
theorem other (hσ : EnginesInv σ) {op : Op} (hop : op.WritesNoCursor) :
    EnginesInv
      { σ with store := op.apply σ.store, acks := σ.acks.map (RunningAck.afterOp op) } where
  reachable := hσ.reachable.apply op
  below := hσ.below.apply hσ.reachable hop
  appends := hσ.appends
  acks a ha := by
    obtain ⟨a', ha', rfl⟩ := List.mem_map.mp ha
    exact (hσ.acks a' ha').afterOp hσ.reachable op

/-- A running append makes its next call. -/
theorem stepAppend {τ : Engines} (hσ : EnginesInv σ) {i : Nat} {now : Int}
    (h : engines.step (.stepAppend i now) σ = some τ) : EnginesInv τ := by
  unfold engines at h
  simp only at h
  split at h
  · cases h
  · rename_i p hp
    obtain ⟨⟨p', t⟩, hadv, rfl⟩ := Option.map_eq_some_iff.mp h
    have honly := hσ.appends p (List.mem_of_getElem? hp)
    obtain ⟨hrest, β, c, hc, rfl⟩ := honly.of_advance hadv
    obtain ⟨req⟩ := hc
    have hle : ∀ id, (σ.store.ensureStream id).head ≤
        (((Op.append now req).apply σ.store).ensureStream id).head :=
      fun id => Op.head_le (by simp) hσ.reachable
    have hbelow : CursorsBelowHead ((Op.append now req).apply σ.store) :=
      hσ.below.apply hσ.reachable trivial
    refine ⟨hσ.reachable.apply (.append now req), hbelow, ?_, fun a ha => (hσ.acks a ha).mono hle⟩
    intro q hq
    rcases List.mem_or_eq_of_mem_set hq with hold | rfl
    · exact hσ.appends q hold
    · exact hrest

/-- A running acknowledgement makes its next call: where it writes its cursor, the cursor is not
above the head. -/
theorem stepAck {τ : Engines} (hσ : EnginesInv σ) {i : Nat} {now : Int}
    (hgrown : GrownAgain (.stepAck i now) σ) (h : engines.step (.stepAck i now) σ = some τ) :
    EnginesInv τ := by
  unfold engines at h
  simp only at h
  split at h
  · cases h
  · rename_i a ha
    obtain ⟨⟨p', t⟩, hadv, rfl⟩ := Option.map_eq_some_iff.mp h
    have hphase := hσ.acks a (List.mem_of_getElem? ha)
    have hset : ∀ {s : Store}, (∀ id, (σ.store.ensureStream id).head = (s.ensureStream id).head) →
        AckPhase s { rest := p' } →
        ∀ b ∈ σ.acks.set i { rest := p' }, AckPhase s b := by
      intro s hheads hnew b hb
      rcases List.mem_or_eq_of_mem_set hb with hold | rfl
      · exact (hσ.acks b hold).mono fun id => (hheads id).le
      · exact hnew
    cases hphase with
    | called req overtaken =>
        -- the head check
        by_cases hids : req.subscriberID ≠ "" ∧ req.streamID ≠ ""
        · rw [run_ack hids.1 hids.2] at hadv
          simp only [Prog.advance, handler, σ.store.getHead_eq hids.2] at hadv
          cases hadv
          refine ⟨hσ.reachable, hσ.below, hσ.appends, hset (fun id => rfl) ?_⟩
          split_ifs with habove
          · exact .done _ false
          · exact .checked req _ false hids.1 hids.2 fun _ => Nat.le_of_not_lt habove
        · obtain ⟨err, herr⟩ := run_ack_invalid hids
          rw [herr] at hadv
          cases hadv
    | checked req head overtaken hsub hid hle =>
        -- the cursor write
        cases hadv
        have hbelow : req.seq ≤ (σ.store.ensureStream req.streamID).head := by
          cases overtaken with
          | false => exact hle rfl
          | true => exact hgrown _ req ha rfl rfl
        have hheads : ∀ id, (σ.store.ensureStream id).head =
            ((σ.store.ack req).2.ensureStream id).head := by
          intro id
          rw [Store.ensureStream_ack]
        refine ⟨hσ.reachable.apply (.ack req), hσ.below.ack hσ.reachable hbelow, hσ.appends,
          hset hheads ?_⟩
        show AckPhase _ { rest := match (σ.store.ack req).1 with
          | .ok cursor => .ret (.ok { cursor, head })
          | .error err => .ret (.error err) }
        cases (σ.store.ack req).1 with
        | ok cursor => exact .done _ false
        | error err => exact .done _ false
    | done r overtaken => cases hadv

/-- Every step that lets no overtaken acknowledgement write above the head keeps the invariant. -/
theorem step (hσ : EnginesInv σ) {l : EngineLabel} {τ : Engines} (hgrown : GrownAgain l σ)
    (h : engines.step l σ = some τ) : EnginesInv τ := by
  cases l with
  | callAppend clock req =>
      cases h
      refine ⟨hσ.reachable, hσ.below, ?_, hσ.acks⟩
      intro p hp
      rcases List.mem_append.mp hp with hold | hnew
      · exact hσ.appends p hold
      · rw [List.mem_singleton.mp hnew]
        exact append_only_appends clock req
  | callAck req =>
      cases h
      refine ⟨hσ.reachable, hσ.below, hσ.appends, ?_⟩
      intro a ha
      rcases List.mem_append.mp ha with hold | hnew
      · exact hσ.acks a hold
      · rw [List.mem_singleton.mp hnew]
        exact .called req false
  | stepAppend i now => exact hσ.stepAppend h
  | stepAck i now => exact hσ.stepAck hgrown h
  | other op hop =>
      cases h
      exact hσ.other hop

/-- Every other step leaves a cursor ahead of its stream. -/
theorem not_grown (hσ : EnginesInv σ) {l : EngineLabel} (hnot : ¬ GrownAgain l σ) :
    ∃ τ, engines.step l σ = some τ ∧ ¬ CursorsBelowHead τ.store := by
  cases l with
  | stepAck i now =>
      unfold GrownAgain at hnot
      simp only [not_forall, not_le] at hnot
      obtain ⟨a, req, ha, hwrites, -, habove⟩ := hnot
      obtain ⟨hsub, hid, ⟨head, hrest⟩, -⟩ :=
        (hσ.acks a (List.mem_of_getElem? ha)).of_writes hwrites
      unfold engines
      simp only [ha, hrest]
      exact ⟨_, rfl, CursorsBelowHead.not_ack hσ.reachable hsub hid habove⟩
  | callAppend | callAck | stepAppend | other => exact absurd trivial hnot

end EnginesInv

/-! ## The bound -/

/-- **A committed cursor is not ahead of its stream**, in every state of a run of engine methods and
operations that write no cursor, exactly when no acknowledgement of the run writes a cursor above
the head of a stream that was deleted since its head check. -/
theorem cursors_below_head_iff (ls : List EngineLabel) :
    engines.Throughout (fun σ => CursorsBelowHead σ.store) ls {} ↔
      engines.Always GrownAgain ls {} := by
  refine Machine.throughout_iff_always (I := EnginesInv) ?_ ?_ ?_ EnginesInv.start
  · intro l σ τ hgrown h hσ
    exact hσ.step hgrown h
  · intro σ hσ
    exact hσ.below
  · intro l σ hσ hnot
    exact hσ.not_grown hnot

/-- An acknowledgement of the only event of a stream; the stream is deleted between its head check
and its write. -/
def overtakenAck : List EngineLabel :=
  [.callAppend 1 { streamID := "s" }, .stepAppend 0 0,
    .callAck { subscriberID := "a", streamID := "s", seq := 1 }, .stepAck 0 0,
    .other (.deleteStream "s") trivial, .stepAck 0 0]

/-- The cursor that is written after the deletion is ahead of a stream that does not exist any more.
The first event of the new stream is hidden from the subscriber: a catch-up ends at once. -/
theorem overtakenAck_ahead :
    (¬ ∀ ls, engines.Throughout (fun σ => CursorsBelowHead σ.store) ls {}) ∧
      ∃ σ, engines.run (overtakenAck ++ [.callAppend 2 { streamID := "s" }, .stepAppend 1 0]) {} =
          some σ ∧
        σ.store.committed "a" "s" = 1 ∧ (σ.store.ensureStream "s").events.length = 1 ∧
        ∃ result, (Prog.run (handler 0)
            (Engine.catchUp { subscriberID := "a", streamID := "s" }).run σ.store).1 = .ok result ∧
          result.status = .ok ∧ result.batch.events = [] ∧ result.batch.final = true := by
  refine ⟨?_, _, rfl, rfl, rfl, _, rfl, rfl, rfl, rfl⟩
  intro h
  have hrun : ∃ σ, engines.run overtakenAck {} = some σ ∧ σ.store.streams.lookup "s" = none ∧
      ∃ cursor, σ.store.cursors.lookup ⟨"a", "s"⟩ = some cursor ∧ cursor.cursor.seq = 1 :=
    ⟨_, rfl, rfl, _, rfl, rfl⟩
  obtain ⟨σ, hσ, hgone, cursor, hlookup, hseq⟩ := hrun
  have hbelow : CursorsBelowHead σ.store := (h overtakenAck).last hσ
  have hle := hbelow _ cursor hlookup
  unfold Store.ensureStream at hle
  rw [hgone, hseq] at hle
  exact absurd hle (by decide)

end Synclog.Memory
