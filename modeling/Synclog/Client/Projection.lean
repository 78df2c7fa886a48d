import Mathlib.Data.List.Infix
import Synclog.Client.Methods

/-!
# What a client does to its projection

The client's side of exactly-once projection, for a binding whose target resolves to one binding
`b`. `projecting` is the contract of its calls over a `View`, the events of the stream and the
record of the client, while the stream may grow (`View.Grows`):

* a batch or a snapshot that the gateway answers is one of the stream (`BatchOk`, `SnapshotOk`), and
  a batch begins no later than right behind the applied seq;
* in return the client applies the events right behind the applied seq, without a gap, or a snapshot
  of the stream, and acknowledges nothing above the applied seq.

`projects_program` says that both flows meet it. Nothing is assumed of the order in which answers
come, of how often a frame is delivered, or of the calls that fail.
-/

namespace Synclog.Client

open Synclog.Lib Synclog.Core Synclog.Memory Synclog.Gateway
open Prog (Meets Then meets_bindE meets_performE meets_performE_bind meets_lift_perform_bind
  meets_lift_bind meets_ofExcept_bind)

section Projection

variable {R V TSnapshot TEvent : Type} (store : ProjectionStore R V TSnapshot TEvent)
  (opts : SyncClientOptions) (binding : SyncBinding TSnapshot TEvent) (b : StreamBinding)

/-! ## What is right for a stream -/

/-- The event as the client decodes it. -/
def decoded (event : Event) : DecodedGatewayEvent TEvent :=
  decodeEvent binding (gatewayEvent binding.target b.bindingKey event)

/-- The value after some more events. -/
def foldFrom (value : V) (events : List Event) : V :=
  (events.map fun event => (decoded binding b event).value).foldl store.step value

/-- The fold of a list of events. -/
def foldEvents (events : List Event) : V :=
  foldFrom store binding b (store.value store.empty) events

/-- A snapshot at seq `n` is right when there are `n` events and it decodes to their fold. -/
def snapshotRule : SnapshotRule where
  Right log snapshot := snapshot.ref.seq ≤ log.length ∧
    store.load (binding.projection.decodeSnapshot snapshot.payload snapshot.ref.payloadVersion) =
      foldEvents store binding b (log.take snapshot.ref.seq)
  mono := by
    rintro log log' snapshot ⟨rest, rfl⟩ ⟨hle, hload⟩
    refine ⟨by rw [List.length_append]; omega, ?_⟩
    rw [hload, List.take_append_of_le_length hle]

/-- The batch is a piece of the stream that begins at or below `bound`. -/
def BatchOk (log : List Event) (bound : Nat) (batch : GatewayBatch) : Prop :=
  ∃ c inner, batch = toGatewayBatch binding.target b.bindingKey inner ∧ c ≤ bound ∧
    inner.events <+: log.drop c ∧ Consecutive Event.seq (c + 1) inner.events

/-- The snapshot is right for the stream. -/
def SnapshotOk (log : List Event) (snapshot : GatewaySnapshot) : Prop :=
  ∃ stored, snapshot = gatewaySnapshot binding.target b stored ∧
    (snapshotRule store binding b).Right log stored

/-- The record holds the fold of the events up to its applied seq. -/
def RecordOk (log : List Event) (record : R) : Prop :=
  store.appliedSeq record ≤ log.length ∧
    store.value record = foldEvents store binding b (log.take (store.appliedSeq record))

/-- The key under which the client keeps its record. -/
def recordKey : TargetBindingKey := keyFor opts binding (some b.bindingKey)

/-! ## The contract -/

/-- What the client's calls are about: the events of the stream, and the client's record. -/
structure View (R : Type) where
  log : List Event
  record : R

/-- The stream grows; the record stays. -/
def View.Grows (v v' : View R) : Prop := v.log <+: v'.log ∧ v'.record = v.record

/-- What must hold when the client makes a call. -/
def View.Permits (v : View R) : (β : Type) → ClientCall TSnapshot TEvent β → Prop
  | _, .catchUp req => req = catchUpRequest opts binding
  | _, .getLatestSnapshot req => req = snapshotRequest opts binding
  | _, .subscribe req => req = subscribeRequest opts binding
  | _, .ack req =>
    ∃ seq ≤ store.appliedSeq v.record, req = ackRequest opts (recordKey opts binding b) seq
  | _, .getAppliedSeq key => key = recordKey opts binding b
  | _, .applyEvents key new =>
    key = recordKey opts binding b ∧ ∃ events, new = events.map (decoded binding b) ∧ events ≠ [] ∧
      events <+: v.log.drop (store.appliedSeq v.record) ∧
      Consecutive Event.seq (store.appliedSeq v.record + 1) events
  | _, .applySnapshot key new =>
    key = recordKey opts binding b ∧
      ∃ snapshot, SnapshotOk store binding b v.log snapshot ∧ new = decodeSnapshot binding snapshot
  | _, .next | _, .aborted => True

/-- The answers that a call may get. -/
def View.Answers (v : View R) : (β : Type) → ClientCall TSnapshot TEvent β → β → View R → Prop
  | _, .catchUp _, .ok results, t =>
    v.Grows t ∧ ∀ result ∈ results, ∀ batch, result.batch = some batch →
      BatchOk binding b t.log (store.appliedSeq t.record) batch
  | _, .getLatestSnapshot _, .ok (some snapshot), t =>
    v.Grows t ∧ SnapshotOk store binding b t.log snapshot
  | _, .next, .ok (some resp), t =>
    v.Grows t ∧ ∀ batch, resp.batch = some batch →
      BatchOk binding b t.log (store.appliedSeq t.record) batch
  | _, .getAppliedSeq _, .ok seq, t => v.Grows t ∧ seq = store.appliedSeq t.record
  | _, .applyEvents _ events, .ok (), t =>
    v.log <+: t.log ∧ t.record = store.applyEvents events v.record
  | _, .applySnapshot _ snapshot, .ok (), t =>
    v.log <+: t.log ∧ t.record = store.applySnapshot snapshot v.record
  | _, .applyEvents _ _, .error _, _ | _, .applySnapshot _ _, .error _, _ => True
  | _, .catchUp _, .error _, t | _, .ack _, _, t | _, .getLatestSnapshot _, .ok none, t
  | _, .getLatestSnapshot _, .error _, t | _, .subscribe _, _, t | _, .next, .ok none, t
  | _, .next, .error _, t | _, .aborted, _, t | _, .getAppliedSeq _, .error _, t => v.Grows t

/-- The contract of the client's calls. -/
def projecting : Contract (ClientCall TSnapshot TEvent) (View R) where
  pre β c v := v.Permits store opts binding b β c
  post β c v answer t := v.Answers store binding b β c answer t

/-- The calls of a method are made as `projecting` demands, from any state. -/
def Projects {α : Type} (p : ClientProg TSnapshot TEvent α) : Prop :=
  ∀ v : View R, Meets (projecting store opts binding b) View.Grows (fun _ _ => True) p.run v

/-! ## What the methods do -/

variable {store opts binding b}

/-- A view that stays as it is has grown. -/
theorem View.Grows.refl (v : View R) : v.Grows v := ⟨List.prefix_rfl, rfl⟩

/-- What grows twice has grown. -/
theorem View.Grows.trans {v v' v'' : View R} (h : v.Grows v') (h' : v'.Grows v'') : v.Grows v'' :=
  ⟨h.1.trans h'.1, h'.2.trans h.2⟩

/-- Any number of steps of growth is one. -/
theorem View.grows_of_steps {v v' : View R} (h : Relation.ReflTransGen View.Grows v v') :
    v.Grows v' := by
  induction h with
  | refl => exact .refl v
  | tail _ hstep ih => exact ih.trans hstep

/-- A batch stays one of the stream while the stream grows. -/
theorem BatchOk.mono {log log' : List Event} {bound bound' : Nat} {batch : GatewayBatch}
    (h : BatchOk binding b log bound batch) (hlog : log <+: log') (hbound : bound ≤ bound') :
    BatchOk binding b log' bound' batch := by
  obtain ⟨c, inner, hbatch, hc, hpiece, hcons⟩ := h
  exact ⟨c, inner, hbatch, hc.trans hbound, hpiece.trans (hlog.drop c), hcons⟩

/-- A right snapshot stays right when the log grows. -/
theorem SnapshotOk.mono {log log' : List Event} {snapshot : GatewaySnapshot}
    (h : SnapshotOk store binding b log snapshot) (hlog : log <+: log') :
    SnapshotOk store binding b log' snapshot := by
  obtain ⟨stored, hsnapshot, hright⟩ := h
  exact ⟨stored, hsnapshot, (snapshotRule store binding b).mono hlog hright⟩

/-- Of a batch of the stream, the events that are new to the client are those right behind its
applied seq. -/
theorem newEvents_eq {events : List Event} {c n : Nat} {batch : GatewayBatch}
    {inner : EventBatch} (hbatch : batch = toGatewayBatch binding.target b.bindingKey inner)
    (hc : c ≤ n) (hpiece : inner.events <+: events.drop c)
    (hcons : Consecutive Event.seq (c + 1) inner.events) :
    ∃ new, newEvents binding n batch = new.map (decoded binding b) ∧
      new <+: events.drop n ∧ Consecutive Event.seq (n + 1) new := by
  refine ⟨inner.events.drop (n - c), ?_, ?_, ?_⟩
  · have hnew : n + 1 - (c + 1) = n - c := by omega
    rw [← hnew, ← hcons.filter_lt_eq_drop n, hbatch]
    unfold newEvents toGatewayBatch
    simp only [List.filter_map, List.map_map]
    rfl
  · have hdrop : events.drop n = (events.drop c).drop (n - c) := by
      rw [List.drop_drop]
      congr 1
      omega
    rw [hdrop]
    exact hpiece.drop (n - c)
  · have harith : c + 1 + (n - c) = n + 1 := by omega
    rw [← harith]
    exact hcons.drop (n - c)

/-- What a permitted call to the projection store does to the record: it stays right, and the
applied seq does not go back. -/
theorem recordOk_after {log : List Event} {records : TargetBindingKey → R}
    (hrecord : RecordOk store binding b log (records (recordKey opts binding b))) {β : Type}
    {c : ClientCall TSnapshot TEvent β}
    (hpre : View.Permits store opts binding b ⟨log, records (recordKey opts binding b)⟩ β c) :
    RecordOk store binding b log (recordsAfter store c records (recordKey opts binding b)) ∧
      store.appliedSeq (records (recordKey opts binding b)) ≤
        store.appliedSeq (recordsAfter store c records (recordKey opts binding b)) := by
  cases c with
  | applyEvents key new =>
      obtain ⟨rfl, events, rfl, hne, hpiece, hcons⟩ := hpre
      obtain ⟨hle, hvalue⟩ := hrecord
      have hmap : events.map (decoded binding b) ≠ [] := by simpa using hne
      have hnew : Consecutive DecodedGatewayEvent.seq
          (store.appliedSeq (records (recordKey opts binding b)) + 1)
          (events.map (decoded binding b)) := Consecutive.map_iff.mpr hcons
      have hseq : ((events.map (decoded binding b)).getLast hmap).seq =
          store.appliedSeq (records (recordKey opts binding b)) + events.length := by
        rw [List.getLast_map]
        have hlast := hcons.getLast_eq hne
        show (events.getLast hne).seq = _
        change (events.getLast hne).seq + 1 =
          store.appliedSeq (records (recordKey opts binding b)) + 1 + _ at hlast
        omega
      have hafter := store.appliedSeq_applyEvents _ _ hmap hnew
      rw [hseq] at hafter
      rw [recordsAfter_applyEvents]
      refine ⟨⟨?_, ?_⟩, ?_⟩
      · rw [hafter]
        have hlength := hpiece.length_le
        rw [List.length_drop] at hlength
        change store.appliedSeq (records (recordKey opts binding b)) ≤ log.length at hle
        change events.length ≤
          log.length - store.appliedSeq (records (recordKey opts binding b)) at hlength
        omega
      · -- the events right behind the applied seq extend the fold by themselves
        rw [store.value_applyEvents _ _ hmap hnew, hafter, hvalue, List.take_add]
        have htake : (log.drop (store.appliedSeq (records (recordKey opts binding b)))).take
            events.length = events := (List.prefix_iff_eq_take.mp hpiece).symm
        rw [htake]
        unfold foldEvents foldFrom
        rw [List.map_append, List.foldl_append, List.map_map]
        rfl
      · rw [hafter]
        exact Nat.le_add_right _ _
  | applySnapshot key new =>
      obtain ⟨rfl, snapshot, ⟨stored, rfl, hle, hload⟩, rfl⟩ := hpre
      rw [recordsAfter_applySnapshot]
      rcases store.applySnapshot_cases
          (decodeSnapshot binding (gatewaySnapshot binding.target b stored))
          (records (recordKey opts binding b)) with ⟨happlied, hseq, hvalue⟩ | ⟨-, hseq, hvalue⟩
      · refine ⟨⟨?_, ?_⟩, ?_⟩
        · rw [hseq]
          exact hle
        · rw [hseq, hvalue]
          exact hload
        · rw [hseq]
          exact happlied
      · refine ⟨⟨?_, ?_⟩, hseq.ge⟩
        · rw [hseq]
          exact hrecord.1
        · rw [hseq, hvalue]
          exact hrecord.2
  | catchUp | ack | getLatestSnapshot | subscribe | next | aborted | getAppliedSeq =>
      exact ⟨hrecord, le_rfl⟩

/-- An acknowledgement at or below the applied seq. -/
theorem meets_ack {v : View R} {seq : Nat} (hseq : seq ≤ store.appliedSeq v.record) :
    Meets (projecting store opts binding b) View.Grows (fun _ _ => True)
      (ack opts (recordKey opts binding b) seq).run v := by
  refine meets_performE.mpr ?_
  intro v' hsteps
  have hgrows := View.grows_of_steps hsteps
  exact ⟨⟨seq, hgrows.2 ▸ hseq, rfl⟩, fun _ _ _ => trivial⟩

/-- A batch of the stream is applied from behind the applied seq on. -/
theorem meets_applyBatch {v : View R} {batch : GatewayBatch}
    (hbatch : BatchOk binding b v.log (store.appliedSeq v.record) batch) :
    Meets (projecting store opts binding b) View.Grows (fun _ _ => True)
      (applyBatch opts binding batch).run v := by
  have hfor : keyFor opts binding (some batch.bindingKey) = recordKey opts binding b := by
    obtain ⟨c, inner, rfl, -⟩ := hbatch
    rfl
  unfold applyBatch
  rw [hfor]
  refine meets_performE_bind.mpr ?_
  intro v₁ hsteps
  refine ⟨rfl, ?_⟩
  rintro (err | appliedSeq) v₂ hanswer
  · trivial
  obtain ⟨hgrows₂, rfl⟩ := hanswer
  have hgrows := (View.grows_of_steps hsteps).trans hgrows₂
  have hbound : store.appliedSeq v.record ≤ store.appliedSeq v₂.record := by rw [hgrows.2]
  obtain ⟨c, inner, heq, hc, hpiece, hcons⟩ := hbatch.mono hgrows.1 hbound
  have happly : Meets (projecting store opts binding b) View.Grows (fun _ _ => True)
      (applyNew (recordKey opts binding b)
        (newEvents binding (store.appliedSeq v₂.record) batch)).run v₂ := by
    unfold applyNew
    split_ifs with hlength
    · refine meets_performE.mpr ?_
      intro v₃ hsteps₃
      have hgrows₃ := View.grows_of_steps hsteps₃
      obtain ⟨new, hnew, hpiece₃, hcons₃⟩ :=
        newEvents_eq heq hc (hpiece.trans (hgrows₃.1.drop c)) hcons
      refine ⟨⟨rfl, new, hnew, ?_, ?_, ?_⟩, fun _ _ _ => trivial⟩
      · rintro rfl
        simp [hnew] at hlength
      · rw [hgrows₃.2]
        exact hpiece₃
      · rw [hgrows₃.2]
        exact hcons₃
    · trivial
  refine meets_bindE.mpr (happly.imp ?_)
  rintro (err | ⟨⟩) v₃ -
  · trivial
  refine meets_performE_bind.mpr ?_
  intro v₄ _
  refine ⟨rfl, ?_⟩
  rintro (err | ackedSeq) v₅ hacked
  · trivial
  obtain ⟨-, rfl⟩ := hacked
  refine meets_bindE.mpr ((meets_ack le_rfl).imp ?_)
  rintro (err | ⟨⟩) v₆ -
  · trivial
  · trivial

/-- A recovery applies a snapshot of the stream. -/
theorem projects_recoverFromSnapshot :
    Projects store opts binding b (recoverFromSnapshot opts binding) := by
  intro v
  unfold recoverFromSnapshot
  refine meets_performE_bind.mpr ?_
  intro v₁ _
  refine ⟨rfl, ?_⟩
  rintro (err | (_ | snapshot)) v₂ hanswer
  · trivial
  · trivial
  obtain ⟨-, hsnapshot⟩ := hanswer
  have hfor : keyFor opts binding (some snapshot.bindingKey) = recordKey opts binding b := by
    obtain ⟨stored, rfl, -⟩ := hsnapshot
    rfl
  show Meets (projecting store opts binding b) View.Grows (fun _ _ => True) _ v₂
  simp only [hfor]
  refine meets_performE_bind.mpr ?_
  intro v₃ hsteps₃
  have hgrows₃ := View.grows_of_steps hsteps₃
  refine ⟨⟨rfl, snapshot, hsnapshot.mono hgrows₃.1, rfl⟩, ?_⟩
  rintro (err | ⟨⟩) v₄ happlied
  · trivial
  have hseq : snapshot.seq ≤ store.appliedSeq v₄.record := by
    rw [happlied.2]
    rcases store.applySnapshot_cases (decodeSnapshot binding snapshot) v₃.record with
      ⟨-, hseq, -⟩ | ⟨hle, hseq, -⟩
    · exact hseq.ge
    · exact hseq.symm ▸ hle
  refine meets_bindE.mpr ((meets_ack hseq).imp ?_)
  rintro (err | ⟨⟩) v₅ -
  · trivial
  · trivial

/-- What the contract says of the calls that only ask. -/
theorem projecting_serves : Serves (projecting store opts binding b) View.Grows opts binding
    (fun batch v => BatchOk binding b v.log (store.appliedSeq v.record) batch) where
  mono batch v v' hgrows hbatch := hbatch.mono hgrows.1 (by rw [hgrows.2])
  catchUp v := rfl
  results req v results v' hanswer := hanswer.2
  subscribe v := rfl
  next v := trivial
  frame v resp v' hanswer := hanswer.2
  aborted v := trivial
  goesOn v aborted v' hgrows batch hbatch := hbatch.mono hgrows.1 (by rw [hgrows.2])
  applyBatch batch v hbatch := meets_applyBatch hbatch
  recoverFromSnapshot := projects_recoverFromSnapshot

/-- Both flows project the stream. -/
theorem projects_program (flow : Flow) (v : View R) :
    Meets (projecting store opts binding b) View.Grows (fun _ _ => True)
      (flow.program opts binding) v :=
  projecting_serves.program flow v

end Projection

end Synclog.Client
