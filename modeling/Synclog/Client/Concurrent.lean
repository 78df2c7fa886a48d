import Synclog.Client.MemoryStore
import Synclog.Client.Methods

/-!
# Flows of one client side by side

Any number of `catchUp` calls and subscriptions of one client for one binding, over one memory
store, interleaved at their awaits. One step is one call of one flow: the memory store carries it
out and answers as it does, everything else answers whatever it likes. Between two calls a flow only
computes, so nothing is lost by letting the answer come with the call.

* `Flows`, `flows` — the machine, with the seqs of all events ever added to a record and with the
  acknowledgements that were sent, each with the store at that time.
* `acking` — the contract of the calls: an acknowledgement is covered by its record when it is sent.
* `flows_apply_once` — what holds after every interleaving.
-/

namespace Synclog.Client

open Synclog.Lib Synclog.Core Synclog.Gateway
open Prog (Meets meets_performE meets_performE_bind meets_bindE)

section Concurrent

variable {TSnapshot TEvent : Type}

/-! ## The machine -/

/-- What a flow waits for: an answer of the transport, the state of the abort signal, or a call that
is carried out here. -/
inductive Answer
  | results (r : Except JsError (List GatewayCatchUpResult))
  | acked (r : Except JsError Unit)
  | snapshot (r : Except JsError (Option GatewaySnapshot))
  | frame (r : Except JsError (Option GatewaySubscribeResponse))
  | aborted (aborted : Bool)
  | done

/-- The store, the flows that run, the seqs of the events that were added to each record, oldest
first, and the acknowledgements that were sent, newest first, with the store at that time. -/
structure Flows (TSnapshot TEvent : Type) where
  records : MemorySyncStore TSnapshot TEvent := ∅
  running : List (Running TSnapshot TEvent) := []
  added : List (String × Nat) := []
  acks : List (GatewayAckRequest × MemorySyncStore TSnapshot TEvent) := []

/-- The seqs of the events that a record has gained: those behind the ones that it had before. -/
def MemorySyncRecord.gained (before after : MemorySyncRecord TSnapshot TEvent) : List Nat :=
  (after.events.drop before.events.length).map (·.seq)

/-- What a list of events adds to a record. -/
theorem MemorySyncRecord.gained_foldl_push (record : MemorySyncRecord TSnapshot TEvent)
    (events : List (DecodedGatewayEvent TEvent)) :
    record.gained (events.foldl push record) = pushed record.appliedSeq events := by
  have hevents := (foldl_push record events).1
  have hlength : record.events.length = (record.events.map (·.seq)).length := by
    rw [List.length_map]
  unfold gained
  rw [List.map_drop, hevents, hlength, List.drop_left]

namespace Flows

/-- A call with its answer. What is noted as added is read off the record before and after. -/
def answer (σ : Flows TSnapshot TEvent) :
    (β : Type) → ClientCall TSnapshot TEvent β → Answer → Option (β × Flows TSnapshot TEvent)
  | _, .catchUp _, .results r => some (r, σ)
  | _, .ack req, .acked r => some (r, { σ with acks := (req, σ.records) :: σ.acks })
  | _, .getLatestSnapshot _, .snapshot r => some (r, σ)
  | _, .subscribe _, .done => some ((), σ)
  | _, .next, .frame r => some (r, σ)
  | _, .aborted, .aborted aborted => some (aborted, σ)
  | _, .getAppliedSeq key, .done =>
    let (seq, records) := σ.records.getAppliedSeq key
    some (.ok seq, { σ with records })
  | _, .applySnapshot key snapshot, .done =>
    some (.ok (), { σ with records := σ.records.applySnapshot key snapshot })
  | _, .applyEvents key events, .done =>
    let records := σ.records.applyEvents key events
    let gained := (σ.records.getRecord key).gained (records.getRecord key)
    some (.ok (), { σ with records, added := σ.added ++ gained.map (targetBindingKey key, ·) })
  | _, _, _ => none

/-- The seqs of the events that were added to a record. -/
def addedTo (σ : Flows TSnapshot TEvent) (encoded : String) : List Nat :=
  σ.added.filterMap fun entry => if entry.1 = encoded then some entry.2 else none

end Flows

/-- What happens next: a flow is started, or the flow of that number makes its next call. -/
inductive FlowLabel
  | start (flow : Flow)
  | perform (i : Nat) (answer : Answer)

/-- The flows of a client for one binding. -/
def flows (opts : SyncClientOptions) (binding : SyncBinding TSnapshot TEvent) :
    Machine (Flows TSnapshot TEvent) FlowLabel where
  step
    | .start flow, σ => some { σ with running := σ.running ++ [flow.program opts binding] }
    | .perform i answer, σ =>
      match σ.running[i]? with
      | some (.call c k) =>
        (σ.answer _ c answer).map fun (b, τ) => { τ with running := τ.running.set i (k b) }
      | _ => none

/-! ## The contract of the calls -/

/-- The record that an acknowledgement is for has an applied seq no less than it. -/
def MemorySyncStore.Covers (s : MemorySyncStore TSnapshot TEvent) (req : GatewayAckRequest) :
    Prop :=
  ∃ target, req.target = some target ∧ req.seq ≤ s.appliedSeq (targetBindingKey
    { subscriberId := req.subscriberId, target, bindingKey := req.bindingKey })

/-- The answers that a call may get. -/
def MemorySyncStore.Answers (s : MemorySyncStore TSnapshot TEvent) :
    (β : Type) → ClientCall TSnapshot TEvent β → β → MemorySyncStore TSnapshot TEvent → Prop
  | _, .getAppliedSeq key, .ok seq, t => seq = t.appliedSeq (targetBindingKey key) ∧ s.Advances t
  | _, .applySnapshot key snapshot, .ok (), t =>
    snapshot.seq ≤ t.appliedSeq (targetBindingKey key) ∧ s.Advances t
  | _, _, _, t => s.Advances t

/-- What must hold when a call is made. -/
def MemorySyncStore.Permits (s : MemorySyncStore TSnapshot TEvent) :
    (β : Type) → ClientCall TSnapshot TEvent β → Prop
  | _, .ack req => s.Covers req
  | _, _ => True

variable (TSnapshot TEvent) in
/-- An acknowledgement is covered when it is sent; of the answers only those of the store are
known. -/
def acking : Contract (ClientCall TSnapshot TEvent) (MemorySyncStore TSnapshot TEvent) where
  pre β c s := s.Permits β c
  post β c s answer t := s.Answers β c answer t

/-- Whatever the call, the store advances. -/
theorem MemorySyncStore.Answers.advances {s t : MemorySyncStore TSnapshot TEvent} {β : Type}
    {c : ClientCall TSnapshot TEvent β} {answer : β} (h : s.Answers β c answer t) :
    s.Advances t := by
  cases c with
  | getAppliedSeq key =>
      rcases answer with err | seq
      · exact h
      · exact h.2
  | applySnapshot key snapshot =>
      rcases answer with err | ⟨⟩
      · exact h
      · exact h.2
  | catchUp | ack | getLatestSnapshot | subscribe | next | aborted | applyEvents => exact h

section Meets

variable {opts : SyncClientOptions} {binding : SyncBinding TSnapshot TEvent}
  {s : MemorySyncStore TSnapshot TEvent}

/-- Any number of advances is one. -/
theorem advances_of_steps {t : MemorySyncStore TSnapshot TEvent}
    (h : Relation.ReflTransGen MemorySyncStore.Advances s t) : s.Advances t := by
  induction h with
  | refl => exact .refl s
  | tail _ hstep ih => exact ih.trans hstep

/-- An acknowledgement of what a record had applied. -/
theorem meets_ack_of_le {bindingKey : Option String} {seq : Nat}
    (hseq : seq ≤ s.appliedSeq (targetBindingKey (keyFor opts binding bindingKey))) :
    Meets (acking TSnapshot TEvent) MemorySyncStore.Advances (fun _ _ => True)
      (ack opts (keyFor opts binding bindingKey) seq).run s := by
  refine meets_performE.mpr ?_
  intro t hsteps
  exact ⟨⟨binding.target, rfl, hseq.trans (advances_of_steps hsteps _)⟩, fun _ _ _ => trivial⟩

/-- What is acknowledged behind a batch was read from the record just before. -/
theorem meets_applyBatch_acking (batch : GatewayBatch) :
    Meets (acking TSnapshot TEvent) MemorySyncStore.Advances (fun _ _ => True)
      (applyBatch opts binding batch).run s := by
  unfold applyBatch
  refine meets_performE_bind.mpr ?_
  intro s₁ _
  refine ⟨trivial, ?_⟩
  rintro (err | appliedSeq) s₂ -
  · trivial
  have happly : Meets (acking TSnapshot TEvent) MemorySyncStore.Advances (fun _ _ => True)
      (applyNew (keyFor opts binding (some batch.bindingKey))
        (newEvents binding appliedSeq batch)).run s₂ := by
    unfold applyNew
    split_ifs
    · exact meets_performE.mpr fun _ _ => ⟨trivial, fun _ _ _ => trivial⟩
    · trivial
  refine meets_bindE.mpr (happly.imp ?_)
  rintro (err | ⟨⟩) s₃ -
  · trivial
  refine meets_performE_bind.mpr ?_
  intro s₄ _
  refine ⟨trivial, ?_⟩
  rintro (err | ackedSeq) s₅ hread
  · trivial
  obtain ⟨rfl, -⟩ := hread
  refine meets_bindE.mpr ((meets_ack_of_le le_rfl).imp ?_)
  rintro (err | ⟨⟩) s₆ -
  · trivial
  · trivial

/-- What is acknowledged behind a snapshot was applied just before. -/
theorem meets_recoverFromSnapshot_acking :
    Meets (acking TSnapshot TEvent) MemorySyncStore.Advances (fun _ _ => True)
      (recoverFromSnapshot opts binding).run s := by
  unfold recoverFromSnapshot
  refine meets_performE_bind.mpr ?_
  intro s₁ _
  refine ⟨trivial, ?_⟩
  rintro (err | (_ | snapshot)) s₂ -
  · trivial
  · trivial
  show Meets (acking TSnapshot TEvent) MemorySyncStore.Advances (fun _ _ => True) _ s₂
  refine meets_performE_bind.mpr ?_
  intro s₃ _
  refine ⟨trivial, ?_⟩
  rintro (err | ⟨⟩) s₄ happlied
  · trivial
  refine meets_bindE.mpr ((meets_ack_of_le happlied.1).imp ?_)
  rintro (err | ⟨⟩) s₅ -
  · trivial
  · trivial

/-- Whatever is answered, a flow acknowledges only what its store covers. -/
theorem acking_serves : Serves (acking TSnapshot TEvent) MemorySyncStore.Advances opts binding
    (fun _ _ => True) where
  mono _ _ _ _ _ := trivial
  catchUp _ := trivial
  results _ _ _ _ _ _ _ _ _ := trivial
  subscribe _ := trivial
  next _ := trivial
  frame _ _ _ _ _ _ := trivial
  aborted _ := trivial
  goesOn _ _ _ _ _ _ := trivial
  applyBatch batch _ _ := meets_applyBatch_acking batch
  recoverFromSnapshot _ := meets_recoverFromSnapshot_acking

end Meets

/-! ## What every run keeps -/

/-- Every flow is before a call that the contract permits, a record has the last of the events that
were added to it, the seqs of these are strictly increasing, up to its applied seq, and every
acknowledgement was covered when it was sent. -/
structure FlowsInv (σ : Flows TSnapshot TEvent) : Prop where
  running : ∀ p ∈ σ.running,
    Meets (acking TSnapshot TEvent) MemorySyncStore.Advances (fun _ _ => True) p σ.records
  kept : ∀ encoded,
    ((σ.records.lookup encoded).getD {}).events.map (·.seq) <:+ σ.addedTo encoded
  increasing : ∀ encoded, (σ.addedTo encoded).Pairwise (· < ·)
  bounded : ∀ encoded, ∀ seq ∈ σ.addedTo encoded, seq ≤ σ.records.appliedSeq encoded
  acks : ∀ sent ∈ σ.acks, sent.2.Covers sent.1

/-- At the start nothing was added and nothing acknowledged. -/
theorem flowsInv_empty : FlowsInv ({} : Flows TSnapshot TEvent) where
  running p h := by cases h
  kept encoded := List.suffix_rfl
  increasing encoded := List.Pairwise.nil
  bounded encoded seq h := by cases h
  acks sent h := by cases h

namespace FlowsInv

variable {σ : Flows TSnapshot TEvent}

/-- The store advances, and nothing is added. -/
theorem advance (h : FlowsInv σ) {records : MemorySyncStore TSnapshot TEvent}
    (hadvances : σ.records.Advances records)
    (hkept : ∀ encoded,
      ((records.lookup encoded).getD {}).events.map (·.seq) <:+ σ.addedTo encoded) :
    FlowsInv { σ with records } where
  running p hp := (h.running p hp).env (fun _ _ _ _ _ => trivial) hadvances
  kept := hkept
  increasing := h.increasing
  bounded encoded seq hseq := (h.bounded encoded seq hseq).trans (hadvances encoded)
  acks := h.acks

/-- A record is replaced by one that is no older and has nothing new. -/
theorem insert (h : FlowsInv σ) {encoded : String} {record : MemorySyncRecord TSnapshot TEvent}
    (hle : σ.records.appliedSeq encoded ≤ record.appliedSeq)
    (hkept : record.events.map (·.seq) <:+ σ.addedTo encoded) :
    FlowsInv { σ with records := σ.records.insert encoded record } := by
  refine h.advance (MemorySyncStore.advances_insert hle) ?_
  intro encoded'
  rw [FinMap.lookup_insert_eq_ite]
  split_ifs with heq
  · rw [heq]
    exact hkept
  · exact h.kept encoded'

/-- A snapshot is applied. -/
theorem applySnapshot (h : FlowsInv σ) (key : TargetBindingKey)
    (snapshot : DecodedGatewaySnapshot TSnapshot) :
    FlowsInv { σ with records := σ.records.applySnapshot key snapshot } := by
  obtain ⟨record, happly, ⟨hnewer, rfl⟩ | ⟨holder, rfl⟩⟩ :=
    σ.records.applySnapshot_cases key snapshot
  · rw [happly]
    exact h.insert le_rfl (h.kept (targetBindingKey key))
  · rw [happly]
    exact h.insert holder List.nil_suffix

/-- Events are applied: those that are added are above all that were added before. -/
theorem applyEvents (h : FlowsInv σ) (key : TargetBindingKey)
    (events : List (DecodedGatewayEvent TEvent)) :
    FlowsInv { σ with
      records := σ.records.applyEvents key events
      added := σ.added ++ ((σ.records.getRecord key).gained
        ((σ.records.applyEvents key events).getRecord key)).map (targetBindingKey key, ·) } := by
  have hadvances := σ.records.advances_applyEvents key events
  have hrecord : (σ.records.applyEvents key events).getRecord key =
      events.foldl MemorySyncRecord.push (σ.records.getRecord key) := by
    rw [MemorySyncStore.getRecord_applyEvents, if_pos rfl]
  obtain ⟨hincreasing, hbounds⟩ :=
    MemorySyncRecord.pushed_increasing (σ.records.getRecord key).appliedSeq events
  obtain ⟨-, hpushed⟩ :=
    MemorySyncRecord.le_appliedSeq_foldl_push (σ.records.getRecord key) events
  rw [hrecord, MemorySyncRecord.gained_foldl_push]
  have hadded : ∀ encoded,
      Flows.addedTo { σ with
        records := σ.records.applyEvents key events
        added := σ.added ++
          (MemorySyncRecord.pushed (σ.records.getRecord key).appliedSeq events).map
            (targetBindingKey key, ·) } encoded =
        σ.addedTo encoded ++ if targetBindingKey key = encoded then
          MemorySyncRecord.pushed (σ.records.getRecord key).appliedSeq events else [] := by
    intro encoded
    unfold Flows.addedTo
    rw [List.filterMap_append, List.filterMap_map]
    split_ifs with heq <;> simp [heq]
  refine ⟨fun p hp => (h.running p hp).env (fun _ _ _ _ _ => trivial) hadvances, ?_, ?_, ?_,
    h.acks⟩
  · intro encoded
    rw [hadded, MemorySyncStore.lookup_applyEvents]
    by_cases heq : encoded = targetBindingKey key
    · rw [if_pos heq, if_pos heq.symm, (MemorySyncRecord.foldl_push _ _).1, heq]
      exact List.suffix_append_self_iff.mpr (h.kept (targetBindingKey key))
    · rw [if_neg heq, if_neg (Ne.symm heq), List.append_nil]
      exact h.kept encoded
  · intro encoded
    rw [hadded]
    split_ifs with heq
    · subst heq
      refine List.pairwise_append.mpr ⟨h.increasing _, hincreasing, ?_⟩
      intro old hold new hnew
      exact (h.bounded _ old hold).trans_lt (hbounds new hnew).1
    · rw [List.append_nil]
      exact h.increasing encoded
  · intro encoded seq hseq
    rw [hadded] at hseq
    rcases List.mem_append.mp hseq with hold | hnew
    · exact (h.bounded encoded seq hold).trans (hadvances encoded)
    · split_ifs at hnew with heq
      · subst heq
        exact (hpushed seq hnew).trans_eq (congrArg MemorySyncRecord.appliedSeq hrecord).symm
      · cases hnew

/-- A call that the contract permits, and its answer. -/
theorem answer (h : FlowsInv σ) {β : Type} {c : ClientCall TSnapshot TEvent β} {a : Answer} {b : β}
    {τ : Flows TSnapshot TEvent} (hpre : σ.records.Permits β c)
    (hanswer : σ.answer β c a = some (b, τ)) :
    FlowsInv τ ∧ τ.running = σ.running ∧ σ.records.Answers β c b τ.records := by
  cases c with
  | catchUp | getLatestSnapshot | subscribe | next | aborted =>
      cases a <;> cases hanswer
      exact ⟨h, rfl, .refl _⟩
  | ack req =>
      cases a <;> cases hanswer
      refine ⟨{ h with acks := ?_ }, rfl, .refl _⟩
      intro sent hsent
      rcases List.mem_cons.mp hsent with rfl | hsent
      · exact hpre
      · exact h.acks sent hsent
  | getAppliedSeq key =>
      cases a <;> cases hanswer
      have hadvances := σ.records.advances_getAppliedSeq key
      refine ⟨h.advance hadvances ?_, rfl, ?_, hadvances⟩
      · intro encoded
        show (((σ.records.getAppliedSeq key).2.lookup encoded).getD {}).events.map (·.seq) <:+ _
        rw [MemorySyncStore.getAppliedSeq_snd]
        exact h.kept encoded
      · show (σ.records.getAppliedSeq key).1 =
          (((σ.records.getAppliedSeq key).2.lookup (targetBindingKey key)).getD {}).appliedSeq
        rw [MemorySyncStore.getAppliedSeq_fst, MemorySyncStore.getAppliedSeq_snd]
        rfl
  | applySnapshot key snapshot =>
      cases a <;> cases hanswer
      obtain ⟨hadvances, hseq⟩ := σ.records.advances_applySnapshot key snapshot
      exact ⟨h.applySnapshot key snapshot, rfl, hseq, hadvances⟩
  | applyEvents key events =>
      cases a <;> cases hanswer
      exact ⟨h.applyEvents key events, rfl, σ.records.advances_applyEvents key events⟩

end FlowsInv

variable {opts : SyncClientOptions} {binding : SyncBinding TSnapshot TEvent}

/-- What one step keeps; and no applied seq goes back. -/
theorem flowsInv_step (l : FlowLabel) (σ τ : Flows TSnapshot TEvent)
    (hstep : (flows opts binding).step l σ = some τ) (h : FlowsInv σ) :
    FlowsInv τ ∧ σ.records.Advances τ.records := by
  cases l with
  | start flow =>
      cases hstep
      refine ⟨{ h with running := ?_ }, .refl _⟩
      intro p hp
      rcases List.mem_append.mp hp with hold | hnew
      · exact h.running p hold
      · obtain rfl := List.mem_singleton.mp hnew
        exact acking_serves.program flow _
  | perform i a =>
      unfold flows at hstep
      simp only at hstep
      split at hstep
      · rename_i β c k hrunning
        obtain ⟨⟨b, υ⟩, hanswer, rfl⟩ := Option.map_eq_some_iff.mp hstep
        obtain ⟨hpre, hpost⟩ := h.running _ (List.mem_of_getElem? hrunning) _ .refl
        obtain ⟨hinv, hsame, hanswers⟩ := h.answer hpre hanswer
        refine ⟨{ hinv with running := ?_ }, hanswers.advances⟩
        intro p hp
        rcases List.mem_or_eq_of_mem_set hp with hold | rfl
        · exact hinv.running p hold
        · exact hpost b υ.records hanswers
      · cases hstep

/-- **Each event at most once.** After every interleaving of any number of catch-ups and
subscriptions of a client for one binding over one memory store, whatever is answered: the seqs of
the events ever added to a record are strictly increasing, so that none is added twice; the events
that a record has are the last of those added to it; every acknowledgement was at or below the
applied seq of its record when it was sent; and whatever happens next, no applied seq goes back. -/
theorem flows_apply_once {ls : List FlowLabel} {σ : Flows TSnapshot TEvent}
    (hrun : (flows opts binding).run ls {} = some σ) :
    (∀ encoded, (σ.addedTo encoded).Pairwise (· < ·)) ∧
      (∀ key, (σ.records.getRecord key).events.map (·.seq) <:+
        σ.addedTo (targetBindingKey key)) ∧
      (∀ key, ((σ.records.getRecord key).events.map (·.seq)).Pairwise (· < ·)) ∧
      (∀ req records, (req, records) ∈ σ.acks → records.Covers req) ∧
      ∀ ls' τ, (flows opts binding).run ls' σ = some τ → ∀ key,
        (σ.records.getRecord key).appliedSeq ≤ (τ.records.getRecord key).appliedSeq := by
  have hinv : FlowsInv σ :=
    Machine.run_invariant (fun l σ τ hstep h => (flowsInv_step l σ τ hstep h).1) hrun
      flowsInv_empty
  have hkept : ∀ key, (σ.records.getRecord key).events.map (·.seq) <:+
      σ.addedTo (targetBindingKey key) := fun key => hinv.kept (targetBindingKey key)
  refine ⟨hinv.increasing, hkept, ?_, ?_, ?_⟩
  · exact fun key => (hinv.increasing (targetBindingKey key)).sublist (hkept key).sublist
  · exact fun req records hsent => hinv.acks (req, records) hsent
  · intro ls' τ hrun' key
    have hlater : FlowsInv τ ∧ σ.records.Advances τ.records := by
      refine Machine.run_invariant (I := fun τ => FlowsInv τ ∧ σ.records.Advances τ.records) ?_
        hrun' ⟨hinv, .refl _⟩
      rintro l υ ω hstep ⟨hυ, hadvances⟩
      obtain ⟨hω, hstep⟩ := flowsInv_step l υ ω hstep hυ
      exact ⟨hω, hadvances.trans hstep⟩
    exact hlater.2 (targetBindingKey key)

end Concurrent

/-! ## Two catch-ups that overlap -/

/-- The client of the example. -/
def memoOpts : SyncClientOptions where
  subscriberId := "device"

/-- The target of the example. -/
def memoTarget : SyncTarget where
  ns := "n"
  id := "a"

/-- A binding that keeps nothing of its events. -/
def memoBinding : SyncBinding Unit Unit where
  target := memoTarget
  projection :=
    { snapshotType := "memo"
      decodeSnapshot := fun _ _ => ()
      decodeEvent := fun _ => () }

/-- The answer of the gateway: a final batch of two events. -/
def memoAnswer : Answer :=
  let batch : GatewayBatch :=
    { target := memoTarget
      events := [{ target := memoTarget, seq := 1 }, { target := memoTarget, seq := 2 }]
      seq := 2
      final := true
      bindingKey := "default" }
  .results (.ok
    [{ target := memoTarget, status := .ok, batch := some batch, bindingKey := "default" }])

/-- Two catch-ups read the applied seq before either of them applies its batch. -/
def overlapping : List FlowLabel :=
  [.start (.catchUp 1), .start (.catchUp 1), .perform 0 memoAnswer,
    .perform 1 memoAnswer, .perform 0 .done, .perform 1 .done, .perform 0 .done,
    .perform 1 .done, .perform 0 .done, .perform 0 (.acked (.ok ())), .perform 1 .done,
    .perform 1 (.acked (.ok ()))]

/-- Both catch-ups hand over the same two events, and each event is added once. -/
theorem flows_apply_once_overlapping :
    ∃ σ, (flows memoOpts memoBinding).run overlapping {} = some σ ∧
      σ.addedTo "device:n/a/#default" = [1, 2] ∧ σ.acks.map (·.1.seq) = [2, 2] ∧
      (∀ encoded, (σ.addedTo encoded).Pairwise (· < ·)) ∧
      (∀ key, (σ.records.getRecord key).events.map (·.seq) <:+
        σ.addedTo (targetBindingKey key)) ∧
      ∀ req records, (req, records) ∈ σ.acks → records.Covers req := by
  obtain ⟨σ, hrun, hadded, hacks⟩ : ∃ σ,
      (flows memoOpts memoBinding).run overlapping {} = some σ ∧
      σ.addedTo "device:n/a/#default" = [1, 2] ∧ σ.acks.map (·.1.seq) = [2, 2] :=
    ⟨_, rfl, rfl, rfl⟩
  obtain ⟨hincreasing, hkept, -, hcovered, -⟩ := flows_apply_once hrun
  exact ⟨σ, hrun, hadded, hacks, hincreasing, hkept, hcovered⟩

end Synclog.Client
