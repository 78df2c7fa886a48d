import Synclog.Core.Delivery
import Synclog.Memory.Interference

/-!
# The raw subscribe loop

`Server.Subscribe` of `pkg/synclog/transport/grpc/server.go` as a machine. Its steps interleave with
operations on the store in any order: one step of the loop is one call of the engine's catch-up, or
the treatment of its result. `waitStream` may return at any time, and the context may end or a send
may fail at any time (`fail`).

* `RawLoop`, `rawLoop` — the machine.
* `RawLoop.Knows` — what every run keeps of what is known of the results of a catch-up.
* `RawInv`, `rawInv_step`, `rawInv_run` — what holds in every state of every run.
-/

namespace Synclog.Transport

open Synclog.Lib Synclog.Core Synclog.Memory
open Relation (ReflTransGen)

/-! ## What a catch-up under interference reports -/

/-- What the calls of a poll do. They only read, and no reading call looks at the clock. -/
abbrev pollHandler : Handler StoreCall (Traced Store) := (handler 0).within (Traced.cell Store)

/-- A read leaves the traced store as it is. -/
theorem pollHandler_isRead (β : Type) (c : StoreCall β) (store : Traced Store)
    (hc : StoreCall.IsRead β c) : (pollHandler β c store).2 = store :=
  handler_isRead 0 (Traced.cell Store) β c store hc

/-- The events are a contiguous run right behind a value that the committed cursor had, up to
`last`. -/
def ContiguousFrom {α : Type} (committed : Store → Nat) (store : Traced Store) (seq : α → Nat)
    (events : List α) (last : Nat) : Prop :=
  ∃ s ∈ store.states,
    Consecutive seq (committed s + 1) events ∧ last = committed s + events.length

/-- Events stay contiguous with what was committed before. -/
theorem ContiguousFrom.later {α : Type} {committed : Store → Nat} {σ τ : Traced Store}
    {seq : α → Nat} {events : List α} {last : Nat}
    (h : ContiguousFrom committed σ seq events last) (hpast : ∀ s ∈ σ.states, s ∈ τ.states) :
    ContiguousFrom committed τ seq events last := by
  obtain ⟨s, hs, hrun⟩ := h
  exact ⟨s, hpast s hs, hrun⟩

/-- Whatever a program calls, a reachable store stays reachable. -/
theorem exec_reachable {α : Type} {p : Prog StoreCall α} {σ τ : Traced Store} {a : α}
    (h : Prog.Exec pollHandler EnvStep p σ a τ) (hσ : Reachable σ.now) : Reachable τ.now := by
  refine Prog.Exec.rel (T := fun σ τ => Reachable σ.now → Reachable τ.now) ?_ ?_ ?_ ?_ h hσ
  · exact fun _ hσ => hσ
  · exact fun _ _ _ hστ hτυ hσ => hτυ (hστ hσ)
  · exact fun _ _ hstep hσ => (envSteps_later hσ (.single hstep)).1
  · exact fun _ c _ hσ => handler_reachable 0 c hσ

/-- A half-executed program that only reads, from a reachable store, and of which every result will
satisfy `Q` at the time it is there. -/
structure Reading {α : Type} (Q : α → Traced Store → Prop) (store : Traced Store)
    (p : Prog StoreCall (Except GoError α)) : Prop where
  only : Prog.Only StoreCall.IsRead p
  sat : Prog.Sat pollHandler EnvStep p
    (fun r τ => Reachable τ.now ∧ ∀ a, r = .ok a → Q a τ) store

namespace Reading

variable {α : Type} {Q : α → Traced Store → Prop} {store : Traced Store}

/-- Its next call changes nothing. -/
theorem call {β : Type} {c : StoreCall β} {k : β → Prog StoreCall (Except GoError α)}
    (h : Reading Q store (.call c k)) :
    (pollHandler _ c store).2 = store ∧ Reading Q store (k (pollHandler _ c store).1) := by
  have hsame := pollHandler_isRead _ c store h.only.1
  refine ⟨hsame, h.only.2 _, ?_⟩
  have hsat := h.sat.of_call
  rw [hsame] at hsat
  exact hsat

/-- Another party performs an operation. -/
theorem env (h : Reading Q store p) {store' : Traced Store} (hstep : EnvStep store store')
    (hQ : ∀ a σ τ, Reachable σ.now → EnvStep σ τ → Q a σ → Q a τ) : Reading Q store' p := by
  refine ⟨h.only, h.sat.of_env ?_ hstep⟩
  rintro r σ τ hστ ⟨hreach, hok⟩
  obtain ⟨hreach', -⟩ := envSteps_later hreach (.single hστ)
  exact ⟨hreach', fun a hr => hQ a σ τ hreach hστ (hok a hr)⟩

/-- It has ended with a result. -/
theorem ret {a : α} (h : Reading Q store (.ret (.ok a))) : Q a store :=
  (Prog.sat_ret.mp h.sat).2 a rfl

end Reading

/-- What is known of the result of a catch-up from the time on at which it was computed. -/
structure ResultOk (subscriberID : SubscriberID) (streamID : StreamID) (store : Traced Store)
    (result : CatchUpResult) : Prop where
  answer : AnswerOk (store.now.committed subscriberID streamID) result.cursor.seq
    (result.batch.events.map Event.seq) result.batch.seq
  contiguous : result.batch.events ≠ [] →
    ContiguousFrom (·.committed subscriberID streamID) store Event.seq result.batch.events
      result.batch.seq

/-- A right result stays right while others go on. -/
theorem ResultOk.later {subscriberID : SubscriberID} {streamID : StreamID} {σ τ : Traced Store}
    {result : CatchUpResult} (h : ResultOk subscriberID streamID σ result)
    (hσ : Reachable σ.now) (hsteps : ReflTransGen EnvStep σ τ) :
    ResultOk subscriberID streamID τ result := by
  obtain ⟨-, hpast, hle⟩ := envSteps_later hσ hsteps
  exact ⟨h.answer.mono (hle _ _), fun hne => (h.contiguous hne).later hpast⟩

/-- The three stores that a catch-up saw, in the order of time, make its result one. -/
theorem ResultOk.of_catchUpOf {req : CatchUpRequest} {σ u₁ u₂ u₃ τ : Traced Store}
    (hσ : Reachable σ.now) (h₁ : ReflTransGen EnvStep σ u₁) (h₂ : ReflTransGen EnvStep u₁ u₂)
    (h₃ : ReflTransGen EnvStep u₂ u₃) (h₄ : ReflTransGen EnvStep u₃ τ) {result : CatchUpResult}
    (h : catchUpOf req u₁.now u₂.now u₃.now = .ok result) :
    ResultOk req.subscriberID req.streamID τ result := by
  obtain ⟨hr₁, -, -⟩ := envSteps_later hσ h₁
  obtain ⟨hr₂, -, -⟩ := envSteps_later hr₁ h₂
  obtain ⟨hr₃, -, -⟩ := envSteps_later hr₂ h₃
  obtain ⟨-, hpast, hle⟩ := envSteps_later hr₁ (h₂.trans (h₃.trans h₄))
  obtain ⟨hcursor, hbatch⟩ := catchUpOf_batch hr₂ hr₃ h
  have hcommitted := hle req.subscriberID req.streamID
  refine ⟨⟨hcursor.trans_le hcommitted, ?_⟩, ?_⟩
  · intro hne
    obtain ⟨hcons, hseq⟩ := hbatch (by simpa using hne)
    refine ⟨_, hcommitted, ?_, by rw [List.length_map]; exact hseq⟩
    exact Consecutive.map_iff.mpr hcons
  · intro hne
    exact ⟨u₁.now, hpast _ u₁.now_mem_states, hbatch hne⟩

/-- A catch-up that begins. -/
theorem reading_catchUp (req : CatchUpRequest) {store : Traced Store} (h : Reachable store.now) :
    Reading (fun result τ => ResultOk req.subscriberID req.streamID τ result) store
      (Engine.catchUp req).run := by
  refine ⟨Engine.catchUp_only_reads req, ?_⟩
  intro r τ hexec
  refine ⟨exec_reachable hexec h, ?_⟩
  intro result hok
  obtain ⟨s₁, s₂, h₁, h₂, h₃, rfl⟩ := Memory.exec_catchUp hexec
  exact .of_catchUpOf h h₁ h₂ h₃ .refl hok

/-! ## The machine -/

/-- Source: `service.proto`, `SubscribeRequest`. -/
structure SubscribeRequest where
  subscriberId : SubscriberID
  streamId : StreamID
  batchLimit : Nat := 0
  maxInFlight : Nat := 0
  deriving DecidableEq, Repr

/-- The catch-up that the loop asks for.
Source: `server.go`, `Server.Subscribe`. -/
def SubscribeRequest.catchUp (req : SubscribeRequest) : CatchUpRequest where
  subscriberID := req.subscriberId
  streamID := req.streamId
  limit := req.batchLimit

/-- Where the loop stands. -/
inductive RawPc
  | top
  | catchingUp (p : Prog StoreCall (Except GoError CatchUpResult))
  | waiting
  | ended

/-- Source: `server.go`, `unixMS`; a time is a number of nanoseconds. -/
def unixMS (time : Int) : Int := time.tdiv 1000000

/-- What the loop has sent: a heartbeat, or the result of a catch-up; with the latter the store at
that time, and the marks before the result was treated. -/
inductive RawSent
  | heartbeat (serverTimeUnixMs : Int)
  | response (result : CatchUpResult) (serverTimeUnixMs : Int) (store : Traced Store) (mark : Mark)

/-- Source: `server.go`, `Server.Subscribe`: the variables of the loop, with the store and with what
was sent, newest first. -/
structure RawLoop where
  store : Traced Store
  mark : Mark := {}
  lastHeartbeat : Int
  pc : RawPc := .top
  sent : List RawSent := []

namespace RawLoop

/-- Send what is given and go on at `pc`. -/
def send (σ : RawLoop) (frame : RawSent) (pc : RawPc) : RawLoop :=
  { σ with sent := frame :: σ.sent, pc }

/-- The loop goes idle, with a heartbeat first when one is due.
Source: `server.go`, `Server.Subscribe`, the end of the loop body. -/
def idle (σ : RawLoop) (heartbeatEvery now : Int) : RawLoop :=
  if now - σ.lastHeartbeat ≥ heartbeatEvery then
    { σ.send (.heartbeat (unixMS now)) .waiting with lastHeartbeat := now }
  else { σ with pc := .waiting }

/-- The treatment of a result.
Source: `server.go`, `Server.Subscribe`, the loop body behind the catch-up. -/
def treat (σ : RawLoop) (req : SubscribeRequest) (heartbeatEvery now : Int)
    (result : CatchUpResult) : RawLoop :=
  let (outcome, mark) := σ.mark.step req.maxInFlight result.cursor.seq result.status
    (!result.batch.events.isEmpty) result.batch.seq
  let frame := RawSent.response result (unixMS now) σ.store σ.mark
  let σ := { σ with mark }
  match outcome with
  | .throttled => { σ with pc := .waiting }
  | .announced => σ.send frame .waiting
  | .delivered => σ.send frame (if result.batch.final then .waiting else .top)
  -- a `TOO_LONG` that was announced before leads to the wait without a heartbeat
  | .silent =>
    if result.status = .tooLong then { σ with pc := .waiting } else σ.idle heartbeatEvery now

end RawLoop

/-- What happens next: another party performs an operation that keeps the cursors, the loop takes
its next step at the time `now`, the wait returns, or the stream ends. -/
inductive RawLabel
  | env (op : Op) (keeps : op.KeepsCursors)
  | loop (now : Int)
  | resume
  | fail

/-- Source: `server.go`, `Server.Subscribe`. -/
def rawLoop (req : SubscribeRequest) (heartbeatEvery : Int) : Machine RawLoop RawLabel where
  step
    | .env op _, σ => some { σ with store := σ.store.push (op.apply σ.store.now) }
    | .loop now, σ =>
      match σ.pc with
      | .top => some { σ with pc := .catchingUp (Engine.catchUp req.catchUp).run }
      | .catchingUp (.call c k) =>
        some { σ with
          store := (pollHandler _ c σ.store).2
          pc := .catchingUp (k (pollHandler _ c σ.store).1) }
      | .catchingUp (.ret (.ok result)) => some (σ.treat req heartbeatEvery now result)
      | .catchingUp (.ret (.error _)) => some { σ with pc := .ended }
      | .waiting | .ended => none
    | .resume, σ =>
      match σ.pc with
      | .waiting => some { σ with pc := .top }
      | _ => none
    | .fail, σ => some { σ with pc := .ended }

section Steps

variable {req : SubscribeRequest} {heartbeatEvery : Int} {σ τ : RawLoop}

variable (req heartbeatEvery σ) in
/-- What one step of the machine can do. -/
inductive RawStep : RawLoop → Prop
  | env {op : Op} (keeps : op.KeepsCursors) :
      RawStep { σ with store := σ.store.push (op.apply σ.store.now) }
  | begin : RawStep { σ with pc := .catchingUp (Engine.catchUp req.catchUp).run }
  | call {β : Type} {c : StoreCall β} {k : β → Prog StoreCall (Except GoError CatchUpResult)}
      (hpc : σ.pc = .catchingUp (.call c k)) :
      RawStep { σ with
        store := (pollHandler _ c σ.store).2
        pc := .catchingUp (k (pollHandler _ c σ.store).1) }
  | treat (now : Int) {result : CatchUpResult} (hpc : σ.pc = .catchingUp (.ret (.ok result))) :
      RawStep (σ.treat req heartbeatEvery now result)
  | leave {pc : RawPc} (hpc : ∀ p, pc ≠ .catchingUp p) : RawStep { σ with pc }

/-- What a step does. -/
theorem rawLoop_cases {l : RawLabel} (hstep : (rawLoop req heartbeatEvery).step l σ = some τ) :
    RawStep req heartbeatEvery σ τ := by
  unfold rawLoop at hstep
  cases l with
  | env op keeps =>
      cases hstep
      exact .env keeps
  | loop now =>
      simp only at hstep
      split at hstep
      · cases hstep
        exact .begin
      · rename_i hpc
        cases hstep
        exact .call hpc
      · rename_i hpc
        cases hstep
        exact .treat now hpc
      · cases hstep
        exact .leave (by simp)
      all_goals cases hstep
  | resume =>
      simp only at hstep
      split at hstep
      · cases hstep
        exact .leave (by simp)
      · cases hstep
  | fail =>
      cases hstep
      exact .leave (by simp)

end Steps

/-- The treatment of a result leaves the store alone, and no catch-up is under way behind it. -/
theorem RawLoop.treat_frame (σ : RawLoop) (req : SubscribeRequest) (heartbeatEvery now : Int)
    (result : CatchUpResult) :
    (σ.treat req heartbeatEvery now result).store = σ.store ∧
      ∀ p, (σ.treat req heartbeatEvery now result).pc ≠ .catchingUp p := by
  unfold treat idle send
  rcases σ.mark.step req.maxInFlight result.cursor.seq result.status
    (!result.batch.events.isEmpty) result.batch.seq with ⟨outcome, mark⟩
  rcases outcome
  · simp
  · simp only
    split_ifs <;> simp
  · simp
  · simp only
    split_ifs <;> simp

/-- The state in which a stream begins, over a reachable store. -/
def RawLoop.start (s : Store) (now : Int) : RawLoop where
  store := { now := s }
  lastHeartbeat := now

/-! ## What is known of a catch-up under way -/

namespace RawLoop

/-- The store can be reached, and every result of the catch-up under way will satisfy `Q`. -/
structure Knows (Q : CatchUpResult → Traced Store → Prop) (σ : RawLoop) : Prop where
  reachable : Reachable σ.store.now
  catchingUp : ∀ p, σ.pc = .catchingUp p → Reading Q σ.store p

variable {Q : CatchUpResult → Traced Store → Prop} {req : SubscribeRequest} {heartbeatEvery : Int}

/-- The variables of the loop matter only where a catch-up is under way. -/
theorem Knows.leave {σ τ : RawLoop} (h : Knows Q σ) (hstore : τ.store = σ.store)
    (hpc : ∀ p, τ.pc ≠ .catchingUp p) : Knows Q τ where
  reachable := hstore ▸ h.reachable
  catchingUp p heq := absurd heq (hpc p)

/-- At the start nothing was polled. -/
theorem knows_start {s : Store} (hs : Reachable s) (now : Int) : Knows Q (.start s now) where
  reachable := hs
  catchingUp p hpc := by cases hpc

/-- What one step keeps of the knowledge about answers: it holds of every catch-up that begins, and
operations of other parties keep it. -/
theorem knows_step
    (hbegin : ∀ store, Reachable store.now → Reading Q store (Engine.catchUp req.catchUp).run)
    (hlater : ∀ result σ τ, Reachable σ.now → EnvStep σ τ → Q result σ → Q result τ)
    (l : RawLabel) (σ τ : RawLoop) (hstep : (rawLoop req heartbeatEvery).step l σ = some τ)
    (h : Knows Q σ) : Knows Q τ := by
  cases rawLoop_cases hstep with
  | @env op keeps =>
      exact ⟨h.reachable.apply op, fun p hpc => (h.catchingUp p hpc).env ⟨op, keeps, rfl⟩ hlater⟩
  | begin =>
      refine ⟨h.reachable, ?_⟩
      rintro p ⟨⟩
      exact hbegin σ.store h.reachable
  | call hpc =>
      obtain ⟨hsame, hnext⟩ := (h.catchingUp _ hpc).call
      rw [hsame]
      refine ⟨h.reachable, ?_⟩
      rintro p ⟨⟩
      exact hnext
  | treat now hpc =>
      obtain ⟨hstore, hleft⟩ := σ.treat_frame req heartbeatEvery now _
      exact h.leave hstore hleft
  | leave hpc => exact h.leave rfl hpc

/-- A run from a reachable store. -/
theorem knows_run
    (hbegin : ∀ store, Reachable store.now → Reading Q store (Engine.catchUp req.catchUp).run)
    (hlater : ∀ result σ τ, Reachable σ.now → EnvStep σ τ → Q result σ → Q result τ)
    {ls : List RawLabel} {s : Store} {now : Int} {σ : RawLoop} (hs : Reachable s)
    (hrun : (rawLoop req heartbeatEvery).run ls (.start s now) = some σ) : Knows Q σ :=
  Machine.run_invariant (knows_step hbegin hlater) hrun (knows_start hs now)

end RawLoop

/-! ## What every run keeps -/

/-- The frame that a sent result is, for the accounts of the marks. -/
def RawSent.toSent? (committed : Store → Nat) : RawSent → Option Sent
  | .heartbeat _ => none
  | .response result _ store mark => some
      { status := result.status
        seqs := result.batch.events.map Event.seq
        seq := result.batch.seq
        committed := committed store.now
        delivered := mark.delivered }

/-- The committed cursor that a raw stream is about. -/
def SubscribeRequest.committed (req : SubscribeRequest) (s : Store) : Nat :=
  s.committed req.subscriberId req.streamId

/-- The results sent so far, newest first. -/
def RawLoop.frames (req : SubscribeRequest) (σ : RawLoop) : List Sent :=
  σ.sent.filterMap (RawSent.toSent? req.committed)

/-- The frame that the treatment of a result may send. -/
def RawLoop.frameOf (σ : RawLoop) (req : SubscribeRequest) (result : CatchUpResult) : Sent where
  status := result.status
  seqs := result.batch.events.map Event.seq
  seq := result.batch.seq
  committed := req.committed σ.store.now
  delivered := σ.mark.delivered

/-- What the treatment of a result does with the mark and the frames. -/
theorem RawLoop.treat_marks (σ : RawLoop) (req : SubscribeRequest) (heartbeatEvery now : Int)
    (result : CatchUpResult) :
    (σ.treat req heartbeatEvery now result).mark =
        (σ.mark.step req.maxInFlight result.cursor.seq result.status
          (!result.batch.events.isEmpty) result.batch.seq).2 ∧
      (σ.treat req heartbeatEvery now result).frames req =
        record (σ.mark.step req.maxInFlight result.cursor.seq result.status
          (!result.batch.events.isEmpty) result.batch.seq).1 (σ.frameOf req result)
          (σ.frames req) := by
  unfold treat idle send
  rcases σ.mark.step req.maxInFlight result.cursor.seq result.status
    (!result.batch.events.isEmpty) result.batch.seq with ⟨outcome, mark⟩
  cases outcome with
  | throttled | announced | delivered => exact ⟨rfl, rfl⟩
  | silent =>
      simp only
      split_ifs
      · exact ⟨rfl, rfl⟩
      · exact ⟨rfl, rfl⟩
      · exact ⟨rfl, rfl⟩

/-- It sends nothing but that result and heartbeats. -/
theorem RawLoop.mem_sent_treat {σ : RawLoop} {req : SubscribeRequest} {heartbeatEvery now : Int}
    {result result' : CatchUpResult} {time : Int} {store : Traced Store} {mark : Mark}
    (h : .response result' time store mark ∈ (σ.treat req heartbeatEvery now result).sent) :
    (result' = result ∧ store = σ.store) ∨ .response result' time store mark ∈ σ.sent := by
  unfold treat idle send at h
  rcases hstep : σ.mark.step req.maxInFlight result.cursor.seq result.status
    (!result.batch.events.isEmpty) result.batch.seq with ⟨outcome, mark'⟩
  rw [hstep] at h
  cases outcome with
  | throttled => exact .inr h
  | announced | delivered =>
      rcases List.mem_cons.mp h with heq | hmem
      · cases heq
        exact .inl ⟨rfl, rfl⟩
      · exact .inr hmem
  | silent =>
      simp only at h
      split_ifs at h
      · exact .inr h
      · rcases List.mem_cons.mp h with heq | hmem
        · cases heq
        · exact .inr hmem
      · exact .inr h

/-- The invariant of the raw loop. -/
structure RawInv (req : SubscribeRequest) (σ : RawLoop) : Prop where
  reachable : Reachable σ.store.now
  catchingUp : ∀ p, σ.pc = .catchingUp p →
    Reading (fun result τ => ResultOk req.subscriberId req.streamId τ result) σ.store p
  accounted : Accounted σ.mark (σ.frames req) (req.committed σ.store.now)
  contiguous : ∀ result now store mark, .response result now store mark ∈ σ.sent →
    result.batch.events ≠ [] →
      ContiguousFrom req.committed store Event.seq result.batch.events result.batch.seq

/-- The invariant holds at the start. -/
theorem rawInv_start (req : SubscribeRequest) {s : Store} (hs : Reachable s) (now : Int) :
    RawInv req (.start s now) where
  reachable := hs
  catchingUp p hpc := by cases hpc
  accounted := .fresh _
  contiguous result now store mark hmem := by simp [RawLoop.start] at hmem

/-- The treatment of a result. -/
theorem RawInv.treat {req : SubscribeRequest} {σ : RawLoop} (h : RawInv req σ)
    (heartbeatEvery now : Int) {result : CatchUpResult}
    (hresult : ResultOk req.subscriberId req.streamId σ.store result) :
    RawInv req (σ.treat req heartbeatEvery now result) := by
  obtain ⟨hstore, hleft⟩ := σ.treat_frame req heartbeatEvery now result
  obtain ⟨hmark, hframes⟩ := σ.treat_marks req heartbeatEvery now result
  have haccounted := h.accounted.step hresult.answer req.maxInFlight result.status
  rw [List.isEmpty_map] at haccounted
  refine ⟨hstore ▸ h.reachable, fun p hpc => absurd hpc (hleft p), ?_, ?_⟩
  · rw [hmark, hframes, hstore]
    exact haccounted
  · intro result' time store mark hmem hne
    rcases RawLoop.mem_sent_treat hmem with ⟨rfl, rfl⟩ | hold
    · exact hresult.contiguous hne
    · exact h.contiguous result' time store mark hold hne

/-- What one step keeps. -/
theorem rawInv_step (req : SubscribeRequest) (heartbeatEvery : Int) (l : RawLabel) (σ τ : RawLoop)
    (hstep : (rawLoop req heartbeatEvery).step l σ = some τ) (h : RawInv req σ) : RawInv req τ := by
  obtain ⟨hreachable, hcatchingUp⟩ := RawLoop.knows_step
    (fun _ => reading_catchUp req.catchUp)
    (fun _ _ _ hσ hστ hok => hok.later hσ (.single hστ)) l σ τ hstep ⟨h.reachable, h.catchingUp⟩
  cases rawLoop_cases hstep with
  | env keeps =>
      have haccounted := h.accounted.mono (Op.committed_le keeps h.reachable _ _)
      exact ⟨hreachable, hcatchingUp, haccounted, h.contiguous⟩
  | call hpc =>
      obtain ⟨hsame, -⟩ := (h.catchingUp _ hpc).call
      refine ⟨hreachable, hcatchingUp, ?_, h.contiguous⟩
      rw [hsame]
      exact h.accounted
  | treat now hpc => exact h.treat heartbeatEvery now (h.catchingUp _ hpc).ret
  | begin | leave => exact ⟨hreachable, hcatchingUp, h.accounted, h.contiguous⟩

/-- The invariant holds in every run. -/
theorem rawInv_run {req : SubscribeRequest} {heartbeatEvery : Int} {ls : List RawLabel} {s : Store}
    {now : Int} {σ : RawLoop} (hs : Reachable s)
    (hrun : (rawLoop req heartbeatEvery).run ls (.start s now) = some σ) : RawInv req σ :=
  Machine.run_invariant (rawInv_step req heartbeatEvery) hrun (rawInv_start req hs now)

end Synclog.Transport
