import Synclog.Gateway.Ack
import Synclog.Gateway.AddedTarget
import Synclog.Memory.Acks
import Synclog.Transport.GatewaySpin

/-!
# A live stream drains

A `GatewaySubscribe` stream whose subscriber acknowledges what it gets, over a store to which
nothing else happens: in every iteration each binding that is behind gets its next batch, however
many others share the stream and however much they have to catch up, and the loop does not wait
before every binding has everything.

* `Loop.turn` — one iteration, and what the subscriber acknowledges then.
* `Welcome`, `Loop.poll_of_welcome` — when a poll of all targets succeeds.
* `Loop.respond_settled`, `Loop.treat_settled` — what the loop does with a response, and with all of
  them, when no binding has anything in flight.
* `Loop.Ready`, `Loop.Ready.turn` — what holds between two turns.
* `stream_drains` — any number of turns.
-/

namespace Synclog.Transport

open Synclog.Lib Synclog.Core Synclog.Memory Synclog.Gateway

/-! ## A turn -/

namespace Loop

/-- The acknowledgements for these bindings: for each one, of all that was delivered. -/
def owed (σ : Loop) (subscriberID : SubscriberID) (ps : List (SyncTarget × StreamBinding)) :
    List AckRequest :=
  ps.map fun p =>
    { subscriberID, streamID := p.2.streamID, seq := (σ.mark (keyOf p.1 p.2)).delivered }

/-- Acknowledgements come in, one after the other. -/
def acked (σ : Loop) (acks : List AckRequest) : Loop :=
  { σ with
    store := acks.foldl (fun store req => store.push ((Op.ack req).apply store.now)) σ.store }

section Turn

variable {Actor : Type} (σ : Loop) (hooks : Hooks Actor) (actor : Actor)
  (req : GatewaySubscribeRequest) (w : Pacing) (subscriberID : SubscriberID)

/-- One iteration at this time; then the subscriber acknowledges what was delivered. -/
def turn (now : Int) : Loop :=
  let ρ := σ.body hooks actor req w now
  ρ.acked (ρ.owed subscriberID (boundIn hooks actor σ.sub.snapshot))

/-- Turns at these times. -/
def turns (nows : List Int) : Loop :=
  nows.foldl (fun σ now => σ.turn hooks actor req w subscriberID now) σ

end Turn

/-- The store after the acknowledgements. -/
theorem acked_now (σ : Loop) (acks : List AckRequest) :
    (σ.acked acks).store.now = runAcks acks σ.store.now := by
  have hfold : ∀ (store : Traced Store),
      (acks.foldl (fun store req => store.push ((Op.ack req).apply store.now)) store).now =
        runAcks acks store.now := by
    induction acks with
    | nil => exact fun _ => rfl
    | cons req acks ih => exact fun store => ih _
  exact hfold σ.store

end Loop

/-- A step of a stream that nothing else happens to, and that does not wait: the loop takes its next
step, or the subscriber acknowledges something. -/
def LoopLabel.Prompt {U : Set SyncTarget} (subscriberID : SubscriberID) : LoopLabel U → Prop
  | .loop _ => True
  | .env op _ => ∃ req, op = .ack req ∧ req.subscriberID = subscriberID
  | .modify .. | .takeWake | .resume | .fail => False

section Drain

variable {Actor : Type} {hooks : Hooks Actor} {actor : Actor} {subscriberID : SubscriberID}
  {req : GatewaySubscribeRequest} {w : Pacing} {σ : Loop}

variable (hooks actor req) in
/-- The acknowledgements are steps of the machine. -/
theorem run_acked (U : Set SyncTarget) (heartbeatEvery : Int) (acks : List AckRequest)
    (hacks : ∀ ack ∈ acks, ack.subscriberID = subscriberID) (σ : Loop) :
    ∃ ls, (∀ l ∈ ls, LoopLabel.Prompt subscriberID l) ∧
      (gatewayLoop hooks actor req U heartbeatEvery).run ls σ = some (σ.acked acks) := by
  induction acks generalizing σ with
  | nil => exact ⟨[], by simp, rfl⟩
  | cons ack acks ih =>
      obtain ⟨hack, hrest⟩ := List.forall_mem_cons.mp hacks
      obtain ⟨ls, hls, hrun⟩ := ih hrest (σ.acked [ack])
      refine ⟨.env (.ack ack) trivial :: ls, ?_, hrun⟩
      exact List.forall_mem_cons.mpr ⟨⟨ack, rfl, hack⟩, hls⟩

variable (subscriberID w) in
/-- A turn is steps of the machine that do not wait. -/
theorem run_turn (U : Set SyncTarget) (hpc : σ.pc = .top) (hne : σ.sub.snapshot ≠ [])
    {responses : List GatewaySubscribeResponse} (hpoll : σ.poll hooks actor req = .ok responses)
    (now : Int) :
    ∃ ls, (∀ l ∈ ls, LoopLabel.Prompt subscriberID l) ∧
      (gatewayLoop hooks actor req U w.heartbeatEvery).run ls σ =
        some (σ.turn hooks actor req w subscriberID now) := by
  obtain ⟨n, hbody⟩ : ∃ n,
      (gatewayLoop hooks actor req U w.heartbeatEvery).run (List.replicate n (.loop now)) σ =
        some (σ.body hooks actor req w now) := Loop.run_body U hpc hne hpoll
  have howed : ∀ ack ∈ (σ.body hooks actor req w now).owed subscriberID
      (boundIn hooks actor σ.sub.snapshot), ack.subscriberID = subscriberID := by
    intro ack hack
    obtain ⟨p, -, rfl⟩ := List.mem_map.mp hack
    rfl
  obtain ⟨ls, hls, hacked⟩ := run_acked hooks actor req U w.heartbeatEvery _ howed
    (σ.body hooks actor req w now)
  refine ⟨List.replicate n (.loop now) ++ ls, ?_, ?_⟩
  · intro l hl
    rcases List.mem_append.mp hl with hl | hl
    · rw [List.eq_of_mem_replicate hl]
      trivial
    · exact hls l hl
  · rw [Machine.run_append, hbody]
    exact hacked

/-! ## When a poll succeeds -/

variable (hooks actor subscriberID) in
/-- The hooks let the subscriber have every event of a target that is retained. -/
structure Welcome (s : Store) (target : SyncTarget) : Prop where
  resolves : ∃ bindings, resolveBindings hooks actor target = .ok bindings ∧
    ∀ b ∈ bindings, ∀ event ∈ (s.ensureStream b.streamID).events,
      Deliverable hooks actor subscriberID .subscribe target b event
  authorized : hooks.authorize { actor, operation := .subscribe, target, subscriberID } = .ok ()

/-- Only what is retained is pending. -/
theorem mem_events_of_pending {s : Store} {streamID : StreamID} {limit : Int} {event : Event}
    (h : event ∈ pendingEvents s subscriberID streamID limit) :
    event ∈ (s.ensureStream streamID).events := by
  unfold pendingEvents at h
  simp only at h
  split_ifs at h
  · cases h
  · exact List.mem_of_mem_filter (List.mem_of_mem_take h)

namespace Loop

/-- The poll of an iteration is one of the store as it is. -/
theorem poll_eq_answer (σ : Loop) (req : GatewaySubscribeRequest) :
    σ.poll hooks actor req =
      answer 0 (gatewaySubscribePoll hooks actor { req with targets := σ.sub.snapshot })
        σ.store.now := by
  have hcall : ∀ (β : Type) (c : StoreCall β) (t : Traced Store) (s : Store), t.now = s →
      (pollHandler β c t).1 = (handler 0 β c s).1 ∧
        (pollHandler β c t).2.now = (handler 0 β c s).2 := by
    rintro β c t s rfl
    exact ⟨rfl, rfl⟩
  exact (Prog.run_congr hcall _ rfl).1

/-- A poll succeeds when the hooks let through what is retained of all targets. -/
theorem poll_of_welcome (hσ : Reachable σ.store.now)
    (hsub : resolveSubscriber hooks actor req.subscriberId = .ok subscriberID)
    (hne : σ.sub.snapshot ≠ [])
    (h : ∀ t ∈ σ.sub.snapshot, Welcome hooks actor subscriberID σ.store.now t) :
    ∃ responses, σ.poll hooks actor req = .ok responses := by
  have hnamed := resolveSubscriber_ne hsub
  rw [poll_eq_answer]
  refine ⟨_, (answer_gatewaySubscribePoll { req with targets := σ.sub.snapshot } hsub).mpr
    ⟨?_, fun t ht => ?_, rfl⟩⟩
  · refine validateTargets_ok_iff.mpr ⟨hne, fun t ht => ?_⟩
    obtain ⟨bindings, hresolve, -⟩ := (h t ht).resolves
    exact validateTarget_of_resolveBindings hresolve
  · obtain ⟨bindings, hresolve, hevents⟩ := (h t ht).resolves
    have hids : ∀ b ∈ bindings, b.streamID ≠ "" :=
      fun b hb => ((resolveBindings_ok hresolve).1 b hb).1
    obtain ⟨state, hstate⟩ := run_targetState hnamed t hids σ.store.now 0
    have hanswer : answer 0 (targetState subscriberID t bindings) σ.store.now = .ok state :=
      congrArg Prod.fst hstate
    refine (answer_catchUpTarget_iff _ 0 hσ hnamed hresolve (h t ht).authorized hanswer).mpr ?_
    exact fun b hb event hevent => hevents b hb event (mem_events_of_pending hevent)

end Loop

/-! ## How far a batch gets -/

/-- How far a reader at `c` gets with a batch of at most `limit` events. -/
def advance (head : StreamHead) (limit c : Nat) : Nat :=
  if replayTooOld c head.retainedSeqStart then c else max c (min (c + limit) head.cursor.seq)

/-- The replay can be served, and a batch of `limit` events is not all of it. -/
def Behind (head : StreamHead) (limit c : Nat) : Prop :=
  replayTooOld c head.retainedSeqStart = false ∧ c + limit < head.cursor.seq

instance (head : StreamHead) (limit c : Nat) : Decidable (Behind head limit c) :=
  inferInstanceAs (Decidable (_ ∧ _))

section Advance

variable {head : StreamHead} {limit c : Nat}

/-- A batch never takes a cursor back. -/
theorem le_advance : c ≤ advance head limit c := by
  unfold advance
  split_ifs
  · exact le_rfl
  · exact le_max_left _ _

/-- An empty batch takes a cursor nowhere. -/
theorem advance_zero : advance head 0 c = c := by
  unfold advance
  split_ifs
  · rfl
  · omega

/-- A reader further on is not too old where the one before was not. -/
theorem replayTooOld_mono {c' start : Nat} (hle : c ≤ c') (h : replayTooOld c start = false) :
    replayTooOld c' start = false := by
  rw [Bool.eq_false_iff, Ne, replayTooOld_iff] at h ⊢
  omega

/-- With one batch after the other a reader gets as far as with one that is as long as all. -/
theorem advance_advance (n : Nat) :
    advance head limit (advance head (n * limit) c) = advance head ((n + 1) * limit) c := by
  have hmul : (n + 1) * limit = n * limit + limit := Nat.succ_mul n limit
  by_cases hold : replayTooOld c head.retainedSeqStart = true
  · have hstay : ∀ limit, advance head limit c = c := fun limit => if_pos hold
    rw [hstay, hstay, hstay]
  · have hmoves : ∀ limit, advance head limit c = max c (min (c + limit) head.cursor.seq) :=
      fun limit => if_neg hold
    have hagain : ¬ replayTooOld (advance head (n * limit) c) head.retainedSeqStart = true := by
      rw [replayTooOld_mono le_advance (by simpa using hold)]
      decide
    unfold advance at hagain ⊢
    rw [if_neg hold] at hagain
    rw [if_neg hold, if_neg hagain, if_neg hold]
    omega

/-- What is left behind more is left behind less. -/
theorem Behind.anti {limit' : Nat} (h : Behind head limit c) (hle : limit' ≤ limit) :
    Behind head limit' c := by
  obtain ⟨hold, hhead⟩ := h
  exact ⟨hold, by omega⟩

/-- What is left behind `n` batches is what the reader that has them is behind. -/
theorem behind_advance (n : Nat) :
    Behind head limit (advance head (n * limit) c) ↔ Behind head ((n + 1) * limit) c := by
  have hmul : (n + 1) * limit = n * limit + limit := Nat.succ_mul n limit
  unfold Behind
  by_cases hold : replayTooOld c head.retainedSeqStart = true
  · have hstay : advance head (n * limit) c = c := if_pos hold
    rw [hstay, hold]
    simp
  · have hmoves : advance head (n * limit) c =
        max c (min (c + n * limit) head.cursor.seq) := if_neg hold
    have hold' : replayTooOld c head.retainedSeqStart = false := by simpa using hold
    rw [replayTooOld_mono le_advance hold', hold', hmoves]
    simp only [true_and]
    omega

/-- A batch that is not the last one has events. -/
theorem lt_advance_of_behind (hlimit : 0 < limit) (h : Behind head limit c) :
    c < advance head limit c := by
  obtain ⟨hold, hhead⟩ := h
  unfold advance
  rw [if_neg (by simp [hold])]
  omega

/-- What a loop makes of a binding that has nothing in flight. -/
theorem follow_of_settled (hlimit : 0 < limit) {m : Mark} (h : m.delivered ≤ c)
    (maxInFlight : Nat) (head : StreamHead) :
    (m.follow maxInFlight c limit head).2.delivered = advance head limit c ∧
      (m.follow maxInFlight c limit head).1 ≠ .throttled ∧
      ((m.follow maxInFlight c limit head).1 = .delivered ↔ c < advance head limit c) := by
  have hheld : ¬ m.Held maxInFlight c := fun hheld => absurd hheld.2.1 (Nat.not_lt.mpr h)
  have hobserve : (m.observe c).delivered = c := by rw [Mark.observe_of_le h]
  by_cases hold : replayTooOld c head.retainedSeqStart = true
  · have hspent : ¬ m.Spent c limit head := by
      unfold Mark.Spent
      rw [if_pos hold]
      exact fun hspent => absurd hspent.2 (Nat.not_lt.mpr h)
    have hstay : advance head limit c = c := if_pos hold
    rw [Mark.follow_of_tooLong hheld hspent hold, hstay]
    exact ⟨hobserve, by simp, by simp⟩
  · have hmoves : advance head limit c = max c (min (c + limit) head.cursor.seq) := if_neg hold
    by_cases hspent : m.Spent c limit head
    · rw [Mark.follow_of_spent hheld hspent, hmoves]
      unfold Mark.Spent at hspent
      rw [if_neg hold] at hspent
      refine ⟨?_, by simp, ?_⟩
      · rw [hobserve]
        omega
      · simp only [reduceCtorEq, false_iff]
        omega
    · obtain ⟨hhead, hmark, hfollow⟩ := Mark.follow_of_fresh hlimit hheld hspent hold
      rw [hfollow, hmoves]
      refine ⟨?_, by simp, ?_⟩
      · simp only
        omega
      · simp only [true_iff]
        omega

end Advance

/-! ## What a poll has for each binding -/

variable (subscriberID req) in
/-- How far the subscriber gets on the stream of a binding with the next batch. -/
def reach (s : Store) (b : StreamBinding) : Nat :=
  advance (headIn s b.streamID) (normalizeLimit req.batchLimitPerTarget)
    (committedOf subscriberID b s)

variable (subscriberID req) in
/-- The next batch of the subscriber on the stream of a binding is not the last one. -/
def Unfinished (s : Store) (b : StreamBinding) : Prop :=
  Behind (headIn s b.streamID) (normalizeLimit req.batchLimitPerTarget)
    (committedOf subscriberID b s)

instance (s : Store) (b : StreamBinding) : Decidable (Unfinished subscriberID req s b) :=
  inferInstanceAs (Decidable (Behind _ _ _))

variable (subscriberID req) in
/-- The response for a binding has the numbers of the next batch, and says whether it is the last
one. -/
structure Served (s : Store) (p : SyncTarget × StreamBinding) (resp : GatewaySubscribeResponse) :
    Prop where
  answered : Answered subscriberID req.batchLimitPerTarget s p resp
  seqs : (events resp).map GatewayEvent.seq =
    List.range' (committedOf subscriberID p.2 s + 1)
      (reach subscriberID req s p.2 - committedOf subscriberID p.2 s)
  final : committedOf subscriberID p.2 s < reach subscriberID req s p.2 →
    (batchFinal resp = false ↔ Unfinished subscriberID req s p.2)

/-- A batch says whether it is the last one. -/
theorem final_of_catchUpOf {s : Store} (hs : Reachable s) {catchUp : CatchUpRequest}
    {result : CatchUpResult} (h : catchUpOf catchUp s s s = .ok result)
    (hok : result.status = .ok) :
    result.batch.final = decide ((headIn s catchUp.streamID).cursor.seq ≤
      s.committed catchUp.subscriberID catchUp.streamID + normalizeLimit catchUp.limit) := by
  obtain ⟨L, hL⟩ := hs.holds catchUp.streamID
  have hhead : headIn s catchUp.streamID = headOf catchUp.streamID L := hL.headCursor
  obtain rfl := catchUpOf_ok hL hL h
  rw [(catchUpResult_ok hok).2, hhead]
  exact final_batchAfter _ _

/-- One result of a poll alone. -/
theorem served_of_polled {s : Traced Store} (hs : Reachable s.now) {target : SyncTarget}
    {b : StreamBinding} {result : GatewayCatchUpResult}
    (h : Polled (Traced.cell Store) (fun _ _ => False) hooks actor subscriberID
      req.batchLimitPerTarget 0 .subscribe s s target b result) :
    Served subscriberID req s.now (target, b) (toSubscribeResponse result) := by
  have hanswered := Loop.answered_of_polled hs h
  obtain ⟨state, u, u', -, hu, hu', -, hread⟩ := h.read
  obtain rfl := Prog.eq_of_alone hu
  obtain rfl := Prog.eq_of_alone hu'
  obtain ⟨u₁, u₂, u₃, catchUp, h₁, h₂, h₃, h₄, hcatchUp, hstatus, hbatch⟩ := hread.reads
  obtain rfl := Prog.eq_of_alone h₁
  obtain rfl := Prog.eq_of_alone h₂
  obtain rfl := Prog.eq_of_alone h₃
  have hstanding := standing_of_catchUpOf hs rfl hcatchUp
  have hfield : (toSubscribeResponse result).batch = _ := resultBatch_eq hbatch
  by_cases hold : replayTooOld (committedOf subscriberID b s.now)
      (headIn s.now b.streamID).retainedSeqStart = true
  · have hlong : catchUp.status ≠ .ok := by
      rw [hstanding.status.trans (if_pos hold)]
      decide
    have hstay : reach subscriberID req s.now b = committedOf subscriberID b s.now := if_pos hold
    rw [if_neg hlong] at hfield
    refine ⟨hanswered, ?_, fun hlt => absurd hlt (hstay ▸ lt_irrefl _)⟩
    rw [hstay, Nat.sub_self]
    unfold events
    rw [hfield]
    rfl
  · have hok : catchUp.status = .ok := hstanding.status.trans (if_neg hold)
    obtain ⟨hnumbered, hlength, -⟩ := hstanding.batch hok
    have hfinal := final_of_catchUpOf hs hcatchUp hok
    have hmoves : reach subscriberID req s.now b = max (committedOf subscriberID b s.now)
        (min (committedOf subscriberID b s.now + normalizeLimit req.batchLimitPerTarget)
          (headIn s.now b.streamID).cursor.seq) := if_neg hold
    rw [if_pos hok] at hfield
    refine ⟨hanswered, ?_, fun _ => ?_⟩
    · have hseqs : (events (toSubscribeResponse result)).map GatewayEvent.seq =
          catchUp.batch.events.map Event.seq := by
        unfold events
        rw [hfield]
        exact List.map_map
      have hcount : catchUp.batch.events.length =
          reach subscriberID req s.now b - committedOf subscriberID b s.now := by
        rw [hlength, hmoves]
        unfold committedOf
        simp only
        omega
      rw [hseqs, Consecutive.iff_map_eq_range'.mp hnumbered, hcount]
      rfl
    · unfold batchFinal Unfinished Behind
      rw [hfield]
      show catchUp.batch.final = false ↔ _
      rw [hfinal, decide_eq_false_iff_not, Nat.not_le]
      exact (and_iff_right (by simpa using hold)).symm

/-- A poll that succeeds serves every binding. -/
theorem Loop.poll_served (hσ : Reachable σ.store.now)
    (hsub : resolveSubscriber hooks actor req.subscriberId = .ok subscriberID)
    {responses : List GatewaySubscribeResponse} (h : σ.poll hooks actor req = .ok responses) :
    List.Forall₂ (Served subscriberID req σ.store.now) (boundIn hooks actor σ.sub.snapshot)
      responses := by
  obtain ⟨subscriberID', hsub', hall⟩ := Loop.poll_polled h
  obtain rfl := Except.ok.inj (hsub.symm.trans hsub')
  refine hall.imp ?_
  rintro p resp ⟨result, rfl, hpolled⟩
  exact served_of_polled hσ hpolled

/-! ## What the loop does with the responses -/

/-- The seqs sent under a key since its entries were dropped last, in the order in which they were
sent. -/
def seqsUnder (key : String) (log : List LoopEvent) : List Nat :=
  (framesSince (fun _ => 0) key log).reverse.flatMap Sent.seqs

namespace Loop

/-- What the treatment of a response sends. -/
theorem seqsUnder_respond (σ : Loop) (req : GatewaySubscribeRequest) (now : Int)
    (resp : GatewaySubscribeResponse) (rest : List GatewaySubscribeResponse)
    (sent hasMore throttled : Bool) (key : String) :
    seqsUnder key (σ.respond req now resp rest sent hasMore throttled).log =
      if responseKey resp = key ∧
          ((σ.judge req resp).1 = .announced ∨ (σ.judge req resp).1 = .delivered) then
        seqsUnder key σ.log ++ (events resp).map GatewayEvent.seq
      else seqsUnder key σ.log := by
  unfold seqsUnder
  rw [(σ.respond_marks req now resp rest sent hasMore throttled).2]
  by_cases hkey : responseKey resp = key
  · rw [if_pos hkey]
    unfold record
    rcases (σ.judge req resp).1 with _ | _ | _ | _
    all_goals simp [hkey, frameOf]
  · rw [if_neg hkey, if_neg fun h => hkey h.1]

/-- Where the loop stands then. -/
theorem respond_pc (σ : Loop) (req : GatewaySubscribeRequest) (now : Int)
    (resp : GatewaySubscribeResponse) (rest : List GatewaySubscribeResponse)
    (sent hasMore throttled : Bool) (h : (σ.judge req resp).1 ≠ .throttled) :
    ∃ sent', (σ.respond req now resp rest sent hasMore throttled).pc =
      .responding rest sent' (hasMore || ((σ.judge req resp).1 == .delivered && !batchFinal resp))
        throttled := by
  unfold respond
  rcases hjudge : σ.judge req resp with ⟨outcome, m⟩
  rw [hjudge] at h
  cases outcome with
  | throttled => exact absurd rfl h
  | silent => exact ⟨sent, by simp⟩
  | announced | delivered => exact ⟨true, by simp⟩

/-- The end of the body sends nothing under a key. -/
theorem seqsUnder_finish (σ : Loop) (heartbeatEvery now : Int) (sent hasMore throttled : Bool)
    (key : String) :
    seqsUnder key (σ.finish heartbeatEvery now sent hasMore throttled).log =
      seqsUnder key σ.log := by
  unfold seqsUnder
  rw [framesSince_finish]

/-- No binding of these has anything in flight. -/
def Settled (σ : Loop) (subscriberID : SubscriberID) (s : Store)
    (ps : List (SyncTarget × StreamBinding)) : Prop :=
  ∀ p ∈ ps, (σ.mark (keyOf p.1 p.2)).delivered ≤ committedOf subscriberID p.2 s

/-- From `σ` to `ρ` each of these bindings has got its next batch. -/
structure Serves (σ : Loop) (subscriberID : SubscriberID) (req : GatewaySubscribeRequest)
    (s : Store) (ps : List (SyncTarget × StreamBinding)) (ρ : Loop) : Prop where
  store : ρ.store = σ.store
  sub : ρ.sub = σ.sub
  delivered : ∀ p ∈ ps, (ρ.mark (keyOf p.1 p.2)).delivered = reach subscriberID req s p.2
  sent : ∀ p ∈ ps, seqsUnder (keyOf p.1 p.2) ρ.log = seqsUnder (keyOf p.1 p.2) σ.log ++
    List.range' (committedOf subscriberID p.2 s + 1)
      (reach subscriberID req s p.2 - committedOf subscriberID p.2 s)

/-- Nothing was done under any other key. -/
structure ServesOnly (σ : Loop) (subscriberID : SubscriberID) (req : GatewaySubscribeRequest)
    (s : Store) (ps : List (SyncTarget × StreamBinding)) (ρ : Loop) : Prop extends
    σ.Serves subscriberID req s ps ρ where
  others : ∀ key ∉ ps.map (fun p => keyOf p.1 p.2),
    ρ.mark key = σ.mark key ∧ seqsUnder key ρ.log = seqsUnder key σ.log

/-- When the key of `p` is none of theirs, their keys are not that of `p`. -/
theorem key_not_mem_of_fresh {p q : SyncTarget × StreamBinding}
    {ps : List (SyncTarget × StreamBinding)}
    (hfresh : keyOf p.1 p.2 ∉ ps.map fun p => keyOf p.1 p.2) (hq : q ∈ ps) :
    keyOf q.1 q.2 ∉ [p].map fun p => keyOf p.1 p.2 := by
  rw [List.map_singleton, List.mem_singleton]
  exact fun heq => hfresh (List.mem_map.mpr ⟨q, hq, heq⟩)

/-- One binding is served after the other. -/
theorem ServesOnly.cons {s : Store} {p : SyncTarget × StreamBinding}
    {ps : List (SyncTarget × StreamBinding)} {ρ τ : Loop}
    (hp : σ.ServesOnly subscriberID req s [p] ρ) (hps : ρ.ServesOnly subscriberID req s ps τ)
    (hfresh : keyOf p.1 p.2 ∉ ps.map fun p => keyOf p.1 p.2) :
    σ.ServesOnly subscriberID req s (p :: ps) τ := by
  obtain ⟨hmark, hlog⟩ := hps.others _ hfresh
  constructor
  · constructor
    case store => exact hps.store.trans hp.store
    case sub => exact hps.sub.trans hp.sub
    case delivered =>
      refine List.forall_mem_cons.mpr ⟨?_, hps.delivered⟩
      rw [hmark]
      exact hp.delivered p List.mem_cons_self
    case sent =>
      refine List.forall_mem_cons.mpr ⟨?_, fun q hq => ?_⟩
      · rw [hlog]
        exact hp.sent p List.mem_cons_self
      · rw [hps.sent q hq, (hp.others _ (key_not_mem_of_fresh hfresh hq)).2]
  · intro key hkey
    rw [List.map_cons, List.mem_cons, not_or] at hkey
    obtain ⟨hmark', hlog'⟩ := hp.others key (by simpa using hkey.1)
    obtain ⟨hmark'', hlog''⟩ := hps.others key hkey.2
    exact ⟨hmark''.trans hmark', hlog''.trans hlog'⟩

variable (req) in
/-- The treatment of one response when nothing of its binding is in flight: the binding gets its
next batch, and nothing else is done but to note whether that was the last one. -/
theorem respond_settled (now : Int) {s : Store} {p : SyncTarget × StreamBinding}
    {resp : GatewaySubscribeResponse} (h : Served subscriberID req s p resp)
    (hsettled : (σ.mark (keyOf p.1 p.2)).delivered ≤ committedOf subscriberID p.2 s)
    (rest : List GatewaySubscribeResponse) (sent hasMore : Bool) :
    σ.ServesOnly subscriberID req s [p] (σ.respond req now resp rest sent hasMore false) ∧
      ∃ sent' hasMore', (σ.respond req now resp rest sent hasMore false).pc =
          .responding rest sent' hasMore' false ∧
        (hasMore' = true ↔ hasMore = true ∨ Unfinished subscriberID req s p.2) := by
  have hlimit := normalizeLimit_pos req.batchLimitPerTarget
  obtain ⟨hreach, hheld, hdelivered⟩ := follow_of_settled hlimit hsettled
    req.maxInFlightPerTarget (headIn s p.2.streamID)
  rw [← judge_of_answered h.answered σ] at hreach hheld hdelivered
  obtain ⟨sent', hpc⟩ := σ.respond_pc req now resp rest sent hasMore false hheld
  obtain ⟨hstore, hsub, -, hmarks, -⟩ := σ.respond_frame req now resp rest sent hasMore false
  have hsends := σ.seqsUnder_respond req now resp rest sent hasMore false
  rw [h.answered.key] at hmarks hsends
  refine ⟨⟨⟨hstore, hsub, ?_, ?_⟩, ?_⟩, sent', _, hpc, ?_⟩
  · refine List.forall_mem_singleton.mpr ?_
    rw [hmarks, Function.update_self, hreach]
    rfl
  · refine List.forall_mem_singleton.mpr ?_
    rw [hsends, h.seqs]
    split_ifs with hsent
    · rfl
    · -- what is not sent has no events
      have hnone : ¬ committedOf subscriberID p.2 s < reach subscriberID req s p.2 :=
        fun hlt => hsent ⟨rfl, .inr (hdelivered.mpr hlt)⟩
      rw [Nat.sub_eq_zero_of_le (Nat.not_lt.mp hnone), List.range'_zero, List.append_nil]
  · intro key hkey
    rw [List.map_singleton, List.mem_singleton] at hkey
    rw [hmarks, Function.update_of_ne hkey, hsends, if_neg fun h => hkey h.1.symm]
    exact ⟨rfl, rfl⟩
  · rw [Bool.or_eq_true, Bool.and_eq_true, beq_iff_eq, Bool.not_eq_true', hdelivered]
    refine or_congr_right ⟨?_, fun hunfinished => ?_⟩
    · rintro ⟨hlt, hfinal⟩
      exact (h.final hlt).mp hfinal
    · have hlt := lt_advance_of_behind hlimit hunfinished
      exact ⟨hlt, (h.final hlt).mpr hunfinished⟩

variable (req) in
/-- The treatment of the responses when nothing is in flight: each binding gets its next batch, and
the loop goes on at once when one of them was not the last one. -/
theorem treat_settled (heartbeatEvery now : Int) {s : Store}
    {ps : List (SyncTarget × StreamBinding)} {responses : List GatewaySubscribeResponse}
    (h : List.Forall₂ (Served subscriberID req s) ps responses)
    (hkeys : (ps.map fun p => keyOf p.1 p.2).Nodup) (hsettled : σ.Settled subscriberID s ps)
    (sent hasMore : Bool) :
    σ.ServesOnly subscriberID req s ps
        (σ.treat req heartbeatEvery now responses sent hasMore false) ∧
      (σ.treat req heartbeatEvery now responses sent hasMore false).pc =
        if hasMore = true ∨ ∃ p ∈ ps, Unfinished subscriberID req s p.2 then .top
        else .watching := by
  -- by induction on the bindings: each response writes under its own key only
  induction h generalizing σ sent hasMore with
  | nil =>
      obtain ⟨hstore, hsub, hmarks⟩ := σ.finish_frame heartbeatEvery now sent hasMore false
      refine ⟨⟨⟨hstore, hsub, by simp, by simp⟩, fun key _ => ⟨?_, ?_⟩⟩, ?_⟩
      · exact congrArg (fun marks => (marks.lookup key).getD {}) hmarks
      · exact seqsUnder_finish _ _ _ _ _ _ _
      · unfold treat finish
        simp
  | @cons p resp ps rest hresp _ ih =>
      obtain ⟨hfresh, hkeys⟩ := List.nodup_cons.mp hkeys
      obtain ⟨hserves, sent', hasMore', hpc, hmore⟩ :=
        respond_settled req now hresp (hsettled p List.mem_cons_self) rest sent hasMore
      obtain ⟨hrest, htop⟩ := ih hkeys (fun q hq => by
          rw [(hserves.others _ (key_not_mem_of_fresh hfresh hq)).1]
          exact hsettled q (List.mem_cons_of_mem _ hq)) sent' hasMore'
      rw [treat_cons hpc]
      refine ⟨hserves.cons hrest hfresh, ?_⟩
      rw [htop]
      simp only [hmore, List.exists_mem_cons_iff, or_assoc]

/-- Pruning takes no frames of the bindings that are polled. -/
theorem seqsUnder_prune_of_mem {targets : List SyncTarget} {p : SyncTarget × StreamBinding}
    (hp : p ∈ boundIn hooks actor targets) (σ : Loop) :
    seqsUnder (keyOf p.1 p.2) (σ.pruneDeliveryState targets).log =
      seqsUnder (keyOf p.1 p.2) σ.log := by
  have hbound : Bound hooks actor {t | t ∈ targets} p.1 p.2 := bound_iff.mpr hp
  unfold seqsUnder pruneDeliveryState
  rw [framesSince_dropped, if_neg]
  rw [List.mem_filter, keeps_keyOf hbound.1 p.2]
  simp

/-! ## From one turn to the next -/

variable (hooks actor subscriberID req) in
/-- What holds of a stream between two turns: every poll succeeds, the keys of the bindings are
distinct, and nothing is in flight. -/
structure Ready (σ : Loop) : Prop where
  reachable : Reachable σ.store.now
  resolves : resolveSubscriber hooks actor req.subscriberId = .ok subscriberID
  targets : σ.sub.snapshot ≠ []
  keys : ((boundIn hooks actor σ.sub.snapshot).map fun p => keyOf p.1 p.2).Nodup
  welcome : ∀ t ∈ σ.sub.snapshot, Welcome hooks actor subscriberID σ.store.now t
  settled : σ.Settled subscriberID σ.store.now (boundIn hooks actor σ.sub.snapshot)

/-- The body of an iteration serves every binding. -/
theorem Ready.body (h : σ.Ready hooks actor subscriberID req) (w : Pacing) (now : Int) :
    σ.Serves subscriberID req σ.store.now (boundIn hooks actor σ.sub.snapshot)
        (σ.body hooks actor req w now) ∧
      (σ.body hooks actor req w now).pc =
        if ∃ p ∈ boundIn hooks actor σ.sub.snapshot,
          Unfinished subscriberID req σ.store.now p.2 then .top else .watching := by
  obtain ⟨responses, hpoll⟩ := poll_of_welcome h.reachable h.resolves h.targets h.welcome
  have hserved := poll_served h.reachable h.resolves hpoll
  have hmark : ∀ p ∈ boundIn hooks actor σ.sub.snapshot,
      (σ.pruneDeliveryState σ.sub.snapshot).mark (keyOf p.1 p.2) = σ.mark (keyOf p.1 p.2) :=
    fun p hp => mark_prune_of_mem hp σ
  have hsettled : (σ.pruneDeliveryState σ.sub.snapshot).Settled subscriberID σ.store.now
      (boundIn hooks actor σ.sub.snapshot) := by
    intro p hp
    rw [hmark p hp]
    exact h.settled p hp
  obtain ⟨hserves, hpc⟩ := treat_settled req w.heartbeatEvery now
    (σ := { σ.pruneDeliveryState σ.sub.snapshot with
      pc := .responding responses false false false }) hserved h.keys hsettled false false
  rw [body_of_polls h.targets, hpoll]
  refine ⟨⟨hserves.store, hserves.sub, hserves.delivered, fun p hp => ?_⟩, ?_⟩
  · rw [← seqsUnder_prune_of_mem hp σ]
    exact hserves.sent p hp
  · exact hpc.trans (if_congr (or_iff_right (by decide)) rfl rfl)

/-- No acknowledgement changes a log. -/
theorem ensureStream_runAcks (acks : List AckRequest) (s : Store) (streamID : StreamID) :
    (runAcks acks s).ensureStream streamID = s.ensureStream streamID := by
  induction acks using List.reverseRecOn with
  | nil => rfl
  | append_singleton acks ack ih => rw [runAcks_concat, Store.ensureStream_ack, ih]

/-- Where all acknowledgements for a stream reach as far, so does the cursor. -/
theorem committed_runAcks {s : Store} (hs : Reachable s) {streamID : StreamID}
    (hsub : subscriberID ≠ "") (hid : streamID ≠ "") {acks : List AckRequest} {seq : Nat}
    (hle : s.committed subscriberID streamID ≤ seq)
    (hall : ∀ ack ∈ acksFor subscriberID streamID acks, ack.seq = seq)
    (hsome : ∃ ack ∈ acksFor subscriberID streamID acks, ack.seq = seq) :
    (runAcks acks s).committed subscriberID streamID = seq := by
  obtain ⟨hmem, hupper⟩ := (runAcks_joins hs hsub hid acks).greatest
  refine Nat.le_antisymm ?_ (hupper (.inr hsome))
  rcases hmem with heq | ⟨ack, hack, heq⟩
  · exact heq.trans_le hle
  · exact (heq.symm.trans (hall ack hack)).le

/-- The cursors when the subscriber has acknowledged what the body has delivered. -/
theorem Ready.committed (h : σ.Ready hooks actor subscriberID req) {ρ : Loop}
    (hρ : σ.Serves subscriberID req σ.store.now (boundIn hooks actor σ.sub.snapshot) ρ)
    {p : SyncTarget × StreamBinding} (hp : p ∈ boundIn hooks actor σ.sub.snapshot) :
    committedOf subscriberID p.2
        (ρ.acked (ρ.owed subscriberID (boundIn hooks actor σ.sub.snapshot))).store.now =
      reach subscriberID req σ.store.now p.2 := by
  obtain ⟨-, bindings, hresolve, hb⟩ := bound_iff.mpr hp
  rw [acked_now, hρ.store]
  refine committed_runAcks h.reachable (resolveSubscriber_ne h.resolves)
    ((resolveBindings_ok hresolve).1 _ hb).1 le_advance ?_ ⟨_, List.mem_filter.mpr
      ⟨List.mem_map_of_mem hp, by simp⟩, hρ.delivered p hp⟩
  -- bindings of one stream have the same cursor and the same head
  intro ack hack
  obtain ⟨hmem, hfor⟩ := List.mem_filter.mp hack
  obtain ⟨q, hq, rfl⟩ := List.mem_map.mp hmem
  have hstream : q.2.streamID = p.2.streamID := by simpa using hfor
  refine (hρ.delivered q hq).trans ?_
  unfold reach committedOf
  rw [hstream]

variable (hooks actor subscriberID req) in
/-- What `n` turns have brought: every binding has got, and the subscriber has acknowledged, as much
as `n` batches can hold, and the loop waits only when that is all there is. -/
structure Drained (σ : Loop) (n : Nat) (τ : Loop) : Prop where
  ready : τ.Ready hooks actor subscriberID req
  sub : τ.sub = σ.sub
  heads : ∀ streamID, headIn τ.store.now streamID = headIn σ.store.now streamID
  committed : ∀ p ∈ boundIn hooks actor σ.sub.snapshot,
    committedOf subscriberID p.2 τ.store.now =
      advance (headIn σ.store.now p.2.streamID) (n * normalizeLimit req.batchLimitPerTarget)
        (committedOf subscriberID p.2 σ.store.now)
  sent : ∀ p ∈ boundIn hooks actor σ.sub.snapshot,
    seqsUnder (keyOf p.1 p.2) τ.log = seqsUnder (keyOf p.1 p.2) σ.log ++
      List.range' (committedOf subscriberID p.2 σ.store.now + 1)
        (committedOf subscriberID p.2 τ.store.now - committedOf subscriberID p.2 σ.store.now)
  pc : n ≠ 0 → τ.pc =
    if ∃ p ∈ boundIn hooks actor σ.sub.snapshot, Behind (headIn σ.store.now p.2.streamID)
        (n * normalizeLimit req.batchLimitPerTarget) (committedOf subscriberID p.2 σ.store.now)
      then .top else .watching

/-- No turn at all. -/
theorem Ready.drained (h : σ.Ready hooks actor subscriberID req) :
    σ.Drained hooks actor subscriberID req 0 σ where
  ready := h
  sub := rfl
  heads _ := rfl
  committed p hp := by rw [Nat.zero_mul, advance_zero]
  sent p hp := by simp
  pc hn := absurd rfl hn

/-- A turn serves every binding, and leaves the stream ready for the next one. -/
theorem Ready.turn (h : σ.Ready hooks actor subscriberID req) (w : Pacing) (now : Int) :
    σ.Drained hooks actor subscriberID req 1 (σ.turn hooks actor req w subscriberID now) := by
  obtain ⟨hserves, hpc⟩ := h.body w now
  have hcommitted : ∀ p ∈ boundIn hooks actor σ.sub.snapshot,
      committedOf subscriberID p.2 (σ.turn hooks actor req w subscriberID now).store.now =
        reach subscriberID req σ.store.now p.2 := fun p hp => h.committed hserves hp
  have hnow : (σ.turn hooks actor req w subscriberID now).store.now = runAcks
      ((σ.body hooks actor req w now).owed subscriberID (boundIn hooks actor σ.sub.snapshot))
      σ.store.now := by
    refine (acked_now _ _).trans ?_
    rw [hserves.store]
  have hstream : ∀ streamID,
      (σ.turn hooks actor req w subscriberID now).store.now.ensureStream streamID =
        σ.store.now.ensureStream streamID := by
    intro streamID
    rw [hnow, ensureStream_runAcks]
  have hsub : (σ.turn hooks actor req w subscriberID now).sub = σ.sub := hserves.sub
  constructor
  case ready =>
    constructor
    case reachable =>
      rw [hnow]
      exact h.reachable.runAcks _
    case resolves => exact h.resolves
    case targets => exact hsub ▸ h.targets
    case keys => exact hsub ▸ h.keys
    case welcome =>
      rw [hsub]
      intro t ht
      obtain ⟨⟨bindings, hresolve, hevents⟩, hauth⟩ := h.welcome t ht
      refine ⟨⟨bindings, hresolve, fun b hb => ?_⟩, hauth⟩
      rw [hstream]
      exact hevents b hb
    case settled =>
      rw [hsub]
      intro p hp
      rw [hcommitted p hp]
      exact (hserves.delivered p hp).le
  case sub => exact hsub
  case heads =>
    intro streamID
    unfold headIn
    rw [hstream]
  case committed =>
    intro p hp
    rw [hcommitted p hp, Nat.one_mul]
    rfl
  case sent =>
    intro p hp
    rw [hcommitted p hp]
    exact hserves.sent p hp
  case pc =>
    intro _
    rw [Nat.one_mul]
    exact hpc

/-- Another turn. -/
theorem Drained.turn {n : Nat} {τ : Loop} (h : σ.Drained hooks actor subscriberID req n τ)
    (w : Pacing) (now : Int) :
    σ.Drained hooks actor subscriberID req (n + 1)
      (τ.turn hooks actor req w subscriberID now) := by
  have hturn := h.ready.turn w now
  have hbound : boundIn hooks actor τ.sub.snapshot = boundIn hooks actor σ.sub.snapshot := by
    rw [h.sub]
  have hcommitted := hturn.committed
  have hsent := hturn.sent
  have hpc := hturn.pc one_ne_zero
  rw [hbound] at hcommitted hsent hpc
  simp only [h.heads, Nat.one_mul] at hcommitted hpc
  constructor
  case ready => exact hturn.ready
  case sub => exact hturn.sub.trans h.sub
  case heads => exact fun streamID => (hturn.heads streamID).trans (h.heads streamID)
  case committed =>
    intro p hp
    rw [hcommitted p hp, h.committed p hp, advance_advance]
  case sent =>
    intro p hp
    have hle : committedOf subscriberID p.2 σ.store.now ≤
        committedOf subscriberID p.2 τ.store.now :=
      h.committed p hp ▸ le_advance
    have hle' : committedOf subscriberID p.2 τ.store.now ≤
        committedOf subscriberID p.2 (τ.turn hooks actor req w subscriberID now).store.now :=
      hcommitted p hp ▸ le_advance
    have hnext : committedOf subscriberID p.2 τ.store.now + 1 =
        committedOf subscriberID p.2 σ.store.now + 1 +
          (committedOf subscriberID p.2 τ.store.now - committedOf subscriberID p.2 σ.store.now) :=
      by omega
    rw [hsent p hp, h.sent p hp, List.append_assoc, hnext, List.range'_append_1]
    congr 2
    omega
  case pc =>
    intro _
    rw [hpc]
    refine if_congr (exists_congr fun p => and_congr_right fun hp => ?_) rfl rfl
    rw [h.committed p hp, behind_advance]

end Loop

/-- **A live stream drains.** A `GatewaySubscribe` stream at the top of its loop, with nothing in
flight and polls that succeed, over a store to which nothing happens but what its subscriber
acknowledges. In every turn each binding gets its next batch and no more, whatever the other
bindings have to catch up and also where replay cannot serve them; and as long as some binding has
not everything, the loop takes the next turn without a wait. -/
theorem stream_drains {U : Set SyncTarget} (h : σ.Ready hooks actor subscriberID req)
    (hpc : σ.pc = .top) (nows : List Int)
    (hmore : nows.length ≤ 1 ∨ ∃ p ∈ boundIn hooks actor σ.sub.snapshot,
      Behind (headIn σ.store.now p.2.streamID)
        ((nows.length - 1) * normalizeLimit req.batchLimitPerTarget)
        (committedOf subscriberID p.2 σ.store.now)) :
    (∃ ls, (∀ l ∈ ls, LoopLabel.Prompt subscriberID l) ∧
        (gatewayLoop hooks actor req U w.heartbeatEvery).run ls σ =
          some (σ.turns hooks actor req w subscriberID nows)) ∧
      σ.Drained hooks actor subscriberID req nows.length
        (σ.turns hooks actor req w subscriberID nows) := by
  -- by induction on the last turn: before it the loop is at its top, because it is not the only one
  -- and something is left
  induction nows using List.reverseRecOn with
  | nil => exact ⟨⟨[], by simp, rfl⟩, h.drained⟩
  | append_singleton nows now ih =>
      rw [List.length_append, List.length_singleton] at hmore ⊢
      rw [Nat.add_sub_cancel] at hmore
      obtain ⟨⟨ls, hls, hrun⟩, hdrained⟩ := ih <| hmore.imp (by omega) <| by
        rintro ⟨p, hp, hbehind⟩
        exact ⟨p, hp, hbehind.anti (Nat.mul_le_mul_right _ (Nat.sub_le _ _))⟩
      have htop : (σ.turns hooks actor req w subscriberID nows).pc = .top := by
        rcases Nat.eq_zero_or_pos nows.length with hzero | hpos
        · rw [List.length_eq_zero_iff.mp hzero]
          exact hpc
        · rw [hdrained.pc hpos.ne', if_pos (hmore.resolve_left (by omega))]
      obtain ⟨responses, hpoll⟩ := Loop.poll_of_welcome hdrained.ready.reachable
        hdrained.ready.resolves hdrained.ready.targets hdrained.ready.welcome
      obtain ⟨ls', hls', hrun'⟩ := run_turn subscriberID w U htop hdrained.ready.targets hpoll now
      have hturns : σ.turns hooks actor req w subscriberID (nows ++ [now]) =
          (σ.turns hooks actor req w subscriberID nows).turn hooks actor req w subscriberID now :=
        List.foldl_append
      rw [hturns]
      refine ⟨⟨ls ++ ls', ?_, ?_⟩, hdrained.turn w now⟩
      · exact fun l hl => (List.mem_append.mp hl).elim (hls l) (hls' l)
      · rw [Machine.run_append, hrun]
        exact hrun'

end Drain

/-- A stream over two targets in batches of one event. -/
def slowReq : GatewaySubscribeRequest where
  subscriberId := "device"
  targets := [{ ns := "n", id := "a" }, { ns := "n", id := "b" }]
  batchLimitPerTarget := 1

/-- One event of `a` and two of `b`. -/
def threeEvents : Store :=
  runOps [.append 0 { streamID := "a" }, .append 0 { streamID := "b" },
    .append 0 { streamID := "b" }] newStore

/-- The two streams are ready to be drained. -/
theorem slowReq_ready :
    (Loop.start threeEvents slowReq 0).Ready perActorHooks "alice" "alice/device" slowReq where
  reachable := ⟨_, rfl⟩
  resolves := rfl
  targets := by decide
  keys := by decide
  welcome := by
    refine List.forall_mem_cons.mpr ⟨?_, List.forall_mem_cons.mpr ⟨?_, by simp⟩⟩
    all_goals exact
      ⟨⟨_, rfl, List.forall_mem_cons.mpr ⟨fun _ _ => ⟨.inl rfl, rfl, rfl, rfl⟩, by simp⟩⟩, rfl⟩
  settled p _ := Nat.zero_le _

/-- One stream has one event, the other one two, and two turns bring them all. -/
theorem stream_drains_both :
    ∃ ls τ, (∀ l ∈ ls, LoopLabel.Prompt "alice/device" l) ∧
      (gatewayLoop perActorHooks "alice" slowReq ∅ 1000000).run ls (.start threeEvents slowReq 0) =
        some τ ∧ τ.pc = .watching ∧
      seqsUnder "n/a/#default" τ.log = [1] ∧ seqsUnder "n/b/#default" τ.log = [1, 2] := by
  obtain ⟨⟨ls, hls, hrun⟩, hdrained⟩ := stream_drains (w := { heartbeatEvery := 1000000 }) (U := ∅)
    slowReq_ready rfl [0, 0] (.inr ⟨_, List.mem_cons_self, by decide, by decide⟩)
  have hb := hdrained.sent _ List.mem_cons_self
  rw [hdrained.committed _ List.mem_cons_self] at hb
  have ha := hdrained.sent _ (List.mem_cons_of_mem _ List.mem_cons_self)
  rw [hdrained.committed _ (List.mem_cons_of_mem _ List.mem_cons_self)] at ha
  refine ⟨ls, _, hls, hrun, ?_, ha, hb⟩
  rw [hdrained.pc (by decide)]
  exact if_neg (by decide)

end Synclog.Transport
