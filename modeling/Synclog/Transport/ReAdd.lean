import Synclog.Transport.Guarantees

/-!
# A target that is removed and added again

The loop of `Server.GatewaySubscribe` sees its target set once in each iteration, when it begins:
there it drops the marks of the targets that are no longer active, so that a target that is added
again is resumed from the committed cursor. A removal and an addition may both come between two such
moments.

* `Presence`, `Followed`, `followed` — the loop, with a record of what becomes of one target. A
  target is known to the loop by its encoded key.
* `ResumesAtCursor` — in the first iteration after the target came back its answers are treated as
  if nothing had been recorded for it.
* `Settled` — when that iteration begins, the one before it did not poll the target, or nothing
  delivered for it is still ahead of the committed cursor.
* `readded_resumes_at_cursor` — a run whose iterations begin settled stays within
  `ResumesAtCursor`.
-/

namespace Synclog.Transport

open Synclog.Lib Synclog.Core Synclog.Memory Synclog.Gateway
open Relation (ReflTransGen)

/-! ## The loop and one of its targets -/

/-- Where a target stands: no removal is to be accounted for, it was removed, or it was added again
and no iteration has begun since. -/
inductive Presence
  | steady
  | gone
  | back
  deriving DecidableEq, Repr

/-- The target set is modified. Of a removal and an addition in one call the addition comes last. -/
def Presence.modify (p : Presence) (key : String) (add remove : List SyncTarget) : Presence :=
  let p := if ∃ t ∈ remove, targetKey t = key then .gone else p
  if p = .gone ∧ ∃ t ∈ add, targetKey t = key then .back else p

/-- An iteration begins. -/
def Presence.begin (p : Presence) : Presence := if p = .back then .steady else p

/-- The loop with what has become of one target, the targets of the iteration in progress and the
store with which it began, and whether it is the first since the target came back. -/
structure Followed where
  loop : Loop
  presence : Presence := .steady
  polled : List SyncTarget := []
  begun : Store
  first : Bool := false

/-- What a step adds to the record. -/
def Followed.note (key : String) (l : LoopLabel Set.univ) (f : Followed) : Followed :=
  match l, f.loop.pc with
  | .modify add remove _, _ => { f with presence := f.presence.modify key add remove }
  | .loop _, .top =>
    { f with
      presence := f.presence.begin
      polled := f.loop.sub.snapshot
      begun := f.loop.store.now
      first := f.presence = .back }
  | _, _ => f

/-- The state in which a stream begins. -/
def Followed.start (s : Store) (req : GatewaySubscribeRequest) (now : Int) : Followed where
  loop := .start s req now
  begun := s

section Machine

variable {Actor : Type} (hooks : Hooks Actor) (actor : Actor) (req : GatewaySubscribeRequest)
  (heartbeatEvery : Int) (key : String)

/-- The gateway loop, with the record of the target with this key. -/
def followed : Machine Followed (LoopLabel Set.univ) where
  step l f :=
    ((gatewayLoop hooks actor req Set.univ heartbeatEvery).step l f.loop).map fun loop =>
      { f.note key l with loop }

/-- The record does not interfere: every run of the loop is one of the followed loop. -/
theorem run_followed (ls : List (LoopLabel Set.univ)) (f : Followed) :
    ((followed hooks actor req heartbeatEvery key).run ls f).map Followed.loop =
      (gatewayLoop hooks actor req Set.univ heartbeatEvery).run ls f.loop := by
  induction ls generalizing f with
  | nil => rfl
  | cons l ls ih =>
      rw [Machine.run_cons, Machine.run_cons]
      show (Option.bind (Option.map _ _) _).map _ = _
      cases (gatewayLoop hooks actor req Set.univ heartbeatEvery).step l f.loop with
      | none => rfl
      | some loop => exact ih { f.note key l with loop }

end Machine

/-! ## What is promised, and when -/

section Promise

variable {Actor : Type} (hooks : Hooks Actor) (actor : Actor) (subscriberID : SubscriberID)
  (req : GatewaySubscribeRequest) (key : String)

/-- In the first iteration after the target came back it is polled, and each of its answers is
treated as if nothing had been recorded: `TOO_LONG` is announced, and a batch is delivered that lies
right behind a value the committed cursor has had since the iteration began. -/
def ResumesAtCursor (f : Followed) : Prop :=
  f.first = true → (∃ t ∈ f.polled, targetKey t = key) ∧
    ∀ resp rest sent hasMore throttled,
      f.loop.pc = .responding (resp :: rest) sent hasMore throttled →
      ∀ state, resp.state = some state → targetKey state.target = key →
        f.loop.judge req resp = ({ f.loop with marks := ∅ } : Loop).judge req resp ∧
        (resp.status = .tooLong → (f.loop.judge req resp).1 = .announced) ∧
        (events resp ≠ [] → (f.loop.judge req resp).1 = .delivered ∧
          ∃ b, Bound hooks actor Set.univ state.target b ∧ resp.bindingKey = b.bindingKey ∧
            ∃ c, committedOf subscriberID b f.begun ≤ c ∧
              c ≤ committedOf subscriberID b f.loop.store.now ∧
              Consecutive GatewayEvent.seq (c + 1) (events resp))

/-- When the first iteration after the target came back begins, then for each of its bindings: no
other active target is delivered under the same key, and the iteration before did not poll it, or
nothing delivered under the key is ahead of the committed cursor. -/
def Settled (l : LoopLabel Set.univ) (f : Followed) : Prop :=
  match l with
  | .loop _ => f.loop.pc = .top → f.presence = .back →
      ∀ t b, Bound hooks actor {t | t ∈ f.loop.sub.snapshot} t b → targetKey t = key →
        (∀ t' b', Bound hooks actor {t | t ∈ f.loop.sub.snapshot} t' b' →
          keyOf t b = keyOf t' b' → t = t') ∧
        (Loop.keeps f.polled (keyOf t b) = false ∨
          (f.loop.mark (keyOf t b)).delivered ≤ committedOf subscriberID b f.loop.store.now)
  | _ => True

instance decidableTop : (pc : LoopPc) → Decidable (pc = .top)
  | .top => isTrue rfl
  | .polling _ | .responding .. | .sleeping | .watching | .ended => isFalse nofun

instance decidableSettled : (l : LoopLabel Set.univ) → (f : Followed) →
    Decidable (Settled hooks actor subscriberID key l f)
  | .loop _, f =>
    decidable_of_iff (f.loop.pc = .top → f.presence = .back →
      ∀ p ∈ boundIn hooks actor f.loop.sub.snapshot, targetKey p.1 = key →
        (∀ p' ∈ boundIn hooks actor f.loop.sub.snapshot,
          keyOf p.1 p.2 = keyOf p'.1 p'.2 → p.1 = p'.1) ∧
        (Loop.keeps f.polled (keyOf p.1 p.2) = false ∨
          (f.loop.mark (keyOf p.1 p.2)).delivered ≤
            committedOf subscriberID p.2 f.loop.store.now))
      (by simp only [Settled, bound_iff, Prod.forall])
  | .env .., _ | .modify .., _ | .takeWake, _ | .resume, _ | .fail, _ => isTrue trivial

end Promise

/-! ## The answers of one iteration -/

section Answers

variable {Actor : Type} (hooks : Hooks Actor) (actor : Actor) (subscriberID : SubscriberID)
  (polled : List SyncTarget) (begun : Store)

/-- What is known of a response of the poll of `polled` that began with the store `begun`: the
cursor in it was committed since then, and the events in it lie right behind a value that was
committed no earlier than that cursor. -/
def PollAnswer (store : Traced Store) (resp : GatewaySubscribeResponse) : Prop :=
  ∃ state b, resp.state = some state ∧ Bound hooks actor {t | t ∈ polled} state.target b ∧
    resp.bindingKey = b.bindingKey ∧
    committedOf subscriberID b begun ≤ bindingCursorSeq state resp.bindingKey ∧
    (events resp ≠ [] → resp.status ≠ .tooLong ∧
      ∃ c, bindingCursorSeq state resp.bindingKey ≤ c ∧
        c ≤ committedOf subscriberID b store.now ∧
        Consecutive GatewayEvent.seq (c + 1) (events resp) ∧
        batchSeq resp = c + (events resp).length)

/-- No two responses are for the same binding of the same target. -/
def DistinctAnswers (responses : List GatewaySubscribeResponse) : Prop :=
  responses.Pairwise fun r r' =>
    r.state.map TargetState.target = r'.state.map TargetState.target →
      r.bindingKey ≠ r'.bindingKey

/-- The responses of one iteration that are still to be treated. -/
def Answers (responses : List GatewaySubscribeResponse) (store : Traced Store) : Prop :=
  (∀ resp ∈ responses, PollAnswer hooks actor subscriberID polled begun store resp) ∧
    DistinctAnswers responses

variable {hooks actor subscriberID polled begun}

/-- Right answers stay right while others go on. -/
theorem Answers.later {responses : List GatewaySubscribeResponse} {σ τ : Traced Store}
    (h : Answers hooks actor subscriberID polled begun responses σ) (hσ : Reachable σ.now)
    (hstep : EnvStep σ τ) : Answers hooks actor subscriberID polled begun responses τ := by
  obtain ⟨-, -, hle⟩ := envSteps_later hσ (.single hstep)
  obtain ⟨hall, hdistinct⟩ := h
  refine ⟨?_, hdistinct⟩
  intro resp hresp
  obtain ⟨state, b, hstate, hbound, hkey, hcursor, hevents⟩ := hall resp hresp
  refine ⟨state, b, hstate, hbound, hkey, hcursor, ?_⟩
  intro hne
  obtain ⟨hstatus, c, hc, hc', hrun⟩ := hevents hne
  exact ⟨hstatus, c, hc, hc'.trans (hle subscriberID b.streamID), hrun⟩

/-- The responses behind the first. -/
theorem Answers.tail {resp : GatewaySubscribeResponse} {rest : List GatewaySubscribeResponse}
    {store : Traced Store}
    (h : Answers hooks actor subscriberID polled begun (resp :: rest) store) :
    Answers hooks actor subscriberID polled begun rest store :=
  ⟨fun r hr => h.1 r (List.mem_cons_of_mem _ hr), (List.pairwise_cons.mp h.2).2⟩

/-- A poll of distinct targets that begins. -/
theorem reading_answers (req : GatewaySubscribeRequest)
    (hsub : resolveSubscriber hooks actor req.subscriberId = .ok subscriberID)
    (hnodup : req.targets.Nodup) {store : Traced Store} (h : Reachable store.now) :
    Reading (Answers hooks actor subscriberID req.targets store.now) store
      (gatewaySubscribePoll hooks actor req).run := by
  refine reading_of_polled hsub h ?_
  intro results τ hresults hpolled
  have hdistinct := exec_catchUp_distinct hnodup hresults
  refine ⟨?_, List.pairwise_map.mpr (List.Pairwise.imp_of_mem ?_ hdistinct)⟩
  · intro resp hresp
    obtain ⟨result, hresult, rfl⟩ := List.mem_map.mp hresp
    obtain ⟨target, htarget, b, hpoll⟩ := hpolled result hresult
    obtain ⟨state, u, rfl, hread⟩ := response_of_polled h hpoll
    refine ⟨state, b, hread.withState, bound_of_polled htarget hpoll, hread.binding, hread.since,
      ?_⟩
    intro hne
    obtain ⟨hstatus, -, hcons, hlast⟩ := hread.run hne
    refine ⟨?_, _, hread.cursor, hread.committed, hcons, hlast⟩
    rw [hstatus]
    nofun
  · intro result result' hmem hmem' hne heq
    obtain ⟨_, -, _, hpoll⟩ := hpolled result hmem
    obtain ⟨_, -, _, hpoll'⟩ := hpolled result' hmem'
    obtain ⟨state, _, _, hstate, -, -, -, hread⟩ := hpoll.read
    obtain ⟨state', _, _, hstate', -, -, -, hread'⟩ := hpoll'.read
    refine hne ?_
    unfold toSubscribeResponse at heq
    simp only [hread.withState, hread'.withState, Option.map_some, Option.some.injEq] at heq
    rw [hread.forTarget, hread'.forTarget, ← hstate, ← hstate', heq]

end Answers

/-! ## What every run keeps -/

section Invariant

variable {Actor : Type} {hooks : Hooks Actor} {actor : Actor} {subscriberID : SubscriberID}
  {req : GatewaySubscribeRequest} {heartbeatEvery : Int} {key : String}

/-- A response under this key may still have to be treated in this iteration. -/
def LoopPc.Awaits (k : String) : LoopPc → Prop
  | .polling _ => True
  | .responding rest _ _ _ => ∃ resp ∈ rest, responseKey resp = k
  | _ => False

/-- The record of a target is true of the set, a key that no polled target covers has no mark, and
in the first iteration after the target came back no mark of a key that is awaited is ahead of the
cursor that was committed when it began. -/
structure FollowedInv (hooks : Hooks Actor) (actor : Actor) (subscriberID : SubscriberID)
    (key : String) (f : Followed) : Prop where
  reachable : Reachable f.loop.store.now
  keyed : f.loop.sub.Keyed
  gone : f.presence = .gone → key ∉ f.loop.sub.targets
  back : f.presence = .back → key ∈ f.loop.sub.targets
  uncovered : ∀ k, Loop.keeps f.polled k = false → f.loop.mark k = {}
  polling : ∀ p, f.loop.pc = .polling p →
    Reading (Answers hooks actor subscriberID f.polled f.begun) f.loop.store p
  responding : ∀ rest sent hasMore throttled,
    f.loop.pc = .responding rest sent hasMore throttled →
    Answers hooks actor subscriberID f.polled f.begun rest f.loop.store
  polled : f.first = true → ∃ t ∈ f.polled, targetKey t = key
  unmixed : f.first = true → ∀ t b t' b', Bound hooks actor {t | t ∈ f.polled} t b →
    targetKey t = key → Bound hooks actor {t | t ∈ f.polled} t' b' →
    keyOf t b = keyOf t' b' → t = t'
  pending : f.first = true → ∀ t b, Bound hooks actor {t | t ∈ f.polled} t b →
    targetKey t = key → f.loop.pc.Awaits (keyOf t b) →
    (f.loop.mark (keyOf t b)).delivered ≤ committedOf subscriberID b f.begun

/-- What an absence after a modification comes from. -/
theorem Presence.modify_gone {p : Presence} {add remove : List SyncTarget}
    (h : p.modify key add remove = .gone) :
    (¬ ∃ t ∈ add, targetKey t = key) ∧ (p = .gone ∨ ∃ t ∈ remove, targetKey t = key) := by
  unfold Presence.modify at h
  simp only at h
  split_ifs at h with hremove hadd hadd
  · exact ⟨fun hin => hadd ⟨rfl, hin⟩, .inr hremove⟩
  · exact ⟨fun hin => hadd ⟨h, hin⟩, .inl h⟩

/-- What a return after a modification comes from. -/
theorem Presence.modify_back {p : Presence} {add remove : List SyncTarget}
    (h : p.modify key add remove = .back) :
    (∃ t ∈ add, targetKey t = key) ∨ (p = .back ∧ ¬ ∃ t ∈ remove, targetKey t = key) := by
  unfold Presence.modify at h
  simp only at h
  split_ifs at h with hremove hadd hadd
  · exact .inl hadd.2
  · exact .inl hadd.2
  · exact .inr ⟨h, hremove⟩

namespace FollowedInv

variable {f : Followed}

/-- The loop goes on to a place where no poll and no round of responses is under way. -/
theorem rest (h : FollowedInv hooks actor subscriberID key f) {loop : Loop}
    (hstore : loop.store = f.loop.store) (hsub : loop.sub = f.loop.sub)
    (hmarks : loop.marks = f.loop.marks) (hpoll : ∀ p, loop.pc ≠ .polling p)
    (hrespond : ∀ rest sent hasMore throttled,
      loop.pc ≠ .responding rest sent hasMore throttled) :
    FollowedInv hooks actor subscriberID key { f with loop } where
  reachable := hstore ▸ h.reachable
  keyed := hsub ▸ h.keyed
  gone hgone := hsub ▸ h.gone hgone
  back hback := hsub ▸ h.back hback
  uncovered k hk := by
    unfold Loop.mark
    rw [hmarks]
    exact h.uncovered k hk
  polling p heq := absurd heq (hpoll p)
  responding _ _ _ _ heq := absurd heq (hrespond _ _ _ _)
  polled := h.polled
  unmixed := h.unmixed
  pending hfirst t b hb hkey hawaits := by
    cases hpc : loop.pc with
    | polling p => exact absurd hpc (hpoll p)
    | responding rest sent hasMore throttled => exact absurd hpc (hrespond _ _ _ _)
    | top | sleeping | watching | ended =>
        simp only [hpc] at hawaits
        exact hawaits.elim

/-- Another party performs an operation. -/
theorem env (h : FollowedInv hooks actor subscriberID key f) {op : Op} (hop : op.KeepsCursors) :
    FollowedInv hooks actor subscriberID key
      { f with
        loop := { f.loop with store := f.loop.store.push (op.apply f.loop.store.now) } } := by
  have hstep : EnvStep f.loop.store (f.loop.store.push (op.apply f.loop.store.now)) :=
    ⟨op, hop, rfl⟩
  refine { h with reachable := h.reachable.apply op, polling := ?_, responding := ?_ }
  · intro p hpc
    exact (h.polling p hpc).env hstep fun _ _ _ hreach hστ hok => hok.later hreach hστ
  · intro rest sent hasMore throttled hpc
    exact (h.responding rest sent hasMore throttled hpc).later h.reachable hstep

/-- The target set is modified. -/
theorem modify (h : FollowedInv hooks actor subscriberID key f) (add remove : List SyncTarget) :
    FollowedInv hooks actor subscriberID key
      { f with
        presence := f.presence.modify key add remove
        loop := { f.loop with sub := f.loop.sub.apply add remove } } := by
  refine { h with keyed := h.keyed.apply add remove, gone := ?_, back := ?_ }
  · intro hgone
    obtain ⟨hadd, hremoved⟩ := Presence.modify_gone hgone
    show key ∉ LiveSub.addTargets _ _
    rw [LiveSub.mem_keys_addTargets, LiveSub.mem_keys_removeTargets]
    rintro (⟨hmem, hremove⟩ | hin)
    · rcases hremoved with hwas | hin
      · exact h.gone hwas hmem
      · exact hremove hin
    · exact hadd hin
  · intro hback
    show key ∈ LiveSub.addTargets _ _
    rw [LiveSub.mem_keys_addTargets, LiveSub.mem_keys_removeTargets]
    rcases Presence.modify_back hback with hin | ⟨hwas, hremove⟩
    · exact .inr hin
    · exact .inl ⟨h.back hwas, hremove⟩

/-- An iteration begins. If it is the first since the target came back, then by `Settled` nothing is
ahead of the cursor: either the iteration before did not cover the keys, so that there are no marks,
or the marks themselves say so. -/
theorem begin (h : FollowedInv hooks actor subscriberID key f)
    (hsub : resolveSubscriber hooks actor req.subscriberId = .ok subscriberID) (now : Int)
    (hsettled : f.presence = .back →
      ∀ t b, Bound hooks actor {t | t ∈ f.loop.sub.snapshot} t b → targetKey t = key →
        (∀ t' b', Bound hooks actor {t | t ∈ f.loop.sub.snapshot} t' b' →
          keyOf t b = keyOf t' b' → t = t') ∧
        (Loop.keeps f.polled (keyOf t b) = false ∨
          (f.loop.mark (keyOf t b)).delivered ≤ committedOf subscriberID b f.loop.store.now)) :
    FollowedInv hooks actor subscriberID key
      { f with
        presence := f.presence.begin
        polled := f.loop.sub.snapshot
        begun := f.loop.store.now
        first := f.presence = .back
        loop := f.loop.begin hooks actor req heartbeatEvery now } := by
  obtain ⟨hstore, hset⟩ := f.loop.begin_frame hooks actor req heartbeatEvery now
  have hmark := f.loop.begin_mark hooks actor req heartbeatEvery now
  have hkeys := h.keyed.snapshot_keys
  have hnodup : f.loop.sub.snapshot.Nodup :=
    List.Nodup.of_map targetKey (hkeys ▸ f.loop.sub.targets.keys_nodup)
  refine ⟨?_, ?_, ?_, ?_, ?_, ?_, ?_, ?_, ?_, ?_⟩
  · exact hstore ▸ h.reachable
  · exact hset ▸ h.keyed
  · intro hgone
    simp only [Presence.begin] at hgone
    split_ifs at hgone
    rw [hset]
    exact h.gone hgone
  · intro hback
    simp only [Presence.begin] at hback
    split_ifs at hback
    exact absurd hback ‹_›
  · intro k hk
    rw [hmark, if_neg (by simpa using hk)]
  · intro p hpc
    rcases f.loop.begin_pc hooks actor req heartbeatEvery now with hsleep | hpolling
    · simp [hsleep] at hpc
    · simp only [hpolling, LoopPc.polling.injEq] at hpc
      subst hpc
      rw [hstore]
      exact reading_answers { req with targets := f.loop.sub.snapshot } hsub hnodup h.reachable
  · intro rest sent hasMore throttled hpc
    rcases f.loop.begin_pc hooks actor req heartbeatEvery now with hpc' | hpc'
    · simp [hpc'] at hpc
    · simp [hpc'] at hpc
  · intro hfirst
    have hmem : key ∈ f.loop.sub.snapshot.map targetKey := by
      rw [hkeys]
      exact h.back (of_decide_eq_true hfirst)
    exact List.mem_map.mp hmem
  · intro hfirst t b t' b' hb hkey hb' heq
    exact (hsettled (of_decide_eq_true hfirst) t b hb hkey).1 t' b' hb' heq
  · intro hfirst t b hb hkey _
    have hle : (f.loop.mark (keyOf t b)).delivered ≤
        committedOf subscriberID b f.loop.store.now := by
      rcases (hsettled (of_decide_eq_true hfirst) t b hb hkey).2 with huncovered | hreached
      · rw [h.uncovered _ huncovered]
        exact Nat.zero_le _
      · exact hreached
    simp only [hmark]
    split_ifs
    · exact hle
    · exact Nat.zero_le _

/-- The poll makes its next call. -/
theorem call (h : FollowedInv hooks actor subscriberID key f) {β : Type} {c : StoreCall β}
    {k : β → Prog StoreCall (Except GoError (List GatewaySubscribeResponse))}
    (hpc : f.loop.pc = .polling (.call c k)) :
    FollowedInv hooks actor subscriberID key
      { f with
        loop := { f.loop with
          store := (pollHandler _ c f.loop.store).2
          pc := .polling (k (pollHandler _ c f.loop.store).1) } } := by
  obtain ⟨hsame, hnext⟩ := (h.polling _ hpc).call
  rw [hsame]
  refine { h with polling := ?_, responding := ?_, pending := ?_ }
  · rintro p ⟨⟩
    exact hnext
  · rintro _ _ _ _ ⟨⟩
  · intro hfirst t b hb hkey _
    exact h.pending hfirst t b hb hkey (by rw [hpc]; trivial)

/-- The poll has answered. -/
theorem answered (h : FollowedInv hooks actor subscriberID key f)
    {responses : List GatewaySubscribeResponse}
    (hpc : f.loop.pc = .polling (.ret (.ok responses))) :
    FollowedInv hooks actor subscriberID key
      { f with loop := { f.loop with pc := .responding responses false false false } } := by
  refine { h with polling := ?_, responding := ?_, pending := ?_ }
  · rintro p ⟨⟩
  · rintro _ _ _ _ ⟨⟩
    exact (h.polling _ hpc).ret
  · intro hfirst t b hb hkey _
    exact h.pending hfirst t b hb hkey (by rw [hpc]; trivial)

/-- A response is treated: no other one that is awaited for the target has its key. -/
theorem respond (h : FollowedInv hooks actor subscriberID key f) (now : Int)
    {resp : GatewaySubscribeResponse} {rest : List GatewaySubscribeResponse}
    {sent hasMore throttled : Bool}
    (hpc : f.loop.pc = .responding (resp :: rest) sent hasMore throttled) :
    FollowedInv hooks actor subscriberID key
      { f with loop := f.loop.respond req now resp rest sent hasMore throttled } := by
  obtain ⟨hstore, hset, -, hwritten, s', m', t', hpc'⟩ :=
    f.loop.respond_frame req now resp rest sent hasMore throttled
  have hmark : ∀ k, k ≠ responseKey resp →
      (f.loop.respond req now resp rest sent hasMore throttled).mark k = f.loop.mark k := by
    intro k hne
    rw [hwritten, Function.update_of_ne hne]
  have hanswers := h.responding _ _ _ _ hpc
  obtain ⟨state, b₀, hstate, hbound, hbinding, -⟩ := hanswers.1 resp List.mem_cons_self
  have hresp := responseKey_eq hstate hbinding
  refine ⟨?_, ?_, ?_, ?_, ?_, ?_, ?_, h.polled, h.unmixed, ?_⟩
  · exact hstore ▸ h.reachable
  · exact hset ▸ h.keyed
  · exact fun hgone => hset ▸ h.gone hgone
  · exact fun hback => hset ▸ h.back hback
  · intro k hk
    rw [hmark k ?_]
    · exact h.uncovered k hk
    · rintro rfl
      rw [hresp, keeps_keyOf hbound.1] at hk
      cases hk
  · intro p hpolling
    simp [hpc'] at hpolling
  · intro rest' sent' hasMore' throttled' hresponding
    simp only [hpc', LoopPc.responding.injEq] at hresponding
    obtain ⟨rfl, -⟩ := hresponding
    rw [hstore]
    exact hanswers.tail
  · intro hfirst t b hb hkey hawaits
    simp only [hpc'] at hawaits
    obtain ⟨resp', hmem, hkey'⟩ := hawaits
    have hne : keyOf t b ≠ responseKey resp := by
      intro heq
      -- the target answered twice under one key
      obtain ⟨state', b₁, hstate', hbound', hbinding', -⟩ :=
        hanswers.1 resp' (List.mem_cons_of_mem _ hmem)
      have hresp' := responseKey_eq hstate' hbinding'
      have htarget := h.unmixed hfirst t b _ b₀ hb hkey hbound (heq.trans hresp)
      have htarget' := h.unmixed hfirst t b _ b₁ hb hkey hbound' (hkey'.symm.trans hresp')
      refine (List.pairwise_cons.mp hanswers.2).1 resp' hmem ?_ ?_
      · rw [hstate, hstate', Option.map_some, Option.map_some, ← htarget, ← htarget']
      · have hsame : keyOf t b₀ = keyOf t b₁ := by
          rw [htarget, ← hresp, ← heq, ← hkey', hresp', ← htarget', htarget]
        unfold keyOf targetBindingKey at hsame
        rw [hbinding, hbinding']
        exact (String.append_right_inj _).mp hsame
    rw [hmark _ hne]
    refine h.pending hfirst t b hb hkey ?_
    rw [hpc]
    exact ⟨resp', List.mem_cons_of_mem _ hmem, hkey'⟩

/-- While the target's answers are awaited in that iteration, they are treated as for a loop that
has recorded nothing. -/
theorem resumes (h : FollowedInv hooks actor subscriberID key f) :
    ResumesAtCursor hooks actor subscriberID req key f := by
  intro hfirst
  refine ⟨h.polled hfirst, ?_⟩
  intro resp rest sent hasMore throttled hpc state hstate hkey
  obtain ⟨state', b, hstate', hbound, hbinding, hcursor, hevents⟩ :=
    (h.responding _ _ _ _ hpc).1 resp List.mem_cons_self
  rw [hstate] at hstate'
  cases hstate'
  have hreached : (f.loop.mark (responseKey resp)).delivered ≤
      bindingCursorSeq state resp.bindingKey := by
    have hresp := responseKey_eq hstate hbinding
    have hpending := h.pending hfirst state.target b hbound hkey
    rw [hpc, ← hresp] at hpending
    exact (hpending ⟨resp, List.mem_cons_self, rfl⟩).trans hcursor
  have hjudge : f.loop.judge req resp = (f.loop.mark (responseKey resp)).step
      req.maxInFlightPerTarget (bindingCursorSeq state resp.bindingKey) resp.status
      (!(events resp).isEmpty) (batchSeq resp) := by
    unfold Loop.judge
    simp only [hstate]
  refine ⟨?_, ?_, ?_⟩
  · rw [hjudge, Mark.step_of_reached hreached]
    unfold Loop.judge
    simp only [hstate]
    rfl
  · intro htooLong
    rw [hjudge, htooLong, Mark.step_tooLong_of_reached hreached]
  · intro hne
    obtain ⟨hstatus, c, hc, hc', hcons, hlast⟩ := hevents hne
    have hahead : bindingCursorSeq state resp.bindingKey < batchSeq resp := by
      have hlength := List.length_pos_iff.mpr hne
      omega
    refine ⟨?_, b, ⟨Set.mem_univ _, hbound.2⟩, hbinding, c, hcursor.trans hc, hc', hcons⟩
    rw [hjudge, List.isEmpty_eq_false_iff.mpr hne]
    simp only [Bool.not_false]
    rw [Mark.step_delivered_of_reached hreached _ hstatus hahead]

end FollowedInv

/-- The invariant holds at the start. -/
theorem followedInv_start {s : Store} (hs : Reachable s) (now : Int) :
    FollowedInv hooks actor subscriberID key (.start s req now) where
  reachable := hs
  keyed := LiveSub.keyed_new req.subscriberId req.targets
  gone hgone := by cases hgone
  back hback := by cases hback
  uncovered _ _ := rfl
  polling _ hpc := by cases hpc
  responding _ _ _ _ hpc := by cases hpc
  polled hfirst := by cases hfirst
  unmixed hfirst := by cases hfirst
  pending hfirst := by cases hfirst

/-- What one step keeps. -/
theorem followedInv_step (hsub : resolveSubscriber hooks actor req.subscriberId = .ok subscriberID)
    (l : LoopLabel Set.univ) (f g : Followed) (hsettled : Settled hooks actor subscriberID key l f)
    (hstep : (followed hooks actor req heartbeatEvery key).step l f = some g)
    (h : FollowedInv hooks actor subscriberID key f) :
    FollowedInv hooks actor subscriberID key g := by
  obtain ⟨loop, hloop, rfl⟩ := Option.map_eq_some_iff.mp hstep
  unfold gatewayLoop at hloop
  cases l with
  | env op keeps =>
      cases hloop
      exact h.env keeps
  | modify add remove adds =>
      cases hloop
      exact h.modify add remove
  | takeWake =>
      simp only at hloop
      split_ifs at hloop
      cases hloop
      exact { h with }
  | loop now =>
      simp only at hloop
      split at hloop
      · rename_i hpc
        cases hloop
        simp only [Followed.note, hpc]
        exact h.begin hsub now (hsettled hpc)
      · rename_i hpc
        cases hloop
        simp only [Followed.note, hpc]
        exact h.call hpc
      · rename_i hpc
        cases hloop
        simp only [Followed.note, hpc]
        exact h.answered hpc
      · rename_i hpc
        cases hloop
        simp only [Followed.note, hpc]
        exact h.rest rfl rfl rfl (by simp) (by simp)
      · rename_i hpc
        cases hloop
        simp only [Followed.note, hpc]
        exact h.respond now hpc
      · rename_i sent hasMore throttled hpc
        cases hloop
        simp only [Followed.note, hpc]
        obtain ⟨hstore, hset, hmarks⟩ :=
          f.loop.finish_frame heartbeatEvery now sent hasMore throttled
        obtain ⟨hpoll, hrespond⟩ := f.loop.finish_pc heartbeatEvery now sent hasMore throttled
        exact h.rest hstore hset hmarks hpoll hrespond
      all_goals cases hloop
  | resume =>
      simp only at hloop
      split at hloop
      · cases hloop
        exact h.rest rfl rfl rfl (by simp) (by simp)
      · cases hloop
        exact h.rest rfl rfl rfl (by simp) (by simp)
      · cases hloop
  | fail =>
      cases hloop
      exact h.rest rfl rfl rfl (by simp) (by simp)

/-- **When a target that is added again resumes from the cursor.** In every run of the loop, with
any modifications of its target set and any operations on the store in between, in which the first
iteration after each return of the target begins settled: in that iteration the target's answers are
treated as if nothing had been recorded for it, so that the batch behind the committed cursor is
sent, or `TOO_LONG`. -/
theorem readded_resumes_at_cursor {s : Store} (hs : Reachable s)
    (hsub : resolveSubscriber hooks actor req.subscriberId = .ok subscriberID) {now : Int}
    {ls : List (LoopLabel Set.univ)}
    (hsettled : (followed hooks actor req heartbeatEvery key).Always
      (Settled hooks actor subscriberID key) ls (.start s req now)) :
    (followed hooks actor req heartbeatEvery key).Throughout
      (ResumesAtCursor hooks actor subscriberID req key) ls (.start s req now) :=
  Machine.throughout_of_always (fun l f g hC hstep => followedInv_step hsub l f g hC hstep)
    (fun _ h => h.resumes) (followedInv_start hs now) hsettled

end Invariant

/-! ## Both placements of a return -/

/-- Both events of the target are delivered; it is removed, the loop sees that, it is added again,
and the next poll answers. -/
def seenAbsent : List (LoopLabel Set.univ) :=
  List.replicate 9 (.loop 0) ++
    [.modify [] [targetS] nofun, .resume, .loop 0, .modify [targetS] [] fun _ _ => trivial,
      .resume] ++
    List.replicate 7 (.loop 0)

/-- The same, but the target is added again before the loop sees that it is absent. -/
def unseen : List (LoopLabel Set.univ) :=
  List.replicate 9 (.loop 0) ++
    [.modify [] [targetS] nofun, .modify [targetS] [] fun _ _ => trivial, .resume] ++
    List.replicate 7 (.loop 0)

/-- The loop has seen the target absent, and sends from the committed cursor again. -/
theorem readded_resumes_at_cursor_seenAbsent :
    ∃ f, (followed perActorHooks "alice" gatewayReq 1000000 "n/s/").run seenAbsent
        (.start twoEvents gatewayReq 0) = some f ∧ f.first = true ∧
      ResumesAtCursor perActorHooks "alice" "alice/device" gatewayReq "n/s/" f := by
  have hsettled : (followed perActorHooks "alice" gatewayReq 1000000 "n/s/").Always
      (Settled perActorHooks "alice" "alice/device" "n/s/") seenAbsent
      (.start twoEvents gatewayReq 0) := by
    decide
  have hresumes := readded_resumes_at_cursor twoEvents_reachable resolves_device hsettled
  exact ⟨_, rfl, rfl, hresumes.last rfl⟩

/-- A target that is removed and added again between two iterations is not resumed: its batch is
behind the cursor, and it is not sent. -/
theorem readded_unseen :
    ∃ f, (followed perActorHooks "alice" gatewayReq 1000000 "n/s/").run unseen
        (.start twoEvents gatewayReq 0) = some f ∧
      ¬ ResumesAtCursor perActorHooks "alice" "alice/device" gatewayReq "n/s/" f := by
  refine ⟨_, rfl, ?_⟩
  intro hresumes
  obtain ⟨-, hanswers⟩ := hresumes rfl
  obtain ⟨-, -, hbatch⟩ := hanswers _ _ _ _ _ rfl _ rfl rfl
  obtain ⟨hdelivered, -⟩ := hbatch (by decide)
  revert hdelivered
  decide

end Synclog.Transport
