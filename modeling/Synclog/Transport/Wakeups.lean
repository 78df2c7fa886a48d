import Synclog.Transport.Guarantees
import Synclog.Transport.WaitOrWake

/-!
# Waking a gateway stream up

The loop of `gatewayLoop` with the helpers that `waitOrWake` starts, those of earlier waits
included, the one-slot wake channel, and calls of `ModifySubscription`, each of them in two steps:
the critical section of `apply`, and the signal. The steps interleave in any order.

* `Waking`, `wakeups` — the machine; `change_signal`: an undisturbed call is `apply`.
* `Waking.Heeded` — a change that the loop has not polled yet, and of which every call has
  signalled, does not leave the loop waiting.
* `wakeups_heeded` — it holds throughout every run in which no helper of an earlier wait takes the
  token that such a change needs; `token_taken` is a run in which one does.
-/

namespace Synclog.Transport

open Synclog.Lib Synclog.Core Synclog.Memory Synclog.Gateway

/-! ## The machine -/

/-- The loop, the helper of its present wait and whether it has cancelled the context of that wait,
the helpers of the waits that have returned (whose contexts have ended), whether the target set was
changed after the last snapshot, and the calls that have changed it but not signalled yet. -/
structure Waking where
  loop : Loop
  helper : Helper := .gone
  cancelled : Bool := false
  earlier : List Helper := []
  modified : Bool := false
  signals : Nat := 0

/-- What happens next: another party performs an operation on the store; a modification changes the
target set, or signals; the loop takes its next step at the time `now`; `waitWake` takes the token;
`waitOrWake` returns because its context was cancelled; a wait returns for another reason; the
helper of the present wait takes the token, or cancels; a helper of an earlier wait takes the token,
or comes to its end; or the stream ends. -/
inductive WakeLabel
  | env (op : Op)
  | change (add remove : List SyncTarget)
  | signal
  | loop (now : Int)
  | sleepWake
  | cancelled
  | resume
  | helperWake
  | helperCancel
  | earlierWake (i : Nat)
  | earlierEnds (i : Nat)
  | fail

namespace Waking

/-- The loop has taken a step: at its top it has taken a snapshot of the targets, and where it has
called `waitOrWake` the helper has been started. -/
def follow (σ : Waking) (loop : Loop) : Waking :=
  match σ.loop.pc, loop.pc with
  | .top, _ => { σ with loop, modified := false }
  | _, .watching => { σ with loop, helper := .selecting, cancelled := false }
  | _, _ => { σ with loop }

/-- `waitOrWake` returns `nil`, and its deferred `cancel` ends the context of its helper. -/
def return_ (σ : Waking) : Waking :=
  { σ with
    loop := { σ.loop with pc := .top }
    helper := .gone
    cancelled := false
    earlier := σ.earlier ++ [σ.helper] }

/-- The token is taken from the wake channel. -/
def take (σ : Waking) : Waking :=
  { σ with loop := { σ.loop with sub := { σ.loop.sub with wake := false } } }

/-- The state in which a stream begins. -/
def start (s : Store) (req : GatewaySubscribeRequest) (now : Int) : Waking where
  loop := .start s req now

end Waking

/-- Source: `server.go`, `Server.GatewaySubscribe` with `Server.waitOrWake`, `waitWake`,
`liveSub.apply` and `liveSub.signal`. -/
def wakeups {Actor : Type} (hooks : Hooks Actor) (actor : Actor) (req : GatewaySubscribeRequest)
    (heartbeatEvery : Int) : Machine Waking WakeLabel where
  step
    | .env op, σ =>
      some { σ with loop := { σ.loop with store := σ.loop.store.push (op.apply σ.loop.store.now) } }
    | .change add remove, σ =>
      some { σ with
        loop := { σ.loop with sub := σ.loop.sub.change add remove }
        modified := true
        signals := σ.signals + 1 }
    | .signal, σ =>
      if σ.signals = 0 then none
      else
        some { σ with
          loop := { σ.loop with sub := σ.loop.sub.signal }
          signals := σ.signals - 1 }
    | .loop now, σ =>
      ((gatewayLoop hooks actor req Set.univ heartbeatEvery).step (.loop now) σ.loop).map σ.follow
    | .sleepWake, σ =>
      match σ.loop.pc, σ.loop.sub.wake with
      | .sleeping, true => some { σ.take with loop := { σ.take.loop with pc := .top } }
      | _, _ => none
    | .cancelled, σ =>
      match σ.loop.pc, σ.cancelled with
      | .watching, true => some σ.return_
      | _, _ => none
    | .resume, σ =>
      match σ.loop.pc with
      | .sleeping => some { σ with loop := { σ.loop with pc := .top } }
      | .watching => some σ.return_
      | _ => none
    | .helperWake, σ =>
      match σ.helper, σ.loop.sub.wake with
      | .selecting, true => some { σ.take with helper := .cancelling }
      | _, _ => none
    | .helperCancel, σ =>
      match σ.helper with
      | .cancelling => some { σ with helper := .gone, cancelled := true }
      | _ => none
    | .earlierWake i, σ =>
      -- its context has ended too, but a `select` may choose either case
      match σ.earlier[i]?, σ.loop.sub.wake with
      | some .selecting, true => some { σ.take with earlier := σ.earlier.set i .cancelling }
      | _, _ => none
    | .earlierEnds i, σ =>
      -- it sees that its context has ended, or cancels it once more
      match σ.earlier[i]? with
      | some .selecting | some .cancelling => some { σ with earlier := σ.earlier.set i .gone }
      | _ => none
    | .fail, σ => some { σ with loop := { σ.loop with pc := .ended } }

section Heeding

variable {Actor : Type} (hooks : Hooks Actor) (actor : Actor) (req : GatewaySubscribeRequest)
  (heartbeatEvery : Int)

/-- A call of `ModifySubscription` that no other step disturbs is what it is for `gatewayLoop`. -/
theorem change_signal (add remove : List SyncTarget) (σ : Waking) :
    (wakeups hooks actor req heartbeatEvery).run [.change add remove, .signal] σ =
      ((gatewayLoop hooks actor req Set.univ heartbeatEvery).step
        (.modify add remove fun _ _ => trivial) σ.loop).map
          fun loop => { σ with loop, modified := true } := by
  simp [Machine.run, wakeups, gatewayLoop, LiveSub.apply_eq]

namespace Waking

/-- The targets were changed after the last snapshot, and every call that changed them has
signalled. -/
def Due (σ : Waking) : Prop := σ.modified = true ∧ σ.signals = 0

/-- The loop is in `waitWake` or in `waitOrWake`. -/
def Blocked (σ : Waking) : Prop := σ.loop.pc = .sleeping ∨ σ.loop.pc = .watching

/-- The present call of `waitOrWake` is cancelled by a token, or about to be. -/
def Caught (σ : Waking) : Prop :=
  σ.loop.pc = .watching ∧ (σ.helper = .cancelling ∨ σ.cancelled = true)

/-- There is a token in the channel, or the present wait has had one. -/
def Woken (σ : Waking) : Prop := σ.loop.sub.wake = true ∨ σ.Caught

/-- The loop gets to its top, with the targets as they are, by steps that a token alone causes. -/
def Prompt (σ : Waking) : Prop :=
  ∃ ls τ, (∀ l ∈ ls, l ∈ [.sleepWake, .helperWake, .helperCancel, .cancelled]) ∧
    (wakeups hooks actor req heartbeatEvery).run ls σ = some τ ∧ τ.loop.pc = .top ∧
    τ.loop.sub.targets = σ.loop.sub.targets

/-- A loop that is blocked while a change is due has a token, or has had one, and does not wait for
its timeout. -/
def Heeded (σ : Waking) : Prop :=
  σ.Due → σ.Blocked → σ.Woken ∧ σ.Prompt hooks actor req heartbeatEvery

end Waking

/-- A helper of an earlier wait takes no token that a change needs: none is due, or the loop takes a
snapshot next, or has ended, or its present wait has had another token. -/
def Punctual : WakeLabel → Waking → Prop
  | .earlierWake _, σ =>
    σ.Due → σ.loop.pc = .top ∨ σ.loop.pc = .ended ∨ σ.Caught
  | _, _ => True

/-- What holds in every state: only a wait that is under way has a helper, whose end cancels the
wait; and a change that is due has a token, or the wait has had one. -/
structure WakeInv (σ : Waking) : Prop where
  helper : σ.helper ≠ .gone → σ.loop.pc = .watching ∨ σ.loop.pc = .ended
  ends : σ.loop.pc = .watching → σ.helper = .gone → σ.cancelled = true
  token : σ.Due → σ.loop.pc = .top ∨ σ.loop.pc = .ended ∨ σ.Woken

/-- The invariant holds at the start. -/
theorem wakeInv_start (s : Store) (now : Int) : WakeInv (.start s req now) where
  helper hhelper := absurd rfl hhelper
  ends hpc := nomatch hpc
  token hdue := nomatch hdue.1

variable {hooks actor req heartbeatEvery} {σ τ : Waking}

/-- A step of the loop does not touch the target set or the channel, and a blocked loop takes
none. -/
theorem loop_frame {loop loop' : Loop} {now : Int}
    (hstep : (gatewayLoop hooks actor req Set.univ heartbeatEvery).step (.loop now) loop =
      some loop') :
    loop'.sub = loop.sub ∧ loop.pc ≠ .sleeping ∧ loop.pc ≠ .watching ∧ loop.pc ≠ .ended ∧
      (loop.pc = .top → loop'.pc ≠ .watching) := by
  unfold gatewayLoop at hstep
  simp only at hstep
  split at hstep
  · rename_i hpc
    cases hstep
    refine ⟨(loop.begin_frame hooks actor req heartbeatEvery now).2, ?_⟩
    rcases loop.begin_pc hooks actor req heartbeatEvery now with hnext | hnext
    · simp [hpc, hnext]
    · simp [hpc, hnext]
  · rename_i hpc
    cases hstep
    simp [hpc]
  · rename_i hpc
    cases hstep
    simp [hpc]
  · rename_i hpc
    cases hstep
    simp [hpc]
  · rename_i resp rest sent hasMore throttled hpc
    cases hstep
    obtain ⟨-, hsub, -⟩ := loop.respond_frame req now resp rest sent hasMore throttled
    simp [hpc, hsub]
  · rename_i sent hasMore throttled hpc
    cases hstep
    obtain ⟨-, hsub, -⟩ := loop.finish_frame heartbeatEvery now sent hasMore throttled
    simp [hpc, hsub]
  all_goals cases hstep

namespace WakeInv

/-- A loop that is in no wait has no helper. -/
theorem gone (h : WakeInv σ) (hwatching : σ.loop.pc ≠ .watching) (hended : σ.loop.pc ≠ .ended) :
    σ.helper = .gone := by
  by_contra hne
  exact (h.helper hne).elim hwatching hended

/-- A loop that is blocked while a change is due does not have to wait for its timeout. -/
theorem heeded (h : WakeInv σ) : σ.Heeded hooks actor req heartbeatEvery := by
  intro hdue hblocked
  have hwoken : σ.Woken := by
    rcases h.token hdue with hpc | hpc | hwoken
    · rcases hblocked with hpc' | hpc' <;> rw [hpc] at hpc' <;> cases hpc'
    · rcases hblocked with hpc' | hpc' <;> rw [hpc] at hpc' <;> cases hpc'
    · exact hwoken
  refine ⟨hwoken, ?_⟩
  unfold Waking.Prompt
  rcases hblocked with hpc | hpc
  · -- the loop itself takes the token
    have hwake : σ.loop.sub.wake = true := by
      rcases hwoken with hwake | ⟨hpc', -⟩
      · exact hwake
      · rw [hpc] at hpc'
        cases hpc'
    refine ⟨[.sleepWake], { σ.take with loop := { σ.take.loop with pc := .top } }, by simp, ?_,
      rfl, rfl⟩
    simp [Machine.run, wakeups, hpc, hwake]
  · by_cases hcancelled : σ.cancelled = true
    · refine ⟨[.cancelled], σ.return_, by simp, ?_, rfl, rfl⟩
      simp [Machine.run, wakeups, hpc, hcancelled]
    cases hhelper : σ.helper with
    | gone => exact absurd (h.ends hpc hhelper) hcancelled
    | cancelling =>
        refine ⟨[.helperCancel, .cancelled],
          Waking.return_ { σ with helper := .gone, cancelled := true }, by simp, ?_, rfl, rfl⟩
        simp [Machine.run, wakeups, hpc, hhelper]
    | selecting =>
        have hwake : σ.loop.sub.wake = true := by
          rcases hwoken with hwake | ⟨-, hhelper' | hcancelled'⟩
          · exact hwake
          · rw [hhelper] at hhelper'
            cases hhelper'
          · exact absurd hcancelled' hcancelled
        refine ⟨[.helperWake, .helperCancel, .cancelled],
          Waking.return_ { σ.take with helper := .gone, cancelled := true }, by simp, ?_, rfl, rfl⟩
        simp [Machine.run, wakeups, Waking.take, hpc, hhelper, hwake]

/-- A step of the loop: a snapshot takes up all changes. -/
theorem follow {loop : Loop} {now : Int} (h : WakeInv σ)
    (hstep : (gatewayLoop hooks actor req Set.univ heartbeatEvery).step (.loop now) σ.loop =
      some loop) : WakeInv (σ.follow loop) := by
  obtain ⟨hsub, hsleeping, hwatching, hended, htop⟩ := loop_frame hstep
  have hgone := h.gone hwatching hended
  have hwake : σ.loop.pc ≠ .top → σ.Due → loop.sub.wake = true := by
    intro hpc hdue
    rcases h.token hdue with hpc' | hpc' | hwake | ⟨hpc', -⟩
    · exact absurd hpc' hpc
    · exact absurd hpc' hended
    · rw [hsub]
      exact hwake
    · exact absurd hpc' hwatching
  unfold Waking.follow
  split
  · rename_i hpc
    exact ⟨fun hne => absurd hgone hne, fun hpc' => absurd hpc' (htop hpc),
      fun hdue => nomatch hdue.1⟩
  · rename_i hpc' hpc
    exact ⟨fun _ => .inl hpc', fun _ hhelper => (nomatch hhelper),
      fun hdue => .inr (.inr (.inl (hwake hpc hdue)))⟩
  · rename_i hpc hpc'
    exact ⟨fun hne => absurd hgone hne, fun hpc'' => absurd hpc'' hpc',
      fun hdue => .inr (.inr (.inl (hwake hpc hdue)))⟩

/-- At the top of the loop nothing is asked of the channel. -/
theorem of_top (hpc : σ.loop.pc = .top) (hhelper : σ.helper = .gone) : WakeInv σ where
  helper hne := absurd hhelper hne
  ends hpc' := nomatch hpc.symm.trans hpc'
  token _ := .inl hpc

/-- A helper of an earlier wait that takes no token that is needed. -/
theorem earlierWake (h : WakeInv σ) {i : Nat} (hpunctual : Punctual (.earlierWake i) σ)
    (earlier : List Helper) : WakeInv { σ.take with earlier } where
  helper := h.helper
  ends := h.ends
  token hdue := (hpunctual hdue).imp id (Or.imp id .inr)

end WakeInv

/-- What one step keeps. -/
theorem wakeInv_step (l : WakeLabel) (σ τ : Waking) (hpunctual : Punctual l σ)
    (hstep : (wakeups hooks actor req heartbeatEvery).step l σ = some τ) (h : WakeInv σ) :
    WakeInv τ := by
  unfold wakeups at hstep
  cases l with
  | env op =>
      cases hstep
      exact ⟨h.helper, h.ends, h.token⟩
  | change add remove =>
      cases hstep
      -- the call still has to signal
      exact ⟨h.helper, h.ends, fun hdue => nomatch hdue.2⟩
  | signal =>
      simp only at hstep
      split_ifs at hstep
      cases hstep
      exact ⟨h.helper, h.ends, fun _ => .inr (.inr (.inl rfl))⟩
  | loop now =>
      obtain ⟨loop, hloop, rfl⟩ := Option.map_eq_some_iff.mp hstep
      exact h.follow hloop
  | sleepWake =>
      simp only at hstep
      split at hstep
      · rename_i hpc _
        cases hstep
        exact .of_top rfl (h.gone (by simp [hpc]) (by simp [hpc]))
      · cases hstep
  | cancelled =>
      simp only at hstep
      split at hstep
      · cases hstep
        exact .of_top rfl rfl
      · cases hstep
  | resume =>
      simp only at hstep
      split at hstep
      · rename_i hpc
        cases hstep
        exact .of_top rfl (h.gone (by simp [hpc]) (by simp [hpc]))
      · cases hstep
        exact .of_top rfl rfl
      · cases hstep
  | helperWake =>
      simp only at hstep
      split at hstep
      · rename_i hhelper _
        cases hstep
        have hpc := h.helper (by simp [hhelper])
        refine ⟨fun _ => hpc, fun _ hgone => (nomatch hgone), fun _ => ?_⟩
        exact .inr (hpc.symm.imp id fun hpc => .inr ⟨hpc, .inl rfl⟩)
      · cases hstep
  | helperCancel =>
      simp only at hstep
      split at hstep
      · rename_i hhelper
        cases hstep
        have hpc := h.helper (by simp [hhelper])
        refine ⟨fun hne => absurd rfl hne, fun _ _ => rfl, fun _ => ?_⟩
        exact .inr (hpc.symm.imp id fun hpc => .inr ⟨hpc, .inr rfl⟩)
      · cases hstep
  | earlierWake i =>
      simp only at hstep
      split at hstep
      · cases hstep
        exact h.earlierWake hpunctual _
      · cases hstep
  | earlierEnds i =>
      simp only at hstep
      split at hstep
      · cases hstep
        exact ⟨h.helper, h.ends, h.token⟩
      · cases hstep
        exact ⟨h.helper, h.ends, h.token⟩
      · cases hstep
  | fail =>
      cases hstep
      exact ⟨fun _ => .inr rfl, fun hpc => (nomatch hpc), fun _ => .inr (.inl rfl)⟩

/-- **No lost wake-up, unless an earlier helper takes it.** In every run in which the helpers of
earlier waits take no token that a change needs, and in every state of it: a loop that is blocked
while the target set was changed after its last snapshot has a token in the channel, or its wait was
cancelled by one, and gets back to its top without the timeout. -/
theorem wakeups_heeded {s : Store} {now : Int} {ls : List WakeLabel}
    (hpunctual : (wakeups hooks actor req heartbeatEvery).Always Punctual ls (.start s req now)) :
    (wakeups hooks actor req heartbeatEvery).Throughout
      (Waking.Heeded hooks actor req heartbeatEvery) ls (.start s req now) :=
  Machine.throughout_of_always wakeInv_step (fun _ h => h.heeded) (wakeInv_start req s now)
    hpunctual

end Heeding

/-! ## A token that is taken -/

/-- The loop sends what there is and waits. An event is appended, so that the wait returns; its
helper has not run yet. The loop sends the event and waits again. -/
def untilSecondWait : List WakeLabel :=
  List.replicate 9 (.loop 0) ++ [.env (.append 0 { streamID := "s" }), .resume] ++
    List.replicate 9 (.loop 0)

/-- Then a target is added. -/
def addOther : List WakeLabel := [.change [{ ns := "n", id := "other" }] [], .signal]

/-- The helper of the first wait takes the token of the change, and the second wait goes on. -/
theorem token_taken :
    ∃ σ, (wakeups perActorHooks "alice" gatewayReq 1000000).run
        (untilSecondWait ++ addOther ++ [.earlierWake 0]) (.start twoEvents gatewayReq 0) = some σ ∧
      σ.Due ∧ σ.Blocked ∧ ¬ σ.Woken := by
  refine ⟨_, rfl, ⟨rfl, rfl⟩, .inr rfl, ?_⟩
  rintro (hwake | ⟨-, hhelper | hcancelled⟩)
  · cases hwake
  · cases hhelper
  · cases hcancelled

/-- When the helper of the second wait takes it, the wait is cancelled. -/
theorem wakeups_heeded_second :
    (wakeups perActorHooks "alice" gatewayReq 1000000).Throughout
        (Waking.Heeded perActorHooks "alice" gatewayReq 1000000)
        (untilSecondWait ++ addOther ++ [.helperWake, .helperCancel, .cancelled])
        (.start twoEvents gatewayReq 0) ∧
      ∃ σ, (wakeups perActorHooks "alice" gatewayReq 1000000).run (untilSecondWait ++ addOther)
          (.start twoEvents gatewayReq 0) = some σ ∧ σ.Due ∧ σ.Blocked := by
  refine ⟨wakeups_heeded (Machine.always_of_forall _ ?_ _), _, rfl, ⟨rfl, rfl⟩, .inr rfl⟩
  simp [untilSecondWait, addOther, Punctual]

end Synclog.Transport
