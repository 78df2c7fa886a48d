import Synclog.Gateway.Poll
import Synclog.Gateway.Registry

/-!
# Waiting on an idle stream

`Server.waitOrWake` of `pkg/gateway/transport/grpc/server.go`, its helper goroutine,
`Engine.WaitGatewaySubscribe` of `pkg/gateway/engine.go` and the goroutines in which it calls
`WaitForStream` of the memory store, as one machine. The parties talk through the wake channel of
the stream's target set, the channel `done` (which has room for one value), the channels of the
store's watchers, and two contexts: `waitCtx`, which the helper cancels, and below it `watchCtx`
with the deadline. The stream's own context is alive throughout.

* `Wait`, `waitOrWake` — the machine, for one call of `waitOrWake`.
* `WaitInv` — what holds in every state: in particular what a watch can report, and when.
* `waits_unharmed_iff` — the call returns `nil` unless the deadline was reported first and a wake-up
  cancelled `waitCtx` before the report was classified.
-/

namespace Synclog.Transport

open Synclog.Lib Synclog.Core Synclog.Memory Synclog.Gateway

/-! ## Errors of contexts -/

/-- Source: package `context`, `Canceled`. -/
def errCanceled : GoError where
  wraps := [.canceled]
  message := "context canceled"

/-- Source: package `context`, `DeadlineExceeded`. -/
def errDeadlineExceeded : GoError where
  wraps := [.deadlineExceeded]
  message := "context deadline exceeded"

/-! ## What is waited for -/

section Targets

variable {Actor : Type} (hooks : Hooks Actor) (actor : Actor)

/-- The streams to watch, with the seq behind which each is watched.
Source: `gateway/engine.go`, `Engine.WaitGatewaySubscribe`, the hooks of the loop over the
targets. -/
def watchesOf (subscriberID : SubscriberID) (after : String → Nat) :
    List SyncTarget → Except GoError (List (StreamID × Nat))
  | [] => .ok []
  | target :: targets =>
    match resolveBindings hooks actor target with
    | .error err => .error err
    | .ok bindings =>
      match hooks.authorize { actor, operation := .subscribe, target, subscriberID } with
      | .error err => .error err
      | .ok () =>
        match watchesOf subscriberID after targets with
        | .error err => .error err
        | .ok rest =>
          .ok (bindings.map (fun b => (b.streamID, after (targetBindingKey target b.bindingKey))) ++
            rest)

/-- What the hooks answer to a call of `WaitGatewaySubscribe`.
Source: `gateway/engine.go`, `Engine.WaitGatewaySubscribe`, its calls of the hooks. -/
def waitTargets (req : GatewaySubscribeRequest) (after : String → Nat) :
    Except GoError (List (StreamID × Nat)) :=
  match resolveSubscriber hooks actor req.subscriberId with
  | .error err => .error err
  | .ok subscriberID =>
    match validateTargets req.targets with
    | .error err => .error err
    | .ok () => watchesOf hooks actor subscriberID after req.targets

variable {hooks actor}

/-- `resolveBindings` returns a binding at least. -/
theorem resolveBindings_ne_nil {target : SyncTarget} {bindings : List StreamBinding}
    (h : resolveBindings hooks actor target = .ok bindings) : bindings ≠ [] := by
  unfold resolveBindings at h
  split at h
  · cases h
  split at h
  · cases h
  rename_i resolution _
  split_ifs at h with hempty
  cases hbindings : resolution.bindings with
  | nil => exact absurd (by rw [hbindings]; rfl) hempty
  | cons b rest =>
      rw [hbindings] at h
      unfold resolveEach at h
      rintro rfl
      split_ifs at h
      split at h
      · cases h
      · split_ifs at h
        split at h <;> cases h

/-- Every target gives a watch of a named stream. -/
theorem watchesOf_ok {subscriberID : SubscriberID} {after : String → Nat}
    {targets : List SyncTarget} {watches : List (StreamID × Nat)}
    (h : watchesOf hooks actor subscriberID after targets = .ok watches) :
    (targets ≠ [] → watches ≠ []) ∧ ∀ watch ∈ watches, watch.1 ≠ "" := by
  induction targets generalizing watches with
  | nil =>
      cases h
      exact ⟨fun hne => absurd rfl hne, by simp⟩
  | cons target targets ih =>
      unfold watchesOf at h
      split at h
      · cases h
      rename_i bindings hresolve
      split at h
      · cases h
      split at h
      · cases h
      rename_i rest hrest
      cases h
      refine ⟨fun _ => by simp [resolveBindings_ne_nil hresolve], ?_⟩
      intro watch hwatch
      rcases List.mem_append.mp hwatch with hfront | hback
      · obtain ⟨b, hb, rfl⟩ := List.mem_map.mp hfront
        exact ((resolveBindings_ok hresolve).1 b hb).1
      · exact (ih hrest).2 watch hback

/-- When the hooks do not fail, there is a stream to watch, and every stream has a name. -/
theorem waitTargets_ok {req : GatewaySubscribeRequest} {after : String → Nat}
    {watches : List (StreamID × Nat)} (h : waitTargets hooks actor req after = .ok watches) :
    watches ≠ [] ∧ ∀ watch ∈ watches, watch.1 ≠ "" := by
  unfold waitTargets at h
  split at h
  · cases h
  split at h
  · cases h
  rename_i hvalid
  obtain ⟨hne, hnamed⟩ := watchesOf_ok h
  refine ⟨hne ?_, hnamed⟩
  rintro hnil
  rw [hnil] at hvalid
  cases hvalid

end Targets

/-! ## The machine -/

/-- A goroutine that calls `WaitForStream`: before the check of its context, before the critical
section that registers it, in the `select`, before the critical section that removes it, before it
reports its result, and afterwards.
Source: `memory/store.go`, `Store.WaitForStream`, and the goroutine in
`Engine.WaitGatewaySubscribe`. -/
inductive Watch
  | calling (streamID : StreamID) (after : Nat)
  | registering (streamID : StreamID) (after : Nat)
  | selecting (streamID : StreamID) (ch : Nat)
  | removing (streamID : StreamID) (ch : Nat)
  | reporting (result : Option GoError)
  | gone

/-- The goroutine that `waitOrWake` starts: in the `select`, before it cancels, and afterwards.
Source: `server.go`, `Server.waitOrWake`. -/
inductive Helper
  | selecting
  | cancelling
  | gone

/-- The caller: before `WaitGatewaySubscribe`, in its loop over the bindings, at the receive from
`done`, at the classification of what was received, in `waitTimeout` (no watcher), in `waitOrWake`
with what `WaitGatewaySubscribe` has returned, and at the end with what `waitOrWake` returns. -/
inductive Caller
  | entering
  | watching (rest : List (StreamID × Nat))
  | receiving
  | classifying (err : Option GoError)
  | sleeping
  | returned (err : Option GoError)
  | finished (err : Option GoError)

/-- The state of one call of `waitOrWake`. A context is `none` while it is alive, else its error. -/
structure Wait where
  store : Store
  wake : Bool
  helper : Helper := .selecting
  waitCtx : Option GoError := none
  watchCtx : Option GoError := none
  watches : List Watch := []
  done : Option (Option GoError) := none
  caller : Caller := .entering

/-- What happens next: another party performs an operation on the store, or puts a token into the
wake channel; the helper takes a token, sees its context end, or cancels; `watchCtx` learns that its
parent has ended; the timer fires; a watch takes its next step, at the `select` the one of its
channel or the one of its context; or the caller takes its next step. -/
inductive WaitLabel
  | env (op : Op)
  | signal
  | helperWake
  | helperDone
  | helperCancel
  | propagate
  | timer
  | watch (i : Nat)
  | watchDone (i : Nat)
  | caller

namespace Wait

/-- `WaitGatewaySubscribe` returns, and its deferred `cancel` ends `watchCtx`. -/
def return_ (σ : Wait) (err : Option GoError) : Wait :=
  { σ with caller := .returned err, watchCtx := σ.watchCtx.or (some errCanceled) }

/-- The next step of the caller.
Source: `server.go`, `Server.waitOrWake`; `gateway/engine.go`, `Engine.WaitGatewaySubscribe` and
`waitTimeout`. -/
def callerStep (σ : Wait) (targets : Except GoError (List (StreamID × Nat))) (watcher : Bool)
    (timeout : Int) : Option Wait :=
  match σ.caller with
  | .entering =>
    match targets with
    | .error err => some { σ with caller := .returned (some err) }
    | .ok rest =>
      if watcher then
        -- `watchCtx` is made below `waitCtx`, which may have ended already
        some { σ with caller := .watching rest, watchCtx := σ.waitCtx }
      else if timeout ≤ 0 then some { σ with caller := .returned σ.waitCtx }
      else some { σ with caller := .sleeping }
  | .watching ((streamID, after) :: rest) =>
    match σ.store.getHead streamID with
    | .error err => some (σ.return_ (some err))
    | .ok head =>
      if head.cursor.seq > after then some (σ.return_ none)
      else
        some { σ with
          caller := .watching rest
          watches := σ.watches ++ [.calling streamID after] }
  | .watching [] =>
    if σ.watches.length = 0 then
      some (σ.return_ (some (errInvalidArgument "at least one target binding is required")))
    else some { σ with caller := .receiving }
  | .receiving =>
    match σ.done with
    | none => none
    | some err => some { σ with done := none, caller := .classifying err }
  | .classifying err =>
    if err = none ∨ σ.waitCtx ≠ none then some (σ.return_ err)
    else if timeout > 0 ∧ err = some errDeadlineExceeded then some (σ.return_ none)
    else some (σ.return_ err)
  | .sleeping =>
    match σ.waitCtx with
    | none => none
    | some err => some { σ with caller := .returned (some err) }
  | .returned err =>
    -- the stream's context is alive, and the deferred `cancel` ends `waitCtx`
    let result := match err with
      | none => none
      | some err => if err.is .canceled then none else some err
    some { σ with caller := .finished result, waitCtx := σ.waitCtx.or (some errCanceled) }
  | .finished _ => none

/-- The timer fires: that of `watchCtx`, or that of `waitTimeout`. -/
def timerStep (σ : Wait) (timeout : Int) : Option Wait :=
  if timeout ≤ 0 then none
  else
    match σ.caller with
    | .entering => none
    | .sleeping => some { σ with caller := .returned none }
    | _ => some { σ with watchCtx := σ.watchCtx.or (some errDeadlineExceeded) }

/-- The next step of a watch. At the `select`, `done` chooses the case of the context.
Source: `memory/store.go`, `Store.WaitForStream`. -/
def watchStep (σ : Wait) (done : Bool) : Watch → Option (Watch × Wait)
  | .calling streamID after =>
    if streamID = "" then
      some (.reporting (some (errInvalidArgument "stream id is required")), σ)
    else
      match σ.watchCtx with
      | some err => some (.reporting (some err), σ)
      | none => some (.registering streamID after, σ)
  | .registering streamID after =>
    match σ.store.registerWatcher streamID after with
    | (none, store) => some (.reporting none, { σ with store })
    | (some ch, store) => some (.selecting streamID ch, { σ with store })
  | .selecting streamID ch =>
    if done then
      match σ.watchCtx with
      | some _ => some (.removing streamID ch, σ)
      | none => none
    else if ch ∈ σ.store.closed then some (.reporting none, σ)
    else none
  | .removing streamID ch =>
    some (.reporting σ.watchCtx, { σ with store := σ.store.removeWatcherLocked streamID ch })
  | .reporting result =>
    -- the send does not block: when the channel is full, the result is dropped
    some (.gone, { σ with done := σ.done.or (some result) })
  | .gone => none

/-- The watch `i` takes its next step. -/
def stepWatch (σ : Wait) (i : Nat) (done : Bool) : Option Wait :=
  match σ.watches[i]? with
  | none => none
  | some watch =>
    (σ.watchStep done watch).map fun next =>
      { next.2 with watches := next.2.watches.set i next.1 }

/-- The state in which a call begins; the wake channel may hold a token from before. -/
def start (s : Store) (wake : Bool) : Wait where
  store := s
  wake := wake

end Wait

/-- One call of `waitOrWake`, when the hooks answer `targets`; `watcher` says whether the engine has
one.
Source: `server.go`, `Server.waitOrWake`. -/
def waitOrWake (targets : Except GoError (List (StreamID × Nat))) (watcher : Bool)
    (timeout : Int) : Machine Wait WaitLabel where
  step
    | .env op, σ => some { σ with store := op.apply σ.store }
    | .signal, σ => some { σ with wake := true }
    | .helperWake, σ =>
      match σ.helper, σ.wake with
      | .selecting, true => some { σ with helper := .cancelling, wake := false }
      | _, _ => none
    | .helperDone, σ =>
      match σ.helper, σ.waitCtx with
      | .selecting, some _ => some { σ with helper := .gone }
      | _, _ => none
    | .helperCancel, σ =>
      match σ.helper with
      | .cancelling =>
        some { σ with helper := .gone, waitCtx := σ.waitCtx.or (some errCanceled) }
      | _ => none
    | .propagate, σ =>
      match σ.caller, σ.waitCtx with
      | .entering, _ => none
      | _, none => none
      | _, some err => some { σ with watchCtx := σ.watchCtx.or (some err) }
    | .timer, σ => σ.timerStep timeout
    | .watch i, σ => σ.stepWatch i false
    | .watchDone i, σ => σ.stepWatch i true
    | .caller, σ => σ.callerStep targets watcher timeout

/-! ## What every run keeps -/

/-- `WaitGatewaySubscribe` has returned. -/
def Wait.Over (σ : Wait) : Prop :=
  match σ.caller with
  | .returned _ | .finished _ => True
  | _ => False

/-- A reason for which `watchCtx` may be cancelled: `waitCtx` has ended, or nobody waits any
more. -/
def Wait.Ended (σ : Wait) : Prop := σ.waitCtx ≠ none ∨ σ.Over

/-- What a watch can report: an event; a cancellation, once there is a reason for one; or the
deadline, if there is one. -/
def Reportable (timeout : Int) (ended : Prop) (result : Option GoError) : Prop :=
  result = none ∨ (result = some errCanceled ∧ ended) ∨
    (result = some errDeadlineExceeded ∧ 0 < timeout)

/-- A result that may be reported for less may be reported for more. -/
theorem Reportable.imp {timeout : Int} {ended ended' : Prop} {result : Option GoError}
    (h : Reportable timeout ended result) (himp : ended → ended') :
    Reportable timeout ended' result := by
  rcases h with rfl | ⟨rfl, hended⟩ | hdeadline
  · exact .inl rfl
  · exact .inr (.inl ⟨rfl, himp hended⟩)
  · exact .inr (.inr hdeadline)

/-- The first of two reportable errors is one. -/
theorem Reportable.or {timeout : Int} {ended : Prop} {result result' : Option GoError}
    (h : Reportable timeout ended result) (h' : Reportable timeout ended result') :
    Reportable timeout ended (result.or result') := by
  cases result with
  | none => exact h'
  | some err => exact h

/-- A watch of a named stream, with a result that can be reported. -/
def Watch.Ok (timeout : Int) (ended : Prop) : Watch → Prop
  | .calling streamID _ => streamID ≠ ""
  | .reporting result => Reportable timeout ended result
  | _ => True

/-- A watch that is in order stays so. -/
theorem Watch.Ok.imp {timeout : Int} {ended ended' : Prop} {watch : Watch}
    (h : watch.Ok timeout ended) (himp : ended → ended') : watch.Ok timeout ended' := by
  cases watch with
  | reporting result => exact Reportable.imp h himp
  | calling streamID after => exact h
  | registering | selecting | removing | gone => trivial

/-- Where the caller stands, and with what. -/
def Caller.Ok (timeout : Int) (σ : Wait) : Caller → Prop
  | .watching rest => (∀ watch ∈ rest, watch.1 ≠ "") ∧ (rest ≠ [] ∨ σ.watches ≠ [])
  | .classifying err => Reportable timeout σ.Ended err
  | .returned err => err = none ∨ err = some errCanceled
  | .finished err => err = none
  | .entering | .receiving | .sleeping => True

/-- A caller that is in order stays so. -/
theorem Caller.Ok.imp {timeout : Int} {σ τ : Wait} {caller : Caller} (h : caller.Ok timeout σ)
    (hwatches : σ.watches ≠ [] → τ.watches ≠ []) (himp : σ.Ended → τ.Ended) :
    caller.Ok timeout τ := by
  cases caller with
  | watching rest => exact ⟨h.1, h.2.imp_right hwatches⟩
  | classifying err => exact Reportable.imp h himp
  | returned err => exact h
  | finished err => exact h
  | entering | receiving | sleeping => trivial

/-- The invariant of one call, in runs without the race. -/
structure WaitInv (timeout : Int) (σ : Wait) : Prop where
  waitCtx : σ.waitCtx = none ∨ σ.waitCtx = some errCanceled
  watchCtx : Reportable timeout σ.Ended σ.watchCtx
  watches : ∀ watch ∈ σ.watches, watch.Ok timeout σ.Ended
  done : ∀ result, σ.done = some result → Reportable timeout σ.Ended result
  caller : σ.caller.Ok timeout σ

namespace WaitInv

variable {timeout : Int} {σ τ : Wait}

/-- A context ends, and nothing else changes. -/
theorem contexts (h : WaitInv timeout σ) {waitCtx watchCtx : Option GoError}
    (hwaitCtx : waitCtx = none ∨ waitCtx = some errCanceled)
    (hended : σ.waitCtx ≠ none → waitCtx ≠ none)
    (hwatchCtx : Reportable timeout (({ σ with waitCtx, watchCtx } : Wait).Ended) watchCtx) :
    WaitInv timeout { σ with waitCtx, watchCtx } := by
  have himp : σ.Ended → ({ σ with waitCtx, watchCtx } : Wait).Ended := Or.imp_left hended
  exact ⟨hwaitCtx, hwatchCtx, fun watch hwatch => (h.watches watch hwatch).imp himp,
    fun result hdone => (h.done result hdone).imp himp, h.caller.imp id himp⟩

/-- `WaitGatewaySubscribe` returns nothing or a cancellation. -/
theorem returns (h : WaitInv timeout σ) {err watchCtx : Option GoError}
    (herr : err = none ∨ err = some errCanceled)
    (hwatchCtx : Reportable timeout True watchCtx) :
    WaitInv timeout { σ with caller := .returned err, watchCtx } := by
  have himp : ∀ p : Prop, p → ({ σ with caller := .returned err, watchCtx } : Wait).Ended :=
    fun _ _ => .inr trivial
  exact ⟨h.waitCtx, hwatchCtx.imp (himp _),
    fun watch hwatch => (h.watches watch hwatch).imp (himp _),
    fun result hdone => (h.done result hdone).imp (himp _), herr⟩

/-- The caller goes on inside `WaitGatewaySubscribe`, with these watches and this channel. -/
theorem goesOn (h : WaitInv timeout σ) (hover : ¬ σ.Over) {watches : List Watch}
    (hwatches : ∀ watch ∈ watches, watch.Ok timeout σ.Ended) {done : Option (Option GoError)}
    (hdone : ∀ result, done = some result → Reportable timeout σ.Ended result) (caller : Caller)
    (hcaller : caller.Ok timeout { σ with watches }) :
    WaitInv timeout { σ with watches, done, caller } := by
  have himp : σ.Ended → ({ σ with watches, done, caller } : Wait).Ended := by
    rintro (hctx | hover')
    · exact .inl hctx
    · exact absurd hover' hover
  exact ⟨h.waitCtx, h.watchCtx.imp himp, fun watch hwatch => (hwatches watch hwatch).imp himp,
    fun result hresult => (hdone result hresult).imp himp, hcaller.imp id himp⟩

/-- The step of a watch. -/
theorem watchStep (h : WaitInv timeout σ) {done : Bool} {watch watch' : Watch}
    (hwatch : watch.Ok timeout σ.Ended) (hstep : σ.watchStep done watch = some (watch', τ)) :
    watch'.Ok timeout σ.Ended ∧ WaitInv timeout τ ∧ τ.watches = σ.watches ∧
      (τ.Ended ↔ σ.Ended) := by
  cases watch with
  | calling streamID after =>
      have hnamed : streamID ≠ "" := hwatch
      unfold Wait.watchStep at hstep
      simp only [if_neg hnamed] at hstep
      cases hctx : σ.watchCtx with
      | none =>
          rw [hctx] at hstep
          cases hstep
          exact ⟨trivial, h, rfl, Iff.rfl⟩
      | some err =>
          rw [hctx] at hstep
          cases hstep
          refine ⟨?_, h, rfl, Iff.rfl⟩
          rw [← hctx]
          exact h.watchCtx
  | registering streamID after =>
      unfold Wait.watchStep at hstep
      rcases hreg : σ.store.registerWatcher streamID after with ⟨ch, store⟩
      simp only [hreg] at hstep
      cases ch with
      | none =>
          cases hstep
          exact ⟨.inl rfl, { h with }, rfl, Iff.rfl⟩
      | some ch =>
          cases hstep
          exact ⟨trivial, { h with }, rfl, Iff.rfl⟩
  | selecting streamID ch =>
      unfold Wait.watchStep at hstep
      simp only at hstep
      split_ifs at hstep
      · split at hstep
        · cases hstep
          exact ⟨trivial, h, rfl, Iff.rfl⟩
        · cases hstep
      · cases hstep
        exact ⟨.inl rfl, h, rfl, Iff.rfl⟩
  | removing streamID ch =>
      cases hstep
      exact ⟨h.watchCtx, { h with }, rfl, Iff.rfl⟩
  | reporting result =>
      cases hstep
      refine ⟨trivial, ⟨h.waitCtx, h.watchCtx, h.watches, ?_, h.caller⟩, rfl, Iff.rfl⟩
      intro result' hdone
      cases hfull : σ.done with
      | none =>
          simp only [hfull, Option.none_or, Option.some.injEq] at hdone
          rw [← hdone]
          exact hwatch
      | some first =>
          simp only [hfull, Option.some_or, Option.some.injEq] at hdone
          rw [← hdone]
          exact h.done first hfull
  | gone => cases hstep

/-- The step of the watch `i`. -/
theorem stepWatch (h : WaitInv timeout σ) {i : Nat} {done : Bool}
    (hstep : σ.stepWatch i done = some τ) : WaitInv timeout τ := by
  unfold Wait.stepWatch at hstep
  split at hstep
  · cases hstep
  rename_i watch hwatch
  obtain ⟨⟨watch', σ'⟩, hnext, rfl⟩ := Option.map_eq_some_iff.mp hstep
  obtain ⟨hok, hinv, hwatches, hended⟩ :=
    h.watchStep (h.watches watch (List.mem_of_getElem? hwatch)) hnext
  refine ⟨hinv.waitCtx, hinv.watchCtx, ?_, hinv.done, hinv.caller.imp ?_ id⟩
  · intro other hother
    rcases List.mem_or_eq_of_mem_set hother with hold | rfl
    · exact hinv.watches other hold
    · exact hok.imp hended.mpr
  · intro hne hnil
    exact hne (by simpa using hnil)

/-- What `WaitGatewaySubscribe` returns, when it does not return the deadline. -/
theorem return_ (h : WaitInv timeout σ) {err : Option GoError}
    (herr : err = none ∨ err = some errCanceled) : WaitInv timeout (σ.return_ err) := by
  have hwatchCtx : Reportable timeout True σ.watchCtx := h.watchCtx.imp fun _ => trivial
  exact h.returns herr (hwatchCtx.or (.inr (.inl ⟨rfl, trivial⟩)))

/-- `waitOrWake` returns `nil`, and its deferred `cancel` ends `waitCtx`. -/
theorem finishes (h : WaitInv timeout σ) {result : Option GoError} (hresult : result = none) :
    WaitInv timeout
      { σ with caller := .finished result, waitCtx := σ.waitCtx.or (some errCanceled) } := by
  have himp : ∀ p : Prop, p →
      ({ σ with caller := .finished result, waitCtx := σ.waitCtx.or (some errCanceled) } :
        Wait).Ended := fun _ _ => .inr trivial
  refine ⟨?_, h.watchCtx.imp (himp _), fun watch hwatch => (h.watches watch hwatch).imp (himp _),
    fun result hdone => (h.done result hdone).imp (himp _), hresult⟩
  rcases h.waitCtx with hnone | hsome
  · exact .inr (by rw [hnone]; rfl)
  · exact .inr (by rw [hsome]; rfl)

variable {targets : List (StreamID × Nat)} {watcher : Bool}

/-- Outside the race, what was received from `done` becomes nothing or a cancellation. -/
theorem classifies (h : WaitInv timeout σ) {err : Option GoError}
    (hpc : σ.caller = .classifying err)
    (hrace : ¬ (σ.caller = .classifying (some errDeadlineExceeded) ∧ σ.waitCtx ≠ none))
    (hstep : σ.callerStep (.ok targets) watcher timeout = some τ) : WaitInv timeout τ := by
  have hover : ¬ σ.Over := by simp [Wait.Over, hpc]
  have hcaller := h.caller
  rw [hpc] at hcaller
  unfold Wait.callerStep at hstep
  simp only [hpc] at hstep
  split_ifs at hstep with hreturn hdeadline
  · cases hstep
    refine h.return_ ?_
    rcases hcaller with rfl | ⟨rfl, -⟩ | ⟨rfl, -⟩
    · exact .inl rfl
    · exact .inr rfl
    · -- the race, which is excluded
      rcases hreturn with hnone | hctx
      · cases hnone
      · exact absurd ⟨hpc, hctx⟩ hrace
  · cases hstep
    exact h.return_ (.inl rfl)
  · -- a report other than the deadline has a reason, and so was returned before
    rw [not_or, not_not] at hreturn
    rcases hcaller with rfl | ⟨-, hctx | hover'⟩ | ⟨rfl, htimeout⟩
    · exact absurd rfl hreturn.1
    · exact absurd hreturn.2 hctx
    · exact absurd hover' hover
    · exact absurd ⟨htimeout, rfl⟩ hdeadline

/-- The step of the caller, unless it is the race. -/
theorem callerStep (h : WaitInv timeout σ) (hne : targets ≠ [])
    (hnamed : ∀ watch ∈ targets, watch.1 ≠ "")
    (hrace : ¬ (σ.caller = .classifying (some errDeadlineExceeded) ∧ σ.waitCtx ≠ none))
    (hstep : σ.callerStep (.ok targets) watcher timeout = some τ) : WaitInv timeout τ := by
  have hcaller := h.caller
  have hwaitCtx : Reportable timeout σ.Ended σ.waitCtx := by
    rcases h.waitCtx with hnone | hsome
    · exact .inl hnone
    · exact .inr (.inl ⟨hsome, .inl (by rw [hsome]; rintro ⟨⟩)⟩)
  unfold Wait.callerStep at hstep
  cases hpc : σ.caller with
  | entering =>
      have hover : ¬ σ.Over := by simp [Wait.Over, hpc]
      simp only [hpc] at hstep
      split_ifs at hstep
      · cases hstep
        have hctx : WaitInv timeout { σ with watchCtx := σ.waitCtx } :=
          h.contexts h.waitCtx id hwaitCtx
        exact hctx.goesOn hover hctx.watches hctx.done (.watching targets) ⟨hnamed, .inl hne⟩
      · cases hstep
        exact h.returns h.waitCtx (h.watchCtx.imp fun _ => trivial)
      · cases hstep
        exact h.goesOn hover h.watches h.done .sleeping trivial
  | watching rest =>
      have hover : ¬ σ.Over := by simp [Wait.Over, hpc]
      rw [hpc] at hcaller
      obtain ⟨hrest, hwatches⟩ := hcaller
      cases rest with
      | nil =>
          have hsome : σ.watches.length ≠ 0 := by
            rcases hwatches with hnil | hsome
            · exact absurd rfl hnil
            · rwa [ne_eq, List.length_eq_zero_iff]
          simp only [hpc, if_neg hsome] at hstep
          cases hstep
          exact h.goesOn hover h.watches h.done .receiving trivial
      | cons watch rest =>
          obtain ⟨streamID, after⟩ := watch
          have hid : streamID ≠ "" := hrest _ List.mem_cons_self
          simp only [hpc, σ.store.getHead_eq hid] at hstep
          split_ifs at hstep
          · cases hstep
            exact h.return_ (.inl rfl)
          · cases hstep
            refine h.goesOn hover ?_ h.done (.watching rest)
              ⟨fun w hw => hrest w (List.mem_cons_of_mem _ hw), .inr (by simp)⟩
            intro w hw
            rcases List.mem_append.mp hw with hold | hnew
            · exact h.watches w hold
            · rw [List.mem_singleton.mp hnew]
              exact hid
  | receiving =>
      have hover : ¬ σ.Over := by simp [Wait.Over, hpc]
      simp only [hpc] at hstep
      split at hstep
      · cases hstep
      · rename_i err hdone
        cases hstep
        exact h.goesOn hover h.watches (by simp) (.classifying err) (h.done err hdone)
  | classifying err => exact h.classifies hpc hrace (by unfold Wait.callerStep; exact hstep)
  | sleeping =>
      simp only [hpc] at hstep
      split at hstep
      · cases hstep
      · rename_i err hctx
        cases hstep
        have herr : some err = none ∨ some err = some errCanceled := hctx ▸ h.waitCtx
        exact h.returns herr (h.watchCtx.imp fun _ => trivial)
  | returned err =>
      rw [hpc] at hcaller
      simp only [hpc] at hstep
      cases hstep
      exact h.finishes (by rcases hcaller with rfl | rfl <;> rfl)
  | finished err =>
      simp only [hpc] at hstep
      cases hstep

/-- The step of the timer. -/
theorem timerStep (h : WaitInv timeout σ) (hstep : σ.timerStep timeout = some τ) :
    WaitInv timeout τ := by
  unfold Wait.timerStep at hstep
  split_ifs at hstep with htimeout
  split at hstep
  · cases hstep
  · cases hstep
    exact h.returns (.inl rfl) (h.watchCtx.imp fun _ => trivial)
  · cases hstep
    exact h.contexts h.waitCtx id (h.watchCtx.or (.inr (.inr ⟨rfl, not_le.mp htimeout⟩)))

end WaitInv

/-- The race: the deadline was received from `done`, and `waitCtx` has ended by the time at which it
is classified. -/
def Wait.Race (σ : Wait) : Prop :=
  σ.caller = .classifying (some errDeadlineExceeded) ∧ σ.waitCtx ≠ none

/-- The step is not the caller's in a race. -/
def NoRace (l : WaitLabel) (σ : Wait) : Prop := l = .caller → ¬ σ.Race

section Runs

variable {targets : List (StreamID × Nat)} {watcher : Bool} {timeout : Int}

/-- The invariant holds at the start. -/
theorem waitInv_start (s : Store) (wake : Bool) : WaitInv timeout (.start s wake) where
  waitCtx := .inl rfl
  watchCtx := .inl rfl
  watches watch hwatch := by simp [Wait.start] at hwatch
  done result hdone := by simp [Wait.start] at hdone
  caller := trivial

/-- What one step keeps, unless it is the race. -/
theorem waitInv_step (hne : targets ≠ []) (hnamed : ∀ watch ∈ targets, watch.1 ≠ "")
    (l : WaitLabel) (σ τ : Wait) (hrace : NoRace l σ)
    (hstep : (waitOrWake (.ok targets) watcher timeout).step l σ = some τ)
    (h : WaitInv timeout σ) : WaitInv timeout τ := by
  unfold waitOrWake at hstep
  cases l with
  | env op =>
      cases hstep
      exact { h with }
  | signal =>
      cases hstep
      exact { h with }
  | helperWake =>
      simp only at hstep
      split at hstep
      · cases hstep
        exact { h with }
      · cases hstep
  | helperDone =>
      simp only at hstep
      split at hstep
      · cases hstep
        exact { h with }
      · cases hstep
  | helperCancel =>
      simp only at hstep
      split at hstep
      · cases hstep
        have hwaitCtx : σ.waitCtx.or (some errCanceled) = some errCanceled := by
          rcases h.waitCtx with hnone | hsome
          · rw [hnone]
            rfl
          · rw [hsome]
            rfl
        have hctx : WaitInv timeout { σ with waitCtx := σ.waitCtx.or (some errCanceled) } :=
          h.contexts (.inr hwaitCtx) (fun _ => by simp)
            (h.watchCtx.imp fun _ => .inl (by rw [hwaitCtx]; simp))
        exact { hctx with }
      · cases hstep
  | propagate =>
      simp only at hstep
      split at hstep
      · cases hstep
      · cases hstep
      · rename_i err hctx _
        cases hstep
        have herr : some err = none ∨ some err = some errCanceled := hctx ▸ h.waitCtx
        refine h.contexts h.waitCtx id (h.watchCtx.or ?_)
        rcases herr with hnone | hsome
        · exact .inl hnone
        · exact .inr (.inl ⟨hsome, .inl (by rw [hctx]; rintro ⟨⟩)⟩)
  | timer => exact h.timerStep hstep
  | watch i => exact h.stepWatch hstep
  | watchDone i => exact h.stepWatch hstep
  | caller => exact h.callerStep hne hnamed (hrace rfl) hstep

/-- After the race the deadline is what `waitOrWake` returns. -/
def Wait.Lost (σ : Wait) : Prop :=
  σ.caller = .returned (some errDeadlineExceeded) ∨ σ.caller = .finished (some errDeadlineExceeded)

/-- Behind the race the wakeup is lost. -/
theorem lost_of_race {σ τ : Wait} (hrace : σ.Race)
    (hstep : σ.callerStep (.ok targets) watcher timeout = some τ) : τ.Lost := by
  obtain ⟨hpc, hctx⟩ := hrace
  unfold Wait.callerStep at hstep
  simp only [hpc, if_pos (Or.inr hctx)] at hstep
  cases hstep
  exact .inl rfl

/-- A watch does not move the caller. -/
theorem stepWatch_caller {σ τ : Wait} {i : Nat} {done : Bool}
    (hstep : σ.stepWatch i done = some τ) :
    τ.caller = σ.caller := by
  unfold Wait.stepWatch at hstep
  split at hstep
  · cases hstep
  rename_i watch _
  obtain ⟨⟨watch', σ'⟩, hnext, rfl⟩ := Option.map_eq_some_iff.mp hstep
  unfold Wait.watchStep at hnext
  cases watch with
  | calling =>
      simp only at hnext
      split_ifs at hnext
      · cases hnext
        rfl
      · split at hnext <;> cases hnext <;> rfl
  | registering =>
      simp only at hnext
      split at hnext <;> cases hnext <;> rfl
  | selecting =>
      simp only at hnext
      split_ifs at hnext
      · split at hnext
        · cases hnext
          rfl
        · cases hnext
      · cases hnext
        rfl
  | removing | reporting =>
      cases hnext
      rfl
  | gone => cases hnext

/-- A lost wakeup stays lost. -/
theorem lost_step (l : WaitLabel) (σ τ : Wait)
    (hstep : (waitOrWake (.ok targets) watcher timeout).step l σ = some τ) (h : σ.Lost) :
    τ.Lost := by
  unfold waitOrWake at hstep
  have hsame : τ.caller = σ.caller → τ.Lost := by
    intro hcaller
    unfold Wait.Lost
    rw [hcaller]
    exact h
  cases l with
  | env | signal =>
      cases hstep
      exact hsame rfl
  | helperWake | helperDone | helperCancel | propagate =>
      simp only at hstep
      split at hstep <;> cases hstep
      exact hsame rfl
  | timer =>
      simp only [Wait.timerStep] at hstep
      split_ifs at hstep
      rcases h with hpc | hpc <;> simp only [hpc] at hstep <;> cases hstep
      · exact .inl rfl
      · exact .inr rfl
  | watch i => exact hsame (stepWatch_caller hstep)
  | watchDone i => exact hsame (stepWatch_caller hstep)
  | caller =>
      simp only [Wait.callerStep] at hstep
      rcases h with hpc | hpc <;> simp only [hpc] at hstep <;> cases hstep
      exact .inr rfl

/-- A call that returns `nil` has met no race. -/
theorem noRace_of_finished {ls : List WaitLabel} {σ τ : Wait}
    (hrun : (waitOrWake (.ok targets) watcher timeout).run ls σ = some τ)
    (hfinished : τ.caller = .finished none) :
    (waitOrWake (.ok targets) watcher timeout).Always NoRace ls σ := by
  induction ls generalizing σ with
  | nil => trivial
  | cons l ls ih =>
      obtain ⟨υ, hstep, hrest⟩ := (Machine.run_cons_eq_some _).mp hrun
      refine ⟨?_, ?_⟩
      · rintro rfl hrace
        have hlost : τ.Lost := Machine.run_invariant lost_step hrest (lost_of_race hrace hstep)
        rcases hlost with hpc | hpc
        · rw [hfinished] at hpc
          cases hpc
        · rw [hfinished] at hpc
          cases hpc
      · intro υ' hstep'
        rw [hstep] at hstep'
        cases hstep'
        exact ih hrest

/-- **Waiting does not end a stream, except for one race.** While the stream's context is alive and
the hooks do not fail, in every run of a call of `waitOrWake` that has come to its end: the call
returns `nil` if and only if no step of the run classified a deadline after `waitCtx` had ended. -/
theorem waits_unharmed_iff {Actor : Type} {hooks : Hooks Actor} {actor : Actor}
    {req : GatewaySubscribeRequest} {after : String → Nat}
    (htargets : waitTargets hooks actor req after = .ok targets) {s : Store} {wake : Bool}
    {ls : List WaitLabel} {σ : Wait}
    (hrun : (waitOrWake (waitTargets hooks actor req after) watcher timeout).run ls
      (.start s wake) = some σ)
    {err : Option GoError} (hfinished : σ.caller = .finished err) :
    err = none ↔
      (waitOrWake (waitTargets hooks actor req after) watcher timeout).Always NoRace ls
        (.start s wake) := by
  obtain ⟨hne, hnamed⟩ := waitTargets_ok htargets
  rw [htargets] at hrun ⊢
  constructor
  · rintro rfl
    exact noRace_of_finished hrun hfinished
  · intro halways
    have hinv :=
      Machine.run_invariant_of (waitInv_step hne hnamed) halways hrun (waitInv_start s wake)
    have hcaller := hinv.caller
    rw [hfinished] at hcaller
    exact hcaller

end Runs

/-! ## A deadline and a wake-up -/

/-- The request of a stream with the target `n/s`. -/
def idleReq : GatewaySubscribeRequest where
  subscriberId := "device"
  targets := [{ ns := "n", id := "s" }]

/-- The caller starts a watch of the stream and waits for its report; the timer fires, and the watch
reports the deadline. -/
def untilDeadline : List WaitLabel :=
  [.caller, .caller, .caller, .watch 0, .watch 0, .timer, .watchDone 0, .watch 0, .watch 0, .caller]

/-- Then a modification wakes the stream up, the helper cancels `waitCtx`, and the caller classifies
the report. -/
theorem woken_after_deadline :
    ∃ σ, (waitOrWake (waitTargets perActorHooks "alice" idleReq fun _ => 0) true 1).run
        (untilDeadline ++ [.signal, .helperWake, .helperCancel, .caller, .caller])
        (.start newStore false) = some σ ∧
      σ.caller = .finished (some errDeadlineExceeded) := ⟨_, rfl, rfl⟩

/-- Without the wake-up the same deadline is harmless. -/
theorem waits_unharmed_iff_deadline :
    ∃ σ, (waitOrWake (waitTargets perActorHooks "alice" idleReq fun _ => 0) true 1).run
        (untilDeadline ++ [.caller, .caller]) (.start newStore false) = some σ ∧
      ((none : Option GoError) = none ↔
        (waitOrWake (waitTargets perActorHooks "alice" idleReq fun _ => 0) true 1).Always NoRace
          (untilDeadline ++ [.caller, .caller]) (.start newStore false)) := by
  have htargets : waitTargets perActorHooks "alice" idleReq (fun _ => 0) = .ok [("s", 0)] := by
    decide
  obtain ⟨σ, hrun, hfinished⟩ : ∃ σ,
      (waitOrWake (waitTargets perActorHooks "alice" idleReq fun _ => 0) true 1).run
        (untilDeadline ++ [.caller, .caller]) (.start newStore false) = some σ ∧
      σ.caller = .finished none := ⟨_, rfl, rfl⟩
  exact ⟨σ, hrun, waits_unharmed_iff htargets hrun hfinished⟩

end Synclog.Transport
