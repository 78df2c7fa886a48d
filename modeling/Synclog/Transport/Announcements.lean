import Synclog.Transport.Backpressure

/-!
# `TOO_LONG` is announced once

Both loops remember that they have announced `TOO_LONG`, so that it is not announced again before
the committed cursor advances. They forget it where the cursor in an answer has reached the
delivered mark (`Mark.Forgets`), which it also has when it has not moved at all.

* `RawLoop.Remembers`, `Loop.Remembers` — a step that does not forget before the cursor advances.
* `framesFor` — what was sent about one binding, since the entries of its key were dropped last.
* `RawLoop.remembered_step`, `Loop.remembered_step` — what such a step keeps.
* `RawLoop.repeats`, `Loop.repeats` — a step that forgets while the replay is still too long
  announces it again.
* `too_long_announced_once` — the runs in which `TOO_LONG` is announced once; `announced_again` has
  one in which it is not.
-/

namespace Synclog.Transport

open Synclog.Lib Synclog.Core Synclog.Memory Synclog.Gateway

/-- An answer `TOO_LONG` that clears the flag is announced. -/
theorem step_of_forgets {m : Mark} {cursorSeq : Nat} (h : m.Forgets cursorSeq) (maxInFlight : Nat)
    (hasEvents : Bool) (seq : Nat) :
    (m.step maxInFlight cursorSeq .tooLong hasEvents seq).1 = .announced := by
  rw [Mark.step_tooLong_of_reached h.2]

/-- An announcement that is sent before the cursor has advanced is one too many. -/
theorem not_announcesOnce {frames : List Sent} {f : Sent} (hlong : f.IsTooLong)
    (h : ¬ Overtaken frames f.committed) : ¬ AnnouncesOnce (f :: frames) :=
  fun honce => h fun g hg hglong => (List.pairwise_cons.mp honce).1 g hg hlong hglong

/-! ## The raw loop -/

namespace RawLoop

variable {req : SubscribeRequest} {heartbeatEvery : Int} {σ τ : RawLoop}

/-- The result that a step treats. -/
def treated (l : RawLabel) (σ : RawLoop) : Option CatchUpResult :=
  match l, σ.pc with
  | .loop _, .catchingUp (.ret (.ok result)) => some result
  | _, _ => none

/-- The result that a step treats does not clear the flag before the committed cursor advances. -/
def Remembers (req : SubscribeRequest) (l : RawLabel) (σ : RawLoop) : Prop :=
  ∀ result ∈ treated l σ, σ.mark.Forgets result.cursor.seq →
    Overtaken (σ.frames req) (req.committed σ.store.now)

instance (req : SubscribeRequest) (l : RawLabel) (σ : RawLoop) : Decidable (Remembers req l σ) :=
  inferInstanceAs (Decidable (∀ result ∈ treated l σ, σ.mark.Forgets result.cursor.seq →
    Overtaken (σ.frames req) (req.committed σ.store.now)))

/-- What a step keeps that does not forget. -/
theorem remembered_step {l : RawLabel} (hl : Remembers req l σ)
    (hstep : (rawLoop req heartbeatEvery).step l σ = some τ) (hσ : RawInv req σ)
    (h : Remembered σ.mark (σ.frames req) (req.committed σ.store.now)) :
    Remembered τ.mark (τ.frames req) (req.committed τ.store.now) := by
  cases l with
  | env op keeps =>
      cases hstep
      exact h.mono (Op.committed_le keeps hσ.reachable _ _)
  | loop now =>
      cases rawLoop_cases hstep with
      | env keeps => exact h.mono (Op.committed_le keeps hσ.reachable _ _)
      | call hpc =>
          rw [(hσ.catchingUp _ hpc).call.1]
          exact h
      | @treat now' result hpc =>
          obtain ⟨hstore, -⟩ := σ.treat_frame req heartbeatEvery now' result
          obtain ⟨hmark, hframes⟩ := σ.treat_marks req heartbeatEvery now' result
          have htreated : treated (.loop now) σ = some result := by
            unfold treated
            rw [hpc]
          rw [hmark, hframes, hstore]
          exact h.step (f := σ.frameOf req result) rfl (hl result htreated) _ _ _
      | begin | leave => exact h
  | resume =>
      unfold rawLoop at hstep
      simp only at hstep
      split at hstep
      · cases hstep
        exact h
      · cases hstep
  | fail =>
      cases hstep
      exact h

/-- What every run of such steps keeps. -/
theorem remembered_run {s : Store} (hs : Reachable s) {now : Int} {ls : List RawLabel}
    (hrun : (rawLoop req heartbeatEvery).run ls (.start s now) = some σ)
    (hall : (rawLoop req heartbeatEvery).Always (Remembers req) ls (.start s now)) :
    Remembered σ.mark (σ.frames req) (req.committed σ.store.now) := by
  have hinv := Machine.run_invariant_of
    (I := fun σ : RawLoop => RawInv req σ ∧
      Remembered σ.mark (σ.frames req) (req.committed σ.store.now)) ?_ hall hrun
    ⟨rawInv_start req hs now, .fresh _⟩
  · exact hinv.2
  · rintro l σ τ hl hstep ⟨hσ, h⟩
    exact ⟨rawInv_step req heartbeatEvery l σ τ hstep hσ, remembered_step hl hstep hσ h⟩

/-- A step that forgets while the replay is too long repeats the announcement. -/
theorem repeats {now : Int} {result : CatchUpResult}
    (hstep : (rawLoop req heartbeatEvery).step (.loop now) σ = some τ)
    (htreated : treated (.loop now) σ = some result) (hlong : result.status = .tooLong)
    (hnot : ¬ Remembers req (.loop now) σ) : ¬ AnnouncesOnce (τ.frames req) := by
  simp only [Remembers, not_forall] at hnot
  obtain ⟨result', hresult, hforgets, hovertaken⟩ := hnot
  rw [htreated] at hresult
  cases hresult
  have hpc : σ.pc = .catchingUp (.ret (.ok result)) := by
    unfold treated at htreated
    split at htreated
    · rename_i hpc
      cases htreated
      exact hpc
    · cases htreated
  have hτ : τ = σ.treat req heartbeatEvery now result := by
    unfold rawLoop at hstep
    simp only [hpc] at hstep
    cases hstep
    rfl
  rw [hτ, (σ.treat_marks req heartbeatEvery now result).2, hlong,
    step_of_forgets hforgets]
  exact not_announcesOnce (f := σ.frameOf req result) hlong hovertaken

end RawLoop

/-! ## The gateway loop -/

/-- The entry is a response about the binding, or says that a key was dropped. -/
def LoopEvent.matters (target : SyncTarget) (b : StreamBinding) : LoopEvent → Bool
  | .response _ resp _ _ => decide (Concerns resp target b)
  | .dropped _ => true
  | .heartbeat _ => false

/-- The frames sent about a binding since the entries of its key were dropped last, newest first. -/
def framesFor (committed : Store → Nat) (target : SyncTarget) (b : StreamBinding)
    (log : List LoopEvent) : List Sent :=
  framesSince committed (keyOf target b) (log.filter (LoopEvent.matters target b))

/-- A response about a binding has its key. -/
theorem Concerns.key {resp : GatewaySubscribeResponse} {target : SyncTarget} {b : StreamBinding}
    (h : Concerns resp target b) : responseKey resp = keyOf target b := by
  obtain ⟨state, hstate, rfl⟩ := Option.map_eq_some_iff.mp h.2
  exact responseKey_eq hstate h.1

namespace Loop

variable {Actor : Type} {hooks : Hooks Actor} {actor : Actor} {req : GatewaySubscribeRequest}
  {subscriberID : SubscriberID} {U : Set SyncTarget} {heartbeatEvery : Int} {σ τ : Loop}
  {target : SyncTarget} {b : StreamBinding}

/-- The response that a step treats. -/
def treated (l : LoopLabel U) (σ : Loop) : Option GatewaySubscribeResponse :=
  match l, σ.pc with
  | .loop _, .responding (resp :: _) _ _ _ => some resp
  | _, _ => none

/-- A response that a step treats under the key of the binding does not clear the flag before the
committed cursor of the binding advances. -/
def Remembers (subscriberID : SubscriberID) (target : SyncTarget) (b : StreamBinding)
    (l : LoopLabel U) (σ : Loop) : Prop :=
  ∀ resp ∈ treated l σ, responseKey resp = keyOf target b → ∀ state ∈ resp.state,
    (σ.mark (keyOf target b)).Forgets (bindingCursorSeq state resp.bindingKey) →
    Overtaken (framesFor (committedOf subscriberID b) target b σ.log)
      (committedOf subscriberID b σ.store.now)

instance (subscriberID : SubscriberID) (target : SyncTarget) (b : StreamBinding)
    (l : LoopLabel U) (σ : Loop) : Decidable (Remembers subscriberID target b l σ) :=
  inferInstanceAs (Decidable (∀ resp ∈ treated l σ, responseKey resp = keyOf target b →
    ∀ state ∈ resp.state,
      (σ.mark (keyOf target b)).Forgets (bindingCursorSeq state resp.bindingKey) →
      Overtaken (framesFor (committedOf subscriberID b) target b σ.log)
        (committedOf subscriberID b σ.store.now)))

/-- A heartbeat is about no binding. -/
theorem framesFor_beat (σ : Loop) (heartbeatEvery now : Int) (committed : Store → Nat)
    (target : SyncTarget) (b : StreamBinding) :
    framesFor committed target b (σ.beat heartbeatEvery now).log =
      framesFor committed target b σ.log := by
  unfold beat
  split_ifs
  · rfl
  · rfl

/-- The beginning of the loop body drops keys, and sends nothing about a binding. -/
theorem framesFor_begin (σ : Loop) (hooks : Hooks Actor) (actor : Actor)
    (req : GatewaySubscribeRequest) (heartbeatEvery now : Int) (committed : Store → Nat)
    (target : SyncTarget) (b : StreamBinding) :
    framesFor committed target b (σ.begin hooks actor req heartbeatEvery now).log =
      framesSince committed (keyOf target b)
        (((σ.marks.keys.filter fun key => !keeps σ.sub.snapshot key).map .dropped) ++
          σ.log.filter (LoopEvent.matters target b)) := by
  have hpruned : framesFor committed target b (σ.pruneDeliveryState σ.sub.snapshot).log =
      framesSince committed (keyOf target b)
        (((σ.marks.keys.filter fun key => !keeps σ.sub.snapshot key).map .dropped) ++
          σ.log.filter (LoopEvent.matters target b)) := by
    unfold framesFor pruneDeliveryState
    rw [List.filter_append, List.filter_eq_self.mpr]
    intro event hevent
    obtain ⟨key, -, rfl⟩ := List.mem_map.mp hevent
    rfl
  rw [← hpruned]
  unfold begin
  simp only
  split_ifs
  · exact framesFor_beat _ _ _ _ _ _
  · rfl

/-- Neither does its end. -/
theorem framesFor_finish (σ : Loop) (heartbeatEvery now : Int) (sent hasMore throttled : Bool)
    (committed : Store → Nat) (target : SyncTarget) (b : StreamBinding) :
    framesFor committed target b (σ.finish heartbeatEvery now sent hasMore throttled).log =
      framesFor committed target b σ.log := by
  unfold finish
  simp only
  split_ifs
  all_goals first
    | rfl
    | exact framesFor_beat _ _ _ _ _ _

/-- The treatment of a response sends a frame about the binding if the response is about it. -/
theorem framesFor_respond (σ : Loop) (req : GatewaySubscribeRequest) (now : Int)
    (resp : GatewaySubscribeResponse) (rest : List GatewaySubscribeResponse)
    (sent hasMore throttled : Bool) (committed : Store → Nat) (target : SyncTarget)
    (b : StreamBinding) :
    framesFor committed target b (σ.respond req now resp rest sent hasMore throttled).log =
      if Concerns resp target b then
        record (σ.judge req resp).1 (σ.frameOf committed resp)
          (framesFor committed target b σ.log)
      else framesFor committed target b σ.log := by
  have hframe : LoopEvent.matters target b (.response (responseKey resp)
      { resp with serverTimeUnixMs := unixMS now } σ.store (σ.mark (responseKey resp))) =
        decide (Concerns resp target b) := rfl
  by_cases hconcerns : Concerns resp target b
  · rw [if_pos hconcerns]
    unfold respond framesFor
    rcases σ.judge req resp with ⟨outcome, m⟩
    cases outcome with
    | throttled | silent => rfl
    | announced | delivered =>
        simp only
        rw [List.filter_cons_of_pos (by simp [hframe, hconcerns]), framesSince,
          if_pos hconcerns.key]
        rfl
  · rw [if_neg hconcerns]
    unfold respond framesFor
    rcases σ.judge req resp with ⟨outcome, m⟩
    cases outcome with
    | throttled | silent => rfl
    | announced | delivered =>
        simp only
        rw [List.filter_cons_of_neg (by simp [hframe, hconcerns])]

variable (req) in
/-- What the treatment of a response under the key of the binding keeps. -/
theorem remembered_judge {resp : GatewaySubscribeResponse} {frames : List Sent}
    {committed : Store → Nat}
    (h : Remembered (σ.mark (responseKey resp)) frames (committed σ.store.now))
    (hforget : ∀ state, resp.state = some state →
      (σ.mark (responseKey resp)).Forgets (bindingCursorSeq state resp.bindingKey) →
      Overtaken frames (committed σ.store.now)) :
    Remembered (σ.judge req resp).2
      (record (σ.judge req resp).1 (σ.frameOf committed resp) frames)
      (committed σ.store.now) := by
  unfold judge
  cases hstate : resp.state with
  | none => exact h.settle (f := σ.frameOf committed resp) rfl _ _
  | some state =>
      exact h.step (f := σ.frameOf committed resp) rfl (hforget state hstate) _ _ _

/-- What a step keeps that does not forget. -/
theorem remembered_step {l : LoopLabel U} (hl : Remembers subscriberID target b l σ)
    (hstep : (gatewayLoop hooks actor req U heartbeatEvery).step l σ = some τ)
    (hσ : Expects (fun _ _ => True) σ)
    (h : Remembered (σ.mark (keyOf target b))
      (framesFor (committedOf subscriberID b) target b σ.log)
      (committedOf subscriberID b σ.store.now)) :
    Remembered (τ.mark (keyOf target b))
      (framesFor (committedOf subscriberID b) target b τ.log)
      (committedOf subscriberID b τ.store.now) := by
  have hkept := h.mono (hσ.committed_le hstep subscriberID b.streamID)
  cases l with
  | loop now =>
      cases gatewayLoop_cases hstep with
      | begin now' =>
          rw [framesFor_begin, begin_mark, ← mark_pruneDeliveryState]
          exact rel_dropped
            (A := fun m frames => Remembered m frames (committedOf subscriberID b _))
            (.fresh _) hkept _
      | @respond now' resp rest sent hasMore throttled hpc =>
          obtain ⟨hstore, -, -, hmark, -⟩ :=
            σ.respond_frame req now' resp rest sent hasMore throttled
          rw [framesFor_respond, hmark, hstore, Function.update_apply]
          by_cases hkey : responseKey resp = keyOf target b
          · have htreated : treated (.loop now : LoopLabel U) σ = some resp := by
              unfold treated
              rw [hpc]
            have hjudged := remembered_judge req (hkey ▸ h) fun state hstate hforget =>
              hl resp htreated hkey state hstate (hkey ▸ hforget)
            rw [if_pos hkey.symm]
            split_ifs
            · exact hjudged
            · exact hjudged.of_record
          · rw [if_neg (Ne.symm hkey), if_neg fun hconcerns => hkey hconcerns.key]
            exact h
      | finish now' sent hasMore throttled =>
          obtain ⟨hstore, -, hmarks⟩ := σ.finish_frame heartbeatEvery now' sent hasMore throttled
          rw [framesFor_finish, hstore]
          unfold mark
          rw [hmarks]
          exact h
      | env | modify | takeWake | call | polled | leave => exact hkept
  | env | modify | fail =>
      cases hstep
      exact hkept
  | takeWake =>
      unfold gatewayLoop at hstep
      simp only at hstep
      split_ifs at hstep
      cases hstep
      exact hkept
  | resume =>
      unfold gatewayLoop at hstep
      simp only at hstep
      split at hstep
      · cases hstep
        exact hkept
      · cases hstep
        exact hkept
      · cases hstep

/-- What every run of such steps keeps. -/
theorem remembered_run {s : Store} (hs : Reachable s) {now : Int} {ls : List (LoopLabel U)}
    (hrun : (gatewayLoop hooks actor req U heartbeatEvery).run ls (.start s req now) = some σ)
    (hall : (gatewayLoop hooks actor req U heartbeatEvery).Always
      (Remembers subscriberID target b) ls (.start s req now)) :
    Remembered (σ.mark (keyOf target b))
      (framesFor (committedOf subscriberID b) target b σ.log)
      (committedOf subscriberID b σ.store.now) := by
  have hinv := Machine.run_invariant_of
    (I := fun σ : Loop => Expects (fun _ _ => True) σ ∧ Remembered (σ.mark (keyOf target b))
      (framesFor (committedOf subscriberID b) target b σ.log)
      (committedOf subscriberID b σ.store.now)) ?_ hall hrun ?_
  · exact hinv.2
  · rintro l σ τ hl hstep ⟨hσ, h⟩
    refine ⟨Expects.step (fun hreach => ?_) (fun _ _ _ _ _ _ => trivial) hstep hσ,
      remembered_step hl hstep hσ h⟩
    exact ⟨gatewaySubscribePoll_only_reads hooks actor _, fun r τ hexec =>
      ⟨exec_reachable hexec hreach, fun _ _ _ _ => trivial⟩⟩
  · exact ⟨⟨hs, nofun, nofun⟩, .fresh _⟩

/-- A step that forgets while the replay of the binding is too long repeats the announcement. -/
theorem repeats {now : Int} {resp : GatewaySubscribeResponse}
    (hstep : (gatewayLoop hooks actor req U heartbeatEvery).step (.loop now) σ = some τ)
    (htreated : treated (.loop now : LoopLabel U) σ = some resp)
    (hconcerns : Concerns resp target b) (hlong : resp.status = .tooLong)
    (hnot : ¬ Remembers subscriberID target b (.loop now : LoopLabel U) σ) :
    ¬ AnnouncesOnce (framesFor (committedOf subscriberID b) target b τ.log) := by
  simp only [Remembers, not_forall] at hnot
  obtain ⟨resp', hresp, hkey, state, hstate, hforgets, hovertaken⟩ := hnot
  rw [htreated] at hresp
  cases hresp
  obtain ⟨rest, sent, hasMore, throttled, hpc⟩ : ∃ rest sent hasMore throttled,
      σ.pc = .responding (resp :: rest) sent hasMore throttled := by
    unfold treated at htreated
    split at htreated
    · rename_i hpc
      cases htreated
      exact ⟨_, _, _, _, hpc⟩
    · cases htreated
  have hτ : τ = σ.respond req now resp rest sent hasMore throttled := by
    unfold gatewayLoop at hstep
    simp only [hpc] at hstep
    cases hstep
    rfl
  have houtcome : (σ.judge req resp).1 = .announced := by
    unfold judge
    rw [hstate, hlong, hkey]
    exact step_of_forgets hforgets _ _ _
  rw [hτ, framesFor_respond, if_pos hconcerns, houtcome]
  exact not_announcesOnce (f := σ.frameOf (committedOf subscriberID b) resp) hlong hovertaken

end Loop

/-! ## When `TOO_LONG` is announced once -/

/-- **When `TOO_LONG` is announced once.** In every run of either loop no step of which clears a
remembered announcement before the committed cursor has advanced, that cursor advances between any
two announcements for a binding (since the entries of its key were dropped last). A step that clears
one so while it treats an answer `TOO_LONG` announces it again. -/
theorem too_long_announced_once {s : Store} (hs : Reachable s) (heartbeatEvery now : Int) :
    (∀ {Actor : Type} {hooks : Hooks Actor} {actor : Actor} {req : GatewaySubscribeRequest}
      {subscriberID : SubscriberID} {U : Set SyncTarget} {target : SyncTarget} {b : StreamBinding},
      (∀ {ls : List (LoopLabel U)} {σ : Loop},
        (gatewayLoop hooks actor req U heartbeatEvery).run ls (.start s req now) = some σ →
        (gatewayLoop hooks actor req U heartbeatEvery).Always
          (Loop.Remembers subscriberID target b) ls (.start s req now) →
        AnnouncesOnce (framesFor (committedOf subscriberID b) target b σ.log)) ∧
      (∀ {now' : Int} {resp : GatewaySubscribeResponse} {σ τ : Loop},
        (gatewayLoop hooks actor req U heartbeatEvery).step (.loop now') σ = some τ →
        Loop.treated (.loop now' : LoopLabel U) σ = some resp → Concerns resp target b →
        resp.status = .tooLong →
        ¬ Loop.Remembers subscriberID target b (.loop now' : LoopLabel U) σ →
        ¬ AnnouncesOnce (framesFor (committedOf subscriberID b) target b τ.log))) ∧
    (∀ {req : SubscribeRequest},
      (∀ {ls : List RawLabel} {σ : RawLoop},
        (rawLoop req heartbeatEvery).run ls (.start s now) = some σ →
        (rawLoop req heartbeatEvery).Always (RawLoop.Remembers req) ls (.start s now) →
        AnnouncesOnce (σ.frames req)) ∧
      (∀ {now' : Int} {result : CatchUpResult} {σ τ : RawLoop},
        (rawLoop req heartbeatEvery).step (.loop now') σ = some τ →
        RawLoop.treated (.loop now') σ = some result → result.status = .tooLong →
        ¬ RawLoop.Remembers req (.loop now') σ → ¬ AnnouncesOnce (τ.frames req))) := by
  refine ⟨fun {_ _ _ _ _ _ _ _} => ⟨?_, Loop.repeats⟩, fun {_} => ⟨?_, RawLoop.repeats⟩⟩
  · exact fun hrun hall => (Loop.remembered_run hs hrun hall).once
  · exact fun hrun hall => (RawLoop.remembered_run hs hrun hall).once

/-- The stream `s` when both its events were truncated. -/
def bothTruncated : Store := (Op.truncateBefore "s" 3).apply twoEvents

/-- The truncated stream is that of a reachable store. -/
theorem bothTruncated_reachable : Reachable bothTruncated := twoEvents_reachable.apply _

/-- The raw loop announces `TOO_LONG`, the subscriber recovers and acknowledges, two more events are
appended and truncated, and `TOO_LONG` is announced at the new cursor. -/
def rawRecovered : List RawLabel :=
  List.replicate 4 (.loop 0) ++
    [.env (.ack ⟨"device", "s", 2, ""⟩) trivial, .env (.append 0 { streamID := "s" }) trivial,
      .env (.append 0 { streamID := "s" }) trivial, .env (.truncateBefore "s" 5) trivial,
      .resume] ++
    List.replicate 4 (.loop 0)

/-- The same in the gateway loop. -/
def gatewayRecovered : List (LoopLabel {targetS}) :=
  List.replicate 8 (.loop 0) ++
    [.env (.ack ⟨"alice/device", "s", 2, ""⟩) trivial,
      .env (.append 0 { streamID := "s" }) trivial, .env (.append 0 { streamID := "s" }) trivial,
      .env (.truncateBefore "s" 5) trivial, .resume] ++
    List.replicate 8 (.loop 0)

/-- Two announcements, with an acknowledgement between them, in either loop. -/
theorem too_long_announced_once_recovered :
    (∃ σ, (gatewayLoop perActorHooks "alice" gatewayReq {targetS} 1000000).run gatewayRecovered
        (.start bothTruncated gatewayReq 0) = some σ ∧
      (framesFor (committedOf "alice/device" bindingS) targetS bindingS σ.log).map
        (fun f => (f.status, f.committed)) = [(.tooLong, 2), (.tooLong, 0)] ∧
      AnnouncesOnce (framesFor (committedOf "alice/device" bindingS) targetS bindingS σ.log)) ∧
    (∃ σ, (rawLoop deviceReq 1000000).run rawRecovered (.start bothTruncated 0) = some σ ∧
      (σ.frames deviceReq).map (fun f => (f.status, f.committed)) =
        [(.tooLong, 2), (.tooLong, 0)] ∧
      AnnouncesOnce (σ.frames deviceReq)) := by
  have honce := @too_long_announced_once bothTruncated bothTruncated_reachable 1000000 0
  constructor
  · obtain ⟨σ, hrun, hframes⟩ : ∃ σ,
        (gatewayLoop perActorHooks "alice" gatewayReq {targetS} 1000000).run gatewayRecovered
          (.start bothTruncated gatewayReq 0) = some σ ∧
        (framesFor (committedOf "alice/device" bindingS) targetS bindingS σ.log).map
          (fun f => (f.status, f.committed)) = [(.tooLong, 2), (.tooLong, 0)] := ⟨_, rfl, rfl⟩
    exact ⟨σ, hrun, hframes, honce.1.1 hrun (by decide)⟩
  · obtain ⟨σ, hrun, hframes⟩ : ∃ σ,
        (rawLoop deviceReq 1000000).run rawRecovered (.start bothTruncated 0) = some σ ∧
        (σ.frames deviceReq).map (fun f => (f.status, f.committed)) =
          [(.tooLong, 2), (.tooLong, 0)] := ⟨_, rfl, rfl⟩
    exact ⟨σ, hrun, hframes, honce.2.1 hrun (by decide)⟩

/-- In each of two rounds of either loop in which nothing else happens, a subscriber who has
acknowledged nothing of a truncated stream is sent `TOO_LONG`. -/
theorem announced_again :
    Reachable bothTruncated ∧
    (∃ σ, (gatewayLoop perActorHooks "alice" gatewayReq {targetS} 1000000).run
        (List.replicate 8 (.loop 0) ++ [.resume] ++ List.replicate 8 (.loop 0))
        (.start bothTruncated gatewayReq 0) = some σ ∧
      ¬ AnnouncesOnce (framesFor (committedOf "alice/device" bindingS) targetS bindingS σ.log)) ∧
    (∃ σ, (rawLoop deviceReq 1000000).run
        (List.replicate 4 (.loop 0) ++ [.resume] ++ List.replicate 4 (.loop 0))
        (.start bothTruncated 0) = some σ ∧
      ¬ AnnouncesOnce (σ.frames deviceReq)) := by
  refine ⟨bothTruncated_reachable, ⟨_, rfl, ?_⟩, ⟨_, rfl, ?_⟩⟩
  · decide
  · decide

end Synclog.Transport
