import Synclog.Gateway.Parts
import Synclog.Transport.Guarantees

/-!
# The targets of a stream do not interfere

One `GatewaySubscribe` stream carries any number of targets: they are polled one after the other,
and a round over all of them decides whether the loop waits. A stream over some of the targets can
do for them exactly what the stream over all does (`part_of_stream`), whatever the other targets
are, whichever are added and removed meanwhile, and whatever else happens to the store.

* `PartPc`, `Part` — the relation of the two streams. Where no target of the part is there, its
  stream waits while the other one polls and responds.
* `Part.begin`, `Part.respond`, `Part.pass`, `Part.finish` — the pieces of an iteration keep it.
* `part_loop`, `part_step` — each step of the stream is some steps of the one of the part.
-/

namespace Synclog.Transport

open Synclog.Lib Synclog.Core Synclog.Memory Synclog.Gateway

/-! ## The simulation -/

/-- The loop waits, or is about to begin an iteration. -/
def LoopPc.Idle : LoopPc → Prop
  | .top | .sleeping | .watching => True
  | .polling _ | .responding .. | .ended => False

/-- The frame is a response about one of the targets. -/
def LoopEvent.about (mine : SyncTarget → Bool) : LoopEvent → Bool
  | .response _ resp _ _ => About mine resp
  | .heartbeat _ | .dropped _ => false

/-- Where the stream stands, and where the one of the part does: it polls its targets meanwhile, or
waits, because there are none. -/
inductive PartPc (mine : SyncTarget → Bool) (U : Set SyncTarget) : LoopPc → LoopPc → Prop
  | idle {pc pc' : LoopPc} (h : pc.Idle) (h' : pc'.Idle) : PartPc mine U pc pc'
  | polling {targets : List SyncTarget} (htargets : ∀ t ∈ targets, t ∈ U)
      {p q : Prog StoreCall (Except GoError (List GatewaySubscribeResponse))}
      (h : p.Includes StoreCall.IsRead (Prog.Granted (PartOfPoll mine targets)) q) :
      PartPc mine U (.polling p) (.polling q)
  | waiting {targets : List SyncTarget} (htargets : ∀ t ∈ targets, t ∈ U)
      {p : Prog StoreCall (Except GoError (List GatewaySubscribeResponse))} {pc : LoopPc}
      (hidle : pc.Idle)
      (h : p.Includes StoreCall.IsRead (Prog.Granted (PartOfPoll mine targets)) (.ret (.ok []))) :
      PartPc mine U (.polling p) pc
  | responding {rest : List GatewaySubscribeResponse}
      (hstated : ∀ resp ∈ rest, ∃ state, resp.state = some state ∧ state.target ∈ U)
      (sent hasMore throttled sent' hasMore' throttled' : Bool) :
      PartPc mine U (.responding rest sent hasMore throttled)
        (.responding (rest.filter (About mine)) sent' hasMore' throttled')
  | passing {rest : List GatewaySubscribeResponse}
      (hstated : ∀ resp ∈ rest, ∃ state, resp.state = some state ∧ state.target ∈ U)
      (sent hasMore throttled : Bool) {pc : LoopPc} (hidle : pc.Idle)
      (hnone : rest.filter (About mine) = []) :
      PartPc mine U (.responding rest sent hasMore throttled) pc
  | ended : PartPc mine U .ended .ended

/-- The state of a stream, and the one of a stream of a part of its targets. -/
structure Part (mine : SyncTarget → Bool) (U : Set SyncTarget) (σ τ : Loop) : Prop where
  store : τ.store = σ.store
  targets : τ.sub.targets = σ.sub.targets.only mine
  wake : τ.sub.wake = σ.sub.wake
  held : Held U σ.sub.targets
  marks : ∀ t ∈ U, mine t = true → ∀ b,
    τ.mark (targetBindingKey t b) = σ.mark (targetBindingKey t b)
  sent : τ.log.filter LoopEvent.isResponse = σ.log.filter (LoopEvent.about mine)
  pc : PartPc mine U σ.pc τ.pc

/-- What is about a target is a response. -/
theorem about_of_responses {log log' : List LoopEvent}
    (h : log'.filter LoopEvent.isResponse = log.filter LoopEvent.isResponse)
    (mine : SyncTarget → Bool) :
    log'.filter (LoopEvent.about mine) = log.filter (LoopEvent.about mine) := by
  have hresponse : ∀ log : List LoopEvent, log.filter (LoopEvent.about mine) =
      (log.filter LoopEvent.isResponse).filter (LoopEvent.about mine) := by
    intro log
    rw [List.filter_filter]
    refine List.filter_congr fun e _ => ?_
    cases e <;> simp [LoopEvent.about, LoopEvent.isResponse]
  rw [hresponse log', hresponse log, h]

namespace Loop

/-- The loop sleeps where it sees no targets, else a poll of those that it sees begins. -/
theorem begin_pc_eq {Actor : Type} (σ : Loop) (hooks : Hooks Actor) (actor : Actor)
    (req : GatewaySubscribeRequest) (heartbeatEvery now : Int) :
    (σ.begin hooks actor req heartbeatEvery now).pc =
      if σ.sub.snapshot = [] then .sleeping
      else .polling
        (gatewaySubscribePoll hooks actor { req with targets := σ.sub.snapshot }).run := by
  unfold begin
  simp only [List.length_eq_zero_iff]
  split_ifs
  · rfl
  · rfl

/-- The response is sent, or not. -/
theorem respond_log (σ : Loop) (req : GatewaySubscribeRequest) (now : Int)
    (resp : GatewaySubscribeResponse) (rest : List GatewaySubscribeResponse)
    (sent hasMore throttled : Bool) :
    (σ.respond req now resp rest sent hasMore throttled).log =
      match (σ.judge req resp).1 with
      | .throttled | .silent => σ.log
      | .announced | .delivered =>
        .response (responseKey resp) { resp with serverTimeUnixMs := unixMS now } σ.store
          (σ.mark (responseKey resp)) :: σ.log := by
  unfold respond
  rcases σ.judge req resp with ⟨outcome, m⟩
  cases outcome <;> rfl

/-- Behind an iteration the loop is between two polls. -/
theorem finish_idle (σ : Loop) (heartbeatEvery now : Int) (sent hasMore throttled : Bool) :
    (σ.finish heartbeatEvery now sent hasMore throttled).pc.Idle := by
  unfold finish
  simp only
  split_ifs <;> trivial

end Loop

section Simulation

variable {Actor : Type} {hooks : Hooks Actor} {actor : Actor} {req : GatewaySubscribeRequest}
  {U : Set SyncTarget} {mine : SyncTarget → Bool} {heartbeatEvery : Int} {σ τ : Loop}

namespace Part

/-- The part's targets are those of the whole that belong to it. -/
theorem snapshot (h : Part mine U σ τ) : τ.sub.snapshot = σ.sub.snapshot.filter mine := by
  unfold LiveSub.snapshot
  rw [h.targets, FinMap.values_only]

/-- The targets of the whole are among those in question. -/
theorem snapshot_mem (h : Part mine U σ τ) : ∀ t ∈ σ.sub.snapshot, t ∈ U := by
  intro t ht
  obtain ⟨key, hlookup⟩ := FinMap.mem_values_iff.mp ht
  exact (h.held key t hlookup).2

/-- A key of the part survives in the one stream when it does in the other. -/
theorem keeps (hapart : Separate U mine) (h : Part mine U σ τ) {t : SyncTarget} (ht : t ∈ U)
    (hmine : mine t = true) (b : String) :
    Loop.keeps τ.sub.snapshot (targetBindingKey t b) =
      Loop.keeps σ.sub.snapshot (targetBindingKey t b) := by
  rw [Bool.eq_iff_iff, keeps_iff, keeps_iff, h.snapshot]
  constructor
  · rintro ⟨t', ht', b', heq⟩
    exact ⟨t', List.mem_of_mem_filter ht', b', heq⟩
  · rintro ⟨t', ht', b', heq⟩
    have hmine' : mine t' = true := by
      refine Classical.byContradiction fun hother => ?_
      exact hapart t ht t' (h.snapshot_mem t' ht') hmine hother b b' heq
    exact ⟨t', List.mem_filter.mpr ⟨ht', hmine'⟩, b', heq⟩

/-- Both streams begin an iteration. -/
theorem begin (hapart : Separate U mine) (h : Part mine U σ τ) (now : Int) :
    Part mine U (σ.begin hooks actor req heartbeatEvery now)
      (τ.begin hooks actor req heartbeatEvery now) := by
  obtain ⟨hstore, hsub⟩ := σ.begin_frame hooks actor req heartbeatEvery now
  obtain ⟨hstore', hsub'⟩ := τ.begin_frame hooks actor req heartbeatEvery now
  constructor
  case store => rw [hstore, hstore', h.store]
  case targets => rw [hsub, hsub', h.targets]
  case wake => rw [hsub, hsub', h.wake]
  case held => exact hsub ▸ h.held
  case marks =>
    intro t ht hmine b
    rw [Loop.begin_mark, Loop.begin_mark, h.keeps hapart ht hmine, h.marks t ht hmine]
  case sent =>
    rw [Loop.begin_responses, h.sent]
    exact (about_of_responses (Loop.begin_responses _ _ _ _ _ _) mine).symm
  case pc =>
    rw [Loop.begin_pc_eq, Loop.begin_pc_eq, h.snapshot]
    by_cases hempty : σ.sub.snapshot = []
    · rw [if_pos hempty, hempty, List.filter_nil, if_pos rfl]
      exact .idle trivial trivial
    · rw [if_neg hempty]
      by_cases hnone : σ.sub.snapshot.filter mine = []
      · rw [if_pos hnone]
        exact .waiting h.snapshot_mem trivial (poll_of_others
          { req with targets := σ.sub.snapshot } hnone)
      · rw [if_neg hnone]
        exact .polling h.snapshot_mem (poll_includes { req with targets := σ.sub.snapshot } hnone)

/-- The marks after a response about another target. -/
theorem marks_of_other (hapart : Separate U mine) (h : Part mine U σ τ)
    {resp : GatewaySubscribeResponse} {state : TargetState} (hstate : resp.state = some state)
    (hU : state.target ∈ U) (hother : mine state.target ≠ true) (m : Mark) {t : SyncTarget}
    (ht : t ∈ U) (hmine : mine t = true) (b : String) :
    τ.mark (targetBindingKey t b) =
      Function.update σ.mark (responseKey resp) m (targetBindingKey t b) := by
  have hkey : responseKey resp = targetBindingKey state.target resp.bindingKey := by
    unfold responseKey
    simp only [hstate]
  rw [hkey, Function.update_of_ne (hapart t ht _ hU hmine hother _ _), h.marks t ht hmine]

/-- A response about a target of the part is treated in both streams. -/
theorem respond (h : Part mine U σ τ) (now : Int)
    {resp : GatewaySubscribeResponse} {rest : List GatewaySubscribeResponse}
    (hstated : ∀ resp' ∈ resp :: rest, ∃ state, resp'.state = some state ∧ state.target ∈ U)
    (habout : About mine resp = true) (sent hasMore throttled sent' hasMore' throttled' : Bool) :
    Part mine U (σ.respond req now resp rest sent hasMore throttled)
      (τ.respond req now resp (rest.filter (About mine)) sent' hasMore' throttled') := by
  obtain ⟨hstore, hsub, -, hmark, s₁, m₁, t₁, hpc⟩ :=
    σ.respond_frame req now resp rest sent hasMore throttled
  obtain ⟨hstore', hsub', -, hmark', s₂, m₂, t₂, hpc'⟩ :=
    τ.respond_frame req now resp (rest.filter (About mine)) sent' hasMore' throttled'
  obtain ⟨state, hstate, hU⟩ := hstated resp List.mem_cons_self
  have hmine : mine state.target = true := by simpa [About, hstate] using habout
  have hkey : responseKey resp = targetBindingKey state.target resp.bindingKey := by
    unfold responseKey
    simp only [hstate]
  have hsame : τ.mark (responseKey resp) = σ.mark (responseKey resp) :=
    hkey ▸ h.marks state.target hU hmine resp.bindingKey
  have hjudge : τ.judge req resp = σ.judge req resp := by
    unfold Loop.judge
    simp only [hsame]
  constructor
  case store => rw [hstore, hstore', h.store]
  case targets => rw [hsub, hsub', h.targets]
  case wake => rw [hsub, hsub', h.wake]
  case held => exact hsub ▸ h.held
  case marks =>
    intro t ht htmine b
    rw [hmark, hmark', hjudge, Function.update_apply, Function.update_apply,
      h.marks t ht htmine]
  case sent =>
    have hframe : LoopEvent.about mine (.response (responseKey resp)
        { resp with serverTimeUnixMs := unixMS now } σ.store (σ.mark (responseKey resp))) = true :=
      habout
    rw [Loop.respond_log, Loop.respond_log, hjudge, hsame, h.store]
    cases (σ.judge req resp).1 with
    | throttled | silent => exact h.sent
    | announced | delivered =>
        rw [List.filter_cons_of_pos rfl, List.filter_cons_of_pos hframe, h.sent]
  case pc =>
    rw [hpc, hpc']
    exact .responding (fun resp' hmem => hstated resp' (List.mem_cons_of_mem _ hmem)) _ _ _ _ _ _

/-- A response about another target is treated in the one stream only. -/
theorem pass (hapart : Separate U mine) (h : Part mine U σ τ) (now : Int)
    {resp : GatewaySubscribeResponse} {rest : List GatewaySubscribeResponse}
    (hstated : ∀ resp' ∈ resp :: rest, ∃ state, resp'.state = some state ∧ state.target ∈ U)
    (habout : About mine resp ≠ true) {sent hasMore throttled : Bool}
    (hpc : ∀ sent hasMore throttled,
      PartPc mine U (.responding rest sent hasMore throttled) τ.pc) :
    Part mine U (σ.respond req now resp rest sent hasMore throttled) τ := by
  obtain ⟨hstore, hsub, -, hmark, s₁, m₁, t₁, hnext⟩ :=
    σ.respond_frame req now resp rest sent hasMore throttled
  obtain ⟨state, hstate, hU⟩ := hstated resp List.mem_cons_self
  have hother : mine state.target ≠ true := by simpa [About, hstate] using habout
  constructor
  case store => rw [hstore, h.store]
  case targets => rw [hsub, h.targets]
  case wake => rw [hsub, h.wake]
  case held => exact hsub ▸ h.held
  case marks =>
    intro t ht hmine b
    rw [hmark]
    exact h.marks_of_other hapart hstate hU hother _ ht hmine b
  case sent =>
    have hframe : ¬ LoopEvent.about mine (.response (responseKey resp)
        { resp with serverTimeUnixMs := unixMS now } σ.store (σ.mark (responseKey resp))) = true :=
      habout
    rw [Loop.respond_log, h.sent]
    cases (σ.judge req resp).1 with
    | throttled | silent => rfl
    | announced | delivered => exact (List.filter_cons_of_neg hframe).symm
  case pc =>
    rw [hnext]
    exact hpc _ _ _

/-- The one stream ends its iteration; the other one stands before its end, or waits. -/
theorem finish (h : Part mine U σ τ) (now : Int) (sent hasMore throttled : Bool)
    {τ' : Loop} (hstore : τ'.store = τ.store) (hsub : τ'.sub = τ.sub) (hmarks : τ'.marks = τ.marks)
    (hlog : τ'.log.filter LoopEvent.isResponse = τ.log.filter LoopEvent.isResponse)
    (hidle : τ'.pc.Idle) :
    Part mine U (σ.finish heartbeatEvery now sent hasMore throttled) τ' := by
  obtain ⟨hs, hb, hm⟩ := σ.finish_frame heartbeatEvery now sent hasMore throttled
  constructor
  case store => rw [hs, hstore, h.store]
  case targets => rw [hb, hsub, h.targets]
  case wake => rw [hb, hsub, h.wake]
  case held => exact hb ▸ h.held
  case marks =>
    intro t ht hmine b
    have hmine' := h.marks t ht hmine b
    unfold Loop.mark at hmine' ⊢
    rw [hm, hmarks, hmine']
  case sent =>
    rw [hlog, h.sent]
    exact (about_of_responses (Loop.finish_responses _ _ _ _ _ _) mine).symm
  case pc => exact .idle (Loop.finish_idle ..) hidle

end Part

variable (hooks actor req U mine heartbeatEvery) in
/-- The stream of the part of the targets. -/
abbrev partLoop : Machine Loop (LoopLabel {t | t ∈ U ∧ mine t = true}) :=
  gatewayLoop hooks actor req {t | t ∈ U ∧ mine t = true} heartbeatEvery

/-- A stream that waits can begin an iteration at any time. -/
theorem run_to_begin (hidle : τ.pc.Idle) (now : Int) :
    ∃ ls, (partLoop hooks actor req U mine heartbeatEvery).run ls τ =
      some (τ.begin hooks actor req heartbeatEvery now) := by
  have hbegin : ∀ ρ : Loop, ρ.pc = .top →
      (partLoop hooks actor req U mine heartbeatEvery).run [.loop now] ρ =
        some (ρ.begin hooks actor req heartbeatEvery now) := by
    intro ρ hpc
    refine Machine.run_one ?_
    unfold partLoop gatewayLoop
    simp only [hpc]
  have hresume : ∀ ρ : Loop, ρ.pc = .sleeping ∨ ρ.pc = .watching →
      (partLoop hooks actor req U mine heartbeatEvery).run [.resume, .loop now] ρ =
        some (ρ.begin hooks actor req heartbeatEvery now) := by
    intro ρ hpc
    have hstep : (partLoop hooks actor req U mine heartbeatEvery).step .resume ρ =
        some { ρ with pc := .top } := by
      unfold partLoop gatewayLoop
      rcases hpc with hpc | hpc <;> simp only [hpc]
    have hsame : ({ ρ with pc := .top } : Loop).begin hooks actor req heartbeatEvery now =
        ρ.begin hooks actor req heartbeatEvery now := by
      unfold Loop.begin Loop.beat Loop.pruneDeliveryState
      simp only
      split_ifs <;> rfl
    rw [Machine.run_cons, hstep, Option.bind_some, hbegin _ rfl, hsame]
  cases hpc : τ.pc with
  | top => exact ⟨_, hbegin τ hpc⟩
  | sleeping => exact ⟨_, hresume τ (.inl hpc)⟩
  | watching => exact ⟨_, hresume τ (.inr hpc)⟩
  | polling | responding | ended =>
      rw [hpc] at hidle
      exact hidle.elim

/-- What the stream does in its next step, the stream of the part does in some steps. -/
theorem part_loop (hapart : Separate U mine) (now : Int) {σ' : Loop}
    (hstep : (gatewayLoop hooks actor req U heartbeatEvery).step (.loop now) σ = some σ')
    (h : Part mine U σ τ) :
    ∃ ls τ', (partLoop hooks actor req U mine heartbeatEvery).run ls τ = some τ' ∧
      Part mine U σ' τ' := by
  have hrel := h.pc
  unfold gatewayLoop at hstep
  generalize hσ : σ.pc = pc at hrel
  generalize hτ : τ.pc = pc' at hrel
  simp only [hσ] at hstep
  cases hrel with
  | idle hi hi' =>
      cases pc with
      | top =>
          cases hstep
          obtain ⟨ls, hrun⟩ := run_to_begin (hτ ▸ hi') now
          exact ⟨ls, _, hrun, h.begin hapart now⟩
      | sleeping | watching => cases hstep
      | polling | responding | ended => exact hi.elim
  | @polling targets htargets p q hincludes =>
      cases hincludes with
      | @done r q hgranted =>
          rcases r with err | responses
          · cases hstep
            refine ⟨[.fail], { τ with pc := .ended }, rfl, { h with pc := .ended }⟩
          · cases hstep
            obtain ⟨part, rfl, hstated, rfl⟩ := hgranted responses rfl
            refine ⟨[.loop now], { τ with
              pc := .responding (responses.filter (About mine)) false false false }, ?_, ?_⟩
            · refine Machine.run_one ?_
              unfold partLoop gatewayLoop
              simp only [hτ]
            · refine { h with pc := .responding (fun resp hresp => ?_) _ _ _ _ _ _ }
              obtain ⟨state, hstate, hmem⟩ := hstated resp hresp
              exact ⟨state, hstate, htargets _ hmem⟩
      | @skip β c k q hread hrest =>
          -- a read for another target
          cases hstep
          refine ⟨[], τ, rfl, { h with store := ?_, pc := ?_ }⟩
          · rw [pollHandler_isRead β c σ.store hread, h.store]
          · rw [hτ]
            exact .polling htargets (hrest _)
      | @both β c k k' hrest =>
          cases hstep
          refine ⟨[.loop now], { τ with
            store := (pollHandler β c σ.store).2
            pc := .polling (k' (pollHandler β c σ.store).1) }, ?_, ?_⟩
          · refine Machine.run_one ?_
            unfold partLoop gatewayLoop
            simp only [hτ, h.store]
          · exact { h with store := rfl, pc := .polling htargets (hrest _) }
  | @waiting targets htargets p pc hidle hincludes =>
      cases hincludes with
      | @done r q hgranted =>
          rcases r with err | responses
          · cases hstep
            exact ⟨[.fail], { τ with pc := .ended }, rfl, { h with pc := .ended }⟩
          · cases hstep
            obtain ⟨part, hret, hstated, hpart⟩ := hgranted responses rfl
            cases hret
            refine ⟨[], τ, rfl, { h with pc := ?_ }⟩
            rw [hτ]
            refine .passing (fun resp hresp => ?_) _ _ _ hidle hpart.symm
            obtain ⟨state, hstate, hmem⟩ := hstated resp hresp
            exact ⟨state, hstate, htargets _ hmem⟩
      | @skip β c k q hread hrest =>
          cases hstep
          refine ⟨[], τ, rfl, { h with store := ?_, pc := ?_ }⟩
          · rw [pollHandler_isRead β c σ.store hread, h.store]
          · rw [hτ]
            exact .waiting htargets hidle (hrest _)
  | @responding rest hstated sent hasMore throttled sent' hasMore' throttled' =>
      cases rest with
      | nil =>
          cases hstep
          refine ⟨[.loop now], τ.finish heartbeatEvery now sent' hasMore' throttled', ?_, ?_⟩
          · refine Machine.run_one ?_
            unfold partLoop gatewayLoop
            simp only [hτ, List.filter_nil]
          · obtain ⟨hstore, hsub, hmarks⟩ :=
              τ.finish_frame heartbeatEvery now sent' hasMore' throttled'
            exact h.finish now sent hasMore throttled hstore hsub hmarks
              (Loop.finish_responses ..) (Loop.finish_idle ..)
      | cons resp rest =>
          cases hstep
          by_cases habout : About mine resp = true
          · rw [List.filter_cons_of_pos habout] at hτ
            refine ⟨[.loop now], _, ?_, h.respond now hstated habout sent hasMore throttled
              sent' hasMore' throttled'⟩
            refine Machine.run_one ?_
            unfold partLoop gatewayLoop
            simp only [hτ]
          · rw [List.filter_cons_of_neg habout] at hτ
            refine ⟨[], τ, rfl, h.pass hapart now hstated habout fun s m t => ?_⟩
            rw [hτ]
            exact .responding (fun resp' hmem => hstated resp' (List.mem_cons_of_mem _ hmem)) ..
  | @passing rest hstated sent hasMore throttled pc hidle hnone =>
      cases rest with
      | nil =>
          cases hstep
          exact ⟨[], τ, rfl, h.finish now sent hasMore throttled rfl rfl rfl rfl (hτ ▸ hidle)⟩
      | cons resp rest =>
          cases hstep
          rw [List.filter_eq_nil_iff, List.forall_mem_cons] at hnone
          refine ⟨[], τ, rfl, h.pass hapart now hstated hnone.1 fun s m t => ?_⟩
          rw [hτ]
          exact .passing (fun resp' hmem => hstated resp' (List.mem_cons_of_mem _ hmem)) _ _ _ hidle
            (List.filter_eq_nil_iff.mpr hnone.2)
  | ended => cases hstep

/-- One step, of whatever kind. -/
theorem part_step (hapart : Separate U mine) (l : LoopLabel U) (σ σ' τ : Loop)
    (hstep : (gatewayLoop hooks actor req U heartbeatEvery).step l σ = some σ')
    (h : Part mine U σ τ) :
    ∃ ls τ', (partLoop hooks actor req U mine heartbeatEvery).run ls τ = some τ' ∧
      Part mine U σ' τ' := by
  cases l with
  | env op keeps =>
      cases hstep
      refine ⟨[.env op keeps], { τ with store := τ.store.push (op.apply τ.store.now) }, rfl,
        { h with store := ?_ }⟩
      rw [h.store]
  | modify add remove adds =>
      cases hstep
      have hadds : ∀ t ∈ add.filter mine, t ∈ {t | t ∈ U ∧ mine t = true} := by
        intro t ht
        obtain ⟨hmem, hmine⟩ := List.mem_filter.mp ht
        exact ⟨adds t hmem, hmine⟩
      have hheld := h.held.removeTargets remove
      refine ⟨[.modify (add.filter mine) remove hadds],
        { τ with sub := τ.sub.apply (add.filter mine) remove }, rfl,
        { h with targets := ?_, wake := rfl, held := hheld.addTargets adds }⟩
      show LiveSub.addTargets (LiveSub.removeTargets τ.sub.targets remove) _ = _
      rw [h.targets, ← only_removeTargets, ← only_addTargets hapart hheld adds]
      rfl
  | takeWake =>
      unfold gatewayLoop at hstep
      simp only at hstep
      split_ifs at hstep with hwake
      cases hstep
      refine ⟨[.takeWake], { τ with sub := { τ.sub with wake := false } }, ?_,
        { h with wake := rfl }⟩
      refine Machine.run_one ?_
      unfold partLoop gatewayLoop
      simp only [h.wake, hwake, if_true]
  | loop now => exact part_loop hapart now hstep h
  | resume =>
      have hrel := h.pc
      unfold gatewayLoop at hstep
      simp only at hstep
      split at hstep
      all_goals
        rename_i hpc
        cases hstep
      all_goals
        rw [hpc] at hrel
        cases hrel with
        | idle _ hidle => exact ⟨[], τ, rfl, { h with pc := .idle trivial hidle }⟩
  | fail =>
      cases hstep
      exact ⟨[.fail], { τ with pc := .ended }, rfl, { h with pc := .ended }⟩

/-- Both loops start alike. -/
theorem part_start (hapart : Separate U mine) (htargets : ∀ t ∈ req.targets, t ∈ U) (s : Store)
    (now : Int) :
    Part mine U (.start s req now) (.start s { req with targets := req.targets.filter mine } now) :=
  have hheld : Held U ∅ := by
    intro key t hlookup
    cases hlookup
  { store := rfl
    targets := (only_addTargets hapart hheld htargets).symm
    wake := rfl
    held := hheld.addTargets htargets
    marks := fun _ _ _ _ => rfl
    sent := rfl
    pc := .idle trivial trivial }

/-- **The targets of a stream do not interfere: whatever a stream does, a stream of a part of its
targets does for them. Beside the same operations of other parties, it goes through the same stores
and sends exactly the same responses about them, in the same order.** -/
theorem part_of_stream (hapart : Separate U mine) (htargets : ∀ t ∈ req.targets, t ∈ U)
    {s : Store} {now : Int} {ls : List (LoopLabel U)}
    (hrun : (gatewayLoop hooks actor req U heartbeatEvery).run ls (.start s req now) = some σ) :
    ∃ (ls' : List (LoopLabel {t | t ∈ U ∧ mine t = true})) (τ : Loop),
      (gatewayLoop hooks actor { req with targets := req.targets.filter mine } _
        heartbeatEvery).run ls' (.start s { req with targets := req.targets.filter mine } now) =
          some τ ∧
      τ.store = σ.store ∧ τ.sub.snapshot = σ.sub.snapshot.filter mine ∧
      τ.log.filter LoopEvent.isResponse = σ.log.filter (LoopEvent.about mine) ∧
      ∀ t ∈ U, mine t = true → ∀ b,
        τ.mark (targetBindingKey t b) = σ.mark (targetBindingKey t b) := by
  obtain ⟨ls', τ, hrun', hpart⟩ := Machine.run_simulated (part_step hapart) hrun
    (part_start hapart htargets s now)
  exact ⟨ls', τ, hrun', hpart.store, hpart.snapshot, hpart.sent, hpart.marks⟩

end Simulation

/-! ## A stream over two targets -/

/-- The target whose stream is `id`. -/
def targetOf (id : String) : SyncTarget where
  ns := "n"
  id := id

/-- A stream over the targets of `a` and `b`. -/
def bothReq : GatewaySubscribeRequest where
  subscriberId := "device"
  targets := [targetOf "a", targetOf "b"]

/-- Two iterations; an event is appended to `b` before the first one and before the second one. -/
def bothRounds : List (LoopLabel {targetOf "a", targetOf "b"}) :=
  let append (id : String) : LoopLabel {targetOf "a", targetOf "b"} :=
    .env (.append 0 { streamID := id }) trivial
  append "a" :: append "b" :: List.replicate 15 (.loop 0) ++ append "b" :: .resume ::
    List.replicate 15 (.loop 0)

/-- The part of the first target gets its responses, whatever happens to the second one. -/
theorem part_of_stream_both :
    ∃ σ ls' τ, (gatewayLoop perActorHooks "alice" bothReq {targetOf "a", targetOf "b"} 1000000).run
        bothRounds (.start newStore bothReq 0) = some σ ∧
      (σ.log.filter LoopEvent.isResponse).length = 3 ∧
      (gatewayLoop perActorHooks "alice" { bothReq with targets := [targetOf "a"] }
        {t | t ∈ ({targetOf "a", targetOf "b"} : Set SyncTarget) ∧ (t.id == "a") = true}
        1000000).run ls' (.start newStore { bothReq with targets := [targetOf "a"] } 0) = some τ ∧
      τ.log.filter LoopEvent.isResponse = σ.log.filter (LoopEvent.about fun t => t.id == "a") ∧
      (τ.log.filter LoopEvent.isResponse).length = 1 := by
  have hplain : ∀ t ∈ ({targetOf "a", targetOf "b"} : Set SyncTarget), t.Plain := by
    rintro t (rfl | rfl) <;> exact ⟨by decide, by decide, by decide⟩
  obtain ⟨σ, hrun, hsent, habout⟩ : ∃ σ,
      (gatewayLoop perActorHooks "alice" bothReq {targetOf "a", targetOf "b"} 1000000).run
        bothRounds (.start newStore bothReq 0) = some σ ∧
      (σ.log.filter LoopEvent.isResponse).length = 3 ∧
      (σ.log.filter (LoopEvent.about fun t => t.id == "a")).length = 1 := ⟨_, rfl, rfl, rfl⟩
  obtain ⟨ls', τ, hrun', -, -, hsame, -⟩ :=
    part_of_stream (separate_of_plain hplain fun t => t.id == "a") (by simp [bothReq]) hrun
  exact ⟨σ, ls', τ, hrun, hsent, hrun', hsame, hsame ▸ habout⟩

end Synclog.Transport
