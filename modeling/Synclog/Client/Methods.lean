import Synclog.Client.System
import Synclog.Lib.Contract

/-!
# Methods under a contract

Both flows of the client, `catchUp` and `subscribe`, do their work through two methods: a batch is
handed to `applyBatch`, and `TOO_LONG` leads to `recoverFromSnapshot`. Whatever a contract demands
of the calls, a flow meets it when these two do (`Serves.program`); `B` is what is known of a batch
from the time on at which it was answered.
-/

namespace Synclog.Client

open Synclog.Lib Synclog.Core Synclog.Gateway
open Relation (ReflTransGen)
open Prog (Meets Then meets_bindE meets_performE meets_performE_bind meets_lift_perform_bind
  meets_lift_bind meets_ofExcept_bind)

universe u

section Methods

variable {TSnapshot TEvent : Type} {σ : Type u}

/-- The contract allows the calls that only ask, says of every batch that is answered that `B` holds
of it and goes on holding, and is met by the two methods that do something. -/
structure Serves (C : Contract (ClientCall TSnapshot TEvent) σ) (R : σ → σ → Prop)
    (opts : SyncClientOptions) (binding : SyncBinding TSnapshot TEvent)
    (B : GatewayBatch → σ → Prop) : Prop where
  mono : ∀ batch s t, R s t → B batch s → B batch t
  catchUp : ∀ s, C.pre _ (.catchUp (catchUpRequest opts binding)) s
  results : ∀ req s results t, C.post _ (.catchUp req) s (.ok results) t →
    ∀ result ∈ results, ∀ batch, result.batch = some batch → B batch t
  subscribe : ∀ s, C.pre _ (.subscribe (subscribeRequest opts binding)) s
  next : ∀ s, C.pre _ .next s
  frame : ∀ s resp t, C.post _ .next s (.ok (some resp)) t →
    ∀ batch, resp.batch = some batch → B batch t
  aborted : ∀ s, C.pre _ .aborted s
  goesOn : ∀ s aborted t, C.post _ .aborted s aborted t → ∀ batch, B batch s → B batch t
  applyBatch : ∀ batch s, B batch s →
    Meets C R (fun _ _ => True) (applyBatch opts binding batch).run s
  recoverFromSnapshot : ∀ s,
    Meets C R (fun _ _ => True) (recoverFromSnapshot opts binding).run s

/-- Every call of the method is made as the contract demands, from any state. -/
def MeetsAll {α : Type} (C : Contract (ClientCall TSnapshot TEvent) σ) (R : σ → σ → Prop)
    (p : ClientProg TSnapshot TEvent α) : Prop := ∀ s, Meets C R (fun _ _ => True) p.run s

variable {C : Contract (ClientCall TSnapshot TEvent) σ} {R : σ → σ → Prop}

/-! ## Methods in sequence -/

namespace MeetsAll

variable {α β : Type}

/-- One method after the other. -/
theorem bind {x : ClientProg TSnapshot TEvent α} {f : α → ClientProg TSnapshot TEvent β}
    (hx : MeetsAll C R x) (hf : ∀ a, MeetsAll C R (f a)) : MeetsAll C R (x >>= f) := by
  intro s
  refine meets_bindE.mpr ((hx s).imp ?_)
  rintro (err | a) t _
  · trivial
  · exact hf a t

/-- A method whose errors are caught, and what comes after it. -/
theorem lift_bind {x : ClientProg TSnapshot TEvent α}
    {f : Except JsError α → ClientProg TSnapshot TEvent β} (hx : MeetsAll C R x)
    (hf : ∀ r, MeetsAll C R (f r)) : MeetsAll C R (ExceptT.lift x.run >>= f) := by
  intro s
  refine meets_lift_bind.mpr ((hx s).imp ?_)
  exact fun r t _ => hf r t

/-- A program that returns makes no call. -/
theorem pure (a : α) : MeetsAll C R (Pure.pure a : ClientProg TSnapshot TEvent α) :=
  fun _ => trivial

/-- A program that throws makes no call. -/
theorem throw (err : JsError) : MeetsAll C R (throw err : ClientProg TSnapshot TEvent α) :=
  fun _ => trivial

end MeetsAll

/-- The result that is selected is one of those that were answered. -/
theorem selectResult_mem {results : List GatewayCatchUpResult} {bindingKey : Option String}
    {result : GatewayCatchUpResult} (h : selectResult results bindingKey = .ok (some result)) :
    result ∈ results := by
  unfold selectResult at h
  split at h
  · exact List.mem_of_find?_eq_some (Except.ok.inj h)
  · split_ifs at h
    exact List.mem_of_head? (Except.ok.inj h)

/-! ## The flows -/

namespace Serves

variable {opts : SyncClientOptions} {binding : SyncBinding TSnapshot TEvent}
  {B : GatewayBatch → σ → Prop}

/-- What is right of a batch stays so while the surroundings go on. -/
theorem mono_steps (h : Serves C R opts binding B) {batch : GatewayBatch} {s t : σ}
    (hsteps : ReflTransGen R s t) (hs : B batch s) : B batch t := by
  induction hsteps with
  | refl => exact hs
  | tail _ hstep ih => exact h.mono batch _ _ hstep ih

/-- Asking whether the caller has aborted is always allowed. -/
theorem signalAborted (h : Serves C R opts binding B) : MeetsAll C R signalAborted :=
  fun _ t _ => ⟨h.aborted t, fun _ _ _ => trivial⟩

/-- The loop of `catchUp` makes the calls that are allowed. -/
theorem catchUpLoop (h : Serves C R opts binding B) (rounds : Nat) (summary : SyncCatchUpSummary) :
    MeetsAll C R (catchUpLoop opts binding rounds summary) := by
  induction rounds generalizing summary with
  | zero => exact .throw _
  | succ rounds ih =>
      intro s
      unfold Client.catchUpLoop
      refine meets_performE_bind.mpr ?_
      intro s₁ _
      refine ⟨h.catchUp s₁, ?_⟩
      rintro (err | results) s₂ hanswer
      · trivial
      have hresults := h.results _ _ _ _ hanswer
      refine meets_ofExcept_bind.mpr ?_
      rcases hselect : selectResult results binding.bindingKey with err | (_ | result)
      · trivial
      · trivial
      have hresult := hresults result (selectResult_mem hselect)
      show Meets C R (fun _ _ => True) _ s₂
      simp only
      split_ifs
      · exact MeetsAll.bind h.recoverFromSnapshot (fun _ => ih _) s₂
      · trivial
      · split
        · trivial
        · rename_i batch hbatch
          split
          · trivial
          refine meets_bindE.mpr ((h.applyBatch batch s₂ (hresult batch hbatch)).imp ?_)
          rintro (err | ⟨count, seq⟩) s₃ -
          · trivial
          show Meets C R (fun _ _ => True) _ s₃
          simp only
          split_ifs
          · trivial
          · exact ih _ s₃

/-- A frame is handled. -/
theorem handleSubscribeResponse (h : Serves C R opts binding B) (rounds : Nat) {s : σ}
    {resp : GatewaySubscribeResponse} (hresp : ∀ batch, resp.batch = some batch → B batch s) :
    Meets C R (fun _ _ => True) (handleSubscribeResponse opts binding rounds resp).run s := by
  unfold Client.handleSubscribeResponse
  split_ifs
  · trivial
  · trivial
  · refine MeetsAll.bind h.recoverFromSnapshot (fun _ => ?_) s
    exact (h.catchUpLoop rounds {}).bind fun _ => .pure ()
  · trivial
  · split
    · trivial
    · rename_i batch hbatch
      split_ifs
      · trivial
      refine meets_bindE.mpr ((h.applyBatch batch s (hresp batch hbatch)).imp ?_)
      rintro (err | summary) t -
      · trivial
      · trivial

/-- The loop over a stream makes the calls that are allowed. -/
theorem streamLoop (h : Serves C R opts binding B) (rounds : Nat) :
    MeetsAll C R (streamLoop opts binding rounds) := by
  induction rounds with
  | zero => exact .throw _
  | succ rounds ih =>
      refine h.signalAborted.bind ?_
      rintro (_ | _)
      · intro s
        refine meets_performE_bind.mpr ?_
        intro s₁ _
        refine ⟨h.next s₁, ?_⟩
        rintro (err | (_ | resp)) s₂ hanswer
        · trivial
        · trivial
        refine meets_lift_perform_bind.mpr ?_
        intro s₃ hsteps
        refine ⟨h.aborted s₃, ?_⟩
        rintro (_ | _) s₄ hgoes
        · have hresp : ∀ batch, resp.batch = some batch → B batch s₄ := by
            intro batch hbatch
            exact h.goesOn _ _ _ hgoes batch
              (h.mono_steps hsteps (h.frame _ _ _ hanswer batch hbatch))
          refine meets_bindE.mpr ((h.handleSubscribeResponse rounds hresp).imp ?_)
          rintro (err | ⟨⟩) s₅ -
          · trivial
          · exact ih s₅
        · trivial
      · exact .pure ()

/-- One subscription makes the calls that are allowed. -/
theorem runSubscription (h : Serves C R opts binding B) (rounds : Nat) :
    MeetsAll C R (runSubscription opts binding rounds) := by
  refine (h.catchUpLoop rounds {}).bind fun _ => ?_
  intro s
  refine meets_lift_perform_bind.mpr ?_
  intro s₁ _
  exact ⟨h.subscribe s₁, fun ⟨⟩ s₂ _ => h.streamLoop rounds s₂⟩

/-- The loop over the subscriptions makes the calls that are allowed. -/
theorem subscribeLoop (h : Serves C R opts binding B) (rounds : Nat) :
    MeetsAll C R (subscribeLoop opts binding rounds) := by
  induction rounds with
  | zero => exact .throw _
  | succ rounds ih =>
      refine h.signalAborted.bind ?_
      rintro (_ | _)
      · refine (h.runSubscription rounds).lift_bind ?_
        rintro (err | ⟨⟩)
        · cases err with
          | outOfRounds => exact .throw _
          | thrown message | rejected message =>
              refine h.signalAborted.bind ?_
              rintro (_ | _)
              · exact ih
              · exact .pure ()
        · exact .pure ()
      · exact .pure ()

/-- Both flows meet the contract. -/
theorem program (h : Serves C R opts binding B) (flow : Flow) (s : σ) :
    Meets C R (fun _ _ => True) (flow.program opts binding) s := by
  cases flow with
  | catchUp rounds => exact (h.catchUpLoop rounds {}).bind (fun _ => .pure ()) s
  | subscribe rounds => exact h.subscribeLoop rounds s

end Serves

end Methods

end Synclog.Client
