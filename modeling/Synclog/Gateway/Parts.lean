import Synclog.Gateway.AddedTarget
import Synclog.Gateway.Keys
import Synclog.Gateway.Registry
import Synclog.Lib.Inclusion

/-!
# A part of the targets

A poll of some of the targets that another poll is about, and a stream over some of the targets of
another stream. Which ones these are, `mine` says.

* `poll_includes` — the poll of all targets makes the calls of the poll of the part, and reads for
  the other targets between them; the responses of the one about the part are those of the other.
* `Separate` — the keys of the part are no keys of other targets; `only_addTargets`,
  `only_removeTargets`: changes of a target set, seen at the part.
-/

namespace Synclog.Gateway

open Synclog.Lib Synclog.Core Synclog.Memory

/-! ## A poll of a part of the targets -/

section Poll

variable {Actor : Type} {hooks : Hooks Actor} {actor : Actor} {subscriberID : SubscriberID}
  {limit totalLimit : Int} {operation : Operation} {mine : SyncTarget → Bool}

/-- The response is about one of the targets that satisfy `mine`. -/
def About (mine : SyncTarget → Bool) (resp : GatewaySubscribeResponse) : Bool :=
  match resp.state with
  | some state => mine state.target
  | none => false

/-- The result carries the state of its target. -/
def Stated (result : GatewayCatchUpResult) : Prop :=
  ∃ state, result.state = some state ∧ state.target = result.target

/-- The results about a target carry the target and its state. -/
theorem catchUpBindings_ends (target : SyncTarget) {state : TargetState}
    (hstate : state.target = target) (bindings : List StreamBinding) :
    (catchUpBindings hooks actor subscriberID target state limit totalLimit operation
      bindings).run.Ends (fun _ _ _ => True) fun r => ∀ results, r = .ok results →
        ∀ result ∈ results, result.target = target ∧ Stated result := by
  induction bindings with
  | nil =>
      rintro _ ⟨⟩ result hresult
      cases hresult
  | cons b bindings ih =>
      refine Prog.Ends.bindE (R := fun _ => True) (Prog.ends_of_forall fun _ => trivial) ?_ nofun
      intro catchUp _
      refine Prog.Ends.ofExcept_bindE ?_ nofun
      intro batch _
      refine Prog.Ends.bindE ih ?_ nofun
      rintro results hresults _ ⟨⟩ result hmem
      rcases List.mem_cons.mp hmem with rfl | hmem
      · exact ⟨rfl, state, rfl, hstate⟩
      · exact hresults results rfl result hmem

/-- The results of a target are results for it, whatever the store answers. -/
theorem catchUpTarget_ends (target : SyncTarget) :
    (catchUpTarget hooks actor subscriberID limit totalLimit operation target).run.Ends
      (fun _ _ _ => True) fun r => ∀ results, r = .ok results →
        ∀ result ∈ results, result.target = target ∧ Stated result := by
  refine Prog.Ends.ofExcept_bindE ?_ nofun
  intro bindings _
  refine Prog.Ends.ofExcept_bindE ?_ nofun
  intro _ _
  refine Prog.Ends.bindE (R := fun r => ∀ state, r = .ok state → state.target = target) ?_ ?_ nofun
  · refine Prog.Ends.bindE (R := fun _ => True) (Prog.ends_of_forall fun _ => trivial) ?_ nofun
    rintro states _ _ ⟨⟩
    rfl
  · intro state hstate
    exact catchUpBindings_ends target (hstate state rfl) bindings

/-- The results for a part of the targets are a part of the results. -/
def PartOf (mine : SyncTarget → Bool) (targets : List SyncTarget)
    (results part : List GatewayCatchUpResult) : Prop :=
  (∀ result ∈ results, result.target ∈ targets ∧ Stated result) ∧
    part = results.filter fun result => mine result.target

/-- The catch-up of the targets makes the calls of the catch-up of some of them. -/
theorem catchUpTargets_includes (targets : List SyncTarget) :
    Prog.Includes StoreCall.IsRead (Prog.Granted (PartOf mine targets))
      (catchUpTargets hooks actor subscriberID limit totalLimit operation targets).run
      (catchUpTargets hooks actor subscriberID limit totalLimit operation
        (targets.filter mine)).run := by
  induction targets with
  | nil => exact .ok ⟨nofun, rfl⟩
  | cons target targets ih =>
      -- what the rest of the targets adds to the results of this one
      have hcons : ∀ {own ownPart rest part : List GatewayCatchUpResult},
          (∀ result ∈ own, result.target = target ∧ Stated result) →
          ownPart = (own.filter fun result => mine result.target) →
          PartOf mine targets rest part →
          PartOf mine (target :: targets) (own ++ rest) (ownPart ++ part) := by
        rintro own _ rest _ hown rfl ⟨hrest, rfl⟩
        refine ⟨?_, (List.filter_append ..).symm⟩
        intro result hmem
        rcases List.mem_append.mp hmem with hmem | hmem
        · exact ⟨(hown result hmem).1 ▸ List.mem_cons_self, (hown result hmem).2⟩
        · exact ⟨List.mem_cons_of_mem _ (hrest result hmem).1, (hrest result hmem).2⟩
      by_cases hmine : mine target = true
      · rw [List.filter_cons_of_pos hmine]
        refine .bindE (Q := fun results part => part = results ∧
          ∀ result ∈ results, result.target = target ∧ Stated result) ?_ ?_
        · refine (Prog.Includes.self (catchUpTarget_ends target)).imp ?_
          rintro r _ ⟨hr, rfl⟩ results rfl
          exact ⟨results, rfl, rfl, hr results rfl⟩
        · rintro results _ ⟨rfl, hresults⟩
          refine .bindE ih fun rest part hrest => .ok (hcons hresults ?_ hrest)
          refine (List.filter_eq_self.mpr fun result hmem => ?_).symm
          rw [(hresults result hmem).1]
          exact hmine
      · rw [List.filter_cons_of_neg hmine]
        refine .beforeE (catchUpTarget_only_reads hooks actor subscriberID limit totalLimit
          operation target) (catchUpTarget_ends target) ?_
        intro results hresults
        have hnone : results.filter (fun result => mine result.target) = [] := by
          refine List.filter_eq_nil_iff.mpr fun result hmem => ?_
          rw [(hresults result hmem).1]
          exact hmine
        refine .andThenE ih fun rest part hrest => .ok ?_
        exact hcons hresults hnone.symm hrest

/-- The catch-up of other targets has no result for these. -/
theorem catchUpTargets_of_others {γ : Type} {targets : List SyncTarget}
    (hnone : targets.filter mine = []) :
    Prog.Includes StoreCall.IsRead
      (Prog.Granted fun results (part : List γ) => part = [] ∧ PartOf mine targets results [])
      (catchUpTargets hooks actor subscriberID limit totalLimit operation targets).run
      (.ret (.ok [])) := by
  have hincludes : Prog.Includes StoreCall.IsRead (Prog.Granted (PartOf mine targets))
      (catchUpTargets hooks actor subscriberID limit totalLimit operation targets).run
      (catchUpTargets hooks actor subscriberID limit totalLimit operation
        (targets.filter mine)).run := catchUpTargets_includes targets
  rw [hnone] at hincludes
  refine hincludes.of_ret ?_
  rintro _ hgranted results rfl
  obtain ⟨part, hret, hpart⟩ := hgranted results rfl
  cases hret
  exact ⟨[], rfl, rfl, hpart⟩

/-- The responses for a part of the targets are a part of the responses. -/
def PartOfPoll (mine : SyncTarget → Bool) (targets : List SyncTarget)
    (responses part : List GatewaySubscribeResponse) : Prop :=
  (∀ resp ∈ responses, ∃ state, resp.state = some state ∧ state.target ∈ targets) ∧
    part = responses.filter (About mine)

/-- The responses to a part of the targets are a part of the responses. -/
theorem PartOf.responses {targets : List SyncTarget} {results part : List GatewayCatchUpResult}
    (h : PartOf mine targets results part) :
    PartOfPoll mine targets (results.map toSubscribeResponse) (part.map toSubscribeResponse) := by
  obtain ⟨hstated, rfl⟩ := h
  constructor
  · intro resp hresp
    obtain ⟨result, hresult, rfl⟩ := List.mem_map.mp hresp
    obtain ⟨htarget, state, hstate, heq⟩ := hstated result hresult
    exact ⟨state, hstate, heq ▸ htarget⟩
  · rw [List.filter_map]
    refine congrArg (List.map _) (List.filter_congr fun result hresult => ?_)
    obtain ⟨-, state, hstate, heq⟩ := hstated result hresult
    simp [About, toSubscribeResponse, hstate, heq]

/-- A poll makes the calls of a poll of some of its targets. -/
theorem poll_includes (req : GatewaySubscribeRequest) (hsome : req.targets.filter mine ≠ []) :
    Prog.Includes StoreCall.IsRead (Prog.Granted (PartOfPoll mine req.targets))
      (gatewaySubscribePoll hooks actor req).run
      (gatewaySubscribePoll hooks actor { req with targets := req.targets.filter mine }).run := by
  refine .bindE (Q := PartOf mine req.targets) ?_ fun results part h => .ok h.responses
  unfold catchUp
  simp only
  cases resolveSubscriber hooks actor req.subscriberId with
  | error err => exact .error err _
  | ok subscriberID =>
      rw [Prog.ofExcept_ok_bind, Prog.ofExcept_ok_bind]
      cases hvalid : validateTargets req.targets with
      | error err => exact .error err _
      | ok u =>
          have hpart : validateTargets (req.targets.filter mine) = .ok () := by
            obtain ⟨-, hall⟩ := validateTargets_ok_iff.mp hvalid
            refine validateTargets_ok_iff.mpr ⟨hsome, fun t ht => ?_⟩
            exact hall t (List.mem_of_mem_filter ht)
          rw [hpart, Prog.ofExcept_ok_bind, Prog.ofExcept_ok_bind]
          exact catchUpTargets_includes req.targets

/-- A poll of other targets has no response about these. -/
theorem poll_of_others (req : GatewaySubscribeRequest) (hnone : req.targets.filter mine = []) :
    Prog.Includes StoreCall.IsRead (Prog.Granted (PartOfPoll mine req.targets))
      (gatewaySubscribePoll hooks actor req).run (.ret (.ok [])) := by
  refine .andThenE (Q := fun results part => part = [] ∧ PartOf mine req.targets results []) ?_ ?_
  · unfold catchUp
    cases resolveSubscriber hooks actor req.subscriberId with
    | error err => exact .error err _
    | ok subscriberID =>
        rw [Prog.ofExcept_ok_bind]
        cases validateTargets req.targets with
        | error err => exact .error err _
        | ok u =>
            rw [Prog.ofExcept_ok_bind]
            exact catchUpTargets_of_others hnone
  · rintro results _ ⟨rfl, hpart⟩
    exact .ok hpart.responses

end Poll

/-! ## The target sets -/

/-- No key of a target of the part is a key of another target. -/
def Separate (U : Set SyncTarget) (mine : SyncTarget → Bool) : Prop :=
  ∀ t ∈ U, ∀ t' ∈ U, mine t = true → mine t' ≠ true → ∀ b b',
    targetBindingKey t b ≠ targetBindingKey t' b'

/-- Targets without `/` and `#` are separate, however they are divided. -/
theorem separate_of_plain {U : Set SyncTarget} (hplain : ∀ t ∈ U, t.Plain)
    (mine : SyncTarget → Bool) : Separate U mine := by
  intro t ht t' ht' hmine hother b b' hkey
  obtain ⟨rfl, -⟩ := (hplain t ht).targetBindingKey_inj (hplain t' ht') hkey
  exact hother hmine

/-- The targets of the map are targets of `U`, each under its key. -/
def Held (U : Set SyncTarget) (targets : FinMap String SyncTarget) : Prop :=
  ∀ key t, targets.lookup key = some t → targetKey t = key ∧ t ∈ U

section Targets

variable {U : Set SyncTarget} {mine : SyncTarget → Bool} {targets : FinMap String SyncTarget}

/-- A target that is put in belongs to the targets in question. -/
theorem Held.insert (h : Held U targets) {t : SyncTarget} (ht : t ∈ U) :
    Held U (targets.insert (targetKey t) t) := by
  intro key t' hlookup
  rw [FinMap.lookup_insert_eq_ite] at hlookup
  split_ifs at hlookup with heq
  · cases hlookup
    exact ⟨heq.symm, ht⟩
  · exact h key t' hlookup

/-- Without an entry the rest still belongs to them. -/
theorem Held.erase (h : Held U targets) (key : String) : Held U (targets.erase key) := by
  intro key' t' hlookup
  rw [FinMap.lookup_erase_eq_ite] at hlookup
  split_ifs at hlookup
  exact h key' t' hlookup

/-- Adding targets in question keeps the set within them. -/
theorem Held.addTargets (h : Held U targets) {add : List SyncTarget} (hadd : ∀ t ∈ add, t ∈ U) :
    Held U (LiveSub.addTargets targets add) := by
  induction add generalizing targets with
  | nil => exact h
  | cons t add ih =>
      obtain ⟨ht, hadd⟩ := List.forall_mem_cons.mp hadd
      exact ih (h.insert ht) hadd

/-- Removing targets keeps the set within those in question. -/
theorem Held.removeTargets (h : Held U targets) (remove : List SyncTarget) :
    Held U (LiveSub.removeTargets targets remove) := by
  induction remove generalizing targets with
  | nil => exact h
  | cons t remove ih => exact ih (h.erase (targetKey t))

/-- Two separate targets have different keys. -/
theorem Separate.targetKey_ne (h : Separate U mine) {t t' : SyncTarget} (ht : t ∈ U) (ht' : t' ∈ U)
    (hmine : mine t = true) (hother : mine t' ≠ true) : targetKey t ≠ targetKey t' := by
  intro heq
  refine h t ht t' ht' hmine hother "" "" ?_
  unfold targetBindingKey
  rw [heq]

/-- Adding the targets of the part to the part. -/
theorem only_addTargets (hapart : Separate U mine) (h : Held U targets) {add : List SyncTarget}
    (hadd : ∀ t ∈ add, t ∈ U) :
    (LiveSub.addTargets targets add).only mine =
      LiveSub.addTargets (targets.only mine) (add.filter mine) := by
  induction add generalizing targets with
  | nil => rfl
  | cons t add ih =>
      obtain ⟨ht, hadd⟩ := List.forall_mem_cons.mp hadd
      have hrest := ih (h.insert ht) hadd
      by_cases hmine : mine t = true
      · rw [List.filter_cons_of_pos hmine]
        rwa [FinMap.only_insert_of_pos _ _ hmine] at hrest
      · have hnone : ∀ t', targets.lookup (targetKey t) = some t' → mine t' ≠ true := by
          intro t' hlookup hmine'
          obtain ⟨hkey, ht'⟩ := h _ _ hlookup
          exact hapart.targetKey_ne ht' ht hmine' hmine hkey
        rw [List.filter_cons_of_neg hmine]
        rwa [FinMap.only_insert_of_neg hmine hnone] at hrest

/-- Removing targets from the part is taking the part of what is left. -/
theorem only_removeTargets (remove : List SyncTarget) :
    (LiveSub.removeTargets targets remove).only mine =
      LiveSub.removeTargets (targets.only mine) remove := by
  induction remove generalizing targets with
  | nil => rfl
  | cons t remove ih =>
      have hrest : FinMap.only mine (LiveSub.removeTargets (targets.erase (targetKey t)) remove) =
          LiveSub.removeTargets (FinMap.only mine (targets.erase (targetKey t))) remove := ih
      rwa [FinMap.only_erase] at hrest

end Targets

end Synclog.Gateway
