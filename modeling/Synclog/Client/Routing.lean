import Synclog.Client.Answers
import Synclog.Lib.Contract
import Synclog.Transport.Guarantees

/-!
# Deliveries and their addresses

Whether a client applies an event, or a snapshot, under the target and the binding key that the
gateway's answer carries, and acknowledges under them.

`routing` is the contract of the client's calls: where the data of `applyEvents`, `applySnapshot`
and `ack` must belong, and which answers the gateway's programs can give. The client is run alone:
nothing but the answers reaches it. `matchesBinding` compares the binding key only, and `#key`
puts the target of the binding into every key, so that the contract is met when no frame for another
target gets past `matchesBinding` (`deliveries_stay_with_their_binding`), and is broken by a frame
of an added target (`added_target_is_misrouted`).
-/

namespace Synclog.Client

open Synclog.Lib Synclog.Core Synclog.Memory Synclog.Gateway Synclog.Transport
open Prog (Meets Then meets_bindE meets_performE_alone meets_performE_bind_alone
  meets_lift_perform_bind_alone meets_lift_bind meets_ofExcept_bind)

/-! ## Sessions -/

/-- A target and one of its binding keys. -/
structure Address where
  target : SyncTarget
  bindingKey : String
  deriving DecidableEq, Repr

/-- The address that a frame carries; a heartbeat carries none. -/
def addresses (f : GatewaySubscribeResponse) : List Address :=
  match f.state with
  | some state => [{ target := state.target, bindingKey := f.bindingKey }]
  | none => []

/-- What a client has heard: the frames still to come on its stream, the frame that it is handling,
and the addresses in the last answer of the gateway. -/
structure Session where
  stream : List GatewaySubscribeResponse := []
  frame : Option GatewaySubscribeResponse := none
  heard : List Address := []

section Routing

variable {TSnapshot TEvent Actor : Type} (hooks : Hooks Actor) (actor : Actor)
  (opts : SyncClientOptions) (binding : SyncBinding TSnapshot TEvent)
  (Frames : Set (List GatewaySubscribeResponse))

/-- If the option names a key, this is it. -/
def KeyFits (bindingKey : String) : Prop :=
  ∀ key, binding.bindingKey = some key → bindingKey = normalizeBindingKey (some key)

/-- The frame is for the target of the binding and, where the option names a key, for that key. -/
def ForBinding (f : GatewaySubscribeResponse) : Prop :=
  (∃ state, f.state = some state ∧ state.target = binding.target) ∧ KeyFits binding f.bindingKey

/-- The frame gets past the tests of `#handleSubscribeResponse`. -/
def Taken (f : GatewaySubscribeResponse) : Prop :=
  f.heartbeat = false ∧ matchesBinding f.bindingKey binding.bindingKey = true ∧
    (f.status = .tooLong ∨ f.status = .ok ∧ events f ≠ [])

/-- The key names the client, and an address in the last answer of the gateway; and if a frame is
being handled, it is one for the binding. -/
structure Session.Routes (s : Session) (key : TargetBindingKey) : Prop where
  subscriber : key.subscriberId = opts.subscriberId
  heard : ⟨key.target, key.bindingKey⟩ ∈ s.heard
  frame : ∀ f, s.frame = some f → ForBinding binding f

/-- What must hold when the client makes a call: what it applies goes to the record that the data
is for, and what it acknowledges to the cursor of that record. -/
def Session.Permits (s : Session) : (β : Type) → ClientCall TSnapshot TEvent β → Prop
  | _, .applyEvents key events =>
    s.Routes opts binding key ∧
      ∀ event ∈ events, event.raw.target = key.target ∧ event.raw.bindingKey = key.bindingKey
  | _, .applySnapshot key snapshot =>
    s.Routes opts binding key ∧
      snapshot.raw.target = key.target ∧ snapshot.raw.bindingKey = key.bindingKey
  | _, .ack req =>
    ∃ target, req.target = some target ∧
      s.Routes opts binding ⟨req.subscriberId, target, req.bindingKey⟩
  | _, .catchUp _ | _, .getLatestSnapshot _ | _, .subscribe _ | _, .next | _, .aborted
  | _, .getAppliedSeq _ => True

/-- The answers that a call may get: those that the gateway's programs give, the frames of the
stream in their order, or an error; and any answer of the projection store. -/
def Session.Answers (s : Session) :
    (β : Type) → ClientCall TSnapshot TEvent β → β → Session → Prop
  | _, .catchUp req, .ok results, t =>
    Gives (gatewayCatchUp hooks actor req) results ∧
      t = { s with heard := results.map fun result => ⟨result.target, result.bindingKey⟩ }
  | _, .catchUp _, .error _, t => t = s
  | _, .getLatestSnapshot req, .ok (some snapshot), t =>
    (∃ resp, Gives (gatewayGetLatestSnapshot hooks actor req) resp ∧ resp.snapshot = snapshot) ∧
      t = { s with heard := [⟨snapshot.target, snapshot.bindingKey⟩] }
  | _, .getLatestSnapshot _, .ok none, t => t = s
  | _, .getLatestSnapshot _, .error _, t => t = s
  | _, .subscribe _, (), t => ∃ frames ∈ Frames, t = { s with stream := frames, frame := none }
  | _, .next, .ok (some f), t =>
    ∃ frames, s.stream = f :: frames ∧
      t = { stream := frames, frame := some f, heard := addresses f }
  | _, .next, .ok none, t => t = { s with frame := none }
  | _, .next, .error _, t => t = { s with frame := none }
  | _, .ack _, _, t | _, .aborted, _, t | _, .getAppliedSeq _, _, t | _, .applySnapshot _ _, _, t
  | _, .applyEvents _ _, _, t => t = s

/-- The contract of the client's calls, when its streams may bring the sequences `Frames`. -/
def routing : Contract (ClientCall TSnapshot TEvent) Session where
  pre β c s := s.Permits opts binding β c
  post β c s b t := s.Answers hooks actor Frames β c b t

/-- The calls of a client, alone with its answers, are made as `routing` demands. -/
abbrev Routed {α : Type} (Q : Except JsError α → Session → Prop)
    (p : ClientProg TSnapshot TEvent α) (s : Session) : Prop :=
  Meets (routing hooks actor opts binding Frames) (fun _ _ => False) Q p.run s

/-! ## What each method keeps -/

variable {hooks actor opts binding Frames}

/-- If a frame is being handled, it is one for the binding. -/
def Session.Quiet (binding : SyncBinding TSnapshot TEvent) (s : Session) : Prop :=
  ∀ f, s.frame = some f → ForBinding binding f

/-- The stream and the frame are those of `s`. -/
def Session.Same (s t : Session) : Prop := t.stream = s.stream ∧ t.frame = s.frame

/-- The stream and the frame stay the same over two steps. -/
theorem Session.Same.trans {s t u : Session} (h : s.Same t) (h' : t.Same u) : s.Same u :=
  ⟨h'.1.trans h.1, h'.2.trans h.2⟩

/-- Only the stream and the frame matter. -/
theorem Session.Quiet.same {s t : Session} (h : s.Quiet binding) (hsame : s.Same t) :
    t.Quiet binding := by
  intro f hf
  rw [hsame.2] at hf
  exact h f hf

/-- The key of the client is the address of the answer. -/
theorem keyFor_eq {bindingKey : String} (hne : bindingKey ≠ "")
    (hfits : KeyFits binding bindingKey) :
    keyFor opts binding (some bindingKey) = ⟨opts.subscriberId, binding.target, bindingKey⟩ := by
  unfold keyFor
  cases hkey : binding.bindingKey with
  | none => simp [normalizeBindingKey, hne]
  | some key => simp [← hfits key hkey]

/-- The acknowledgement of the client's own key is routed. -/
theorem routed_ack {s : Session} {key : TargetBindingKey} (seq : Nat)
    (hroutes : s.Routes opts binding key) :
    Routed hooks actor opts binding Frames (fun _ t => t = s) (ack opts key seq) s := by
  refine meets_performE_alone.mpr ⟨⟨key.target, rfl, ?_⟩, fun _ t ht => ht⟩
  show s.Routes opts binding ⟨opts.subscriberId, key.target, key.bindingKey⟩
  rw [← hroutes.subscriber]
  exact hroutes

/-- A batch of the binding goes to the record of its address. -/
theorem routed_applyBatch {s : Session} {bindingKey : String} {inner : EventBatch}
    (hquiet : s.Quiet binding) (hne : bindingKey ≠ "") (hfits : KeyFits binding bindingKey)
    (hheard : ⟨binding.target, bindingKey⟩ ∈ s.heard) :
    Routed hooks actor opts binding Frames (fun _ t => t = s)
      (applyBatch opts binding (toGatewayBatch binding.target bindingKey inner)) s := by
  have hroutes : s.Routes opts binding ⟨opts.subscriberId, binding.target, bindingKey⟩ :=
    ⟨rfl, hheard, hquiet⟩
  unfold applyBatch
  rw [show (toGatewayBatch binding.target bindingKey inner).bindingKey = bindingKey from rfl,
    keyFor_eq hne hfits]
  refine meets_performE_bind_alone.mpr ⟨trivial, ?_⟩
  rintro (err | appliedSeq) t rfl
  · exact rfl
  refine meets_bindE.mpr ?_
  have happly : Routed hooks actor opts binding Frames (fun _ u => u = t)
      (applyNew ⟨opts.subscriberId, binding.target, bindingKey⟩
        (newEvents binding appliedSeq (toGatewayBatch binding.target bindingKey inner))) t := by
    unfold applyNew
    split_ifs
    · refine meets_performE_alone.mpr ⟨⟨hroutes, ?_⟩, fun _ u hu => hu⟩
      intro event hevent
      obtain ⟨event, hmem, rfl⟩ := List.mem_map.mp hevent
      obtain ⟨event, -, rfl⟩ := List.mem_map.mp (List.mem_filter.mp hmem).1
      exact ⟨rfl, rfl⟩
    · exact rfl
  refine happly.imp ?_
  rintro (err | ⟨⟩) u rfl
  · exact rfl
  refine meets_performE_bind_alone.mpr ⟨trivial, ?_⟩
  rintro (err | ackedSeq) v rfl
  · exact rfl
  refine meets_bindE.mpr ((routed_ack ackedSeq hroutes).imp ?_)
  rintro (err | ⟨⟩) w rfl
  · exact rfl
  · exact rfl

/-- A key is asked for when the option has one that is not empty. -/
theorem requested_eq_some {option : Option String} {key : String} :
    requested option = some key ↔ option = some key ∧ key ≠ "" := by
  unfold requested
  split
  · split_ifs with hne
    · simp only [Option.some.injEq]
      constructor
      · rintro rfl
        exact ⟨rfl, hne⟩
      · exact And.left
    · rw [not_not] at hne
      subst hne
      simp
  · simp

/-- No key is asked for when the option is missing or empty. -/
theorem requested_eq_none {option : Option String} :
    requested option = none ↔ option = none ∨ option = some "" := by
  unfold requested
  split
  · split_ifs with hne <;> simp_all
  · simp

/-- The only binding of the target is under the default key, if the option is `""`. -/
def DefaultsKey (hooks : Hooks Actor) (actor : Actor) (binding : SyncBinding TSnapshot TEvent) :
    Prop :=
  binding.bindingKey = some "" → ∀ b,
    resolveBindings hooks actor binding.target = .ok [b] → b.bindingKey = defaultBindingKey

/-- The binding that is selected for the client's requests is the one that its key is made for. -/
theorem keyFits_of_requested (hdefault : DefaultsKey hooks actor binding)
    {bindings : List StreamBinding}
    (hresolve : resolveBindings hooks actor binding.target = .ok bindings) {b : StreamBinding}
    (hrequested : ∀ key, requested binding.bindingKey = some key → b.bindingKey = key)
    (honly : requested binding.bindingKey = none → bindings = [b]) :
    KeyFits binding b.bindingKey := by
  intro key hkey
  by_cases hempty : key = ""
  · subst hempty
    have hnone : requested binding.bindingKey = none := by rw [hkey]; rfl
    rw [honly hnone] at hresolve
    exact hdefault hkey b hresolve
  · have hsome : requested binding.bindingKey = some key := by rw [hkey]; simp [requested, hempty]
    rw [hrequested key hsome]
    simp [normalizeBindingKey, hempty]

/-- A recovery applies the snapshot of the binding. -/
theorem routed_recoverFromSnapshot (hdefault : DefaultsKey hooks actor binding) {s : Session}
    (hquiet : s.Quiet binding) :
    Routed hooks actor opts binding Frames (fun _ t => s.Same t)
      (recoverFromSnapshot opts binding) s := by
  unfold recoverFromSnapshot
  refine meets_performE_bind_alone.mpr ⟨trivial, ?_⟩
  rintro (err | (_ | snapshot)) t ht
  · obtain rfl : t = s := ht
    exact ⟨rfl, rfl⟩
  · obtain rfl : t = s := ht
    exact ⟨rfl, rfl⟩
  obtain ⟨⟨resp, hgives, rfl⟩, rfl⟩ := ht
  obtain ⟨bindings, b, hresolve, hselect, htarget, hkey⟩ := gives_getLatestSnapshot rfl hgives
  obtain ⟨honly, hnamed⟩ := selectBinding_ok hselect
  have hb : b ∈ bindings := by
    by_cases hempty : (snapshotRequest opts binding).bindingKey = ""
    · exact honly hempty ▸ List.mem_singleton_self b
    · exact (hnamed hempty).1
  have hne : b.bindingKey ≠ "" := Resolves.bindingKey_ne ⟨bindings, hresolve, hb⟩
  have hfits : KeyFits binding b.bindingKey := by
    refine keyFits_of_requested hdefault hresolve ?_ ?_
    · intro key hrequested
      obtain ⟨hsome, hkey⟩ := requested_eq_some.mp hrequested
      have hreq : (snapshotRequest opts binding).bindingKey = key := by
        simp [snapshotRequest, hsome]
      exact (hnamed (hreq ▸ hkey)).2.trans hreq
    · intro hnone
      refine honly ?_
      rcases requested_eq_none.mp hnone with hnone | hempty
      · simp [snapshotRequest, hnone]
      · simp [snapshotRequest, hempty]
  have hroutes : ({ s with heard := [⟨resp.snapshot.target, b.bindingKey⟩] } : Session).Routes opts
      binding ⟨opts.subscriberId, binding.target, b.bindingKey⟩ :=
    ⟨rfl, by rw [htarget]; exact List.mem_singleton_self _, hquiet⟩
  show Routed hooks actor opts binding Frames _ _ _
  simp only [hkey, keyFor_eq hne hfits]
  refine meets_performE_bind_alone.mpr ⟨⟨hroutes, htarget, hkey⟩, ?_⟩
  rintro (err | ⟨⟩) t rfl
  · exact ⟨rfl, rfl⟩
  refine meets_bindE.mpr ((routed_ack _ hroutes).imp ?_)
  rintro (err | ⟨⟩) t rfl
  · exact ⟨rfl, rfl⟩
  · exact ⟨rfl, rfl⟩

/-- The result that the client selects is the one of the binding that its key is made for. -/
theorem selectResult_ok (hdefault : DefaultsKey hooks actor binding) {bindings : List StreamBinding}
    {results : List GatewayCatchUpResult}
    (hresolve : resolveBindings hooks actor binding.target = .ok bindings)
    (hforall : List.Forall₂ (AddressedTo binding.target) bindings results)
    {result : GatewayCatchUpResult}
    (hselect : selectResult results binding.bindingKey = .ok (some result)) :
    result ∈ results ∧ ∃ b, Resolves hooks actor binding.target b ∧
      AddressedTo binding.target b result ∧ KeyFits binding b.bindingKey := by
  unfold selectResult at hselect
  split at hselect
  · rename_i key hrequested
    cases hfind : results.find? fun result => result.bindingKey == key with
    | none => rw [hfind] at hselect; cases hselect
    | some found =>
        rw [hfind] at hselect
        cases hselect
        have hmem := List.mem_of_find?_eq_some hfind
        have hkey : result.bindingKey = key := by simpa using List.find?_some hfind
        obtain ⟨b, hb, haddressed⟩ := exists_partner hforall hmem
        refine ⟨hmem, b, ⟨bindings, hresolve, hb⟩, haddressed, ?_⟩
        refine keyFits_of_requested hdefault hresolve ?_ ?_
        · intro key' hrequested'
          rw [hrequested] at hrequested'
          cases hrequested'
          rw [← haddressed.forBinding, hkey]
        · intro hnone
          rw [hrequested] at hnone
          cases hnone
  · rename_i hrequested
    split_ifs at hselect with hlength
    cases hforall with
    | nil => cases hselect
    | @cons b first bindings rest haddressed hrest =>
        cases hselect
        obtain rfl : rest = [] := by
          rw [← List.length_eq_zero_iff]
          simp only [List.length_cons] at hlength
          omega
        cases hrest
        refine ⟨List.mem_singleton_self _, b, ⟨[b], hresolve, List.mem_singleton_self b⟩,
          haddressed, ?_⟩
        refine keyFits_of_requested hdefault hresolve ?_ fun _ => rfl
        intro key hsome
        rw [hrequested] at hsome
        cases hsome

/-- A catch-up applies and acknowledges what is for the binding. -/
theorem routed_catchUpLoop (hdefault : DefaultsKey hooks actor binding) (rounds : Nat)
    (summary : SyncCatchUpSummary) {s : Session} (hquiet : s.Quiet binding) :
    Routed hooks actor opts binding Frames (fun _ t => s.Same t)
      (catchUpLoop opts binding rounds summary) s := by
  induction rounds generalizing summary s with
  | zero => exact ⟨rfl, rfl⟩
  | succ rounds ih =>
      unfold catchUpLoop
      refine meets_performE_bind_alone.mpr ⟨trivial, ?_⟩
      rintro (err | results) t ht
      · obtain rfl : t = s := ht
        exact ⟨rfl, rfl⟩
      obtain ⟨hgives, ht⟩ := ht
      have hsame : s.Same t := by rw [ht]; exact ⟨rfl, rfl⟩
      have hquiet' := hquiet.same hsame
      obtain ⟨bindings, hresolve, hforall⟩ := gives_catchUp rfl hgives
      refine meets_ofExcept_bind.mpr ?_
      rcases hselect : selectResult results binding.bindingKey with err | (_ | result)
      · exact hsame
      · exact hsame
      obtain ⟨hmem, b, hb, haddressed, hfits⟩ := selectResult_ok hdefault hresolve hforall hselect
      show Routed hooks actor opts binding Frames _ _ _
      simp only
      split_ifs
      · refine meets_bindE.mpr ((routed_recoverFromSnapshot hdefault hquiet').imp ?_)
        rintro (err | seq) u hsame'
        · exact hsame.trans hsame'
        · exact (ih _ (hquiet'.same hsame')).imp fun _ _ h => hsame.trans (hsame'.trans h)
      · exact hsame
      · split
        · exact hsame
        · rename_i batch hbatch
          split
          · exact hsame
          obtain ⟨inner, rfl⟩ := haddressed.withBatch batch hbatch
          refine meets_bindE.mpr ((routed_applyBatch hquiet' hb.bindingKey_ne hfits ?_).imp ?_)
          · rw [ht]
            refine List.mem_map.mpr ⟨result, hmem, ?_⟩
            rw [haddressed.forTarget, haddressed.forBinding]
          rintro (err | ⟨count, seq⟩) u rfl
          · exact hsame
          show Routed hooks actor opts binding Frames _ _ _
          simp only
          split_ifs
          · exact hsame
          · exact (ih _ hquiet').imp fun _ _ h => hsame.trans h

/-- A frame that can be sent and, if it is taken, is for the binding. -/
def Deliverable (hooks : Hooks Actor) (actor : Actor) (binding : SyncBinding TSnapshot TEvent)
    (f : GatewaySubscribeResponse) : Prop :=
  CanSend hooks actor f ∧ (Taken binding f → ForBinding binding f)

/-- The client handles a frame: it is left alone, or it is for the binding. -/
theorem routed_handleSubscribeResponse (hdefault : DefaultsKey hooks actor binding) (rounds : Nat)
    {f : GatewaySubscribeResponse} (hf : Deliverable hooks actor binding f) {s : Session}
    (hframe : s.frame = some f) (hheard : s.heard = addresses f) :
    Routed hooks actor opts binding Frames
      (fun r t => s.Same t ∧ (∀ err, r = .error err → t.Quiet binding))
      (handleSubscribeResponse opts binding rounds f) s := by
  have hleft : Routed hooks actor opts binding Frames
      (fun r t => s.Same t ∧ (∀ err, r = .error err → t.Quiet binding)) (pure ()) s :=
    ⟨⟨rfl, rfl⟩, fun _ herr => by cases herr⟩
  unfold handleSubscribeResponse
  split_ifs with hbeat hmatches hlong hok
  · exact hleft
  · exact hleft
  · -- a recovery, then a catch-up
    have hfor := hf.2 ⟨by simpa using hbeat, by simpa using hmatches, .inl hlong⟩
    have hquiet : s.Quiet binding := by
      intro f' hf'
      rw [hframe] at hf'
      cases hf'
      exact hfor
    refine meets_bindE.mpr ((routed_recoverFromSnapshot hdefault hquiet).imp ?_)
    rintro (err | seq) t hsame
    · exact ⟨hsame, fun _ _ => hquiet.same hsame⟩
    refine meets_bindE.mpr ((routed_catchUpLoop hdefault rounds {} (hquiet.same hsame)).imp ?_)
    rintro (err | summary) u hsame'
    · exact ⟨hsame.trans hsame', fun _ _ => hquiet.same (hsame.trans hsame')⟩
    · exact ⟨hsame.trans hsame', fun _ _ => hquiet.same (hsame.trans hsame')⟩
  · exact hleft
  · split
    · exact hleft
    · rename_i batch hbatch
      split_ifs with hempty
      · exact hleft
      have hevents : events f ≠ [] := by
        unfold events
        rw [hbatch]
        exact fun hnil => hempty (List.length_eq_zero_iff.mpr hnil)
      have hfor := hf.2 ⟨by simpa using hbeat, by simpa using hmatches,
        .inr ⟨not_not.mp hok, hevents⟩⟩
      have hquiet : s.Quiet binding := by
        intro f' hf'
        rw [hframe] at hf'
        cases hf'
        exact hfor
      rcases hf.1.addressed with htrue | ⟨target, b, result, time, hb, haddressed, rfl⟩
      · exact absurd htrue hbeat
      obtain ⟨inner, rfl⟩ := haddressed.withBatch batch hbatch
      obtain ⟨⟨state, hstate, htarget⟩, hfits⟩ := hfor
      obtain ⟨state', hstate', htarget'⟩ := haddressed.withState
      obtain rfl : state = state' := Option.some.inj (hstate.symm.trans hstate')
      obtain rfl : target = binding.target := htarget'.symm.trans htarget
      have hkey : KeyFits binding b.bindingKey := haddressed.forBinding ▸ hfits
      refine meets_bindE.mpr ((routed_applyBatch hquiet hb.bindingKey_ne hkey ?_).imp ?_)
      · rw [hheard]
        simp [addresses, toSubscribeResponse, hstate', htarget, haddressed.forBinding]
      rintro (err | summary) t rfl
      · exact ⟨⟨rfl, rfl⟩, fun _ _ => hquiet⟩
      · exact ⟨⟨rfl, rfl⟩, fun _ _ => hquiet⟩

/-- A frame with events that is taken and is not for the binding is misrouted. -/
theorem forBinding_of_routed {rounds : Nat} {f : GatewaySubscribeResponse}
    {Q : Except JsError Unit → Session → Prop} (htaken : Taken binding f) (hok : f.status = .ok)
    {s : Session} (hframe : s.frame = some f)
    (h : Routed hooks actor opts binding Frames Q
      (handleSubscribeResponse opts binding rounds f) s) :
    ForBinding binding f := by
  obtain ⟨hbeat, hmatches, hstatus⟩ := htaken
  unfold handleSubscribeResponse at h
  cases hbatch : f.batch with
  | none => simp [events, hok, hbatch] at hstatus
  | some batch =>
      have hevents : batch.events.length ≠ 0 := by simpa [events, hok, hbatch] using hstatus
      rw [if_neg (by simp [hbeat]), if_neg (by simp [hmatches]), if_neg (by simp [hok]),
        if_neg (by simp [hok])] at h
      simp only [hbatch, if_neg hevents] at h
      have happly := (meets_performE_bind_alone.mp (meets_bindE.mp h)).2 (.ok 0) s rfl
      have hnew := meets_bindE.mp happly
      unfold applyNew at hnew
      split_ifs at hnew
      · exact (meets_performE_alone.mp hnew).1.1.frame f hframe
      · have hack := (meets_performE_bind_alone.mp hnew).2 (.ok 0) s rfl
        obtain ⟨⟨_, _, hroutes⟩, -⟩ := meets_performE_alone.mp (meets_bindE.mp hack)
        exact hroutes.frame f hframe

/-- The client handles the frames of a stream. Only the end of the rounds, which no method catches,
can leave a frame for another target behind. -/
theorem routed_streamLoop (hdefault : DefaultsKey hooks actor binding) (rounds : Nat) {s : Session}
    (hstream : ∀ f ∈ s.stream, Deliverable hooks actor binding f) :
    Routed hooks actor opts binding Frames
      (fun r t => ∀ err, r = .error err → err = .outOfRounds ∨ t.Quiet binding)
      (streamLoop opts binding rounds) s := by
  induction rounds generalizing s with
  | zero =>
      rintro err ⟨⟩
      exact .inl rfl
  | succ rounds ih =>
      unfold streamLoop
      refine meets_lift_perform_bind_alone.mpr ⟨trivial, ?_⟩
      rintro (_ | _) t rfl
      · refine meets_performE_bind_alone.mpr ⟨trivial, ?_⟩
        rintro (err | (_ | f)) u hu
        · obtain rfl : u = _ := hu
          exact fun _ _ => .inr fun _ hframe => by cases hframe
        · exact fun _ herr => by cases herr
        · obtain ⟨frames, hcons, rfl⟩ := hu
          have hall : ∀ g ∈ f :: frames, Deliverable hooks actor binding g := hcons ▸ hstream
          refine meets_lift_perform_bind_alone.mpr ⟨trivial, ?_⟩
          rintro (_ | _) v rfl
          · refine meets_bindE.mpr ((routed_handleSubscribeResponse hdefault rounds
              (hall f List.mem_cons_self) rfl rfl).imp ?_)
            rintro (err | ⟨⟩) w ⟨hsame, hquiet⟩
            · exact fun _ _ => .inr (hquiet err rfl)
            · refine ih ?_
              rw [hsame.1]
              exact fun g hg => hall g (List.mem_cons_of_mem _ hg)
          · exact fun _ herr => by cases herr
      · exact fun _ herr => by cases herr

/-- One connection: a catch-up, then the stream. -/
theorem routed_runSubscription (hdefault : DefaultsKey hooks actor binding)
    (hframes : ∀ frames ∈ Frames, ∀ f ∈ frames, Deliverable hooks actor binding f) (rounds : Nat)
    {s : Session} (hquiet : s.Quiet binding) :
    Routed hooks actor opts binding Frames
      (fun r t => ∀ err, r = .error err → err = .outOfRounds ∨ t.Quiet binding)
      (runSubscription opts binding rounds) s := by
  unfold runSubscription
  refine meets_bindE.mpr ((routed_catchUpLoop hdefault rounds {} hquiet).imp ?_)
  rintro (err | summary) t hsame
  · exact fun _ _ => .inr (hquiet.same hsame)
  · refine meets_lift_perform_bind_alone.mpr ⟨trivial, ?_⟩
    rintro ⟨⟩ u ⟨frames, hmem, rfl⟩
    exact routed_streamLoop hdefault rounds (hframes frames hmem)

/-- Connection after connection. -/
theorem routed_subscribeLoop (hdefault : DefaultsKey hooks actor binding)
    (hframes : ∀ frames ∈ Frames, ∀ f ∈ frames, Deliverable hooks actor binding f) (rounds : Nat)
    {s : Session} (hquiet : s.Quiet binding) :
    Routed hooks actor opts binding Frames (fun _ _ => True) (subscribeLoop opts binding rounds)
      s := by
  induction rounds generalizing s with
  | zero => trivial
  | succ rounds ih =>
      unfold subscribeLoop
      refine meets_lift_perform_bind_alone.mpr ⟨trivial, ?_⟩
      rintro (_ | _) t rfl
      · refine meets_lift_bind.mpr ((routed_runSubscription hdefault hframes rounds hquiet).imp ?_)
        rintro (err | ⟨⟩) u hu
        · cases err with
          | outOfRounds => trivial
          | thrown message | rejected message =>
              refine meets_lift_perform_bind_alone.mpr ⟨trivial, ?_⟩
              rintro (_ | _) v rfl
              · exact ih ((hu _ rfl).resolve_left (by simp))
              · trivial
        · trivial
      · trivial

/-- **Deliveries stay with their binding.** In every run of a subscription, over every sequence of
frames that the gateway can send of which those that are taken are for the target of the binding
(and for its key): what is applied and what is acknowledged has the target and the binding key of
the gateway's answer, and a frame for another target or key leaves record and cursor alone. -/
theorem deliveries_stay_with_their_binding (hdefault : DefaultsKey hooks actor binding)
    (hframes : ∀ frames ∈ Frames, ∀ f ∈ frames,
      CanSend hooks actor f ∧ (Taken binding f → ForBinding binding f)) (rounds : Nat) :
    Routed hooks actor opts binding Frames (fun _ _ => True) (subscribeLoop opts binding rounds)
      {} :=
  routed_subscribeLoop hdefault hframes rounds fun _ hframe => by cases hframe

end Routing

/-! ## A target that is added to the stream -/

/-- A client of the target `a`, which has no events. -/
def deviceOpts : SyncClientOptions where
  subscriberId := "device"

/-- Its binding. -/
def bindingA : SyncBinding Unit Unit where
  target := { ns := "n", id := "a" }
  projection :=
    { snapshotType := ""
      decodeSnapshot := fun _ _ => ()
      decodeEvent := fun _ => () }

/-- The stream that it opens, with the target of two events added before the first poll. -/
def addedRounds : List (LoopLabel Set.univ) :=
  .modify [targetS] [] (fun _ _ => trivial) :: List.replicate 14 (.loop 0)

/-- The binding of a client whose own target has the two events. -/
def ownBinding : SyncBinding Unit Unit := { bindingA with target := targetS }

/-- A frame with the two events of the client's own target is taken. -/
theorem deliveries_stay_with_their_binding_own_target :
    ∃ f, addresses f = [⟨targetS, "default"⟩] ∧ (events f).map GatewayEvent.seq = [1, 2] ∧
      Taken ownBinding f ∧
      Routed perActorHooks "alice" deviceOpts ownBinding {[f]} (fun _ _ => True)
        (subscribeLoop deviceOpts ownBinding 3) {} := by
  obtain ⟨responses, f, hrun, hmem, haddress, hevents, hbeat, hok, hfor⟩ : ∃ responses f,
      (Prog.run (handler 0)
        (gatewaySubscribePoll perActorHooks "alice" (subscribeRequest deviceOpts ownBinding)).run
        Transport.twoEvents).1 = .ok responses ∧ f ∈ responses ∧
        addresses f = [⟨targetS, "default"⟩] ∧ (events f).map GatewayEvent.seq = [1, 2] ∧
        f.heartbeat = false ∧ f.status = .ok ∧ ForBinding ownBinding f := by
    refine ⟨_, _, rfl, List.mem_singleton_self _, rfl, rfl, rfl, rfl, ⟨_, rfl, rfl⟩, ?_⟩
    rintro key ⟨⟩
  have htaken : Taken ownBinding f :=
    ⟨hbeat, rfl, .inr ⟨hok, fun hnone => by simp [hnone] at hevents⟩⟩
  refine ⟨{ f with serverTimeUnixMs := 0 }, haddress, hevents, htaken, ?_⟩
  refine deliveries_stay_with_their_binding (by rintro ⟨⟩) ?_ 3
  rintro _ rfl g hg
  obtain rfl := List.mem_singleton.mp hg
  exact ⟨.response (gives_of_run hrun) hmem 0, fun _ => hfor⟩

/-- The frame of the added target carries the target `s` and two events of it; the client of `a`
applies them to the record of `a`, and acknowledges under `a`. -/
theorem added_target_is_misrouted :
    ∃ σ f, (gatewayLoop perActorHooks "alice" (subscribeRequest deviceOpts bindingA) Set.univ
        1000000).run addedRounds
          (.start Transport.twoEvents (subscribeRequest deviceOpts bindingA) 0) = some σ ∧
      sentFrames σ.log = [f] ∧ CanSend perActorHooks "alice" f ∧
      addresses f = [⟨targetS, "default"⟩] ∧
      (events f).map GatewayEvent.target = [targetS, targetS] ∧
      keyFor deviceOpts bindingA (some f.bindingKey) = ⟨"device", bindingA.target, "default"⟩ ∧
      ¬ Routed perActorHooks "alice" deviceOpts bindingA {[f]} (fun _ _ => True)
        (subscribeLoop deviceOpts bindingA 3) {} := by
  obtain ⟨σ, f, hrun, hsent, haddress, htargets, hkey, hbeat, hok, hother⟩ : ∃ σ f,
      (gatewayLoop perActorHooks "alice" (subscribeRequest deviceOpts bindingA) Set.univ
        1000000).run addedRounds
          (.start Transport.twoEvents (subscribeRequest deviceOpts bindingA) 0) = some σ ∧
      sentFrames σ.log = [f] ∧ addresses f = [⟨targetS, "default"⟩] ∧
      (events f).map GatewayEvent.target = [targetS, targetS] ∧
      keyFor deviceOpts bindingA (some f.bindingKey) = ⟨"device", bindingA.target, "default"⟩ ∧
      f.heartbeat = false ∧ f.status = .ok ∧ f.state.map TargetState.target = some targetS :=
    ⟨_, _, rfl, rfl, rfl, rfl, rfl, rfl, rfl, rfl⟩
  have hcan : CanSend perActorHooks "alice" f :=
    canSend_of_run Transport.twoEvents_reachable hrun f (by simp [hsent])
  refine ⟨σ, f, hrun, hsent, hcan, haddress, htargets, hkey, ?_⟩
  intro h
  obtain ⟨result, batch, hcatchUp, hstatus, hbatch, hempty⟩ : ∃ result batch,
      (Prog.run (handler 0)
        (gatewayCatchUp perActorHooks "alice" (catchUpRequest deviceOpts bindingA)).run
        Transport.twoEvents).1 = .ok [result] ∧
      result.status = .ok ∧ result.batch = some batch ∧ batch.events = [] :=
    ⟨_, _, rfl, rfl, rfl, rfl⟩
  -- a catch-up that finds nothing opens the stream, and the stream brings the frame
  have hconnection := meets_lift_bind.mp ((meets_lift_perform_bind_alone.mp h).2 false {} rfl)
  have hcaughtUp := (meets_performE_bind_alone.mp (meets_bindE.mp hconnection)).2 (.ok [result]) _
    ⟨gives_of_run hcatchUp, rfl⟩
  change Routed perActorHooks "alice" deviceOpts bindingA {[f]} _
    (if result.status = .tooLong then _ else _) _ at hcaughtUp
  rw [if_neg (by simp [hstatus]), if_neg (by simp [hstatus])] at hcaughtUp
  simp only [hbatch, hempty] at hcaughtUp
  have hopen := (meets_lift_perform_bind_alone.mp hcaughtUp).2 () _ ⟨[f], rfl, rfl⟩
  have hnext := (meets_performE_bind_alone.mp
    ((meets_lift_perform_bind_alone.mp hopen).2 false _ rfl)).2 (.ok (some f)) _ ⟨[], rfl, rfl⟩
  have hframe := meets_bindE.mp ((meets_lift_perform_bind_alone.mp hnext).2 false _ rfl)
  have htaken : Taken bindingA f := by
    refine ⟨hbeat, rfl, .inr ⟨hok, ?_⟩⟩
    intro hnil
    simp [hnil] at htargets
  obtain ⟨⟨state, hstate, htarget⟩, -⟩ := forBinding_of_routed htaken hok rfl hframe
  simp [hstate, htarget, bindingA, targetS] at hother

end Synclog.Client
