import Synclog.Gateway.Keys
import Synclog.Gateway.Registry

/-!
# The target set of a live stream, as a set

`liveSub` holds the targets of a stream in a map under their joined keys, and the loop of the stream
holds its marks under the joined keys of targets with binding keys.

* `LiveSub.after`, `tracked` — a stream's target set after a list of changes, and the mathematical
  set of targets after them.
* `LiveSub.Holds` — the invariant: the map has exactly the targets of a set, each under its key.
* `TracksExactly` — over the targets of `T` the target set is that set, and no two targets with
  binding keys share an entry of the loop.
* `tracksExactly_iff` — that is so exactly when no two of the targets clash and none goes on in
  another one's binding key.
-/

namespace Synclog.Gateway

open Synclog.Lib Synclog.Core SyncTarget

/-- The arguments of one call of `apply`. -/
structure TargetChange where
  add : List SyncTarget
  remove : List SyncTarget

/-- The change is about targets of `T`. -/
structure TargetChange.Within (c : TargetChange) (T : Set SyncTarget) : Prop where
  add : ∀ t ∈ c.add, t ∈ T
  remove : ∀ t ∈ c.remove, t ∈ T

/-- The set of targets after a list of changes: each one takes the removed targets away, and then
adds the added ones. -/
def tracked (initial : List SyncTarget) (changes : List TargetChange) : Set SyncTarget :=
  changes.foldl (fun S c => S \ {t | t ∈ c.remove} ∪ {t | t ∈ c.add}) {t | t ∈ initial}

namespace LiveSub

/-- The target set of a stream after a list of changes. -/
def after (subscriberID : SubscriberID) (initial : List SyncTarget) (changes : List TargetChange) :
    LiveSub :=
  changes.foldl (fun l c => l.apply c.add c.remove) (new subscriberID initial)

/-! ## The map holds a set -/

/-- The map holds the targets of `S` and no others, each under its key. -/
def Holds (targets : FinMap String SyncTarget) (S : Set SyncTarget) : Prop :=
  ∀ key t, targets.lookup key = some t ↔ targetKey t = key ∧ t ∈ S

variable {targets : FinMap String SyncTarget} {S T : Set SyncTarget}

/-- The empty map holds no target. -/
theorem holds_empty : Holds ∅ ∅ := by
  intro key t
  simp

/-- Where no other target of `S` has the key of `t`, to insert `t` is to add it to the set. -/
theorem holds_insert (h : Holds targets S) {t : SyncTarget}
    (hinj : ∀ t' ∈ S, targetKey t' = targetKey t → t' = t) :
    Holds (targets.insert (targetKey t) t) (insert t S) := by
  intro key t'
  rw [FinMap.lookup_insert_eq_ite, Set.mem_insert_iff]
  split_ifs with hkey
  · constructor
    · intro heq
      cases heq
      exact ⟨hkey.symm, .inl rfl⟩
    · rintro ⟨hkey', rfl | hmem⟩
      · rfl
      · rw [hinj t' hmem (hkey'.trans hkey)]
  · rw [h key t']
    constructor
    · rintro ⟨hkey', hmem⟩
      exact ⟨hkey', .inr hmem⟩
    · rintro ⟨hkey', rfl | hmem⟩
      · exact absurd hkey'.symm hkey
      · exact ⟨hkey', hmem⟩

/-- Where no other target of `S` has the key of `t`, to erase it is to take `t` out of the set. -/
theorem holds_erase (h : Holds targets S) {t : SyncTarget}
    (hinj : ∀ t' ∈ S, targetKey t' = targetKey t → t' = t) :
    Holds (targets.erase (targetKey t)) (S \ {t}) := by
  intro key t'
  rw [FinMap.lookup_erase_eq_ite, Set.mem_sdiff, Set.mem_singleton_iff]
  split_ifs with hkey
  · constructor
    · intro heq
      cases heq
    · rintro ⟨hkey', hmem, hne⟩
      exact absurd (hinj t' hmem (hkey'.trans hkey)) hne
  · rw [h key t']
    constructor
    · rintro ⟨hkey', hmem⟩
      refine ⟨hkey', hmem, ?_⟩
      rintro rfl
      exact hkey hkey'.symm
    · rintro ⟨hkey', hmem, -⟩
      exact ⟨hkey', hmem⟩

/-- Adding targets of `T`, on which the key is injective. -/
theorem holds_addTargets (hT : Set.InjOn targetKey T) {add : List SyncTarget}
    (hadd : ∀ t ∈ add, t ∈ T) (hS : S ⊆ T) (h : Holds targets S) :
    Holds (LiveSub.addTargets targets add) (S ∪ {t | t ∈ add}) := by
  induction add generalizing targets S with
  | nil => simpa [LiveSub.addTargets] using h
  | cons t add ih =>
      have ht : t ∈ T := hadd t List.mem_cons_self
      have hnext := holds_insert h fun t' ht' hkey => hT (hS ht') ht hkey
      have hset : S ∪ {t' | t' ∈ t :: add} = insert t S ∪ {t' | t' ∈ add} := by
        ext t'
        simp only [Set.mem_union, Set.mem_ofPred_eq, List.mem_cons, Set.mem_insert_iff]
        tauto
      rw [hset]
      exact ih (fun t' ht' => hadd t' (List.mem_cons_of_mem _ ht')) (Set.insert_subset ht hS) hnext

/-- Removing targets of `T`, on which the key is injective. -/
theorem holds_removeTargets (hT : Set.InjOn targetKey T) {remove : List SyncTarget}
    (hremove : ∀ t ∈ remove, t ∈ T) (hS : S ⊆ T) (h : Holds targets S) :
    Holds (LiveSub.removeTargets targets remove) (S \ {t | t ∈ remove}) := by
  induction remove generalizing targets S with
  | nil => simpa [LiveSub.removeTargets] using h
  | cons t remove ih =>
      have ht : t ∈ T := hremove t List.mem_cons_self
      have hnext := holds_erase h fun t' ht' hkey => hT (hS ht') ht hkey
      have hset : S \ {t' | t' ∈ t :: remove} = (S \ {t}) \ {t' | t' ∈ remove} := by
        ext t'
        simp only [Set.mem_sdiff, Set.mem_ofPred_eq, List.mem_cons, Set.mem_singleton_iff]
        tauto
      rw [hset]
      exact ih (fun t' ht' => hremove t' (List.mem_cons_of_mem _ ht'))
        (Set.sdiff_subset.trans hS) hnext

/-- A new subscription holds its initial targets. -/
theorem holds_new (hT : Set.InjOn targetKey T) (subscriberID : SubscriberID)
    {initial : List SyncTarget} (hinitial : ∀ t ∈ initial, t ∈ T) :
    Holds (new subscriberID initial).targets {t | t ∈ initial} := by
  have h := holds_addTargets hT hinitial (Set.empty_subset T) holds_empty
  rwa [Set.empty_union] at h

/-- `apply` removes and adds as the sets do. -/
theorem holds_apply (hT : Set.InjOn targetKey T) {l : LiveSub} {c : TargetChange}
    (hc : c.Within T) (hS : S ⊆ T) (h : Holds l.targets S) :
    Holds (l.apply c.add c.remove).targets (S \ {t | t ∈ c.remove} ∪ {t | t ∈ c.add}) :=
  holds_addTargets hT hc.add (Set.sdiff_subset.trans hS) (holds_removeTargets hT hc.remove hS h)

/-- What every change preserves, every list of changes preserves. -/
theorem holds_changes (hT : Set.InjOn targetKey T) {changes : List TargetChange}
    (hchanges : ∀ c ∈ changes, c.Within T) {l : LiveSub} (hS : S ⊆ T) (h : Holds l.targets S) :
    Holds (changes.foldl (fun l c => l.apply c.add c.remove) l).targets
      (changes.foldl (fun S c => S \ {t | t ∈ c.remove} ∪ {t | t ∈ c.add}) S) := by
  induction changes generalizing l S with
  | nil => exact h
  | cons c changes ih =>
      have hc := hchanges c List.mem_cons_self
      refine ih (fun c' hc' => hchanges c' (List.mem_cons_of_mem _ hc')) ?_ (holds_apply hT hc hS h)
      exact Set.union_subset (Set.sdiff_subset.trans hS) hc.add

/-- The snapshot of a map that holds a set has the targets of that set. -/
theorem Holds.mem_snapshot {l : LiveSub} (h : Holds l.targets S) (t : SyncTarget) :
    t ∈ l.snapshot ↔ t ∈ S := by
  unfold snapshot
  rw [FinMap.mem_values_iff]
  constructor
  · rintro ⟨key, hlookup⟩
    exact ((h key t).mp hlookup).2
  · intro hmem
    exact ⟨targetKey t, (h (targetKey t) t).mpr ⟨rfl, hmem⟩⟩

/-- No target of a snapshot is there twice, nor with another one of the same key. -/
theorem Keyed.nodup_snapshot {l : LiveSub} (h : l.Keyed) : (l.snapshot.map targetKey).Nodup := by
  rw [h.snapshot_keys]
  exact l.targets.nodupKeys

/-- After any changes every target is under its own key. -/
theorem keyed_after (subscriberID : SubscriberID) (initial : List SyncTarget)
    (changes : List TargetChange) : (after subscriberID initial changes).Keyed := by
  unfold after
  generalize hl : new subscriberID initial = l
  have hkeyed : l.Keyed := hl ▸ keyed_new subscriberID initial
  clear hl
  induction changes generalizing l with
  | nil => exact hkeyed
  | cons c changes ih => exact ih _ (hkeyed.apply c.add c.remove)

end LiveSub

/-! ## Exactly the set -/

/-- Over targets of `T`, where each target has binding keys of `B`: a stream's target set is the
mathematical one, each target once, and two responses have one entry in the loop's maps only when
they are for one target and one binding key. -/
structure TracksExactly (T : Set SyncTarget) (B : SyncTarget → Set String) : Prop where
  snapshot : ∀ subscriberID initial changes, (∀ t ∈ initial, t ∈ T) →
    (∀ c : TargetChange, c ∈ changes → c.Within T) →
      (LiveSub.after subscriberID initial changes).snapshot.Nodup ∧
        ∀ t, t ∈ (LiveSub.after subscriberID initial changes).snapshot ↔ t ∈ tracked initial changes
  entry : ∀ resp resp' : GatewaySubscribeResponse, ∀ state state' : TargetState,
    resp.state = some state → resp'.state = some state' → state.target ∈ T → state'.target ∈ T →
      resp.bindingKey ∈ B state.target → resp'.bindingKey ∈ B state'.target →
        responseKey resp = responseKey resp' →
          state.target = state'.target ∧ resp.bindingKey = resp'.bindingKey

variable {T : Set SyncTarget} {B : SyncTarget → Set String}

/-- The key of a response with a state is that of its target and binding. -/
theorem responseKey_of_state {resp : GatewaySubscribeResponse} {state : TargetState}
    (h : resp.state = some state) :
    responseKey resp = targetBindingKey state.target resp.bindingKey := by
  unfold responseKey
  rw [h]

/-- Targets of which no two clash have keys of their own. -/
theorem injOn_targetKey (h : ∀ t ∈ T, ∀ t' ∈ T, ¬ Clash t t') : Set.InjOn targetKey T := by
  intro t ht t' ht' hkey
  rcases targetKey_eq_iff.mp hkey with hsame | hclash | hclash
  · exact hsame
  · exact absurd hclash (h t ht t' ht')
  · exact absurd hclash (h t' ht' t ht)

/-- A set that is tracked exactly has no two targets that clash: of a stream that begins with both,
one is lost. -/
theorem TracksExactly.not_clash (h : TracksExactly T B) {t t' : SyncTarget} (ht : t ∈ T)
    (ht' : t' ∈ T) : ¬ Clash t t' := by
  intro hclash
  have hinitial : ∀ u ∈ [t, t'], u ∈ T := by
    simp only [List.mem_cons, List.not_mem_nil, or_false]
    rintro u (rfl | rfl)
    · exact ht
    · exact ht'
  obtain ⟨-, hmem⟩ := h.snapshot "" [t, t'] [] hinitial fun c hc => absurd hc List.not_mem_nil
  have hnodup := (LiveSub.keyed_after "" [t, t'] []).nodup_snapshot
  have hkey : targetKey t = targetKey t' := targetKey_eq_iff.mpr (.inr (.inl hclash))
  have hsame := List.inj_on_of_nodup_map hnodup ((hmem t).mpr (by simp [tracked]))
    ((hmem t').mpr (by simp [tracked])) hkey
  exact hclash.ne hsame

/-- Nor two targets of which one goes on in a binding key of the other. -/
theorem TracksExactly.not_recut (h : TracksExactly T B) {t t' : SyncTarget} (ht : t ∈ T)
    (ht' : t' ∈ T) {b b' : String} (hb : b ∈ B t) (hb' : b' ∈ B t') :
    ¬ Recut "#" (targetKey t) b (targetKey t') b' := by
  intro hrecut
  obtain ⟨hsame, -⟩ := h.entry { state := some { target := t }, bindingKey := b }
    { state := some { target := t' }, bindingKey := b' } { target := t } { target := t' } rfl rfl ht
    ht' hb hb' (targetBindingKey_eq_iff.mpr (.inr (.inl hrecut)))
  exact hrecut.ne rfl (congrArg targetKey hsame)

/-- A live subscription tracks exactly its set of targets, and no two targets with binding keys
share an entry, exactly when no two of the targets clash and no target goes on in the binding key of
another one. -/
theorem tracksExactly_iff (T : Set SyncTarget) (B : SyncTarget → Set String) :
    TracksExactly T B ↔
      (∀ t ∈ T, ∀ t' ∈ T, ¬ Clash t t') ∧
        ∀ t ∈ T, ∀ t' ∈ T, ∀ b ∈ B t, ∀ b' ∈ B t',
          ¬ Recut "#" (targetKey t) b (targetKey t') b' := by
  constructor
  · intro h
    exact ⟨fun t ht t' ht' => h.not_clash ht ht',
      fun t ht t' ht' b hb b' hb' => h.not_recut ht ht' hb hb'⟩
  · rintro ⟨hclash, hrecut⟩
    have hT := injOn_targetKey hclash
    constructor
    · intro subscriberID initial changes hinitial hchanges
      have hholds := LiveSub.holds_changes hT hchanges hinitial
        (LiveSub.holds_new hT subscriberID hinitial)
      exact ⟨(LiveSub.keyed_after subscriberID initial changes).nodup_snapshot.of_map,
        hholds.mem_snapshot⟩
    · intro resp resp' state state' hstate hstate' ht ht' hb hb' hkey
      rw [responseKey_of_state hstate, responseKey_of_state hstate'] at hkey
      rcases targetBindingKey_eq_iff.mp hkey with ⟨hsame, hbinding⟩ | hcut | hcut
      · exact ⟨hT ht ht' hsame, hbinding⟩
      · exact absurd hcut (hrecut _ ht _ ht' _ hb _ hb')
      · exact absurd hcut (hrecut _ ht' _ ht _ hb' _ hb)

/-- Two targets that are cut from one text. -/
def slashInId : SyncTarget := { ns := "a", id := "b/c" }

/-- A target whose namespace has a slash in it. -/
def slashInNs : SyncTarget := { ns := "a/b", id := "c" }

/-- Both are valid, and a stream that begins with both has only the second one. -/
theorem clashing_target_is_lost :
    validateTarget (some slashInId) = .ok slashInId ∧
      validateTarget (some slashInNs) = .ok slashInNs ∧
        (LiveSub.after "device" [slashInId, slashInNs] []).snapshot = [slashInNs] ∧
          slashInId ∈ tracked [slashInId, slashInNs] [] := by
  refine ⟨by decide, by decide, by decide, ?_⟩
  simp [tracked]

/-- Plain targets are tracked exactly, whatever their binding keys. -/
theorem tracksExactly_of_plain (h : ∀ t ∈ T, t.Plain) : TracksExactly T B := by
  refine (tracksExactly_iff T B).mpr ⟨fun t _ t' ht' => (h t' ht').not_clash, ?_⟩
  intro t _ t' ht' b _ b' _ hcut
  exact (h t' ht').hash (hcut.mem_left rfl)

end Synclog.Gateway
