import Synclog.Client.MemoryStore
import Synclog.Gateway.Keys

/-!
# Whether subscriptions share a record

`MemorySyncStore` keeps its records under one joined key for each subscription, and `clearTarget`
finds the records of a target by a segment of the key.

* `MemorySyncStore.Isolated` — in a state, the calls for one subscription leave the records of the
  others alone, and `clearTarget` empties the records of its target and no others.
* `TargetBindingKey.Clash` — two subscriptions that are cut differently from one text.
* `isolated_iff` — the subscriptions of a set stay apart in every run exactly when no two of them
  clash and the segment of a target occurs in the keys of its own subscriptions only.
* `unambiguous_of_plain` — that is so where no field has a separator that the key joins it with.
-/

namespace Synclog.Client

open Synclog.Lib Synclog.Core Synclog.Gateway

/-! ## Keys -/

namespace TargetBindingKey

variable {k k' : TargetBindingKey}

/-- The subscriptions are cut from one joined text, `k'` at a later separator than `k`. -/
def Clash (k k' : TargetBindingKey) : Prop :=
  Recut ":" k.subscriberId (Gateway.targetBindingKey k.target k.bindingKey) k'.subscriberId
      (Gateway.targetBindingKey k'.target k'.bindingKey) ∨
    k.subscriberId = k'.subscriberId ∧
      (Recut "#" (targetKey k.target) k.bindingKey (targetKey k'.target) k'.bindingKey ∨
        k.bindingKey = k'.bindingKey ∧ SyncTarget.Clash k.target k'.target)

/-- A key does not clash with itself. -/
theorem Clash.ne (h : Clash k k') : k ≠ k' := by
  rintro rfl
  rcases h with hsubscriber | ⟨-, hbinding | ⟨-, htarget⟩⟩
  · exact hsubscriber.ne rfl rfl
  · exact hbinding.ne rfl rfl
  · exact htarget.ne rfl

/-- Keys are equal field by field. -/
theorem eq_iff : k = k' ↔
    k.subscriberId = k'.subscriberId ∧ k.target = k'.target ∧ k.bindingKey = k'.bindingKey := by
  cases k
  cases k'
  simp

end TargetBindingKey

open TargetBindingKey

/-- The encoded key is the subscriber before the encoded binding. -/
theorem targetBindingKey_eq (k : TargetBindingKey) :
    targetBindingKey k =
      k.subscriberId ++ ":" ++ Gateway.targetBindingKey k.target k.bindingKey := by
  simp only [targetBindingKey, Gateway.targetBindingKey, String.append_assoc]

/-- Two subscriptions with one key are the same, or they clash. -/
theorem targetBindingKey_eq_iff {k k' : TargetBindingKey} :
    targetBindingKey k = targetBindingKey k' ↔ k = k' ∨ Clash k k' ∨ Clash k' k := by
  rw [targetBindingKey_eq, targetBindingKey_eq, joined_eq_iff rfl, Gateway.targetBindingKey_eq_iff,
    targetKey_eq_iff, TargetBindingKey.eq_iff]
  unfold Clash
  grind

/-- `includes` finds a text as a block of characters. -/
theorem MemorySyncStore.includes_iff {s sub : String} :
    includes s sub = true ↔ sub.toList <:+: s.toList := by
  unfold includes
  simp only [List.any_eq_true, List.mem_tails, List.isPrefixOf_iff_prefix,
    List.infix_iff_prefix_suffix, and_comm]

/-- The segment of a target is in the key of each of its subscriptions. -/
theorem MemorySyncStore.includes_marker (k : TargetBindingKey) :
    includes (targetBindingKey k) (marker k.target) = true := by
  refine includes_iff.mpr ⟨k.subscriberId.toList, k.bindingKey.toList, ?_⟩
  simp [targetBindingKey, marker, String.toList_append]

/-! ## Runs -/

section Runs

variable {TSnapshot TEvent : Type}

/-- The call is for a subscription of `Q`, or clears a target of `T`. -/
def MemorySyncCall.Within (Q : Set TargetBindingKey) (T : Set SyncTarget) :
    MemorySyncCall TSnapshot TEvent → Prop
  | .getAppliedSeq key => key ∈ Q
  | .applySnapshot key _ => key ∈ Q
  | .applyEvents key _ => key ∈ Q
  | .clearTarget target => target ∈ T

/-- A call for one subscription of `Q` leaves the records of the others alone, and clearing a target
of `T` empties the records of its subscriptions and leaves those of the other targets alone. -/
structure MemorySyncStore.Isolated (Q : Set TargetBindingKey) (T : Set SyncTarget)
    (s : MemorySyncStore TSnapshot TEvent) : Prop where
  applySnapshot : ∀ k ∈ Q, ∀ k' ∈ Q, k ≠ k' → ∀ snapshot,
    (s.applySnapshot k snapshot).getRecord k' = s.getRecord k'
  applyEvents : ∀ k ∈ Q, ∀ k' ∈ Q, k ≠ k' → ∀ events,
    (s.applyEvents k events).getRecord k' = s.getRecord k'
  clearTarget : ∀ t ∈ T, ∀ k ∈ Q,
    (s.clearTarget t).getRecord k = if k.target = t then {} else s.getRecord k

/-- No two subscriptions of `Q` clash, and the segment by which a target of `T` is found is in the
keys of its own subscriptions only. -/
structure Unambiguous (Q : Set TargetBindingKey) (T : Set SyncTarget) : Prop where
  not_clash : ∀ k ∈ Q, ∀ k' ∈ Q, ¬ Clash k k'
  own_marker : ∀ t ∈ T, ∀ k ∈ Q,
    MemorySyncStore.includes (targetBindingKey k) (MemorySyncStore.marker t) = true → k.target = t

variable {Q : Set TargetBindingKey} {T : Set SyncTarget}

/-- Subscriptions that stay apart in every store. -/
theorem Unambiguous.isolated (h : Unambiguous Q T) (s : MemorySyncStore TSnapshot TEvent) :
    s.Isolated Q T := by
  have hkeys : ∀ k ∈ Q, ∀ k' ∈ Q, k ≠ k' → targetBindingKey k' ≠ targetBindingKey k := by
    intro k hk k' hk' hne heq
    rcases targetBindingKey_eq_iff.mp heq with hsame | hclash | hclash
    · exact hne hsame.symm
    · exact h.not_clash k' hk' k hk hclash
    · exact h.not_clash k hk k' hk' hclash
  constructor
  · intro k hk k' hk' hne snapshot
    rw [s.getRecord_applySnapshot, if_neg (hkeys k hk k' hk' hne)]
  · intro k hk k' hk' hne events
    rw [s.getRecord_applyEvents, if_neg (hkeys k hk k' hk' hne)]
  · intro t ht k hk
    rw [s.getRecord_clearTarget]
    by_cases htarget : k.target = t
    · rw [if_pos htarget, if_pos]
      rw [← htarget]
      exact MemorySyncStore.includes_marker k
    · rw [if_neg htarget, if_neg]
      exact fun hin => htarget (h.own_marker t ht k hk hin)

variable [Inhabited TSnapshot]

/-- A snapshot for the first record of a store. -/
def firstSnapshot (target : SyncTarget) : DecodedGatewaySnapshot TSnapshot where
  seq := 1
  payloadType := "snapshot"
  payloadVersion := 1
  raw := { target, seq := 1 }
  value := default

/-- The record that the snapshot leads to is no empty one. -/
private theorem applied_firstSnapshot (k k' : TargetBindingKey)
    (h : targetBindingKey k' = targetBindingKey k) :
    ((∅ : MemorySyncStore TSnapshot TEvent).applySnapshot k (firstSnapshot k.target)).getRecord k' ≠
      {} := by
  rw [MemorySyncStore.getRecord_applySnapshot, if_pos h]
  intro heq
  have hseq := congrArg MemorySyncRecord.appliedSeq heq
  cases hseq

/-- Of two subscriptions that clash, a snapshot for one is in the record of the other. -/
theorem not_isolated_of_clash {k k' : TargetBindingKey} (hk : k ∈ Q) (hk' : k' ∈ Q)
    (h : Clash k k') : ¬ (∅ : MemorySyncStore TSnapshot TEvent).Isolated Q T := by
  intro hisolated
  have hkey : targetBindingKey k' = targetBindingKey k :=
    targetBindingKey_eq_iff.mpr (.inr (.inr h))
  have hrecord : ((∅ : MemorySyncStore TSnapshot TEvent).applySnapshot k
      (firstSnapshot k.target)).getRecord k' = {} := by
    rw [hisolated.applySnapshot k hk k' hk' h.ne]
    rfl
  exact applied_firstSnapshot k k' hkey hrecord

/-- A target whose segment is in the key of a subscription to another one: to clear it empties the
record of that subscription. -/
theorem not_isolated_of_marker {t : SyncTarget} {k : TargetBindingKey} (ht : t ∈ T) (hk : k ∈ Q)
    (hne : k.target ≠ t)
    (h : MemorySyncStore.includes (targetBindingKey k) (MemorySyncStore.marker t) = true) :
    ¬ ((∅ : MemorySyncStore TSnapshot TEvent).applySnapshot k (firstSnapshot k.target)).Isolated
      Q T := by
  intro hisolated
  have hcleared := hisolated.clearTarget t ht k hk
  rw [MemorySyncStore.getRecord_clearTarget, if_pos h, if_neg hne] at hcleared
  exact applied_firstSnapshot k k rfl hcleared.symm

/-- The subscriptions of a set and the targets that are cleared stay apart in every state of every
run exactly when no two of the subscriptions clash and the segment of a target is in the keys of its
own subscriptions only. -/
theorem isolated_iff (Q : Set TargetBindingKey) (T : Set SyncTarget) :
    (∀ calls : List (MemorySyncCall TSnapshot TEvent), (∀ call ∈ calls, call.Within Q T) →
        memorySync.Throughout (MemorySyncStore.Isolated Q T) calls ∅) ↔
      Unambiguous Q T := by
  constructor
  · intro h
    constructor
    · intro k hk k' hk' hclash
      have hempty : memorySync.Throughout (MemorySyncStore.Isolated Q T) [] _ :=
        h [] fun call hcall => absurd hcall List.not_mem_nil
      exact not_isolated_of_clash hk hk' hclash hempty
    · intro t ht k hk hin
      by_contra hne
      have hrun := h [.applySnapshot k (firstSnapshot k.target)] (by
        intro call hcall
        obtain rfl := List.mem_singleton.mp hcall
        exact hk)
      exact not_isolated_of_marker ht hk hne hin (hrun.2 _ rfl)
  · intro h calls _
    refine Machine.throughout_of_always (C := fun _ _ => True) (I := fun _ => True)
      (fun _ _ _ _ _ _ => trivial) (fun s _ => h.isolated s) trivial (memorySync.always_true _ _)

end Runs

/-! ## Plain keys -/

/-- No field has a separator that the key joins it with: no `:` but in the subscriber id, no `#` but
in the binding key, no `/` but in the view, the binding key and the subscriber id. -/
structure TargetBindingKey.Plain (k : TargetBindingKey) : Prop where
  target : k.target.Plain
  subscriber_hash : '#' ∉ k.subscriberId.toList
  colon : ':' ∉ (Gateway.targetBindingKey k.target k.bindingKey).toList

/-- Plain subscriptions and plain targets are unambiguous, also where subscriber ids have colons. -/
theorem unambiguous_of_plain {Q : Set TargetBindingKey} {T : Set SyncTarget}
    (hQ : ∀ k ∈ Q, k.Plain) (hT : ∀ t ∈ T, t.Plain ∧ ':' ∉ (targetKey t).toList) :
    Unambiguous Q T := by
  constructor
  · rintro k hk k' hk' (hsubscriber | ⟨-, hbinding | ⟨-, htarget⟩⟩)
    · exact (hQ k hk).colon (hsubscriber.mem_right rfl)
    · exact (hQ k' hk').target.hash (hbinding.mem_left rfl)
    · exact (hQ k' hk').target.not_clash htarget
  · intro t ht k hk hin
    obtain ⟨htarget, hcolon⟩ := hT t ht
    have hsegment : ':' :: (targetKey t ++ "#").toList <:+: k.subscriberId.toList ++
        ':' :: (Gateway.targetBindingKey k.target k.bindingKey).toList := by
      have hinfix := MemorySyncStore.includes_iff.mp hin
      rw [targetBindingKey_eq, toList_joined (c := ':') rfl] at hinfix
      simpa [MemorySyncStore.marker, String.toList_append] using hinfix
    have hfree : ':' ∉ (targetKey t ++ "#").toList := by
      simpa [String.toList_append] using hcolon
    rcases (cons_infix_append_cons hfree (hQ k hk).colon).mp hsegment with hsub | ⟨q, hq⟩
    · -- within the subscriber id, which has no `#`
      refine absurd (hsub.subset ?_) (hQ k hk).subscriber_hash
      simp [String.toList_append]
    · have hjoined : targetKey t ++ "#" ++ String.ofList q =
          targetKey k.target ++ "#" ++ k.bindingKey := by
        rw [← String.toList_inj, String.toList_append, String.toList_ofList]
        exact hq
      obtain ⟨hkey, -⟩ := joined_inj_left rfl htarget.hash (hQ k hk).target.hash hjoined
      exact (htarget.targetKey_inj (hQ k hk).target hkey).symm

/-- Subscriptions to different targets, cut from one text. -/
def slashInId : TargetBindingKey := ⟨"phone", { ns := "a", id := "b/c" }, "default"⟩

/-- A target whose namespace has a slash in it. -/
def slashInNs : TargetBindingKey := ⟨"phone", { ns := "a/b", id := "c" }, "default"⟩

/-- A subscription of a subscriber whose id has the segment of another target in it. -/
def targetInId : TargetBindingKey := ⟨"x:n/i/#", { ns := "a", id := "b" }, "default"⟩

/-- A store to which a snapshot for one subscription was applied. -/
def withSnapshot (k : TargetBindingKey) : MemorySyncStore Unit Unit :=
  MemorySyncStore.applySnapshot ∅ k (firstSnapshot k.target)

/-- What is applied for the one target is in the record of the other, and to clear a target empties
the record of a subscription to another one. -/
theorem slashes_share_record :
    (withSnapshot slashInId).getRecord slashInNs ≠ MemorySyncStore.getRecord ∅ slashInNs ∧
      ((withSnapshot targetInId).clearTarget { ns := "n", id := "i" }).getRecord targetInId ≠
        (withSnapshot targetInId).getRecord targetInId := by
  constructor
  · intro heq
    exact absurd (congrArg MemorySyncRecord.appliedSeq heq) (by decide)
  · intro heq
    exact absurd (congrArg MemorySyncRecord.appliedSeq heq) (by decide)

end Synclog.Client
