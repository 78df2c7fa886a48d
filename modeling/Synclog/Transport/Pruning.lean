import Synclog.Gateway.Keys
import Synclog.Transport.GatewaySubscribe

/-!
# What pruning keeps

When targets have left a live stream, `pruneDeliveryState` drops their entries from the two maps of
the loop. It does not see targets but keys, and keeps those that begin like the keys of some active
target.

* `pruneDeliveryState` — the two maps after it; `reads_pruneDeliveryState` — the marks of the loop
  after it are these.
* `Shadows` — a target whose keys look like the key of another target and a binding key.
* `prunesExactly_iff` — pruning keeps the entries of the active targets and no others exactly when
  no active target shadows an entry of another one.
* `stale_entry_survives` — with a `#` in the view of the target that left it does not.
-/

namespace Synclog.Transport

open Synclog.Lib Synclog.Gateway Synclog.Gateway.SyncTarget

/-- Source: `server.go`, `pruneDeliveryState`: the two maps after it. -/
def pruneDeliveryState (delivered : FinMap String Nat) (tooLongSent : FinMap String Bool)
    (targets : List SyncTarget) : FinMap String Nat × FinMap String Bool :=
  if delivered.keys.length = 0 ∧ tooLongSent.keys.length = 0 then (delivered, tooLongSent)
  else (delivered.keep (Loop.keeps targets), tooLongSent.keep (Loop.keeps targets))

section Maps

variable (delivered : FinMap String Nat) (tooLongSent : FinMap String Bool)
  (targets : List SyncTarget)

/-- Pruning is the same with and without the early return. -/
theorem pruneDeliveryState_eq : pruneDeliveryState delivered tooLongSent targets =
    (delivered.keep (Loop.keeps targets), tooLongSent.keep (Loop.keeps targets)) := by
  unfold pruneDeliveryState
  split_ifs with hempty
  · -- there is no key that could be dropped
    obtain ⟨hdelivered, hsent⟩ := hempty
    have hno (keys : List String) (hkeys : keys.length = 0) (key : String) : key ∉ keys := by
      rw [List.length_eq_zero_iff.mp hkeys]
      exact List.not_mem_nil
    rw [FinMap.keep_eq_self fun key hkey => absurd hkey (hno _ hdelivered key),
      FinMap.keep_eq_self fun key hkey => absurd hkey (hno _ hsent key)]
  · rfl

/-- Pruning keeps the entries of active targets in both maps. -/
theorem lookup_pruneDeliveryState (key : String) :
    (pruneDeliveryState delivered tooLongSent targets).1.lookup key =
        (if Loop.keeps targets key then delivered.lookup key else none) ∧
      (pruneDeliveryState delivered tooLongSent targets).2.lookup key =
        if Loop.keeps targets key then tooLongSent.lookup key else none := by
  rw [pruneDeliveryState_eq]
  exact ⟨FinMap.lookup_keep _ _ _, FinMap.lookup_keep _ _ _⟩

/-- A key is in neither map when it had no entry or is not kept. -/
theorem not_mem_pruneDeliveryState_iff (key : String) :
    (key ∉ (pruneDeliveryState delivered tooLongSent targets).1 ∧
        key ∉ (pruneDeliveryState delivered tooLongSent targets).2) ↔
      (key ∈ delivered ∨ key ∈ tooLongSent → ¬ Loop.keeps targets key = true) := by
  obtain ⟨hdelivered, hsent⟩ := lookup_pruneDeliveryState delivered tooLongSent targets key
  rw [← AList.lookup_eq_none, ← AList.lookup_eq_none, hdelivered, hsent]
  by_cases hkeeps : Loop.keeps targets key = true
  · simp [hkeeps, AList.lookup_eq_none]
  · simp [hkeeps]

end Maps

/-! ## The marks of the loop -/

/-- The marks of the loop are what the two maps hold, a missing entry being the zero value. -/
def Loop.Reads (σ : Loop) (delivered : FinMap String Nat) (tooLongSent : FinMap String Bool) :
    Prop :=
  ∀ key, σ.mark key =
    { delivered := (delivered.lookup key).getD 0
      tooLongSent := (tooLongSent.lookup key).getD false }

/-- Pruning the marks is pruning the maps. -/
theorem reads_pruneDeliveryState {σ : Loop} {delivered : FinMap String Nat}
    {tooLongSent : FinMap String Bool} (h : σ.Reads delivered tooLongSent)
    (targets : List SyncTarget) :
    (σ.pruneDeliveryState targets).Reads (pruneDeliveryState delivered tooLongSent targets).1
      (pruneDeliveryState delivered tooLongSent targets).2 := by
  intro key
  obtain ⟨hdelivered, hsent⟩ := lookup_pruneDeliveryState delivered tooLongSent targets key
  rw [σ.mark_pruneDeliveryState, hdelivered, hsent]
  split_ifs
  · exact h key
  · rfl

/-! ## Keys that look alike -/

/-- The key of `t` and `b` is a key of `t'` as well: the two targets clash, or the keys of `t` go on
from one of `t'`, or a key of `t'` goes on into `b`. -/
def Shadows (t' t : SyncTarget) (b : String) : Prop :=
  Clash t t' ∨ Clash t' t ∨ (∃ w, targetKey t = targetKey t' ++ "#" ++ w) ∨
    ∃ w rest, targetKey t' = targetKey t ++ "#" ++ w ∧ b = w ++ "#" ++ rest

/-- Two targets share a key when they are equal or one shadows the other. -/
theorem exists_targetBindingKey_eq_iff {t t' : SyncTarget} {b : String} :
    (∃ b', targetBindingKey t b = targetBindingKey t' b') ↔ t = t' ∨ Shadows t' t b := by
  unfold Shadows
  constructor
  · rintro ⟨b', heq⟩
    -- one text, cut at the same `#`, at a later one for `t'`, or at a later one for `t`
    rcases targetBindingKey_eq_iff.mp heq with ⟨hkey, -⟩ | ⟨w, ht', hb⟩ | ⟨w, ht, -⟩
    · rcases targetKey_eq_iff.mp hkey with hsame | hclash | hclash
      · exact .inl hsame
      · exact .inr (.inl hclash)
      · exact .inr (.inr (.inl hclash))
    · exact .inr (.inr (.inr (.inr ⟨w, b', ht', hb⟩)))
    · exact .inr (.inr (.inr (.inl ⟨w, ht⟩)))
  · have hsame (hkey : targetKey t = targetKey t') :
        ∃ b', targetBindingKey t b = targetBindingKey t' b' :=
      ⟨b, targetBindingKey_eq_iff.mpr (.inl ⟨hkey, rfl⟩)⟩
    rintro (rfl | hclash | hclash | ⟨w, ht⟩ | ⟨w, rest, ht', hb⟩)
    · exact hsame rfl
    · exact hsame (targetKey_eq_iff.mpr (.inr (.inl hclash)))
    · exact hsame (targetKey_eq_iff.mpr (.inr (.inr hclash)))
    · exact ⟨w ++ "#" ++ b, targetBindingKey_eq_iff.mpr (.inr (.inr ⟨w, ht, rfl⟩))⟩
    · exact ⟨rest, targetBindingKey_eq_iff.mpr (.inr (.inl ⟨w, ht', hb⟩))⟩

/-- An entry survives when its target is active or shadowed by an active one. -/
theorem keeps_targetBindingKey_iff {targets : List SyncTarget} {t : SyncTarget} {b : String} :
    Loop.keeps targets (targetBindingKey t b) = true ↔
      t ∈ targets ∨ ∃ t' ∈ targets, Shadows t' t b := by
  simp only [keeps_iff, exists_targetBindingKey_eq_iff]
  constructor
  · rintro ⟨t', ht', rfl | hshadows⟩
    · exact .inl ht'
    · exact .inr ⟨t', ht', hshadows⟩
  · rintro (ht | ⟨t', ht', hshadows⟩)
    · exact ⟨t, ht, .inl rfl⟩
    · exact ⟨t', ht', .inr hshadows⟩

/-- Plain targets cast no shadow on one another. -/
theorem not_shadows_of_plain {t t' : SyncTarget} {b : String} (h : t.Plain) (h' : t'.Plain) :
    t ≠ t' → ¬ Shadows t' t b := by
  intro hne hshadows
  obtain ⟨b', heq⟩ := exists_targetBindingKey_eq_iff.mpr (.inr hshadows)
  exact hne (h.targetBindingKey_inj h' heq).1

/-! ## Entries of targets with binding keys -/

/-- The keys of the two maps are those of targets with binding keys: the targets are valid, and no
two of the pairs have one key. -/
structure Keyed (P : Set (SyncTarget × String)) (delivered : FinMap String Nat)
    (tooLongSent : FinMap String Bool) : Prop where
  valid : ∀ p ∈ P, validateTarget (some p.1) = .ok p.1
  injOn : Set.InjOn (fun p : SyncTarget × String => targetBindingKey p.1 p.2) P
  keys : ∀ key, key ∈ delivered ∨ key ∈ tooLongSent → ∃ p ∈ P, key = targetBindingKey p.1 p.2

/-- Pruning keeps the entries of the active targets with their values, and drops those of the other
targets. -/
structure PrunesExactly (P : Set (SyncTarget × String)) (delivered : FinMap String Nat)
    (tooLongSent : FinMap String Bool) (active : List SyncTarget) : Prop where
  kept : ∀ p ∈ P, p.1 ∈ active →
    (pruneDeliveryState delivered tooLongSent active).1.lookup (targetBindingKey p.1 p.2) =
        delivered.lookup (targetBindingKey p.1 p.2) ∧
      (pruneDeliveryState delivered tooLongSent active).2.lookup (targetBindingKey p.1 p.2) =
        tooLongSent.lookup (targetBindingKey p.1 p.2)
  dropped : ∀ p ∈ P, p.1 ∉ active →
    targetBindingKey p.1 p.2 ∉ (pruneDeliveryState delivered tooLongSent active).1 ∧
      targetBindingKey p.1 p.2 ∉ (pruneDeliveryState delivered tooLongSent active).2

section Exact

variable {P : Set (SyncTarget × String)} {delivered : FinMap String Nat}
  {tooLongSent : FinMap String Bool} {active : List SyncTarget}

/-- The entry of a target that is not active is dropped unless an active target shadows it. -/
theorem not_keeps_targetBindingKey_iff {t : SyncTarget} {b : String} (hleft : t ∉ active) :
    ¬ Loop.keeps active (targetBindingKey t b) = true ↔ ∀ t' ∈ active, ¬ Shadows t' t b := by
  rw [keeps_targetBindingKey_iff, or_iff_right hleft]
  simp only [not_exists, not_and]

/-- Without shadows pruning is exact. -/
theorem prunesExactly_of_not_shadows
    (h : ∀ p ∈ P, p.1 ∉ active →
      (targetBindingKey p.1 p.2 ∈ delivered ∨ targetBindingKey p.1 p.2 ∈ tooLongSent) →
        ∀ t' ∈ active, ¬ Shadows t' p.1 p.2) :
    PrunesExactly P delivered tooLongSent active := by
  constructor
  · intro p _ hactive
    have hkeeps : Loop.keeps active (targetBindingKey p.1 p.2) = true :=
      keeps_targetBindingKey_iff.mpr (.inl hactive)
    obtain ⟨hdelivered, hsent⟩ :=
      lookup_pruneDeliveryState delivered tooLongSent active (targetBindingKey p.1 p.2)
    rw [hdelivered, hsent, if_pos hkeeps, if_pos hkeeps]
    exact ⟨rfl, rfl⟩
  · intro p hp hleft
    refine (not_mem_pruneDeliveryState_iff _ _ _ _).mpr fun hentry => ?_
    exact (not_keeps_targetBindingKey_iff hleft).mpr (h p hp hleft hentry)

/-- Pruning is exact for plain targets, whatever their binding keys. -/
theorem prunesExactly_of_plain (hP : ∀ p ∈ P, p.1.Plain) (hactive : ∀ t ∈ active, t.Plain) :
    PrunesExactly P delivered tooLongSent active := by
  apply prunesExactly_of_not_shadows
  intro p hp hleft _ t' ht'
  refine not_shadows_of_plain (hP p hp) (hactive t' ht') ?_
  rintro rfl
  exact hleft ht'

/-- Pruning is exact where no active target shadows an entry of a target that is not active, and
only there. -/
theorem prunesExactly_iff (P : Set (SyncTarget × String)) (delivered : FinMap String Nat)
    (tooLongSent : FinMap String Bool) (active : List SyncTarget) :
    PrunesExactly P delivered tooLongSent active ↔
      ∀ p ∈ P, p.1 ∉ active →
        (targetBindingKey p.1 p.2 ∈ delivered ∨ targetBindingKey p.1 p.2 ∈ tooLongSent) →
          ∀ t' ∈ active, ¬ Shadows t' p.1 p.2 := by
  constructor
  · intro h p hp hleft hentry
    have hdropped := h.dropped p hp hleft
    rw [not_mem_pruneDeliveryState_iff] at hdropped
    exact (not_keeps_targetBindingKey_iff hleft).mp (hdropped hentry)
  · exact prunesExactly_of_not_shadows

end Exact

/-! ## A `#` in a view -/

/-- A target, and one whose view goes on after a `#`. -/
def plainView : SyncTarget := { ns := "n", id := "i", view := "v" }

/-- A target whose view has a hash sign in it. -/
def hashView : SyncTarget := { ns := "n", id := "i", view := "v#w" }

/-- Both have been sent events under one binding key. -/
def bothDelivered : FinMap String Nat :=
  ((∅ : FinMap String Nat).insert "n/i/v#default" 3).insert "n/i/v#w#default" 7

/-- The second target leaves, and its entry stays. -/
theorem stale_entry_survives :
    Keyed {(plainView, "default"), (hashView, "default")} bothDelivered ∅ ∧
      hashView ∉ [plainView] ∧
        (pruneDeliveryState bothDelivered ∅ [plainView]).1.lookup
            (targetBindingKey hashView "default") = some 7 ∧
          ¬ PrunesExactly {(plainView, "default"), (hashView, "default")} bothDelivered ∅
            [plainView] := by
  have hkey : targetBindingKey plainView "default" ≠ targetBindingKey hashView "default" := by
    decide
  have hstays : (pruneDeliveryState bothDelivered ∅ [plainView]).1.lookup
      (targetBindingKey hashView "default") = some 7 := by
    decide
  refine ⟨⟨?_, ?_, ?_⟩, by decide, hstays, ?_⟩
  · rintro p (rfl | rfl)
    · decide
    · decide
  · rintro p (rfl | rfl) q (rfl | rfl) heq
    · rfl
    · exact absurd heq hkey
    · exact absurd heq.symm hkey
    · rfl
  · intro key hmem
    have hentry : key = "n/i/v#w#default" ∨ key = "n/i/v#default" := by
      simpa only [bothDelivered, AList.mem_insert, AList.notMem_empty, or_false] using hmem
    rcases hentry with rfl | rfl
    · exact ⟨_, .inr rfl, by decide⟩
    · exact ⟨_, .inl rfl, by decide⟩
  · intro h
    obtain ⟨hdropped, -⟩ := h.dropped (hashView, "default") (.inr rfl) (by decide)
    rw [← AList.lookup_eq_none, hstays] at hdropped
    cases hdropped

end Synclog.Transport
