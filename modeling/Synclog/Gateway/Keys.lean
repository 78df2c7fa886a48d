import Synclog.Gateway.Types
import Synclog.Lib.Joined

/-!
# When two targets have one key

`targetKey` joins namespace, id and view with `/`, `targetBindingKey` adds a binding key after `#`.
Nothing is escaped, and `validateTarget` only wants the namespace and the id not to be empty.

* `SyncTarget.Clash` — two targets that are cut differently from one text; `targetKey_eq_iff`: the
  key determines the target up to that.
* `targetBindingKey_eq_iff` — the same for a target with a binding key.
* `SyncTarget.Plain` — no `/` in namespace and id, no `#`: plain targets do not clash.
-/

namespace Synclog.Gateway

open Synclog.Lib

namespace SyncTarget

variable {t t' : SyncTarget}

/-- Both targets are cut from one joined text, `t'` at a later `/` than `t`: the namespace of `t'`
goes on with more of it, or the namespaces are the same and the id does. -/
def Clash (t t' : SyncTarget) : Prop :=
  Recut "/" t.ns (t.id ++ "/" ++ t.view) t'.ns (t'.id ++ "/" ++ t'.view) ∨
    t.ns = t'.ns ∧ Recut "/" t.id t.view t'.id t'.view

/-- A target does not clash with itself. -/
theorem Clash.ne (h : Clash t t') : t ≠ t' := by
  rintro rfl
  rcases h with hns | ⟨-, hid⟩
  · exact hns.ne rfl rfl
  · exact hid.ne rfl rfl

/-- Targets are equal field by field. -/
theorem eq_iff : t = t' ↔ t.ns = t'.ns ∧ t.id = t'.id ∧ t.view = t'.view := by
  cases t
  cases t'
  simp

/-- No `/` in the namespace and the id, and no `#` at all. -/
structure Plain (t : SyncTarget) : Prop where
  ns_slash : '/' ∉ t.ns.toList
  id_slash : '/' ∉ t.id.toList
  hash : '#' ∉ (targetKey t).toList

end SyncTarget

open SyncTarget

/-- The key of a target is its namespace, and what follows behind a slash. -/
theorem targetKey_eq (t : SyncTarget) :
    targetKey t = t.ns ++ "/" ++ (t.id ++ "/" ++ t.view) := by
  simp only [targetKey, String.append_assoc]

/-- Two targets with one key are the same, or they clash. -/
theorem targetKey_eq_iff {t t' : SyncTarget} :
    targetKey t = targetKey t' ↔ t = t' ∨ Clash t t' ∨ Clash t' t := by
  rw [targetKey_eq, targetKey_eq, joined_eq_iff rfl, joined_eq_iff rfl, SyncTarget.eq_iff]
  unfold Clash
  grind

/-- Two targets with binding keys that are joined to one text have one key and the same binding key,
or the one text is cut at another `#`. -/
theorem targetBindingKey_eq_iff {t t' : SyncTarget} {b b' : String} :
    targetBindingKey t b = targetBindingKey t' b' ↔
      targetKey t = targetKey t' ∧ b = b' ∨ Recut "#" (targetKey t) b (targetKey t') b' ∨
        Recut "#" (targetKey t') b' (targetKey t) b := joined_eq_iff rfl

/-- A plain target leaves nothing to cut at a later `/`. -/
theorem SyncTarget.Plain.not_clash {t t' : SyncTarget} (h : t'.Plain) : ¬ Clash t t' := by
  rintro (hns | ⟨-, hid⟩)
  · exact h.ns_slash (hns.mem_left rfl)
  · exact h.id_slash (hid.mem_left rfl)

/-- The key of a plain target determines it. -/
theorem SyncTarget.Plain.targetKey_inj {t t' : SyncTarget} (h : t.Plain) (h' : t'.Plain)
    (heq : targetKey t = targetKey t') : t = t' := by
  rcases targetKey_eq_iff.mp heq with hsame | hclash | hclash
  · exact hsame
  · exact absurd hclash h'.not_clash
  · exact absurd hclash h.not_clash

/-- A plain target and a binding key are determined by the key they have together. -/
theorem SyncTarget.Plain.targetBindingKey_inj {t t' : SyncTarget} {b b' : String} (h : t.Plain)
    (h' : t'.Plain) (heq : targetBindingKey t b = targetBindingKey t' b') : t = t' ∧ b = b' := by
  obtain ⟨hkey, hb⟩ := joined_inj_left rfl h.hash h'.hash heq
  exact ⟨h.targetKey_inj h' hkey, hb⟩

end Synclog.Gateway
