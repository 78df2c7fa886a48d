import Mathlib.Data.List.MinMax
import Mathlib.Data.Set.Image
import Mathlib.Order.Bounds.Basic

/-!
# The entry with the highest key

A loop that keeps the entry with the highest key so far, where a later entry takes its place only
with a higher one, is `List.argmax`. What this file adds to the library:

* `isGreatest_of_mem_argmax` — the key of what is kept is the greatest one, so it does not depend on
  the order of the entries, nor on how often each of them comes.
* `find?_of_mem_argmax` — what is kept is the first entry with that key.
* `argmax_eq_some_iff_of_injOn`, `argmax_image` — where no two entries have one key, what is kept
  does not depend on the order either, and follows a map that keeps the keys.
-/

namespace Synclog.Lib

universe u v w

variable {α : Type u} {κ : Type v} [LinearOrder κ] {key : α → κ} {xs : List α} {best : α}

/-- What is kept has the greatest key. -/
theorem isGreatest_of_mem_argmax (h : best ∈ xs.argmax key) :
    IsGreatest (key '' {x | x ∈ xs}) (key best) := by
  refine ⟨⟨best, List.argmax_mem h, rfl⟩, ?_⟩
  rintro _ ⟨x, hx, rfl⟩
  exact List.le_of_mem_argmax hx h

/-- What is kept is the first entry with its key. -/
theorem find?_of_mem_argmax (h : best ∈ xs.argmax key) :
    xs.find? (fun x => key x = key best) = some best := by
  induction xs using List.reverseRecOn generalizing best with
  | nil => cases h
  | append_singleton xs x ih =>
      rw [List.argmax_concat, Option.mem_def] at h
      rcases hkept : xs.argmax key with _ | kept
      · rw [hkept] at h
        obtain rfl := Option.some.inj h
        rw [List.argmax_eq_none.mp hkept]
        simp
      · rw [hkept] at h
        simp only at h
        split_ifs at h with hlt
        · -- the last entry is higher than all before it
          obtain rfl := Option.some.inj h
          have hnone : xs.find? (fun y => key y = key x) = none := by
            rw [List.find?_eq_none]
            intro y hy
            have hle : key y ≤ key kept := List.le_of_mem_argmax hy hkept
            simpa using (hle.trans_lt hlt).ne
          rw [List.find?_append, hnone]
          simp
        · obtain rfl := Option.some.inj h
          rw [List.find?_append, ih hkept]
          rfl

/-- Where no two entries have one key, the entry with the highest key is kept. -/
theorem argmax_eq_some_iff_of_injOn (hinj : Set.InjOn key {x | x ∈ xs}) :
    xs.argmax key = some best ↔ best ∈ xs ∧ ∀ x ∈ xs, key x ≤ key best := by
  constructor
  · intro h
    exact ⟨List.argmax_mem h, fun x hx => List.le_of_mem_argmax hx h⟩
  · rintro ⟨hbest, hle⟩
    rcases hkept : xs.argmax key with _ | kept
    · rw [List.argmax_eq_none.mp hkept] at hbest
      cases hbest
    · have hmem := List.argmax_mem hkept
      rw [hinj hmem hbest (le_antisymm (hle kept hmem) (List.le_of_mem_argmax hbest hkept))]

/-- Where no two entries have one key, the images of the entries under a map that keeps the keys
have the image of the highest entry as theirs, in whatever order they come and however often. -/
theorem argmax_image {β : Type w} {key' : β → κ} {ys : List β} {g : α → β}
    (hinj : Set.InjOn key {x | x ∈ xs}) (hkey : ∀ x ∈ xs, key' (g x) = key x)
    (h : ∀ y, y ∈ ys ↔ ∃ x ∈ xs, g x = y) : ys.argmax key' = (xs.argmax key).map g := by
  have hinj' : Set.InjOn key' {y | y ∈ ys} := by
    intro y hy y' hy' heq
    obtain ⟨x, hx, rfl⟩ := (h y).mp hy
    obtain ⟨x', hx', rfl⟩ := (h y').mp hy'
    rw [hkey x hx, hkey x' hx'] at heq
    rw [hinj hx hx' heq]
  rcases hbest : xs.argmax key with _ | best
  · rw [List.argmax_eq_none] at hbest
    refine List.argmax_eq_none.mpr (List.eq_nil_iff_forall_not_mem.mpr fun y hy => ?_)
    obtain ⟨x, hx, -⟩ := (h y).mp hy
    rw [hbest] at hx
    cases hx
  · obtain ⟨hmem, hle⟩ := (argmax_eq_some_iff_of_injOn hinj).mp hbest
    refine (argmax_eq_some_iff_of_injOn hinj').mpr ⟨(h _).mpr ⟨best, hmem, rfl⟩, fun y hy => ?_⟩
    obtain ⟨x, hx, rfl⟩ := (h y).mp hy
    rw [hkey x hx, hkey best hmem]
    exact hle x hx

end Synclog.Lib
