import Mathlib.Order.Defs.LinearOrder

/-!
# Loops with a bound on their rounds

A loop that may go on forever is modelled by a function of a number of rounds: `loop n s` is what at
most `n` rounds from the state `s` lead to, and `done` tells a result of the loop from that its
rounds were used up.

* `GoesOn` — one round leads from a state to another one, where the loop goes on.
* `Halts` — some number of rounds is enough.
* `halts_of_measure`, `not_halts_of_invariant` — what every round decreases ends the loop; from a
  state that every round leads back to, it does not end.
-/

namespace Synclog.Lib

universe u v

variable {σ : Type u} {ρ : Type v} (loop : Nat → σ → ρ) (done : ρ → Prop)

/-- One round leads from `s` to `t`, whatever number of rounds is left. -/
def GoesOn (s t : σ) : Prop := ∀ n, loop (n + 1) s = loop n t

/-- Some number of rounds is enough. -/
def Halts (s : σ) : Prop := ∃ n, done (loop n s)

variable {loop done} {s t : σ}

/-- A loop that goes on to where it halts does halt. -/
theorem Halts.of_goesOn (h : GoesOn loop s t) (ht : Halts loop done t) : Halts loop done s := by
  obtain ⟨n, hn⟩ := ht
  exact ⟨n + 1, by rw [h n]; exact hn⟩

/-- From every state of `I` one round ends the loop, or leads to a state of `I` with a smaller
measure: the loop ends. -/
theorem halts_of_measure {I : σ → Prop} (measure : σ → Nat)
    (hround : ∀ s, I s →
      Halts loop done s ∨ ∃ t, GoesOn loop s t ∧ I t ∧ measure t < measure s) (hs : I s) :
    Halts loop done s := by
  induction hm : measure s using Nat.strongRecOn generalizing s with
  | ind m ih =>
      rcases hround s hs with hdone | ⟨t, hgoes, ht, hlt⟩
      · exact hdone
      · exact .of_goesOn hgoes (ih (measure t) (hm ▸ hlt) ht rfl)

/-- From every state of `I` one round leads to a state of `I`: the loop does not end. -/
theorem not_halts_of_invariant {I : σ → Prop} (hzero : ∀ s, ¬ done (loop 0 s))
    (hround : ∀ s, I s → ∃ t, GoesOn loop s t ∧ I t) (hs : I s) : ¬ Halts loop done s := by
  rintro ⟨n, hn⟩
  induction n generalizing s with
  | zero => exact hzero s hn
  | succ n ih =>
      obtain ⟨t, hgoes, ht⟩ := hround s hs
      exact ih ht (hgoes n ▸ hn)

end Synclog.Lib
