import Mathlib.Data.List.Forall2
import Synclog.Lib.Prog

/-!
# Labelled machines and their runs

A `Machine σ ℓ` takes steps chosen by a scheduler: `step l s` is the state after the step the label
`l` selects, or `none` when that step is not possible in `s`. A *run* is a list of labels, so a
statement about every list of labels is a statement about every schedule.

* `beside` — two machines on the same states, in any interleaving.
* `Always C` — every step of a run satisfies a condition on its label and the state before it.
* `Throughout P` — every state of a run satisfies `P`.
* `run_invariant`, `run_invariant_of` — what every step (that satisfies a condition) preserves,
  every run (of such steps) preserves.
* `throughout_of_always`, `throughout_iff_always` — a run whose steps satisfy `C` stays within `P`;
  only such a run does, where the other steps lead out of `P`. `throughout_iff_always_given` is
  about the runs whose steps satisfy an assumption as well.
* `run_rel` — two machines in lockstep; `run_simulated` — a machine whose steps are runs of another.
* `run_held` — a machine that makes the calls of a program, one step for each.
* `Traced σ` — a state together with all the states before it, for properties that speak of a value
  the state once had.
-/

namespace Synclog.Lib

universe u v

/-- A machine with states `σ`, whose steps are selected by labels `ℓ`. -/
structure Machine (σ : Type u) (ℓ : Type v) where
  /-- The state after the selected step, if the step is possible. -/
  step : ℓ → σ → Option σ

namespace Machine

variable {σ : Type u} {ℓ : Type v} (M : Machine σ ℓ)

/-- The state after the steps selected by a list of labels, first label first. -/
def run : List ℓ → σ → Option σ
  | [], s => some s
  | l :: ls, s => (M.step l s).bind (run ls)

/-- A run is its first step and the rest. -/
theorem run_cons (l : ℓ) (ls : List ℓ) (s : σ) :
    M.run (l :: ls) s = (M.step l s).bind (M.run ls) := rfl

/-- A run goes on from where its first step leads. -/
theorem run_cons_eq_some {l : ℓ} {ls : List ℓ} {s t : σ} :
    M.run (l :: ls) s = some t ↔ ∃ u, M.step l s = some u ∧ M.run ls u = some t := by
  rw [run_cons, Option.bind_eq_some_iff]

variable {M} in
/-- A run of one step. -/
theorem run_one {l : ℓ} {s t : σ} (h : M.step l s = some t) : M.run [l] s = some t := by
  rw [run_cons, h]
  rfl

/-- A run is made of two runs. -/
theorem run_append (ls ls' : List ℓ) (s : σ) :
    M.run (ls ++ ls') s = (M.run ls s).bind (M.run ls') := by
  induction ls generalizing s with
  | nil => rfl
  | cons l ls ih =>
      rw [List.cons_append, run_cons, run_cons, Option.bind_assoc]
      exact congrArg _ (funext ih)

/-- Two machines with the same states, whose steps interleave. -/
def beside {ℓ' : Type v} (M : Machine σ ℓ) (N : Machine σ ℓ') : Machine σ (ℓ ⊕ ℓ') where
  step
    | .inl l, s => M.step l s
    | .inr l, s => N.step l s

/-- Every step of the run satisfies `C`, a condition on the label and the state before it. -/
def Always (C : ℓ → σ → Prop) : List ℓ → σ → Prop
  | [], _ => True
  | l :: ls, s => C l s ∧ ∀ t, M.step l s = some t → Always C ls t

/-- Whether a given run meets a condition that can be decided can be found out by running it. -/
instance decidableAlways {C : ℓ → σ → Prop} [∀ l s, Decidable (C l s)] (ls : List ℓ) (s : σ) :
    Decidable (M.Always C ls s) :=
  match ls with
  | [] => isTrue trivial
  | l :: ls =>
    match hstep : M.step l s with
    | none => decidable_of_iff (C l s) (by simp [Always, hstep])
    | some t =>
      have : Decidable (M.Always C ls t) := decidableAlways ls t
      decidable_of_iff (C l s ∧ M.Always C ls t) (by simp [Always, hstep])

/-- Nothing is asked of any step. -/
theorem always_true (ls : List ℓ) (s : σ) : M.Always (fun _ _ => True) ls s := by
  induction ls generalizing s with
  | nil => trivial
  | cons l ls ih => exact ⟨trivial, fun t _ => ih t⟩

/-- Two conditions that every step satisfies. -/
theorem always_and {C D : ℓ → σ → Prop} {ls : List ℓ} {s : σ} :
    M.Always (fun l s => C l s ∧ D l s) ls s ↔ M.Always C ls s ∧ M.Always D ls s := by
  induction ls generalizing s with
  | nil => exact ⟨fun _ => ⟨trivial, trivial⟩, fun _ => trivial⟩
  | cons l ls ih =>
      show (_ ∧ ∀ t, _ → _) ↔ (_ ∧ ∀ t, _ → _) ∧ _ ∧ ∀ t, _ → _
      simp only [ih]
      exact ⟨fun ⟨⟨hC, hD⟩, hrest⟩ => ⟨⟨hC, fun t ht => (hrest t ht).1⟩, hD,
        fun t ht => (hrest t ht).2⟩, fun ⟨⟨hC, hCs⟩, hD, hDs⟩ =>
          ⟨⟨hC, hD⟩, fun t ht => ⟨hCs t ht, hDs t ht⟩⟩⟩

/-- A condition that the labels satisfy in any state. -/
theorem always_of_forall {C : ℓ → σ → Prop} {ls : List ℓ} (h : ∀ l ∈ ls, ∀ s, C l s) (s : σ) :
    M.Always C ls s := by
  induction ls generalizing s with
  | nil => trivial
  | cons l ls ih =>
      refine ⟨h l List.mem_cons_self s, fun t _ => ih ?_ t⟩
      exact fun l' hl' => h l' (List.mem_cons_of_mem _ hl')

/-- Every state of the run satisfies `P`, the first and the last included. -/
def Throughout (P : σ → Prop) : List ℓ → σ → Prop
  | [], s => P s
  | l :: ls, s => P s ∧ ∀ t, M.step l s = some t → Throughout P ls t

/-- What holds throughout holds at the start. -/
theorem Throughout.first {P : σ → Prop} {ls : List ℓ} {s : σ} (h : M.Throughout P ls s) : P s := by
  cases ls with
  | nil => exact h
  | cons l ls => exact h.1

variable {M}

/-- What every step that satisfies `C` preserves, every run of such steps preserves. -/
theorem run_invariant_of {C : ℓ → σ → Prop} {I : σ → Prop}
    (hstep : ∀ l s t, C l s → M.step l s = some t → I s → I t) :
    ∀ {ls : List ℓ} {s t : σ}, M.Always C ls s → M.run ls s = some t → I s → I t := by
  intro ls
  induction ls with
  | nil =>
      intro s t _ hrun hs
      cases hrun
      exact hs
  | cons l ls ih =>
      intro s t halways hrun hs
      obtain ⟨u, hu, hrest⟩ := (M.run_cons_eq_some).mp hrun
      exact ih (halways.2 u hu) hrest (hstep l s u halways.1 hu hs)

/-- What every step preserves, every run preserves. -/
theorem run_invariant {I : σ → Prop}
    (hstep : ∀ l s t, M.step l s = some t → I s → I t) :
    ∀ {ls : List ℓ} {s t : σ}, M.run ls s = some t → I s → I t := by
  intro ls s t hrun hs
  have halways : M.Always (fun _ _ => True) ls s := M.always_true ls s
  exact run_invariant_of (fun l s t _ => hstep l s t) halways hrun hs

/-- Under an invariant of the steps that satisfy `D`, a condition that says the same as `D`: a run
whose steps all satisfy the one is a run whose steps all satisfy the other. -/
theorem always_congr {C D : ℓ → σ → Prop} {I : σ → Prop}
    (hiff : ∀ l s, I s → (C l s ↔ D l s))
    (hstep : ∀ l s t, D l s → M.step l s = some t → I s → I t) {ls : List ℓ} {s : σ} (hs : I s) :
    M.Always C ls s ↔ M.Always D ls s := by
  induction ls generalizing s with
  | nil => exact Iff.rfl
  | cons l ls ih =>
      show (C l s ∧ _) ↔ (D l s ∧ _)
      rw [hiff l s hs]
      refine and_congr_right fun hD => forall_congr' fun t => ?_
      exact imp_congr_right fun ht => ih (hstep l s t hD ht hs)

/-- What holds throughout holds at the end. -/
theorem Throughout.last {P : σ → Prop} {ls : List ℓ} {s t : σ} (h : M.Throughout P ls s)
    (hrun : M.run ls s = some t) : P t := by
  induction ls generalizing s with
  | nil =>
      cases hrun
      exact h
  | cons l ls ih =>
      obtain ⟨u, hu, hrest⟩ := M.run_cons_eq_some.mp hrun
      exact ih (h.2 u hu) hrest

/-- An invariant `I` that the steps satisfying `C` preserve and that implies `P`: a run of such
steps stays within `P`. -/
theorem throughout_of_always {C : ℓ → σ → Prop} {I P : σ → Prop}
    (hstep : ∀ l s t, C l s → M.step l s = some t → I s → I t) (hsound : ∀ s, I s → P s)
    {ls : List ℓ} {s : σ} (hs : I s) (h : M.Always C ls s) : M.Throughout P ls s := by
  induction ls generalizing s with
  | nil => exact hsound s hs
  | cons l ls ih =>
      obtain ⟨hC, hrest⟩ := h
      exact ⟨hsound s hs, fun t ht => ih (hstep l s t hC ht hs) (hrest t ht)⟩

/-- Among the runs whose steps all satisfy `A`, with an invariant `I` that the steps satisfying `C`
preserve and that implies `P`: if every other step leads from `I` out of `P`, those that stay within
`P` are those whose steps satisfy `C`. -/
theorem throughout_iff_always_given {A C : ℓ → σ → Prop} {I P : σ → Prop}
    (hstep : ∀ l s t, A l s → C l s → M.step l s = some t → I s → I t) (hsound : ∀ s, I s → P s)
    (hbad : ∀ l s, I s → A l s → ¬ C l s → ∃ t, M.step l s = some t ∧ ¬ P t) {ls : List ℓ} {s : σ}
    (hs : I s) (hA : M.Always A ls s) : M.Throughout P ls s ↔ M.Always C ls s := by
  induction ls generalizing s with
  | nil => exact ⟨fun _ => trivial, fun _ => hsound s hs⟩
  | cons l ls ih =>
      obtain ⟨hAl, hArest⟩ := hA
      constructor
      · rintro ⟨-, hrest⟩
        have hC : C l s := by
          refine Classical.byContradiction fun hnot => ?_
          obtain ⟨t, ht, hbroken⟩ := hbad l s hs hAl hnot
          exact hbroken (hrest t ht).first
        refine ⟨hC, fun t ht => ?_⟩
        exact (ih (hstep l s t hAl hC ht hs) (hArest t ht)).mp (hrest t ht)
      · rintro ⟨hC, hrest⟩
        refine ⟨hsound s hs, fun t ht => ?_⟩
        exact (ih (hstep l s t hAl hC ht hs) (hArest t ht)).mpr (hrest t ht)

/-- An invariant `I` that the steps satisfying `C` preserve and that implies `P`: if every other
step leads from `I` out of `P`, the runs that stay within `P` are those whose steps satisfy `C`. -/
theorem throughout_iff_always {C : ℓ → σ → Prop} {I P : σ → Prop}
    (hstep : ∀ l s t, C l s → M.step l s = some t → I s → I t) (hsound : ∀ s, I s → P s)
    (hbad : ∀ l s, I s → ¬ C l s → ∃ t, M.step l s = some t ∧ ¬ P t) {ls : List ℓ} {s : σ}
    (hs : I s) : M.Throughout P ls s ↔ M.Always C ls s :=
  throughout_iff_always_given (fun l s t _ => hstep l s t) hsound (fun l s hI _ => hbad l s hI) hs
    (M.always_true ls s)

/-- Two machines in lockstep: related labels lead from related states to related states, or are both
not possible. -/
theorem run_rel {τ : Type u} {ℓ' : Type v} {M' : Machine τ ℓ'} {L : ℓ → ℓ' → Prop}
    {T : σ → τ → Prop}
    (hstep : ∀ l l' s t, L l l' → T s t → Option.Rel T (M.step l s) (M'.step l' t)) {ls : List ℓ}
    {ls' : List ℓ'} (hls : List.Forall₂ L ls ls') {s : σ} {t : τ} (hst : T s t) :
    Option.Rel T (M.run ls s) (M'.run ls' t) := by
  induction hls generalizing s t with
  | nil => exact .some hst
  | @cons l l' ls ls' hl _ ih =>
      rw [run_cons, run_cons]
      have hnext := hstep l l' s t hl hst
      generalize M.step l s = next, M'.step l' t = next' at hnext
      cases hnext with
      | some huv => exact ih huv
      | none => exact .none

/-- Each step of the machine is a run of another one, and so is each run. -/
theorem run_simulated {τ : Type u} {ℓ' : Type v} {M' : Machine τ ℓ'} {T : σ → τ → Prop}
    (hstep : ∀ l s s' t, M.step l s = some s' → T s t → ∃ ls' t', M'.run ls' t = some t' ∧ T s' t')
    {ls : List ℓ} {s s' : σ} {t : τ} (hrun : M.run ls s = some s') (hst : T s t) :
    ∃ ls' t', M'.run ls' t = some t' ∧ T s' t' := by
  induction ls generalizing s t with
  | nil =>
      cases hrun
      exact ⟨[], t, rfl, hst⟩
  | cons l ls ih =>
      obtain ⟨u, hu, hrest⟩ := M.run_cons_eq_some.mp hrun
      obtain ⟨first, v, hfirst, huv⟩ := hstep l s u t hu hst
      obtain ⟨rest, t', hlast, hT⟩ := ih hrest huv
      refine ⟨first ++ rest, t', ?_, hT⟩
      rw [run_append, hfirst, Option.bind_some, hlast]

/-! ## Machines that hold a program -/

section Held

variable {F : Type → Type} {τ : Type v} {α : Type} {h : Handler F τ} {s : τ}
  {P : (β : Type) → F β → Prop} {l : ℓ}

/-- A machine whose steps make the calls of a program that leave the state alone comes to the end of
the program. -/
theorem run_calls (held : Prog F α → σ) (hread : ∀ (β : Type) (c : F β), P β c → (h β c s).2 = s)
    (hcall : ∀ (β : Type) (c : F β) k, P β c →
      M.step l (held (.call c k)) = some (held (k (h β c s).1))) {p : Prog F α} (hp : p.Only P) :
    ∃ n, M.run (List.replicate n l) (held p) = some (held (.ret (p.run h s).1)) := by
  induction p with
  | ret a => exact ⟨0, rfl⟩
  | call c k ih =>
      obtain ⟨n, hn⟩ := ih (h _ c s).1 (hp.2 _)
      refine ⟨n + 1, ?_⟩
      rw [List.replicate_succ, run_cons, hcall _ c k hp.1, Option.bind_some, hn, Prog.run_call,
        hread _ c hp.1]

/-- With the step that begins the program, and the one that goes on with its result. -/
theorem run_held (held : Prog F α → σ) (hread : ∀ (β : Type) (c : F β), P β c → (h β c s).2 = s)
    (hcall : ∀ (β : Type) (c : F β) k, P β c →
      M.step l (held (.call c k)) = some (held (k (h β c s).1))) {p : Prog F α} (hp : p.Only P)
    {a b : σ} (hbegin : M.step l a = some (held p))
    (hend : M.step l (held (.ret (p.run h s).1)) = some b) :
    ∃ n, M.run (List.replicate n l) a = some b := by
  obtain ⟨n, hn⟩ := run_calls held hread hcall hp
  refine ⟨1 + n + 1, ?_⟩
  have hfirst : M.run (List.replicate 1 l) a = some (held p) := by
    rw [List.replicate_one, run_cons, hbegin]
    rfl
  have hlast : M.run (List.replicate 1 l) (held (.ret (p.run h s).1)) = some b := by
    rw [List.replicate_one, run_cons, hend]
    rfl
  rw [List.replicate_add, List.replicate_add, run_append, run_append, hfirst, Option.bind_some, hn,
    Option.bind_some, hlast]

end Held

end Machine

/-! ## States with their past -/

/-- A state with the states before it, newest first. -/
structure Traced (σ : Type u) where
  now : σ
  past : List σ := []

namespace Traced

variable {σ : Type u}

/-- All states so far, newest first. -/
def states (t : Traced σ) : List σ := t.now :: t.past

/-- The next state; the present one becomes past. -/
def push (t : Traced σ) (s : σ) : Traced σ := ⟨s, t.now :: t.past⟩

/-- The states of a trace are its newest one and those before. -/
@[simp] theorem mem_states_push {t : Traced σ} {s u : σ} :
    u ∈ (t.push s).states ↔ u = s ∨ u ∈ t.states := by
  simp [states, push]

/-- The newest state is one of the trace. -/
theorem now_mem_states (t : Traced σ) : t.now ∈ t.states := List.mem_cons_self

/-- The present state as a part of a traced one: replacing it leaves the past alone. -/
def cell (σ : Type) : Cell (Traced σ) σ where
  get t := t.now
  set s t := { t with now := s }
  get_set _ _ := rfl
  set_get _ := rfl

end Traced

end Synclog.Lib
