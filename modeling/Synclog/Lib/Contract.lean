import Synclog.Lib.Prog

/-!
# Contracts for the calls of a program

A `Contract F σ` states, for each call of the signature `F`, what must hold when the call is made
and which answers it may get. `Meets C R Q p s` says that the program `p`, begun in `s`, makes every
call as the contract `C` demands, whatever answers the contract allows and whatever steps of `R` the
others take before a call, and that it ends as `Q` allows.

It is a weakest precondition by recursion on the program: `meets_bind` splits it at a sequence,
`meets_performE_bind` at a call, and `Meets.env` lets the others take a step.
-/

namespace Synclog.Lib

universe u

/-- What must hold in the state `s` when a call is made, and with which answer and in which state
the caller goes on. -/
structure Contract (F : Type → Type) (σ : Type u) where
  pre : (β : Type) → F β → σ → Prop
  post : (β : Type) → F β → σ → β → σ → Prop

namespace Prog

variable {F : Type → Type} {σ : Type u} {α β ε : Type} (C : Contract F σ) (R : σ → σ → Prop)

/-- Every call of the program is made as the contract demands, and its end is allowed by `Q`. -/
def Meets (Q : α → σ → Prop) : Prog F α → σ → Prop
  | ret a, s => Q a s
  | call c k, s => ∀ s', Relation.ReflTransGen R s s' →
      C.pre _ c s' ∧ ∀ b t, C.post _ c s' b t → Meets Q (k b) t

variable {C R}

/-- What a call needs, after any steps of the others. -/
theorem meets_call {Q : α → σ → Prop} {c : F β} {k : β → Prog F α} {s : σ} :
    Meets C R Q (call c k) s ↔ ∀ s', Relation.ReflTransGen R s s' →
      C.pre _ c s' ∧ ∀ b t, C.post _ c s' b t → Meets C R Q (k b) t := Iff.rfl

/-- A weaker end. -/
theorem Meets.imp {Q Q' : α → σ → Prop} (hQ : ∀ a t, Q a t → Q' a t) {p : Prog F α} {s : σ}
    (h : Meets C R Q p s) : Meets C R Q' p s := by
  induction p generalizing s with
  | ret a => exact hQ a s h
  | call c k ih =>
      intro s' hsteps
      obtain ⟨hpre, hpost⟩ := h s' hsteps
      exact ⟨hpre, fun b t hb => ih b (hpost b t hb)⟩

/-- The others take steps: the end must be one they cannot break. -/
theorem Meets.env {Q : α → σ → Prop} (hQ : ∀ a s s', R s s' → Q a s → Q a s') {p : Prog F α}
    {s s' : σ} (hstep : R s s') (h : Meets C R Q p s) : Meets C R Q p s' := by
  cases p with
  | ret a => exact hQ a s s' hstep h
  | call c k => exact fun t hsteps => h t (Relation.ReflTransGen.head hstep hsteps)

/-- A handler whose states stand for states of the contract, and whose answers the contract allows:
a program that meets the contract ends, when it runs alone, as the contract demands. -/
theorem Meets.run {τ : Type u} {h : Handler F τ} {T : τ → σ → Prop}
    (hcall : ∀ (β : Type) (c : F β) s v, T s v → C.pre β c v →
      ∃ v', C.post β c v (h β c s).1 v' ∧ T (h β c s).2 v')
    {Q : α → σ → Prop} {p : Prog F α} {s : τ} {v : σ} (hp : Meets C R Q p v) (hT : T s v) :
    ∃ v', T (p.run h s).2 v' ∧ Q (p.run h s).1 v' := by
  induction p generalizing s v with
  | ret a => exact ⟨v, hT, hp⟩
  | call c k ih =>
      obtain ⟨hpre, hpost⟩ := hp v .refl
      obtain ⟨v', hanswer, hT'⟩ := hcall _ c s v hT hpre
      exact ih _ (hpost _ _ hanswer) hT'

/-- A sequence meets its contract when its first part does and ends where the second does. -/
theorem meets_bind {Q : β → σ → Prop} {p : Prog F α} {f : α → Prog F β} {s : σ} :
    Meets C R Q (p >>= f) s ↔ Meets C R (fun a t => Meets C R Q (f a) t) p s := by
  show Meets C R Q (p.bind f) s ↔ _
  induction p generalizing s with
  | ret a => exact Iff.rfl
  | call c k ih =>
      simp only [Prog.bind, meets_call, ih]

/-- Where the others take no step, a call is made in the state that is there. -/
theorem meets_call_alone {Q : α → σ → Prop} {c : F β} {k : β → Prog F α} {s : σ} :
    Meets C (fun _ _ => False) Q (call c k) s ↔
      C.pre _ c s ∧ ∀ b t, C.post _ c s b t → Meets C (fun _ _ => False) Q (k b) t := by
  rw [meets_call]
  constructor
  · intro h
    exact h s .refl
  · rintro h s' hsteps
    obtain rfl := eq_of_alone hsteps
    exact h

/-! ## Fallible programs -/

/-- What a fallible sequence does after its first part. -/
def Then (Q : Except ε β → σ → Prop) (f : α → ExceptT ε (Prog F) β)
    (next : Prog F (Except ε β) → σ → Prop) : Except ε α → σ → Prop
  | .ok a, t => next (f a).run t
  | .error e, t => Q (.error e) t

/-- The rule for a bind that may fail. -/
theorem meets_bindE {Q : Except ε β → σ → Prop} {x : ExceptT ε (Prog F) α}
    {f : α → ExceptT ε (Prog F) β} {s : σ} :
    Meets C R Q (x >>= f).run s ↔ Meets C R (Then Q f (Meets C R Q)) x.run s := by
  rw [ExceptT.run_bind, meets_bind]
  constructor
  · refine Meets.imp ?_
    rintro (e | a) t h
    · exact h
    · exact h
  · refine Meets.imp ?_
    rintro (e | a) t h
    · exact h
    · exact h

/-- The rule for a single call that may fail. -/
theorem meets_performE {Q : Except ε α → σ → Prop} {c : F (Except ε α)} {s : σ} :
    Meets C R Q (performE c).run s ↔ ∀ s', Relation.ReflTransGen R s s' →
      C.pre _ c s' ∧ ∀ b t, C.post _ c s' b t → Q b t := Iff.rfl

/-- One fallible call, then the rest if it succeeds. -/
theorem meets_performE_bind {Q : Except ε β → σ → Prop} {c : F (Except ε α)}
    {f : α → ExceptT ε (Prog F) β} {s : σ} :
    Meets C R Q (performE c >>= f).run s ↔ ∀ s', Relation.ReflTransGen R s s' →
      C.pre _ c s' ∧ ∀ b t, C.post _ c s' b t → Then Q f (Meets C R Q) b t := by
  rw [meets_bindE, meets_performE]

/-- The rule for a single call, when there are no others. -/
theorem meets_performE_alone {Q : Except ε α → σ → Prop} {c : F (Except ε α)} {s : σ} :
    Meets C (fun _ _ => False) Q (performE c).run s ↔
      C.pre _ c s ∧ ∀ b t, C.post _ c s b t → Q b t := meets_call_alone

/-- The rule for a call and what follows it, when there are no others. -/
theorem meets_performE_bind_alone {Q : Except ε β → σ → Prop} {c : F (Except ε α)}
    {f : α → ExceptT ε (Prog F) β} {s : σ} :
    Meets C (fun _ _ => False) Q (performE c >>= f).run s ↔
      C.pre _ c s ∧ ∀ b t, C.post _ c s b t → Then Q f (Meets C (fun _ _ => False) Q) b t := by
  rw [meets_bindE, meets_performE_alone]

/-- The rule for a call that cannot fail and what follows it, when there are no others. -/
theorem meets_lift_perform_bind_alone {Q : Except ε β → σ → Prop} {c : F α}
    {f : α → ExceptT ε (Prog F) β} {s : σ} :
    Meets C (fun _ _ => False) Q ((ExceptT.lift (perform c) : ExceptT ε (Prog F) α) >>= f).run s ↔
      C.pre _ c s ∧ ∀ b t, C.post _ c s b t → Meets C (fun _ _ => False) Q (f b).run t :=
  meets_call_alone

/-- One call that cannot fail, then the rest. -/
theorem meets_lift_perform_bind {Q : Except ε β → σ → Prop} {c : F α}
    {f : α → ExceptT ε (Prog F) β} {s : σ} :
    Meets C R Q ((ExceptT.lift (perform c) : ExceptT ε (Prog F) α) >>= f).run s ↔
      ∀ s', Relation.ReflTransGen R s s' →
        C.pre _ c s' ∧ ∀ b t, C.post _ c s' b t → Meets C R Q (f b).run t := Iff.rfl

/-- A program whose errors are caught, then the rest. -/
theorem meets_lift_bind {Q : Except ε β → σ → Prop} {p : Prog F α}
    {f : α → ExceptT ε (Prog F) β} {s : σ} :
    Meets C R Q ((ExceptT.lift p : ExceptT ε (Prog F) α) >>= f).run s ↔
      Meets C R (fun a t => Meets C R Q (f a).run t) p s := by
  rw [meets_bindE]
  show Meets C R _ (p >>= fun a => ret (Except.ok a : Except ε α)) s ↔ _
  rw [meets_bind]
  exact Iff.rfl

/-- The rule for what is computed without a call and what follows it. -/
theorem meets_ofExcept_bind {Q : Except ε β → σ → Prop} {r : Except ε α}
    {f : α → ExceptT ε (Prog F) β} {s : σ} :
    Meets C R Q (ofExcept r >>= f).run s ↔ Then Q f (Meets C R Q) r s := by
  rw [meets_bindE]
  exact Iff.rfl

end Prog

end Synclog.Lib
