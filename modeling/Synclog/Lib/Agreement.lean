import Synclog.Lib.Prog

/-!
# Two runs of one program

A `Likeness F` says which two answers to the same call two runs may get. `Agree A R p p'` says that
`p` and `p'` make the same calls as long as they get like answers, and end in results that `R`
relates. It is a relation between two runs, not between two programs run on one state: whatever the
answers depend on, like answers lead to like results (`Agree.run`).

The results of fallible programs are compared by `ExceptRel E R`: both fail, with errors that `E`
relates, or both succeed, with values that `R` relates.
-/

namespace Synclog.Lib

universe u v

/-- Which two answers to a call two runs may get. -/
abbrev Likeness (F : Type → Type) := (β : Type) → F β → β → β → Prop

/-- Two results that both are errors related by `E`, or both values related by `R`. -/
inductive ExceptRel {ε α α' : Type} (E : ε → ε → Prop) (R : α → α' → Prop) :
    Except ε α → Except ε α' → Prop
  | error {e e' : ε} (h : E e e') : ExceptRel E R (.error e) (.error e')
  | ok {a : α} {a' : α'} (h : R a a') : ExceptRel E R (.ok a) (.ok a')

/-- Two related results, as equations. -/
theorem ExceptRel.cases {ε α α' : Type} {E : ε → ε → Prop} {R : α → α' → Prop} {r : Except ε α}
    {r' : Except ε α'} (h : ExceptRel E R r r') :
    (∃ e e', r = .error e ∧ r' = .error e' ∧ E e e') ∨
      ∃ a a', r = .ok a ∧ r' = .ok a' ∧ R a a' := by
  cases h with
  | error he => exact .inl ⟨_, _, rfl, rfl, he⟩
  | ok ha => exact .inr ⟨_, _, rfl, rfl, ha⟩

/-- A result is like itself. -/
theorem ExceptRel.refl {ε α : Type} {E : ε → ε → Prop} (hE : ∀ e, E e e) (r : Except ε α) :
    ExceptRel E Eq r r := by
  cases r with
  | error e => exact .error (hE e)
  | ok a => exact .ok rfl

/-- Results that are alike stay so when more errors are. -/
theorem ExceptRel.imp {ε α α' : Type} {E E' : ε → ε → Prop} {R : α → α' → Prop}
    {r : Except ε α} {r' : Except ε α'} (hE : ∀ e e', E e e' → E' e e')
    (h : ExceptRel E R r r') : ExceptRel E' R r r' := by
  cases h with
  | error he => exact .error (hE _ _ he)
  | ok ha => exact .ok ha

/-- The answers that a storage gives when it is asked for the `n`-th time, call by call. -/
def oracle {F : Type → Type} (answers : Nat → (β : Type) → F β → β) : Handler F Nat :=
  fun β c n => (answers n β c, n + 1)

namespace Prog

variable {F : Type → Type} {α α' β β' ε : Type}

/-- The same calls as long as the answers are alike, and related results. -/
inductive Agree (A : Likeness F) (R : α → α' → Prop) : Prog F α → Prog F α' → Prop
  | ret {a : α} {a' : α'} (h : R a a') : Agree A R (.ret a) (.ret a')
  | call {β : Type} {c : F β} {k : β → Prog F α} {k' : β → Prog F α'}
      (hrest : ∀ b b', A β c b b' → Agree A R (k b) (k' b')) :
      Agree A R (.call c k) (.call c k')

variable {A : Likeness F} {E : ε → ε → Prop}

/-- Handlers that give like answers and keep a relation between their states lead to related
results. -/
theorem Agree.run {σ : Type u} {τ : Type v} {h : Handler F σ} {h' : Handler F τ}
    {T : σ → τ → Prop}
    (hlike : ∀ (β : Type) (c : F β) s t, T s t →
      A β c (h β c s).1 (h' β c t).1 ∧ T (h β c s).2 (h' β c t).2)
    {R : α → α' → Prop} {p : Prog F α} {p' : Prog F α'} (hp : Agree A R p p') {s : σ} {t : τ}
    (hst : T s t) : R (Prog.run h p s).1 (Prog.run h' p' t).1 := by
  induction hp generalizing s t with
  | ret h => exact h
  | call hrest ih =>
      obtain ⟨hanswer, hnext⟩ := hlike _ _ s t hst
      rw [run_call, run_call]
      exact ih _ _ hanswer hnext

/-- Two storages that answer alike, each time they are asked. -/
theorem Agree.oracle {answers answers' : Nat → (β : Type) → F β → β}
    (hlike : ∀ n β c, A β c (answers n β c) (answers' n β c)) {R : α → α' → Prop}
    {p : Prog F α} {p' : Prog F α'} (hp : Agree A R p p') :
    R (Prog.run (Lib.oracle answers) p 0).1 (Prog.run (Lib.oracle answers') p' 0).1 := by
  refine hp.run (T := Eq) ?_ rfl
  rintro β c n _ rfl
  exact ⟨hlike n β c, rfl⟩

/-- Programs that agree, followed by programs that agree on what they were answered. -/
theorem Agree.bind {R : α → α' → Prop} {S : β → β' → Prop} {p : Prog F α} {p' : Prog F α'}
    {f : α → Prog F β} {f' : α' → Prog F β'} (hp : Agree A R p p')
    (hf : ∀ a a', R a a' → Agree A S (f a) (f' a')) : Agree A S (p >>= f) (p' >>= f') := by
  show Agree A S (p.bind f) (p'.bind f')
  induction hp with
  | ret h => exact hf _ _ h
  | call hrest ih => exact .call ih

/-! ## Fallible programs -/

/-- A fallible sequence. -/
theorem Agree.bindE {R : α → α' → Prop} {S : β → β' → Prop} {x : ExceptT ε (Prog F) α}
    {x' : ExceptT ε (Prog F) α'} {f : α → ExceptT ε (Prog F) β} {f' : α' → ExceptT ε (Prog F) β'}
    (hx : Agree A (ExceptRel E R) x.run x'.run)
    (hf : ∀ a a', R a a' → Agree A (ExceptRel E S) (f a).run (f' a').run) :
    Agree A (ExceptRel E S) (x >>= f).run (x' >>= f').run := by
  rw [ExceptT.run_bind, ExceptT.run_bind]
  refine Agree.bind hx ?_
  rintro _ _ (he | ha)
  · exact .ret (.error he)
  · exact hf _ _ ha

/-- A fallible sequence whose first parts give the same value. -/
theorem Agree.bindE_same {S : β → β' → Prop} {x x' : ExceptT ε (Prog F) α}
    {f : α → ExceptT ε (Prog F) β} {f' : α → ExceptT ε (Prog F) β'}
    (hx : Agree A (ExceptRel E Eq) x.run x'.run)
    (hf : ∀ a, Agree A (ExceptRel E S) (f a).run (f' a).run) :
    Agree A (ExceptRel E S) (x >>= f).run (x' >>= f').run := by
  refine Agree.bindE hx ?_
  rintro a _ rfl
  exact hf a

/-- Values that are alike agree. -/
theorem Agree.pureE {R : α → α' → Prop} {a : α} {a' : α'} (h : R a a') :
    Agree A (ExceptRel E R) (pure a : ExceptT ε (Prog F) α).run
      (pure a' : ExceptT ε (Prog F) α').run := .ret (.ok h)

/-- Errors that are alike agree. -/
theorem Agree.throw {R : α → α' → Prop} {e e' : ε} (h : E e e') :
    Agree A (ExceptRel E R) (throw e : ExceptT ε (Prog F) α).run
      (throw e' : ExceptT ε (Prog F) α').run := .ret (.error h)

/-- Results that are alike agree. -/
theorem Agree.ofExcept {R : α → α' → Prop} {r : Except ε α} {r' : Except ε α'}
    (h : ExceptRel E R r r') :
    Agree A (ExceptRel E R) (Prog.ofExcept r : ExceptT ε (Prog F) α).run
      (Prog.ofExcept r' : ExceptT ε (Prog F) α').run := .ret h

/-- A part that makes no call and gives the same value, then the rest. -/
theorem Agree.ofExcept_bindE_same {S : β → β' → Prop} {r r' : Except ε α}
    {f : α → ExceptT ε (Prog F) β} {f' : α → ExceptT ε (Prog F) β'} (hr : ExceptRel E Eq r r')
    (hf : ∀ a, Agree A (ExceptRel E S) (f a).run (f' a).run) :
    Agree A (ExceptRel E S) (Prog.ofExcept r >>= f).run (Prog.ofExcept r' >>= f').run :=
  Agree.bindE_same (.ofExcept hr) hf

/-- One fallible call. -/
theorem Agree.performE {R : α → α → Prop} {c : F (Except ε α)}
    (hlike : ∀ b b', A _ c b b' → ExceptRel E R b b') :
    Agree A (ExceptRel E R) (Prog.performE c).run (Prog.performE c).run :=
  .call fun b b' h => .ret (hlike b b' h)

/-- One fallible call, then the rest. -/
theorem Agree.performE_bindE {R : α → α → Prop} {S : β → β' → Prop} {c : F (Except ε α)}
    {f : α → ExceptT ε (Prog F) β} {f' : α → ExceptT ε (Prog F) β'}
    (hlike : ∀ b b', A _ c b b' → ExceptRel E R b b')
    (hf : ∀ a a', R a a' → Agree A (ExceptRel E S) (f a).run (f' a').run) :
    Agree A (ExceptRel E S) (Prog.performE c >>= f).run (Prog.performE c >>= f').run :=
  Agree.bindE (.performE hlike) hf

/-- One fallible call whose error the program looks at itself, then the rest. -/
theorem Agree.attempt_bindE {S : β → β' → Prop} {c : F (Except ε α)}
    {f : Except ε α → ExceptT ε (Prog F) β} {f' : Except ε α → ExceptT ε (Prog F) β'}
    (hf : ∀ b b', A _ c b b' → Agree A (ExceptRel E S) (f b).run (f' b').run) :
    Agree A (ExceptRel E S) (attempt c >>= f).run (attempt c >>= f').run := .call hf

/-- The two runs take the same branch. -/
theorem Agree.ite {R : α → α' → Prop} {P : Prop} [Decidable P] {x y : ExceptT ε (Prog F) α}
    {x' y' : ExceptT ε (Prog F) α'} (hx : P → Agree A (ExceptRel E R) x.run x'.run)
    (hy : ¬ P → Agree A (ExceptRel E R) y.run y'.run) :
    Agree A (ExceptRel E R) (if P then x else y).run (if P then x' else y').run := by
  by_cases hP : P
  · rw [if_pos hP, if_pos hP]
    exact hx hP
  · rw [if_neg hP, if_neg hP]
    exact hy hP

end Prog

end Synclog.Lib
