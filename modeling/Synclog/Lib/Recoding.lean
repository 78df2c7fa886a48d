import Synclog.Lib.Prog

/-!
# Two programs that differ in how their calls are written

A `Recoding F` changes the calls of the signature `F`, and the answers with them. `Recoded ρ g p p'`
says that the program `p'` is `p` in the other writing: it makes the changed call where `p` makes
one, goes on after the changed answer as `p` does after the answer, and returns `g a` where `p`
returns `a`. Two handlers that give changed calls changed answers, and keep a relation between their
states, then run two such programs to related ends (`Recoded.run`).
-/

namespace Synclog.Lib

universe u v

/-- A change of calls and of their answers. It is about the calls of `made` only. -/
structure Recoding (F : Type → Type) where
  made : (β : Type) → F β → Prop
  call : (β : Type) → F β → F β
  answer : (β : Type) → F β → β → β

/-- To a changed call the second handler gives the changed answer, and the states stay related. -/
def Recoding.Respects {F : Type → Type} {σ : Type u} {τ : Type v} (ρ : Recoding F)
    (h : Handler F σ) (h' : Handler F τ) (T : σ → τ → Prop) : Prop :=
  ∀ (β : Type) (c : F β) s t, ρ.made β c → T s t →
    (h' β (ρ.call β c) t).1 = ρ.answer β c (h β c s).1 ∧ T (h β c s).2 (h' β (ρ.call β c) t).2

namespace Prog

variable {F : Type → Type} {α α' β β' ε : Type}

/-- The second program makes the changed calls of the first, and returns the changed result. -/
inductive Recoded (ρ : Recoding F) (g : α → α') : Prog F α → Prog F α' → Prop
  | ret (a : α) : Recoded ρ g (.ret a) (.ret (g a))
  | call {β : Type} {c : F β} {k : β → Prog F α} {k' : β → Prog F α'} (hmade : ρ.made β c)
      (hrest : ∀ b, Recoded ρ g (k b) (k' (ρ.answer β c b))) :
      Recoded ρ g (.call c k) (.call (ρ.call β c) k')

variable {ρ : Recoding F}

/-- Two such programs, run alone. -/
theorem Recoded.run {σ : Type u} {τ : Type v} {h : Handler F σ} {h' : Handler F τ}
    {T : σ → τ → Prop} (hρ : ρ.Respects h h' T) {g : α → α'} {p : Prog F α} {p' : Prog F α'}
    (hp : Recoded ρ g p p') {s : σ} {t : τ} (hst : T s t) :
    (Prog.run h' p' t).1 = g (Prog.run h p s).1 ∧ T (Prog.run h p s).2 (Prog.run h' p' t).2 := by
  induction hp generalizing s t with
  | ret a => exact ⟨rfl, hst⟩
  | call hmade hrest ih =>
      obtain ⟨hanswer, hnext⟩ := hρ _ _ s t hmade hst
      rw [run_call, run_call, hanswer]
      exact ih _ hnext

/-- Programs that are recoded, one behind the other. -/
theorem Recoded.bind {g : α → α'} {g' : β → β'} {p : Prog F α} {p' : Prog F α'}
    {f : α → Prog F β} {f' : α' → Prog F β'} (hp : Recoded ρ g p p')
    (hf : ∀ a, Recoded ρ g' (f a) (f' (g a))) : Recoded ρ g' (p >>= f) (p' >>= f') := by
  show Recoded ρ g' (p.bind f) (p'.bind f')
  induction hp with
  | ret a => exact hf a
  | call hmade hrest ih => exact .call hmade ih

/-! ## Fallible programs -/

/-- Two conditions that agree. -/
theorem Recoded.ite {g : α → α'} {P P' : Prop} [Decidable P] [Decidable P'] (hiff : P ↔ P')
    {x y : ExceptT ε (Prog F) α} {x' y' : ExceptT ε (Prog F) α'}
    (hx : P → Recoded ρ (Except.map g) x.run x'.run)
    (hy : ¬ P → Recoded ρ (Except.map g) y.run y'.run) :
    Recoded ρ (Except.map g) (if P then x else y).run (if P' then x' else y').run := by
  by_cases hP : P
  · rw [if_pos hP, if_pos (hiff.mp hP)]
    exact hx hP
  · rw [if_neg hP, if_neg fun hP' => hP (hiff.mpr hP')]
    exact hy hP

/-- A fallible sequence: the errors are the same. -/
theorem Recoded.bindE {g : α → α'} {g' : β → β'} {x : ExceptT ε (Prog F) α}
    {x' : ExceptT ε (Prog F) α'} {f : α → ExceptT ε (Prog F) β} {f' : α' → ExceptT ε (Prog F) β'}
    (hx : Recoded ρ (Except.map g) x.run x'.run)
    (hf : ∀ a, Recoded ρ (Except.map g') (f a).run (f' (g a)).run) :
    Recoded ρ (Except.map g') (x >>= f).run (x' >>= f').run := by
  rw [ExceptT.run_bind, ExceptT.run_bind]
  refine Recoded.bind hx ?_
  rintro (e | a)
  · exact .ret (Except.error e)
  · exact hf a

/-- A value is recoded. -/
theorem Recoded.pureE {g : α → α'} (a : α) :
    Recoded ρ (Except.map g) (pure a : ExceptT ε (Prog F) α).run
      (pure (g a) : ExceptT ε (Prog F) α').run := .ret (Except.ok a)

/-- An error is passed on as it is. -/
theorem Recoded.throw {g : α → α'} (e : ε) :
    Recoded ρ (Except.map g) (throw e : ExceptT ε (Prog F) α).run
      (throw e : ExceptT ε (Prog F) α').run := .ret (Except.error e)

/-- Nothing follows a throw. -/
theorem Recoded.throw_bindE {g : β → β'} (e : ε) (f : α → ExceptT ε (Prog F) β)
    (f' : α → ExceptT ε (Prog F) β') :
    Recoded ρ (Except.map g) ((MonadExcept.throw e : ExceptT ε (Prog F) α) >>= f).run
      ((MonadExcept.throw e : ExceptT ε (Prog F) α) >>= f').run := .ret (Except.error e)

/-- A result is recoded. -/
theorem Recoded.ofExcept {g : α → α'} (r : Except ε α) :
    Recoded ρ (Except.map g) (Prog.ofExcept r : ExceptT ε (Prog F) α).run
      (Prog.ofExcept (r.map g) : ExceptT ε (Prog F) α').run := .ret r

/-- A part that makes no call and has the same result on both sides, then the rest. -/
theorem Recoded.ofExcept_bindE {g' : β → β'} {r : Except ε α} {f : α → ExceptT ε (Prog F) β}
    {f' : α → ExceptT ε (Prog F) β'}
    (hf : ∀ a, r = .ok a → Recoded ρ (Except.map g') (f a).run (f' a).run) :
    Recoded ρ (Except.map g') (Prog.ofExcept r >>= f).run (Prog.ofExcept r >>= f').run := by
  cases r with
  | error e => exact .ret (Except.error e)
  | ok a => exact hf a rfl

/-- One fallible call. -/
theorem Recoded.performE {g : α → α} {c : F (Except ε α)} (hmade : ρ.made _ c)
    (hanswer : ρ.answer _ c = Except.map g) :
    Recoded ρ (Except.map g) (Prog.performE c).run (Prog.performE (ρ.call _ c)).run := by
  refine .call hmade ?_
  intro b
  rw [hanswer]
  exact .ret b

/-- One fallible call whose error the program looks at itself, then the rest. -/
theorem Recoded.attempt_bindE {g : β → β'} {c : F (Except ε α)}
    {f : Except ε α → ExceptT ε (Prog F) β} {f' : Except ε α → ExceptT ε (Prog F) β'}
    (hmade : ρ.made _ c)
    (hf : ∀ b, Recoded ρ (Except.map g) (f b).run (f' (ρ.answer _ c b)).run) :
    Recoded ρ (Except.map g) (attempt c >>= f).run (attempt (ρ.call _ c) >>= f').run :=
  .call hmade hf

end Prog

end Synclog.Lib
