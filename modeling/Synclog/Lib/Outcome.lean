import Synclog.Lib.Pool

/-!
# What a program may answer

Which answers a call may get is a relation `A`, whatever the state is in which the call is made. A
program whose calls are answered as `A` allows answers as `Q` allows: `Prog.Ends A Q`. It does not
matter then what others do between the calls, so what holds of every program holds of the programs
of a pool (`Pool.ends_run`).
-/

namespace Synclog.Lib

universe u v w

variable {F : Type → Type} {α β γ ε : Type}

namespace Prog

/-- The answer of the program is in `Q`, when its calls are answered as `A` allows. -/
def Ends (A : (β : Type) → F β → β → Prop) (Q : α → Prop) : Prog F α → Prop
  | ret a => Q a
  | call c k => ∀ b, A _ c b → Ends A Q (k b)

variable {A : (β : Type) → F β → β → Prop} {Q Q' : α → Prop}

/-- A weaker demand on the answers. -/
theorem Ends.imp (hQ : ∀ a, Q a → Q' a) {p : Prog F α} (hp : p.Ends A Q) : p.Ends A Q' := by
  induction p with
  | ret a => exact hQ a hp
  | call c k ih => exact fun b hb => ih b (hp b hb)

/-- Nothing is asked of the answers. -/
theorem ends_of_forall (hQ : ∀ a, Q a) {p : Prog F α} : p.Ends A Q := by
  induction p with
  | ret a => exact hQ a
  | call c k ih => exact fun b _ => ih b

/-- The rule for a bind. -/
theorem Ends.bind {p : Prog F α} {f : α → Prog F β} {R : β → Prop} (hp : p.Ends A Q)
    (hf : ∀ a, Q a → (f a).Ends A R) : (p.bind f).Ends A R := by
  induction p with
  | ret a => exact hf a hp
  | call c k ih => exact fun b hb => ih b (hp b hb)

/-- A program over a smaller signature whose calls may get the same answers. -/
theorem Ends.embed {G : Type → Type} {B : (β : Type) → G β → β → Prop}
    {f : (β : Type) → F β → G β} (hf : ∀ (β : Type) (c : F β) b, B β (f β c) b → A β c b)
    {p : Prog F α} (hp : p.Ends A Q) : (p.embed f).Ends B Q := by
  induction p with
  | ret a => exact hp
  | call c k ih => exact fun b hb => ih b (hp b (hf _ c b hb))

/-- A sequence that may fail: what holds of a failure of the first part holds of the whole. -/
theorem Ends.bindE {x : ExceptT ε (Prog F) α} {f : α → ExceptT ε (Prog F) β}
    {R : Except ε α → Prop} {Q : Except ε β → Prop} (hx : x.run.Ends A R)
    (hok : ∀ a, R (.ok a) → (f a).run.Ends A Q) (herror : ∀ e, R (.error e) → Q (.error e)) :
    (x >>= f).run.Ends A Q := by
  rw [ExceptT.run_bind]
  refine Ends.bind hx ?_
  rintro (e | a) hr
  · exact herror e hr
  · exact hok a hr

/-- A sequence that begins with one fallible call. -/
theorem Ends.performE_bindE {c : F (Except ε α)} {f : α → ExceptT ε (Prog F) β}
    {Q : Except ε β → Prop} (hok : ∀ a, A _ c (.ok a) → (f a).run.Ends A Q)
    (herror : ∀ e, A _ c (.error e) → Q (.error e)) : (performE c >>= f).run.Ends A Q :=
  Ends.bindE (R := A _ c) (fun _ hb => hb) hok herror

/-- A sequence that begins without a call. -/
theorem Ends.ofExcept_bindE {r : Except ε α} {f : α → ExceptT ε (Prog F) β}
    {Q : Except ε β → Prop} (hok : ∀ a, r = .ok a → (f a).run.Ends A Q)
    (herror : ∀ e, r = .error e → Q (.error e)) : (ofExcept r >>= f).run.Ends A Q :=
  Ends.bindE (R := fun r' => r = r') rfl hok herror

end Prog

/-! ## Programs that take turns -/

namespace Pool

variable {σ : Type u} {ι : Type v} {E : Type w} [DecidableEq ι] {h : E → Handler F σ}
  {I : σ → Prop} {A : (β : Type) → F β → β → Prop} {p : ι → Prog F α} {P Q : Pool F σ α ι} {i : ι}
  {R : α → Prop}

/-- What is left of the program, the whole of it if it was not started, ends as `R` allows. -/
def WillEnd (A : (β : Type) → F β → β → Prop) (R : α → Prop) (p : ι → Prog F α) (P : Pool F σ α ι)
    (i : ι) : Prop :=
  ((P.running i).getD (p i)).Ends A R

omit [DecidableEq ι] in
/-- A program that has ended has answered as it should. -/
theorem WillEnd.answer (hi : P.WillEnd A R p i) {a : α} (hanswer : P.answer i = some a) : R a := by
  unfold Pool.answer at hanswer
  split at hanswer
  · rename_i b hret
    cases hanswer
    unfold WillEnd at hi
    rw [hret] at hi
    exact hi
  · cases hanswer

variable (hI : ∀ e (β : Type) (c : F β) s, I s → I (h e β c s).2)
  (hA : ∀ e (β : Type) (c : F β) s, I s → A β c (h e β c s).1)

include hI in
/-- A step keeps what every call keeps of the shared state. -/
theorem shared_step (hs : I P.shared) {l : PoolLabel ι E}
    (hstep : (machine h p).step l P = some Q) : I Q.shared := by
  rcases l with i | ⟨i, e⟩
  · change (if (P.running i).isSome then none else some _) = some Q at hstep
    split_ifs at hstep
    cases hstep
    exact hs
  · obtain ⟨β, c, k, -, rfl⟩ := step_eq_some.mp hstep
    exact hI e β c _ hs

include hA in
/-- A step keeps what a program is bound to answer. -/
theorem willEnd_step (hs : I P.shared) (hi : P.WillEnd A R p i) {l : PoolLabel ι E}
    (hstep : (machine h p).step l P = some Q) : Q.WillEnd A R p i := by
  rcases l with j | ⟨j, e⟩
  · change (if (P.running j).isSome then none else some _) = some Q at hstep
    split_ifs at hstep with hfresh
    cases hstep
    by_cases hij : i = j
    · subst hij
      unfold WillEnd at hi ⊢
      rw [Option.not_isSome_iff_eq_none.mp hfresh] at hi
      simpa using hi
    · simpa [WillEnd, Function.update_of_ne hij] using hi
  · obtain ⟨β, c, k, hcall, rfl⟩ := step_eq_some.mp hstep
    by_cases hij : i = j
    · subst hij
      unfold WillEnd at hi ⊢
      rw [hcall] at hi
      simpa using hi _ (hA e β c _ hs)
    · simpa [WillEnd, Function.update_of_ne hij] using hi

include hI hA in
/-- What is left of a program after any run ends as what was left before. -/
theorem willEnd_run (hs : I P.shared) (hi : P.WillEnd A R p i) {ls : List (PoolLabel ι E)}
    (hrun : (machine h p).run ls P = some Q) : Q.WillEnd A R p i :=
  (Machine.run_invariant (I := fun P : Pool F σ α ι => I P.shared ∧ P.WillEnd A R p i)
    (fun _ _ _ hstep hP => ⟨shared_step hI hP.1 hstep, willEnd_step hA hP.1 hP.2 hstep⟩) hrun
    ⟨hs, hi⟩).2

include hI hA in
/-- Programs take turns in any order: each answers as it must, whatever the others are. -/
theorem ends_run {s : σ} (hs : I s) (hp : (p i).Ends A R) {ls : List (PoolLabel ι E)}
    (hrun : (machine h p).run ls { shared := s } = some P) {a : α}
    (hanswer : P.answer i = some a) : R a :=
  (willEnd_run hI hA (P := { shared := s }) hs hp hrun).answer hanswer

end Pool

end Synclog.Lib
