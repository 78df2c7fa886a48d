import Synclog.Lib.Outcome

/-!
# A program that does the work of another one

A program may make the calls of another one and calls of its own between them:
`Prog.Includes P Q p q`. The other calls satisfy `P` (they are reads, say), and when `p` has
returned, `Q` relates its result to what is left of `q`. Where every call of `p` that is not one of
`q` leaves the shared state alone, `q` can be run beside `p` in the same surroundings.

For programs that may fail, `Granted Q` says nothing of a failure of `p`; where `p` succeeds, `q`
has ended and succeeded as well.
-/

namespace Synclog.Lib.Prog

variable {F : Type → Type} {α β γ δ ε : Type}

/-- The program `p` makes the calls of `q` in their order, and between them others that satisfy
`P`. -/
inductive Includes (P : (β : Type) → F β → Prop) (Q : α → Prog F γ → Prop) :
    Prog F α → Prog F γ → Prop
  | done {a : α} {q : Prog F γ} (h : Q a q) : Includes P Q (ret a) q
  | skip {β : Type} {c : F β} {k : β → Prog F α} {q : Prog F γ} (hc : P β c)
      (h : ∀ b, Includes P Q (k b) q) : Includes P Q (call c k) q
  | both {β : Type} {c : F β} {k : β → Prog F α} {k' : β → Prog F γ}
      (h : ∀ b, Includes P Q (k b) (k' b)) : Includes P Q (call c k) (call c k')

variable {P : (β : Type) → F β → Prop}

/-- A program that includes another one does so with weaker demands on the answers. -/
theorem Includes.imp {Q Q' : α → Prog F γ → Prop} (hQ : ∀ a q, Q a q → Q' a q) {p : Prog F α}
    {q : Prog F γ} (h : Includes P Q p q) : Includes P Q' p q := by
  induction h with
  | done h => exact .done (hQ _ _ h)
  | skip hc _ ih => exact .skip hc ih
  | both _ ih => exact .both ih

/-- Where nothing is left of the other program, the calls are all its own. -/
theorem Includes.of_ret {Q : α → Prog F γ → Prop} {Q' : α → Prog F δ → Prop} {p : Prog F α} {b : γ}
    {q : Prog F δ} (h : Includes P Q p (ret b)) (hQ : ∀ a, Q a (ret b) → Q' a q) :
    Includes P Q' p q := by
  generalize hret : (ret b : Prog F γ) = r at h
  induction h with
  | done h => exact .done (hQ _ (hret ▸ h))
  | skip hc _ ih => exact .skip hc fun b => ih b hret
  | both => cases hret

/-- A program includes itself. -/
theorem Includes.self {R : α → Prop} {p : Prog F α} (hp : p.Ends (fun _ _ _ => True) R) :
    Includes P (fun a q => R a ∧ q = ret a) p p := by
  induction p with
  | ret a => exact .done ⟨hp, rfl⟩
  | call c k ih => exact .both fun b => ih b (hp b trivial)

/-- A program whose calls satisfy `P` includes any other, of which everything is left then. -/
theorem Includes.before {R : α → Prop} {p : Prog F α} (honly : p.Only P)
    (hp : p.Ends (fun _ _ _ => True) R) (q : Prog F γ) :
    Includes P (fun a q' => R a ∧ q' = q) p q := by
  induction p with
  | ret a => exact .done ⟨hp, rfl⟩
  | call c k ih => exact .skip honly.1 fun b => ih b (honly.2 b) (hp b trivial)

/-- What is left of the other program, the next part goes on with. -/
theorem Includes.andThen {Q : α → Prog F γ → Prop} {Q' : β → Prog F γ → Prop} {p : Prog F α}
    {q : Prog F γ} {f : α → Prog F β} (h : Includes P Q p q)
    (hf : ∀ a q', Q a q' → Includes P Q' (f a) q') : Includes P Q' (p.bind f) q := by
  induction h with
  | done h => exact hf _ _ h
  | skip hc _ ih => exact .skip hc ih
  | both _ ih => exact .both ih

/-- A sequence includes a sequence when its parts do. -/
theorem Includes.bind {Q : α → Prog F γ → Prop} {Q' : β → Prog F δ → Prop} {p : Prog F α}
    {q : Prog F γ} {f : α → Prog F β} {g : γ → Prog F δ} (h : Includes P Q p q)
    (hf : ∀ a q', Q a q' → Includes P Q' (f a) (q'.bind g)) :
    Includes P Q' (p.bind f) (q.bind g) := by
  induction h with
  | done h => exact hf _ _ h
  | skip hc _ ih => exact .skip hc ih
  | both _ ih => exact .both ih

/-! ## Programs that may fail -/

/-- Where the result is a success, the other program has succeeded. -/
def Granted (Q : α → γ → Prop) (r : Except ε α) (q : Prog F (Except ε γ)) : Prop :=
  ∀ a, r = .ok a → ∃ b, q = ret (.ok b) ∧ Q a b

section Fallible

variable {x : ExceptT ε (Prog F) α} {y : ExceptT ε (Prog F) γ} {f : α → ExceptT ε (Prog F) β}
  {g : γ → ExceptT ε (Prog F) δ} {Q : α → γ → Prop} {Q' : β → δ → Prop}

/-- A failure is followed by nothing. -/
theorem Includes.error (e : ε) (q : Prog F (Except ε γ)) :
    Includes P (Granted Q) (ret (.error e : Except ε α)) q :=
  .done (by rintro _ ⟨⟩)

/-- Values that fit are included. -/
theorem Includes.ok {a : α} {b : γ} (h : Q a b) :
    Includes P (Granted Q) (ret (.ok a : Except ε α)) (ret (.ok b)) :=
  .done (by rintro _ ⟨⟩; exact ⟨b, rfl, h⟩)

/-- The rule for a bind that may fail. -/
theorem Includes.bindE (h : Includes P (Granted Q) x.run y.run)
    (hf : ∀ a b, Q a b → Includes P (Granted Q') (f a).run (g b).run) :
    Includes P (Granted Q') (x >>= f).run (y >>= g).run := by
  rw [ExceptT.run_bind, ExceptT.run_bind]
  refine Includes.bind h ?_
  rintro (e | a) q' hgranted
  · exact .error e _
  · obtain ⟨b, rfl, hQ⟩ := hgranted a rfl
    exact hf a b hQ

/-- The first part includes the other program, the rest makes no call. -/
theorem Includes.andThenE {q : Prog F (Except ε δ)} {Q : α → δ → Prop}
    (h : Includes P (Granted Q) x.run q)
    (hf : ∀ a b, Q a b → Includes P (Granted Q') (f a).run (ret (.ok b))) :
    Includes P (Granted Q') (x >>= f).run q := by
  rw [ExceptT.run_bind]
  refine Includes.andThen h ?_
  rintro (e | a) q' hgranted
  · exact .error e q'
  · obtain ⟨b, rfl, hQ⟩ := hgranted a rfl
    exact hf a b hQ

/-- Calls of its own first, whose success is in `R`, and then the calls of the other program. -/
theorem Includes.beforeE {R : α → Prop} {q : Prog F (Except ε δ)} (honly : x.run.Only P)
    (hx : x.run.Ends (fun _ _ _ => True) fun r => ∀ a, r = .ok a → R a)
    (hf : ∀ a, R a → Includes P (Granted Q') (f a).run q) :
    Includes P (Granted Q') (x >>= f).run q := by
  rw [ExceptT.run_bind]
  refine Includes.andThen (Includes.before honly hx q) ?_
  rintro (e | a) q' ⟨hR, rfl⟩
  · exact .error e q'
  · exact hf a (hR a rfl)

end Fallible

end Synclog.Lib.Prog
