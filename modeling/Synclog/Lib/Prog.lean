import Mathlib.Logic.Relation

/-!
# Programs that call a shared state, run alone or under interference

A `Prog F α` is a program that returns an `α` after finitely many *calls*; a call `c : F β` is
one atomic access to a state shared with other parties, and its answer `b : β` decides how the
program goes on.

* A `Handler` says what each call does to the state and what it answers; `run` executes a program
  with nothing else running, `advance` makes its next call.
* `Exec h R` executes a program while the others take any number of steps of the relation `R`
  before each call. It is the rely of a rely/guarantee argument: nothing is assumed of the others
  beyond `R`.
* `Sat h R p Q s` says that every interfered execution of `p` from `s` ends as `Q` allows. It is
  preserved by a call of the program (`Sat.of_call`) and by a step of the others (`Sat.of_env`), so
  it is an invariant of a machine that holds a half-executed program.
* `Only P p` says that `p` makes only calls that satisfy `P`.
* `noted h note p s` lists what `note` says of the calls that `p` makes, run alone.

Programs that may fail are `ExceptT ε (Prog F)`; `exec_bind_ok` splits an execution of one at a
bind.
-/

namespace Synclog.Lib

universe u

/-- A program that makes calls from the signature `F` and returns an `α`. -/
inductive Prog (F : Type → Type) (α : Type) : Type 1
  | ret (a : α) : Prog F α
  | call {β : Type} (c : F β) (k : β → Prog F α) : Prog F α

/-- What each call does to a state `σ`, and its answer. -/
abbrev Handler (F : Type → Type) (σ : Type u) := (β : Type) → F β → σ → β × σ

namespace Prog

variable {F : Type → Type} {σ : Type u} {α β γ ε : Type}

/-- Sequencing: run `p`, then the program its result selects. -/
protected def bind : Prog F α → (α → Prog F β) → Prog F β
  | ret a, f => f a
  | call c k, f => call c fun b => (k b).bind f

instance : Monad (Prog F) where
  pure := ret
  bind := Prog.bind

/-- The program that makes one call and returns its answer. -/
def perform (c : F α) : Prog F α := call c ret

/-- A fallible program that makes one fallible call. -/
def performE (c : F (Except ε α)) : ExceptT ε (Prog F) α := ExceptT.mk (perform c)

/-- A fallible program that makes one fallible call and looks at its error itself. -/
def attempt (c : F (Except ε α)) : ExceptT ε (Prog F) (Except ε α) := ExceptT.lift (perform c)

/-- A fallible program that makes no call. -/
def ofExcept (r : Except ε α) : ExceptT ε (Prog F) α := ExceptT.mk (ret r)

/-- What follows a part that succeeds without a call. -/
@[simp] theorem ofExcept_ok_bind (a : α) (f : α → ExceptT ε (Prog F) β) :
    (ofExcept (.ok a) >>= f : ExceptT ε (Prog F) β) = f a := rfl

/-- Nothing follows a part that fails without a call. -/
@[simp] theorem ofExcept_error_bind (e : ε) (f : α → ExceptT ε (Prog F) β) :
    (ofExcept (.error e) >>= f : ExceptT ε (Prog F) β) = ofExcept (.error e) := rfl

/-! ## Running alone -/

/-- Execution with nothing else running. -/
def run (h : Handler F σ) : Prog F α → σ → α × σ
  | ret a, s => (a, s)
  | call c k, s => run h (k (h _ c s).1) (h _ c s).2

/-- A program that is done leaves the state as it is. -/
@[simp] theorem run_ret (h : Handler F σ) (a : α) (s : σ) : run h (ret a) s = (a, s) := rfl

/-- A call is handled first. -/
@[simp] theorem run_call (h : Handler F σ) (c : F β) (k : β → Prog F α) (s : σ) :
    run h (call c k) s = run h (k (h _ c s).1) (h _ c s).2 := rfl

/-- The second program goes on from where the first one leads. -/
@[simp] theorem run_bind (h : Handler F σ) (p : Prog F α) (f : α → Prog F β) (s : σ) :
    run h (p >>= f) s = run h (f (run h p s).1) (run h p s).2 := by
  show run h (p.bind f) s = _
  induction p generalizing s with
  | ret a => rfl
  | call c k ih => exact ih _ _

/-- A single call is its handler. -/
@[simp] theorem run_performE (h : Handler F σ) (c : F (Except ε α)) (s : σ) :
    run h (performE c).run s = h _ c s := rfl

/-- A fallible sequence, run alone. -/
theorem run_bindE (h : Handler F σ) (x : ExceptT ε (Prog F) α) (f : α → ExceptT ε (Prog F) β)
    (s : σ) :
    run h (x >>= f).run s =
      match (run h x.run s).1 with
      | .ok a => run h (f a).run (run h x.run s).2
      | .error e => (.error e, (run h x.run s).2) := by
  rw [ExceptT.run_bind, run_bind]
  cases (run h x.run s).1 <;> rfl

/-- A fallible sequence whose first part succeeds, run alone. -/
theorem run_bindE_of_ok {h : Handler F σ} {x : ExceptT ε (Prog F) α}
    {f : α → ExceptT ε (Prog F) β} {s t : σ} {a : α} (hx : run h x.run s = (.ok a, t)) :
    run h (x >>= f).run s = run h (f a).run t := by
  rw [run_bindE, hx]

/-- A fallible sequence whose first part fails, run alone. -/
theorem run_bindE_of_error {h : Handler F σ} {x : ExceptT ε (Prog F) α}
    {f : α → ExceptT ε (Prog F) β} {s t : σ} {e : ε} (hx : run h x.run s = (.error e, t)) :
    run h (x >>= f).run s = (.error e, t) := by
  rw [run_bindE, hx]

/-- A fallible sequence that begins without a call, run alone. -/
theorem run_ofExcept_bindE (h : Handler F σ) (r : Except ε α) (f : α → ExceptT ε (Prog F) β)
    (s : σ) :
    run h (ofExcept r >>= f).run s =
      match r with
      | .ok a => run h (f a).run s
      | .error e => (.error e, s) := by
  rw [run_bindE]
  rfl

/-- Handlers that give the same answers in related states, and keep the states related: no program
can tell the states apart. -/
theorem run_congr {τ : Type u} {h : Handler F σ} {h' : Handler F τ} {T : σ → τ → Prop}
    (hcall : ∀ (β : Type) (c : F β) s t, T s t →
      (h β c s).1 = (h' β c t).1 ∧ T (h β c s).2 (h' β c t).2) (p : Prog F α) {s : σ} {t : τ}
    (hst : T s t) : (run h p s).1 = (run h' p t).1 ∧ T (run h p s).2 (run h' p t).2 := by
  induction p generalizing s t with
  | ret a => exact ⟨rfl, hst⟩
  | call c k ih =>
      obtain ⟨hanswer, hnext⟩ := hcall _ c s t hst
      rw [run_call, run_call, hanswer]
      exact ih _ hnext

/-- The next call of a program: what is left of it, and the state the call leaves. -/
def advance (h : Handler F σ) : Prog F α → σ → Option (Prog F α × σ)
  | ret _, _ => none
  | call c k, s => some (k (h _ c s).1, (h _ c s).2)

/-! ## Running under interference -/

/-- `Exec h R p s a t`: from the state `s` the program `p` may end with the result `a` in the state
`t`, when the others take any number of `R`-steps before each of its calls. -/
inductive Exec (h : Handler F σ) (R : σ → σ → Prop) : Prog F α → σ → α → σ → Prop
  | ret (a : α) (s : σ) : Exec h R (Prog.ret a) s a s
  | call {β : Type} (c : F β) (k : β → Prog F α) {s s' t : σ} {a : α}
      (henv : Relation.ReflTransGen R s s')
      (hrest : Exec h R (k (h _ c s').1) (h _ c s').2 a t) :
      Exec h R (Prog.call c k) s a t

variable {h : Handler F σ} {R : σ → σ → Prop}

/-- A program that is done answers its value, whatever the others might do. -/
theorem exec_ret {a b : α} {s t : σ} : Exec h R (ret a) s b t ↔ b = a ∧ t = s := by
  constructor
  · rintro ⟨⟩
    exact ⟨rfl, rfl⟩
  · rintro ⟨rfl, rfl⟩
    exact .ret _ _

/-- A value is answered as it is. -/
theorem exec_pure {a b : α} {s t : σ} :
    Exec h R (pure a : Prog F α) s b t ↔ b = a ∧ t = s := exec_ret

/-- A call is handled after any steps of the others. -/
theorem exec_call {c : F β} {k : β → Prog F α} {s t : σ} {a : α} :
    Exec h R (call c k) s a t ↔
      ∃ s', Relation.ReflTransGen R s s' ∧ Exec h R (k (h _ c s').1) (h _ c s').2 a t := by
  constructor
  · rintro ⟨⟩
    exact ⟨_, ‹_›, ‹_›⟩
  · rintro ⟨s', henv, hrest⟩
    exact .call c k henv hrest

/-- An execution of a sequence is an execution of its parts, one after the other. -/
theorem exec_bind {p : Prog F α} {f : α → Prog F β} {s t : σ} {b : β} :
    Exec h R (p >>= f) s b t ↔ ∃ a u, Exec h R p s a u ∧ Exec h R (f a) u b t := by
  show Exec h R (p.bind f) s b t ↔ _
  induction p generalizing s with
  | ret a =>
      constructor
      · intro hf
        exact ⟨a, s, .ret a s, hf⟩
      · rintro ⟨a', u, hret, hf⟩
        obtain ⟨rfl, rfl⟩ := exec_ret.mp hret
        exact hf
  | call c k ih =>
      simp only [Prog.bind, exec_call, ih]
      constructor
      · rintro ⟨s', henv, a, u, hp, hf⟩
        exact ⟨a, u, ⟨s', henv, hp⟩, hf⟩
      · rintro ⟨a, u, ⟨s', henv, hp⟩, hf⟩
        exact ⟨s', henv, a, u, hp, hf⟩

/-- A single call is handled after any steps of the others. -/
theorem exec_performE {c : F (Except ε α)} {s t : σ} {r : Except ε α} :
    Exec h R (performE c).run s r t ↔
      ∃ s', Relation.ReflTransGen R s s' ∧ h _ c s' = (r, t) := by
  show Exec h R (call c Prog.ret) s r t ↔ _
  rw [exec_call]
  constructor
  · rintro ⟨s', henv, hrest⟩
    obtain ⟨rfl, rfl⟩ := exec_ret.mp hrest
    exact ⟨s', henv, rfl⟩
  · rintro ⟨s', henv, heq⟩
    exact ⟨s', henv, by rw [heq]; exact .ret _ _⟩

/-- One fallible call, then the rest if it succeeds. -/
theorem exec_performE_bind {c : F (Except ε α)} {f : α → ExceptT ε (Prog F) β} {s t : σ}
    {r : Except ε β} :
    Exec h R (performE c >>= f).run s r t ↔
      ∃ s', Relation.ReflTransGen R s s' ∧
        match (h _ c s').1 with
        | .ok a => Exec h R (f a).run (h _ c s').2 r t
        | .error e => r = .error e ∧ t = (h _ c s').2 := by
  have hrun : (performE c >>= f).run =
      call c fun a => match a with
        | .ok a => (f a).run
        | .error e => ret (.error e) := by
    show call c _ = call c _
    congr 1
    funext a
    cases a <;> rfl
  rw [hrun, exec_call]
  refine exists_congr fun s' => and_congr_right fun _ => ?_
  cases (h _ c s').1 with
  | ok a => exact Iff.rfl
  | error e => exact exec_ret

/-- One fallible call, then the rest with its answer. -/
theorem exec_attempt_bind {c : F (Except ε α)} {f : Except ε α → ExceptT ε (Prog F) β} {s t : σ}
    {r : Except ε β} :
    Exec h R (attempt c >>= f).run s r t ↔
      ∃ s', Relation.ReflTransGen R s s' ∧ Exec h R (f (h _ c s').1).run (h _ c s').2 r t :=
  exec_call

/-- What is computed without a call is answered as it is. -/
theorem exec_ofExcept {r r' : Except ε α} {s t : σ} :
    Exec h R (ofExcept r).run s r' t ↔ r' = r ∧ t = s := exec_ret

/-- A value is answered as it is, where a program may fail. -/
theorem exec_pureE {a : α} {r : Except ε α} {s t : σ} :
    Exec h R (pure a : ExceptT ε (Prog F) α).run s r t ↔ r = .ok a ∧ t = s := exec_ret

/-- An error is answered as it is. -/
theorem exec_throw {e : ε} {r : Except ε α} {s t : σ} :
    Exec h R (throw e : ExceptT ε (Prog F) α).run s r t ↔ r = .error e ∧ t = s := exec_ret

/-- An execution of a fallible sequence: its first part, and its second where the first succeeds. -/
theorem exec_bindE {x : ExceptT ε (Prog F) α} {f : α → ExceptT ε (Prog F) β} {s t : σ}
    {r : Except ε β} :
    Exec h R (x >>= f).run s r t ↔
      ∃ a u, Exec h R x.run s a u ∧
        match a with
        | .ok a => Exec h R (f a).run u r t
        | .error e => r = .error e ∧ t = u := by
  rw [ExceptT.run_bind, exec_bind]
  refine exists_congr fun a => exists_congr fun u => and_congr_right fun _ => ?_
  cases a with
  | ok a => exact Iff.rfl
  | error e => exact exec_pure

/-- A fallible sequence that succeeds is two parts that succeed. -/
theorem exec_bind_ok {x : ExceptT ε (Prog F) α} {f : α → ExceptT ε (Prog F) β} {s t : σ} {b : β} :
    Exec h R (x >>= f).run s (.ok b) t ↔
      ∃ a u, Exec h R x.run s (.ok a) u ∧ Exec h R (f a).run u (.ok b) t := by
  rw [ExceptT.run_bind, exec_bind]
  constructor
  · rintro ⟨a | a, u, hx, hf⟩
    · simp [exec_pure] at hf
    · exact ⟨a, u, hx, hf⟩
  · rintro ⟨a, u, hx, hf⟩
    exact ⟨.ok a, u, hx, hf⟩

/-- A program that returns at once and succeeds. -/
theorem exec_pure_ok {a b : α} {s t : σ} :
    Exec h R (pure a : ExceptT ε (Prog F) α).run s (.ok b) t ↔ b = a ∧ t = s := by
  rw [exec_pureE, Except.ok.injEq]

/-- A sequence that succeeds and ends by returning something of the answer of its first part. -/
theorem exec_bind_pure_ok {x : ExceptT ε (Prog F) α} {g : α → β} {s t : σ} {b : β} :
    Exec h R (x >>= fun a => pure (g a)).run s (.ok b) t ↔
      ∃ a, Exec h R x.run s (.ok a) t ∧ b = g a := by
  rw [exec_bind_ok]
  constructor
  · rintro ⟨a, u, hx, hret⟩
    obtain ⟨rfl, rfl⟩ := exec_pure_ok.mp hret
    exact ⟨a, hx, rfl⟩
  · rintro ⟨a, hx, rfl⟩
    exact ⟨a, t, hx, exec_pure_ok.mpr ⟨rfl, rfl⟩⟩

/-- A sequence that begins without a call and succeeds. -/
theorem exec_ofExcept_bind_ok {x : Except ε α} {f : α → ExceptT ε (Prog F) β} {s t : σ} {b : β} :
    Exec h R (ofExcept x >>= f).run s (.ok b) t ↔
      ∃ a, x = .ok a ∧ Exec h R (f a).run s (.ok b) t := by
  rw [exec_bind_ok]
  constructor
  · rintro ⟨a, u, hx, hf⟩
    obtain ⟨heq, rfl⟩ := exec_ofExcept.mp hx
    exact ⟨a, heq.symm, hf⟩
  · rintro ⟨a, rfl, hf⟩
    exact ⟨a, s, exec_ofExcept.mpr ⟨rfl, rfl⟩, hf⟩

/-- Running alone is one of the interfered executions. -/
theorem exec_run (h : Handler F σ) (R : σ → σ → Prop) (p : Prog F α) (s : σ) :
    Exec h R p s (run h p s).1 (run h p s).2 := by
  induction p generalizing s with
  | ret a => exact .ret a s
  | call c k ih => exact .call c k .refl (ih _ _)

/-- Where the others take no step, nothing changes before a call. -/
theorem eq_of_alone {s t : σ} (h : Relation.ReflTransGen (fun _ _ => False) s t) : s = t := by
  cases Relation.ReflTransGen.cases_head h with
  | inl heq => exact heq
  | inr hstep =>
      obtain ⟨_, hfalse, _⟩ := hstep
      exact hfalse.elim

/-- An execution, seen through a map of the states. -/
theorem Exec.map {τ : Type u} {h' : Handler F τ} {R' : τ → τ → Prop} (f : σ → τ)
    (hcall : ∀ (β : Type) (c : F β) s, h' β c (f s) = ((h β c s).1, f (h β c s).2))
    (henv : ∀ s s', R s s' → R' (f s) (f s')) {p : Prog F α} {s t : σ} {a : α}
    (hp : Exec h R p s a t) : Exec h' R' p (f s) a (f t) := by
  induction hp with
  | ret a s => exact .ret a (f s)
  | @call β c k s s' t a hsteps _ ih =>
      refine .call c k (Relation.ReflTransGen.lift f henv _ _ hsteps) ?_
      rw [hcall β c s']
      exact ih

/-- A relation kept by every step of the others and by every call is kept by an execution. -/
theorem Exec.rel {T : σ → σ → Prop} (hrefl : ∀ s, T s s)
    (htrans : ∀ s t u, T s t → T t u → T s u) (henv : ∀ s s', R s s' → T s s')
    (hcall : ∀ (β : Type) (c : F β) s, T s (h β c s).2)
    {p : Prog F α} {s t : σ} {a : α} (hp : Exec h R p s a t) : T s t := by
  induction hp with
  | ret a s => exact hrefl s
  | @call β c k s s' t a hsteps _ ih =>
      have hrest : T s' t := htrans _ _ _ (hcall β c s') ih
      have hpre : ∀ u, Relation.ReflTransGen R s u → T s u := by
        intro u hu
        induction hu with
        | refl => exact hrefl _
        | tail _ hstep hprev => exact htrans _ _ _ hprev (henv _ _ hstep)
      exact htrans _ _ _ (hpre s' hsteps) hrest

/-! ## Postconditions under interference -/

/-- Every interfered execution of `p` from `s` ends as `Q` allows. -/
def Sat (h : Handler F σ) (R : σ → σ → Prop) (p : Prog F α) (Q : α → σ → Prop) (s : σ) : Prop :=
  ∀ a t, Exec h R p s a t → Q a t

/-- What a program that is done satisfies. -/
theorem sat_ret {Q : α → σ → Prop} {a : α} {s : σ} : Sat h R (ret a) Q s ↔ Q a s := by
  constructor
  · intro hs
    exact hs a s (.ret a s)
  · intro hq b t hexec
    obtain ⟨rfl, rfl⟩ := exec_ret.mp hexec
    exact hq

/-- The program takes its next call. -/
theorem Sat.of_call {Q : α → σ → Prop} {c : F β} {k : β → Prog F α} {s : σ}
    (hs : Sat h R (call c k) Q s) : Sat h R (k (h _ c s).1) Q (h _ c s).2 :=
  fun a t hexec => hs a t (.call c k .refl hexec)

/-- The others take a step: the postcondition must be one they cannot break. -/
theorem Sat.of_env {Q : α → σ → Prop} (hQ : ∀ a s s', R s s' → Q a s → Q a s') {p : Prog F α}
    {s s' : σ} (hstep : R s s') (hs : Sat h R p Q s) : Sat h R p Q s' := by
  intro a t hexec
  cases hexec with
  | ret =>
      exact hQ a _ _ hstep (sat_ret.mp hs)
  | call c k henv hrest =>
      exact hs a t (.call c k (Relation.ReflTransGen.head hstep henv) hrest)

/-! ## Restricting the calls of a program -/

/-- Every call that `p` can make satisfies `P`. -/
def Only (P : (β : Type) → F β → Prop) : Prog F α → Prop
  | ret _ => True
  | call c k => P _ c ∧ ∀ b, Only P (k b)

/-- The calls of a bind are those of its parts. -/
theorem Only.bind {P : (β : Type) → F β → Prop} {p : Prog F α} {f : α → Prog F β}
    (hp : Only P p) (hf : ∀ a, Only P (f a)) : Only P (p >>= f) := by
  show Only P (p.bind f)
  induction p with
  | ret a => exact hf a
  | call c k ih => exact ⟨hp.1, fun b => ih b (hp.2 b)⟩

/-- A fallible sequence whose parts make only `P` calls makes only `P` calls. -/
theorem Only.bindE {P : (β : Type) → F β → Prop} {x : ExceptT ε (Prog F) α}
    {f : α → ExceptT ε (Prog F) β} (hx : Only P x.run) (hf : ∀ a, Only P (f a).run) :
    Only P (x >>= f).run := by
  rw [ExceptT.run_bind]
  refine Only.bind hx ?_
  rintro (e | a)
  · trivial
  · exact hf a

/-- A program that begins without a call: only what follows a success matters. -/
theorem Only.ofExcept_bindE {P : (β : Type) → F β → Prop} {r : Except ε α}
    {f : α → ExceptT ε (Prog F) β} (hf : ∀ a, r = .ok a → Only P (f a).run) :
    Only P (ofExcept r >>= f).run := by
  cases r with
  | error e => trivial
  | ok a => exact hf a rfl

/-- Fewer calls are allowed. -/
theorem Only.imp {P P' : (β : Type) → F β → Prop} (hP : ∀ (β : Type) (c : F β), P β c → P' β c)
    {p : Prog F α} (hp : Only P p) : Only P' p := by
  induction p with
  | ret a => trivial
  | call c k ih => exact ⟨hP _ c hp.1, fun b => ih b (hp.2 b)⟩

/-- The next call of a program that makes only `P` calls is a `P` call, and so are the rest. -/
theorem Only.of_advance {P : (β : Type) → F β → Prop} {p p' : Prog F α} {s t : σ}
    (hp : Only P p) (hadv : p.advance h s = some (p', t)) :
    Only P p' ∧ ∃ (β : Type) (c : F β), P β c ∧ t = (h β c s).2 := by
  cases p with
  | ret a => cases hadv
  | call c k =>
      cases hadv
      exact ⟨hp.2 _, _, c, hp.1, rfl⟩

/-- A program whose calls all leave the state alone leaves the state alone. -/
theorem Only.run_state {P : (β : Type) → F β → Prop}
    (hP : ∀ (β : Type) (c : F β) s, P β c → (h β c s).2 = s) {p : Prog F α} (hp : Only P p)
    (s : σ) : (run h p s).2 = s := by
  induction p generalizing s with
  | ret a => rfl
  | call c k ih =>
      rw [run_call, ih _ (hp.2 _), hP _ c s hp.1]

/-! ## The calls that a program makes -/

/-- What `note` says of the calls that a program makes, run alone; calls of which it says nothing
are left out. -/
def noted (h : Handler F σ) (note : (β : Type) → F β → Option γ) : Prog F α → σ → List γ
  | ret _, _ => []
  | call c k, s => (note _ c).toList ++ noted h note (k (h _ c s).1) (h _ c s).2

/-- What is noted of a bind is what is noted of its parts, one behind the other. -/
theorem noted_bind (note : (β : Type) → F β → Option γ) (p : Prog F α) (f : α → Prog F β) (s : σ) :
    noted h note (p >>= f) s =
      noted h note p s ++ noted h note (f (run h p s).1) (run h p s).2 := by
  show noted h note (p.bind f) s = _
  induction p generalizing s with
  | ret a => rfl
  | call c k ih => simp only [Prog.bind, noted, run_call, List.append_assoc, ih]

/-- The calls of a fallible sequence whose first part succeeds. -/
theorem noted_bindE_of_ok {note : (β : Type) → F β → Option γ} {x : ExceptT ε (Prog F) α}
    {f : α → ExceptT ε (Prog F) β} {s : σ} {a : α} (hx : (run h x.run s).1 = .ok a) :
    noted h note (x >>= f).run s =
      noted h note x.run s ++ noted h note (f a).run (run h x.run s).2 := by
  rw [ExceptT.run_bind, noted_bind, hx]

/-- The calls of a fallible sequence that begins with a call that succeeds. -/
theorem noted_performE_bind_of_ok {note : (β : Type) → F β → Option γ} {c : F (Except ε α)}
    {f : α → ExceptT ε (Prog F) β} {s : σ} {a : α} (hc : (h _ c s).1 = .ok a) :
    noted h note (performE c >>= f).run s =
      (note _ c).toList ++ noted h note (f a).run (h _ c s).2 := by
  have hx : (run h (performE c).run s).1 = .ok a := hc
  rw [noted_bindE_of_ok hx]
  exact congrArg (· ++ _) (List.append_nil _)

/-- The calls of a fallible sequence whose first part fails. -/
theorem noted_bindE_of_error {note : (β : Type) → F β → Option γ} {x : ExceptT ε (Prog F) α}
    {f : α → ExceptT ε (Prog F) β} {s : σ} {e : ε} (hx : (run h x.run s).1 = .error e) :
    noted h note (x >>= f).run s = noted h note x.run s := by
  rw [ExceptT.run_bind, noted_bind, hx]
  exact List.append_nil _

/-- The calls of the first part of a fallible sequence are calls of the sequence. -/
theorem mem_noted_bindE_left {note : (β : Type) → F β → Option γ} {x : ExceptT ε (Prog F) α}
    {f : α → ExceptT ε (Prog F) β} {s : σ} {g : γ} (hg : g ∈ noted h note x.run s) :
    g ∈ noted h note (x >>= f).run s := by
  rw [ExceptT.run_bind, noted_bind]
  exact List.mem_append_left _ hg

/-- The calls of a fallible sequence are those of its first part and some of its second. -/
theorem mem_noted_bindE {note : (β : Type) → F β → Option γ} {x : ExceptT ε (Prog F) α}
    {f : α → ExceptT ε (Prog F) β} {s : σ} {g : γ} (hg : g ∈ noted h note (x >>= f).run s) :
    g ∈ noted h note x.run s ∨ ∃ a t, g ∈ noted h note (f a).run t := by
  rcases hx : (run h x.run s).1 with e | a
  · rw [noted_bindE_of_error hx] at hg
    exact .inl hg
  · rw [noted_bindE_of_ok hx] at hg
    exact (List.mem_append.mp hg).imp_right fun hrest => ⟨a, _, hrest⟩

end Prog

/-! ## A state inside a larger one -/

/-- A part of type `τ` of a state `σ`, which can be read and replaced. -/
structure Cell (σ : Type u) (τ : Type) where
  /-- Read the part. -/
  get : σ → τ
  /-- Replace the part. -/
  set : τ → σ → σ
  /-- What is read after a replacement is the new part. -/
  get_set : ∀ t s, get (set t s) = t
  /-- Replacing the part by itself changes nothing. -/
  set_get : ∀ s, set (get s) s = s

attribute [simp] Cell.get_set Cell.set_get

/-- The whole state as a part of itself. -/
def Cell.whole (σ : Type) : Cell σ σ where
  get s := s
  set t _ := t
  get_set _ _ := rfl
  set_get _ := rfl

/-- A handler on a part, as a handler on the state around it. -/
def Handler.within {F : Type → Type} {σ : Type u} {τ : Type} (cell : Cell σ τ)
    (h : Handler F τ) : Handler F σ :=
  fun β c s => ((h β c (cell.get s)).1, cell.set (h β c (cell.get s)).2 s)

end Synclog.Lib
