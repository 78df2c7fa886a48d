import Mathlib.Logic.Function.Basic
import Synclog.Lib.Machine

/-!
# Programs that run at the same time

A `Pool` holds a shared state and what is left of each of the programs that were started; a label of
`Pool.machine` starts one of them or lets it make its next call, under a reading `e` of whatever the
calls depend on besides the state (a clock).

* `Prog.embed` — a program over one signature as a program over a larger one.
* `Pool.run_filter` — noninterference: when no call of the other programs changes what the kept ones
  can tell, the others can be deleted from a run, and each kept program is left with the same rest.
-/

namespace Synclog.Lib

universe u v w

/-! ## Programs over a larger signature -/

namespace Prog

variable {F G : Type → Type} {α : Type}

/-- Each call of the program as a call of the other signature. -/
def embed (f : (β : Type) → F β → G β) : Prog F α → Prog G α
  | ret a => ret a
  | call c k => call (f _ c) fun b => (k b).embed f

/-- The calls of an embedded program are those of the program, embedded. -/
theorem Only.embed {f : (β : Type) → F β → G β} {P : (β : Type) → G β → Prop} {p : Prog F α}
    (h : p.Only fun β c => P β (f β c)) : (p.embed f).Only P := by
  induction p with
  | ret a => trivial
  | call c k ih => exact ⟨h.1, fun b => ih b (h.2 b)⟩

/-- The program runs alone as before, where its calls do what they did. -/
theorem run_embed {σ : Type u} {f : (β : Type) → F β → G β} {h : Handler F σ} {g : Handler G σ}
    (hf : ∀ (β : Type) (c : F β) s, g β (f β c) s = h β c s) (p : Prog F α) (s : σ) :
    (p.embed f).run g s = p.run h s := by
  induction p generalizing s with
  | ret a => rfl
  | call c k ih =>
      show run g ((k (g _ (f _ c) s).1).embed f) (g _ (f _ c) s).2 = _
      rw [hf]
      exact ih _ _

end Prog

/-! ## Pools -/

/-- A shared state, and what is left of the programs that were started. -/
structure Pool (F : Type → Type) (σ : Type u) (α : Type) (ι : Type v) where
  shared : σ
  running : ι → Option (Prog F α) := fun _ => none

/-- A program is started, or makes its next call. -/
inductive PoolLabel (ι : Type v) (E : Type w)
  | start (i : ι)
  | advance (i : ι) (e : E)

/-- The program that a label is about. -/
def PoolLabel.program {ι : Type v} {E : Type w} : PoolLabel ι E → ι
  | start i => i
  | advance i _ => i

namespace Pool

variable {F : Type → Type} {σ : Type u} {α : Type} {ι : Type v} {E : Type w} [DecidableEq ι]

/-- The next call of a program that is running. -/
def step (h : E → Handler F σ) (i : ι) (e : E) (P : Pool F σ α ι) : Option (Pool F σ α ι) :=
  (P.running i).bind fun p => (p.advance (h e) P.shared).map fun next =>
    { shared := next.2, running := Function.update P.running i (some next.1) }

/-- The programs `p i`, each of which is started at most once. -/
def machine (h : E → Handler F σ) (p : ι → Prog F α) : Machine (Pool F σ α ι) (PoolLabel ι E) where
  step
    | .start i, P =>
      if (P.running i).isSome then none
      else some { P with running := Function.update P.running i (some (p i)) }
    | .advance i e, P => P.step h i e

/-- The answer of a program that has come to its end. -/
def answer (P : Pool F σ α ι) (i : ι) : Option α :=
  match P.running i with
  | some (.ret a) => some a
  | _ => none

/-! ## Noninterference -/

section Noninterference

variable {h : E → Handler F σ} {p : ι → Prog F α} {kept : ι → Prop}
  {T : σ → σ → Prop} {A B : (β : Type) → F β → Prop} {P P' Q : Pool F σ α ι} {i : ι} {e : E}

/-- The kept programs cannot tell the pools apart. -/
structure Unaffected (kept : ι → Prop) (T : σ → σ → Prop) (P P' : Pool F σ α ι) : Prop where
  shared : T P.shared P'.shared
  running : ∀ i, kept i → P.running i = P'.running i

/-- What is left of each program makes calls of its kind only: `A` for the kept ones, `B` for the
others. -/
structure Sorted (kept : ι → Prop) (A B : (β : Type) → F β → Prop) (P : Pool F σ α ι) : Prop where
  of_kept : ∀ i q, kept i → P.running i = some q → q.Only A
  of_other : ∀ i q, ¬ kept i → P.running i = some q → q.Only B

/-- A program goes on with a rest of its own sort. -/
theorem Sorted.update (hP : P.Sorted kept A B) {q : Prog F α} (hkept : kept i → q.Only A)
    (hother : ¬ kept i → q.Only B) (s : σ) :
    Sorted kept A B { shared := s, running := Function.update P.running i (some q) } := by
  constructor
  · intro j r hj hr
    change Function.update P.running i (some q) j = some r at hr
    rw [Function.update_apply] at hr
    split_ifs at hr with hij
    · cases hr
      exact hkept (hij ▸ hj)
    · exact hP.of_kept j r hj hr
  · intro j r hj hr
    change Function.update P.running i (some q) j = some r at hr
    rw [Function.update_apply] at hr
    split_ifs at hr with hij
    · cases hr
      exact hother (hij ▸ hj)
    · exact hP.of_other j r hj hr

/-- A step of a program: the program is at a call. -/
theorem step_eq_some {P₁ : Pool F σ α ι} :
    P.step h i e = some P₁ ↔ ∃ (β : Type) (c : F β) (k : β → Prog F α),
      P.running i = some (.call c k) ∧
        P₁ = { shared := (h e β c P.shared).2,
               running := Function.update P.running i (some (k (h e β c P.shared).1)) } := by
  unfold step
  cases hrun : P.running i with
  | none => simp
  | some q =>
      cases q with
      | ret a => simp [Prog.advance]
      | call c k =>
          simp only [Option.bind_some, Prog.advance, Option.map_some, Option.some.injEq]
          constructor
          · rintro rfl
            exact ⟨_, c, k, rfl, rfl⟩
          · rintro ⟨β, c', k', heq, rfl⟩
            cases heq
            rfl

variable (hprogram : ∀ i, kept i → (p i).Only A) (hprogram' : ∀ i, ¬ kept i → (p i).Only B)
  (hkept : ∀ e (β : Type) (c : F β) s t, A β c → T s t →
    (h e β c s).1 = (h e β c t).1 ∧ T (h e β c s).2 (h e β c t).2)
  (hother : ∀ e (β : Type) (c : F β) s t, B β c → T s t → T (h e β c s).2 t)

include hprogram hprogram' in
/-- Programs stay sorted. -/
theorem Sorted.step (hP : P.Sorted kept A B) {l : PoolLabel ι E} {P₁ : Pool F σ α ι}
    (hstep : (machine h p).step l P = some P₁) : P₁.Sorted kept A B := by
  cases l with
  | start i =>
      change (if _ then none else some _) = some P₁ at hstep
      split_ifs at hstep
      cases hstep
      exact hP.update (hprogram i) (hprogram' i) P.shared
  | advance i e =>
      obtain ⟨β, c, k, hrun, rfl⟩ := step_eq_some.mp hstep
      exact hP.update (fun hi => (hP.of_kept i _ hi hrun).2 _)
        (fun hi => (hP.of_other i _ hi hrun).2 _) _

include hother in
/-- A step of another program is not seen. -/
theorem Unaffected.step_other (hT : Unaffected kept T P P') (hP : P.Sorted kept A B)
    {l : PoolLabel ι E} (hl : ¬ kept l.program) {P₁ : Pool F σ α ι}
    (hstep : (machine h p).step l P = some P₁) : Unaffected kept T P₁ P' := by
  have hrest : ∀ {i : ι} {q : Prog F α}, ¬ kept i → ∀ j, kept j →
      Function.update P.running i (some q) j = P'.running j := by
    intro i q hi j hj
    have hne : j ≠ i := by
      rintro rfl
      exact hi hj
    rw [Function.update_of_ne hne]
    exact hT.running j hj
  cases l with
  | start i =>
      change (if _ then none else some _) = some P₁ at hstep
      split_ifs at hstep
      cases hstep
      exact ⟨hT.shared, hrest hl⟩
  | advance i e =>
      obtain ⟨β, c, k, hrun, rfl⟩ := step_eq_some.mp hstep
      exact ⟨hother e β c _ _ (hP.of_other i _ hl hrun).1 hT.shared, hrest hl⟩

include hkept in
/-- A kept program takes the same step in both pools. -/
theorem Unaffected.step_kept (hT : Unaffected kept T P P') (hP : P.Sorted kept A B)
    {l : PoolLabel ι E} (hl : kept l.program) {P₁ : Pool F σ α ι}
    (hstep : (machine h p).step l P = some P₁) :
    ∃ P₁', (machine h p).step l P' = some P₁' ∧ Unaffected kept T P₁ P₁' := by
  have hrest : ∀ {i : ι} {q : Prog F α} (j : ι), kept j →
      Function.update P.running i (some q) j = Function.update P'.running i (some q) j := by
    intro i q j hj
    rw [Function.update_apply, Function.update_apply, hT.running j hj]
  cases l with
  | start i =>
      change (if (P.running i).isSome then none else some _) = some P₁ at hstep
      split_ifs at hstep with hsome
      cases hstep
      rw [hT.running i hl] at hsome
      exact ⟨_, if_neg hsome, hT.shared, hrest⟩
  | advance i e =>
      obtain ⟨β, c, k, hrun, rfl⟩ := step_eq_some.mp hstep
      have hrun' : P'.running i = some (.call c k) := (hT.running i hl).symm.trans hrun
      obtain ⟨hanswer, hshared⟩ := hkept e β c _ _ (hP.of_kept i _ hl hrun).1 hT.shared
      refine ⟨_, step_eq_some.mpr ⟨β, c, k, hrun', rfl⟩, hshared, ?_⟩
      rw [hanswer]
      exact hrest

include hprogram hprogram' hkept hother in
/-- The other programs can be deleted from a run: the kept ones are left with the same rests. -/
theorem run_filter [DecidablePred kept] {ls : List (PoolLabel ι E)} {P₁ : Pool F σ α ι}
    (hT : Unaffected kept T P P') (hP : P.Sorted kept A B)
    (hrun : (machine h p).run ls P = some P₁) :
    ∃ P₁', (machine h p).run (ls.filter fun l => kept l.program) P' = some P₁' ∧
      Unaffected kept T P₁ P₁' := by
  induction ls generalizing P P' with
  | nil =>
      cases hrun
      exact ⟨P', rfl, hT⟩
  | cons l ls ih =>
      obtain ⟨Q, hstep, hrest⟩ := (machine h p).run_cons_eq_some.mp hrun
      have hQ := hP.step hprogram hprogram' hstep
      by_cases hl : kept l.program
      · obtain ⟨Q', hstep', hT'⟩ := hT.step_kept hkept hP hl hstep
        obtain ⟨P₁', hrun', hlast⟩ := ih hT' hQ hrest
        refine ⟨P₁', ?_, hlast⟩
        have hkeep : decide (kept l.program) = true := decide_eq_true hl
        rw [List.filter_cons, if_pos hkeep]
        exact (machine h p).run_cons_eq_some.mpr ⟨Q', hstep', hrun'⟩
      · have hdrop : ¬ decide (kept l.program) = true := by simpa using hl
        rw [List.filter_cons, if_neg hdrop]
        exact ih (hT.step_other hother hP hl hstep) hQ hrest

omit [DecidableEq ι] in
/-- Pools that a kept program cannot tell apart have the same answer of it. -/
theorem Unaffected.answer (hT : Unaffected kept T P P') (hi : kept i) :
    P.answer i = P'.answer i := by
  unfold Pool.answer
  rw [hT.running i hi]

/-- What the calls of the programs preserve, every run preserves. -/
theorem shared_invariant {I : σ → Prop} (hp : ∀ i, (p i).Only A)
    (hcall : ∀ e (β : Type) (c : F β) s, A β c → I s → I (h e β c s).2) {s : σ} (hs : I s)
    {ls : List (PoolLabel ι E)} (hrun : (machine h p).run ls { shared := s } = some Q) :
    I Q.shared := by
  have hstart : Sorted (fun _ => True) A A ({ shared := s } : Pool F σ α ι) :=
    ⟨fun _ _ _ hq => (Option.some_ne_none _ hq.symm).elim,
      fun _ _ _ hq => (Option.some_ne_none _ hq.symm).elim⟩
  refine (Machine.run_invariant
    (I := fun P : Pool F σ α ι => I P.shared ∧ P.Sorted (fun _ => True) A A)
    (fun l P P' hstep ⟨hI, hP⟩ => ⟨?_, hP.step (fun i _ => hp i) (fun i _ => hp i) hstep⟩)
    hrun ⟨hs, hstart⟩).1
  rcases l with i | ⟨i, e⟩
  · change (if _ then none else some _) = some P' at hstep
    split_ifs at hstep
    cases hstep
    exact hI
  · obtain ⟨β, c, k, hrunning, rfl⟩ := step_eq_some.mp hstep
    exact hcall e β c _ (hP.of_kept i _ trivial hrunning).1 hI

end Noninterference

/-! ## Two handlers -/

section Handlers

variable {τ : Type u} {h : E → Handler F σ} {g : E → Handler F τ} {p : ι → Prog F α}
  {T : σ → τ → Prop}

/-- Handlers that give the same answers in related states, and keep the states related: programs
that take turns in the same order get as far with the one as with the other. -/
theorem run_congr
    (hcall : ∀ (e : E) (β : Type) (c : F β) s t, T s t →
      (h e β c s).1 = (g e β c t).1 ∧ T (h e β c s).2 (g e β c t).2)
    (ls : List (PoolLabel ι E)) {P : Pool F σ α ι} {P' : Pool F τ α ι}
    (hP : T P.shared P'.shared ∧ P.running = P'.running) :
    Option.Rel (fun Q Q' => T Q.shared Q'.shared ∧ Q.running = Q'.running)
      ((machine h p).run ls P) ((machine g p).run ls P') := by
  refine Machine.run_rel (L := Eq)
    (T := fun Q Q' : Pool F _ α ι => T Q.shared Q'.shared ∧ Q.running = Q'.running)
    ?_ (List.forall₂_same.mpr fun _ _ => rfl) hP
  rintro l _ P P' rfl ⟨hT, hrunning⟩
  rcases l with i | ⟨i, e⟩
  · simp only [machine, hrunning]
    split_ifs
    · exact .none
    · exact .some ⟨hT, rfl⟩
  · simp only [machine, step, hrunning]
    rcases P'.running i with _ | _ | ⟨c, k⟩
    · exact .none
    · exact .none
    · obtain ⟨hanswer, hnext⟩ := hcall e _ c _ _ hT
      refine .some ⟨hnext, ?_⟩
      simp only [hanswer]

omit [DecidableEq ι] in
/-- The answers are read off what is left of the programs. -/
theorem answer_congr {P : Pool F σ α ι} {P' : Pool F τ α ι} (hP : P.running = P'.running) :
    P.answer = P'.answer := by
  funext i
  unfold answer
  rw [hP]

end Handlers

end Pool

end Synclog.Lib
