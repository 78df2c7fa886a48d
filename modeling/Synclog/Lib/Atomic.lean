import Synclog.Lib.Outcome

/-!
# Programs that do all or nothing

A program takes turns with others, and its answer says whether it has failed. An answer to a call is
*idle* if it says that the call has changed nothing.

* `Prog.AllOrNothing` — after a call that was not idle nothing fails.
* `Pool.drop_failed` — the programs that have failed can be deleted from a run: the shared state is
  the same, and so is what is left of all others.
-/

namespace Synclog.Lib

universe u v w

variable {F : Type → Type} {σ : Type u} {E : Type w} {α β ε : Type}

/-- The failure of a fallible program. -/
def IsError (r : Except ε α) : Prop := ∃ err, r = .error err

instance : DecidablePred (IsError : Except ε α → Prop)
  | .error err => .isTrue ⟨err, rfl⟩
  | .ok _ => .isFalse fun ⟨_, herr⟩ => nomatch herr

/-- A value is no error. -/
theorem not_isError_ok (a : α) : ¬ IsError (.ok a : Except ε α) := by
  rintro ⟨err, herr⟩
  cases herr

namespace Prog

variable (A Idle : (β : Type) → F β → β → Prop) (fails : α → Prop)

/-- Each call is idle, or nothing after it fails. -/
def AllOrNothing : Prog F α → Prop
  | ret _ => True
  | call c k => ∀ b, A _ c b →
    Idle _ c b ∧ AllOrNothing (k b) ∨ (k b).Ends A fun a => ¬ fails a

variable {A Idle fails}

/-- A program that does not fail. -/
theorem Ends.allOrNothing {p : Prog F α} (hp : p.Ends A fun a => ¬ fails a) :
    p.AllOrNothing A Idle fails := by
  rcases p with a | ⟨c, k⟩
  · trivial
  · exact fun b hb => .inr (hp b hb)

/-- A program all of whose calls are idle. -/
theorem allOrNothing_of_only {P : (β : Type) → F β → Prop}
    (hidle : ∀ (β : Type) (c : F β) b, P β c → Idle β c b) {p : Prog F α} (hp : p.Only P) :
    p.AllOrNothing A Idle fails := by
  induction p with
  | ret a => trivial
  | call c k ih => exact fun b _ => .inl ⟨hidle _ c b hp.1, ih b (hp.2 b)⟩

/-- A program over a smaller signature whose calls are answered and idle alike. -/
theorem AllOrNothing.embed {G : Type → Type} {A' Idle' : (β : Type) → G β → β → Prop}
    {f : (β : Type) → F β → G β} (hA : ∀ (β : Type) (c : F β) b, A' β (f β c) b → A β c b)
    (hidle : ∀ (β : Type) (c : F β) b, Idle β c b → Idle' β (f β c) b) {p : Prog F α}
    (hp : p.AllOrNothing A Idle fails) : (p.embed f).AllOrNothing A' Idle' fails := by
  induction p with
  | ret a => trivial
  | call c k ih =>
      intro b hb
      rcases hp b (hA _ c b hb) with ⟨hnothing, hrest⟩ | hrest
      · exact .inl ⟨hidle _ c b hnothing, ih b hrest⟩
      · exact .inr (hrest.embed hA)

/-- What such a program answers, turned into something else. -/
theorem AllOrNothing.map {δ : Type} {fails' : δ → Prop} {f : α → δ}
    (hf : ∀ a, fails' (f a) → fails a) {p : Prog F α} (hp : p.AllOrNothing A Idle fails) :
    (p.bind fun a => ret (f a)).AllOrNothing A Idle fails' := by
  induction p with
  | ret a => trivial
  | call c k ih =>
      intro b hb
      rcases hp b hb with ⟨hnothing, hrest⟩ | hrest
      · exact .inl ⟨hnothing, ih b hrest⟩
      · exact .inr (hrest.bind fun a ha hfails => ha (hf a hfails))

/-- What comes after a part that may have changed something must not fail. -/
theorem AllOrNothing.bindE {x : ExceptT ε (Prog F) α} {f : α → ExceptT ε (Prog F) β}
    (hx : x.run.AllOrNothing A Idle IsError)
    (hf : ∀ a, (f a).run.Ends A fun r => ¬ IsError r) :
    (x >>= f).run.AllOrNothing A Idle IsError := by
  rw [ExceptT.run_bind]
  generalize x.run = p at hx
  induction p with
  | ret r =>
      rcases r with err | a
      · trivial
      · exact (hf a).allOrNothing
  | call c k ih =>
      intro b hb
      rcases hx b hb with ⟨hnothing, hrest⟩ | hrest
      · exact .inl ⟨hnothing, ih b hrest⟩
      · refine .inr (hrest.bind ?_)
        rintro (err | a) hr
        · exact absurd ⟨err, rfl⟩ hr
        · exact hf a

/-- What comes after a part whose calls are idle may do anything that is all or nothing. -/
theorem AllOrNothing.idle_bindE {P : (β : Type) → F β → Prop}
    (hidle : ∀ (β : Type) (c : F β) b, P β c → Idle β c b) {x : ExceptT ε (Prog F) α}
    {f : α → ExceptT ε (Prog F) β} (hx : x.run.Only P)
    (hf : ∀ a, (f a).run.AllOrNothing A Idle IsError) :
    (x >>= f).run.AllOrNothing A Idle IsError := by
  rw [ExceptT.run_bind]
  generalize x.run = p at hx
  induction p with
  | ret r =>
      rcases r with err | a
      · trivial
      · exact hf a
  | call c k ih => exact fun b _ => .inl ⟨hidle _ c b hx.1, ih b (hx.2 b)⟩

/-- A sequence that begins without a call. -/
theorem AllOrNothing.ofExcept_bindE {r : Except ε α} {f : α → ExceptT ε (Prog F) β}
    (hf : ∀ a, r = .ok a → (f a).run.AllOrNothing A Idle IsError) :
    (ofExcept r >>= f).run.AllOrNothing A Idle IsError := by
  rcases r with err | a
  · trivial
  · exact hf a rfl

end Prog

/-! ## Runs without the failed programs -/

namespace Pool

open Prog

variable {ι : Type v} [DecidableEq ι] {h : E → Handler F σ} {I : σ → Prop}
  {A Idle : (β : Type) → F β → β → Prop} {fails : α → Prop} {p : ι → Prog F α}
  {P P' Q : Pool F σ α ι}

/-- The program has come to its end, and has failed. -/
def Failed (fails : α → Prop) (P : Pool F σ α ι) (i : ι) : Prop := ∃ a ∈ P.answer i, fails a

instance [DecidablePred fails] : DecidablePred (P.Failed fails) :=
  fun i => inferInstanceAs (Decidable (∃ a ∈ P.answer i, fails a))

/-- What is left of each program is all or nothing. -/
def Atomic (A Idle : (β : Type) → F β → β → Prop) (fails : α → Prop) (P : Pool F σ α ι) : Prop :=
  ∀ i q, P.running i = some q → q.AllOrNothing A Idle fails

/-- A member goes on with a rest that does all or nothing. -/
theorem Atomic.update (hP : P.Atomic A Idle fails) {i : ι} {q : Prog F α}
    (hq : q.AllOrNothing A Idle fails) (s : σ) :
    Atomic A Idle fails { shared := s, running := Function.update P.running i (some q) } := by
  intro j r hr
  change Function.update P.running i (some q) j = some r at hr
  rw [Function.update_apply] at hr
  split_ifs at hr
  · cases hr
    exact hq
  · exact hP j r hr

/-- The pools have the same shared state, and the same is left of the kept programs. -/
structure SameKept (kept : ι → Prop) (P P' : Pool F σ α ι) : Prop where
  shared : P'.shared = P.shared
  running : ∀ i, kept i → P'.running i = P.running i

/-- A kept member goes on in both pools with the same rest. -/
theorem SameKept.update {kept : ι → Prop} (hsame : SameKept kept P P') (i : ι) (q : Prog F α)
    (s : σ) :
    SameKept kept { shared := s, running := Function.update P.running i (some q) }
      { shared := s, running := Function.update P'.running i (some q) } := by
  refine ⟨rfl, fun j hj => ?_⟩
  show Function.update P'.running i (some q) j = Function.update P.running i (some q) j
  rw [Function.update_apply, Function.update_apply, hsame.running j hj]

/-- A member that is dropped goes on alone. -/
theorem SameKept.update_left {kept : ι → Prop} (hsame : SameKept kept P P') {i : ι}
    (hi : ¬ kept i) (q : Prog F α) :
    SameKept kept { shared := P.shared, running := Function.update P.running i (some q) } P' := by
  refine ⟨hsame.shared, fun j hj => ?_⟩
  have hne : j ≠ i := fun heq => hi (heq ▸ hj)
  exact (hsame.running j hj).trans (Function.update_of_ne hne _ _).symm

section Drop

variable (hI : ∀ e (β : Type) (c : F β) s, I s → I (h e β c s).2)
  (hA : ∀ e (β : Type) (c : F β) s, I s → A β c (h e β c s).1)
  (hIdle : ∀ e (β : Type) (c : F β) s, I s → Idle β c (h e β c s).1 → (h e β c s).2 = s)
  (hp : ∀ i, (p i).AllOrNothing A Idle fails) {kept : ι → Prop}

include hI hA hp in
/-- A kept program takes the same step in both pools. -/
theorem SameKept.step_kept (hsame : SameKept kept P P') (hs : I P.shared)
    (hP : P.Atomic A Idle fails) {l : PoolLabel ι E} (hl : kept l.program)
    (hstep : (machine h p).step l P = some Q) :
    ∃ Q', (machine h p).step l P' = some Q' ∧ I Q.shared ∧ Q.Atomic A Idle fails ∧
      SameKept kept Q Q' := by
  rcases l with i | ⟨i, e⟩
  · change (if (P.running i).isSome then none else some _) = some Q at hstep
    split_ifs at hstep with hfresh
    cases hstep
    rw [← hsame.running i hl] at hfresh
    refine ⟨_, if_neg hfresh, hs, hP.update (hp i) _, ?_⟩
    rw [hsame.shared]
    exact hsame.update i (p i) _
  · obtain ⟨β, c, k, hcall, rfl⟩ := step_eq_some.mp hstep
    have hcall' : P'.running i = some (.call c k) := (hsame.running i hl).trans hcall
    refine ⟨_, step_eq_some.mpr ⟨β, c, k, hcall', rfl⟩, hI e β c _ hs, hP.update ?_ _, ?_⟩
    · rcases hP i _ hcall _ (hA e β c _ hs) with ⟨-, hrest⟩ | hrest
      · exact hrest
      · exact hrest.allOrNothing
    · rw [hsame.shared]
      exact hsame.update i _ _

include hI hA hIdle hp in
/-- The step of a program that is not kept, and may still fail after it. -/
theorem SameKept.step_dropped (hsame : SameKept kept P P') (hs : I P.shared)
    (hP : P.Atomic A Idle fails) {l : PoolLabel ι E} (hl : ¬ kept l.program)
    (hstep : (machine h p).step l P = some Q)
    (hnot : ¬ Q.WillEnd A (fun a => ¬ fails a) p l.program) :
    I Q.shared ∧ Q.Atomic A Idle fails ∧ SameKept kept Q P' := by
  rcases l with i | ⟨i, e⟩
  · change (if (P.running i).isSome then none else some _) = some Q at hstep
    split_ifs at hstep
    cases hstep
    exact ⟨hs, hP.update (hp i) _, hsame.update_left hl (p i)⟩
  · obtain ⟨β, c, k, hcall, rfl⟩ := step_eq_some.mp hstep
    rcases hP i _ hcall _ (hA e β c _ hs) with ⟨hnothing, hrest⟩ | hrest
    · refine ⟨hI e β c _ hs, hP.update hrest _, ?_⟩
      rw [hIdle e β c _ hs hnothing]
      exact hsame.update_left hl _
    · refine absurd ?_ hnot
      show ((Function.update P.running i (some _) i).getD (p i)).Ends A _
      simpa using hrest

variable [DecidablePred kept] (hkept : ∀ i, ¬ kept i → Q.Failed fails i)

include hI hA hIdle hp hkept in
/-- From any two pools that are the same for the kept members, those that failed can be dropped. -/
theorem drop_failed_from {ls : List (PoolLabel ι E)} (hs : I P.shared)
    (hP : P.Atomic A Idle fails) (hsame : SameKept kept P P')
    (hrun : (machine h p).run ls P = some Q) :
    ∃ Q', (machine h p).run (ls.filter fun l => kept l.program) P' = some Q' ∧
      SameKept kept Q Q' := by
  induction ls generalizing P P' with
  | nil =>
      cases hrun
      exact ⟨P', rfl, hsame⟩
  | cons l ls ih =>
      obtain ⟨P₁, hstep, hrest⟩ := (machine h p).run_cons_eq_some.mp hrun
      by_cases hl : kept l.program
      · obtain ⟨P₁', hstep', hs₁, hP₁, hsame₁⟩ := hsame.step_kept hI hA hp hs hP hl hstep
        obtain ⟨Q', hrun', hlast⟩ := ih hs₁ hP₁ hsame₁ hrest
        refine ⟨Q', ?_, hlast⟩
        rw [List.filter_cons, if_pos (decide_eq_true hl)]
        exact (machine h p).run_cons_eq_some.mpr ⟨P₁', hstep', hrun'⟩
      · -- a program that could not fail any more would not have failed at the end
        have hnot : ¬ P₁.WillEnd A (fun a => ¬ fails a) p l.program := by
          intro hends
          obtain ⟨a, hanswer, hfails⟩ := hkept _ hl
          exact (willEnd_run hI hA (shared_step hI hs hstep) hends hrest).answer hanswer hfails
        obtain ⟨hs₁, hP₁, hsame₁⟩ := hsame.step_dropped hI hA hIdle hp hs hP hl hstep hnot
        rw [List.filter_cons, if_neg (by simpa using hl)]
        exact ih hs₁ hP₁ hsame₁ hrest

include hI hA hIdle hp hkept in
/-- **Failed programs leave no trace.** Programs that are all or nothing take turns in any order.
Those that have failed, or some of them, can be deleted from the run. -/
theorem drop_failed {s : σ} (hs : I s) {ls : List (PoolLabel ι E)}
    (hrun : (machine h p).run ls { shared := s } = some Q) :
    ∃ Q', (machine h p).run (ls.filter fun l => kept l.program) { shared := s } = some Q' ∧
      SameKept kept Q Q' :=
  drop_failed_from hI hA hIdle hp hkept hs (fun _ _ hq => (Option.some_ne_none _ hq.symm).elim)
    ⟨rfl, fun _ _ => rfl⟩ hrun

end Drop

end Pool

end Synclog.Lib
