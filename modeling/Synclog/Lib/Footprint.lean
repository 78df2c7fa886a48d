import Mathlib.Data.Set.Lattice
import Mathlib.Order.CompletePartialOrder
import Synclog.Lib.Pool

/-!
# Footprints

A state has parts, and a call reads some parts and writes some.

* `Footprints.Local` — a handler keeps to the footprints of its calls: the answer and what is
  written depend on the parts that are read, and nothing else is changed.
* `Footprints.Local.call` — states that agree on what a call reads give the same answer, and still
  agree after it.
* `Pool.as_alone` — programs that take turns, none of which writes what another one reads: each gets
  the answers it would get alone.
-/

namespace Synclog.Lib

universe u v w x

/-- The parts of a state, and which of them a call reads and writes. -/
structure Footprints (F : Type → Type) (σ : Type u) (P : Type v) where
  /-- Two states agree on a part. -/
  like : P → σ → σ → Prop
  reads : {β : Type} → F β → Set P
  writes : {β : Type} → F β → Set P

namespace Footprints

variable {F : Type → Type} {σ : Type u} {P : Type v} (fp : Footprints F σ P)

/-- The states agree on the parts of `X`. -/
def AgreeOn (X : Set P) (s t : σ) : Prop := ∀ x ∈ X, fp.like x s t

/-- The handler keeps to the footprints. -/
structure Local (h : Handler F σ) : Prop where
  equivalence : ∀ x, Equivalence (fp.like x)
  answer : ∀ {β : Type} (c : F β) {s t : σ}, fp.AgreeOn (fp.reads c) s t →
    (h β c s).1 = (h β c t).1
  written : ∀ {β : Type} (c : F β) {s t : σ}, fp.AgreeOn (fp.reads c) s t →
    fp.AgreeOn (fp.writes c) (h β c s).2 (h β c t).2
  frame : ∀ {β : Type} (c : F β) (s : σ) (x : P), x ∉ fp.writes c → fp.like x s (h β c s).2

/-- The call reads parts of `R` only, and writes parts of `W` only. -/
def Within (R W : Set P) (β : Type) (c : F β) : Prop := fp.reads c ⊆ R ∧ fp.writes c ⊆ W

namespace Local

variable {fp} {h : Handler F σ} (hlocal : fp.Local h) {X : Set P} {s t u : σ}

include hlocal

/-- A state agrees with itself. -/
theorem refl (X : Set P) (s : σ) : fp.AgreeOn X s s := fun x _ => (hlocal.equivalence x).refl s

/-- Agreement goes both ways. -/
theorem symm (hst : fp.AgreeOn X s t) : fp.AgreeOn X t s :=
  fun x hx => (hlocal.equivalence x).symm (hst x hx)

/-- Agreement goes on along a third state. -/
theorem trans (hst : fp.AgreeOn X s t) (htu : fp.AgreeOn X t u) : fp.AgreeOn X s u :=
  fun x hx => (hlocal.equivalence x).trans (hst x hx) (htu x hx)

/-- A call that reads parts of `X` only is answered alike in states that agree on `X`, and these
agree afterwards. -/
theorem call {β : Type} {c : F β} (hreads : fp.reads c ⊆ X) (hst : fp.AgreeOn X s t) :
    (h β c s).1 = (h β c t).1 ∧ fp.AgreeOn X (h β c s).2 (h β c t).2 := by
  have hread : fp.AgreeOn (fp.reads c) s t := fun x hx => hst x (hreads hx)
  refine ⟨hlocal.answer c hread, fun x hx => ?_⟩
  by_cases hwrites : x ∈ fp.writes c
  · exact hlocal.written c hread x hwrites
  · have hs := (hlocal.equivalence x).symm (hlocal.frame c s x hwrites)
    have ht := hlocal.frame c t x hwrites
    exact (hlocal.equivalence x).trans ((hlocal.equivalence x).trans hs (hst x hx)) ht

/-- A call that writes no part of `X` is not seen there. -/
theorem unseen {β : Type} {c : F β} (hwrites : Disjoint (fp.writes c) X) :
    fp.AgreeOn X s (h β c s).2 :=
  fun x hx => hlocal.frame c s x (Set.disjoint_right.mp hwrites hx)

/-- A call that has nothing to do, and reads what it writes, has nothing to do after a call either
that writes nothing it reads. -/
theorem nothing_left {β γ : Type} {c : F β} {d : F γ} (hreads : fp.writes c ⊆ fp.reads c)
    (hdisjoint : Disjoint (fp.writes d) (fp.reads c)) (hc : ∀ x, fp.like x s (h β c s).2) (x : P) :
    fp.like x (h γ d s).2 (h β c (h γ d s).2).2 := by
  by_cases hx : x ∈ fp.writes c
  · have hequiv := hlocal.equivalence x
    have hunseen := hlocal.unseen (s := s) hdisjoint
    have hbefore := hequiv.symm (hunseen x (hreads hx))
    exact hequiv.trans hbefore (hequiv.trans (hc x) (hlocal.written c hunseen x hx))
  · exact hlocal.frame c _ x hx

/-- Calls that do not write what the other one reads or writes: in either order both get the same
answers, and every part is left the same. -/
theorem commute {β γ : Type} {c : F β} {d : F γ}
    (hcd : Disjoint (fp.writes c) (fp.reads d ∪ fp.writes d))
    (hdc : Disjoint (fp.writes d) (fp.reads c ∪ fp.writes c)) (s : σ) :
    (h γ d (h β c s).2).1 = (h γ d s).1 ∧ (h β c (h γ d s).2).1 = (h β c s).1 ∧
      ∀ x, fp.like x (h γ d (h β c s).2).2 (h β c (h γ d s).2).2 := by
  have hd := hlocal.unseen (s := s) (hcd.mono_right Set.subset_union_left)
  have hc := hlocal.unseen (s := s) (hdc.mono_right Set.subset_union_left)
  refine ⟨(hlocal.answer d hd).symm, (hlocal.answer c hc).symm, fun x => ?_⟩
  have hequiv := hlocal.equivalence x
  by_cases hx : x ∈ fp.writes d
  · -- `d` has written the part, and `c` leaves it alone
    have hnot : x ∉ fp.writes c := fun hmem =>
      Set.disjoint_left.mp hcd hmem (Set.subset_union_right hx)
    have hwritten := hlocal.written d hd x hx
    exact hequiv.trans (hequiv.symm hwritten) (hlocal.frame c _ x hnot)
  · have hframe := hequiv.symm (hlocal.frame d (h β c s).2 x hx)
    by_cases hx' : x ∈ fp.writes c
    · exact hequiv.trans hframe (hlocal.written c hc x hx')
    · have hs := hequiv.symm (hlocal.frame c s x hx')
      have ht := hequiv.trans (hlocal.frame d s x hx) (hlocal.frame c (h γ d s).2 x hx')
      exact hequiv.trans hframe (hequiv.trans hs ht)

end Local

end Footprints

/-! ## Programs with footprints -/

namespace Pool

variable {F : Type → Type} {σ : Type u} {P : Type v} {α : Type} {ι : Type w} {E : Type x}
  [DecidableEq ι] {fp : Footprints F σ P} {h : Handler F σ} {p : ι → Prog F α}
  {R W : ι → Set P} {s : σ}

/-- The program `i` is where it would be alone: what is left of it, run on a state that agrees on
what it reads, ends as the whole program does on the first state. -/
def OnItsWay (fp : Footprints F σ P) (h : Handler F σ) (p : ι → Prog F α) (R W : ι → Set P) (s : σ)
    (Q : Pool F σ α ι) (i : ι) : Prop :=
  ∃ t, fp.AgreeOn (R i) Q.shared t ∧
    ((Q.running i).getD (p i)).Only (fp.Within (R i) (W i)) ∧
    ((Q.running i).getD (p i)).run h t = (p i).run h s

omit [DecidableEq ι] in
/-- At the start every program is on its way. -/
theorem onItsWay_start (hlocal : fp.Local h) (hp : ∀ i, (p i).Only (fp.Within (R i) (W i)))
    (i : ι) : OnItsWay fp h p R W s { shared := s } i :=
  ⟨s, hlocal.refl _ _, hp i, rfl⟩

/-- A step of one program brings it on its way, and does not bother the others. -/
theorem onItsWay_step (hlocal : fp.Local h)
    (hapart : ∀ i j, i ≠ j → Disjoint (W j) (R i)) (l : PoolLabel ι E) (Q Q' : Pool F σ α ι)
    (hQ : ∀ i, OnItsWay fp h p R W s Q i) (hstep : (machine (fun _ => h) p).step l Q = some Q')
    (i : ι) : OnItsWay fp h p R W s Q' i := by
  rcases l with j | ⟨j, e⟩
  · -- a program is started
    obtain ⟨t, hagree, honly, hrun⟩ := hQ i
    change (if (Q.running j).isSome then none else some _) = some Q' at hstep
    split_ifs at hstep with hfresh
    cases hstep
    have hsame : (Function.update Q.running j (some (p j)) i).getD (p i) =
        (Q.running i).getD (p i) := by
      rw [Function.update_apply]
      split_ifs with hij
      · rw [hij, Option.not_isSome_iff_eq_none.mp hfresh]
        rfl
      · rfl
    exact ⟨t, hagree, hsame ▸ honly, hsame ▸ hrun⟩
  · have hadvance : Q.step (fun _ : E => h) j e = some Q' := hstep
    obtain ⟨β, c, k, hcall, rfl⟩ := step_eq_some.mp hadvance
    obtain ⟨u, hagree', honly', hrun'⟩ := hQ j
    rw [hcall, Option.getD_some] at honly' hrun'
    by_cases hij : i = j
    · subst hij
      obtain ⟨hanswer, hafter⟩ := hlocal.call honly'.1.1 hagree'
      refine ⟨(h β c u).2, hafter, ?_, ?_⟩
      · simpa using honly'.2 _
      · simpa [hanswer] using hrun'
    · obtain ⟨t, hagree, honly, hrun⟩ := hQ i
      have hunseen : fp.AgreeOn (R i) Q.shared (h β c Q.shared).2 :=
        hlocal.unseen ((hapart i j hij).mono_left honly'.1.2)
      refine ⟨t, hlocal.trans (hlocal.symm hunseen) hagree, ?_, ?_⟩
      · simpa [Function.update_of_ne hij] using honly
      · simpa [Function.update_of_ne hij] using hrun

/-- Programs that take turns, none of which writes what another one reads: an answer is the answer
of the program when it runs alone, which leaves what the program reads as it is now. -/
theorem as_alone (hlocal : fp.Local h) (hp : ∀ i, (p i).Only (fp.Within (R i) (W i)))
    (hapart : ∀ i j, i ≠ j → Disjoint (W j) (R i)) {ls : List (PoolLabel ι E)}
    {Q : Pool F σ α ι} (hrun : (machine (fun _ => h) p).run ls { shared := s } = some Q) {i : ι}
    {a : α} (hanswer : Q.answer i = some a) :
    ((p i).run h s).1 = a ∧ fp.AgreeOn (R i) Q.shared ((p i).run h s).2 := by
  have hway : ∀ i, OnItsWay fp h p R W s Q i :=
    Machine.run_invariant (fun l Q Q' hstep hQ =>
      onItsWay_step hlocal hapart l Q Q' hQ hstep) hrun (onItsWay_start hlocal hp)
  obtain ⟨t, hagree, -, hend⟩ := hway i
  unfold answer at hanswer
  split at hanswer
  · rename_i b hret
    cases hanswer
    rw [hret, Option.getD_some, Prog.run_ret] at hend
    rw [← hend]
    exact ⟨rfl, hagree⟩
  · cases hanswer

end Pool

end Synclog.Lib
