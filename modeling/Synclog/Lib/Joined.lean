import Mathlib.Data.List.Infix

/-!
# Texts joined by a separator

Two texts joined by a separator that may occur in them as well. The joined text determines its
parts up to the choice of the separator at which it is cut.

* `Recut sep a b a' b'` — `a'` and `b'` are what `a ++ sep ++ b` falls into when it is cut at a
  later separator.
* `joined_eq_iff` — the parts of equal joined texts are the same, or one is a recut of the other.
* `joined_inj_left` — where the first parts are free of the separator, equal joined texts have the
  same parts.
* `cons_infix_append_cons` — a segment that begins with the separator lies within the first part or
  begins where the second one does.
-/

namespace Synclog.Lib

universe u

/-! ## Lists -/

section Lists

variable {α : Type u} {c : α} {a b a' b' : List α}

/-- Two cuts of a list at one of its elements: the same, or one further on than the other. -/
theorem append_cons_eq_append_cons_iff :
    a ++ c :: b = a' ++ c :: b' ↔
      a = a' ∧ b = b' ∨ (∃ w, a' = a ++ c :: w ∧ b = w ++ c :: b') ∨
        ∃ w, a = a' ++ c :: w ∧ b' = w ++ c :: b := by
  constructor
  · intro heq
    rcases List.append_eq_append_iff.mp heq with ⟨w, rfl, hw⟩ | ⟨w, rfl, hw⟩
    · cases w with
      | nil =>
          have hb : b = b' := by simpa using hw
          exact .inl ⟨by simp, hb⟩
      | cons d w =>
          obtain ⟨rfl, rfl⟩ := List.cons_eq_cons.mp hw
          exact .inr (.inl ⟨w, rfl, rfl⟩)
    · cases w with
      | nil =>
          have hb : b' = b := by simpa using hw
          exact .inl ⟨by simp, hb.symm⟩
      | cons d w =>
          obtain ⟨rfl, rfl⟩ := List.cons_eq_cons.mp hw
          exact .inr (.inr ⟨w, rfl, rfl⟩)
  · rintro (⟨rfl, rfl⟩ | ⟨w, rfl, rfl⟩ | ⟨w, rfl, rfl⟩)
    · rfl
    · simp
    · simp

/-- A segment that begins with `c` and goes on without it, in a list that is cut at its last `c`:
the segment is in the first part, or the second part begins with the rest of it. -/
theorem cons_infix_append_cons {m : List α} (hm : c ∉ m) (hb : c ∉ b) :
    c :: m <:+: a ++ c :: b ↔ c :: m <:+: a ∨ m <+: b := by
  constructor
  · rintro ⟨p, q, heq⟩
    have hcut : p ++ c :: (m ++ q) = a ++ c :: b := by simpa using heq
    rcases append_cons_eq_append_cons_iff.mp hcut with ⟨-, hrest⟩ | ⟨w, ha, hrest⟩ | ⟨w, -, hrest⟩
    · exact .inr ⟨q, hrest⟩
    · -- the segment begins before the last `c`, and ends before it as well
      left
      rcases List.append_eq_append_iff.mp hrest with ⟨w', rfl, -⟩ | ⟨w', hmw, hw'⟩
      · exact ⟨p, w', by simp [ha]⟩
      · cases w' with
        | nil => exact ⟨p, [], by simp [ha, hmw]⟩
        | cons d w' =>
            obtain ⟨rfl, -⟩ := List.cons_eq_cons.mp hw'
            exact absurd (by simp [hmw]) hm
    · exact absurd (by simp [hrest]) hb
  · rintro (hin | ⟨q, rfl⟩)
    · exact hin.trans (List.prefix_append a (c :: b)).isInfix
    · exact ⟨a, q, by simp⟩

end Lists

/-! ## Strings -/

section Strings

variable {sep a b a' b' : String} {c : Char}

/-- `a'` and `b'` are the parts of `a ++ sep ++ b`, cut at a separator within `b`. -/
def Recut (sep a b a' b' : String) : Prop := ∃ w, a' = a ++ sep ++ w ∧ b = w ++ sep ++ b'

/-- The cut is moved to another occurrence of the separator. -/
theorem recut_iff_toList (hsep : sep.toList = [c]) :
    Recut sep a b a' b' ↔
      ∃ w, a'.toList = a.toList ++ c :: w ∧ b.toList = w ++ c :: b'.toList := by
  constructor
  · rintro ⟨w, rfl, rfl⟩
    exact ⟨w.toList, by simp [String.toList_append, hsep], by simp [String.toList_append, hsep]⟩
  · rintro ⟨w, ha, hb⟩
    refine ⟨String.ofList w, String.toList_inj.mp ?_, String.toList_inj.mp ?_⟩
    · simp [String.toList_append, hsep, ha]
    · simp [String.toList_append, hsep, hb]

/-- The joined text as a list of characters. -/
theorem toList_joined (hsep : sep.toList = [c]) :
    (a ++ sep ++ b).toList = a.toList ++ c :: b.toList := by
  simp [String.toList_append, hsep]

/-- Equal joined texts have the same parts, or the parts of one are those of the other cut at
another separator. -/
theorem joined_eq_iff (hsep : sep.toList = [c]) :
    a ++ sep ++ b = a' ++ sep ++ b' ↔
      a = a' ∧ b = b' ∨ Recut sep a b a' b' ∨ Recut sep a' b' a b := by
  rw [← String.toList_inj, toList_joined hsep, toList_joined hsep, append_cons_eq_append_cons_iff,
    String.toList_inj, String.toList_inj, recut_iff_toList hsep, recut_iff_toList hsep]

/-- To cut at another separator is to have another first part. -/
theorem Recut.ne (hsep : sep.toList = [c]) (h : Recut sep a b a' b') : a ≠ a' := by
  obtain ⟨w, ha, -⟩ := (recut_iff_toList hsep).mp h
  rintro rfl
  exact absurd (congrArg List.length ha) (by simp)

/-- The later cut leaves a separator in the first part. -/
theorem Recut.mem_left (hsep : sep.toList = [c]) (h : Recut sep a b a' b') : c ∈ a'.toList := by
  obtain ⟨w, ha, -⟩ := (recut_iff_toList hsep).mp h
  simp [ha]

/-- The earlier cut leaves a separator in the second part. -/
theorem Recut.mem_right (hsep : sep.toList = [c]) (h : Recut sep a b a' b') : c ∈ b.toList := by
  obtain ⟨w, -, hb⟩ := (recut_iff_toList hsep).mp h
  simp [hb]

/-- First parts without a separator: the text is cut at its first one. -/
theorem joined_inj_left (hsep : sep.toList = [c]) (ha : c ∉ a.toList) (ha' : c ∉ a'.toList)
    (heq : a ++ sep ++ b = a' ++ sep ++ b') : a = a' ∧ b = b' := by
  rcases (joined_eq_iff hsep).mp heq with hsame | hrecut | hrecut
  · exact hsame
  · exact absurd (hrecut.mem_left hsep) ha'
  · exact absurd (hrecut.mem_left hsep) ha

end Strings

end Synclog.Lib
