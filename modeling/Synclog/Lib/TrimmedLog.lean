import Mathlib.Data.List.Basic
import Mathlib.Tactic.Ring
import Mathlib.Data.List.Range

/-!
# Runs of consecutive numbers, and logs trimmed at the front

Two general notions behind a log that numbers its entries and forgets the oldest ones.

* `Consecutive f n xs` — the entries of `xs` carry the numbers `n, n + 1, …` under `f`. The lemmas
  say how it passes through `append`, `take` and `drop`, and what searching such a list for a
  bound finds (`Consecutive.findIdx?_eq`, `Consecutive.length_takeWhile`).
* `TrimmedLog α` — everything ever appended (`all`) with the number of entries forgotten so far
  (`base`). That `base` is at most the number of entries is a field, so a log that has forgotten
  an entry it never had cannot be built. `append` and `trim` are its only operations, and both
  lead to a log that `Extends` the old one.
-/

namespace Synclog.Lib

universe u

variable {α : Type u}

/-! ## Consecutive numbers -/

/-- Under `f` the entries of the list carry the numbers `n`, `n + 1`, … -/
def Consecutive (f : α → Nat) : Nat → List α → Prop
  | _, [] => True
  | n, x :: xs => f x = n ∧ Consecutive f (n + 1) xs

namespace Consecutive

variable {f : α → Nat} {n : Nat} {xs ys : List α}

/-- An empty list is numbered from anywhere. -/
@[simp] theorem nil : Consecutive f n [] := trivial

/-- A numbered list begins with its first number. -/
@[simp] theorem cons_iff {x : α} :
    Consecutive f n (x :: xs) ↔ f x = n ∧ Consecutive f (n + 1) xs := Iff.rfl

/-- The numbers of a consecutive list, as a range. -/
theorem iff_map_eq_range' : Consecutive f n xs ↔ xs.map f = List.range' n xs.length := by
  induction xs generalizing n with
  | nil => simp
  | cons x xs ih => simp [ih, List.range'_succ]

/-- Numbering the images is numbering the entries. -/
theorem map_iff {β : Type u} {g : β → α} {zs : List β} :
    Consecutive f n (zs.map g) ↔ Consecutive (fun z => f (g z)) n zs := by
  rw [iff_map_eq_range', iff_map_eq_range', List.map_map, List.length_map]
  rfl

/-- A list is numbered when its parts are, one behind the other. -/
theorem append_iff :
    Consecutive f n (xs ++ ys) ↔ Consecutive f n xs ∧ Consecutive f (n + xs.length) ys := by
  induction xs generalizing n with
  | nil => simp
  | cons x xs ih =>
      have harith : n + 1 + xs.length = n + (xs.length + 1) := by omega
      simp [ih, and_assoc, harith]

/-- The first entries are numbered alike. -/
theorem take (h : Consecutive f n xs) (k : Nat) : Consecutive f n (xs.take k) := by
  rw [← List.take_append_drop k xs, append_iff] at h
  exact h.1

/-- The other entries are numbered from further on. -/
theorem drop (h : Consecutive f n xs) (k : Nat) : Consecutive f (n + k) (xs.drop k) := by
  induction k generalizing n xs with
  | zero => simpa using h
  | succ k ih =>
      cases xs with
      | nil => simp
      | cons x xs =>
          have hrest := ih h.2
          have harith : n + (k + 1) = n + 1 + k := by omega
          rwa [List.drop_succ_cons, harith]

/-- The number of an entry is its position above `n`. -/
theorem getElem (h : Consecutive f n xs) {i : Nat} (hi : i < xs.length) : f xs[i] = n + i := by
  induction xs generalizing n i with
  | nil => simp at hi
  | cons x xs ih =>
      cases i with
      | zero => simpa using h.1
      | succ i =>
          have hrest := ih h.2 (by simpa using hi)
          simp only [List.getElem_cons_succ, hrest]
          omega

/-- An entry is found at the position that its number says. -/
theorem getElem?_eq_some (h : Consecutive f n xs) {x : α} (hx : x ∈ xs) :
    xs[f x - n]? = some x := by
  obtain ⟨i, hi, rfl⟩ := List.getElem_of_mem hx
  rw [h.getElem hi, Nat.add_sub_cancel_left]
  exact List.getElem?_eq_getElem hi

/-- Entries with the same number are the same. -/
theorem injective (h : Consecutive f n xs) {x y : α} (hx : x ∈ xs) (hy : y ∈ xs)
    (heq : f x = f y) : x = y := by
  have hfound := h.getElem?_eq_some hx
  rw [heq, h.getElem?_eq_some hy] at hfound
  exact (Option.some.inj hfound).symm

/-- The numbers lie between the first one and the length. -/
theorem bounds (h : Consecutive f n xs) {x : α} (hx : x ∈ xs) : n ≤ f x ∧ f x < n + xs.length := by
  obtain ⟨i, hi, rfl⟩ := List.getElem_of_mem hx
  rw [h.getElem hi]
  omega

/-- The first entry has the first number. -/
theorem head_eq (h : Consecutive f n xs) (hne : xs ≠ []) : f (xs.head hne) = n := by
  cases xs with
  | nil => exact absurd rfl hne
  | cons x xs => exact h.1

/-- The last entry has the last number. -/
theorem getLast_eq (h : Consecutive f n xs) (hne : xs ≠ []) :
    f (xs.getLast hne) + 1 = n + xs.length := by
  have hpos : 0 < xs.length := List.length_pos_iff.mpr hne
  rw [List.getLast_eq_getElem, h.getElem]
  omega

/-- A number in the range of a consecutive list is carried by one of its entries. -/
theorem exists_mem (h : Consecutive f n xs) {k : Nat} (hk : n ≤ k) (hk' : k < n + xs.length) :
    ∃ x ∈ xs, f x = k := by
  refine ⟨xs[k - n], List.getElem_mem _, ?_⟩
  rw [h.getElem]
  omega

/-- An entry survives dropping the first `k` when its number does. -/
theorem mem_drop_iff (h : Consecutive f n xs) {x : α} (hx : x ∈ xs) (k : Nat) :
    x ∈ xs.drop k ↔ n + k ≤ f x := by
  constructor
  · intro hmem
    exact ((h.drop k).bounds hmem).1
  · intro hle
    obtain ⟨i, hi, rfl⟩ := List.getElem_of_mem hx
    rw [h.getElem hi] at hle
    refine List.mem_iff_getElem.mpr ⟨i - k, ?_, ?_⟩
    · rw [List.length_drop]
      omega
    · have harith : k + (i - k) = i := by omega
      simp only [List.getElem_drop, harith]

/-- How many leading entries lie below a bound. -/
theorem length_takeWhile (h : Consecutive f n xs) (b : Nat) :
    (xs.takeWhile fun x => f x < b).length = min (b - n) xs.length := by
  induction xs generalizing n with
  | nil => simp
  | cons x xs ih =>
      have hx : f x = n := h.1
      by_cases hb : n < b
      · rw [List.takeWhile_cons_of_pos (by simpa [hx] using hb), List.length_cons, ih h.2,
          List.length_cons]
        omega
      · rw [List.takeWhile_cons_of_neg (by simpa [hx] using hb)]
        simp only [List.length_nil]
        omega

/-- The entries above a bound are a final piece of a consecutive list. -/
theorem filter_lt_eq_drop (h : Consecutive f n xs) (c : Nat) :
    (xs.filter fun x => c < f x) = xs.drop (c + 1 - n) := by
  induction xs generalizing n with
  | nil => simp
  | cons x xs ih =>
      have hx : f x = n := h.1
      by_cases hc : c < n
      · have hzero : c + 1 - n = 0 := by omega
        have hrest : c + 1 - (n + 1) = 0 := by omega
        rw [List.filter_cons_of_pos (by simpa [hx] using hc), ih h.2, hzero, hrest]
        rfl
      · have hsucc : c + 1 - n = (c + 1 - (n + 1)) + 1 := by omega
        rw [List.filter_cons_of_neg (by simpa [hx] using hc), ih h.2, hsucc, List.drop_succ_cons]

/-- The first entry above a bound that does not lie below the list. -/
theorem findIdx?_eq (h : Consecutive f n xs) {c : Nat} (hc : n ≤ c + 1) :
    (xs.findIdx? fun x => c < f x) = if c + 1 < n + xs.length then some (c + 1 - n) else none := by
  induction xs generalizing n with
  | nil => simp; omega
  | cons x xs ih =>
      have hx : f x = n := h.1
      rw [List.findIdx?_cons]
      by_cases hcn : c < n
      · have hlt : c + 1 < n + (xs.length + 1) := by omega
        have hidx : c + 1 - n = 0 := by omega
        simp [hx, hcn, hidx, hlt]
      · have hrest := ih h.2 (by omega)
        rw [if_neg (by simpa [hx] using hcn), hrest]
        simp only [List.length_cons]
        by_cases hlt : c + 1 < n + 1 + xs.length
        · rw [if_pos hlt, if_pos (by omega), Option.map_some]
          congr 1
          omega
        · rw [if_neg hlt, if_neg (by omega), Option.map_none]

end Consecutive

/-! ## Trimmed logs -/

/-- A log of which the first `base` entries are forgotten. -/
structure TrimmedLog (α : Type u) where
  /-- Everything ever appended, oldest first. -/
  all : List α
  /-- How many entries are forgotten. -/
  base : Nat
  /-- Only entries that were appended are forgotten. -/
  base_le : base ≤ all.length

namespace TrimmedLog

/-- The log to which nothing was appended. -/
def empty : TrimmedLog α := ⟨[], 0, le_rfl⟩

/-- How many entries were ever appended; the number of the newest one. -/
def head (L : TrimmedLog α) : Nat := L.all.length

/-- The entries that are not forgotten. -/
def retained (L : TrimmedLog α) : List α := L.all.drop L.base

/-- The number of the first entry that is not forgotten, or of the next one to come; `0` for a log
to which nothing was appended. -/
def start (L : TrimmedLog α) : Nat := if L.head = 0 then 0 else L.base + 1

/-- Append one entry. -/
def append (L : TrimmedLog α) (x : α) : TrimmedLog α where
  all := L.all ++ [x]
  base := L.base
  base_le := by
    have hle := L.base_le
    simp only [List.length_append, List.length_singleton]
    omega

/-- Forget the first `k` of the retained entries. -/
def trim (L : TrimmedLog α) (k : Nat) : TrimmedLog α where
  all := L.all
  base := min (L.base + k) L.all.length
  base_le := min_le_right _ _

variable (L : TrimmedLog α)

/-- As many entries are retained as lie between the base and the head. -/
theorem length_retained : L.retained.length = L.head - L.base := List.length_drop

/-- An append moves the head by one. -/
@[simp] theorem head_append (x : α) : (L.append x).head = L.head + 1 := by
  simp [head, append]

/-- An append is retained. -/
@[simp] theorem retained_append (x : α) : (L.append x).retained = L.retained ++ [x] := by
  simp only [retained, append]
  rw [List.drop_append_of_le_length L.base_le]

/-- Trimming drops the oldest entries. -/
@[simp] theorem retained_trim (k : Nat) : (L.trim k).retained = L.retained.drop k := by
  simp only [retained, trim, List.drop_drop]
  by_cases hk : L.base + k ≤ L.all.length
  · rw [min_eq_left hk]
  · rw [min_eq_right (by omega), List.drop_of_length_le le_rfl,
      List.drop_of_length_le (by omega)]

/-- The start of what is retained once something is appended. -/
theorem start_append (x : α) : (L.append x).start = L.base + 1 := by
  have hne : (L.append x).head ≠ 0 := by
    rw [head_append]
    omega
  unfold start
  rw [if_neg hne]
  rfl

/-- The start of what is retained once entries are trimmed. -/
theorem start_trim (k : Nat) :
    (L.trim k).start = if L.head = 0 then 0 else min (L.base + k) L.head + 1 := rfl

/-! ### Growth -/

/-- `L'` is a later state of the log `L`: more was appended, and more is forgotten. -/
def Extends (L L' : TrimmedLog α) : Prop := L.all <+: L'.all ∧ L.base ≤ L'.base

/-- A log extends itself. -/
theorem Extends.refl : L.Extends L := ⟨List.prefix_rfl, le_rfl⟩

variable {L}

/-- Who extends an extension extends the log. -/
theorem Extends.trans {L' L'' : TrimmedLog α} (h : L.Extends L') (h' : L'.Extends L'') :
    L.Extends L'' := ⟨h.1.trans h'.1, h.2.trans h'.2⟩

variable (L)

/-- A log with one entry more extends the log. -/
theorem extends_append (x : α) : L.Extends (L.append x) := ⟨List.prefix_append _ _, le_rfl⟩

/-- A trimmed log extends the log. -/
theorem extends_trim (k : Nat) : L.Extends (L.trim k) := by
  refine ⟨List.prefix_rfl, ?_⟩
  have hle := L.base_le
  show L.base ≤ min (L.base + k) L.all.length
  omega

/-! ### Forgetting up to a number -/

attribute [ext] TrimmedLog

/-- Forget the entries up to the number `n`. -/
def forgetTo (L : TrimmedLog α) (n : Nat) : TrimmedLog α := L.trim (n - L.base)

/-- Trimming does not move the head. -/
@[simp] theorem head_trim (k : Nat) : (L.trim k).head = L.head := rfl

/-- Forgetting does not move the head. -/
@[simp] theorem head_forgetTo (n : Nat) : (L.forgetTo n).head = L.head := rfl

/-- The base moves to the number given, if that lies between base and head. -/
@[simp] theorem base_forgetTo (n : Nat) :
    (L.forgetTo n).base = max L.base (min n L.head) := by
  have hle : L.base ≤ L.head := L.base_le
  show min (L.base + (n - L.base)) L.head = _
  omega

/-- Nothing is trimmed. -/
theorem trim_zero : L.trim 0 = L := by
  apply TrimmedLog.ext
  · rfl
  · exact min_eq_left L.base_le

/-- Forgetting twice is forgetting up to the larger number. -/
theorem forgetTo_forgetTo (m n : Nat) : (L.forgetTo m).forgetTo n = L.forgetTo (max m n) := by
  apply TrimmedLog.ext
  · rfl
  · simp only [base_forgetTo, head_forgetTo]
    omega

/-- What is forgotten anyway is not forgotten again. -/
theorem forgetTo_of_le {n : Nat} (h : n ≤ L.base) : L.forgetTo n = L := by
  unfold forgetTo
  rw [Nat.sub_eq_zero_of_le h, trim_zero]

end TrimmedLog

end Synclog.Lib
