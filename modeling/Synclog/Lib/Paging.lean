import Mathlib.Data.List.Nodup

/-!
# Listings in pages

A listing answers some of the items that match, with a token: with it one asks for more, and the
empty token says that there is no more.

* `Enumerates call token items` — the items of the pages that one gets by following the tokens.
* `EachOnce matching items` — the list has each item that matches once, and nothing else.
* `CutAt n ys page` — the page is the items `ys` in some order, cut behind the first `n`, and has no
  token.
* `Enumerates.eachOnce_iff` — a listing of such pages has each item once exactly if it cuts nothing
  off.
-/

namespace Synclog.Lib

universe u

/-- A page of a listing. -/
structure Page (α : Type u) where
  items : List α
  nextPageToken : String := ""

variable {α : Type u}

/-- Following the tokens from a call with the token `token` on, until a page has none: the items of
the pages, one page after the other. -/
inductive Enumerates (call : String → Page α → Prop) : String → List α → Prop
  | last {token : String} {page : Page α} (h : call token page) (hend : page.nextPageToken = "") :
      Enumerates call token page.items
  | next {token : String} {page : Page α} {items : List α} (h : call token page)
      (hmore : page.nextPageToken ≠ "") (hrest : Enumerates call page.nextPageToken items) :
      Enumerates call token (page.items ++ items)

/-- The list has each item that matches once, and nothing else. -/
def EachOnce (matching : α → Prop) (items : List α) : Prop :=
  items.Nodup ∧ ∀ x, x ∈ items ↔ matching x

/-- The page has the first `n` of the items `ys`, in some order of these, and no token. -/
def CutAt (n : Nat) (ys : List α) (page : Page α) : Prop :=
  ∃ xs : List α, xs.Perm ys ∧ page = { items := xs.take n }

variable {ys : List α} {n : Nat}

/-- Such a page has each of the items once exactly if nothing is cut off. -/
theorem CutAt.eachOnce_iff {page : Page α} (h : CutAt n ys page) (hnodup : ys.Nodup) :
    EachOnce (· ∈ ys) page.items ↔ ys.length ≤ n := by
  obtain ⟨xs, hperm, rfl⟩ := h
  constructor
  · rintro ⟨hcut, hmem⟩
    -- without duplicates the same items are as many
    have hsame : (xs.take n).Perm ys := (List.perm_ext_iff_of_nodup hcut hnodup).mpr hmem
    have hlen := hsame.length_eq
    rw [List.length_take] at hlen
    omega
  · intro hle
    rw [← hperm.length_eq] at hle
    show EachOnce _ (xs.take n)
    rw [List.take_of_length_le hle]
    exact ⟨hperm.nodup_iff.mpr hnodup, fun x => hperm.mem_iff⟩

/-- A listing of such pages ends with its first page, so it has each of the items once exactly if
nothing is cut off. -/
theorem Enumerates.eachOnce_iff {call : String → Page α → Prop} {token : String} {items : List α}
    (h : Enumerates call token items) (hcut : ∀ token page, call token page → CutAt n ys page)
    (hnodup : ys.Nodup) : EachOnce (· ∈ ys) items ↔ ys.length ≤ n := by
  rcases h with ⟨hcall, -⟩ | ⟨hcall, hmore, -⟩
  · exact (hcut _ _ hcall).eachOnce_iff hnodup
  · obtain ⟨xs, -, rfl⟩ := hcut _ _ hcall
    exact absurd rfl hmore

/-- It does end. -/
theorem CutAt.enumerates {call : String → Page α → Prop} {token : String} {page : Page α}
    (hcall : call token page) (hcut : CutAt n ys page) : Enumerates call token page.items := by
  obtain ⟨xs, -, rfl⟩ := hcut
  exact .last hcall rfl

end Synclog.Lib
