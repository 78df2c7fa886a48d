import Mathlib.Data.List.AList
import Mathlib.Data.Set.Basic

/-!
# Finite maps

A finite map is a duplicate-free association list (`AList`), read by `lookup` and changed by
`insert` and `erase`. The order of the entries stands for an iteration order, so a result that
holds for every map holds for every order in which its entries may be visited.

What this file adds to the library is `keep`, the submap on the keys that satisfy a predicate:
the value of a loop that deletes the other keys; `visit`, a loop over the entries in a given order;
`AgreeOn`, maps that agree on some of their keys; and `Renames`, a map with other keys and values.
-/

namespace Synclog.Lib

/-- A finite map from `K` to `V`. -/
abbrev FinMap (K V : Type) := AList fun _ : K => V

namespace FinMap

variable {K V : Type}

/-- The entries whose key satisfies `p`, in the same order. -/
def keep (p : K → Bool) (m : FinMap K V) : FinMap K V where
  entries := m.entries.filter fun e => p e.1
  nodupKeys := by
    have hsub : (m.entries.filter fun e => p e.1).Sublist m.entries := List.filter_sublist
    exact m.nodupKeys.sublist hsub

/-- The values of a map, in iteration order. -/
def values (m : FinMap K V) : List V := m.entries.map fun e => e.2

/-- Where every key satisfies the predicate, `keep` changes nothing. -/
theorem keep_eq_self {p : K → Bool} {m : FinMap K V} (hp : ∀ k ∈ m, p k = true) :
    keep p m = m := by
  apply AList.ext
  refine List.filter_eq_self.mpr fun e he => hp e.1 ?_
  exact AList.mem_keys.mpr (List.mem_map_of_mem he)

variable [DecidableEq K]

/-- An entry of the map is what `lookup` finds. -/
theorem mem_entries_iff {m : FinMap K V} {k : K} {v : V} :
    (⟨k, v⟩ : Sigma fun _ : K => V) ∈ m.entries ↔ m.lookup k = some v := by
  rw [← AList.mem_lookup_iff, Option.mem_def]

/-- A value of the map is stored under some key. -/
theorem mem_values_iff {m : FinMap K V} {v : V} :
    v ∈ m.values ↔ ∃ k, m.lookup k = some v := by
  simp only [values, List.mem_map]
  constructor
  · rintro ⟨⟨k, w⟩, hmem, rfl⟩
    exact ⟨k, mem_entries_iff.mp hmem⟩
  · rintro ⟨k, h⟩
    exact ⟨⟨k, v⟩, mem_entries_iff.mpr h, rfl⟩

/-- `keep` finds an entry exactly when its key satisfies the predicate. -/
theorem lookup_keep (p : K → Bool) (m : FinMap K V) (k : K) :
    (keep p m).lookup k = if p k then m.lookup k else none := by
  apply Option.ext
  intro v
  have hmem : (⟨k, v⟩ : Sigma fun _ : K => V) ∈ (keep p m).entries ↔
      (⟨k, v⟩ : Sigma fun _ : K => V) ∈ m.entries ∧ p k = true := by
    simp [keep, List.mem_filter]
  rw [← mem_entries_iff, hmem, mem_entries_iff]
  by_cases hp : p k <;> simp [hp]

/-- Reading back an insertion at the same key or elsewhere. -/
theorem lookup_insert_eq_ite (m : FinMap K V) (k k' : K) (v : V) :
    (m.insert k v).lookup k' = if k' = k then some v else m.lookup k' := by
  by_cases h : k' = k
  · subst h; simp
  · rw [AList.lookup_insert_ne h, if_neg h]

/-- Reading back a deletion at the same key or elsewhere. -/
theorem lookup_erase_eq_ite (m : FinMap K V) (k k' : K) :
    (m.erase k).lookup k' = if k' = k then none else m.lookup k' := by
  by_cases h : k' = k
  · subst h; simp
  · rw [AList.lookup_erase_ne h, if_neg h]

/-! ## Maps that agree on some of their keys -/

/-- Two maps have the same entries under the keys of `S`. -/
def AgreeOn (S : Set K) (m m' : FinMap K V) : Prop := ∀ k ∈ S, m.lookup k = m'.lookup k

namespace AgreeOn

variable {m m' m'' : FinMap K V} {S T : Set K}

/-- A map agrees with itself. -/
theorem refl (S : Set K) (m : FinMap K V) : AgreeOn S m m := fun _ _ => rfl

/-- Agreement goes both ways. -/
theorem symm (h : AgreeOn S m m') : AgreeOn S m' m := fun k hk => (h k hk).symm

/-- Agreement goes on along a third map. -/
theorem trans (h : AgreeOn S m m') (h' : AgreeOn S m' m'') : AgreeOn S m m'' :=
  fun k hk => (h k hk).trans (h' k hk)

/-- Maps that agree on two sets of keys agree on both. -/
theorem union (h : AgreeOn S m m') (h' : AgreeOn T m m') : AgreeOn (S ∪ T) m m' :=
  fun k hk => hk.elim (h k) (h' k)

/-- The same entry is put into both maps. -/
theorem insert (h : AgreeOn S m m') (k : K) (v : V) :
    AgreeOn S (m.insert k v) (m'.insert k v) := by
  intro k' hk'
  rw [lookup_insert_eq_ite, lookup_insert_eq_ite, h k' hk']

/-- The same key is removed from both maps. -/
theorem erase (h : AgreeOn S m m') (k : K) : AgreeOn S (m.erase k) (m'.erase k) := by
  intro k' hk'
  rw [lookup_erase_eq_ite, lookup_erase_eq_ite, h k' hk']

/-- The same keys are kept in both maps. -/
theorem keep (h : AgreeOn S m m') (p : K → Bool) : AgreeOn S (m.keep p) (m'.keep p) := by
  intro k hk
  rw [lookup_keep, lookup_keep, h k hk]

/-- An insertion is not seen at other keys. -/
theorem insert_self (m : FinMap K V) {k : K} (hk : k ∉ S) (v : V) :
    AgreeOn S m (m.insert k v) := by
  intro k' hk'
  rw [lookup_insert_eq_ite, if_neg (ne_of_mem_of_not_mem hk' hk)]

/-- A deletion is not seen at other keys. -/
theorem erase_self (m : FinMap K V) {k : K} (hk : k ∉ S) : AgreeOn S m (m.erase k) := by
  intro k' hk'
  rw [lookup_erase_eq_ite, if_neg (ne_of_mem_of_not_mem hk' hk)]

/-- Nothing is lost where all the keys in question are kept. -/
theorem keep_self (m : FinMap K V) {p : K → Bool} (hp : ∀ k ∈ S, p k = true) :
    AgreeOn S m (m.keep p) := by
  intro k hk
  rw [lookup_keep, if_pos (hp k hk)]

/-- Maps that agree on all keys have the same entries, in some order. -/
theorem entries_perm (h : AgreeOn Set.univ m m') : m.entries.Perm m'.entries := by
  refine List.lookup_ext m.nodupKeys m'.nodupKeys fun k v => ?_
  show v ∈ m.lookup k ↔ v ∈ m'.lookup k
  rw [h k trivial]

/-- Maps that agree everywhere have the same keys. -/
theorem keys_perm (h : AgreeOn Set.univ m m') : m.keys.Perm m'.keys := h.entries_perm.map Sigma.fst

end AgreeOn

/-! ## The entries with some of the values -/

/-- The entries whose value satisfies `p`, in the same order. -/
def only (p : V → Bool) (m : FinMap K V) : FinMap K V where
  entries := m.entries.filter fun e => p e.2
  nodupKeys := by
    have hsub : (m.entries.filter fun e => p e.2).Sublist m.entries := List.filter_sublist
    exact m.nodupKeys.sublist hsub

omit [DecidableEq K] in
/-- The values of the part are those with the property. -/
theorem values_only (p : V → Bool) (m : FinMap K V) : (only p m).values = m.values.filter p :=
  List.filter_map.symm

omit [DecidableEq K] in
/-- The entries of the part are those whose values have the property. -/
theorem entries_only (p : V → Bool) (m : FinMap K V) :
    (only p m).entries = m.entries.filter fun e => p e.2 := rfl

/-- In a list without repeated keys, erasing a key is filtering. -/
theorem kerase_eq_filter {l : List (Sigma fun _ : K => V)} (h : l.NodupKeys) (k : K) :
    l.kerase k = l.filter fun e => e.1 ≠ k := by
  induction l with
  | nil => rfl
  | cons e l ih =>
      obtain ⟨hnot, hl⟩ := List.nodupKeys_cons.mp h
      by_cases hk : k = e.1
      · rw [List.kerase_cons_eq hk, List.filter_cons_of_neg (by simp [hk])]
        refine (List.filter_eq_self.mpr fun e' he' => ?_).symm
        have hkey : e'.1 ∈ l.keys := List.mem_map_of_mem he'
        simpa [hk] using ne_of_mem_of_not_mem hkey hnot
      · rw [List.kerase_cons_ne hk, List.filter_cons_of_pos (by simpa using Ne.symm hk), ih hl]

/-- Removing a key and taking the part can be done in either order. -/
theorem only_erase (p : V → Bool) (m : FinMap K V) (k : K) :
    only p (m.erase k) = (only p m).erase k := by
  apply AList.ext
  show (only p (m.erase k)).entries = (only p m).entries.kerase k
  rw [entries_only]
  show (m.entries.kerase k).filter _ = _
  rw [kerase_eq_filter m.nodupKeys, kerase_eq_filter (only p m).nodupKeys]
  exact List.filter_comm _ _ _

/-- An insertion of a value that satisfies `p`. -/
theorem only_insert_of_pos {p : V → Bool} (m : FinMap K V) (k : K) {v : V} (hv : p v = true) :
    only p (m.insert k v) = (only p m).insert k v := by
  have herased := congrArg AList.entries (only_erase p m k)
  apply AList.ext
  rw [entries_only, AList.entries_insert, AList.entries_insert,
    List.filter_cons_of_pos (by exact hv)]
  exact congrArg (List.cons _) herased

/-- An insertion of another value, at a key that has none that satisfies `p`. -/
theorem only_insert_of_neg {p : V → Bool} {m : FinMap K V} {k : K} {v : V} (hv : p v ≠ true)
    (hk : ∀ w, m.lookup k = some w → p w ≠ true) : only p (m.insert k v) = only p m := by
  have hnot : k ∉ only p m := by
    intro hmem
    obtain ⟨e, he, rfl⟩ := List.mem_map.mp (AList.mem_keys.mp hmem)
    obtain ⟨he, hp⟩ := List.mem_filter.mp he
    exact hk e.2 (mem_entries_iff.mp he) hp
  have herased : only p (m.insert k v) = (only p m).erase k := by
    rw [← only_erase]
    apply AList.ext
    rw [entries_only, AList.entries_insert, List.filter_cons_of_neg (by exact hv)]
    rfl
  rw [herased]
  exact AList.ext (List.kerase_of_notMem_keys hnot)

/-! ## Loops over a map -/

/-- The entries in the order in which a loop visits them, which the map leaves open; `none` when the
keys of the map have no such order. -/
def visit (m : FinMap K V) (order : List K) : Option (List (K × V)) :=
  if order.Perm m.keys then
    some (order.filterMap fun k => (m.lookup k).map fun v => (k, v))
  else none

/-- A loop visits each entry once. -/
theorem visit_perm {m : FinMap K V} {order : List K} {entries : List (K × V)}
    (h : m.visit order = some entries) : entries.Perm (m.entries.map fun e => (e.1, e.2)) := by
  unfold visit at h
  split_ifs at h with horder
  obtain rfl := Option.some.inj h
  refine (horder.filterMap _).trans (.of_eq ?_)
  have hkeys : m.keys = m.entries.map Sigma.fst := rfl
  rw [hkeys, List.filterMap_map, ← List.filterMap_eq_map]
  refine List.filterMap_congr fun e he => ?_
  have hlookup : m.lookup e.1 = some e.2 := mem_entries_iff.mp he
  simp [hlookup]

/-- The order in which the map itself lists its keys is one of the orders. -/
theorem exists_visit (m : FinMap K V) : ∃ entries, m.visit m.keys = some entries :=
  ⟨_, if_pos (.refl _)⟩

/-- Maps with the same entries can be visited in the same orders. -/
theorem AgreeOn.visit {m m' : FinMap K V} (h : AgreeOn Set.univ m m') (order : List K) :
    m.visit order = m'.visit order := by
  have hiff : order.Perm m.keys ↔ order.Perm m'.keys := h.keys_perm.congr_right order
  have hlookup : ∀ k, m.lookup k = m'.lookup k := fun k => h k trivial
  unfold FinMap.visit
  simp only [hiff, hlookup]

/-! ## Partial maps -/

section Partial

open Classical in
/-- The entries of a partial map in an order that lists each of its keys once; `none` when the order
does not. -/
noncomputable def visits (f : K → Option V) (order : List K) : Option (List (K × V)) :=
  if order.Nodup ∧ ∀ k, k ∈ order ↔ (f k).isSome then
    some (order.filterMap fun k => (f k).map fun v => (k, v))
  else none

/-- A map is visited like the partial map of its lookups. -/
theorem visit_eq_visits {m : FinMap K V} {f : K → Option V} (h : ∀ k, m.lookup k = f k)
    (order : List K) : m.visit order = visits f order := by
  have hiff : order.Perm m.keys ↔ order.Nodup ∧ ∀ k, k ∈ order ↔ (f k).isSome := by
    have hmem : ∀ k, k ∈ m.keys ↔ (f k).isSome := by
      intro k
      rw [← h k, AList.lookup_isSome]
      exact AList.mem_keys.symm
    constructor
    · intro horder
      refine ⟨horder.nodup_iff.mpr m.nodupKeys, fun k => ?_⟩
      rw [horder.mem_iff, hmem]
    · rintro ⟨hnodup, hall⟩
      refine (List.perm_ext_iff_of_nodup hnodup m.nodupKeys).mpr fun k => ?_
      rw [hall, ← hmem]
      rfl
  unfold visit visits
  by_cases horder : order.Perm m.keys
  · rw [if_pos horder, if_pos (hiff.mp horder)]
    simp only [h]
  · rw [if_neg horder, if_neg (mt hiff.mpr horder)]

/-- The keys that are visited are the order. -/
theorem map_fst_visits {V' : Type} {f : K → Option V} {f' : K → Option V'}
    (h : ∀ k, (f k).isSome = (f' k).isSome) (order : List K) :
    (visits f order).map (fun entries => entries.map (·.1)) =
      (visits f' order).map (fun entries => entries.map (·.1)) := by
  have hkeys : ∀ {W : Type} {g : K → Option W}, (∀ k ∈ order, (g k).isSome) →
      (order.filterMap fun k => (g k).map fun w => (k, w)).map (·.1) = order := by
    intro W g hg
    rw [List.map_filterMap]
    conv_rhs => rw [← List.filterMap_some (l := order)]
    refine List.filterMap_congr fun k hk => ?_
    obtain ⟨w, hw⟩ := Option.isSome_iff_exists.mp (hg k hk)
    rw [hw]
    rfl
  have hiff : (order.Nodup ∧ ∀ k, k ∈ order ↔ (f k).isSome) ↔
      order.Nodup ∧ ∀ k, k ∈ order ↔ (f' k).isSome := by simp only [h]
  unfold visits
  by_cases horder : order.Nodup ∧ ∀ k, k ∈ order ↔ (f k).isSome
  · have horder' := hiff.mp horder
    rw [if_pos horder, if_pos horder', Option.map_some, Option.map_some,
      hkeys fun k hk => (horder.2 k).mp hk, hkeys fun k hk => (horder'.2 k).mp hk]
  · rw [if_neg horder, if_neg (mt hiff.mpr horder)]
    rfl

end Partial

/-! ## Renaming the keys -/

section Rename

variable {K K' V V' : Type} [DecidableEq K] [DecidableEq K'] {f : K → K'} {g : V → V'}

/-- `m'` is `m` with its keys renamed by `f` and its values changed by `g`, in any order. -/
structure Renames (f : K → K') (g : V → V') (m : FinMap K V) (m' : FinMap K' V') : Prop where
  lookup : ∀ k, m'.lookup (f k) = (m.lookup k).map g
  image : ∀ k' ∈ m', ∃ k, f k = k'

/-- Each entry of the renamed map is a renamed entry. -/
theorem Renames.exists_of_lookup {m : FinMap K V} {m' : FinMap K' V'} (h : Renames f g m m')
    {k' : K'} {v' : V'} (hlookup : m'.lookup k' = some v') :
    ∃ k v, k' = f k ∧ v' = g v ∧ m.lookup k = some v := by
  obtain ⟨k, rfl⟩ := h.image k' (AList.lookup_isSome.mp (by rw [hlookup]; rfl))
  rw [h.lookup, Option.map_eq_some_iff] at hlookup
  obtain ⟨v, hv, rfl⟩ := hlookup
  exact ⟨k, v, rfl, rfl, hv⟩

/-- An entry is put in under the other name. -/
theorem Renames.insert (hf : Function.Injective f) {m : FinMap K V} {m' : FinMap K' V'}
    (h : Renames f g m m') (k : K) (v : V) :
    Renames f g (m.insert k v) (m'.insert (f k) (g v)) := by
  constructor
  · intro k'
    rw [lookup_insert_eq_ite, lookup_insert_eq_ite, h.lookup]
    by_cases heq : k' = k
    · rw [if_pos heq, if_pos (congrArg f heq)]
      rfl
    · rw [if_neg heq, if_neg fun hfk => heq (hf hfk)]
  · intro k' hk'
    rcases (AList.mem_insert _).mp hk' with rfl | hmem
    · exact ⟨k, rfl⟩
    · exact h.image k' hmem

/-- The renamed map with its entries in the same order. -/
def rename (hf : Function.Injective f) (g : V → V') (m : FinMap K V) : FinMap K' V' where
  entries := m.entries.map fun e => ⟨f e.1, g e.2⟩
  nodupKeys := by
    have hkeys : (m.entries.map fun e => (⟨f e.1, g e.2⟩ : Sigma fun _ : K' => V')).keys =
        m.entries.keys.map f := by
      simp [List.keys, Function.comp_def]
    rw [List.NodupKeys, hkeys]
    exact m.nodupKeys.map hf

/-- The renamed map is a renaming. -/
theorem renames_rename (hf : Function.Injective f) (g : V → V') (m : FinMap K V) :
    Renames f g m (rename hf g m) := by
  constructor
  · intro k
    apply Option.ext
    intro v
    rw [← mem_entries_iff, Option.map_eq_some_iff]
    simp only [rename, List.mem_map, Sigma.mk.injEq]
    constructor
    · rintro ⟨e, hmem, hk, hv⟩
      obtain rfl := hf hk
      exact ⟨e.2, mem_entries_iff.mp hmem, eq_of_heq hv⟩
    · rintro ⟨w, hw, rfl⟩
      exact ⟨⟨k, w⟩, mem_entries_iff.mpr hw, rfl, HEq.rfl⟩
  · intro k' hk'
    obtain ⟨e, hmem, rfl⟩ := List.mem_map.mp (AList.mem_keys.mp hk')
    obtain ⟨e', -, rfl⟩ := List.mem_map.mp hmem
    exact ⟨e'.1, rfl⟩

end Rename

end FinMap

end Synclog.Lib
