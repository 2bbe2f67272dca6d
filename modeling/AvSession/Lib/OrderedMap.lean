import Mathlib.Data.List.Nodup
import Mathlib.Data.List.Perm.Basic
import Mathlib.Data.Option.Basic
import Std.Data.ExtTreeMap

/-!
# Ordered maps: what insertion and erasure do to the list of entries

`Std.ExtTreeMap` is the ordered map of the development (a `std::map`: one value for each key,
iterated in key order). The standard library says what a lookup returns after an update; this
file adds what the update does to the *entries* and the *values*, up to permutation, and the two
facts about erasing a list of entries one after the other.

* `perm_insertIfNew`, `perm_erase` — an insertion at a fresh key adds one entry, an erasure
  removes one.
* `values_nodup_iff` — the values are pairwise distinct iff the lookup is injective.
* `eraseAll` — erase the keys of a list of entries; `getElem?_eraseAll` is the lookup after it.
* `lexCmp` — the order of keys that are pairs of components.
-/

set_option linter.unusedSectionVars false

namespace AvSession.Lib.OrderedMap

open Std

/-! ## Lexicographic keys -/

/-- The order of a two-component key: the first component decides, then the second. -/
abbrev lexCmp {κ α β : Type*} [Ord α] [Ord β] (f : κ → α) (g : κ → β) : κ → κ → Ordering :=
  compareLex (compareOn f) (compareOn g)

/-- Comparing by one function and then by another separates the keys that the two separate. -/
theorem lawfulEqCmp_lexCmp {κ α β : Type*} [Ord α] [Ord β] [TransOrd α] [TransOrd β]
    [LawfulEqOrd α] [LawfulEqOrd β] {f : κ → α} {g : κ → β}
    (hinj : ∀ a b, f a = f b → g a = g b → a = b) : LawfulEqCmp (lexCmp f g) where
  eq_of_compare {a b} h := by
    obtain ⟨hf, hg⟩ := compareLex_eq_eq.mp h
    exact hinj a b (LawfulEqCmp.eq_of_compare hf) (LawfulEqCmp.eq_of_compare hg)
  compare_self := by
    intro a
    exact compareLex_eq_eq.mpr ⟨ReflCmp.compare_self, ReflCmp.compare_self⟩

/-! ## Entries after an update -/

section entries

variable {κ ν : Type*} {cmp : κ → κ → Ordering} [TransCmp cmp] [LawfulEqCmp cmp] [DecidableEq κ]
variable (t : ExtTreeMap κ ν cmp)

/-- The values in key order. -/
def vals : List ν := t.toList.map Prod.snd

variable {t}

/-- The entries are what is found. -/
theorem mem_toList {k : κ} {v : ν} : (k, v) ∈ t.toList ↔ t[k]? = some v :=
  ExtTreeMap.mem_toList_iff_getElem?_eq_some

/-- The values are what is found under some key. -/
theorem mem_vals {v : ν} : v ∈ vals t ↔ ∃ k : κ, t[k]? = some v := by
  simp only [vals, List.mem_map, Prod.exists, exists_eq_right]
  exact exists_congr fun k => mem_toList

/-- A map lists each of its keys once. -/
theorem nodup_keys : (t.toList.map Prod.fst).Nodup := by
  rw [ExtTreeMap.map_fst_toList_eq_keys]
  refine (ExtTreeMap.distinct_keys (t := t)).imp fun {a b} h hab => h ?_
  rw [hab]
  exact ReflCmp.compare_self

/-- No entry occurs twice. -/
theorem nodup_toList : t.toList.Nodup := List.Nodup.of_map _ nodup_keys

/-- There are as many values as entries. -/
theorem length_vals : (vals t).length = t.size := by
  rw [vals, List.length_map, ExtTreeMap.length_toList]

/-- Under a free key the value is entered. -/
theorem getElem?_insertIfNew_of_none {k : κ} {v : ν} (h : t[k]? = none) (a : κ) :
    (t.insertIfNew k v)[a]? = if k = a then some v else t[a]? := by
  have hk : k ∉ t := by simp [ExtTreeMap.mem_iff_isSome_getElem?, h]
  rw [ExtTreeMap.getElem?_insertIfNew]
  simp [hk, LawfulEqCmp.compare_eq_iff_eq]

/-- Under a taken key nothing is. -/
theorem insertIfNew_of_some {k : κ} {v w : ν} (h : t[k]? = some w) : t.insertIfNew k v = t := by
  have hk : k ∈ t := ExtTreeMap.mem_iff_isSome_getElem?.mpr (by simp [h])
  apply ExtTreeMap.ext_getElem?
  intro a
  rw [ExtTreeMap.getElem?_insertIfNew]
  simp [hk]

/-- An insert decides for its own key. -/
theorem getElem?_insert (k a : κ) (v : ν) :
    (t.insert k v)[a]? = if k = a then some v else t[a]? := by
  simp [ExtTreeMap.getElem?_insert]

/-- An erasure decides for its own key. -/
theorem getElem?_erase (k a : κ) : (t.erase k)[a]? = if k = a then none else t[a]? := by
  rw [ExtTreeMap.getElem?_erase]
  simp [LawfulEqCmp.compare_eq_iff_eq]

/-- Inserting at a fresh key adds exactly the new entry. -/
theorem perm_insertIfNew {k : κ} (v : ν) (h : t[k]? = none) :
    (t.insertIfNew k v).toList.Perm ((k, v) :: t.toList) := by
  have hk : (k, v) ∉ t.toList := by simp [h]
  refine (List.perm_ext_iff_of_nodup nodup_toList (nodup_toList.cons hk)).mpr ?_
  rintro ⟨a, w⟩
  rw [mem_toList, getElem?_insertIfNew_of_none h, List.mem_cons, mem_toList, Prod.mk.injEq]
  by_cases hka : k = a
  · subst hka
    simp [h, eq_comm]
  · simp [Ne.symm hka, hka]

/-- Erasing a key removes exactly its entry. -/
theorem perm_erase {k : κ} {v : ν} (h : t[k]? = some v) :
    t.toList.Perm ((k, v) :: (t.erase k).toList) := by
  have hk : (k, v) ∉ (t.erase k).toList := by simp
  refine (List.perm_ext_iff_of_nodup nodup_toList (nodup_toList.cons hk)).mpr ?_
  rintro ⟨a, w⟩
  rw [mem_toList, List.mem_cons, mem_toList, getElem?_erase, Prod.mk.injEq]
  by_cases hka : k = a
  · subst hka
    simp [h, eq_comm]
  · simp [Ne.symm hka, hka]

/-- An entered value is one more. -/
theorem vals_insertIfNew {k : κ} (v : ν) (h : t[k]? = none) :
    (vals (t.insertIfNew k v)).Perm (v :: vals t) :=
  (perm_insertIfNew v h).map Prod.snd

/-- An erased value is one less. -/
theorem vals_erase {k : κ} {v : ν} (h : t[k]? = some v) :
    (vals t).Perm (v :: vals (t.erase k)) :=
  (perm_erase h).map Prod.snd

/-- The map grows by the entered value. -/
theorem size_insertIfNew_of_none {k : κ} (v : ν) (h : t[k]? = none) :
    (t.insertIfNew k v).size = t.size + 1 := by
  rw [← length_vals, (vals_insertIfNew v h).length_eq, List.length_cons, length_vals]

/-- The map shrinks by the erased value. -/
theorem size_erase_of_some {k : κ} {v : ν} (h : t[k]? = some v) :
    t.size = (t.erase k).size + 1 := by
  rw [← length_vals, (vals_erase h).length_eq, List.length_cons, length_vals]

/-- The values are pairwise distinct iff no two keys share one. -/
theorem values_nodup_iff :
    (vals t).Nodup ↔ ∀ (k k' : κ) v, t[k]? = some v → t[k']? = some v → k = k' := by
  rw [vals, List.nodup_map_iff_inj_on nodup_toList]
  constructor
  · intro h k k' v hk hk'
    have := h (k, v) (mem_toList.mpr hk) (k', v) (mem_toList.mpr hk') rfl
    exact congrArg Prod.fst this
  · rintro h ⟨k, v⟩ hk ⟨k', v'⟩ hk' rfl
    rw [mem_toList] at hk hk'
    rw [h k k' v hk hk']

end entries

/-! ## Erasing a list of entries -/

section eraseAll

variable {κ ν : Type*} {cmp : κ → κ → Ordering} [TransCmp cmp] [LawfulEqCmp cmp] [DecidableEq κ]

/-- Erase the keys of `l`, one after the other. -/
def eraseAll (t : ExtTreeMap κ ν cmp) (l : List (κ × ν)) : ExtTreeMap κ ν cmp :=
  l.foldl (fun t e => t.erase e.1) t

/-- Erasing a list of entries leaves the keys it does not name. -/
theorem getElem?_eraseAll (t : ExtTreeMap κ ν cmp) (l : List (κ × ν)) (a : κ) :
    (eraseAll t l)[a]? = if a ∈ l.map Prod.fst then none else t[a]? := by
  induction l generalizing t with
  | nil => simp [eraseAll]
  | cons e l ih =>
      have hcons : eraseAll t (e :: l) = eraseAll (t.erase e.1) l := rfl
      rw [hcons, ih, getElem?_erase, List.map_cons]
      by_cases hl : a ∈ l.map Prod.fst
      · simp [hl]
      · by_cases he : e.1 = a
        · simp [he]
        · simp [hl, he, Ne.symm he]

/-- The entries of `t` that satisfy `p` are erased exactly: the others stay. -/
theorem getElem?_eraseAll_filter (t : ExtTreeMap κ ν cmp) (p : κ × ν → Bool) (a : κ) :
    (eraseAll t (t.toList.filter p))[a]? = t[a]?.filter fun v => !p (a, v) := by
  rw [getElem?_eraseAll]
  cases h : t[a]? with
  | none => simp
  | some v =>
      have hmem : a ∈ (t.toList.filter p).map Prod.fst ↔ p (a, v) = true := by
        simp only [List.mem_map, List.mem_filter, Prod.exists, exists_and_right, exists_eq_right]
        constructor
        · rintro ⟨w, hw, hp⟩
          rw [mem_toList, h, Option.some.injEq] at hw
          rwa [hw]
        · intro hp
          exact ⟨v, mem_toList.mpr h, hp⟩
      by_cases hp : p (a, v) = true
      · simp [hmem, hp, Option.filter_some]
      · simp [hmem, hp, Option.filter_some]

end eraseAll

end AvSession.Lib.OrderedMap
