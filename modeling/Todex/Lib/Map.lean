import Mathlib

/-!
# Finite maps that are joined entry by entry

A range of a log is often summarised by a finite map, and the summary of a longer range is
obtained by going through the entries of the later map and updating the earlier one.
`joinWith c s t` is that loop: every entry `(k, v)` of `t` replaces the value of `s` at `k` by
`c` of the earlier value (if any) and `v`.
-/

namespace Std

/-- Pairs in lexicographic order. -/
abbrev pairCmp {α β : Type} [Ord α] [Ord β] : α × β → α × β → Ordering :=
  compareLex (compareOn Prod.fst) (compareOn Prod.snd)

instance {α β : Type} [Ord α] [Ord β] [LawfulEqOrd α] [LawfulEqOrd β] : LawfulEqCmp (pairCmp (α := α) (β := β)) where
  compare_self := by simp [compareLex, compareOn]
  eq_of_compare {a b} h := by
    simp only [pairCmp, compareLex, compareOn, Ordering.then_eq_eq, compare_eq_iff_eq] at h
    exact Prod.ext h.1 h.2

end Std

namespace Std.ExtTreeMap

variable {α β : Type*} {cmp : α → α → Ordering} [TransCmp cmp]

/-- What `joinWith` does at one key. -/
def joinVal (c : Option β → β → β) (earlier : Option β) : Option β → Option β
  | none => earlier
  | some v => some (c earlier v)

@[simp] lemma joinVal_none (c : Option β → β → β) (o : Option β) : joinVal c o none = o := rfl

@[simp] lemma joinVal_some (c : Option β → β → β) (o : Option β) (v : β) : joinVal c o (some v) = some (c o v) := rfl

/-- Go through the entries of `later` and combine each with the entry of `earlier` at its key. -/
def joinWith (c : Option β → β → β) (earlier later : ExtTreeMap α β cmp) : ExtTreeMap α β cmp :=
  later.foldl (fun m k v => m.alter k fun old => some (c old v)) earlier

variable [LawfulEqCmp cmp]

/-- `getElem?_alter` for keys that can be compared for equality. -/
lemma getElem?_alter_eq_ite [DecidableEq α] (t : ExtTreeMap α β cmp) (k a : α)
    (f : Option β → Option β) : (t.alter k f)[a]? = if k = a then f t[a]? else t[a]? := by
  rw [getElem?_alter]
  by_cases h : k = a
  · simp [h, ReflCmp.compare_self]
  · rw [if_neg h, if_neg (mt LawfulEqCmp.eq_of_compare h)]

private lemma getElem?_foldl_alter (c : Option β → β → β) (k : α) (l : List (α × β))
    (hl : l.Pairwise fun a b => ¬ cmp a.1 b.1 = .eq) (m : ExtTreeMap α β cmp) :
    (l.foldl (fun m e => m.alter e.1 fun old => some (c old e.2)) m)[k]? =
      joinVal c m[k]? ((l.find? fun e => cmp e.1 k == .eq).map Prod.snd) := by
  induction l generalizing m with
  | nil => simp
  | cons e l ih =>
    obtain ⟨hhd, htl⟩ := List.pairwise_cons.mp hl
    rw [List.foldl_cons, ih htl, getElem?_alter]
    by_cases he : cmp e.1 k = .eq
    · -- the keys are distinct, so no later entry touches `k` again
      have hk : e.1 = k := LawfulEqCmp.eq_of_compare he
      have hrest : l.find? (fun e => cmp e.1 k == .eq) = none := by
        rw [List.find?_eq_none]
        intro e' he'
        simpa [← hk] using fun h => hhd e' he' (by simp [h])
      simp [hrest, hk]
    · simp [he]

lemma find?_toList (t : ExtTreeMap α β cmp) (k : α) :
    (t.toList.find? fun e => cmp e.1 k == .eq).map Prod.snd = t[k]? := by
  rcases h : t.toList.find? (fun e => cmp e.1 k == .eq) with _ | ⟨k', v⟩
  · rcases hk : t[k]? with _ | v
    · simp [h]
    · have hmem := mem_toList_iff_getElem?_eq_some.mpr hk
      simpa using List.find?_eq_none.mp h _ hmem
  · have hmem := mem_toList_iff_getElem?_eq_some.mp (List.mem_of_find?_eq_some h)
    have hk : k' = k := by simpa using List.find?_some h
    rw [h, ← hk, hmem, Option.map_some]

@[simp] lemma getElem?_joinWith (c : Option β → β → β) (s t : ExtTreeMap α β cmp) (k : α) :
    (joinWith c s t)[k]? = joinVal c s[k]? t[k]? := by
  rw [joinWith, foldl_eq_foldl_toList, getElem?_foldl_alter c k _ distinct_keys_toList,
    find?_toList]

@[simp] lemma joinWith_empty (c : Option β → β → β) (s : ExtTreeMap α β cmp) :
    joinWith c s ∅ = s :=
  ext_getElem? fun k => by simp

/-- An update of one key of the later map can be made after the join, if it can be made after
the join of the values at that key. -/
lemma joinWith_alter (hf : ∀ o n, joinVal c o (f n) = f (joinVal c o n)) (s t : ExtTreeMap α β cmp) (k : α) :
    joinWith c s (t.alter k f) = (joinWith c s t).alter k f := by
  refine ext_getElem? fun k' => ?_
  simp only [getElem?_joinWith, getElem?_alter]
  split_ifs with h
  · obtain rfl : k = k' := LawfulEqCmp.eq_of_compare h
    exact hf _ _
  · rfl

lemma union_insert (s t : ExtTreeMap α β cmp) (k : α) (v : β) : s ∪ t.insert k v = (s ∪ t).insert k v := by
  refine ext_getElem? fun k' => ?_
  simp only [getElem?_union, getElem?_insert]
  split_ifs <;> simp

@[simp] lemma union_empty_right (s : ExtTreeMap α β cmp) : s ∪ (∅ : ExtTreeMap α β cmp) = s :=
  ext_getElem? fun k => by simp [getElem?_union]

/-- Two lists with increasing keys are equal if they have the same members. -/
lemma eq_of_ordered (key : γ → α) {l l' : List γ} (h : l.Pairwise fun a b => cmp (key a) (key b) = .lt)
    (h' : l'.Pairwise fun a b => cmp (key a) (key b) = .lt) (hmem : ∀ e, e ∈ l ↔ e ∈ l') : l = l' := by
  have : Std.Antisymm fun a b : γ => cmp (key a) (key b) = .lt :=
    ⟨fun a b hab hba => absurd hab (OrientedCmp.not_lt_of_lt hba)⟩
  have : Std.Irrefl fun a b : γ => cmp (key a) (key b) = .lt :=
    ⟨fun a => by simp [ReflCmp.compare_self]⟩
  exact h.eq_of_mem_iff h' hmem

/-- The entries with a value, of a map that keeps deleted keys as tombstones. -/
lemma filterMap_toList {m : ExtTreeMap α (Option β) cmp} {n : ExtTreeMap α β cmp} (h : ∀ k : α, n[k]? = m[k]?.join) :
    (m.toList.filterMap fun e => e.2.map (e.1, ·)) = n.toList := by
  refine eq_of_ordered Prod.fst ?_ ordered_keys_toList ?_
  · refine List.Pairwise.filterMap _ ?_ ordered_keys_toList
    rintro ⟨a, _ | a'⟩ ⟨b, _ | b'⟩ hab <;> simp_all
  · rintro ⟨k, v⟩
    simp [mem_toList_iff_getElem?_eq_some, h, Option.join_eq_some_iff]

/-- The keys of a map to booleans that are set, as a set. -/
lemma map_filter_toList {m : ExtTreeMap α Bool cmp} {s : ExtTreeSet α cmp} (h : ∀ k : α, k ∈ s ↔ m[k]? = some true) :
    (m.toList.filter (·.2)).map (·.1) = s.toList := by
  refine eq_of_ordered id ?_ ExtTreeSet.ordered_toList ?_
  · exact List.pairwise_map.mpr (ordered_keys_toList.filter _)
  · intro k
    simp [mem_toList_iff_getElem?_eq_some, h]

end Std.ExtTreeMap

namespace Std.ExtTreeSet

variable {α : Type*} {cmp : α → α → Ordering} [TransCmp cmp] [LawfulEqCmp cmp]

lemma union_insert (s t : ExtTreeSet α cmp) (a : α) : s ∪ t.insert a = (s ∪ t).insert a := by
  refine ext_mem fun b => ?_
  simp only [mem_union_iff, mem_insert]
  tauto

lemma union_empty_right (s : ExtTreeSet α cmp) : s ∪ (∅ : ExtTreeSet α cmp) = s :=
  ext_mem fun b => by simp [mem_union_iff]

end Std.ExtTreeSet
