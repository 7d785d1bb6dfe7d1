import Mathlib

/-!
# Keyed lists

A hash map from keys to values that carry their key, as the list of its values. The order of the list
stands for the order in which the map happens to give them.
-/

namespace Keyed

variable {α κ : Type} [DecidableEq κ] (key : α → κ)

/-- The value under a key. -/
def get (l : List α) (k : κ) : Option α := l.find? fun a => key a = k

/-- A value replaces the one under its key. -/
def insert (l : List α) (a : α) : List α := a :: l.filter fun b => key b ≠ key a

/-- The map of a list; a later value replaces an earlier one. -/
def ofList (l : List α) : List α := l.foldl (insert key) []

/-- No two values share a key. -/
def Distinct (l : List α) : Prop := (l.map key).Nodup

variable {key} {l : List α}

variable {a : α}

lemma mem_of_get (h : get key l k = some a) : a ∈ l := List.mem_of_find?_eq_some h

lemma key_of_get (h : get key l k = some a) : key a = k := by
  simpa using List.find?_some h

lemma mem_insert : b ∈ insert key l a ↔ b = a ∨ b ∈ l ∧ key b ≠ key a := by
  simp [insert]

/-- Every value of the map of a list is in the list. -/
lemma mem_of_mem_ofList (h : a ∈ ofList key l) : a ∈ l := by
  refine List.foldlRecOn (motive := fun m => ∀ b ∈ m, b ∈ l) l (insert key) (by nofun) ?_ a h
  intro m hm b hb c hc
  rcases mem_insert.mp hc with rfl | ⟨hc, -⟩
  · exact hb
  · exact hm c hc

lemma mem_keys_insert : k ∈ (insert key l a).map key ↔ k = key a ∨ k ∈ l.map key := by
  simp only [List.mem_map, mem_insert]
  constructor
  · rintro ⟨b, rfl | ⟨hb, -⟩, rfl⟩
    · exact .inl rfl
    · exact .inr ⟨b, hb, rfl⟩
  · rintro (rfl | ⟨b, hb, rfl⟩)
    · exact ⟨a, .inl rfl, rfl⟩
    · by_cases h : key b = key a
      · exact ⟨a, .inl rfl, h.symm⟩
      · exact ⟨b, .inr ⟨hb, h⟩, rfl⟩

lemma mem_keys_foldl_insert (m : List α) : k ∈ (m.foldl (insert key) l).map key ↔ k ∈ l.map key ∨ k ∈ m.map key := by
  induction m generalizing l with
  | nil => simp
  | cons a m ih =>
    rw [List.foldl_cons, ih, mem_keys_insert, List.map_cons, List.mem_cons]
    tauto

lemma mem_keys_ofList : k ∈ (ofList key l).map key ↔ k ∈ l.map key := by
  rw [ofList, mem_keys_foldl_insert]
  simp

lemma get_eq_none : get key l k = none ↔ k ∉ l.map key := by
  simp [get, List.find?_eq_none]

@[simp] lemma get_cons_self (a : α) (l : List α) : get key (a :: l) (key a) = some a := by
  simp [get]

lemma get_cons_of_ne (h : key a ≠ k) : get key (a :: l) k = get key l k := by
  simp [get, h]

/-- The values under other keys stay when the values under one key are taken out. -/
lemma get_filter_ne (h : other ≠ k) : get key (l.filter fun a => key a ≠ k) other = get key l other := by
  rw [get, get, List.find?_filter]
  congr 1
  funext a
  by_cases ha : key a = other
  · simp [ha, h]
  · simp [ha]

lemma get_map (h : ∀ a, key (f a) = key a) (k : κ) : get key (l.map f) k = (get key l k).map f := by
  simp only [get, List.find?_map, Function.comp_def, h]

/-! ### Counting the values -/

section Count

variable {p q : α → Bool}

/-- A value that counts is taken out. -/
lemma countP_filter_lt (ha : a ∈ l) (hp : p a) (hq : q a = false) : (l.filter q).countP p < l.countP p := by
  induction l with
  | nil => cases ha
  | cons b l ih =>
    have hle : (l.filter q).countP p ≤ l.countP p := List.filter_sublist.countP_le
    rcases List.mem_cons.1 ha with rfl | ha
    · rw [List.filter_cons_of_neg (by simp [hq]), List.countP_cons_of_pos hp]
      omega
    · have hlt := ih ha
      rw [List.filter_cons, List.countP_cons]
      split
      · rw [List.countP_cons]
        omega
      · omega

lemma countP_map_le (h : ∀ a, p (f a) → p a) : (l.map f).countP p ≤ l.countP p := by
  rw [List.countP_map]
  exact List.countP_mono_left fun a _ => h a

lemma countP_insert_le (l : List α) (a : α) : (insert key l a).countP p ≤ l.countP p + 1 := by
  have hle : (l.filter fun b => key b ≠ key a).countP p ≤ l.countP p := List.filter_sublist.countP_le
  rw [insert, List.countP_cons]
  split <;> omega

lemma countP_insert_le_of_not (h : p a = false) : (insert key l a).countP p ≤ l.countP p := by
  rw [insert, List.countP_cons_of_neg (by simp [h])]
  exact List.filter_sublist.countP_le

end Count

/-! ### Distinct keys -/

lemma Distinct.insert (h : Distinct key l) (a : α) : Distinct key (insert key l a) := by
  refine List.nodup_cons.mpr ⟨?_, h.sublist (List.filter_sublist.map key)⟩
  intro hmem
  obtain ⟨b, hb, hkey⟩ := List.mem_map.mp hmem
  simp [hkey] at hb

lemma distinct_ofList (l : List α) : Distinct key (ofList key l) :=
  List.foldlRecOn (motive := Distinct key) l (Keyed.insert key) List.nodup_nil
    fun _ h a _ => h.insert a

lemma Distinct.get_of_mem (h : Distinct key l) (ha : a ∈ l) : get key l (key a) = some a := by
  have hne : get key l (key a) ≠ none := fun hnone => get_eq_none.mp hnone (List.mem_map_of_mem ha)
  obtain ⟨b, hb⟩ := Option.ne_none_iff_exists'.mp hne
  rw [hb, List.inj_on_of_nodup_map h (mem_of_get hb) ha (key_of_get hb)]

lemma Distinct.foldl_insert (h : Distinct key l) (m : List α) : Distinct key (m.foldl (Keyed.insert key) l) :=
  List.foldlRecOn (motive := Distinct key) m (Keyed.insert key) h fun _ h a _ => h.insert a

/-- A map is its values. -/
lemma perm_of_get (hl : Distinct key l) (hm : Distinct key m) (h : ∀ k, get key l k = get key m k) :
    l.Perm m := by
  refine (List.perm_ext_iff_of_nodup hl.of_map hm.of_map).mpr fun a => ?_
  constructor
  · intro ha
    exact mem_of_get ((h (key a)).symm.trans (hl.get_of_mem ha))
  · intro ha
    exact mem_of_get ((h (key a)).trans (hm.get_of_mem ha))

lemma Distinct.get_perm (h : Distinct key l) (hperm : m.Perm l) (k : κ) : get key m k = get key l k := by
  have hm : Distinct key m := (hperm.map key).nodup_iff.mpr h
  cases hget : get key l k with
  | none =>
    rw [get_eq_none] at hget ⊢
    rwa [(hperm.map key).mem_iff]
  | some a => rw [← key_of_get hget, hm.get_of_mem (hperm.mem_iff.mpr (mem_of_get hget))]

/-- The values that are put in replace those of the map. -/
lemma get_foldl_insert (hm : Distinct key m) (k : κ) :
    get key (m.foldl (Keyed.insert key) l) k = (get key m k).or (get key l k) := by
  induction m generalizing l with
  | nil => rfl
  | cons a m ih =>
    obtain ⟨ha, hm⟩ := List.nodup_cons.mp hm
    rw [List.foldl_cons, ih hm]
    by_cases hk : key a = k
    · subst hk
      rw [get_eq_none.mpr ha, get_cons_self, Keyed.insert, get_cons_self]
      rfl
    · rw [get_cons_of_ne hk, Keyed.insert, get_cons_of_ne hk, get_filter_ne (Ne.symm hk)]

lemma Distinct.get_ofList (h : Distinct key l) (k : κ) : get key (ofList key l) k = get key l k := by
  rw [ofList, get_foldl_insert h]
  exact Option.or_none

end Keyed
