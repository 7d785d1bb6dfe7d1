import Todex.Lib.Json.Number

/-!
# JSON values

An object is the list of its members. The operations keep it sorted by key without repeated keys,
as an ordered map does; `Json.Sorted` says that a value is in this form throughout, so that equal
maps are equal lists.
-/

/-- A JSON value. -/
inductive Json
  | null
  | bool (b : Bool)
  | number (n : Json.Number)
  | string (s : String)
  | array (xs : List Json)
  | object (m : List (String × Json))

namespace Json

/-! ### Objects -/

/-- The members of an object, sorted by key. -/
abbrev Members := List (String × Json)

variable {m : Members} {k : String} {v : Json}

namespace Members

/-- The value of a key. -/
def get (m : Members) (k : String) : Option Json := m.lookup k

/-- Set the value of a key. -/
def insert (k : String) (v : Json) : Members → Members
  | [] => [(k, v)]
  | (k', v') :: m =>
    if k < k' then (k, v) :: (k', v') :: m
    else if k = k' then (k, v) :: m
    else (k', v') :: insert k v m

/-- Collect members one after the other; of a repeated key the last value stays. -/
def ofList (l : List (String × Json)) : Members := l.foldl (fun m e => insert e.1 e.2 m) []

@[simp] lemma get_nil (k : String) : get [] k = none := rfl

@[simp] lemma get_cons (m : Members) (k k' : String) (v : Json) :
    get ((k, v) :: m) k' = if k' = k then some v else get m k' := by
  by_cases h : k' = k
  · simp [get, h]
  · simp [get, List.lookup_cons, h, beq_false_of_ne h]

lemma mem_of_get (h : m.get k = some v) : (k, v) ∈ m := by
  induction m with
  | nil => simp at h
  | cons e m ih =>
    rw [get_cons] at h
    split_ifs at h with hk
    · obtain rfl := Option.some.inj h
      simp [hk]
    · exact List.mem_cons_of_mem _ (ih h)

@[simp] lemma get_insert (m : Members) (k k' : String) (v : Json) :
    get (insert k v m) k' = if k' = k then some v else get m k' := by
  induction m with
  | nil => simp [insert]
  | cons e m ih =>
    obtain ⟨k₀, v₀⟩ := e
    simp only [insert]
    split_ifs with h1 h2 <;> simp only [get_cons, ih] <;> split_ifs <;> simp_all

/-- The keys increase. -/
def Ordered (m : Members) : Prop := m.Pairwise fun a b => a.1 < b.1

instance (m : Members) : Decidable m.Ordered :=
  inferInstanceAs (Decidable (m.Pairwise fun a b => a.1 < b.1))

lemma mem_insert (h : e ∈ insert k v m) : e = (k, v) ∨ e ∈ m := by
  induction m with
  | nil => simpa [insert] using h
  | cons e' m ih =>
    simp only [insert] at h
    split_ifs at h
    · simpa using h
    · simp only [List.mem_cons] at h ⊢
      tauto
    · simp only [List.mem_cons] at h ⊢
      rcases h with h | h
      · exact .inr (.inl h)
      · exact (ih h).imp_right .inr

lemma Ordered.insert (hm : Ordered m) (k : String) (v : Json) : Ordered (insert k v m) := by
  induction m with
  | nil => simp [Members.insert, Ordered]
  | cons e m ih =>
    obtain ⟨hhd, htl⟩ := List.pairwise_cons.mp hm
    simp only [Members.insert]
    split_ifs with h1 h2
    · refine List.pairwise_cons.mpr ⟨?_, hm⟩
      rintro e' (_ | ⟨_, he'⟩)
      · exact h1
      · exact h1.trans (hhd _ he')
    · exact List.pairwise_cons.mpr ⟨fun e' he' => h2 ▸ hhd e' he', htl⟩
    · refine List.pairwise_cons.mpr ⟨fun e' he' => ?_, ih htl⟩
      rcases mem_insert he' with rfl | he'
      · exact lt_of_le_of_ne (not_lt.mp h1) (Ne.symm h2)
      · exact hhd e' he'

lemma ordered_ofList (l : List (String × Json)) : Ordered (ofList l) := by
  induction l using List.reverseRecOn with
  | nil => exact List.Pairwise.nil
  | append_singleton l e ih => simpa [ofList] using Ordered.insert ih e.1 e.2

lemma mem_ofList (h : e ∈ ofList l) : e ∈ l := by
  induction l using List.reverseRecOn with
  | nil => simp [ofList] at h
  | append_singleton l e' ih =>
    simp only [ofList, List.foldl_append, List.foldl_cons, List.foldl_nil] at h ih
    rcases mem_insert h with rfl | h
    · simp
    · simp [ih h]

/-- Adding a key that is greater than all others appends it. -/
lemma insert_of_forall_lt (h : ∀ e ∈ m, e.1 < k) (v : Json) : insert k v m = m ++ [(k, v)] := by
  induction m with
  | nil => rfl
  | cons e m ih =>
    have he : e.1 < k := h e (by simp)
    simp [insert, he.not_gt, he.ne', ih fun e he => h e (by simp [he])]

/-- Collecting the members of an ordered object gives the object. -/
lemma ofList_of_ordered (hm : Ordered m) : ofList m = m := by
  induction m using List.reverseRecOn with
  | nil => rfl
  | append_singleton m e ih =>
    obtain ⟨hm', -, hlt⟩ := List.pairwise_append.mp hm
    simp only [ofList, List.foldl_append, List.foldl_cons, List.foldl_nil] at ih ⊢
    rw [ih hm', insert_of_forall_lt fun e' he' => hlt e' he' e (by simp)]

end Members

/-! ### Access -/

/-- The members of an object. -/
def asObject : Json → Option Members
  | object m => some m
  | _ => none

/-- The member `k` of an object. -/
def get (v : Json) (k : String) : Option Json := v.asObject.bind (·.get k)

/-- The text of a string. -/
def asStr : Json → Option String
  | string s => some s
  | _ => none

/-- An unsigned integer. -/
def asU64 : Json → Option Nat
  | number n => n.asU64
  | _ => none

def asArray : Json → Option (List Json)
  | array xs => some xs
  | _ => none

def isObject (v : Json) : Bool := v.asObject.isSome

def isNull : Json → Bool
  | null => true
  | _ => false

/-- The object has a member `k` that is not null. -/
def Members.present (m : Members) (k : String) : Bool := (m.get k).any (!·.isNull)

/-- Remove the member `k`. -/
def Members.remove (m : Members) (k : String) : Members := m.filter (·.1 ≠ k)

lemma Members.get_remove_of_ne {k k' : String} (hne : k' ≠ k) (m : Members) : (m.remove k).get k' = m.get k' := by
  induction m with
  | nil => rfl
  | cons e m ih =>
    obtain ⟨k₀, v⟩ := e
    rw [Members.remove] at ih ⊢
    by_cases hk : k₀ = k
    · rw [List.filter_cons_of_neg (by simp [hk]), ih, Members.get_cons, if_neg (hk ▸ hne)]
    · rw [List.filter_cons_of_pos (by simp [hk]), Members.get_cons, Members.get_cons, ih]

/-- The member `k` if it is a string. -/
def text (v : Json) (k : String) : Option String := (v.get k).bind asStr

/-- A string or a number. -/
def isScalar : Json → Bool
  | string _ => true
  | number _ => true
  | _ => false

@[simp] lemma asObject_object (m : Members) : (object m).asObject = some m := rfl

lemma eq_object_of_asObject (h : v.asObject = some m) : v = object m := by
  cases v with
  | object m' => rw [asObject_object] at h; rw [Option.some.inj h]
  | _ => simp [asObject] at h

@[simp] lemma get_object (m : Members) (k : String) : (object m).get k = m.get k := rfl

@[simp] lemma asStr_string (s : String) : (string s).asStr = some s := rfl

/-- An unsigned integer value. -/
def nat (n : Nat) : Json := number (.ofNat n)

lemma asU64_nat (h : n < 2 ^ 64) : (nat n).asU64 = some n := Number.asU64_ofNat h

end Json
