import Todex.Lib.Json.Text

/-!
# The value a program holds for a JSON text

`interpret` is what a deserializer makes of the parsed text. A value `ReadsBack` if reading its
own text gives the value again.
-/

namespace Json

variable (float : Number → Option Number)

mutual
/-- The value held for a parsed text, if it is nested at most `depth` deep. -/
def interpret : Json → Nat → Option Json
  | null, _ => some null
  | bool b, _ => some (bool b)
  | number n, _ => (n.read float).map number
  | string s, _ => some (string s)
  | array _, 0 => none
  | array xs, depth + 1 => (interpretElems xs depth).map array
  | object _, 0 => none
  | object m, depth + 1 => (interpretMembers m depth).map fun m => object (Members.ofList m)

def interpretElems : List Json → Nat → Option (List Json)
  | [], _ => some []
  | x :: xs, depth => do
    let x ← interpret x depth
    let xs ← interpretElems xs depth
    return x :: xs

def interpretMembers : List (String × Json) → Nat → Option (List (String × Json))
  | [], _ => some []
  | (k, v) :: m, depth => do
    let v ← interpret v depth
    let m ← interpretMembers m depth
    return (k, v) :: m
end

/-- How deep a deserializer goes. -/
def nestingLimit : Nat := 127

/-- Deserialize a text. -/
def fromText (l : List Char) : Option Json := (parse l).bind fun v => interpret float v nestingLimit

/-- Reading the text of the value gives the value, also with `depth` levels left. -/
def ReadsBack (depth : Nat) (v : Json) : Prop := interpret float v depth = some v

variable {float}

lemma fromText_print {v : Json} (h : ReadsBack float nestingLimit v) : fromText float (print v) = some v := by
  rw [fromText, parse_print, Option.bind_some, h]

/-! ### Deeper limits read the same -/

mutual
lemma interpret_mono {v w : Json} {d d' : Nat} (h : interpret float v d = some w) (hd : d ≤ d') :
    interpret float v d' = some w := by
  match v, d, d' with
  | null, _, _ | bool _, _, _ | number _, _, _ | string _, _, _ => simpa [interpret] using h
  | array xs, d + 1, d' + 1 =>
    simp only [interpret, Option.map_eq_some_iff] at h ⊢
    obtain ⟨ys, hys, rfl⟩ := h
    exact ⟨ys, interpretElems_mono hys (by omega), rfl⟩
  | object m, d + 1, d' + 1 =>
    simp only [interpret, Option.map_eq_some_iff] at h ⊢
    obtain ⟨m', hm', rfl⟩ := h
    exact ⟨m', interpretMembers_mono hm' (by omega), rfl⟩
  | array _, 0, _ => simp [interpret] at h
  | object _, 0, _ => simp [interpret] at h

lemma interpretElems_mono {xs ys : List Json} {d d' : Nat} (h : interpretElems float xs d = some ys) (hd : d ≤ d') :
    interpretElems float xs d' = some ys := by
  match xs with
  | [] => simpa [interpretElems] using h
  | x :: xs =>
    simp only [interpretElems, Option.bind_eq_bind, Option.bind_eq_some_iff] at h ⊢
    obtain ⟨y, hy, ys, hys, h⟩ := h
    exact ⟨y, interpret_mono hy hd, ys, interpretElems_mono hys hd, h⟩

lemma interpretMembers_mono {m m' : List (String × Json)} {d d' : Nat}
    (h : interpretMembers float m d = some m') (hd : d ≤ d') : interpretMembers float m d' = some m' := by
  match m with
  | [] => simpa [interpretMembers] using h
  | (k, v) :: m =>
    simp only [interpretMembers, Option.bind_eq_bind, Option.bind_eq_some_iff] at h ⊢
    obtain ⟨w, hw, m', hm', h⟩ := h
    exact ⟨w, interpret_mono hw hd, m', interpretMembers_mono hm' hd, h⟩
end

lemma ReadsBack.mono {v : Json} {d d' : Nat} (h : ReadsBack float d v) (hd : d ≤ d') :
    ReadsBack float d' v :=
  interpret_mono h hd

/-! ### Values that read back -/

lemma interpretMembers_eq_some {m : List (String × Json)} {d : Nat}
    (h : ∀ e ∈ m, ReadsBack float d e.2) : interpretMembers float m d = some m := by
  induction m with
  | nil => simp [interpretMembers]
  | cons e m ih =>
    have he : interpret float e.2 d = some e.2 := h e (by simp)
    simp [interpretMembers, he, ih fun e he => h e (by simp [he])]

/-- An ordered object reads back if its members do. -/
lemma readsBack_object {m : Members} {d : Nat} (hm : m.Ordered)
    (h : ∀ e ∈ m, ReadsBack float d e.2) : ReadsBack float (d + 1) (object m) := by
  rw [ReadsBack, interpret, interpretMembers_eq_some h, Option.map_some,
    Members.ofList_of_ordered hm]

lemma interpretMembers_map_fst {m m' : List (String × Json)} {d : Nat}
    (h : interpretMembers float m d = some m') : m'.map Prod.fst = m.map Prod.fst := by
  induction m generalizing m' with
  | nil =>
    obtain rfl : m' = [] := by simpa [interpretMembers, eq_comm] using h
    rfl
  | cons e m ih =>
    simp only [interpretMembers, Option.bind_eq_bind, Option.bind_eq_some_iff, Option.pure_def,
      Option.some.injEq] at h
    obtain ⟨w, -, m₁, hm₁, rfl⟩ := h
    simp [ih hm₁]

lemma forall_readsBack_of_interpretMembers {m : List (String × Json)} {d : Nat}
    (h : interpretMembers float m d = some m) : ∀ e ∈ m, ReadsBack float d e.2 := by
  induction m with
  | nil => simp
  | cons e m ih =>
    simp only [interpretMembers, Option.bind_eq_bind, Option.bind_eq_some_iff, Option.pure_def,
      Option.some.injEq, List.cons.injEq] at h
    obtain ⟨w, hw, m₁, hm₁, he, rfl⟩ := h
    rintro e' (_ | ⟨_, he'⟩)
    · rw [← he] at hw ⊢
      exact hw
    · exact ih hm₁ e' he'

/-- An object reads back only if it is ordered and its members read back. -/
lemma ReadsBack.object_inv {m : Members} {d : Nat} (h : ReadsBack float d (object m)) :
    ∃ d', d = d' + 1 ∧ m.Ordered ∧ ∀ e ∈ m, ReadsBack float d' e.2 := by
  cases d with
  | zero => simp [ReadsBack, interpret] at h
  | succ d =>
    simp only [ReadsBack, interpret, Option.map_eq_some_iff, Json.object.injEq] at h
    obtain ⟨m', hm', hof⟩ := h
    have hord : m.Ordered := hof ▸ Members.ordered_ofList m'
    -- the interpreted members have the same keys, so they are ordered too
    have hord' : Members.Ordered m' := by
      have hkeys : (m.map Prod.fst).Pairwise (· < ·) := List.pairwise_map.mpr hord
      rw [← interpretMembers_map_fst hm'] at hkeys
      exact List.pairwise_map.mp hkeys
    rw [Members.ofList_of_ordered hord'] at hof
    subst hof
    exact ⟨d, rfl, hord, forall_readsBack_of_interpretMembers hm'⟩

lemma ReadsBack.insert {m : Members} {d : Nat} (h : ReadsBack float (d + 1) (object m)) {v : Json}
    (hv : ReadsBack float d v) (k : String) : ReadsBack float (d + 1) (object (m.insert k v)) := by
  obtain ⟨d', hd, hord, hmem⟩ := h.object_inv
  obtain rfl : d = d' := by omega
  refine readsBack_object (hord.insert k v) fun e he => ?_
  rcases Members.mem_insert he with rfl | he
  · exact hv
  · exact hmem e he

/-! ### What was read once reads back -/

mutual
/-- The numbers in a value. -/
def numbers : Json → List Number
  | null | bool _ | string _ => []
  | number n => [n]
  | array xs => numbersElems xs
  | object m => numbersMembers m

def numbersElems : List Json → List Number
  | [] => []
  | x :: xs => numbers x ++ numbersElems xs

def numbersMembers : List (String × Json) → List Number
  | [] => []
  | (_, v) :: m => numbers v ++ numbersMembers m
end

/-- Every number in the value is read from its token again. -/
def Stable (float : Number → Option Number) (v : Json) : Prop :=
  ∀ n ∈ v.numbers, n.read float = some n

instance (v : Json) : Decidable (v.Stable float) :=
  inferInstanceAs (Decidable (∀ n ∈ v.numbers, n.read float = some n))

/-! ### How deep a value is -/

mutual
/-- How many arrays and objects are nested in each other. -/
def depth : Json → Nat
  | null | bool _ | number _ | string _ => 0
  | array xs => depthElems xs + 1
  | object m => depthMembers m + 1

def depthElems : List Json → Nat
  | [] => 0
  | x :: xs => max (depth x) (depthElems xs)

def depthMembers : List (String × Json) → Nat
  | [] => 0
  | (_, v) :: m => max (depth v) (depthMembers m)
end

mutual
/-- Every object in the value is ordered. -/
def Sorted : Json → Prop
  | null | bool _ | number _ | string _ => True
  | array xs => SortedElems xs
  | object m => Members.Ordered m ∧ SortedMembers m

def SortedElems : List Json → Prop
  | [] => True
  | x :: xs => Sorted x ∧ SortedElems xs

def SortedMembers : List (String × Json) → Prop
  | [] => True
  | (_, v) :: m => Sorted v ∧ SortedMembers m
end

mutual
/-- A value that is not too deep reads back, if its numbers do. -/
lemma readsBack_of_depth {v : Json} {d : Nat} (hd : v.depth ≤ d) (hs : v.Sorted)
    (hst : v.Stable float) : ReadsBack float d v := by
  match v, d with
  | null, _ | bool _, _ | string _, _ => simp [ReadsBack, interpret]
  | number n, _ => rw [ReadsBack, interpret, hst n (by simp [numbers]), Option.map_some]
  | array _, 0 | object _, 0 => simp [depth] at hd
  | array xs, d + 1 =>
    rw [depth] at hd
    have he := interpretElems_of_depth (d := d) (by omega) hs hst
    rw [ReadsBack, interpret, he, Option.map_some]
  | object m, d + 1 =>
    rw [depth] at hd
    have hm := interpretMembers_of_depth (d := d) (by omega) hs.2 hst
    rw [ReadsBack, interpret, hm, Option.map_some, Members.ofList_of_ordered hs.1]

lemma interpretElems_of_depth {xs : List Json} {d : Nat} (hd : depthElems xs ≤ d)
    (hso : SortedElems xs) (hs : ∀ n ∈ numbersElems xs, n.read float = some n) :
    interpretElems float xs d = some xs := by
  match xs with
  | [] => simp [interpretElems]
  | x :: xs =>
    rw [depthElems] at hd
    simp only [numbersElems, List.mem_append] at hs
    have hx : interpret float x d = some x :=
      readsBack_of_depth (by omega) hso.1 fun n hn => hs n (.inl hn)
    have hxs := interpretElems_of_depth (d := d) (by omega) hso.2 fun n hn => hs n (.inr hn)
    simp [interpretElems, hx, hxs]

lemma interpretMembers_of_depth {m : List (String × Json)} {d : Nat} (hd : depthMembers m ≤ d)
    (hso : SortedMembers m) (hs : ∀ n ∈ numbersMembers m, n.read float = some n) :
    interpretMembers float m d = some m := by
  match m with
  | [] => simp [interpretMembers]
  | (k, v) :: m =>
    rw [depthMembers] at hd
    simp only [numbersMembers, List.mem_append] at hs
    have hv : interpret float v d = some v :=
      readsBack_of_depth (by omega) hso.1 fun n hn => hs n (.inl hn)
    have hm := interpretMembers_of_depth (d := d) (by omega) hso.2 fun n hn => hs n (.inr hn)
    simp [interpretMembers, hv, hm]
end

end Json
