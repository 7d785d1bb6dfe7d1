import Todex.Lib.Json.Value

/-!
# JSON pointers

A pointer such as `/delta/text` names a place inside a value by the keys and indices on the way to
it. Places that hold strings are independent: setting one leaves the text of the others.
-/

namespace Json

/-! ### Children -/

/-- An array index: the decimal text of a number that fits a machine word. -/
def parseIndex (token : String) : Option Nat :=
  token.toNat?.filter fun i => i < 2 ^ 64 ∧ toString i = token

lemma parseIndex_injective (h : parseIndex token = some i)
    (h' : parseIndex token' = some i) : token = token' := by
  have htext := (Option.filter_eq_some_iff.mp h).2
  have htext' := (Option.filter_eq_some_iff.mp h').2
  simp only [decide_eq_true_eq] at htext htext'
  exact htext.2.symm.trans htext'.2

/-- The member or element a token names. -/
def child (v : Json) (token : String) : Option Json :=
  match v with
  | object m => Members.get m token
  | array xs => (parseIndex token).bind (xs[·]?)
  | _ => none

/-- Set the member or element a token names. -/
def setChild (v : Json) (token : String) (c : Json) : Json :=
  match v with
  | object m => object (Members.insert token c m)
  | array xs => (parseIndex token).elim v fun i => array (xs.set i c)
  | _ => v

lemma child_setChild_self {v c : Json} (h : v.child token = some c) (c' : Json) :
    (v.setChild token c').child token = some c' := by
  cases v with
  | object m => simp [setChild, child]
  | array xs =>
    obtain ⟨i, hi, hc⟩ := Option.bind_eq_some_iff.mp h
    obtain ⟨hlt, -⟩ := List.getElem?_eq_some_iff.mp hc
    simp [setChild, child, hi, hlt]
  | null | bool | number | string => cases h

lemma child_setChild_of_ne (v : Json) (hne : token' ≠ token) (c : Json) :
    (v.setChild token c).child token' = v.child token' := by
  cases v with
  | object m => simp [setChild, child, hne]
  | array xs =>
    rw [setChild]
    cases hi : parseIndex token with
    | none => rfl
    | some i =>
      rw [Option.elim_some, child, child]
      cases hj : parseIndex token' with
      | none => rfl
      | some j =>
        have hij : i ≠ j := by
          rintro rfl
          exact hne (parseIndex_injective hj hi)
        simp [List.getElem?_set_ne hij]
  | null | bool | number | string => rfl

/-! ### Paths -/

/-- The value at a path. -/
def atPath (v : Json) : List String → Option Json
  | [] => some v
  | token :: path => (v.child token).bind (·.atPath path)

/-- Set the value at a path; a path that leads nowhere changes nothing. -/
def setPath (v : Json) : List String → Json → Json
  | [], new => new
  | token :: path, new => (v.child token).elim v fun c => v.setChild token (c.setPath path new)

lemma atPath_setPath_self {v c : Json} (h : v.atPath path = some c)
    (new : Json) : (v.setPath path new).atPath path = some new := by
  induction path generalizing v with
  | nil => rfl
  | cons token path ih =>
    obtain ⟨c', hc', hpath⟩ := Option.bind_eq_some_iff.mp h
    rw [setPath, hc', Option.elim_some, atPath, child_setChild_self hc', Option.bind_some]
    exact ih hpath

lemma atPath_string (s : String) (hne : path ≠ []) : (string s).atPath path = none := by
  cases path with
  | nil => exact absurd rfl hne
  | cons token path => rfl

/-- Setting one string leaves the others. -/
lemma atPath_setPath_of_ne {v : Json}
    (h : v.atPath path = some (string s)) (h' : v.atPath path' = some (string s')) (hne : path' ≠ path) (t : String) :
    (v.setPath path (string t)).atPath path' = some (string s') := by
  induction path generalizing v path' with
  | nil =>
    rw [atPath, Option.some.injEq] at h
    rw [h, atPath_string s hne] at h'
    cases h'
  | cons token path ih =>
    obtain ⟨c, hc, hpath⟩ := Option.bind_eq_some_iff.mp h
    rw [setPath, hc, Option.elim_some]
    cases path' with
    | nil =>
      rw [atPath, Option.some.injEq] at h'
      rw [h'] at hc
      cases hc
    | cons token' path' =>
      by_cases ht : token' = token
      · subst ht
        rw [atPath, hc, Option.bind_some] at h'
        rw [atPath, child_setChild_self hc, Option.bind_some]
        exact ih hpath h' fun heq => hne (by rw [heq])
      · rw [atPath, child_setChild_of_ne v ht]
        exact h'

/-! ### Pointers -/

/-- Replace `~` and the letter after it. -/
def unescapeTilde (letter c : Char) : List Char → List Char
  | '~' :: x :: rest =>
    if x = letter then c :: unescapeTilde letter c rest
    else '~' :: unescapeTilde letter c (x :: rest)
  | x :: rest => x :: unescapeTilde letter c rest
  | [] => []

/-- The tokens of a pointer; a pointer is empty or starts with a slash. -/
def pointerPath (pointer : String) : Option (List String) :=
  match pointer.toList with
  | [] => some []
  | '/' :: rest => some <| (rest.splitOn '/').map fun token =>
    String.ofList (unescapeTilde '0' '~' (unescapeTilde '1' '/' token))
  | _ => none

/-- The value a pointer names. -/
def pointer (v : Json) (pointer : String) : Option Json := (pointerPath pointer).bind v.atPath

/-- The text a pointer names. -/
def pointerStr (v : Json) (pointer : String) : Option String := (v.pointer pointer).bind asStr

/-- Set the value a pointer names. -/
def setPointer (v : Json) (pointer : String) (new : Json) : Json :=
  (pointerPath pointer).elim v fun path => v.setPath path new

lemma pointerStr_eq_some_iff {v : Json} {pointer s : String} :
    v.pointerStr pointer = some s ↔ ∃ path, pointerPath pointer = some path ∧ v.atPath path = some (string s) := by
  rw [pointerStr, Json.pointer, Option.bind_assoc, Option.bind_eq_some_iff]
  constructor
  · rintro ⟨path, hpath, hs⟩
    obtain ⟨c, hc, hs⟩ := Option.bind_eq_some_iff.mp hs
    cases c with
    | string s' => cases hs; exact ⟨path, hpath, hc⟩
    | null | bool | number | array | object => cases hs
  · rintro ⟨path, hpath, hs⟩
    exact ⟨path, hpath, by rw [hs]; rfl⟩

/-- After setting one text, a pointer to the same place reads it and any other is unchanged. -/
lemma pointerStr_setPointer {v : Json} {pointer pointer' s s' : String}
    (h : v.pointerStr pointer = some s) (h' : v.pointerStr pointer' = some s') (t : String) :
    (v.setPointer pointer (string t)).pointerStr pointer' =
      some (if pointerPath pointer' = pointerPath pointer then t else s') := by
  obtain ⟨path, hpath, hs⟩ := pointerStr_eq_some_iff.mp h
  obtain ⟨path', hpath', hs'⟩ := pointerStr_eq_some_iff.mp h'
  rw [pointerStr_eq_some_iff, setPointer, hpath, hpath', Option.elim_some]
  refine ⟨path', rfl, ?_⟩
  split_ifs with heq
  · cases heq
    exact atPath_setPath_self hs _
  · exact atPath_setPath_of_ne hs hs' (fun hne => heq (by rw [hne])) t

/-- Pointers to one place read one text. -/
lemma pointerStr_congr (v : Json) {pointer pointer' : String} (h : pointerPath pointer = pointerPath pointer') :
    v.pointerStr pointer = v.pointerStr pointer' := by
  rw [pointerStr, Json.pointer, h, pointerStr, Json.pointer]

end Json
