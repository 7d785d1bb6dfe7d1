import Mathlib

/-!
# The plan of a history cleanup

The age rule removes the conversations that were last updated before a cutoff. The capacity rule then
removes the oldest ones that are left, until the total is within the limit.
-/

namespace Todex

/-- Thresholds of a cleanup policy. `none` disables that rule. -/
structure CleanupThresholds where
  maxAgeDays : Option Nat
  maxTotalBytes : Option Nat
deriving DecidableEq, Repr

structure PolicyCandidate where
  id : String
  /-- In nanoseconds. -/
  updatedAt : Int
  bytes : Nat
  /-- Running, waiting for a permission, reserved by a starting turn or private. -/
  isProtected : Bool
deriving DecidableEq, Repr

inductive PolicyRule
  | age
  | capacity
deriving DecidableEq, Repr

/-- `u64::saturating_add`. -/
def saturatingAdd (a b : Nat) : Nat := min (a + b) (2 ^ 64 - 1)

/-- `now - Duration::days(days)`, which panics before the earliest date. -/
def ageCutoff (earliest now : Int) (days : Nat) : Option Int :=
  let cutoff := now - days * (24 * 60 * 60 * 1000000000)
  if earliest ≤ cutoff then some cutoff else none

def PolicyCandidate.le (a b : PolicyCandidate) : Bool :=
  toLex (a.updatedAt, a.id) ≤ toLex (b.updatedAt, b.id)

/-- The loop of the capacity rule. -/
def removeOldest (limit : Nat) : Nat → List PolicyCandidate → List (String × PolicyRule)
  | _, [] => []
  | total, candidate :: remaining =>
    if total ≤ limit then []
    else (candidate.id, .capacity) :: removeOldest limit (total - candidate.bytes) remaining

/-- Which conversations a policy removes, in deletion order. -/
def planPolicyDeletions (earliest : Int) (candidates : List PolicyCandidate)
    (thresholds : CleanupThresholds) (now : Int) : Option (List (String × PolicyRule)) := do
  let cutoff ← thresholds.maxAgeDays.mapM (ageCutoff earliest now)
  let aged := candidates.filter fun c => !c.isProtected && cutoff.any (c.updatedAt < ·)
  let removed := aged.map (·.id)
  let plan := aged.map fun c => (c.id, PolicyRule.age)
  match thresholds.maxTotalBytes with
  | none => return plan
  | some limit =>
    let total := ((candidates.filter fun c => c.id ∉ removed).map (·.bytes)).foldl saturatingAdd 0
    let remaining := candidates.filter fun c => !c.isProtected && c.id ∉ removed
    return plan ++ removeOldest limit total (remaining.mergeSort PolicyCandidate.le)

/-! ### What a plan should be -/

def totalBytes (candidates : List PolicyCandidate) : Nat := (candidates.map (·.bytes)).sum

/-- The plan that removes these candidates by the age rule and then those by the capacity rule. -/
def planOf (aged taken : List PolicyCandidate) : List (String × PolicyRule) :=
  aged.map (fun c => (c.id, .age)) ++ taken.map fun c => (c.id, .capacity)

/-- The candidates that a plan does not name. -/
def leftBy (plan : List (String × PolicyRule)) (candidates : List PolicyCandidate) : List PolicyCandidate :=
  candidates.filter fun c => c.id ∉ plan.map Prod.fst

/-- The candidate was last updated before the cutoff. -/
def CleanupThresholds.expires (thresholds : CleanupThresholds) (now : Int) (c : PolicyCandidate) : Prop :=
  ∃ days ∈ thresholds.maxAgeDays, c.updatedAt < now - days * (24 * 60 * 60 * 1000000000)

/-- The plan removes what it must and no more. -/
structure PlanExact (candidates : List PolicyCandidate) (thresholds : CleanupThresholds) (now : Int)
    (aged taken : List PolicyCandidate) : Prop where
  nodup : ((planOf aged taken).map Prod.fst).Nodup
  unprotected : ∀ c ∈ candidates, c.isProtected → c.id ∉ (planOf aged taken).map Prod.fst
  age : ∀ c, c ∈ aged ↔ c ∈ candidates ∧ c.isProtected = false ∧ thresholds.expires now c
  /-- The capacity rule removes the first of those that the age rule leaves, oldest first. -/
  oldest : ∃ rest, (taken ++ rest).Perm (candidates.filter fun c => !c.isProtected && c ∉ aged) ∧
    (taken ++ rest).Pairwise (·.updatedAt ≤ ·.updatedAt)
  disabled : thresholds.maxTotalBytes = none → taken = []
  within : ∀ limit ∈ thresholds.maxTotalBytes, totalBytes (leftBy (planOf aged taken) candidates) ≤ limit ∨
    ∀ c ∈ leftBy (planOf aged taken) candidates, c.isProtected
  /-- Without the last deletion of the capacity rule the total exceeds the limit. -/
  needed : ∀ limit ∈ thresholds.maxTotalBytes, ∀ before last, taken = before ++ [last] →
    limit < totalBytes (leftBy (planOf aged before) candidates)

/-! ### The loop -/

lemma foldl_saturatingAdd {sizes : List Nat} {total : Nat} (h : total + sizes.sum < 2 ^ 64) :
    sizes.foldl saturatingAdd total = total + sizes.sum := by
  induction sizes generalizing total with
  | nil => rfl
  | cons size sizes ih =>
    rw [List.sum_cons] at h ⊢
    have hs : saturatingAdd total size = total + size := by
      unfold saturatingAdd
      omega
    rw [List.foldl_cons, hs, ih (by omega), Nat.add_assoc]

lemma removeOldest_spec (limit total : Nat) (remaining : List PolicyCandidate) :
    ∃ taken rest, remaining = taken ++ rest ∧
      removeOldest limit total remaining = taken.map (fun c => (c.id, .capacity)) ∧
      (total - totalBytes taken ≤ limit ∨ rest = []) ∧
      ∀ before last, taken = before ++ [last] → limit < total - totalBytes before := by
  induction remaining generalizing total with
  | nil => exact ⟨[], [], rfl, rfl, .inr rfl, by simp⟩
  | cons candidate remaining ih =>
    rw [removeOldest]
    split
    case isTrue hw => exact ⟨[], candidate :: remaining, rfl, rfl, .inl hw, by simp⟩
    case isFalse he =>
      obtain ⟨taken, rest, rfl, hp, hw, hn⟩ := ih (total - candidate.bytes)
      refine ⟨candidate :: taken, rest, rfl, by rw [hp, List.map_cons], ?_, ?_⟩
      · rw [totalBytes, List.map_cons, List.sum_cons, ← Nat.sub_sub]
        exact hw
      · intro before last heq
        cases before with
        | nil =>
          rw [totalBytes, List.map_nil, List.sum_nil]
          omega
        | cons first before =>
          obtain ⟨rfl, ht⟩ := List.cons.inj heq
          rw [totalBytes, List.map_cons, List.sum_cons, ← Nat.sub_sub]
          exact hn before last ht

lemma pairwise_mergeSort_le (candidates : List PolicyCandidate) :
    (candidates.mergeSort PolicyCandidate.le).Pairwise (·.updatedAt ≤ ·.updatedAt) := by
  have hs : (candidates.mergeSort PolicyCandidate.le).Pairwise fun a b => a.le b := by
    apply List.pairwise_mergeSort
    · intro a b c hab hbc
      simp only [PolicyCandidate.le, decide_eq_true_eq] at hab hbc ⊢
      exact hab.trans hbc
    · intro a b
      simp only [PolicyCandidate.le, Bool.or_eq_true, decide_eq_true_eq]
      exact le_total _ _
  refine hs.imp fun {a b} hle => ?_
  simp only [PolicyCandidate.le, decide_eq_true_eq] at hle
  exact (Prod.Lex.le_iff'.mp hle).1

lemma totalBytes_append (a b : List PolicyCandidate) : totalBytes (a ++ b) = totalBytes a + totalBytes b := by
  rw [totalBytes, List.map_append, List.sum_append]
  rfl

lemma totalBytes_perm {a b : List PolicyCandidate} (h : a.Perm b) : totalBytes a = totalBytes b :=
  (h.map _).sum_eq

/-- What a plan leaves of candidates of distinct ids. -/
lemma leftBy_perm {candidates aged taken others : List PolicyCandidate} (hi : (candidates.map (·.id)).Nodup)
    (h : candidates.Perm (aged ++ (taken ++ others))) :
    (leftBy (planOf aged taken) candidates).Perm others ∧ ((planOf aged taken).map Prod.fst).Nodup := by
  have hp : (planOf aged taken).map Prod.fst = (aged ++ taken).map (·.id) := by
    simp [planOf, Function.comp_def]
  rw [← List.append_assoc] at h
  have hn := (h.map PolicyCandidate.id).nodup_iff.mp hi
  rw [List.map_append, List.nodup_append] at hn
  have hl : leftBy (planOf aged taken) (aged ++ taken ++ others) = others := by
    rw [leftBy, hp, List.filter_append, List.filter_eq_nil_iff.mpr, List.filter_eq_self.mpr, List.nil_append]
    · intro c hc
      rw [decide_eq_true_eq]
      intro hm
      exact hn.2.2 _ hm _ (List.mem_map_of_mem hc) rfl
    · intro c hc
      rw [decide_eq_true_eq, not_not]
      exact List.mem_map_of_mem hc
  constructor
  · have hf := h.filter fun c => c.id ∉ (planOf aged taken).map Prod.fst
    exact hl ▸ hf
  · rw [hp]
    exact hn.1

/-! ### The plan -/

section Plan

variable {candidates aged taken rest : List PolicyCandidate} {thresholds : CleanupThresholds} {now : Int}

lemma candidates_perm (hi : (candidates.map (·.id)).Nodup) (hs : aged.Sublist candidates)
    (ha : ∀ c ∈ aged, c.isProtected = false)
    (hr : (taken ++ rest).Perm (candidates.filter fun c => !c.isProtected && c ∉ aged)) :
    candidates.Perm (aged ++ (taken ++ (rest ++ candidates.filter (·.isProtected)))) := by
  have hn : candidates.Nodup := hi.of_map _
  have hu : (candidates.filter fun c => !c.isProtected).Perm (aged ++ (taken ++ rest)) := by
    have hsp := List.filter_append_perm (· ∈ aged) (candidates.filter fun c => !c.isProtected)
    have hf : ((candidates.filter fun c => !c.isProtected).filter (· ∈ aged)).Perm aged := by
      refine (List.perm_ext_iff_of_nodup ((hn.filter _).filter _) (hn.sublist hs)).mpr fun c => ?_
      simp only [List.mem_filter, Bool.not_eq_true', decide_eq_true_eq]
      exact ⟨fun hc => hc.2, fun hc => ⟨⟨hs.subset hc, ha c hc⟩, hc⟩⟩
    have hse : ((candidates.filter fun c => !c.isProtected).filter fun c => !decide (c ∈ aged)).Perm
        (taken ++ rest) := by
      rw [List.filter_filter]
      refine List.Perm.trans ?_ hr.symm
      simp [Bool.and_comm]
    exact hsp.symm.trans (hf.append hse)
  have hal := List.filter_append_perm (fun c => !c.isProtected) candidates
  simp only [Bool.not_not] at hal
  refine hal.symm.trans ((hu.append_right _).trans ?_)
  simp

/-- The parts of a plan, with the total as the capacity rule counts it. -/
lemma planExact_of (hi : (candidates.map (·.id)).Nodup) (hs : aged.Sublist candidates)
    (ha : ∀ c, c ∈ aged ↔ c ∈ candidates ∧ c.isProtected = false ∧ thresholds.expires now c)
    (hr : (taken ++ rest).Perm (candidates.filter fun c => !c.isProtected && c ∉ aged))
    (hso : (taken ++ rest).Pairwise (·.updatedAt ≤ ·.updatedAt)) (hd : thresholds.maxTotalBytes = none → taken = [])
    (hl : ∀ limit ∈ thresholds.maxTotalBytes,
      (totalBytes (leftBy (planOf aged []) candidates) - totalBytes taken ≤ limit ∨ rest = []) ∧
      ∀ before last, taken = before ++ [last] →
        limit < totalBytes (leftBy (planOf aged []) candidates) - totalBytes before) :
    PlanExact candidates thresholds now aged taken := by
  have hpe := candidates_perm hi hs (fun c hc => ((ha c).mp hc).2.1) hr
  obtain ⟨hle, hno⟩ := leftBy_perm hi hpe
  have ht := totalBytes_perm (@leftBy_perm candidates aged [] _ hi (by simpa using hpe)).1
  refine ⟨hno, ?_, ha, ⟨rest, hr, hso⟩, hd, ?_, ?_⟩
  · intro c hc hp hna
    have hk : c ∈ leftBy (planOf aged taken) candidates := by
      rw [hle.mem_iff]
      exact List.mem_append_right _ (List.mem_filter.mpr ⟨hc, hp⟩)
    exact of_decide_eq_true (List.mem_filter.mp hk).2 hna
  · intro limit hm
    refine (hl limit hm).1.imp (fun hw => ?_) fun hnn c hc => ?_
    · rw [ht, totalBytes_append] at hw
      rw [totalBytes_perm hle]
      omega
    · rw [hle.mem_iff, hnn, List.nil_append] at hc
      exact (List.mem_filter.mp hc).2
  · rintro limit hm before last rfl
    have hn := (hl limit hm).2 before last rfl
    have hb := @leftBy_perm candidates aged before _ hi (by simpa using hpe)
    rw [ht, List.append_assoc, totalBytes_append] at hn
    rw [totalBytes_perm hb.1]
    simpa using hn

/-- If the ids differ, the sizes do not overflow and the cutoff is a date, the plan removes what it must and no more. -/
theorem cleanup_plan_exact (earliest now : Int) (candidates : List PolicyCandidate)
    (thresholds : CleanupThresholds) (hids : (candidates.map (·.id)).Nodup)
    (hsizes : totalBytes candidates < 2 ^ 64)
    (hdate : ∀ days ∈ thresholds.maxAgeDays, earliest ≤ now - days * (24 * 60 * 60 * 1000000000)) :
    ∃ aged taken, planPolicyDeletions earliest candidates thresholds now = some (planOf aged taken) ∧
      PlanExact candidates thresholds now aged taken := by
  obtain ⟨cutoff, hcu, he⟩ : ∃ cutoff, thresholds.maxAgeDays.mapM (ageCutoff earliest now) = some cutoff ∧
      ∀ c : PolicyCandidate, cutoff.any (c.updatedAt < ·) ↔ thresholds.expires now c := by
    unfold CleanupThresholds.expires
    cases hdays : thresholds.maxAgeDays with
    | none => exact ⟨none, rfl, by simp⟩
    | some days =>
      refine ⟨some (now - days * (24 * 60 * 60 * 1000000000)), ?_, by simp⟩
      rw [Option.mapM_some, ageCutoff, if_pos (hdate days hdays)]
      rfl
  generalize haged : candidates.filter (fun c => !c.isProtected && cutoff.any (c.updatedAt < ·)) = aged
  have hage : ∀ c, c ∈ aged ↔ c ∈ candidates ∧ c.isProtected = false ∧ thresholds.expires now c := by
    intro c
    rw [← haged, List.mem_filter, Bool.and_eq_true, he, Bool.not_eq_true']
  have hs : aged.Sublist candidates := haged ▸ List.filter_sublist
  have hmem : ∀ c ∈ candidates, c.id ∈ aged.map (·.id) ↔ c ∈ aged := by
    intro c hc
    refine ⟨fun hid => ?_, List.mem_map_of_mem⟩
    obtain ⟨other, ho, hid⟩ := List.mem_map.mp hid
    rwa [← List.inj_on_of_nodup_map hids (hs.subset ho) hc hid]
  have hr : (candidates.filter fun c => !c.isProtected && c.id ∉ aged.map (·.id)) =
      candidates.filter fun c => !c.isProtected && c ∉ aged := by
    refine List.filter_congr fun c hc => ?_
    rw [decide_eq_decide.mpr (not_congr (hmem c hc))]
  rw [planPolicyDeletions, hcu]
  dsimp only [Option.bind_eq_bind, Option.bind_some]
  rw [haged, hr]
  have hperm := List.mergeSort_perm (candidates.filter fun c => !c.isProtected && c ∉ aged) PolicyCandidate.le
  have hso := pairwise_mergeSort_le (candidates.filter fun c => !c.isProtected && c ∉ aged)
  cases hl : thresholds.maxTotalBytes with
  | none =>
    refine ⟨aged, [], by simp [planOf], planExact_of hids hs hage hperm hso (fun _ => rfl) ?_⟩
    simp [hl]
  | some limit =>
    have ht : ((candidates.filter fun c => c.id ∉ aged.map (·.id)).map (·.bytes)).foldl saturatingAdd 0 =
        totalBytes (leftBy (planOf aged []) candidates) := by
      have hids : (planOf aged []).map Prod.fst = aged.map (·.id) := by simp [planOf, Function.comp_def]
      have hle : totalBytes (leftBy (planOf aged []) candidates) ≤ totalBytes candidates :=
        (List.filter_sublist.map _).sum_le_sum fun _ _ => Nat.zero_le _
      rw [leftBy, hids, totalBytes] at hle ⊢
      rw [foldl_saturatingAdd (by omega), Nat.zero_add]
    obtain ⟨taken, rest, heq, hplan, hw, hn⟩ := removeOldest_spec limit
      (totalBytes (leftBy (planOf aged []) candidates))
      ((candidates.filter fun c => !c.isProtected && c ∉ aged).mergeSort PolicyCandidate.le)
    rw [heq] at hperm hso
    refine ⟨aged, taken, ?_, planExact_of hids hs hage hperm hso (by simp [hl]) ?_⟩
    · dsimp only
      rw [ht, hplan]
      rfl
    · intro limit' hmem'
      cases hl.symm.trans hmem'
      exact ⟨hw, hn⟩

/-- Two conversations of today, one that is too old, and one that is protected. -/
def mixedCandidates : List PolicyCandidate :=
  [⟨"new", 90000000000002, 7, false⟩, ⟨"old", 90000000000001, 5, false⟩, ⟨"aged", 1, 9, false⟩, ⟨"pinned", 0, 3, true⟩]

theorem cleanup_plan_exact_mixed : ∃ aged taken,
    planPolicyDeletions 0 mixedCandidates ⟨some 1, some 11⟩ 90000000000009 = some (planOf aged taken) ∧
      ⟨"aged", 1, 9, false⟩ ∈ aged ∧ "pinned" ∉ (planOf aged taken).map Prod.fst := by
  obtain ⟨aged, taken, hplan, hexact⟩ := cleanup_plan_exact 0 90000000000009 mixedCandidates ⟨some 1, some 11⟩
    (by decide) (by decide) (by rintro _ ⟨⟩; decide)
  exact ⟨aged, taken, hplan, (hexact.age _).mpr ⟨by decide, rfl, 1, rfl, by decide⟩,
    hexact.unprotected ⟨"pinned", 0, 3, true⟩ (by decide) rfl⟩

end Plan

end Todex
