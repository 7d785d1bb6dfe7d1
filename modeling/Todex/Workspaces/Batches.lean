import Todex.Workspaces.Store

/-!
# Syncs in batches

Of the records in one sync the newest of each workspace is kept. It then replaces the stored one, whatever their times
are, so two syncs may leave an older record than one.
-/

namespace Todex

/-- The record of a workspace. -/
abbrev recordAt (workspaces : List WorkspaceRecord) (key : String × String) : Option WorkspaceRecord :=
  Keyed.get WorkspaceRecord.key workspaces key

/-- Of two records the newer one stays, and of two with the same time the second. -/
def newest : Option WorkspaceRecord → Option WorkspaceRecord → Option WorkspaceRecord
  | some existing, some workspace =>
    if existing.updatedAt > workspace.updatedAt then some existing else some workspace
  | existing, workspace => workspace.or existing

@[simp] lemma newest_none (e : Option WorkspaceRecord) : newest e none = e := by
  cases e <;> rfl

lemma newest_assoc (a b c : Option WorkspaceRecord) : newest (newest a b) c = newest a (newest b c) := by
  cases a <;> cases b <;> cases c <;> grind [newest]

namespace WorkspaceEnv

variable (E : WorkspaceEnv) (ownerId : String)

/-- The records that a sync puts in. -/
abbrev kept (records : List WorkspaceRecord) : List WorkspaceRecord :=
  (E.normalizeWorkspaces records (some ownerId)).workspaces

/-- What a sync may keep of a record for a workspace. -/
def candidate (key : String × String) (workspace : WorkspaceRecord) : Option WorkspaceRecord :=
  ((E.validateWorkspaceRecord workspace).toOption.map (E.normalizeWorkspace (some ownerId) workspace)).filter
    (·.key = key)

lemma recordAt_normalizeStep (n : NormalizedWorkspaces) (w : WorkspaceRecord) (key : String × String) :
    recordAt (E.normalizeStep (some ownerId) n w).workspaces key =
      newest (recordAt n.workspaces key) (E.candidate ownerId key w) := by
  unfold normalizeStep candidate recordAt
  cases E.validateWorkspaceRecord w with
  | error e => exact (newest_none _).symm
  | ok path =>
    dsimp only [Except.toOption, Option.map_some]
    set r := E.normalizeWorkspace (some ownerId) w path
    by_cases hk : r.key = key
    · subst hk
      rw [Option.filter_some_pos (by simp)]
      cases hg : Keyed.get WorkspaceRecord.key n.workspaces r.key with
      | none => simp [newest, Keyed.insert]
      | some es =>
        by_cases hn : es.updatedAt > r.updatedAt
        · simp [newest, hn, hg]
        · simp [newest, hn, Keyed.insert]
    · rw [Option.filter_some_neg (by simpa using hk), newest_none]
      split_ifs
      · rfl
      · exact (Keyed.get_cons_of_ne hk).trans (Keyed.get_filter_ne (Ne.symm hk))

lemma distinct_kept (r : List WorkspaceRecord) : Keyed.Distinct WorkspaceRecord.key (E.kept ownerId r) := by
  refine List.foldlRecOn (motive := fun n : NormalizedWorkspaces => Keyed.Distinct WorkspaceRecord.key n.workspaces)
    r (E.normalizeStep (some ownerId)) List.nodup_nil ?_
  intro nr h w _
  unfold normalizeStep
  split
  · exact h
  · dsimp only
    split_ifs
    · exact h
    · exact h.insert _

lemma recordAt_kept_append (first second : List WorkspaceRecord) (key : String × String) :
    recordAt (E.kept ownerId (first ++ second)) key =
      newest (recordAt (E.kept ownerId first) key) (recordAt (E.kept ownerId second) key) := by
  induction second using List.reverseRecOn with
  | nil =>
    rw [List.append_nil]
    exact (newest_none _).symm
  | append_singleton second l ih =>
    have hl (r : List WorkspaceRecord) : recordAt (E.kept ownerId (r ++ [l])) key =
        newest (recordAt (E.kept ownerId r) key) (E.candidate ownerId key l) := by
      rw [kept, normalizeWorkspaces, List.foldl_concat]
      exact E.recordAt_normalizeStep ownerId _ l key
    rw [← List.append_assoc, hl, hl, ih, newest_assoc]

end WorkspaceEnv

/-- The workspaces that a completed sync leaves, in any order. -/
def Merges (E : WorkspaceEnv) (ownerId : String) (records : List WorkspaceRecord) (s : WorkspaceState)
    (workspaces : List WorkspaceRecord) : Prop :=
  ∃ normalized, normalized.Perm (E.kept ownerId records) ∧ workspaces.Perm (s.merged normalized)

/-- The stored workspaces, as the sync takes them. -/
abbrev WorkspaceState.stored (s : WorkspaceState) : List WorkspaceRecord :=
  Keyed.ofList WorkspaceRecord.key s.current.workspaces

/-- No record is older than the stored one of its workspace. -/
def NotOlder (stored records : List WorkspaceRecord) : Prop :=
  ∀ old ∈ stored, ∀ new ∈ records, new.key = old.key → old.updatedAt ≤ new.updatedAt

variable {E : WorkspaceEnv} {ownerId : String} {s s' : WorkspaceState}
  {first second workspaces joined : List WorkspaceRecord}

lemma Merges.recordAt (h : Merges E ownerId first s workspaces) : Keyed.Distinct WorkspaceRecord.key workspaces ∧
    ∀ key, recordAt workspaces key = (recordAt (E.kept ownerId first) key).or (recordAt s.stored key) := by
  obtain ⟨n, hn, hw⟩ := h
  have hk := E.distinct_kept ownerId first
  have hm : Keyed.Distinct WorkspaceRecord.key (s.merged n) :=
    (Keyed.distinct_ofList _).foldl_insert n
  refine ⟨(hw.map _).nodup_iff.mpr hm, fun key => ?_⟩
  rw [Todex.recordAt, hm.get_perm hw, WorkspaceState.merged,
    Keyed.get_foldl_insert ((hn.map _).nodup_iff.mpr hk), hk.get_perm hn]

/-- The second record of a workspace, if there are two, is not older. -/
def LeAt (old new : Option WorkspaceRecord) : Prop := ∀ x ∈ old, ∀ y ∈ new, x.updatedAt ≤ y.updatedAt

lemma notOlder_iff (hfirst : Keyed.Distinct WorkspaceRecord.key first)
    (hsecond : Keyed.Distinct WorkspaceRecord.key second) :
    NotOlder first second ↔ ∀ key, LeAt (recordAt first key) (recordAt second key) := by
  constructor
  · intro h key old hold new hnew
    exact h old (Keyed.mem_of_get hold) new (Keyed.mem_of_get hnew)
      ((Keyed.key_of_get hnew).trans (Keyed.key_of_get hold).symm)
  · intro h old hold new hnew hkey
    exact h old.key old (hfirst.get_of_mem hold) new (hkey ▸ hsecond.get_of_mem hnew)

/-- What happens to one workspace with the record `stored`, of which the syncs put in `first` and `second`. -/
lemma batches_at (stored first second : Option WorkspaceRecord) :
    (second.or (first.or stored) = (newest first second).or stored ∧ LeAt stored (first.or stored) ∧
      LeAt (first.or stored) (second.or (first.or stored))) ↔
        LeAt stored first ∧ LeAt stored second ∧ LeAt first second := by
  cases first with
  | none => cases stored <;> cases second <;> simp [LeAt, newest]
  | some x =>
    cases second with
    | none => cases stored <;> simp [LeAt, newest]
    | some y =>
      by_cases hle : x.updatedAt ≤ y.updatedAt
      · have hnewest : newest (some x) (some y) = some y := if_neg (not_lt.2 hle)
        cases stored with
        | none => simp [LeAt, hnewest, hle]
        | some old =>
          have htrans : old.updatedAt ≤ x.updatedAt → old.updatedAt ≤ y.updatedAt := (le_trans · hle)
          simpa [LeAt, hnewest, hle] using htrans
      · have hnewest : newest (some x) (some y) = some x := if_pos (not_le.1 hle)
        cases stored <;> simp [LeAt, hnewest, hle]

/-- Two syncs leave what one sync of all their records leaves, and neither replaces a record by an older one, exactly when
no record that they put in is older than the stored one of its workspace, and none of the second sync is older than one
of the first. -/
theorem workspace_batches (hfirst : Merges E ownerId first s s'.current.workspaces)
    (hsecond : Merges E ownerId second s' workspaces) (hjoined : Merges E ownerId (first ++ second) s joined) :
    (workspaces.Perm joined ∧ NotOlder s.stored s'.current.workspaces ∧ NotOlder s'.current.workspaces workspaces) ↔
      NotOlder s.stored (E.kept ownerId first) ∧ NotOlder s.stored (E.kept ownerId second) ∧
        NotOlder (E.kept ownerId first) (E.kept ownerId second) := by
  have hstored : Keyed.Distinct WorkspaceRecord.key s.stored := Keyed.distinct_ofList _
  have hkept := E.distinct_kept ownerId first
  have hkept' := E.distinct_kept ownerId second
  obtain ⟨hmid, hgetMid⟩ := hfirst.recordAt
  obtain ⟨hend, hgetEnd⟩ := hsecond.recordAt
  obtain ⟨hjoin, hgetJoin⟩ := hjoined.recordAt
  replace hgetEnd (key : String × String) : recordAt workspaces key = (recordAt (E.kept ownerId second) key).or
      ((recordAt (E.kept ownerId first) key).or (recordAt s.stored key)) := by
    rw [hgetEnd, ← hgetMid]
    exact congrArg _ (hmid.get_ofList key)
  have hsame : workspaces.Perm joined ↔ ∀ key, recordAt workspaces key = recordAt joined key :=
    ⟨fun hperm => hjoin.get_perm hperm, Keyed.perm_of_get hend hjoin⟩
  rw [hsame, notOlder_iff hstored hmid, notOlder_iff hmid hend, notOlder_iff hstored hkept, notOlder_iff hstored hkept',
    notOlder_iff hkept hkept', ← forall_and, ← forall_and, ← forall_and, ← forall_and]
  refine forall_congr' fun key => ?_
  rw [hgetEnd, hgetMid, hgetJoin, E.recordAt_kept_append]
  exact batches_at _ _ _

section Batches

/-- A record of one workspace at some time. -/
def workspaceAt (updatedAt : Nat) : WorkspaceRecord := { plainWorkspace "alice" "ws_1" with updatedAt }

/-- What the store holds after a sync. -/
def WorkspaceState.syncs (s : WorkspaceState) (updatedAt : Nat) : WorkspaceState :=
  s.mergeOwned .completed (WorkspaceEnv.standard.kept "alice" [workspaceAt updatedAt])
    (s.merged (WorkspaceEnv.standard.kept "alice" [workspaceAt updatedAt])) 0

theorem workspace_batches_newer : ∃ s s' workspaces joined,
    Merges .standard "alice" [workspaceAt 1] s s'.current.workspaces ∧
      Merges .standard "alice" [workspaceAt 5] s' workspaces ∧
      joined.map (·.updatedAt) = [5] ∧ workspaces.Perm joined := by
  have hf : Merges .standard "alice" [workspaceAt 1] (.load ⟨[], 0⟩)
    ((WorkspaceState.load ⟨[], 0⟩).syncs 1).current.workspaces := ⟨_, .refl _, .refl _⟩
  have hs : Merges .standard "alice" [workspaceAt 5] ((WorkspaceState.load ⟨[], 0⟩).syncs 1) _ :=
    ⟨_, .refl _, .refl _⟩
  have hj : Merges .standard "alice" ([workspaceAt 1] ++ [workspaceAt 5]) (.load ⟨[], 0⟩) _ :=
    ⟨_, .refl _, .refl _⟩
  refine ⟨_, _, _, _, hf, hs, by decide +kernel, ((workspace_batches hf hs hj).2 ⟨?_, ?_, ?_⟩).1⟩
  all_goals
    unfold NotOlder
    decide +kernel

/-- A sync replaces a record by an older one, which one sync of both does not. -/
theorem older_record_replaces_newer :
    ∃ s s' workspaces joined, Merges .standard "alice" [workspaceAt 5] s s'.current.workspaces ∧
      Merges .standard "alice" [workspaceAt 1] s' workspaces ∧
      Merges .standard "alice" [workspaceAt 5, workspaceAt 1] s joined ∧
      workspaces.map (·.updatedAt) = [1] ∧ joined.map (·.updatedAt) = [5] := by
  refine ⟨.load ⟨[], 0⟩, (WorkspaceState.load ⟨[], 0⟩).syncs 5, _, _, ⟨_, .refl _, .refl _⟩, ⟨_, .refl _, .refl _⟩,
    ⟨_, .refl _, .refl _⟩, ?_, ?_⟩
  · decide +kernel
  · decide +kernel

end Batches

end Todex
