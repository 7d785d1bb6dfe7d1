import Todex.Lib.Keyed
import Todex.Primitives
import Todex.Text

/-!
# The workspace store

The workspaces of all tenants are one snapshot in memory and one file. A sync takes the snapshot apart,
puts the records of the client in, and writes the file; only then does it put the snapshot back.
-/

namespace Todex

/-! ### Records -/

structure WorkspaceRecord where
  id : String
  name : String
  path : String
  sessionId : String
  tenantId : String
  threadId : String
  model : String
  reasoningEffort : Option String
  approvalPolicy : String
  sandboxMode : String
  permissionProfile : Option String
  approvalsReviewer : Option String
  serviceTier : Option String
  localAdapterState : Option String
  icon : Option String
  iconColor : Option String
  ringStyle : Option String
  createdAt : Nat
  updatedAt : Nat
  sortOrder : Option Int
  groupId : Option String
  groupName : Option String
  groupTags : List String
  tags : List String
deriving DecidableEq, Repr

/-- Records are kept by tenant and id. -/
def WorkspaceRecord.key (self : WorkspaceRecord) : String × String := (self.tenantId, self.id)

structure WorkspaceSnapshot where
  workspaces : List WorkspaceRecord
  updatedAt : Nat
deriving DecidableEq, Repr

/-- A record that was not taken, and why. -/
structure RejectedWorkspace where
  id : String
  name : String
  path : String
  code : String
  message : String
deriving DecidableEq, Repr

structure NormalizedWorkspaces where
  workspaces : List WorkspaceRecord
  rejected : List RejectedWorkspace

/-- What the store asks of the file system and of libraries. -/
structure WorkspaceEnv where
  primitives : Primitives
  /-- `validate_workspace_directory`: the canonical path, or the code and the text of an error. -/
  validateDirectory : String → Except (String × String) String
  /-- `str::to_lowercase`. -/
  toLowercase : String → String

/-! ### What is kept of a record -/

/-- `WORKSPACE_GROUP_FIELD_MAX`. -/
def workspaceGroupFieldMax : Nat := 64

/-- `WORKSPACE_TAG_MAX`. -/
def workspaceTagMax : Nat := 32

/-- `WORKSPACE_TAGS_MAX`. -/
def workspaceTagsMax : Nat := 16

def normalizeGroupField (value : Option String) : Option String :=
  (value.map fun text => String.ofList ((trimChars text.toList).take workspaceGroupFieldMax)).filter
    (· ≠ "")

/-- A tag without control characters, trimmed and cut. -/
def normalizeTag (value : String) : String :=
  String.ofList (trimEndChars
    ((trimChars (value.toList.filter fun c => ¬ isControl c)).take workspaceTagMax))

/-- The first spelling of each tag, up to the limit. -/
def normalizeTagsFrom (toLowercase : String → String) (seen tags : List String) : List String → List String
  | [] => tags
  | value :: values =>
    let tag := normalizeTag value
    if tag = "" ∨ toLowercase tag ∈ seen then normalizeTagsFrom toLowercase seen tags values
    else if tags.length + 1 = workspaceTagsMax then tags ++ [tag]
    else normalizeTagsFrom toLowercase (toLowercase tag :: seen) (tags ++ [tag]) values

def normalizeTags (toLowercase : String → String) (values : List String) : List String :=
  normalizeTagsFrom toLowercase [] [] values

namespace WorkspaceEnv

variable (E : WorkspaceEnv)

/-- The code and the text of an invalid request. -/
def invalidRequest (message : String) : String × String :=
  ("INVALID_REQUEST", (AppError.invalidRequest message).display)

/-- `validate_workspace_record` and `validate_workspace_directory_text`. -/
def validateWorkspaceRecord (workspace : WorkspaceRecord) : Except (String × String) String :=
  if trim workspace.name = "" then .error (invalidRequest "workspace name is required")
  else if trim workspace.path = "" then .error (invalidRequest "workspace path is required")
  else E.validateDirectory (trim workspace.path)

def stableWorkspaceId (path : String) : String :=
  "ws_" ++ hex ((E.primitives.sha256 (Bytes.ofString path)).take 12)

/-- A record under its canonical path. -/
def normalizeWorkspace (ownerId : Option String) (workspace : WorkspaceRecord) (path : String) :
    WorkspaceRecord :=
  let id := E.stableWorkspaceId path
  { workspace with
    path
    id
    tenantId := ownerId.getD workspace.tenantId
    sessionId := "cdxs_" ++ id
    threadId := ""
    localAdapterState := none
    groupId := normalizeGroupField workspace.groupId
    groupName := normalizeGroupField workspace.groupName
    groupTags := normalizeTags E.toLowercase workspace.groupTags
    tags := normalizeTags E.toLowercase workspace.tags }

/-- One record of the client. An older one does not replace a newer one of the same request. -/
def normalizeStep (ownerId : Option String) (normalized : NormalizedWorkspaces)
    (workspace : WorkspaceRecord) : NormalizedWorkspaces :=
  match E.validateWorkspaceRecord workspace with
  | .error (code, message) =>
    { normalized with
      rejected := normalized.rejected ++
        [{ id := workspace.id, name := workspace.name, path := workspace.path, code, message }] }
  | .ok path =>
    let workspace := E.normalizeWorkspace ownerId workspace path
    if (Keyed.get WorkspaceRecord.key normalized.workspaces workspace.key).any
        fun existing => existing.updatedAt > workspace.updatedAt then normalized
    else { normalized with
      workspaces := Keyed.insert WorkspaceRecord.key normalized.workspaces workspace }

def normalizeWorkspaces (workspaces : List WorkspaceRecord) (ownerId : Option String) :
    NormalizedWorkspaces :=
  workspaces.foldl (E.normalizeStep ownerId) { workspaces := [], rejected := [] }

end WorkspaceEnv

/-! ### Syncs -/

/-- How a call of the store ends. -/
inductive WorkspaceOutcome
  | completed
  /-- Dropped while it waits for the snapshot. -/
  | cancelled
  /-- The write fails, before or after the file is replaced. -/
  | writeFailed (replaced : Bool)
  /-- Dropped while the file is written. The write goes on without it. -/
  | dropped
  /-- Dropped while it reads the result. -/
  | droppedAfter
deriving DecidableEq, Repr

/-- What a call did. -/
structure WorkspaceCall where
  outcome : WorkspaceOutcome
  /-- The workspaces in memory before and after the call. -/
  before : List WorkspaceRecord
  after : List WorkspaceRecord
  /-- What a completed call wrote to the file. -/
  written : Option WorkspaceSnapshot
  /-- The workspaces that were stored and that no completed delete removed. -/
  owed : List (String × String)

structure WorkspaceState where
  current : WorkspaceSnapshot
  file : Option WorkspaceSnapshot
  /-- Writes of dropped calls, which may still come. -/
  late : List WorkspaceSnapshot
  owed : List (String × String)
  /-- Newest first. -/
  log : List WorkspaceCall

namespace WorkspaceState

/-- The store of a daemon that has loaded its file. -/
def load (snapshot : WorkspaceSnapshot) : WorkspaceState where
  current := snapshot
  file := some snapshot
  late := []
  owed := snapshot.workspaces.map WorkspaceRecord.key
  log := []

variable (self : WorkspaceState)

/-- The call ends with these workspaces in memory. -/
def ends (outcome : WorkspaceOutcome) (current : WorkspaceSnapshot) (file : Option WorkspaceSnapshot)
    (late : List WorkspaceSnapshot) (owed : List (String × String))
    (written : Option WorkspaceSnapshot) : WorkspaceState where
  current
  file
  late
  owed
  log := { outcome, before := self.current.workspaces, after := current.workspaces, written, owed } ::
    self.log

/-- A call writes its snapshot, while the memory holds `meanwhile`. -/
def write (outcome : WorkspaceOutcome) (meanwhile snapshot : WorkspaceSnapshot)
    (owed : List (String × String)) : WorkspaceState :=
  match outcome with
  | .completed => self.ends outcome snapshot (some snapshot) self.late owed (some snapshot)
  | .cancelled => self.ends outcome self.current self.file self.late self.owed none
  | .writeFailed true => self.ends outcome meanwhile (some snapshot) self.late self.owed none
  | .writeFailed false => self.ends outcome meanwhile self.file self.late self.owed none
  | .dropped => self.ends outcome meanwhile self.file (snapshot :: self.late) self.owed none
  | .droppedAfter => self.ends outcome snapshot (some snapshot) self.late self.owed none

/-- The map of a sync: the snapshot is drained into it and the records of the client are put in. -/
def merged (normalized : List WorkspaceRecord) : List WorkspaceRecord :=
  normalized.foldl (Keyed.insert WorkspaceRecord.key)
    (Keyed.ofList WorkspaceRecord.key self.current.workspaces)

/-- `merge_owned`. The snapshot has been drained when the file is written. -/
def mergeOwned (outcome : WorkspaceOutcome) (normalized workspaces : List WorkspaceRecord)
    (now : Nat) : WorkspaceState :=
  self.write outcome { self.current with workspaces := [] } { workspaces, updatedAt := now }
    (self.owed ++ normalized.map WorkspaceRecord.key)

/-- `delete_owned`. Without such a workspace, nothing is written. -/
def deleteOwned (outcome : WorkspaceOutcome) (ownerId workspaceId : String) (now : Nat) :
    WorkspaceState :=
  let workspaces := self.current.workspaces.filter fun workspace =>
    workspace.key ≠ (ownerId, workspaceId)
  let owed := self.owed.filter (· ≠ (ownerId, workspaceId))
  if workspaces.length = self.current.workspaces.length then
    self.ends outcome self.current self.file self.late self.owed none
  else
    self.write outcome { workspaces, updatedAt := now } { workspaces, updatedAt := now } owed

lemma log_write (outcome : WorkspaceOutcome) (meanwhile snapshot : WorkspaceSnapshot)
    (owed : List (String × String)) :
    ∃ call, (self.write outcome meanwhile snapshot owed).log = call :: self.log ∧ call.outcome = outcome := by
  unfold write
  split <;> exact ⟨_, rfl, rfl⟩

lemma log_deleteOwned (outcome : WorkspaceOutcome) (ownerId workspaceId : String) (now : Nat) :
    ∃ call, (self.deleteOwned outcome ownerId workspaceId now).log = call :: self.log ∧ call.outcome = outcome := by
  unfold deleteOwned
  dsimp only
  split
  · exact ⟨_, rfl, rfl⟩
  · exact self.log_write outcome _ _ _

end WorkspaceState

/-- The snapshot is under one lock, so calls come one after the other. The map gives its values in any
order; they are sorted by their time. -/
inductive WorkspaceStep (E : WorkspaceEnv) : WorkspaceState → WorkspaceState → Prop
  | merge {s : WorkspaceState} (outcome : WorkspaceOutcome) (ownerId : String)
      (records normalized workspaces : List WorkspaceRecord) (now : Nat)
      (hnormalized : normalized.Perm (E.normalizeWorkspaces records (some ownerId)).workspaces)
      (hworkspaces : workspaces.Perm (s.merged normalized))
      (hsorted : workspaces.Pairwise fun a b => b.updatedAt ≤ a.updatedAt) :
      WorkspaceStep E s (s.mergeOwned outcome normalized workspaces now)
  | delete {s : WorkspaceState} (outcome : WorkspaceOutcome) (ownerId workspaceId : String)
      (now : Nat) (houtcome : outcome ≠ .droppedAfter) :
      WorkspaceStep E s (s.deleteOwned outcome ownerId workspaceId now)
  /-- The write of a dropped call comes through. -/
  | late {s : WorkspaceState} (snapshot : WorkspaceSnapshot) (hlate : snapshot ∈ s.late) :
      WorkspaceStep E s { s with
        file := some snapshot
        late := s.late.erase snapshot }

/-- Any calls, each of which meets a condition. -/
inductive WorkspaceRun (E : WorkspaceEnv) (Meets : WorkspaceState → WorkspaceState → Prop) :
    WorkspaceState → WorkspaceState → Prop
  | refl (s : WorkspaceState) : WorkspaceRun E Meets s s
  | step {s t u : WorkspaceState} (run : WorkspaceRun E Meets s t) (step : WorkspaceStep E t u)
      (meets : Meets t u) : WorkspaceRun E Meets s u

/-! ### Nothing is lost -/

/-- A call that did not complete left the workspaces in memory as they were, and what a completed call
wrote has every workspace that no completed delete removed. -/
def LosesNothing (log : List WorkspaceCall) : Prop :=
  ∀ call ∈ log, (call.outcome ≠ .completed → call.after = call.before) ∧
    ∀ snapshot, call.written = some snapshot →
      ∀ key ∈ call.owed, key ∈ snapshot.workspaces.map WorkspaceRecord.key

/-- A call that comes to write its snapshot completes. -/
def WritesComplete (s t : WorkspaceState) : Prop :=
  ∀ call, t.log = call :: s.log → call.outcome = .completed ∨ call.outcome = .cancelled

/-- The memory has what is owed. -/
structure WorkspaceOk (s : WorkspaceState) : Prop where
  owed : ∀ key ∈ s.owed, key ∈ s.current.workspaces.map WorkspaceRecord.key
  log : LosesNothing s.log

namespace WorkspaceOk

lemma load (snapshot : WorkspaceSnapshot) : WorkspaceOk (.load snapshot) where
  owed := fun _ h => h
  log := nofun

lemma idle (h : WorkspaceOk s) (outcome : WorkspaceOutcome) :
    WorkspaceOk (s.ends outcome s.current s.file s.late s.owed none) where
  owed := h.owed
  log := by
    intro call hcall
    rcases List.mem_cons.mp hcall with rfl | hcall
    · exact ⟨fun _ => rfl, nofun⟩
    · exact h.log call hcall

/-- A write that completes with everything that is owed after it. -/
lemma write (h : WorkspaceOk s)
    {owed : List (String × String)} (ho : outcome = .completed ∨ outcome = .cancelled)
    (howed : ∀ key ∈ owed, key ∈ snapshot.workspaces.map WorkspaceRecord.key) :
    WorkspaceOk (s.write outcome meanwhile snapshot owed) := by
  rcases ho with rfl | rfl
  · refine ⟨howed, ?_⟩
    intro call hcall
    rcases List.mem_cons.mp hcall with rfl | hcall
    · refine ⟨fun hne => absurd rfl hne, ?_⟩
      rintro _ ⟨⟩
      exact howed
    · exact h.log call hcall
  · exact h.idle .cancelled

lemma merge (h : WorkspaceOk s) {outcome : WorkspaceOutcome} (ho : outcome = .completed ∨ outcome = .cancelled)
    {normalized workspaces : List WorkspaceRecord} (hw : workspaces.Perm (s.merged normalized))
    (now : Nat) : WorkspaceOk (s.mergeOwned outcome normalized workspaces now) := by
  apply h.write ho
  intro key hkey
  rw [(hw.map _).mem_iff, WorkspaceState.merged, Keyed.mem_keys_foldl_insert,
    Keyed.mem_keys_ofList]
  rcases List.mem_append.mp hkey with hkey | hkey
  · exact .inl (h.owed key hkey)
  · exact .inr hkey

lemma delete (h : WorkspaceOk s) {outcome : WorkspaceOutcome}
    (ho : outcome = .completed ∨ outcome = .cancelled) (ownerId workspaceId : String) (now : Nat) :
    WorkspaceOk (s.deleteOwned outcome ownerId workspaceId now) := by
  unfold WorkspaceState.deleteOwned
  dsimp only
  split
  · exact h.idle outcome
  · apply h.write ho
    intro key hkey
    obtain ⟨hmem, hne⟩ := List.mem_filter.mp hkey
    obtain ⟨workspace, hw, rfl⟩ := List.mem_map.mp (h.owed key hmem)
    exact List.mem_map_of_mem (List.mem_filter.mpr ⟨hw, hne⟩)

lemma step (h : WorkspaceOk s) (step : WorkspaceStep E s t) (meets : WritesComplete s t) : WorkspaceOk t := by
  cases step with
  | merge outcome ownerId records normalized workspaces now hn hw hs =>
    obtain ⟨call, hlog, rfl⟩ := s.log_write outcome _ _ _
    exact h.merge (meets call hlog) hw now
  | delete outcome ownerId workspaceId now =>
    obtain ⟨call, hlog, rfl⟩ := s.log_deleteOwned outcome ownerId workspaceId now
    exact h.delete (meets call hlog) ownerId workspaceId now
  | late snapshot hlate => exact ⟨h.owed, h.log⟩

end WorkspaceOk

/-- Over every sequence of syncs and deletes in which each call that comes to write its snapshot
completes: a call that was cancelled leaves the workspaces of every tenant as they were, and no call
writes a file that lacks a workspace which no completed delete removed. -/
theorem workspace_sync_loses_nothing (E : WorkspaceEnv) (snapshot : WorkspaceSnapshot)
    {s : WorkspaceState} (run : WorkspaceRun E WritesComplete (.load snapshot) s) : LosesNothing s.log := by
  have hok : WorkspaceOk s := by
    induction run with
    | refl => exact .load snapshot
    | step _ hstep hm ih => exact ih.step hstep hm
  exact hok.log

section Sync

/-- Every directory is a workspace. -/
def WorkspaceEnv.standard : WorkspaceEnv where
  primitives := .standard
  validateDirectory := .ok
  toLowercase := id

/-- A workspace with nothing but its place. -/
def plainWorkspace (tenantId id : String) : WorkspaceRecord where
  id
  name := id
  path := "/" ++ id
  sessionId := "cdxs_" ++ id
  tenantId
  threadId := ""
  model := "model"
  reasoningEffort := none
  approvalPolicy := "on-request"
  sandboxMode := "workspace-write"
  permissionProfile := none
  approvalsReviewer := none
  serviceTier := none
  localAdapterState := none
  icon := none
  iconColor := none
  ringStyle := none
  createdAt := 1
  updatedAt := 1
  sortOrder := none
  groupId := none
  groupName := none
  groupTags := []
  tags := []

def oneWorkspace : WorkspaceSnapshot where
  workspaces := [plainWorkspace "alice" "ws_1"]
  updatedAt := 1

/-- The write of a sync by one tenant fails. Then one that completes writes a file without the
workspace of the other. -/
theorem failed_sync_loses_workspaces :
    ∃ s, WorkspaceRun .standard (fun _ _ => True) (.load oneWorkspace) s ∧
      s.file = some { workspaces := [], updatedAt := 3 } ∧ ¬ LosesNothing s.log := by
  have h : WorkspaceRun .standard (fun _ _ => True) (.load oneWorkspace) _ := .refl _
  have h := h.step (.merge (.writeFailed false) "bob" [] [] [plainWorkspace "alice" "ws_1"] 2 (.refl _)
    (.refl _) (List.pairwise_singleton _ _)) trivial
  have h := h.step (.merge .completed "bob" [] [] [] 3 (.refl _) (.refl _) .nil) trivial
  refine ⟨_, h, rfl, ?_⟩
  intro hn
  have hw := (hn _ List.mem_cons_self).2 _ rfl ("alice", "ws_1") List.mem_cons_self
  cases hw

/-- The same syncs with a disk that takes the first write too. -/
theorem workspace_sync_loses_nothing_alice :
    ∃ s, WorkspaceRun .standard WritesComplete (.load oneWorkspace) s ∧
      s.file = some { workspaces := [plainWorkspace "alice" "ws_1"], updatedAt := 3 } ∧
      LosesNothing s.log := by
  have h : WorkspaceRun .standard WritesComplete (.load oneWorkspace) _ := .refl _
  have h := h.step (.merge .cancelled "bob" [] [] [plainWorkspace "alice" "ws_1"] 2 (.refl _) (.refl _)
    (List.pairwise_singleton _ _)) fun _ hlog => .inr ((List.cons.inj hlog).1 ▸ rfl)
  have h := h.step (.merge .completed "bob" [] [] [plainWorkspace "alice" "ws_1"] 3 (.refl _) (.refl _)
    (List.pairwise_singleton _ _)) fun _ hlog => .inl ((List.cons.inj hlog).1 ▸ rfl)
  exact ⟨_, h, rfl, workspace_sync_loses_nothing .standard oneWorkspace h⟩

end Sync

end Todex
