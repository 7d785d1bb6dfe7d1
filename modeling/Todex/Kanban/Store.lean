import Todex.Kanban.Model
import Todex.Lib.Keyed

/-!
# The kanban store

The tasks of all tenants are one snapshot in memory and one file. Clients merge their records into it
by time, the scheduler changes the schedules in it, and a restart loads the file and drops the records
that no longer pass the checks.
-/

namespace Todex

/-- `KANBAN_TASK_LIMIT_PER_TENANT`. -/
def kanbanTaskLimitPerTenant : Nat := 500

/-- `KANBAN_TOMBSTONE_RETENTION_MILLIS`. -/
def kanbanTombstoneRetentionMillis : Nat := 30 * 24 * 60 * 60 * 1000

/-! ### Client writes -/

/-- A write without a list keeps the stored one, with its single conversation in front. -/
def keptConversationIds (existing task : KanbanTaskRecord) : Option (List String) :=
  match task.conversationIds, existing.conversationIds with
  | none, some stored =>
    match task.conversationId with
    | some id => if id ∈ stored then some stored else some (id :: stored)
    | none => some stored
  | ids, _ => ids

/-- The scheduler owns the state of the stored schedule, and the write may not replace it. -/
def keepsStored (stored incoming : KanbanTaskSchedule) : Bool :=
  stored.status.backendOwned ∧ (incoming.id = stored.id ∨ stored.status = .running)

def mergedSchedule : Option KanbanTaskSchedule → Option KanbanTaskSchedule → Option KanbanTaskSchedule
  | some stored, some incoming => if keepsStored stored incoming then some stored else some incoming
  | some stored, none => some stored
  | none, incoming => incoming

/-- The conversation of a run that the client has not seen. -/
def unseenResult : Option KanbanTaskSchedule → Option KanbanTaskSchedule → Option String
  | some stored, some incoming =>
    if keepsStored stored incoming ∧ incoming.id = stored.id ∧ ¬ incoming.status.backendOwned then
      stored.resultConversationId
    else none
  | _, _ => none

def mergedConversationIds (existing task : KanbanTaskRecord) : Option (List String) :=
  match unseenResult existing.schedule task.schedule with
  | some id =>
    let ids := (keptConversationIds existing task).getD []
    some (if id ∈ ids then ids else ids ++ [id])
  | none => keptConversationIds existing task

/-- `merge_incoming`, field by field. The single conversation mirrors the first of the list. -/
def mergeIncoming (existing task : KanbanTaskRecord) : KanbanTaskRecord :=
  { task with
    conversationIds := mergedConversationIds existing task
    conversationId :=
      match mergedConversationIds existing task with
      | some ids => ids.head?
      | none => task.conversationId
    sortOrder := task.sortOrder.or existing.sortOrder
    parentId := task.parentId.or existing.parentId
    priority := task.priority.or existing.priority
    schedule := mergedSchedule existing.schedule task.schedule }

/-- The body of the loop of `merge_owned`: the newest write is kept. -/
def mergeTask (byId : List KanbanTaskRecord) (task : KanbanTaskRecord) : List KanbanTaskRecord :=
  match Keyed.get KanbanTaskRecord.key byId task.key with
  | some existing =>
    if existing.updatedAt > task.updatedAt then byId
    else Keyed.insert KanbanTaskRecord.key byId (mergeIncoming existing task)
  | none => Keyed.insert KanbanTaskRecord.key byId task

/-- The order of tasks, by time and id. -/
def KanbanTaskRecord.le (a b : KanbanTaskRecord) : Bool :=
  a.createdAt < b.createdAt ∨ (a.createdAt = b.createdAt ∧ a.id ≤ b.id)

def sortTasks (tasks : List KanbanTaskRecord) : List KanbanTaskRecord :=
  tasks.mergeSort KanbanTaskRecord.le

/-- A task that is not deleted, or not for long. -/
def retained (now : Nat) (task : KanbanTaskRecord) : Bool :=
  ∀ deletedAt ∈ task.deletedAt, now - deletedAt ≤ kanbanTombstoneRetentionMillis

def pruneTombstones (now : Nat) (tasks : List KanbanTaskRecord) : List KanbanTaskRecord :=
  tasks.filter (retained now)

def enforceTaskLimit (tasks : List KanbanTaskRecord) (ownerId : String) : Except AppError Unit :=
  .require ((tasks.filter fun task => task.tenantId = ownerId ∧ task.deletedAt = none).length ≤
      kanbanTaskLimitPerTenant)
    (.invalidRequest s!"kanban task limit of {kanbanTaskLimitPerTenant} reached")

namespace KanbanTaskSnapshot

variable (self : KanbanTaskSnapshot)

/-- The map of a merge. -/
def merged (incoming : List KanbanTaskRecord) : List KanbanTaskRecord :=
  incoming.foldl mergeTask (Keyed.ofList KanbanTaskRecord.key self.tasks)

/-- What a merge writes, from the values of its map. -/
def ofValues (values : List KanbanTaskRecord) (ownerId : String) (now : Nat) :
    Except AppError KanbanTaskSnapshot := do
  let tasks := pruneTombstones now (sortTasks values)
  enforceTaskLimit tasks ownerId
  return { tasks, updatedAt := now }

end KanbanTaskSnapshot

/-! ### Scheduler updates -/

structure RunOutcome where
  conversationId : String
  turnId : Option String
deriving DecidableEq, Repr

/-- The conversations of the task end with this one, unless they have it. -/
def addConversation (conversationId : String) (task : KanbanTaskRecord) : KanbanTaskRecord :=
  let ids := task.conversationIds.getD task.conversationId.toList
  let ids := if conversationId ∈ ids then ids else ids ++ [conversationId]
  { task with
    conversationIds := some ids
    conversationId := ids.head? }

/-- The closures that the scheduler gives to `update_schedule`. -/
inductive KanbanUpdate
  /-- `run_one` claims the schedule, or fails it because it was missed. -/
  | claim (missed : Bool) (firedAt : Nat)
  /-- `execute` records the conversation that it has started. -/
  | record (conversationId : String)
  /-- `finish` records how the run ended. -/
  | finish (outcome : Except String RunOutcome)

namespace KanbanUpdate

/-- The schedule of a claim. -/
def claimed (missed : Bool) (firedAt : Nat) (schedule : KanbanTaskSchedule) : KanbanTaskSchedule :=
  if missed then
    { schedule with
      firedAt := some firedAt
      status := .failed
      error := some "missed: the backend was not running at the scheduled time" }
  else { schedule with firedAt := some firedAt, status := .running }

/-- The task after the update, or nothing if there is nothing to change. -/
def apply (update : KanbanUpdate) (task : KanbanTaskRecord) : Option KanbanTaskRecord :=
  task.schedule.bind fun schedule =>
    match update with
    | claim missed firedAt =>
      if schedule.status ≠ .pending then none
      else some { task with schedule := some (claimed missed firedAt schedule) }
    | record conversationId =>
      some (addConversation conversationId
        { task with schedule := some { schedule with resultConversationId := some conversationId } })
    | finish (.ok run) =>
      some (addConversation run.conversationId
        { task with
          schedule := some { schedule with
            status := .done
            resultConversationId := some run.conversationId
            turnId := run.turnId
            error := none } })
    | finish (.error error) =>
      some { task with
        schedule := some { schedule with
          status := .failed
          error := some (takeChars kanbanScheduleErrorLimit error) } }

end KanbanUpdate

/-- The task is there and has this schedule. -/
def KanbanTaskRecord.carries (key : String × String) (scheduleId : String) (task : KanbanTaskRecord) :
    Bool :=
  task.key = key ∧ task.deletedAt = none ∧ ∃ schedule ∈ task.schedule, schedule.id = scheduleId

/-- The time of an update is newer than any copy that a client could hold; `u64` addition wraps. -/
def bumped (now : Nat) (task : KanbanTaskRecord) : KanbanTaskRecord :=
  { task with updatedAt := max now ((task.updatedAt + 1) % 2 ^ 64) }

/-- `update_schedule`: the place of the task, and the task before and after. Without a change, there
is nothing after. -/
def KanbanTaskSnapshot.updateSchedule (self : KanbanTaskSnapshot) (key : String × String)
    (scheduleId : String) (update : KanbanUpdate) (now : Nat) :
    Option (KanbanTaskRecord × Option (KanbanTaskRecord × KanbanTaskSnapshot)) := do
  let index ← self.tasks.findIdx? (·.carries key scheduleId)
  let task ← self.tasks[index]?
  return (task, (update.apply task).map fun updated =>
    (bumped now updated, { tasks := self.tasks.set index (bumped now updated), updatedAt := now }))

/-! ### The file -/

namespace KanbanEnv

variable (E : KanbanEnv)

/-- A task as it is read from the file. Texts and integers are read as they were written. -/
def readTask (task : KanbanTaskRecord) : Option KanbanTaskRecord :=
  match task.sortOrder with
  | none => some task
  | some n => (n.read E.float).map fun n => { task with sortOrder := some n }

/-- `load_snapshot`. A record that fails the checks is skipped. -/
def loadSnapshot (now : Nat) : Option KanbanTaskSnapshot → Option KanbanTaskSnapshot
  | none => some { tasks := [], updatedAt := 0 }
  | some snapshot => do
    let tasks ← snapshot.tasks.mapM E.readTask
    let tasks := tasks.filterMap fun task => (E.normalizeTask "" task).toOption
    return { snapshot with tasks := pruneTombstones now (sortTasks tasks) }

end KanbanEnv

/-- How the write of a snapshot ends. -/
inductive KanbanWrite
  | completed
  /-- The write fails, before or after the file is replaced. -/
  | failed (replaced : Bool)
deriving DecidableEq, Repr

/-- The snapshot in memory and the one in the file. -/
structure KanbanStore where
  current : KanbanTaskSnapshot
  file : Option KanbanTaskSnapshot
deriving DecidableEq

variable {snapshot : KanbanTaskSnapshot}

namespace KanbanStore

/-- No task has been stored. -/
def empty : KanbanStore where
  current := { tasks := [], updatedAt := 0 }
  file := none

/-- The memory changes only after the file. -/
def write (self : KanbanStore) (outcome : KanbanWrite) (snapshot : KanbanTaskSnapshot) : KanbanStore :=
  match outcome with
  | .completed => { current := snapshot, file := some snapshot }
  | .failed true => { self with file := some snapshot }
  | .failed false => self

/-- In memory or in the file. -/
def Holds (self : KanbanStore) (snapshot : KanbanTaskSnapshot) : Prop :=
  snapshot = self.current ∨ self.file = some snapshot

lemma Holds.of_empty (h : empty.Holds snapshot) : snapshot = { tasks := [], updatedAt := 0 } := by
  rcases h with h | h
  · exact h
  · cases h

lemma Holds.of_write {store : KanbanStore}
    (h : (store.write outcome snapshot).Holds held) : held = snapshot ∨ store.Holds held := by
  cases outcome with
  | completed =>
    rcases h with rfl | h
    · exact .inl rfl
    · cases h
      exact .inl rfl
  | failed replaced =>
    cases replaced with
    | false => exact .inr h
    | true =>
      rcases h with rfl | h
      · exact .inr (.inl rfl)
      · cases h
        exact .inl rfl

end KanbanStore

/-! ### Histories of the store -/

/-- An id of the conversation layer: a UUID, or a UUID behind `turn_`. -/
structure GeneratedId (id : String) : Prop where
  nonempty : id ≠ ""
  plain : ∀ c ∈ id.toList, isWhitespace c = false
  short : id.length ≤ kanbanScheduleFieldLimit

/-- The ids in an update come from the conversation layer. -/
def KanbanUpdate.Generated : KanbanUpdate → Prop
  | claim _ _ => True
  | record conversationId => GeneratedId conversationId
  | finish (.ok run) => GeneratedId run.conversationId ∧ ∀ turnId ∈ run.turnId, GeneratedId turnId
  | finish (.error _) => True

structure KanbanState where
  store : KanbanStore
  /-- The `updatedAt` that each scheduler update replaced, and the one that it stored. Newest first. -/
  updates : List (Nat × Nat)

/-- What a step does, as far as a condition on steps looks at it. -/
inductive KanbanCall
  | merge (incoming : List KanbanTaskRecord) (now : Nat)
  | update (task : KanbanTaskRecord) (update : KanbanUpdate)
  | restart

/-- Calls of the store come one after the other. The map of a merge gives its values in any order. -/
inductive KanbanStep (E : KanbanEnv) : KanbanCall → KanbanState → KanbanState → Prop
  | merge {s : KanbanState} (outcome : KanbanWrite) (ownerId : String)
      (records incoming values : List KanbanTaskRecord) (now : Nat) (snapshot : KanbanTaskSnapshot)
      (hincoming : E.normalizeTasks records ownerId = .ok incoming)
      (hvalues : values.Perm (s.store.current.merged incoming))
      (hsnapshot : KanbanTaskSnapshot.ofValues values ownerId now = .ok snapshot) :
      KanbanStep E (.merge incoming now) s { s with store := s.store.write outcome snapshot }
  | update {s : KanbanState} (outcome : KanbanWrite) (key : String × String) (scheduleId : String)
      (update : KanbanUpdate) (now : Nat) (task updated : KanbanTaskRecord)
      (snapshot : KanbanTaskSnapshot) (hgenerated : update.Generated)
      (hupdate : s.store.current.updateSchedule key scheduleId update now =
        some (task, some (updated, snapshot))) :
      KanbanStep E (.update task update) s
        { store := s.store.write outcome snapshot
          updates := (task.updatedAt, updated.updatedAt) :: s.updates }
  | restart {s : KanbanState} (now : Nat) (loaded : KanbanTaskSnapshot)
      (hloaded : E.loadSnapshot now s.store.file = some loaded) :
      KanbanStep E .restart s { s with store := { s.store with current := loaded } }

/-- Any calls and restarts, each of which meets a condition. -/
inductive KanbanRun (E : KanbanEnv) (Meets : KanbanCall → KanbanState → Prop) : KanbanState → KanbanState → Prop
  | refl (s : KanbanState) : KanbanRun E Meets s s
  | step {s t u : KanbanState} {call : KanbanCall} (run : KanbanRun E Meets s t) (step : KanbanStep E call t u)
      (meets : Meets call t) : KanbanRun E Meets s u

/-- The store of a new daemon. -/
def KanbanState.empty : KanbanState where
  store := .empty
  updates := []

/-! ### What is stored passes the checks -/

variable {E : KanbanEnv}

variable {id : String}

lemma GeneratedId.trimmed (h : GeneratedId id) : Trimmed id :=
  ⟨trim_eq_self h.plain, h.nonempty⟩

lemma GeneratedId.fieldOk (h : GeneratedId id) : FieldOk Short (some id) :=
  fieldOk_some h.trimmed h.short

lemma forall_mem_or {α : Type} {p : α → Prop} {o o' : Option α} (h : ∀ a ∈ o, p a)
    (h' : ∀ a ∈ o', p a) : ∀ a ∈ o.or o', p a := by
  cases o with
  | none => exact h'
  | some a => exact h

lemma FieldOk.or (h : FieldOk check value)
    (ho : FieldOk check other) : FieldOk check (value.or other) := by
  cases value with
  | none => exact ho
  | some text => exact h

variable {task : KanbanTaskRecord}

/-- The list of a task has unique ids, and its single conversation is trimmed. -/
lemma KanbanTaskOk.unique (h : KanbanTaskOk E task) : ∀ ids ∈ task.conversationIds, UniqueIds ids := by
  intro ids hids
  have hc := h.conversations
  rw [hids] at hc
  exact hc.1

lemma UniqueIds.push {ids : List String} (h : UniqueIds ids) (hid : Trimmed id) :
    UniqueIds (if id ∈ ids then ids else ids ++ [id]) := by
  split
  case isTrue => exact h
  case isFalse hnew => exact h.append hid hnew

variable {existing : KanbanTaskRecord}

lemma uniqueIds_keptConversationIds (he : KanbanTaskOk E existing)
    (htask : KanbanTaskOk E task) : ∀ ids ∈ keptConversationIds existing task, UniqueIds ids := by
  unfold keptConversationIds
  split
  case h_1 stored hnone hst =>
    have hu := he.unique stored hst
    split
    case h_1 id hid =>
      have hs := htask.conversations
      rw [hnone, hid] at hs
      split
      case isTrue =>
        rintro _ ⟨⟩
        exact hu
      case isFalse hnew =>
        rintro _ ⟨⟩
        exact hu.cons (trimmed_of_trimField hs) hnew
    case h_2 =>
      rintro _ ⟨⟩
      exact hu
  case h_2 => exact htask.unique

lemma trimmed_unseenResult (he : KanbanTaskOk E existing)
    (h : unseenResult existing.schedule task.schedule = some id) : Trimmed id := by
  unfold unseenResult at h
  split at h
  case h_1 stored incoming hs hi =>
    split at h
    case isTrue =>
      have hr := (he.schedule stored hs).resultConversationId
      rw [h] at hr
      exact trimmed_of_trimField hr.1
    case isFalse => cases h
  case h_2 => cases h

lemma uniqueIds_mergedConversationIds (he : KanbanTaskOk E existing) (htask : KanbanTaskOk E task) :
    ∀ ids ∈ mergedConversationIds existing task, UniqueIds ids := by
  have hkept := uniqueIds_keptConversationIds he htask
  unfold mergedConversationIds
  split
  case h_1 id hid =>
    rintro _ ⟨⟩
    apply UniqueIds.push _ (trimmed_unseenResult he hid)
    cases hids : keptConversationIds existing task with
    | none => exact .nil
    | some ids => exact hkept ids hids
  case h_2 => exact hkept

lemma conversationIds_eq_none (h : mergedConversationIds existing task = none) : task.conversationIds = none := by
  unfold mergedConversationIds at h
  split at h
  case h_1 => cases h
  case h_2 =>
    unfold keptConversationIds at h
    split at h
    case h_1 hnone _ => exact hnone
    case h_2 => exact h

lemma scheduleOk_mergedSchedule (hs : ∀ schedule ∈ stored, ScheduleOk E schedule)
    (hi : ∀ schedule ∈ incoming, ScheduleOk E schedule) :
    ∀ schedule ∈ mergedSchedule stored incoming, ScheduleOk E schedule := by
  unfold mergedSchedule
  split
  case h_1 =>
    split
    · exact hs
    · exact hi
  case h_2 => exact hs
  case h_3 => exact hi

lemma KanbanTaskOk.mergeIncoming (he : KanbanTaskOk E existing)
    (htask : KanbanTaskOk E task) (hkey : existing.key = task.key) : KanbanTaskOk E (mergeIncoming existing task) where
  __ := htask
  conversations := by
    have hu := uniqueIds_mergedConversationIds he htask
    unfold Todex.mergeIncoming
    dsimp only
    cases hids : mergedConversationIds existing task with
    | some ids => exact ⟨hu ids hids, rfl⟩
    | none =>
      have hs := htask.conversations
      rw [conversationIds_eq_none hids] at hs
      exact hs
  parentId := by
    have hid : existing.id = task.id := congrArg Prod.snd hkey
    have hp := he.parentId
    rw [hid] at hp
    exact htask.parentId.or hp
  priority := forall_mem_or htask.priority he.priority
  schedule := scheduleOk_mergedSchedule he.schedule htask.schedule

/-- Tasks that pass the checks, in order. -/
structure SnapshotOk (E : KanbanEnv) (snapshot : KanbanTaskSnapshot) : Prop where
  tasks : ∀ task ∈ snapshot.tasks, KanbanTaskOk E task
  sorted : snapshot.tasks.Pairwise fun a b => a.le b

lemma snapshotOk_nil (updatedAt : Nat) : SnapshotOk E { tasks := [], updatedAt } where
  tasks := by simp
  sorted := .nil

lemma kanbanTaskOk_mergeTask (hbyId : ∀ a ∈ byId, KanbanTaskOk E a) (htask : KanbanTaskOk E task) :
    ∀ a ∈ mergeTask byId task, KanbanTaskOk E a := by
  unfold mergeTask
  split
  case h_1 existing he =>
    split
    case isTrue => exact hbyId
    case isFalse =>
      intro a ha
      rcases Keyed.mem_insert.mp ha with rfl | ⟨ha, -⟩
      · exact (hbyId existing (Keyed.mem_of_get he)).mergeIncoming htask
          (Keyed.key_of_get he)
      · exact hbyId a ha
  case h_2 =>
    intro a ha
    rcases Keyed.mem_insert.mp ha with rfl | ⟨ha, -⟩
    · exact htask
    · exact hbyId a ha

lemma SnapshotOk.merged (h : SnapshotOk E snapshot) (hi : ∀ task ∈ incoming, KanbanTaskOk E task) :
    ∀ a ∈ snapshot.merged incoming, KanbanTaskOk E a := by
  refine List.foldlRecOn (motive := fun byId => ∀ a ∈ byId, KanbanTaskOk E a) incoming mergeTask ?_ ?_
  · intro a ha
    exact h.tasks a (Keyed.mem_of_mem_ofList ha)
  · intro byId hbyId task htask
    exact kanbanTaskOk_mergeTask hbyId (hi task htask)

lemma pairwise_sortTasks (tasks : List KanbanTaskRecord) : (sortTasks tasks).Pairwise fun a b => a.le b := by
  apply List.pairwise_mergeSort
  · intro a b c hab hbc
    simp only [KanbanTaskRecord.le, decide_eq_true_eq] at hab hbc ⊢
    rcases hab with hab | ⟨hab, hab'⟩
    · rcases hbc with hbc | ⟨hbc, -⟩
      · exact .inl (hab.trans hbc)
      · exact .inl (hbc ▸ hab)
    · rcases hbc with hbc | ⟨hbc, hbc'⟩
      · exact .inl (hab ▸ hbc)
      · exact .inr ⟨hab.trans hbc, hab'.trans hbc'⟩
  · intro a b
    simp only [KanbanTaskRecord.le, Bool.or_eq_true, decide_eq_true_eq]
    rcases lt_trichotomy a.createdAt b.createdAt with h | h | h
    · exact .inl (.inl h)
    · rcases le_total a.id b.id with hid | hid
      · exact .inl (.inr ⟨h, hid⟩)
      · exact .inr (.inr ⟨h.symm, hid⟩)
    · exact .inr (.inl h)

/-- Tasks that pass the checks, sorted and without old tombstones. -/
lemma snapshotOk_sortTasks (h : ∀ task ∈ tasks, KanbanTaskOk E task)
    (now updatedAt : Nat) : SnapshotOk E { tasks := pruneTombstones now (sortTasks tasks), updatedAt } where
  tasks := by
    intro task htask
    exact h task ((List.mergeSort_perm _ _).mem_iff.mp (List.mem_of_mem_filter htask))
  sorted := (pairwise_sortTasks tasks).filter _

lemma snapshotOk_ofValues (h : ∀ task ∈ values, KanbanTaskOk E task)
      (hs : KanbanTaskSnapshot.ofValues values ownerId now = .ok snapshot) :
    SnapshotOk E snapshot := by
  obtain ⟨_, -, hok⟩ := Except.bind_eq_ok.mp hs
  cases hok
  exact snapshotOk_sortTasks h now now

lemma kanbanTaskOk_normalizeTasks {records incoming : List KanbanTaskRecord} {ownerId : String}
    (h : E.normalizeTasks records ownerId = .ok incoming) : ∀ task ∈ incoming, KanbanTaskOk E task := by
  refine Except.forall_mem_of_mapM ?_ h
  intro record _ task htask
  exact (kanbanTaskOk_normalizeTask htask).1

/-! #### Scheduler updates -/

lemma KanbanTaskOk.addConversation (h : KanbanTaskOk E task)
    (hid : Trimmed id) : KanbanTaskOk E (addConversation id task) := by
  have hu : UniqueIds (task.conversationIds.getD task.conversationId.toList) := by
    have hc := h.conversations
    cases hids : task.conversationIds with
    | some ids => exact h.unique ids hids
    | none =>
      rw [hids] at hc
      cases hs : task.conversationId with
      | none => exact .nil
      | some single =>
        rw [hs] at hc
        exact UniqueIds.nil.cons (trimmed_of_trimField hc) List.not_mem_nil
  exact { h with conversations := ⟨hu.push hid, rfl⟩ }

variable {updated : KanbanTaskRecord}

/-- An update changes a schedule into one that passes the checks. -/
lemma KanbanTaskOk.apply (h : KanbanTaskOk E task) {update : KanbanUpdate}
    (hg : update.Generated) (hu : update.apply task = some updated) : KanbanTaskOk E updated := by
  obtain ⟨schedule, hs, hu⟩ := Option.bind_eq_some_iff.mp hu
  have hok := h.schedule schedule hs
  have hset : ∀ other, ScheduleOk E other → KanbanTaskOk E { task with schedule := some other } := by
    intro other ho
    refine { h with schedule := ?_ }
    rintro _ ⟨⟩
    exact ho
  cases update with
  | claim missed firedAt =>
    dsimp only at hu
    split at hu
    case isTrue => cases hu
    case isFalse =>
      cases hu
      apply hset
      unfold KanbanUpdate.claimed
      split
      · refine { hok with error := ?_ }
        rintro _ ⟨⟩
        decide
      · exact { hok with }
  | record conversationId =>
    cases hu
    apply KanbanTaskOk.addConversation _ hg.trimmed
    apply hset
    exact { hok with resultConversationId := hg.fieldOk }
  | finish outcome =>
    cases outcome with
    | ok run =>
      cases hu
      obtain ⟨hid, hturn⟩ := hg
      apply KanbanTaskOk.addConversation _ hid.trimmed
      apply hset
      refine { hok with resultConversationId := hid.fieldOk, turnId := ?_, error := nofun }
      cases hrun : run.turnId with
      | none => exact fieldOk_none
      | some turnId => exact (hturn turnId hrun).fieldOk
    | error error =>
      cases hu
      apply hset
      refine { hok with error := ?_ }
      rintro _ ⟨⟩
      exact length_takeChars_le _ error

/-- The place of an update: what it finds there, and what it puts there. -/
lemma updateSchedule_eq_some
    (h : snapshot.updateSchedule key scheduleId update now = some (task, some (updated, next))) :
    ∃ (index : Nat) (hi : index < snapshot.tasks.length) (changed : KanbanTaskRecord),
      snapshot.tasks[index] = task ∧ task.carries key scheduleId ∧ update.apply task = some changed ∧
        updated = bumped now changed ∧ next = { tasks := snapshot.tasks.set index updated, updatedAt := now } := by
  obtain ⟨index, hi, h⟩ := Option.bind_eq_some_iff.mp h
  obtain ⟨found, hf, h⟩ := Option.bind_eq_some_iff.mp h
  obtain ⟨hlt, hc, -⟩ := List.findIdx?_eq_some_iff_getElem.mp hi
  rw [List.getElem?_eq_getElem hlt] at hf
  cases hf
  obtain ⟨rfl, h⟩ := Prod.ext_iff.mp (Option.some.inj h)
  obtain ⟨changed, hch, h⟩ := Option.map_eq_some_iff.mp h
  obtain ⟨rfl, rfl⟩ := Prod.ext_iff.mp h
  exact ⟨index, hlt, changed, rfl, hc, hch, rfl, rfl⟩

lemma KanbanUpdate.apply_frame {update : KanbanUpdate} (h : update.apply task = some changed) :
    changed.key = task.key ∧ changed.createdAt = task.createdAt ∧ changed.updatedAt = task.updatedAt ∧
      changed.sortOrder = task.sortOrder := by
  obtain ⟨schedule, -, h⟩ := Option.bind_eq_some_iff.mp h
  cases update with
  | claim missed firedAt =>
    dsimp only at h
    split at h
    · cases h
    · cases h
      exact ⟨rfl, rfl, rfl, rfl⟩
  | record conversationId =>
    cases h
    exact ⟨rfl, rfl, rfl, rfl⟩
  | finish outcome =>
    cases outcome <;> cases h <;> exact ⟨rfl, rfl, rfl, rfl⟩

/-- A list in which one element gives way to one that looks the same. -/
lemma map_set_of_eq {α β : Type} {f : α → β} {l : List α} {index : Nat} (hi : index < l.length)
    {a : α} (ha : f a = f l[index]) : (l.set index a).map f = l.map f := by
  rw [List.map_set, ha, ← List.getElem_map f]
  · exact List.set_getElem_self _
  · simpa using hi

lemma SnapshotOk.update {next : KanbanTaskSnapshot} (h : SnapshotOk E snapshot)
    {key : String × String} {scheduleId : String} {update : KanbanUpdate} (hg : update.Generated) {now : Nat}
    (hu : snapshot.updateSchedule key scheduleId update now = some (task, some (updated, next))) :
    SnapshotOk E next := by
  obtain ⟨index, hi, changed, rfl, -, hc, rfl, rfl⟩ := updateSchedule_eq_some hu
  obtain ⟨hkey, hcr, -, -⟩ := KanbanUpdate.apply_frame hc
  have hok := (h.tasks _ (List.getElem_mem hi)).apply hg hc
  constructor
  · intro task htask
    rcases List.mem_or_eq_of_mem_set htask with htask | rfl
    · exact h.tasks task htask
    · exact { hok with }
  · -- the order looks at fields that the update leaves alone
    have hp : ∀ tasks : List KanbanTaskRecord, (tasks.Pairwise fun a b => a.le b) ↔
        (tasks.map fun a => (a.createdAt, a.id)).Pairwise fun a b =>
          a.1 < b.1 ∨ (a.1 = b.1 ∧ a.2 ≤ b.2) := by
      intro tasks
      simp only [List.pairwise_map, KanbanTaskRecord.le, decide_eq_true_eq]
    have hid : changed.id = snapshot.tasks[index].id := congrArg Prod.snd hkey
    rw [hp, map_set_of_eq hi, ← hp]
    · exact h.sorted
    · exact Prod.ext hcr hid

/-! ### The file is read as it was written -/

/-- What is loaded passes the checks, those of its conversations too. -/
lemma snapshotOk_loadSnapshot {loaded : KanbanTaskSnapshot} (h : E.loadSnapshot now file = some loaded) :
    SnapshotOk E loaded ∧ ∀ task ∈ loaded.tasks, ConversationsFit task := by
  cases file with
  | none =>
    cases h
    exact ⟨snapshotOk_nil 0, by simp⟩
  | some snapshot =>
    obtain ⟨tasks, -, h⟩ := Option.bind_eq_some_iff.mp h
    cases h
    have hkept : ∀ task ∈ tasks.filterMap fun task => (E.normalizeTask "" task).toOption,
        KanbanTaskOk E task ∧ ConversationsFit task := by
      intro task htask
      obtain ⟨read, -, hread⟩ := List.mem_filterMap.mp htask
      exact kanbanTaskOk_normalizeTask (Except.eq_ok_of_toOption hread)
    refine ⟨snapshotOk_sortTasks (fun task htask => (hkept task htask).1) _ _, ?_⟩
    intro task htask
    exact (hkept task ((List.mergeSort_perm _ _).mem_iff.mp (List.mem_of_mem_filter htask))).2

/-- The task is read as it was written. -/
def ReadsBack (E : KanbanEnv) (task : KanbanTaskRecord) : Prop := E.readTask task = some task

lemma readsBack_iff : ReadsBack E task ↔ ∀ n ∈ task.sortOrder, n.read E.float = some n := by
  unfold ReadsBack KanbanEnv.readTask
  split
  case h_1 hn => simp [hn]
  case h_2 n hn =>
    constructor
    · intro h m hm
      obtain ⟨k, hk, hkt⟩ := Option.map_eq_some_iff.mp h
      have hs : some k = task.sortOrder := congrArg KanbanTaskRecord.sortOrder hkt
      rw [← hs] at hn hm
      cases hn
      cases hm
      exact hk
    · intro h
      rw [h n hn, Option.map_some, ← hn]

lemma mapM_readTask {tasks : List KanbanTaskRecord} (h : ∀ task ∈ tasks, ReadsBack E task) :
    tasks.mapM E.readTask = some tasks := by
  induction tasks with
  | nil => rfl
  | cons task tasks ih =>
    rw [List.mapM_cons, h task List.mem_cons_self, ih fun a ha => h a (List.mem_cons_of_mem _ ha)]
    rfl

/-- A snapshot whose tasks fit is loaded without its old tombstones, and otherwise as it is. -/
lemma SnapshotOk.loadSnapshot (h : SnapshotOk E snapshot)
    (hfit : ∀ task ∈ snapshot.tasks, ConversationsFit task ∧ ReadsBack E task) (now : Nat) :
    E.loadSnapshot now (some snapshot) = some { snapshot with tasks := pruneTombstones now snapshot.tasks } := by
  have hn : snapshot.tasks.filterMap (fun task => (E.normalizeTask "" task).toOption) =
      snapshot.tasks := by
    conv_rhs => rw [← List.filterMap_some (l := snapshot.tasks)]
    apply List.filterMap_congr
    intro task htask
    rw [(h.tasks task htask).normalizeTask (hfit task htask).1]
    rfl
  have hs : sortTasks snapshot.tasks = snapshot.tasks := List.mergeSort_of_pairwise h.sorted
  rw [KanbanEnv.loadSnapshot, mapM_readTask fun task htask => (hfit task htask).2]
  change some _ = some _
  rw [hn, hs]

/-- What a merge makes of the stored tasks and the records has, old tombstones aside, at most a hundred conversations
of at most 128 bytes in a task and orders that read back. An update adds no conversation beyond that, and does not
meet the largest time. -/
def KanbanFits (E : KanbanEnv) : KanbanCall → KanbanState → Prop
  | .merge incoming now, s =>
    ∀ task ∈ s.store.current.merged incoming, retained now task → ConversationsFit task ∧ ReadsBack E task
  | .update task update, _ => task.updatedAt + 1 < 2 ^ 64 ∧ ∀ changed ∈ update.apply task, ConversationsFit changed
  | .restart, _ => True

/-- A snapshot that is loaded as it was written. -/
structure SnapshotFits (E : KanbanEnv) (snapshot : KanbanTaskSnapshot) : Prop extends SnapshotOk E snapshot where
  fits : ∀ task ∈ snapshot.tasks, ConversationsFit task ∧ ReadsBack E task

lemma SnapshotOk.ofValues (h : SnapshotOk E snapshot) (hi : ∀ task ∈ incoming, KanbanTaskOk E task)
    (hv : values.Perm (snapshot.merged incoming))
    (hf : ∀ task ∈ snapshot.merged incoming, retained now task → ConversationsFit task ∧ ReadsBack E task)
    (hs : KanbanTaskSnapshot.ofValues values ownerId now = .ok next) : SnapshotFits E next where
  toSnapshotOk := snapshotOk_ofValues (fun task htask => h.merged hi task (hv.mem_iff.mp htask)) hs
  fits := by
    obtain ⟨_, -, hok⟩ := Except.bind_eq_ok.mp hs
    cases hok
    intro task htask
    obtain ⟨htask, hr⟩ := List.mem_filter.mp htask
    exact hf task (hv.mem_iff.mp ((List.mergeSort_perm _ _).mem_iff.mp htask)) hr

lemma SnapshotFits.update {next : KanbanTaskSnapshot} (h : SnapshotFits E snapshot)
    {key : String × String} {scheduleId : String} {update : KanbanUpdate} (hg : update.Generated) {now : Nat}
    (hf : ∀ changed ∈ update.apply task, ConversationsFit changed)
    (hu : snapshot.updateSchedule key scheduleId update now = some (task, some (updated, next))) :
    SnapshotFits E next where
  toSnapshotOk := h.toSnapshotOk.update hg hu
  fits := by
    obtain ⟨index, hi, changed, rfl, -, hc, rfl, rfl⟩ := updateSchedule_eq_some hu
    obtain ⟨-, -, -, hs⟩ := KanbanUpdate.apply_frame hc
    intro task htask
    rcases List.mem_or_eq_of_mem_set htask with htask | rfl
    · exact h.fits task htask
    · -- the update leaves the order of the task alone
      refine ⟨hf changed hc, readsBack_iff.mpr ?_⟩
      dsimp only [bumped]
      rw [hs]
      exact readsBack_iff.mp (h.fits _ (List.getElem_mem hi)).2

lemma SnapshotFits.loaded {loaded : KanbanTaskSnapshot} (h : ∀ snapshot, file = some snapshot → SnapshotFits E snapshot)
    (hl : E.loadSnapshot now file = some loaded) : SnapshotFits E loaded where
  toSnapshotOk := (snapshotOk_loadSnapshot hl).1
  fits := by
    intro task htask
    refine ⟨(snapshotOk_loadSnapshot hl).2 task htask, ?_⟩
    cases file with
    | none =>
      cases hl
      cases htask
    | some snapshot =>
      have hs := h snapshot rfl
      rw [hs.loadSnapshot hs.fits] at hl
      cases hl
      exact (hs.fits task (List.mem_of_mem_filter htask)).2

lemma KanbanStep.snapshotFits {s t : KanbanState} (step : KanbanStep E call s t) (meets : KanbanFits E call s)
    (h : ∀ snapshot, s.store.Holds snapshot → SnapshotFits E snapshot) :
    ∀ snapshot, t.store.Holds snapshot → SnapshotFits E snapshot := by
  cases step with
  | merge outcome ownerId records incoming values now snapshot hi hv hs =>
    intro held hheld
    rcases hheld.of_write with rfl | hheld
    · exact (h _ (.inl rfl)).ofValues (kanbanTaskOk_normalizeTasks hi) hv meets hs
    · exact h held hheld
  | update outcome key scheduleId update now task updated snapshot hg hu =>
    intro held hheld
    rcases hheld.of_write with rfl | hheld
    · exact (h _ (.inl rfl)).update hg meets.2 hu
    · exact h held hheld
  | restart now loaded hl =>
    rintro held (rfl | hheld)
    · exact .loaded (fun snapshot hs => h snapshot (.inr hs)) hl
    · exact h held (.inr hheld)

/-- Every snapshot is loaded as it was written, but for old tombstones, and every update of the
scheduler stores a later time. -/
structure KanbanSurvives (E : KanbanEnv) (s : KanbanState) : Prop where
  load : ∀ snapshot, s.store.Holds snapshot → ∀ now,
    E.loadSnapshot now (some snapshot) =
      some { snapshot with tasks := pruneTombstones now snapshot.tasks }
  later : ∀ entry ∈ s.updates, entry.1 < entry.2

lemma KanbanStep.later (step : KanbanStep E call s t) (meets : KanbanFits E call s)
    (h : ∀ entry ∈ s.updates, entry.1 < entry.2) : ∀ entry ∈ t.updates, entry.1 < entry.2 := by
  cases step with
  | merge => exact h
  | update outcome key scheduleId update now task updated snapshot hg hup =>
    rintro entry (_ | ⟨_, he⟩)
    · obtain ⟨index, hi, changed, -, -, hc, rfl, -⟩ := updateSchedule_eq_some hup
      obtain ⟨-, -, hu, -⟩ := KanbanUpdate.apply_frame hc
      dsimp only [bumped]
      rw [hu, Nat.mod_eq_of_lt meets.1]
      exact Nat.lt_of_lt_of_le (Nat.lt_succ_self _) (le_max_right _ _)
    · exact h entry he
  | restart => exact h

/-- Over every sequence of merges, scheduler updates and restarts in which no call makes a task with
more conversations, or longer ids, than the checks allow: the file is loaded as it was written, and
updates store later and later times. -/
theorem kanban_snapshot_survives_restart (E : KanbanEnv) {s : KanbanState}
    (run : KanbanRun E (KanbanFits E) .empty s) : KanbanSurvives E s := by
  have hok : (∀ snapshot, s.store.Holds snapshot → SnapshotFits E snapshot) ∧
      ∀ entry ∈ s.updates, entry.1 < entry.2 := by
    induction run with
    | refl =>
      refine ⟨?_, by simp [KanbanState.empty]⟩
      intro snapshot hheld
      rw [hheld.of_empty]
      exact ⟨snapshotOk_nil 0, by simp⟩
    | step _ hstep hm ih => exact ⟨hstep.snapshotFits hm ih.1, hstep.later hm ih.2⟩
  exact ⟨fun snapshot hheld now => (hok.1 snapshot hheld).loadSnapshot (hok.1 snapshot hheld).fits now, hok.2⟩

variable {schedule : Option KanbanTaskSchedule} {conversationId : Option String}

section Grown

/-- Every text is a time. -/
def KanbanEnv.standard : KanbanEnv where
  parseNaive _ := some 0
  float := some

/-- A task with nothing but its conversations and its schedule. -/
def plainKanbanTask (conversationId : Option String) (conversationIds : Option (List String))
    (schedule : Option KanbanTaskSchedule) (updatedAt : Nat) : KanbanTaskRecord where
  id := "task"
  tenantId := "alice"
  workspaceId := "task"
  title := "task"
  description := none
  dueDate := none
  status := "planned"
  conversationId
  conversationIds
  sortOrder := none
  parentId := none
  priority := none
  schedule
  createdAt := 1
  updatedAt
  deletedAt := none

lemma kanbanTaskOk_plainKanbanTask (hc : ConversationsOk conversationId conversationIds)
    (hs : ∀ s ∈ schedule, ScheduleOk E s) :
    KanbanTaskOk E (plainKanbanTask conversationId conversationIds schedule updatedAt) := by
  have ht : Trimmed "task" := ⟨trim_eq_self (by simp [isWhitespace]), by simp⟩
  have hl : "task".length ≤ kanbanTaskTitleLimit := by decide +kernel
  have hst : "planned" ∈ validStatuses := by decide
  exact {
    id := ht
    workspaceId := ht
    title := ⟨ht, hl⟩
    description := fieldOk_none
    status := hst
    dueDate := fieldOk_none
    conversations := hc
    parentId := fieldOk_none
    priority := nofun
    schedule := hs }

/-- The task of one tenant in the store. -/
def plainSnapshot (task : KanbanTaskRecord) (now : Nat) : KanbanTaskSnapshot where
  tasks := [task]
  updatedAt := now

lemma ofValues_plainKanbanTask (conversationId : Option String) (conversationIds : Option (List String))
    (schedule : Option KanbanTaskSchedule) (updatedAt now : Nat) :
    KanbanTaskSnapshot.ofValues [plainKanbanTask conversationId conversationIds schedule updatedAt] "alice" now =
      .ok (plainSnapshot (plainKanbanTask conversationId conversationIds schedule updatedAt) now) := by
  simp [KanbanTaskSnapshot.ofValues, sortTasks, pruneTombstones, retained, enforceTaskLimit, plainKanbanTask,
    plainSnapshot, Except.require, kanbanTaskLimitPerTenant]

lemma normalizeTasks_plainKanbanTask (hc : ConversationsOk conversationId conversationIds)
    (hfit : ∀ ids ∈ conversationIds, IdsFit ids) (hs : ∀ s ∈ schedule, ScheduleOk E s) :
    E.normalizeTasks [plainKanbanTask conversationId conversationIds schedule updatedAt] "alice" =
      .ok [plainKanbanTask conversationId conversationIds schedule updatedAt] := by
  rw [KanbanEnv.normalizeTasks, List.mapM_cons,
    (kanbanTaskOk_plainKanbanTask hc hs).normalizeTask hfit]
  rfl

lemma merged_plainKanbanTask (existing : KanbanTaskRecord) (hkey : existing.key = ("alice", "task"))
    (conversationId : Option String) (conversationIds : Option (List String))
    (schedule : Option KanbanTaskSchedule) (updatedAt now : Nat) (hl : existing.updatedAt ≤ updatedAt) :
    (plainSnapshot existing now).merged [plainKanbanTask conversationId conversationIds schedule updatedAt] =
      [mergeIncoming existing (plainKanbanTask conversationId conversationIds schedule updatedAt)] := by
  have htask : (plainKanbanTask conversationId conversationIds schedule updatedAt).key = ("alice", "task") := rfl
  have hm : (mergeIncoming existing
    (plainKanbanTask conversationId conversationIds schedule updatedAt)).key = ("alice", "task") := rfl
  simp [KanbanTaskSnapshot.merged, plainSnapshot, Keyed.ofList, Keyed.insert, Keyed.get, mergeTask, hkey,
    htask, hm, show (plainKanbanTask conversationId conversationIds schedule updatedAt).updatedAt = updatedAt from rfl,
    Nat.not_lt.mpr hl]

/-- An id of some length. -/
def plainId (length : Nat) : String := String.ofList (List.replicate length 'a')

lemma trimField_plainId (hpos : length ≠ 0) : trimField (some (plainId length)) = some (plainId length) := by
  have hp : ∀ c ∈ (plainId length).toList, isWhitespace c = false := by
    intro c hc
    rw [plainId, String.toList_ofList] at hc
    rw [List.eq_of_mem_replicate hc]
    decide
  exact trimField_some (trim_eq_self hp) (by simpa [plainId] using hpos)

lemma utf8ByteSize_plainId (length : Nat) : (plainId length).utf8ByteSize = length := by
  have hsize : 'a'.utf8Size = 1 := rfl
  simp [plainId, String.utf8ByteSize, List.utf8Encode, hsize]

lemma mergeIncoming_single (id : String) (schedule : Option KanbanTaskSchedule) :
    mergeIncoming (plainKanbanTask none (some []) schedule 1) (plainKanbanTask (some id) none none 2) =
      plainKanbanTask (some id) (some [id]) schedule 2 := by
  cases schedule <;> simp [mergeIncoming, mergedConversationIds, unseenResult, keptConversationIds,
    mergedSchedule, plainKanbanTask]

/-- A store whose file is as the memory. -/
def KanbanState.written (snapshot : KanbanTaskSnapshot) (updates : List (Nat × Nat)) : KanbanState where
  store := {
    current := snapshot
    file := some snapshot }
  updates

lemma run_single (hid : trimField (some id) = some id) (hs : ∀ s ∈ schedule, ScheduleOk .standard s)
    (hfirst : ∀ s incoming now, s.store.current.merged incoming = [plainKanbanTask none (some []) schedule 1] →
      Meets (.merge incoming now) s)
    (hsecond : ∀ s incoming now, s.store.current.merged incoming = [plainKanbanTask (some id) (some [id]) schedule 2] →
      Meets (.merge incoming now) s) :
    KanbanRun .standard Meets .empty
      (.written (plainSnapshot (plainKanbanTask (some id) (some [id]) schedule 2) 2) []) := by
  have hfit : ∀ ids ∈ some ([] : List String), IdsFit ids := by
    rintro _ ⟨⟩
    exact ⟨Nat.zero_le _, by simp⟩
  have hm := merged_plainKanbanTask (plainKanbanTask none (some []) schedule 1) rfl (some id) none none 2 1
    (Nat.le_succ 1)
  rw [mergeIncoming_single] at hm
  have h : KanbanRun .standard Meets .empty _ := .refl _
  have h := h.step (.merge .completed "alice" [plainKanbanTask none (some []) schedule 1] _ _ 1 _
    (normalizeTasks_plainKanbanTask ⟨.nil, rfl⟩ hfit hs) (.refl _)
    (ofValues_plainKanbanTask none (some []) schedule 1 1)) (hfirst _ _ _ rfl)
  exact h.step (.merge .completed "alice" [plainKanbanTask (some id) none none 2] _ _ 2 _
    (normalizeTasks_plainKanbanTask hid (by simp) (by simp)) (.of_eq hm.symm)
    (ofValues_plainKanbanTask (some id) (some [id]) schedule 2 2)) (hsecond _ _ _ hm)

/-- A client that knows only the single conversation sends a long one, which goes in front of the stored
list. The file has the task, and a restart drops it. -/
theorem long_conversation_drops_task :
    ∃ s, KanbanRun .standard (fun _ _ => True) .empty s ∧
      s.store.file = some (plainSnapshot (plainKanbanTask (some (plainId 129)) (some [plainId 129]) none 2) 2) ∧
      ¬ KanbanSurvives .standard s := by
  refine ⟨_, run_single (trimField_plainId (by decide)) (by simp) (fun _ _ _ _ => trivial)
    fun _ _ _ _ => trivial, rfl, ?_⟩
  intro hs
  have hload := hs.load _ (.inl rfl) 0
  have hfit := (snapshotOk_loadSnapshot hload).2 (plainKanbanTask (some (plainId 129)) (some [plainId 129]) none 2)
    List.mem_cons_self
  have hids := (hfit [plainId 129] rfl).2 (plainId 129) List.mem_cons_self
  rw [utf8ByteSize_plainId] at hids
  exact absurd hids (by decide)

/-- A schedule with nothing but its id and its state. -/
def plainSchedule (id : String) (status : KanbanScheduleStatus) : KanbanTaskSchedule where
  id
  atTime := "now"
  action := .start
  conversationId := none
  text := "text"
  provider := none
  providerProfile := none
  model := none
  reasoningEffort := none
  permissionMode := none
  workMode := none
  status
  firedAt := none
  resultConversationId := none
  turnId := none
  error := none

/-- An id that a client may choose for a schedule. -/
def ScheduleIdOk (id : String) : Prop :=
  Trimmed id ∧ id.utf8ByteSize ≤ kanbanIdLimit ∧ ∀ c ∈ id.toList, isScheduleIdChar c

lemma scheduleIdOk_run : ScheduleIdOk "run" :=
  ⟨⟨trim_eq_self (by simp [isWhitespace]), by simp⟩, by decide +kernel, by simp [isScheduleIdChar]⟩

lemma scheduleOk_plainSchedule (hid : ScheduleIdOk id) (status : KanbanScheduleStatus) :
    ScheduleOk .standard (plainSchedule id status) := by
  have hat : trim "now" = "now" := trim_eq_self (by simp [isWhitespace])
  have htext : Trimmed "text" ∧ "text".length ≤ kanbanScheduleTextLimit :=
    ⟨⟨trim_eq_self (by simp [isWhitespace]), by simp⟩, by decide +kernel⟩
  exact {
    id := hid
    atTime := ⟨hat, rfl⟩
    text := htext
    conversationId := fieldOk_none
    provider := fieldOk_none
    providerProfile := fieldOk_none
    model := fieldOk_none
    reasoningEffort := fieldOk_none
    permissionMode := fieldOk_none
    workMode := fieldOk_none
    resultConversationId := fieldOk_none
    turnId := fieldOk_none
    send := nofun
    error := nofun }

lemma kanbanFits_merge {s : KanbanState} (hfit : ∀ ids ∈ conversationIds, IdsFit ids)
    (hm : s.store.current.merged incoming = [plainKanbanTask conversationId conversationIds schedule updatedAt]) :
    KanbanFits .standard (.merge incoming now) s := by
  intro task htask _
  rw [hm] at htask
  rw [List.mem_singleton.mp htask]
  exact ⟨hfit, rfl⟩

/-- The same writes with an id that fits, and then the scheduler claims the task. -/
theorem kanban_snapshot_survives_restart_claim :
    ∃ s, KanbanRun .standard (KanbanFits .standard) .empty s ∧ s.updates = [(2, 3)] ∧ KanbanSurvives .standard s := by
  have hlist : ∀ ids ∈ some [plainId 128], IdsFit ids := by
    rintro _ ⟨⟩
    refine ⟨by decide, ?_⟩
    intro id hid
    rw [List.mem_singleton.mp hid, utf8ByteSize_plainId]
    exact Nat.le_refl _
  have hnil : ∀ ids ∈ some ([] : List String), IdsFit ids := by
    rintro _ ⟨⟩
    exact ⟨Nat.zero_le _, by simp⟩
  have hs : ∀ s ∈ some (plainSchedule "run" .pending), ScheduleOk .standard s := by
    rintro _ ⟨⟩
    exact scheduleOk_plainSchedule scheduleIdOk_run .pending
  have h : KanbanRun .standard (KanbanFits .standard) .empty
      (.written (plainSnapshot (plainKanbanTask (some (plainId 128)) (some [plainId 128])
        (some (plainSchedule "run" .pending)) 2) 2) []) :=
    run_single (trimField_plainId (by decide)) hs
      (fun _ _ _ hm => kanbanFits_merge hnil hm) fun _ _ _ hm => kanbanFits_merge hlist hm
  have h := h.step (.update .completed ("alice", "task") "run" (.claim false 5) 3 _ _
    (plainSnapshot (plainKanbanTask (some (plainId 128)) (some [plainId 128])
      (some { plainSchedule "run" .running with firedAt := some 5 }) 3) 3) trivial rfl)
    ⟨by decide, ?_⟩
  · exact ⟨_, h, rfl, kanban_snapshot_survives_restart .standard h⟩
  · rintro changed ⟨⟩
    exact hlist

end Grown

end Todex
