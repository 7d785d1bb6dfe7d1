import Todex.Conversation.Model
import Todex.Lib.Bytes
import Todex.Lib.Ensures
import Todex.Lib.Json.Number
import Todex.Text

/-!
# Kanban tasks

The tasks of all tenants, each with the schedule that the scheduler runs for it, and what the store
keeps of a task that a client sends.
-/

namespace Todex

/-! ### Limits -/

/-- `KANBAN_TASK_TITLE_LIMIT`. -/
def kanbanTaskTitleLimit : Nat := 200

/-- `KANBAN_TASK_DESCRIPTION_LIMIT`. -/
def kanbanTaskDescriptionLimit : Nat := 2000

/-- `KANBAN_CONVERSATION_LIMIT`. -/
def kanbanConversationLimit : Nat := 100

/-- `KANBAN_ID_LIMIT`. -/
def kanbanIdLimit : Nat := 128

/-- `KANBAN_SCHEDULE_TEXT_LIMIT`. -/
def kanbanScheduleTextLimit : Nat := 20000

/-- `KANBAN_SCHEDULE_FIELD_LIMIT`. -/
def kanbanScheduleFieldLimit : Nat := 200

/-- `KANBAN_SCHEDULE_ERROR_LIMIT`. -/
def kanbanScheduleErrorLimit : Nat := 500

/-! ### Records -/

inductive KanbanScheduleAction
  | start
  | send
deriving DecidableEq, Repr

inductive KanbanScheduleStatus
  | pending
  | running
  | done
  | failed
  | cancelled
deriving DecidableEq, Repr

/-- The states that only the scheduler produces. -/
def KanbanScheduleStatus.backendOwned : KanbanScheduleStatus → Bool
  | running | done | failed => true
  | pending | cancelled => false

structure KanbanTaskSchedule where
  id : String
  /-- `at`: the local time of the backend. -/
  atTime : String
  action : KanbanScheduleAction
  conversationId : Option String
  text : String
  provider : Option String
  providerProfile : Option String
  model : Option String
  reasoningEffort : Option String
  permissionMode : Option String
  workMode : Option String
  status : KanbanScheduleStatus
  firedAt : Option Nat
  resultConversationId : Option String
  turnId : Option String
  error : Option String
deriving DecidableEq, Repr

structure KanbanTaskRecord where
  id : String
  tenantId : String
  workspaceId : String
  title : String
  description : Option String
  dueDate : Option String
  status : String
  conversationId : Option String
  conversationIds : Option (List String)
  sortOrder : Option Json.Number
  parentId : Option String
  priority : Option String
  schedule : Option KanbanTaskSchedule
  createdAt : Nat
  updatedAt : Nat
  deletedAt : Option Nat
deriving DecidableEq

/-- Tasks are kept by tenant and id. -/
def KanbanTaskRecord.key (self : KanbanTaskRecord) : String × String := (self.tenantId, self.id)

structure KanbanTaskSnapshot where
  tasks : List KanbanTaskRecord
  updatedAt : Nat
deriving DecidableEq

/-- What the store asks of libraries. -/
structure KanbanEnv where
  /-- `NaiveDateTime::parse_from_str` with the format of a schedule, in minutes. -/
  parseNaive : String → Option Int
  /-- What is read back of a number that is no integer. -/
  float : Json.Number → Option Json.Number

/-! ### What is kept of a schedule -/

/-- `normalize_schedule`'s `invalid`. -/
def invalidSchedule (message : String) : AppError := .invalidRequest s!"kanban task schedule {message}"

/-- One of the fields that are trimmed and bounded alike. -/
def normalizeField (value : Option String) : Except AppError (Option String) := do
  let value := trimField value
  .require (∀ text ∈ value, text.length ≤ kanbanScheduleFieldLimit)
    (invalidSchedule s!"fields must be at most {kanbanScheduleFieldLimit} characters")
  return value

/-- The characters of a schedule id. -/
def isScheduleIdChar (c : Char) : Bool := c.isAlphanum ∨ c = '-' ∨ c = '_'

/-- `error.chars().take(limit)`. -/
def takeChars (limit : Nat) (text : String) : String := String.ofList (text.toList.take limit)

def KanbanEnv.normalizeSchedule (E : KanbanEnv) (schedule : KanbanTaskSchedule) :
    Except AppError KanbanTaskSchedule := do
  let id := trim schedule.id
  .require (id ≠ "" ∧ id.utf8ByteSize ≤ kanbanIdLimit ∧ ∀ c ∈ id.toList, isScheduleIdChar c)
    (invalidSchedule "id must be 1-128 characters of [A-Za-z0-9_-]")
  let atTime := trim schedule.atTime
  .require ((E.parseNaive atTime).isSome) (invalidSchedule "at must be YYYY-MM-DDTHH:MM")
  let text := trim schedule.text
  .require (text ≠ "" ∧ text.length ≤ kanbanScheduleTextLimit)
    (invalidSchedule s!"text must be 1-{kanbanScheduleTextLimit} characters")
  let conversationId ← normalizeField schedule.conversationId
  let provider ← normalizeField schedule.provider
  let providerProfile ← normalizeField schedule.providerProfile
  let model ← normalizeField schedule.model
  let reasoningEffort ← normalizeField schedule.reasoningEffort
  let permissionMode ← normalizeField schedule.permissionMode
  let workMode ← normalizeField schedule.workMode
  let resultConversationId ← normalizeField schedule.resultConversationId
  let turnId ← normalizeField schedule.turnId
  .require (schedule.action = .send → conversationId ≠ none)
    (invalidSchedule "send needs a conversationId")
  return { schedule with
    id, atTime, text, conversationId, provider, providerProfile, model, reasoningEffort,
    permissionMode, workMode, resultConversationId, turnId
    error := schedule.error.map (takeChars kanbanScheduleErrorLimit) }

/-! ### What is kept of a task -/

/-- `VALID_STATUSES`. -/
def validStatuses : List String := ["planned", "in-progress", "done"]

/-- `VALID_PRIORITIES`. -/
def validPriorities : List String := ["none", "low", "medium", "high", "urgent"]

/-- `YYYY-MM-DD`. -/
def isValidDueDate (value : String) : Bool :=
  let bytes := Bytes.ofString value
  bytes.length = 10 ∧ bytes[4]? = some 45 ∧ bytes[7]? = some 45 ∧
    ∀ byte ∈ bytes.zipIdx, byte.2 = 4 ∨ byte.2 = 7 ∨ (48 ≤ byte.1 ∧ byte.1 ≤ 57)

/-- One id more of the conversations of a task. -/
def pushUnique (unique : List String) (id : String) : List String :=
  if trim id ≠ "" ∧ trim id ∉ unique then unique ++ [trim id] else unique

/-- The ids of a list, each once. -/
def uniqueIds (ids : List String) : List String := ids.foldl pushUnique []

/-- The ids that a task may have. -/
def IdsFit (ids : List String) : Prop :=
  ids.length ≤ kanbanConversationLimit ∧ ∀ id ∈ ids, id.utf8ByteSize ≤ kanbanIdLimit

instance (ids : List String) : Decidable (IdsFit ids) := inferInstanceAs (Decidable (_ ∧ _))

/-- With a list of conversations, the single one is the first of it. -/
def normalizeConversations (conversationId : Option String) :
    Option (List String) → Except AppError (Option String × Option (List String))
  | none => .ok (trimField conversationId, none)
  | some ids => do
    .require (IdsFit (uniqueIds ids)) (.invalidRequest
      s!"kanban task conversationIds must hold at most {kanbanConversationLimit} ids of at most {kanbanIdLimit} bytes")
    return ((uniqueIds ids).head?, some (uniqueIds ids))

/-- The body of the loop of `normalize_tasks`. -/
def KanbanEnv.normalizeTask (E : KanbanEnv) (ownerId : String) (task : KanbanTaskRecord) :
    Except AppError KanbanTaskRecord := do
  let id := trim task.id
  let workspaceId := trim task.workspaceId
  let title := trim task.title
  .require (id ≠ "" ∧ workspaceId ≠ "")
    (.invalidRequest "kanban task id and workspaceId are required")
  .require (title ≠ "" ∧ title.length ≤ kanbanTaskTitleLimit)
    (.invalidRequest s!"kanban task title must be 1-{kanbanTaskTitleLimit} characters")
  let description := trimField task.description
  .require (∀ value ∈ description, value.length ≤ kanbanTaskDescriptionLimit) (.invalidRequest
    s!"kanban task description must be at most {kanbanTaskDescriptionLimit} characters")
  .require (task.status ∈ validStatuses) (.invalidRequest
    "kanban task status must be one of [\"planned\", \"in-progress\", \"done\"]")
  let dueDate := trimField task.dueDate
  .require (∀ value ∈ dueDate, isValidDueDate value)
    (.invalidRequest "kanban task dueDate must be YYYY-MM-DD")
  let (conversationId, conversationIds) ←
    normalizeConversations task.conversationId task.conversationIds
  let parentId := trimField task.parentId
  .require (∀ value ∈ parentId, value.utf8ByteSize ≤ kanbanIdLimit ∧ value ≠ id) (.invalidRequest
    s!"kanban task parentId must be at most {kanbanIdLimit} bytes and differ from the task id")
  .require (∀ value ∈ task.priority, value ∈ validPriorities) (.invalidRequest
    "kanban task priority must be one of [\"none\", \"low\", \"medium\", \"high\", \"urgent\"]")
  let schedule ← task.schedule.mapM E.normalizeSchedule
  return { task with
    id, workspaceId, title, description, dueDate, conversationId, conversationIds, parentId, schedule
    tenantId := if ownerId = "" then task.tenantId else ownerId }

def KanbanEnv.normalizeTasks (E : KanbanEnv) (tasks : List KanbanTaskRecord) (ownerId : String) :
    Except AppError (List KanbanTaskRecord) :=
  tasks.mapM (E.normalizeTask ownerId)

/-! ### Texts that are kept as they are -/

/-- A text that trimming leaves alone. -/
def Trimmed (text : String) : Prop := trim text = text ∧ text ≠ ""

variable {text : String}

lemma trimmed_trim (h : trim text ≠ "") : Trimmed (trim text) := ⟨trim_trim text, h⟩

/-- A field that trimming leaves alone, with what is checked of its text. -/
def FieldOk (check : String → Prop) (value : Option String) : Prop :=
  trimField value = value ∧ ∀ text ∈ value, check text

lemma fieldOk_trimField (h : ∀ text ∈ trimField value, check text) : FieldOk check (trimField value) :=
  ⟨trimField_trimField value, h⟩

lemma fieldOk_none : FieldOk check none := ⟨rfl, nofun⟩

lemma fieldOk_some (h : Trimmed text) (hc : check text) : FieldOk check (some text) := by
  refine ⟨trimField_some h.1 h.2, ?_⟩
  rintro _ ⟨⟩
  exact hc

lemma trimmed_of_trimField (h : trimField (some text) = some text) : Trimmed text := by
  by_cases he : trim text = ""
  · simp [trimField, Option.filter_some, he] at h
  · have heq : trim text = text := by simpa [trimField, Option.filter_some, he] using h
    exact ⟨heq, heq ▸ he⟩

/-- The length of a field of a schedule. -/
def Short (text : String) : Prop := text.length ≤ kanbanScheduleFieldLimit

lemma normalizeField_eq_ok :
    normalizeField value = .ok result ↔ trimField value = result ∧ ∀ text ∈ result, Short text := by
  simp only [normalizeField, Except.require_bind_eq_ok]
  constructor
  · rintro ⟨hs, ⟨⟩⟩
    exact ⟨rfl, hs⟩
  · rintro ⟨rfl, hs⟩
    exact ⟨hs, rfl⟩

lemma normalizeField_self (h : FieldOk Short value) : normalizeField value = .ok value :=
  normalizeField_eq_ok.mpr h

lemma fieldOk_normalizeField (h : normalizeField value = .ok result) : FieldOk Short result := by
  obtain ⟨rfl, hs⟩ := normalizeField_eq_ok.mp h
  exact fieldOk_trimField hs

/-! ### Schedules that are kept as they are -/

/-- A schedule that passes the checks as it is. -/
structure ScheduleOk (E : KanbanEnv) (schedule : KanbanTaskSchedule) : Prop where
  id : Trimmed schedule.id ∧ schedule.id.utf8ByteSize ≤ kanbanIdLimit ∧
    ∀ c ∈ schedule.id.toList, isScheduleIdChar c
  atTime : trim schedule.atTime = schedule.atTime ∧ (E.parseNaive schedule.atTime).isSome
  text : Trimmed schedule.text ∧ schedule.text.length ≤ kanbanScheduleTextLimit
  conversationId : FieldOk Short schedule.conversationId
  provider : FieldOk Short schedule.provider
  providerProfile : FieldOk Short schedule.providerProfile
  model : FieldOk Short schedule.model
  reasoningEffort : FieldOk Short schedule.reasoningEffort
  permissionMode : FieldOk Short schedule.permissionMode
  workMode : FieldOk Short schedule.workMode
  resultConversationId : FieldOk Short schedule.resultConversationId
  turnId : FieldOk Short schedule.turnId
  send : schedule.action = .send → schedule.conversationId ≠ none
  error : ∀ text ∈ schedule.error, text.length ≤ kanbanScheduleErrorLimit

lemma length_takeChars_le (limit : Nat) (text : String) : (takeChars limit text).length ≤ limit := by
  simp [takeChars]

lemma takeChars_of_le (h : text.length ≤ limit) : takeChars limit text = text := by
  rw [takeChars, List.take_of_length_le (by rwa [String.length_toList]), String.ofList_toList]

variable {E : KanbanEnv}

lemma scheduleOk_normalizeSchedule (h : E.normalizeSchedule schedule = .ok result) : ScheduleOk E result := by
  simp only [KanbanEnv.normalizeSchedule, Except.bind_eq_ok, Except.require_eq_ok, exists_const] at h
  obtain ⟨⟨hid, his, hic⟩, hat, ⟨ht, htl⟩, conversationId, hc, provider,
    hpr, profile, hpf, model, hm, effort, he, permission, hp, mode, hmo, resultId, hr, turn, htu, hs, hok⟩ := h
  cases hok
  exact {
    id := ⟨trimmed_trim hid, his, hic⟩
    atTime := ⟨trim_trim _, hat⟩
    text := ⟨trimmed_trim ht, htl⟩
    conversationId := fieldOk_normalizeField hc
    provider := fieldOk_normalizeField hpr
    providerProfile := fieldOk_normalizeField hpf
    model := fieldOk_normalizeField hm
    reasoningEffort := fieldOk_normalizeField he
    permissionMode := fieldOk_normalizeField hp
    workMode := fieldOk_normalizeField hmo
    resultConversationId := fieldOk_normalizeField hr
    turnId := fieldOk_normalizeField htu
    send := hs
    error := by
      intro text ht
      obtain ⟨long, -, rfl⟩ := Option.map_eq_some_iff.mp ht
      exact length_takeChars_le _ long }

lemma ScheduleOk.normalizeSchedule (h : ScheduleOk E schedule) : E.normalizeSchedule schedule = .ok schedule := by
  have he : schedule.error.map (takeChars kanbanScheduleErrorLimit) = schedule.error := by
    cases hs : schedule.error with
    | none => rfl
    | some text => rw [Option.map_some, takeChars_of_le (h.error text hs)]
  simp only [KanbanEnv.normalizeSchedule, Except.bind_eq_ok, Except.require_eq_ok, exists_const, h.id.1.1,
    h.atTime.1, h.text.1.1]
  refine ⟨⟨h.id.1.2, h.id.2⟩, h.atTime.2, ⟨h.text.1.2, h.text.2⟩, _, normalizeField_self h.conversationId,
    _, normalizeField_self h.provider, _, normalizeField_self h.providerProfile, _,
    normalizeField_self h.model, _, normalizeField_self h.reasoningEffort, _,
    normalizeField_self h.permissionMode, _, normalizeField_self h.workMode, _,
    normalizeField_self h.resultConversationId, _, normalizeField_self h.turnId, h.send, ?_⟩
  rw [he]
  rfl

/-! ### Conversations that are kept as they are -/

/-- Ids that are trimmed and that no other equals. -/
def UniqueIds (ids : List String) : Prop := ids.Nodup ∧ ∀ id ∈ ids, Trimmed id

lemma UniqueIds.nil : UniqueIds [] := ⟨.nil, nofun⟩

lemma UniqueIds.append (h : UniqueIds ids) {id : String} (hid : Trimmed id)
    (hn : id ∉ ids) : UniqueIds (ids ++ [id]) := by
  refine ⟨List.nodup_append.mpr ⟨h.1, List.nodup_singleton id, ?_⟩, ?_⟩
  · rintro a ha b hb rfl
    exact hn (List.mem_singleton.mp hb ▸ ha)
  · intro a ha
    rcases List.mem_append.mp ha with ha | ha
    · exact h.2 a ha
    · rw [List.mem_singleton.mp ha]
      exact hid

lemma UniqueIds.cons (h : UniqueIds ids) {id : String} (hid : Trimmed id) (hn : id ∉ ids) : UniqueIds (id :: ids) := by
  refine ⟨List.nodup_cons.mpr ⟨hn, h.1⟩, ?_⟩
  rintro a (_ | ⟨_, ha⟩)
  · exact hid
  · exact h.2 a ha

lemma UniqueIds.pushUnique (h : UniqueIds ids) (id : String) : UniqueIds (pushUnique ids id) := by
  unfold Todex.pushUnique
  split
  case isTrue hn => exact h.append (trimmed_trim hn.1) hn.2
  case isFalse => exact h

lemma uniqueIds_uniqueIds (ids : List String) : UniqueIds (uniqueIds ids) := by
  have hf : ∀ unique, UniqueIds unique → UniqueIds (ids.foldl pushUnique unique) := by
    induction ids with
    | nil =>
      intro unique h
      exact h
    | cons id ids ih =>
      intro unique h
      exact ih _ (h.pushUnique id)
  exact hf [] .nil

lemma UniqueIds.uniqueIds (h : UniqueIds ids) : uniqueIds ids = ids := by
  have hf : ∀ unique, (unique ++ ids).Nodup → ids.foldl Todex.pushUnique unique = unique ++ ids := by
    obtain ⟨-, h⟩ := h
    induction ids with
    | nil =>
      intro unique _
      simp
    | cons id ids ih =>
      intro unique hn
      have hid : Trimmed id := h id List.mem_cons_self
      have hne : id ∉ unique := by
        intro hm
        exact (List.nodup_append.mp hn).2.2 id hm id List.mem_cons_self rfl
      have hp : Todex.pushUnique unique id = unique ++ [id] := by
        rw [Todex.pushUnique, hid.1, if_pos ⟨hid.2, hne⟩]
      rw [List.foldl_cons, hp, ih (fun a ha => h a (List.mem_cons_of_mem _ ha)) _ (by simpa using hn)]
      simp
  exact hf [] h.1

/-- The conversations of a task, whatever their number and size. -/
def ConversationsOk (conversationId : Option String) : Option (List String) → Prop
  | none => trimField conversationId = conversationId
  | some ids => UniqueIds ids ∧ conversationId = ids.head?

lemma conversationsOk_normalizeConversations (h : normalizeConversations conversationId conversationIds = .ok result) :
    ConversationsOk result.1 result.2 ∧ ∀ ids ∈ result.2, IdsFit ids := by
  cases conversationIds with
  | none =>
    cases h
    exact ⟨trimField_trimField conversationId, nofun⟩
  | some ids =>
    obtain ⟨hf, hok⟩ := Except.require_bind_eq_ok.mp h
    cases hok
    refine ⟨⟨uniqueIds_uniqueIds ids, rfl⟩, ?_⟩
    rintro _ ⟨⟩
    exact hf

lemma normalizeConversations_self (h : ConversationsOk conversationId conversationIds)
    (hfi : ∀ ids ∈ conversationIds, IdsFit ids) :
    normalizeConversations conversationId conversationIds = .ok (conversationId, conversationIds) := by
  cases conversationIds with
  | none => rw [normalizeConversations, show trimField conversationId = conversationId from h]
  | some ids =>
    obtain ⟨hu, hf⟩ := h
    refine Except.require_bind_eq_ok.mpr ?_
    rw [hu.uniqueIds, hf]
    exact ⟨hfi ids rfl, rfl⟩

/-! ### Tasks that are kept as they are -/

/-- A task that passes the checks as it is, but for the number and the size of its conversations. -/
structure KanbanTaskOk (E : KanbanEnv) (task : KanbanTaskRecord) : Prop where
  id : Trimmed task.id
  workspaceId : Trimmed task.workspaceId
  title : Trimmed task.title ∧ task.title.length ≤ kanbanTaskTitleLimit
  description : FieldOk (·.length ≤ kanbanTaskDescriptionLimit) task.description
  status : task.status ∈ validStatuses
  dueDate : FieldOk (isValidDueDate ·) task.dueDate
  conversations : ConversationsOk task.conversationId task.conversationIds
  parentId : FieldOk (fun value => value.utf8ByteSize ≤ kanbanIdLimit ∧ value ≠ task.id) task.parentId
  priority : ∀ value ∈ task.priority, value ∈ validPriorities
  schedule : ∀ schedule ∈ task.schedule, ScheduleOk E schedule

/-- The conversations of a task are not too many and not too long. -/
def ConversationsFit (task : KanbanTaskRecord) : Prop := ∀ ids ∈ task.conversationIds, IdsFit ids

instance (task : KanbanTaskRecord) : Decidable (ConversationsFit task) :=
  inferInstanceAs (Decidable (∀ ids ∈ task.conversationIds, IdsFit ids))

lemma kanbanTaskOk_normalizeTask
    (h : E.normalizeTask ownerId task = .ok result) : KanbanTaskOk E result ∧ ConversationsFit result := by
  simp only [KanbanEnv.normalizeTask, Except.bind_eq_ok, Except.require_eq_ok, exists_const] at h
  obtain ⟨⟨hid, hw⟩, ⟨ht, htl⟩, hd, hss, hdu, conversations, hc, hpa, hp, schedule, hs, hok⟩ := h
  cases hok
  obtain ⟨hu, hf⟩ := conversationsOk_normalizeConversations hc
  refine ⟨?_, hf⟩
  exact {
    id := trimmed_trim hid
    workspaceId := trimmed_trim hw
    title := ⟨trimmed_trim ht, htl⟩
    description := fieldOk_trimField hd
    status := hss
    dueDate := fieldOk_trimField hdu
    conversations := hu
    parentId := fieldOk_trimField hpa
    priority := hp
    schedule := by
      intro normalized hn
      cases hn
      cases hst : task.schedule with
      | none =>
        rw [hst] at hs
        cases hs
      | some stored =>
        rw [hst, Option.mapM_some] at hs
        obtain ⟨a, ha, hm⟩ := Except.bind_eq_ok.mp hs
        cases hm
        exact scheduleOk_normalizeSchedule ha }

/-- A task that the store has kept is kept as it is, under its tenant or under the one who sends it. -/
lemma KanbanTaskOk.normalizeTask (h : KanbanTaskOk E task) (hf : ConversationsFit task) (ownerId : String) :
    E.normalizeTask ownerId task = .ok { task with tenantId := if ownerId = "" then task.tenantId else ownerId } := by
  have hs : task.schedule.mapM E.normalizeSchedule = .ok task.schedule := by
    cases hst : task.schedule with
    | none => rfl
    | some stored => rw [Option.mapM_some, (h.schedule stored hst).normalizeSchedule]; rfl
  simp only [KanbanEnv.normalizeTask, Except.bind_eq_ok, Except.require_eq_ok, exists_const, h.id.1,
    h.workspaceId.1, h.title.1.1, h.description.1, h.dueDate.1, h.parentId.1]
  exact ⟨⟨h.id.2, h.workspaceId.2⟩, ⟨h.title.1.2, h.title.2⟩, h.description.2, h.status, h.dueDate.2, _,
    normalizeConversations_self h.conversations hf, h.parentId.2, h.priority, _, hs, rfl⟩

end Todex
