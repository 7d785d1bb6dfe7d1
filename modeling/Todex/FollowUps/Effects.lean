import Todex.FollowUps.Supervisor

/-!
# What the operations do

One lemma for each operation says everything it can do to the queue, the journal and the spawned
work. The results about runs rest on these alone.
-/

namespace Todex

/-! ### Saving -/

/-- The queue is written. -/
def Commits (E : Environment) (io : SaveIo) (queue : FollowUpQueue) : Prop :=
  E.queueBytes queue ≤ maxFollowUpQueueBytes ∧ io.stored = none

lemma commitFollowUps_of_commits (h : Commits E io queue) :
    commitFollowUps E io queue s = (none, s.setQueue queue) := by
  simp [commitFollowUps, firstError, h.1, h.2]

lemma commitFollowUps_cases (io : SaveIo) (queue : FollowUpQueue) (s : Conversation) :
    (∃ error, commitFollowUps E io queue s = (some error, s)) ∨
      commitFollowUps E io queue s = (none, s.setQueue queue) := by
  rw [commitFollowUps]
  split
  · exact .inl ⟨_, rfl⟩
  · exact .inr rfl

lemma saveFollowUps_of_commits (h : Commits E io queue) :
    saveFollowUps E io queue s = (io.published, s.setQueue queue) := by
  rw [saveFollowUps, commitFollowUps_of_commits h]

lemma saveFollowUps_cases (io : SaveIo) (queue : FollowUpQueue) (s : Conversation) :
    (∃ error, saveFollowUps E io queue s = (some error, s)) ∨
      saveFollowUps E io queue s = (io.published, s.setQueue queue) := by
  rw [saveFollowUps]
  rcases commitFollowUps_cases (E := E) io queue s with ⟨error, h⟩ | h
  · exact .inl ⟨error, by rw [h]⟩
  · exact .inr (by rw [h])

lemma saveFollowUps_of_not_commits
    (h : ¬ Commits E io queue) : ∃ error, saveFollowUps E io queue s = (some error, s) := by
  rw [saveFollowUps, commitFollowUps]
  split
  · next error s' heq =>
    split at heq
    · obtain ⟨-, rfl⟩ := Prod.mk.inj heq
      exact ⟨error, rfl⟩
    · cases heq
  · next s' heq =>
    split at heq
    · cases heq
    · next hnone =>
      rw [firstError, List.findSome?_eq_none_iff] at hnone
      refine absurd ⟨?_, hnone _ (by simp)⟩ h
      simpa using hnone _ List.mem_cons_self

lemma updateQueue_cases (io : SaveIo)
    (change : FollowUpQueue → Except AppError (Option FollowUpQueue)) (s : Conversation) :
    (updateQueue E io change s).2 = s ∨
      ∃ queue, change s.queue = .ok (some queue) ∧ (updateQueue E io change s).2 = s.setQueue queue := by
  rw [updateQueue]
  split
  · exact .inl rfl
  · exact .inl rfl
  · next queue hq =>
    rcases saveFollowUps_cases (E := E) io queue s with ⟨error, h⟩ | h
    · exact .inl (by rw [h])
    · refine .inr ⟨queue, hq, ?_⟩
      rw [h]
      cases io.published <;> rfl

/-- Loading what was saved: an idle queue is dropped, which loses nothing. -/
lemma queue_setQueue (queue : FollowUpQueue) (s : Conversation) :
    (s.setQueue queue).queue = if queue.isIdle then {} else queue := by
  rw [Conversation.setQueue, Conversation.queue]
  split_ifs <;> rfl

@[simp] lemma items_setQueue (queue : FollowUpQueue) (s : Conversation) :
    (s.setQueue queue).queue.items = queue.items := by
  rw [queue_setQueue]
  split_ifs with hidle
  · simp only [FollowUpQueue.isIdle, Bool.and_eq_true, List.isEmpty_iff] at hidle
    exact hidle.1.1.symm
  · rfl

@[simp] lemma rateLimitFailures_setQueue (queue : FollowUpQueue) (s : Conversation) :
    (s.setQueue queue).queue.rateLimitFailures = queue.rateLimitFailures := by
  rw [queue_setQueue]
  split_ifs with hidle
  · simp only [FollowUpQueue.isIdle, Bool.and_eq_true, decide_eq_true_eq] at hidle
    exact hidle.2.symm
  · rfl

lemma queue_setQueue_of_paused (h : queue.paused = true) (s : Conversation) : (s.setQueue queue).queue = queue := by
  rw [queue_setQueue, if_neg (by simp [FollowUpQueue.isIdle, h])]

@[simp] lemma journal_setQueue (queue : FollowUpQueue) (s : Conversation) :
    (s.setQueue queue).journal = s.journal := rfl

@[simp] lemma tasks_setQueue (queue : FollowUpQueue) (s : Conversation) : (s.setQueue queue).tasks = s.tasks := rfl

@[simp] lemma log_setQueue (queue : FollowUpQueue) (s : Conversation) : (s.setQueue queue).log = s.log := rfl

@[simp] lemma legacy_setQueue (queue : FollowUpQueue) (s : Conversation) : (s.setQueue queue).legacy = s.legacy := rfl

/-! ### Prompts -/

/-- Starting a turn touches neither the queue nor the spawned work. -/
structure Untouched (s s' : Conversation) : Prop where
  saved : s'.saved = s.saved
  tasks : s'.tasks = s.tasks
  log : s'.log = s.log
  legacy : s'.legacy = s.legacy
  down : s.shuttingDown = true → s'.shuttingDown = true

lemma untouched_self (s : Conversation) : Untouched s s := ⟨rfl, rfl, rfl, rfl, id⟩

/-- What a prompt does: nothing is journalled, or its id was recorded before, or its turn is the
newest of the journal. -/
inductive Prompted (prompt : ConversationPrompt) (s : Conversation) :
    Except AppError String × Conversation → Prop
  | refused (error : AppError) (s' : Conversation) :
      Untouched s s' → s'.journal = s.journal → Prompted prompt s (.error error, s')
  | recorded (turn : JournalledTurn) : turn ∈ s.journal →
      turn.clientRequestId = prompt.clientRequestId → Prompted prompt s (.ok turn.turnId, s)
  | started (turn : JournalledTurn) (s' : Conversation) : Untouched s s' →
      turn.clientRequestId = prompt.clientRequestId →
      (∀ other ∈ s.journal, ∀ id, prompt.clientRequestId = some id →
        other.clientRequestId ≠ some id) →
      s'.journal = s.journal ++ [turn] → Prompted prompt s (.ok turn.turnId, s')

lemma prompted_startTurn (io : PromptIo) (prompt : ConversationPrompt) (s : Conversation)
    (hf : recordedTurn s.journal prompt.clientRequestId = none) :
    Prompted prompt s (startTurn E io prompt s) := by
  have ho : ∀ other ∈ s.journal, ∀ id, prompt.clientRequestId = some id →
      other.clientRequestId ≠ some id := by
    intro other ho id hid
    rw [recordedTurn, hid, Option.bind_some, List.find?_eq_none] at hf
    simpa using hf other ho
  rw [startTurn]
  split
  · exact .refused _ _ (untouched_self s) rfl
  · split
    · exact .refused _ _ (untouched_self s) rfl
    · dsimp only
      split
      · exact .refused _ _ ⟨rfl, rfl, rfl, rfl, id⟩ rfl
      · exact .started ⟨io.turnId, prompt.clientRequestId, _⟩ _ ⟨rfl, rfl, rfl, rfl, id⟩ rfl ho rfl

lemma prompted_promptInner (io : PromptIo) (prompt : ConversationPrompt) (s : Conversation) :
    Prompted prompt s (promptInner E io prompt s) := by
  rw [promptInner]
  split
  · exact .refused _ _ (untouched_self s) rfl
  · split
    · next previous hp =>
      split_ifs
      · cases hid : prompt.clientRequestId with
        | none => simp [recordedTurn, hid] at hp
        | some id =>
          rw [recordedTurn, hid, Option.bind_some] at hp
          refine .recorded previous (List.mem_of_find?_eq_some hp) ?_
          simpa [hid] using List.find?_some hp
      · exact .refused _ _ (untouched_self s) rfl
    · next hnone =>
      split
      · exact .refused _ _ (untouched_self s) rfl
      · exact prompted_startTurn io prompt s hnone

lemma prompted_promptOwned (io : PromptIo) (prompt : ConversationPrompt) (s : Conversation) :
    Prompted prompt s (promptOwned E io prompt s) := by
  rw [promptOwned]
  split
  · exact .refused _ _ (untouched_self s) rfl
  · exact prompted_promptInner io prompt s

lemma startProviderTurn_spec (io : PromptIo) (s : Conversation) :
    Untouched s (startProviderTurn E io s).2 ∧ (startProviderTurn E io s).2.journal = s.journal := by
  rw [startProviderTurn]
  split
  · exact ⟨untouched_self s, rfl⟩
  · split
    · exact ⟨untouched_self s, rfl⟩
    · split
      · exact ⟨untouched_self s, rfl⟩
      · exact ⟨⟨rfl, rfl, rfl, rfl, id⟩, rfl⟩

/-! ### Steps -/

/-- A task that wakes a waiting queue. -/
def Task.isTimer : Task → Bool
  | rateLimitTimer _ | scheduleTimer _ => true
  | _ => false

/-- What a step leaves behind: a queue it saved, and what it added. -/
structure Outcome where
  queue : Option FollowUpQueue := none
  turns : List JournalledTurn := []
  tasks : List Task := []
  log : List Log := []

/-- The state after a step is the state before it with the outcome applied. -/
structure Outcome.Leads (o : Outcome) (s s' : Conversation) : Prop where
  saved : s'.saved = (o.queue.elim s (s.setQueue ·)).saved
  journal : s'.journal = s.journal ++ o.turns
  tasks : s'.tasks = s.tasks ++ o.tasks
  log : s'.log = s.log ++ o.log
  legacy : s'.legacy = s.legacy
  down : s.shuttingDown = true → s'.shuttingDown = true

/-- A turn under a request id that no other turn has. -/
def Fresh (s : Conversation) (turn : JournalledTurn) : Prop :=
  ∀ other ∈ s.journal, ∀ id, turn.clientRequestId = some id → other.clientRequestId ≠ some id

/-- What the steps of clients and turns do. -/
inductive Does (E : Environment) (s : Conversation) : Op → Outcome → Prop
  | nothing (op : Op) : Does E s op {}
  | prompted (op : Op) (turn : JournalledTurn) : Fresh s turn → Does E s op { turns := [turn] }
  | added (io : AddIo) (itemId : String) (prompt : ConversationPrompt) (front paused : Bool)
      (item : FollowUpItem) (tasks : List Task) : item.id = itemId → itemId ∉ s.queue.ids →
      item.request.clientRequestId = some itemId → item.automatic = false →
      (∀ task ∈ tasks, task.isTimer = false) → Does E s (.add io itemId prompt front paused)
        { queue := s.queue.add item front paused, tasks }
  | removed (io : SaveIo) (itemId : String) : Does E s (.remove io itemId)
      { queue := { s.queue with items := s.queue.items.filter (·.id ≠ itemId) }.unpauseIfEmpty }
  | taken (io : SaveIo) (itemId : String) : Does E s (.take io itemId)
      { queue := { s.queue with items := s.queue.items.eraseP (·.id = itemId) }.unpauseIfEmpty }
  | paused (io : SaveIo) : Does E s (.pause io) { queue := s.queue.pause .user none }
  | cleared (io : SaveIo) :
      Does E s (.clear io) { queue := { s.queue with items := [] }.unpauseIfEmpty }
  | resumed (io : ScheduleIo) (tasks : List Task) : (∀ task ∈ tasks, task.isTimer = false) →
      Does E s (.resume io) { queue := s.queue.unpause, tasks }
  | scheduled (io : ScheduleIo) (due now : DateTime) : Does E s (.schedule io due now)
      { queue := s.queue.holdUntil due
        tasks := if io.save.published.isNone then [.scheduleTimer due] else [] }
  | unscheduled (io : ScheduleIo) :
      Does E s (.cancelSchedule io) { queue := s.queue.unschedule }
  | spawned (op : Op) (task : Task) : task.isTimer = false → Does E s op { tasks := [task] }

lemma leads_untouched (h : Untouched s s') (hj : s'.journal = s.journal) : Outcome.Leads {} s s' :=
  ⟨h.saved, by simpa using hj, by simpa using h.tasks, by simpa using h.log, h.legacy, h.down⟩

lemma does_prompted (h : Prompted prompt s r) (op : Op) : ∃ o, Does E s op o ∧ o.Leads s r.2 := by
  cases h with
  | refused error s' h hj => exact ⟨{}, .nothing op, leads_untouched h hj⟩
  | recorded turn => exact ⟨{}, .nothing op, leads_untouched (untouched_self s) rfl⟩
  | started turn s' h hid hf hj =>
    refine ⟨_, .prompted op turn fun other ho id hturn => ?_,
      ⟨h.saved, hj, by simpa using h.tasks, by simpa using h.log, h.legacy, h.down⟩⟩
    exact hf other ho id (hid ▸ hturn)

lemma leads_setQueue (queue : FollowUpQueue) (tasks : List Task)
    (hs : s'.saved = (s.setQueue queue).saved) (hj : s'.journal = s.journal)
    (ht : s'.tasks = s.tasks ++ tasks) (hlog : s'.log = s.log) (hl : s'.legacy = s.legacy)
    (hdown : s.shuttingDown = true → s'.shuttingDown = true) :
    Outcome.Leads { queue, tasks } s s' :=
  ⟨hs, by simpa using hj, ht, by simpa using hlog, hl, hdown⟩

lemma does_updateQueue {change : FollowUpQueue → Except AppError (Option FollowUpQueue)}
    (h : ∀ queue, change s.queue = .ok (some queue) → Does E s op { queue }) :
    ∃ o, Does E s op o ∧ o.Leads s (updateQueue E io change s).2 := by
  rcases updateQueue_cases (E := E) io change s with hs | ⟨queue, hq, hs⟩
  · rw [hs]
    exact ⟨{}, .nothing op, leads_untouched (untouched_self s) rfl⟩
  · rw [hs]
    exact ⟨_, h queue hq, leads_setQueue queue [] rfl rfl (by simp) rfl rfl id⟩

lemma does_enqueue (io : AddIo) (hid : item.id = itemId) (hnew : itemId ∉ s.queue.ids)
    (hr : item.request.clientRequestId = some itemId) (hc : item.automatic = false) :
    ∃ o, Does E s (.add io itemId prompt front paused) o ∧ o.Leads s (enqueue E io.save item front paused s).2 := by
  have ha (tasks : List Task) (ht : ∀ task ∈ tasks, task.isTimer = false) :=
    Does.added (E := E) io itemId prompt front paused item tasks hid hnew hr hc ht
  rcases saveFollowUps_cases (E := E) io.save (s.queue.add item front paused) s with ⟨error, h⟩ | h
  · simp only [enqueue, h]
    exact ⟨{}, .nothing _, leads_untouched (untouched_self s) rfl⟩
  · simp only [enqueue, h]
    cases io.save.published with
    | some error => exact ⟨_, ha [] (by simp), leads_setQueue _ [] rfl rfl (by simp) rfl rfl id⟩
    | none =>
      dsimp only
      split
      · exact ⟨_, ha [.drain] (by simp [Task.isTimer]), leads_setQueue _ _ rfl rfl rfl rfl rfl id⟩
      · exact ⟨_, ha [] (by simp), leads_setQueue _ [] rfl rfl (by simp) rfl rfl id⟩

lemma does_add (io : AddIo) (itemId : String) (prompt : ConversationPrompt) (front paused : Bool)
    (s : Conversation) : ∃ o, Does E s (.add io itemId prompt front paused) o ∧
      o.Leads s (queueAddOwned E io itemId prompt front paused s).2 := by
  have hn : ∃ o, Does E s (.add io itemId prompt front paused) o ∧ o.Leads s s :=
    ⟨{}, .nothing _, leads_untouched (untouched_self s) rfl⟩
  rw [queueAddOwned]
  split
  · exact hn
  · dsimp only
    split
    · exact hn
    · next hnew =>
      split
      · exact hn
      · exact hn
      · split
        · exact does_prompted (prompted_promptInner ..) _
        · split
          · exact hn
          · exact does_enqueue io rfl hnew rfl rfl

lemma does_remove (io : SaveIo) (itemId : String) (s : Conversation) :
    ∃ o, Does E s (.remove io itemId) o ∧ o.Leads s (queueRemoveOwned E io itemId s).2 := by
  refine does_updateQueue fun queue hq => ?_
  rw [FollowUpQueue.removeItem] at hq
  split at hq
  · cases hq
  · dsimp only at hq
    split at hq
    · cases hq
    · cases hq
      exact .removed io itemId

lemma does_take (io : SaveIo) (itemId : String) (s : Conversation) :
    ∃ o, Does E s (.take io itemId) o ∧ o.Leads s (queueTakeOwned E io itemId s).2 := by
  have hn : ∃ o, Does E s (.take io itemId) o ∧ o.Leads s s :=
    ⟨{}, .nothing _, leads_untouched (untouched_self s) rfl⟩
  rw [queueTakeOwned]
  split
  · exact hn
  · exact hn
  · dsimp only
    rcases commitFollowUps_cases (E := E) io
      { s.queue with items := s.queue.items.eraseP (·.id = itemId) }.unpauseIfEmpty s with
      ⟨error, h⟩ | h
    · rw [h]
      exact hn
    · rw [h]
      exact ⟨_, .taken io itemId, leads_setQueue _ [] rfl rfl (by simp) rfl rfl id⟩

lemma does_pause (io : SaveIo) (s : Conversation) :
    ∃ o, Does E s (.pause io) o ∧ o.Leads s (queuePauseOwned E io s).2 := by
  refine does_updateQueue fun queue hq => ?_
  split at hq
  · cases hq
  · cases hq
    exact .paused io

lemma does_clear (io : SaveIo) (s : Conversation) :
    ∃ o, Does E s (.clear io) o ∧ o.Leads s (queueClearOwned E io s).2 := by
  refine does_updateQueue fun queue hq => ?_
  cases hq
  exact .cleared io

lemma endSchedule_spec (s : Conversation) : Untouched s (endSchedule s) ∧ (endSchedule s).journal = s.journal := by
  rw [endSchedule]
  split
  · exact ⟨⟨rfl, rfl, rfl, rfl, id⟩, rfl⟩
  · exact ⟨untouched_self s, rfl⟩

lemma does_resume (io : ScheduleIo) (s : Conversation) :
    ∃ o, Does E s (.resume io) o ∧ o.Leads s (queueResumeOwned E io s).2 := by
  have hn : ∃ o, Does E s (.resume io) o ∧ o.Leads s s :=
    ⟨{}, .nothing _, leads_untouched (untouched_self s) rfl⟩
  rw [queueResumeOwned]
  split
  · exact hn
  · split
    · split
      · exact hn
      · have hset : ((endSchedule s).setQueue s.queue.unpause).saved =
          (s.setQueue s.queue.unpause).saved := rfl
        obtain ⟨hsame, hj⟩ := endSchedule_spec s
        rcases saveFollowUps_cases (E := E) io.save s.queue.unpause (endSchedule s) with
          ⟨error, h⟩ | h
        · rw [h]
          exact ⟨{}, .nothing _, leads_untouched hsame hj⟩
        · rw [h]
          cases io.save.published with
          | some error =>
            exact ⟨_, .resumed io [] (by simp), leads_setQueue _ [] hset hj
              (by simpa using hsame.tasks) hsame.log hsame.legacy hsame.down⟩
          | none =>
            exact ⟨_, .resumed io [.drain] (by simp [Task.isTimer]), leads_setQueue _ _ hset hj
              (by simp [Conversation.spawn, hsame.tasks]) hsame.log hsame.legacy hsame.down⟩
    · exact ⟨_, .spawned _ .drain rfl,
        ⟨rfl, by simp [Conversation.spawn], rfl, by simp [Conversation.spawn], rfl, id⟩⟩

lemma does_schedule (io : ScheduleIo) (due now : DateTime) (s : Conversation) :
    ∃ o, Does E s (.schedule io due now) o ∧ o.Leads s (scheduleOwned E io due now s).2 := by
  rw [scheduleOwned]
  dsimp only
  split
  · exact ⟨{}, .nothing _, leads_untouched (untouched_self s) rfl⟩
  · rcases saveFollowUps_cases (E := E) io.save (s.queue.holdUntil due)
      { s with schedule := some { due, interrupted := false } } with ⟨error, h⟩ | h
    · rw [h]
      exact ⟨{}, .nothing _, leads_untouched ⟨rfl, rfl, rfl, rfl, id⟩ rfl⟩
    · rw [h]
      refine ⟨_, .scheduled io due now, ?_⟩
      cases hp : io.save.published with
      | some error => exact leads_setQueue _ [] rfl rfl (by simp) rfl rfl id
      | none => exact leads_setQueue _ _ rfl rfl rfl rfl rfl id

lemma does_cancelSchedule (io : ScheduleIo) (s : Conversation) :
    ∃ o, Does E s (.cancelSchedule io) o ∧ o.Leads s (cancelSchedule E io s).2 := by
  rw [cancelSchedule]
  split
  · exact ⟨{}, .nothing _, leads_untouched (untouched_self s) rfl⟩
  · rcases updateQueue_cases (E := E) io.save
      (fun queue => .ok (if queue.scheduled then some queue.unschedule else none))
      { s with schedule := none } with hs | ⟨queue, hq, hs⟩
    · rw [hs]
      exact ⟨{}, .nothing _, leads_untouched ⟨rfl, rfl, rfl, rfl, id⟩ rfl⟩
    · rw [hs]
      simp only [Except.ok.injEq] at hq
      split at hq
      · cases hq
        exact ⟨_, .unscheduled io, leads_setQueue _ [] rfl rfl (by simp) rfl rfl id⟩
      · cases hq

lemma does_ends (terminal : Terminal) (exhausted : Option DateTime) (s : Conversation) :
    ∃ o, Does E s (.ends terminal exhausted) o ∧ o.Leads s (endActive terminal exhausted s) := by
  rw [endActive]
  split
  · exact ⟨{}, .nothing _, leads_untouched (untouched_self s) rfl⟩
  · exact ⟨_, .spawned _ _ rfl, ⟨rfl, by simp [Conversation.spawn], rfl,
      by simp [Conversation.spawn], rfl, id⟩⟩
  · exact ⟨_, .spawned _ (.afterTurn _ terminal exhausted) rfl,
      ⟨rfl, by simp [Conversation.spawn], rfl, by simp [Conversation.spawn], rfl, id⟩⟩

/-- Every step that is not spawned work or a restart does one of these things. -/
lemma does_step (s : Conversation) (op : Op) (htask : ∀ io now task, op ≠ .task io now task)
    (hr : ∀ io, op ≠ .restart io) : ∃ o, Does E s op o ∧ o.Leads s (step E s op) := by
  cases op with
  | add io itemId prompt front paused => exact does_add io itemId prompt front paused s
  | remove io itemId => exact does_remove io itemId s
  | take io itemId => exact does_take io itemId s
  | pause io => exact does_pause io s
  | clear io => exact does_clear io s
  | resume io => exact does_resume io s
  | schedule io due now => exact does_schedule io due now s
  | cancelSchedule io => exact does_cancelSchedule io s
  | prompt io prompt => exact does_prompted (prompted_promptOwned io prompt s) _
  | providerTurn io =>
    obtain ⟨h, hj⟩ := startProviderTurn_spec (E := E) io s
    exact ⟨{}, .nothing _, leads_untouched h hj⟩
  | operation operationId =>
    refine ⟨{}, .nothing _, ?_⟩
    rw [step]
    split
    · exact leads_untouched (untouched_self s) rfl
    · exact leads_untouched ⟨rfl, rfl, rfl, rfl, id⟩ rfl
  | ends terminal exhausted => exact does_ends terminal exhausted s
  | task io now task => exact absurd rfl (htask io now task)
  | shutdown => exact ⟨{}, .nothing _, leads_untouched ⟨rfl, rfl, rfl, rfl, fun _ => rfl⟩ rfl⟩
  | restart io => exact absurd rfl (hr io)

/-! ### Spawned work -/

/-- The queue waits for this timer. -/
def FollowUpQueue.WaitsFor (queue : FollowUpQueue) : Task → Prop
  | .rateLimitTimer resumeAt => queue.rateLimited = true ∧ queue.resumeAt = some resumeAt
  | .scheduleTimer due => queue.scheduled = true ∧ queue.resumeAt = some due
  | _ => False

/-- The queue that a rate-limit wait saves. -/
def waitingQueue (E : Environment) (s : Conversation) (turnId : String) (reset now : DateTime) :
    FollowUpQueue :=
  let request := turnRequest s turnId
  let queue := s.queue.countFailure request
  (queue.addContinuation request turnId now).awaitReset
    (rateLimitResumeAt reset now queue.rateLimitFailures E.retryFloor)

/-- What spawned work does. -/
inductive Handles (E : Environment) (io : TaskIo) (now : DateTime) (s : Conversation) :
    Task → Outcome → Prop
  | nothing (task : Task) : task.isTimer = false → Handles E io now s task {}
  | stale (task : Task) : s.shuttingDown = true ∨ ¬ s.queue.WaitsFor task ∨
      ¬ Commits E io.save s.queue.unpause ∨ (∃ due, task = .scheduleTimer due) ∧ io.scheduleSet.isSome →
      Handles E io now s task {}
  | woken (task : Task) (tasks : List Task) (log : List Log) : s.queue.WaitsFor task →
      (∀ task ∈ tasks, task.isTimer = false) →
      (∀ entry ∈ log, ∃ resumeAt, task = .rateLimitTimer resumeAt ∧ entry = .lifted resumeAt now) →
      Handles E io now s task { queue := s.queue.unpause, tasks, log }
  | spawned (task spawned : Task) (log : List Log) : task.isTimer = false →
      spawned.isTimer = false →
      (∀ entry ∈ log, entry = .completed ∨ ∃ was, entry = .limitHit was) →
      Handles E io now s task { tasks := [spawned], log }
  | settled (turn : Option String) (exhausted : Option DateTime) (queue : FollowUpQueue) :
      s.queue.settle = some queue →
      Handles E io now s (.afterTurn turn .completed exhausted)
        { queue, tasks := [.drain], log := [.completed] }
  | paused (task : Task) (reason : PauseReason) : task.isTimer = false →
      reason ≠ .scheduled → reason ≠ .rateLimited →
      Handles E io now s task { queue := s.queue.pause reason none }
  | gaveUp (turnId : String) (reset : DateTime) (tasks : List Task) :
      (∀ task ∈ tasks, task.isTimer = false) →
      maxRateLimitContinuations ≤ (s.queue.countFailure (turnRequest s turnId)).rateLimitFailures →
      Handles E io now s (.afterTurn (some turnId) .failed (some reset))
        { queue := (s.queue.countFailure (turnRequest s turnId)).giveUp
          tasks, log := [.limitHit (wasContinuation (turnRequest s turnId))] }
  | waits (turnId : String) (reset : DateTime) (tasks : List Task) :
      (∀ task ∈ tasks, task.isTimer = false) →
      (s.queue.countFailure (turnRequest s turnId)).rateLimitFailures < maxRateLimitContinuations →
      s.queue.heldByUser = true ∨ io.wait.save.published.isSome →
      Handles E io now s (.afterTurn (some turnId) .failed (some reset))
        { queue := waitingQueue E s turnId reset io.wait.now
          tasks, log := [.limitHit (wasContinuation (turnRequest s turnId))] }
  | armed (turnId : String) (reset resumeAt : DateTime) (failures : Nat) :
      failures = (s.queue.countFailure (turnRequest s turnId)).rateLimitFailures →
      failures < maxRateLimitContinuations →
      resumeAt = rateLimitResumeAt reset io.wait.now failures E.retryFloor →
      s.queue.heldByUser = false →
      Handles E io now s (.afterTurn (some turnId) .failed (some reset))
        { queue := waitingQueue E s turnId reset io.wait.now
          tasks := [.rateLimitTimer resumeAt]
          log := [.limitHit (wasContinuation (turnRequest s turnId)),
            .waits reset io.wait.now failures resumeAt] }
  | recorded (head : FollowUpItem) (rest : List FollowUpItem) (turn : JournalledTurn)
      (queue : Option FollowUpQueue) : s.queue.items = head :: rest → s.queue.paused = false →
      turn ∈ s.journal → turn.clientRequestId = head.request.clientRequestId →
      (∀ q ∈ queue, q = { s.queue with items := s.queue.items.filter (·.id ≠ head.id) }) →
      Handles E io now s .drain { queue }
  | delivered (head : FollowUpItem) (rest : List FollowUpItem) (turn : JournalledTurn)
      (queue : Option FollowUpQueue) : s.queue.items = head :: rest → s.queue.paused = false →
      Fresh s turn → turn.clientRequestId = head.request.clientRequestId →
      (∀ q ∈ queue, q = { s.queue with items := s.queue.items.filter (·.id ≠ head.id) }) →
      Handles E io now s .drain
        { queue, turns := [turn]
          log := if head.automatic then [.continued turn.turnId] else [] }
  | startFailed (message : String) : s.queue.paused = false →
      Handles E io now s .drain { queue := s.queue.pause .startFailed (some message) }

section Handlers

variable (io : TaskIo) (now : DateTime)

lemma handles_updateQueue
    {change : FollowUpQueue → Except AppError (Option FollowUpQueue)} (htask : task.isTimer = false)
    (h : ∀ queue, change s.queue = .ok (some queue) → Handles E io now s task { queue }) :
    ∃ o, Handles E io now s task o ∧ o.Leads s (updateQueue E save change s).2 := by
  rcases updateQueue_cases (E := E) save change s with hs | ⟨queue, hq, hs⟩
  · rw [hs]
    exact ⟨{}, .nothing task htask, leads_untouched (untouched_self s) rfl⟩
  · rw [hs]
    exact ⟨_, h queue hq, leads_setQueue queue [] rfl rfl (by simp) rfl rfl id⟩

lemma handles_pauseFollowUps (htask : task.isTimer = false)
    (hs : reason ≠ .scheduled) (hl : reason ≠ .rateLimited) (s : Conversation) :
    ∃ o, Handles E io now s task o ∧ o.Leads s (pauseFollowUps E io.save reason s).2 := by
  refine handles_updateQueue io now htask fun queue hq => ?_
  simp only [Except.ok.injEq] at hq
  split at hq
  · cases hq
  · cases hq
    exact .paused task reason htask hs hl

lemma handles_settle (turn : Option String) (exhausted : Option DateTime) (s : Conversation) :
    ∃ o, Handles E io now s (.afterTurn turn .completed exhausted) o ∧
      o.Leads s (((settleRateLimitAfterCompletion E io.save s).2.note .completed).spawn .drain) := by
  rw [settleRateLimitAfterCompletion]
  rcases updateQueue_cases (E := E) io.save (fun queue => .ok queue.settle) s with
    hs | ⟨queue, hq, hs⟩
  · rw [hs]
    exact ⟨_, .spawned _ .drain [.completed] rfl rfl (by simp),
      ⟨rfl, by simp [Conversation.spawn, Conversation.note], rfl, rfl, rfl, id⟩⟩
  · rw [hs]
    exact ⟨_, .settled turn exhausted queue (Except.ok.inj hq),
      ⟨rfl, by simp [Conversation.spawn, Conversation.note], rfl, rfl, rfl, id⟩⟩

lemma handles_wait (turnId : String) (reset : DateTime) (s : Conversation) :
    ∃ o, Handles E io now s (.afterTurn (some turnId) .failed (some reset)) o ∧
      o.Leads s (waitForRateLimitReset E io.wait turnId reset s) := by
  rw [waitForRateLimitReset]
  split
  · exact ⟨_, .spawned _ .pauseFailed [] rfl rfl (by simp),
      ⟨rfl, by simp [Conversation.spawn], rfl, by simp [Conversation.spawn], rfl, id⟩⟩
  · dsimp only
    -- a save that fails, after the failure was noted
    have hf : ∃ o, Handles E io now s (.afterTurn (some turnId) .failed (some reset)) o ∧
        o.Leads s ((s.note (.limitHit (wasContinuation (turnRequest s turnId)))).spawn
          .pauseFailed) :=
      ⟨_, .spawned _ .pauseFailed [.limitHit (wasContinuation (turnRequest s turnId))] rfl rfl
        (by simp), ⟨rfl, by simp [Conversation.spawn, Conversation.note], rfl, rfl, rfl, id⟩⟩
    split
    · next hmax =>
      have hgave (tasks : List Task) (ht : ∀ task ∈ tasks, task.isTimer = false) :
          Handles E io now s (.afterTurn (some turnId) .failed (some reset)) _ :=
        .gaveUp turnId reset tasks ht hmax
      rcases saveFollowUps_cases (E := E) io.wait.save
        (s.queue.countFailure (turnRequest s turnId)).giveUp
        (s.note (.limitHit (wasContinuation (turnRequest s turnId)))) with ⟨error, h⟩ | h
      · rw [h]
        exact hf
      · rw [h]
        cases io.wait.save.published with
        | some error =>
          exact ⟨_, hgave [.pauseFailed] (by simp [Task.isTimer]),
            ⟨rfl, by simp [Conversation.spawn, Conversation.note], rfl, rfl, rfl, id⟩⟩
        | none =>
          exact ⟨_, hgave [] (by simp),
            ⟨rfl, by simp [Conversation.note], by simp [Conversation.note], rfl, rfl, id⟩⟩
    · next hmax =>
      rw [not_le] at hmax
      have hheld : (s.queue.countFailure (turnRequest s turnId)).heldByUser = s.queue.heldByUser :=
        rfl
      rcases saveFollowUps_cases (E := E) io.wait.save (waitingQueue E s turnId reset io.wait.now)
        (s.note (.limitHit (wasContinuation (turnRequest s turnId)))) with ⟨error, h⟩ | h
      · rw [waitingQueue] at h
        rw [h]
        exact hf
      · rw [waitingQueue] at h
        rw [h]
        cases hp : io.wait.save.published with
        | some error =>
          exact ⟨_, .waits turnId reset [.pauseFailed] (by simp [Task.isTimer]) hmax
            (.inr (by simp [hp])),
            ⟨rfl, by simp [Conversation.spawn, Conversation.note], rfl, rfl, rfl, id⟩⟩
        | none =>
          dsimp only
          split
          · next held =>
            exact ⟨_, .waits turnId reset [] (by simp) hmax (.inl held),
              ⟨rfl, by simp [Conversation.note], by simp [Conversation.note], rfl, rfl, id⟩⟩
          · next held =>
            refine ⟨_, .armed turnId reset _ _ rfl hmax rfl (by simpa [hheld] using held),
              ⟨rfl, by simp [Conversation.spawn, Conversation.note], rfl, ?_, rfl, id⟩⟩
            simp [Conversation.spawn, Conversation.note]

/-- Removing the delivered head, whether or not that can be saved. -/
lemma saveFollowUps_leads (save : SaveIo) (queue : FollowUpQueue) (s s₀ : Conversation)
    (turns : List JournalledTurn) (log : List Log)
    (hs : s₀.saved = s.saved) (ht : s₀.tasks = s.tasks) (hl : s₀.legacy = s.legacy)
    (hdown : s.shuttingDown = true → s₀.shuttingDown = true)
    (hj : s₀.journal = s.journal ++ turns) (hlog : s₀.log = s.log ++ log) :
    ∃ q : Option FollowUpQueue, (∀ x ∈ q, x = queue) ∧
      Outcome.Leads { queue := q, turns, log } s (saveFollowUps E save queue s₀).2 := by
  rcases saveFollowUps_cases (E := E) save queue s₀ with ⟨error, h⟩ | h
  · rw [h]
    exact ⟨none, by simp, ⟨hs, hj, by simpa using ht, hlog, hl, hdown⟩⟩
  · rw [h]
    exact ⟨some queue, by simp, ⟨rfl, hj, by simpa using ht, hlog, hl, hdown⟩⟩

lemma handles_drain (s : Conversation) :
    ∃ o, Handles E io now s .drain o ∧ o.Leads s (drainFollowUps E io.drain s).2 := by
  have hn : ∃ o, Handles E io now s .drain o ∧ o.Leads s s :=
    ⟨{}, .nothing _ rfl, leads_untouched (untouched_self s) rfl⟩
  rw [drainFollowUps]
  split
  · exact hn
  · split
    · exact hn
    · next head rest hi =>
      split
      · exact hn
      · next hp =>
        rw [Bool.not_eq_true] at hp
        split
        · exact hn
        · have hpr := prompted_promptInner (E := E) io.drain.prompt head.request s
          generalize promptInner E io.drain.prompt head.request s = r at hpr
          cases hpr with
          | refused error s' h hj =>
            dsimp only
            rcases saveFollowUps_cases (E := E) io.drain.save
              (s.queue.pause .startFailed (some error.display)) s' with ⟨e, hsave⟩ | hsave
            · rw [hsave]
              exact ⟨{}, .nothing _ rfl, leads_untouched h hj⟩
            · rw [hsave]
              exact ⟨_, .startFailed error.display hp, leads_setQueue _ [] rfl hj
                (by simpa using h.tasks) h.log h.legacy h.down⟩
          | recorded turn hturn hid =>
            have hsame : noteContinued head turn.turnId s s = s := by simp [noteContinued]
            dsimp only
            rw [hsame]
            obtain ⟨q, hq, hl⟩ := saveFollowUps_leads (E := E) io.drain.save
              { s.queue with items := s.queue.items.filter (·.id ≠ head.id) } s s [] []
              rfl rfl rfl id (by simp) (by simp)
            exact ⟨_, .recorded head rest turn q hi hp hturn hid hq, hl⟩
          | started turn s' h hid hf hj =>
            dsimp only
            obtain ⟨q, hq, hl⟩ := saveFollowUps_leads (E := E) io.drain.save
              { s.queue with items := s.queue.items.filter (·.id ≠ head.id) } s
              (noteContinued head turn.turnId s s') [turn]
              (if head.automatic then [.continued turn.turnId] else [])
              (by rw [noteContinued]; split <;> exact h.saved)
              (by rw [noteContinued]; split <;> exact h.tasks)
              (by rw [noteContinued]; split <;> exact h.legacy)
              (by rw [noteContinued]; split <;> exact h.down)
              (by rw [noteContinued]; split <;> exact hj)
              (by cases hauto : head.automatic <;>
                simp [noteContinued, hauto, hj, Conversation.note, h.log])
            exact ⟨_, .delivered head rest turn q hi hp
              (fun other ho id hturn => hf other ho id (hid ▸ hturn)) hid hq, hl⟩

lemma handles_rateLimitTimer (resumeAt : DateTime) (s : Conversation) :
    ∃ o, Handles E io now s (.rateLimitTimer resumeAt) o ∧ o.Leads s (resumeAfterRateLimit E io resumeAt now s) := by
  rw [resumeAfterRateLimit]
  split
  · next hdown => exact ⟨{}, .stale _ (.inl hdown), leads_untouched (untouched_self s) rfl⟩
  · split
    · next hs =>
      refine ⟨{}, .stale _ (.inr (.inl fun hw => ?_)), leads_untouched (untouched_self s) rfl⟩
      simp [hw.1, hw.2] at hs
    · next hw =>
      have hw : s.queue.WaitsFor (.rateLimitTimer resumeAt) := by
        simpa [FollowUpQueue.WaitsFor] using hw
      by_cases hc : Commits E io.save s.queue.unpause
      · rw [saveFollowUps_of_commits hc]
        cases io.save.published with
        | some error =>
          exact ⟨_, .woken _ [] [] hw (by simp) (by simp),
            leads_setQueue _ [] rfl rfl (by simp) rfl rfl id⟩
        | none =>
          exact ⟨_, .woken _ [.drain] [.lifted resumeAt now] hw (by simp [Task.isTimer])
            (by simp), ⟨rfl, by simp [Conversation.spawn, Conversation.note], rfl, rfl, rfl, id⟩⟩
      · refine ⟨{}, .stale _ (.inr (.inr (.inl hc))), ?_⟩
        obtain ⟨error, h⟩ := saveFollowUps_of_not_commits (s := s) hc
        rw [h]
        exact leads_untouched (untouched_self s) rfl

lemma handles_scheduleTimer (due : DateTime) (s : Conversation) :
    ∃ o, Handles E io now s (.scheduleTimer due) o ∧ o.Leads s (sendScheduled E io due s) := by
  rw [sendScheduled]
  split
  · next hdown => exact ⟨{}, .stale _ (.inl hdown), leads_untouched (untouched_self s) rfl⟩
  · split
    · next hs =>
      refine ⟨{}, .stale _ (.inr (.inl fun hw => ?_)), leads_untouched (untouched_self s) rfl⟩
      simp [hw.1, hw.2] at hs
    · next hw =>
      have hw : s.queue.WaitsFor (.scheduleTimer due) := by
        simpa [FollowUpQueue.WaitsFor] using hw
      split
      · next hset =>
        exact ⟨{}, .stale _ (.inr (.inr (.inr ⟨⟨due, rfl⟩, by simp [hset]⟩))),
          leads_untouched (untouched_self s) rfl⟩
      · by_cases hc : Commits E io.save s.queue.unpause
        · rw [saveFollowUps_of_commits hc]
          cases io.save.published with
          | some error =>
            exact ⟨_, .woken _ [] [] hw (by simp) (by simp),
              leads_setQueue _ [] rfl rfl (by simp) rfl rfl id⟩
          | none =>
            exact ⟨_, .woken _ [.drain] [] hw (by simp [Task.isTimer]) (by simp),
              leads_setQueue _ _ rfl rfl rfl rfl rfl id⟩
        · refine ⟨{}, .stale _ (.inr (.inr (.inl hc))), ?_⟩
          obtain ⟨error, h⟩ := saveFollowUps_of_not_commits (s := { s with schedule := none }) hc
          rw [h]
          exact leads_untouched ⟨rfl, rfl, rfl, rfl, id⟩ rfl

lemma handles_afterTurn (turn : Option String) (terminal : Terminal) (exhausted : Option DateTime)
    (s : Conversation) : ∃ o, Handles E io now s (.afterTurn turn terminal exhausted) o ∧
      o.Leads s (afterTurn E io turn terminal exhausted s) := by
  unfold afterTurn
  split
  · exact handles_settle io now _ _ s
  · exact ⟨_, .spawned _ .drain [] rfl rfl (by simp),
      ⟨rfl, by simp [Conversation.spawn], rfl, by simp [Conversation.spawn], rfl, id⟩⟩
  · exact handles_wait io now _ _ s
  · refine handles_pauseFollowUps io now rfl ?_ ?_ s <;> cases terminal <;> simp [pauseAfter]

/-- Everything spawned work can do. -/
lemma handles_handle (task : Task) (s : Conversation) :
    ∃ o, Handles E io now s task o ∧ o.Leads s (handle E io now task s) := by
  cases task with
  | afterTurn turn terminal exhausted => exact handles_afterTurn io now turn terminal exhausted s
  | drain => exact handles_drain io now s
  | pauseFailed => exact handles_pauseFollowUps io now rfl (by simp) (by simp) s
  | rateLimitTimer resumeAt => exact handles_rateLimitTimer io now resumeAt s
  | scheduleTimer due => exact handles_scheduleTimer io now due s

end Handlers

/-! ### Restarts -/

/-- What a restart leaves: no spawned work, and at most the queue of an older daemon. -/
structure Restarted (s s' : Conversation) : Prop where
  tasks : s'.tasks = []
  journal : s'.journal = s.journal
  log : s'.log = s.log ++ [.restarted]
  legacy : s'.legacy = s.legacy ∨ s'.legacy = none
  queue : s'.queue = {} ∨ ∃ queue ∈ s.legacy, s'.queue = queue.imported

lemma restarted_removeLegacy (io : RestartIo) (h : Restarted s s') : Restarted s (removeLegacy io s') := by
  rw [removeLegacy]
  split
  · exact h
  · exact { h with legacy := .inr rfl }

lemma restarted_restart (io : RestartIo) (s : Conversation) : Restarted s (restart E io s) := by
  rw [restart]
  have hi {s' : Conversation} (h : Restarted s s') : Restarted s (interruptSchedule io s') := by
    rw [interruptSchedule]
    split
    · exact h
    · exact { h with }
  apply hi
  rw [importLegacyFollowUps]
  split
  · exact ⟨rfl, rfl, rfl, .inl rfl, .inl rfl⟩
  · next queue hl =>
    split
    · rcases commitFollowUps_cases (E := E) io.save queue.imported
        { saved := none, active := none, tasks := [], shuttingDown := false, schedule := s.schedule
          journal := s.journal, lastRequest := s.lastRequest, legacy := s.legacy
          log := s.log ++ [.restarted] } with ⟨error, h⟩ | h
      · rw [h]
        exact ⟨rfl, rfl, rfl, .inl rfl, .inl rfl⟩
      · rw [h]
        exact restarted_removeLegacy io ⟨rfl, rfl, rfl, .inl rfl,
          .inr ⟨queue, hl, queue_setQueue_of_paused rfl _⟩⟩
    · exact restarted_removeLegacy io ⟨rfl, rfl, rfl, .inl rfl, .inl rfl⟩

/-! ### Runs -/

/-- The state without a task that is about to run. -/
def Conversation.pop (s : Conversation) (task : Task) : Conversation :=
  { s with tasks := s.tasks.erase task }

/-- Everything a step can do. -/
inductive Stepped (E : Environment) (s : Conversation) : Op → Conversation → Prop
  | does (op : Op) (o : Outcome) (s' : Conversation) : Does E s op o → o.Leads s s' →
      Stepped E s op s'
  | handles (io : TaskIo) (now : DateTime) (task : Task) (o : Outcome) (s' : Conversation) :
      task ∈ s.tasks → task.due now = true → Handles E io now (s.pop task) task o →
      o.Leads (s.pop task) s' → Stepped E s (.task io now task) s'
  | restarted (io : RestartIo) (s' : Conversation) : Restarted s s' → Stepped E s (.restart io) s'

lemma stepped_step (s : Conversation) (op : Op) : Stepped E s op (step E s op) := by
  by_cases htask : ∃ io now task, op = .task io now task
  · obtain ⟨io, now, task, rfl⟩ := htask
    rw [step, runTask]
    split
    · next hmem =>
      obtain ⟨o, ho, hl⟩ := handles_handle (E := E) io now task (s.pop task)
      exact .handles io now task o _ hmem.1 hmem.2 ho hl
    · exact .does _ {} _ (.nothing _) (leads_untouched (untouched_self s) rfl)
  · by_cases hr : ∃ io, op = .restart io
    · obtain ⟨io, rfl⟩ := hr
      exact .restarted io _ (restarted_restart io s)
    · obtain ⟨o, ho, hl⟩ := does_step (E := E) s op
        (fun io now task h => htask ⟨io, now, task, h⟩) fun io h => hr ⟨io, h⟩
      exact .does op o _ ho hl

end Todex
