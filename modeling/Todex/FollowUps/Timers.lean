import Todex.FollowUps.Effects

/-!
# Waiting queues and their timers

A queue paused as scheduled or rate limited waits for a timer. The handler of a timer acts only if
the queue still waits for the instant the timer was armed for, so a queue whose timer is missing or
armed for another instant waits until a client lifts the pause.
-/

namespace Todex

/-- The queue waits for an instant. -/
def FollowUpQueue.timed (queue : FollowUpQueue) : Bool := queue.scheduled || queue.rateLimited

instance (queue : FollowUpQueue) : (task : Task) → Decidable (queue.WaitsFor task)
  | .rateLimitTimer resumeAt =>
    inferInstanceAs (Decidable (queue.rateLimited = true ∧ queue.resumeAt = some resumeAt))
  | .scheduleTimer due =>
    inferInstanceAs (Decidable (queue.scheduled = true ∧ queue.resumeAt = some due))
  | .afterTurn .. | .drain | .pauseFailed => inferInstanceAs (Decidable False)

/-- A waiting queue has a timer that its handler recognises. -/
def Armed (s : Conversation) : Prop :=
  s.queue.timed = true → ∃ task ∈ s.tasks, s.queue.WaitsFor task

instance (s : Conversation) : Decidable (Armed s) :=
  inferInstanceAs (Decidable (s.queue.timed = true → ∃ task ∈ s.tasks, s.queue.WaitsFor task))

variable {E : Environment} {s s' : Conversation}

/-! ### Queues that wait as before -/

/-- The pause is the same. -/
structure SamePause (queue queue' : FollowUpQueue) : Prop where
  paused : queue'.paused = queue.paused
  pauseReason : queue'.pauseReason = queue.pauseReason
  resumeAt : queue'.resumeAt = queue.resumeAt

variable {queue queue' : FollowUpQueue}

lemma SamePause.timed (h : SamePause queue queue') : queue'.timed = queue.timed := by
  simp [FollowUpQueue.timed, FollowUpQueue.scheduled, FollowUpQueue.rateLimited, h.paused,
    h.pauseReason]

lemma SamePause.waitsFor (h : SamePause queue queue') (task : Task) : queue'.WaitsFor task ↔ queue.WaitsFor task := by
  cases task <;> simp [FollowUpQueue.WaitsFor, FollowUpQueue.scheduled, FollowUpQueue.rateLimited,
    h.paused, h.pauseReason, h.resumeAt]

lemma timed_of_not_paused (h : queue.paused = false) : queue.timed = false := by
  simp [FollowUpQueue.timed, FollowUpQueue.scheduled, FollowUpQueue.rateLimited, h]

lemma timed_pause (hs : reason ≠ .scheduled)
    (hl : reason ≠ .rateLimited) (queue : FollowUpQueue) (message : Option String) :
    (queue.pause reason message).timed = false := by
  simp [FollowUpQueue.timed, FollowUpQueue.scheduled, FollowUpQueue.rateLimited,
    FollowUpQueue.pause, hs, hl]

/-- Changes that leave no wait, or the same. -/
def Settles (queue queue' : FollowUpQueue) : Prop :=
  queue'.timed = false ∨ SamePause queue queue'

lemma settles_unpauseIfEmpty (h : SamePause queue queue') : Settles queue queue'.unpauseIfEmpty := by
  rw [FollowUpQueue.unpauseIfEmpty]
  split
  · exact .inl (timed_of_not_paused rfl)
  · exact .inr h

lemma settles_add (queue : FollowUpQueue) (item : FollowUpItem) (front paused : Bool) :
    Settles queue (queue.add item front paused) := by
  rw [FollowUpQueue.add]
  generalize (if front = true then item :: queue.items else queue.items ++ [item]) = items
  split
  · exact .inl (timed_pause (by simp) (by simp) _ _)
  · exact .inr ⟨rfl, rfl, rfl⟩

lemma settles_unschedule (queue : FollowUpQueue) : Settles queue queue.unschedule := by
  rw [FollowUpQueue.unschedule]
  split
  · exact .inl (timed_pause (by simp) (by simp) _ _)
  · exact .inl (timed_of_not_paused rfl)

lemma settles_settle (h : queue.settle = some queue') : Settles queue queue' := by
  rw [FollowUpQueue.settle] at h
  dsimp only at h
  split at h
  · cases h
    exact .inl (timed_of_not_paused rfl)
  · split at h
    · cases h
      exact .inr ⟨rfl, rfl, rfl⟩
    · cases h

lemma settles_giveUp (queue : FollowUpQueue) (request : Option ConversationPrompt) :
    Settles queue (queue.countFailure request).giveUp := by
  rw [FollowUpQueue.giveUp]
  split
  · exact .inr ⟨rfl, rfl, rfl⟩
  · refine .inl ?_
    simp [FollowUpQueue.timed, FollowUpQueue.scheduled, FollowUpQueue.rateLimited,
      FollowUpQueue.pause]

lemma queue_setQueue_of_timed (h : queue.timed = true) : (s.setQueue queue).queue = queue := by
  refine queue_setQueue_of_paused ?_ s
  cases hp : queue.paused with
  | true => rfl
  | false => rw [timed_of_not_paused hp] at h; cases h

lemma timed_setQueue (queue : FollowUpQueue) (h : (s.setQueue queue).queue.timed = true) : queue.timed = true := by
  rw [queue_setQueue] at h
  split at h
  · cases h
  · exact h

/-! ### Steps -/

variable {o : Outcome}

lemma Outcome.Leads.queue_eq (h : o.Leads s s') : s'.queue = (o.queue.elim s (s.setQueue ·)).queue := by
  rw [Conversation.queue, h.saved, Conversation.queue]

variable {task : Task}

lemma Outcome.Leads.mem_tasks (h : o.Leads s s') (htask : task ∈ s.tasks) : task ∈ s'.tasks := by
  rw [h.tasks]
  exact List.mem_append_left _ htask

lemma Armed.leads_none (h : Armed s) (hl : o.Leads s s') (hq : o.queue = none) : Armed s' := by
  intro ht
  rw [hl.queue_eq, hq] at ht ⊢
  obtain ⟨task, htask, hw⟩ := h ht
  exact ⟨task, hl.mem_tasks htask, hw⟩

/-- So does one that saves a queue that does not wait, or waits as before. -/
lemma Armed.leads_some (h : Armed s) (hl : o.Leads s s')
    (hq : o.queue = some queue) (hs : Settles s.queue queue) : Armed s' := by
  intro ht
  rw [hl.queue_eq, hq, Option.elim_some] at ht ⊢
  have hqt := timed_setQueue queue ht
  rw [queue_setQueue_of_timed hqt]
  rcases hs with hnone | hsame
  · rw [hnone] at hqt
    cases hqt
  · obtain ⟨task, htask, hw⟩ := h (hsame.timed ▸ hqt)
    exact ⟨task, hl.mem_tasks htask, (hsame.waitsFor task).mpr hw⟩

lemma armed_of_leads (hl : o.Leads s s') (hq : o.queue = some queue) (htask : task ∈ o.tasks)
    (hw : queue.WaitsFor task) : Armed s' := by
  intro ht
  rw [hl.queue_eq, hq, Option.elim_some] at ht ⊢
  rw [queue_setQueue_of_timed (timed_setQueue queue ht)]
  refine ⟨task, ?_, hw⟩
  rw [hl.tasks]
  exact List.mem_append_right _ htask

/-- The answers a step needs so that no waiting queue is left without its timer: what is published
after a wait began is published, no wait for a rate limit begins under a schedule, and what a timer
writes is written. -/
def Op.Reliable (E : Environment) (s : Conversation) : Op → Prop
  | .schedule io _ _ => io.save.published = none
  | .task io _ (.afterTurn (some _) .failed (some _)) =>
    io.wait.save.published = none ∧ s.queue.scheduled = false
  | .task io _ (.rateLimitTimer _) => Commits E io.save s.queue.unpause
  | .task io _ (.scheduleTimer _) => Commits E io.save s.queue.unpause ∧ io.scheduleSet = none
  | _ => True

lemma Armed.does (h : Armed s) (hop : op.Reliable E s)
    (hdoes : Does E s op o) (hl : o.Leads s s') : Armed s' := by
  cases hdoes with
  | nothing | prompted | spawned => exact h.leads_none hl rfl
  | added io itemId prompt front paused item tasks =>
    exact h.leads_some hl rfl (settles_add s.queue item front paused)
  | removed | taken | cleared =>
    exact h.leads_some hl rfl (settles_unpauseIfEmpty ⟨rfl, rfl, rfl⟩)
  | paused => exact h.leads_some hl rfl (.inl (timed_pause (by simp) (by simp) _ _))
  | resumed => exact h.leads_some hl rfl (.inl (timed_of_not_paused rfl))
  | scheduled io due now =>
    refine armed_of_leads hl rfl ?_ (show (s.queue.holdUntil due).WaitsFor
      (.scheduleTimer due) from ⟨rfl, rfl⟩)
    simp [show io.save.published = none from hop]
  | unscheduled => exact h.leads_some hl rfl (settles_unschedule s.queue)

/-- A timer that is about to run is missing only from the queue that waits for it. -/
lemma Armed.pop (h : Armed s) (htask : ¬ s.queue.WaitsFor task) : Armed (s.pop task) := by
  intro ht
  obtain ⟨other, ho, hw⟩ := h ht
  refine ⟨other, ?_, hw⟩
  have hne : other ≠ task := by
    rintro rfl
    exact htask hw
  exact (List.mem_erase_of_ne hne).mpr ho

lemma not_waitsFor_of_isTimer (h : task.isTimer = false) (queue : FollowUpQueue) : ¬ queue.WaitsFor task := by
  cases task <;> simp_all [Task.isTimer, FollowUpQueue.WaitsFor]

lemma samePause_addContinuation (queue : FollowUpQueue) (request : Option ConversationPrompt)
    (turnId : String) (now : DateTime) :
    SamePause queue ((queue.countFailure request).addContinuation request turnId now) := by
  rw [FollowUpQueue.addContinuation]
  split <;> exact ⟨rfl, rfl, rfl⟩

lemma SamePause.heldByUser (h : SamePause queue queue') : queue'.heldByUser = queue.heldByUser := by
  rw [FollowUpQueue.heldByUser, h.paused, h.pauseReason, FollowUpQueue.heldByUser]

lemma waitsFor_waitingQueue
    (hheld : s.queue.heldByUser = false) : (waitingQueue E s turnId reset now).WaitsFor
      (.rateLimitTimer (rateLimitResumeAt reset now
        (s.queue.countFailure (turnRequest s turnId)).rateLimitFailures E.retryFloor)) := by
  have hsame := samePause_addContinuation s.queue (turnRequest s turnId) turnId now
  simp [waitingQueue, FollowUpQueue.awaitReset, hsame.heldByUser, hheld, FollowUpQueue.WaitsFor,
    FollowUpQueue.rateLimited, FollowUpQueue.pause]

lemma timed_waitingQueue (hheld : s.queue.heldByUser = true) (hs : s.queue.scheduled = false) :
    (waitingQueue E s turnId reset now).timed = false := by
  have hsame := samePause_addContinuation s.queue (turnRequest s turnId) turnId now
  have hl : s.queue.rateLimited = false := by
    rw [FollowUpQueue.heldByUser, Bool.and_eq_true] at hheld
    rw [FollowUpQueue.rateLimited, hheld.1, Bool.true_and, decide_eq_false_iff_not]
    intro hr
    rw [hr] at hheld
    exact absurd hheld.2 (by decide)
  simp only [FollowUpQueue.timed, FollowUpQueue.scheduled, FollowUpQueue.rateLimited, waitingQueue,
    FollowUpQueue.awaitReset, hsame.heldByUser, hheld, if_true, hsame.paused, hsame.pauseReason]
  exact Bool.or_eq_false_iff.mpr ⟨hs, hl⟩

lemma Armed.handles (h : Armed s) (hop : (Op.task io now task).Reliable E s) (hdown : s.shuttingDown = false)
    (hh : Handles E io now (s.pop task) task o) (hl : o.Leads (s.pop task) s') : Armed s' := by
  have hpop (ht : task.isTimer = false) : Armed (s.pop task) :=
    h.pop (not_waitsFor_of_isTimer ht s.queue)
  cases hh with
  | nothing task ht => exact (hpop ht).leads_none hl rfl
  | stale task hs =>
    refine (h.pop fun hw => ?_).leads_none hl rfl
    -- a timer the queue waits for is not stale, as what it writes is written
    have hwritten : Commits E io.save s.queue.unpause := by
      cases task with
      | rateLimitTimer resumeAt => exact hop
      | scheduleTimer due => exact hop.1
      | afterTurn | drain | pauseFailed => exact hw.elim
    rcases hs with hs | hs | hs | ⟨⟨due, rfl⟩, hs⟩
    · exact absurd (hdown.symm.trans hs) (by simp)
    · exact hs hw
    · exact hs hwritten
    · simp [hop.2] at hs
  | woken task tasks log hw =>
    intro hti
    rw [hl.queue_eq] at hti
    cases timed_setQueue _ hti
  | spawned task spawned log ht => exact (hpop ht).leads_none hl rfl
  | settled turn exhausted queue hq =>
    exact (hpop rfl).leads_some hl rfl (settles_settle hq)
  | paused task reason ht hsc hli =>
    exact (hpop ht).leads_some hl rfl (.inl (timed_pause hsc hli _ _))
  | gaveUp turnId reset tasks =>
    exact (hpop rfl).leads_some hl rfl (settles_giveUp _ _)
  | waits turnId reset tasks _ _ hheld =>
    have hheld : s.queue.heldByUser = true := hheld.resolve_right (by simp [hop.1])
    exact (hpop rfl).leads_some hl rfl (.inl (timed_waitingQueue hheld hop.2))
  | armed turnId reset resumeAt failures hf _ hra hheld =>
    subst hf hra
    exact armed_of_leads hl rfl List.mem_cons_self (waitsFor_waitingQueue hheld)
  | recorded head rest turn queue hi hp _ _ hq =>
    cases queue with
    | none => exact (hpop rfl).leads_none hl rfl
    | some queue =>
      exact (hpop rfl).leads_some hl rfl
        (.inl (timed_of_not_paused (by rw [hq queue rfl]; exact hp)))
  | delivered head rest turn queue hi hp _ _ hq =>
    cases queue with
    | none => exact (hpop rfl).leads_none hl rfl
    | some queue =>
      exact (hpop rfl).leads_some hl rfl
        (.inl (timed_of_not_paused (by rw [hq queue rfl]; exact hp)))
  | startFailed message =>
    exact (hpop rfl).leads_some hl rfl (.inl (timed_pause (by simp) (by simp) _ _))

/-! ### Runs -/

/-- Every step of a run gets reliable answers. -/
def Reliable (E : Environment) (s : Conversation) : List Op → Prop
  | [] => True
  | op :: ops => op.Reliable E s ∧ Reliable E (step E s op) ops

/-- Unless the daemon shuts down, a waiting queue has its timer. -/
def WakesUp (s : Conversation) : Prop := s.shuttingDown = false → Armed s

lemma wakesUp_step (h : WakesUp s) (hop : op.Reliable E s) : WakesUp (step E s op) := by
  have hs := stepped_step (E := E) s op
  generalize step E s op = s' at hs
  intro hdown'
  cases hs with
  | does op o s' hdoes hl =>
    have hdown : s.shuttingDown = false := by
      cases hdown : s.shuttingDown with
      | false => rfl
      | true => rw [hl.down hdown] at hdown'; cases hdown'
    exact (h hdown).does hop hdoes hl
  | handles io now task o s' hmem hdue hh hl =>
    have hdown : s.shuttingDown = false := by
      cases hdown : s.shuttingDown with
      | false => rfl
      | true => rw [hl.down hdown] at hdown'; cases hdown'
    exact (h hdown).handles hop hdown hh hl
  | restarted io s' hr =>
    intro ht
    rcases hr.queue with hq | ⟨queue, -, hq⟩
    · rw [hq] at ht
      cases ht
    · have hi : queue.imported.timed = false := timed_pause (by simp) (by simp) queue none
      rw [hq, hi] at ht
      cases ht

/-- In every run whose steps get reliable answers, a queue paused as scheduled or rate limited has a
timer armed for its resume time. -/
theorem wakesUp_run (E : Environment) (legacy : Option FollowUpQueue) (ops : List Op)
    (hops : Reliable E { legacy } ops) : WakesUp (run E { legacy } ops) := by
  have hs : WakesUp { legacy } := fun _ ht => by cases ht
  generalize ({ legacy } : Conversation) = s at hops hs
  induction ops generalizing s with
  | nil => exact hs
  | cons op ops ih => exact ih _ hops.2 (wakesUp_step hs hops.1)

instance (s : Conversation) : Decidable (WakesUp s) :=
  inferInstanceAs (Decidable (s.shuttingDown = false → Armed s))

/-- The second after the epoch. -/
def second (n : UInt16) : DateTime :=
  ⟨n.toNat * 1000000000, by have := n.toNat_lt; simp only [minNanos, maxNanos]; omega⟩

/-- Answers without an error. -/
def plainTask : TaskIo where
  wait := { now := second 20 }
  drain := { prompt := { turnId := "next" } }

theorem wakesUp_run_schedule :
    (run .simple {} [.schedule {} (second 100) (second 1)]).queue.scheduled =
        true ∧
      WakesUp (run .simple {} [.schedule {} (second 100) (second 1)]) :=
  ⟨by decide, wakesUp_run .simple none _ ⟨rfl, trivial⟩⟩

/-- A schedule that is saved but cannot be published has no timer. A turn the provider started under
a schedule and that hits its rate limit moves the resume time away from the schedule's timer. -/
theorem not_wakesUp_run :
    ¬ WakesUp (run .simple {} [.schedule { save := { published := some (.other "disk full") } }
      (second 100) (second 1)]) ∧
    ¬ WakesUp (run .simple {} [.schedule {} (second 1000) (second 1),
      .providerTurn { turnId := "turn" }, .ends .failed (some (second 50)),
      .task plainTask (second 20)
        (.afterTurn (some "turn") .failed (some (second 50)))]) := by
  decide

end Todex
