import Todex.FollowUps.Delivery

/-!
# Automatic continuation is bounded

A turn that fails on a rate limit gets a continuation, which the daemon sends itself once the limit
resets. The failures of continuations are counted in the queue, and the count bounds how many are
sent until it starts over.
-/

namespace Todex

/-! ### The count of sent continuations -/

/-- The count of failures starts over here. -/
def Log.startsOver : Log → Bool
  | .completed | .limitHit false | .restarted => true
  | _ => false

def Log.isContinued : Log → Bool
  | .continued _ => true
  | _ => false

/-- The continuations sent since the count last started over. -/
def sentSince (log : List Log) : Nat :=
  log.foldl (fun n entry => if entry.startsOver then 0 else if entry.isContinued then n + 1 else n) 0

lemma sentSince_concat (log : List Log) (entry : Log) :
    sentSince (log ++ [entry]) = if entry.startsOver then 0 else if entry.isContinued then sentSince log + 1
      else sentSince log := by
  rw [sentSince, List.foldl_append]
  rfl

lemma sentSince_append_le (log entries : List Log) :
    sentSince (log ++ entries) ≤ sentSince log + entries.countP Log.isContinued := by
  induction entries using List.reverseRecOn with
  | nil => simp
  | append_singleton entries entry ih =>
    rw [← List.append_assoc, sentSince_concat, List.countP_append, List.countP_singleton]
    split_ifs <;> omega

lemma countP_isContinued_le (before stretch : List Log) (h : ∀ entry ∈ stretch, entry.startsOver = false) :
    stretch.countP Log.isContinued ≤ sentSince (before ++ stretch) := by
  induction stretch using List.reverseRecOn with
  | nil => simp
  | append_singleton stretch entry ih =>
    have he := h entry (by simp)
    have hs := ih fun other ho => h other (by simp [ho])
    rw [← List.append_assoc, sentSince_concat, List.countP_append, List.countP_singleton, he]
    split_ifs <;> simp_all

/-! ### Continuations in the queue -/

/-- The items the daemon queued itself. -/
def FollowUpQueue.automatics (self : FollowUpQueue) : List FollowUpItem :=
  self.items.filter (·.automatic)

/-- At most one item is the daemon's, and its id says so. -/
structure FollowUpQueue.Continuable (queue : FollowUpQueue) : Prop where
  one : queue.automatics.length ≤ 1
  continuation : ∀ item ∈ queue.automatics, isContinuation item.id = true

variable {queue' queue : FollowUpQueue}

lemma FollowUpQueue.Continuable.of_sublist (h : queue.Continuable)
    (hsub : queue'.automatics.Sublist queue.automatics) : queue'.Continuable where
  one := hsub.length_le.trans h.one
  continuation item hitem := h.continuation item (hsub.subset hitem)

/-- Continuations that wait for their turn. -/
def pending (s : Conversation) : Nat :=
  s.queue.automatics.countP fun item => s.journal.all (·.clientRequestId ≠ some item.id)

lemma automatics_of_items_eq (h : queue'.items = queue.items) : queue'.automatics = queue.automatics := by
  rw [FollowUpQueue.automatics, h, FollowUpQueue.automatics]

lemma automatics_sublist (h : queue'.items.Sublist queue.items) :
    queue'.automatics.Sublist queue.automatics :=
  h.filter _

lemma automatics_add (queue : FollowUpQueue) (hc : item.automatic = false)
    (front paused : Bool) : (queue.add item front paused).automatics = queue.automatics := by
  rw [FollowUpQueue.automatics, items_add, FollowUpQueue.automatics]
  split <;> simp [hc]

variable {E : Environment} {s s' : Conversation}

section Failures

variable (queue : FollowUpQueue)

@[simp] lemma rateLimitFailures_add (item : FollowUpItem) (front paused : Bool) :
    (queue.add item front paused).rateLimitFailures = queue.rateLimitFailures := by
  rw [FollowUpQueue.add]
  generalize (if front = true then item :: queue.items else queue.items ++ [item]) = items
  split <;> rfl

@[simp] lemma rateLimitFailures_unpauseIfEmpty :
    queue.unpauseIfEmpty.rateLimitFailures = queue.rateLimitFailures := by
  rw [FollowUpQueue.unpauseIfEmpty]
  split <;> rfl

@[simp] lemma rateLimitFailures_unschedule : queue.unschedule.rateLimitFailures = queue.rateLimitFailures := by
  rw [FollowUpQueue.unschedule]
  split <;> rfl

@[simp] lemma rateLimitFailures_giveUp : queue.giveUp.rateLimitFailures = queue.rateLimitFailures := by
  rw [FollowUpQueue.giveUp]
  split <;> rfl

@[simp] lemma rateLimitFailures_awaitReset (resumeAt : DateTime) :
    (queue.awaitReset resumeAt).rateLimitFailures = queue.rateLimitFailures := by
  rw [FollowUpQueue.awaitReset]
  dsimp only
  split <;> rfl

@[simp] lemma rateLimitFailures_addContinuation (request : Option ConversationPrompt)
    (turnId : String) (now : DateTime) :
    (queue.addContinuation request turnId now).rateLimitFailures = queue.rateLimitFailures := by
  rw [FollowUpQueue.addContinuation]
  split <;> rfl

end Failures

lemma automatics_setQueue (queue : FollowUpQueue) (s : Conversation) :
    (s.setQueue queue).queue.automatics = queue.automatics :=
  automatics_of_items_eq (items_setQueue queue s)

lemma pending_le_length (s : Conversation) : pending s ≤ s.queue.automatics.length :=
  List.countP_le_length

/-- Fewer items and more turns leave fewer pending continuations. -/
lemma pending_le (hj : s'.journal = s.journal ++ turns)
    (hsub : s'.queue.automatics.Sublist s.queue.automatics) : pending s' ≤ pending s := by
  refine le_trans (List.Sublist.countP_le hsub) (List.countP_mono_left fun item _ hnew => ?_)
  rw [hj, List.all_append, Bool.and_eq_true] at hnew
  exact hnew.1

lemma FollowUpQueue.Continuable.waitingQueue (h : s.queue.Continuable) (E : Environment)
    (turnId : String) (reset now : DateTime) :
    (waitingQueue E s turnId reset now).Continuable ∧
      ((waitingQueue E s turnId reset now).automatics = s.queue.automatics ∨ s.queue.automatics = []) := by
  rcases items_waitingQueue E s turnId reset now with
    hi | ⟨item, hi, -, -, hauto, hid, ho⟩
  · have hsame := automatics_of_items_eq hi
    exact ⟨h.of_sublist (by rw [hsame]), .inl hsame⟩
  · have hnil : s.queue.automatics = [] := by
      refine List.eq_nil_iff_forall_not_mem.mpr fun other hmem => ?_
      have hcont := h.continuation other hmem
      rw [ho other (List.mem_of_mem_filter hmem)] at hcont
      cases hcont
    have hone : (Todex.waitingQueue E s turnId reset now).automatics = [item] := by
      rw [FollowUpQueue.automatics] at hnil
      rw [FollowUpQueue.automatics, hi, List.filter_cons_of_pos hauto, hnil]
    refine ⟨⟨by rw [hone]; simp, fun other hmem => ?_⟩, .inr hnil⟩
    rw [hone] at hmem
    rw [List.mem_singleton.mp hmem]
    exact hid

/-! ### The invariant -/

/-- Continuations sent and pending are covered by the failures counted. -/
structure Limited (s : Conversation) : Prop where
  queue : s.queue.Continuable
  legacy : ∀ queue ∈ s.legacy, queue.Continuable
  sent : sentSince s.log + pending s ≤
    min (s.queue.rateLimitFailures + 1) maxRateLimitContinuations
  log : ∀ n, sentSince (s.log.take n) ≤ maxRateLimitContinuations

namespace Limited

variable {o : Outcome}

variable (h : Limited s)

include h

lemma log_append (he : sentSince s.log + entries.countP Log.isContinued ≤ maxRateLimitContinuations)
    (n : Nat) : sentSince ((s.log ++ entries).take n) ≤ maxRateLimitContinuations := by
  rw [List.take_append]
  rcases Nat.lt_or_ge n s.log.length with hlt | hge
  · rw [Nat.sub_eq_zero_of_le (Nat.le_of_lt hlt), List.take_zero, List.append_nil]
    exact h.log n
  · rw [List.take_of_length_le hge]
    have hle := sentSince_append_le s.log (entries.take (n - s.log.length))
    have hc := (List.take_sublist (n - s.log.length) entries).countP_le (p := Log.isContinued)
    omega

lemma sent_le : sentSince s.log ≤ maxRateLimitContinuations := by
  have := h.sent
  omega

/-- A step that neither sends nor adds a continuation, and forgets no failure. -/
lemma keeps (hl : o.Leads s s')
    (hqu : ∀ queue ∈ o.queue, queue.automatics.Sublist s.queue.automatics ∧
      min s.queue.rateLimitFailures 2 ≤ queue.rateLimitFailures)
    (hlog : o.log.countP Log.isContinued = 0) : Limited s' := by
  have hkept : s'.queue.automatics.Sublist s.queue.automatics ∧
      min s.queue.rateLimitFailures 2 ≤ s'.queue.rateLimitFailures := by
    rw [hl.queue_eq]
    cases hq : o.queue with
    | none => exact ⟨.refl _, Nat.min_le_left ..⟩
    | some queue =>
      rw [Option.elim_some, automatics_setQueue, rateLimitFailures_setQueue]
      exact hqu queue hq
  have hsent := h.sent
  have hp := pending_le hl.journal hkept.1
  have he := sentSince_append_le s.log o.log
  refine ⟨h.queue.of_sublist hkept.1, hl.legacy ▸ h.legacy, ?_, ?_⟩
  · rw [hl.log]
    simp only [maxRateLimitContinuations] at hsent ⊢
    omega
  · rw [hl.log]
    exact h.log_append (by rw [hlog]; exact h.sent_le)

lemma starts_over (hl : o.Leads s s')
    (hqu : ∀ queue ∈ o.queue, queue.Continuable) (hlog : o.log.countP Log.isContinued = 0)
    (hover : sentSince (s.log ++ o.log) = 0) : Limited s' := by
  have hcont : s'.queue.Continuable := by
    rw [hl.queue_eq]
    cases hq : o.queue with
    | none => exact h.queue
    | some queue => exact (hqu queue hq).of_sublist (by rw [Option.elim_some, automatics_setQueue])
  refine ⟨hcont, hl.legacy ▸ h.legacy, ?_, ?_⟩
  · have hp := (pending_le_length s').trans hcont.one
    rw [hl.log, hover, maxRateLimitContinuations]
    omega
  · rw [hl.log]
    exact h.log_append (by rw [hlog]; exact h.sent_le)

lemma does (hdoes : Does E s op o) (hl : o.Leads s s') : Limited s' := by
  have hsome {queue : FollowUpQueue} (hsub : queue.automatics.Sublist s.queue.automatics)
      (hco : queue.rateLimitFailures = s.queue.rateLimitFailures) :
      ∀ q ∈ some queue, q.automatics.Sublist s.queue.automatics ∧
        min s.queue.rateLimitFailures 2 ≤ q.rateLimitFailures := by
    rintro _ ⟨⟩
    exact ⟨hsub, by omega⟩
  cases hdoes with
  | nothing | spawned | prompted => exact h.keeps hl (by simp) rfl
  | added io itemId prompt front paused item tasks _ _ _ hc =>
    exact h.keeps hl (hsome (by rw [automatics_add _ hc]) (by simp)) rfl
  | taken =>
    exact h.keeps hl
      (hsome (automatics_sublist (by simpa using List.eraseP_sublist)) (by simp)) rfl
  | paused | resumed | scheduled => exact h.keeps hl (hsome (.refl _) rfl) rfl
  | removed | cleared | unscheduled =>
    exact h.keeps hl (hsome (automatics_sublist (by simp)) (by simp)) rfl

lemma delivered (ha : Accounted s) (hi : s.queue.items = head :: rest)
    (hf : Fresh s turn) (hid : turn.clientRequestId = head.request.clientRequestId)
    (hqu : ∀ q ∈ o.queue, q = { s.queue with items := s.queue.items.filter (·.id ≠ head.id) })
    (ht : o.turns = [turn]) (hlog : o.log = if head.automatic then [.continued turn.turnId] else [])
    (hl : o.Leads s s') : Limited s' := by
  have hkept : ∀ q ∈ o.queue, q.automatics.Sublist s.queue.automatics ∧
      min s.queue.rateLimitFailures 2 ≤ q.rateLimitFailures := by
    intro q hq
    rw [hqu q hq]
    exact ⟨automatics_sublist List.filter_sublist, Nat.min_le_left ..⟩
  cases hauto : head.automatic with
  | false => exact h.keeps hl hkept (by rw [hlog, hauto]; rfl)
  | true =>
    have hhead : head.request.clientRequestId = some head.id :=
      ha.queue.request head (by rw [hi]; exact List.mem_cons_self)
    -- the head was the one pending continuation
    have hlone : s.queue.automatics = [head] := by
      have hone := h.queue.one
      rw [FollowUpQueue.automatics, hi, List.filter_cons_of_pos hauto] at hone ⊢
      rw [List.length_cons] at hone
      rw [List.eq_nil_of_length_eq_zero (l := rest.filter _) (by omega)]
    have hp : pending s = 1 := by
      rw [pending, hlone, List.countP_singleton, if_pos]
      rw [List.all_eq_true]
      intro other ho
      simpa using hf other ho head.id (hid.trans hhead)
    have hsub : s'.queue.automatics.Sublist [head] := by
      rw [← hlone, hl.queue_eq]
      cases hq : o.queue with
      | none => exact .refl _
      | some queue =>
        rw [Option.elim_some, automatics_setQueue]
        exact (hkept queue hq).1
    have hp' : pending s' = 0 := by
      rw [pending, List.countP_eq_zero]
      intro item hitem hnew
      rw [List.mem_singleton.mp (hsub.subset hitem), List.all_eq_true] at hnew
      simpa [hid.trans hhead] using hnew turn (by rw [hl.journal, ht]; simp)
    have hc : s'.queue.rateLimitFailures = s.queue.rateLimitFailures := by
      rw [hl.queue_eq]
      cases hq : o.queue with
      | none => rfl
      | some queue => rw [Option.elim_some, rateLimitFailures_setQueue, hqu queue hq]
    have hsent := h.sent
    rw [hp] at hsent
    rw [hauto, if_pos rfl] at hlog
    refine ⟨h.queue.of_sublist (hlone ▸ hsub), hl.legacy ▸ h.legacy, ?_, ?_⟩
    · rw [hl.log, hlog, sentSince_concat, hp', hc]
      simpa [Log.startsOver, Log.isContinued] using hsent
    · rw [hl.log, hlog]
      refine h.log_append ?_
      rw [List.countP_singleton, Log.isContinued, if_pos rfl]
      omega

lemma waits (hqu : o.queue = some (waitingQueue E s turnId reset now))
    (hc : (s.queue.countFailure (turnRequest s turnId)).rateLimitFailures < maxRateLimitContinuations)
    (hlog : o.log = .limitHit (wasContinuation (turnRequest s turnId)) :: entries)
    (he : ∀ entry ∈ entries, ∃ reset now failures resumeAt, entry = .waits reset now failures resumeAt)
    (hl : o.Leads s s') : Limited s' := by
  have hnone : o.log.countP Log.isContinued = 0 := by
    refine List.countP_eq_zero.mpr fun entry hen => ?_
    rcases List.mem_cons.mp (hlog ▸ hen) with rfl | hen
    · simp [Log.isContinued]
    · obtain ⟨reset, now, failures, resumeAt, rfl⟩ := he entry hen
      simp [Log.isContinued]
  have hw := h.queue.waitingQueue E turnId reset now
  cases hwas : wasContinuation (turnRequest s turnId) with
  | false =>
    refine h.starts_over hl (fun queue hq => ?_) hnone ?_
    · cases hqu.symm.trans hq
      exact hw.1
    · have hle := sentSince_append_le (s.log ++ [.limitHit false]) entries
      rw [hlog, List.countP_cons] at hnone
      rw [sentSince_concat, List.append_assoc, List.singleton_append] at hle
      rw [hlog, hwas]
      simp only [Log.startsOver, if_true] at hle
      omega
  | true =>
    have hf : (waitingQueue E s turnId reset now).rateLimitFailures =
        s.queue.rateLimitFailures + 1 := by
      rw [FollowUpQueue.countFailure, hwas, maxRateLimitContinuations] at hc
      simp only [waitingQueue, rateLimitFailures_awaitReset, rateLimitFailures_addContinuation,
        FollowUpQueue.countFailure, hwas, if_true] at hc ⊢
      omega
    rw [FollowUpQueue.countFailure, hwas, maxRateLimitContinuations] at hc
    simp only [if_true] at hc
    have hsent := h.sent
    have he := sentSince_append_le s.log o.log
    have hqu' : s'.queue = (s.setQueue (waitingQueue E s turnId reset now)).queue := by
      rw [hl.queue_eq, hqu, Option.elim_some]
    have hcont : s'.queue.Continuable :=
      hw.1.of_sublist (by rw [hqu', automatics_setQueue])
    have hp : pending s' ≤ pending s ∨ pending s' ≤ 1 ∧ pending s = 0 := by
      rcases hw.2 with hsame | hnil
      · exact .inl (pending_le hl.journal (by rw [hqu', automatics_setQueue, hsame]))
      · exact .inr ⟨(pending_le_length s').trans hcont.one, by rw [pending, hnil]; rfl⟩
    refine ⟨hcont, hl.legacy ▸ h.legacy, ?_, ?_⟩
    · rw [hl.log, hqu', rateLimitFailures_setQueue, hf]
      simp only [maxRateLimitContinuations] at hsent ⊢
      omega
    · rw [hl.log]
      exact h.log_append (by rw [hnone]; exact h.sent_le)

lemma handles (ha : Accounted s) {io : TaskIo}
    (hh : Handles E io now s task o) (hl : o.Leads s s') : Limited s' := by
  have hsome {queue : FollowUpQueue} (hi : queue.items = s.queue.items)
      (hc : min s.queue.rateLimitFailures 2 ≤ queue.rateLimitFailures) :
      ∀ q ∈ some queue, q.automatics.Sublist s.queue.automatics ∧
        min s.queue.rateLimitFailures 2 ≤ q.rateLimitFailures := by
    rintro _ ⟨⟩
    exact ⟨by rw [automatics_of_items_eq hi], hc⟩
  cases hh with
  | nothing | stale => exact h.keeps hl (by simp) rfl
  | spawned task spawned log _ _ hlog =>
    refine h.keeps hl (by simp) (List.countP_eq_zero.mpr fun entry he => ?_)
    rcases hlog entry he with rfl | ⟨was, rfl⟩ <;> simp [Log.isContinued]
  | woken task tasks log _ _ hlog =>
    refine h.keeps hl (hsome rfl (Nat.min_le_left ..))
      (List.countP_eq_zero.mpr fun entry he => ?_)
    obtain ⟨resumeAt, -, rfl⟩ := hlog entry he
    simp [Log.isContinued]
  | paused | startFailed => exact h.keeps hl (hsome rfl (Nat.min_le_left ..)) rfl
  | settled turn exhausted queue hqu =>
    refine h.starts_over hl ?_ rfl (by rw [sentSince_concat]; rfl)
    rintro _ ⟨⟩
    refine h.queue.of_sublist (automatics_sublist ?_)
    rcases items_settle hqu with hi | hi
    · rw [hi]
    · rw [hi]
      exact List.filter_sublist
  | gaveUp turnId reset tasks _ hmax =>
    refine h.keeps hl (hsome (by simp) ?_) rfl
    rw [maxRateLimitContinuations] at hmax
    rw [rateLimitFailures_giveUp]
    omega
  | waits turnId reset tasks _ hc =>
    exact h.waits rfl hc rfl (by simp) hl
  | armed turnId reset resumeAt failures hf hlt =>
    exact h.waits rfl (hf ▸ hlt) rfl (by simp) hl
  | recorded head rest turn queue _ _ _ _ hqu =>
    refine h.keeps hl (fun q hq => ?_) rfl
    rw [hqu q hq]
    exact ⟨automatics_sublist List.filter_sublist, Nat.min_le_left ..⟩
  | delivered head rest turn queue hi _ hfr hid hqu =>
    exact h.delivered ha hi hfr hid hqu rfl rfl hl

end Limited

lemma limited_step (h : Limited s) (ha : Accounted s) (op : Op) : Limited (step E s op) := by
  have hs := stepped_step (E := E) s op
  generalize step E s op = s' at hs
  cases hs with
  | does op o s' hdoes hle => exact h.does hdoes hle
  | handles io now task o s' hmem hdue hh hle =>
    have hpop : Limited (s.pop task) := ⟨h.queue, h.legacy, h.sent, h.log⟩
    exact hpop.handles ⟨ha.queue, ha.legacy, ha.once⟩ hh hle
  | restarted io s' hr =>
    have hcont : s'.queue.Continuable := by
      rcases hr.queue with hq | ⟨queue, hmem, hq⟩
      · rw [hq]
        exact ⟨Nat.zero_le _, fun _ hitem => nomatch hitem⟩
      · rw [hq]
        exact (h.legacy queue hmem).of_sublist (.refl _)
    refine ⟨hcont, ?_, ?_, ?_⟩
    · rcases hr.legacy with hl | hl
      · rw [hl]
        exact h.legacy
      · simp [hl]
    · have hp := (pending_le_length s').trans hcont.one
      rw [hr.log, sentSince_concat, maxRateLimitContinuations]
      simp only [Log.startsOver, if_true]
      omega
    · rw [hr.log]
      exact h.log_append h.sent_le

lemma limited_run (h : Limited s) (ha : Accounted s) (ops : List Op) : Limited (run E s ops) := by
  induction ops generalizing s with
  | nil => exact h
  | cons op ops ih => exact ih (limited_step h ha op) (accounted_step ha op)

/-! ### Waits -/

/-- A wait until `resumeAt` is noted. -/
def Waited (E : Environment) (log : List Log) (resumeAt : DateTime) : Prop :=
  ∃ reset now failures, .waits reset now failures resumeAt ∈ log ∧
    failures < maxRateLimitContinuations ∧
    resumeAt = rateLimitResumeAt reset now failures E.retryFloor

lemma Waited.mono (h : Waited E log resumeAt) (hsub : log ⊆ log') : Waited E log' resumeAt := by
  obtain ⟨reset, now, failures, hmem, hrest⟩ := h
  exact ⟨reset, now, failures, hsub hmem, hrest⟩

/-- Every timer belongs to a wait, and no wait was lifted early. -/
structure Patient (E : Environment) (s : Conversation) : Prop where
  timer : ∀ resumeAt, .rateLimitTimer resumeAt ∈ s.tasks → Waited E s.log resumeAt
  lifted : ∀ i resumeAt now, s.log[i]? = some (.lifted resumeAt now) →
    resumeAt ≤ now ∧ Waited E (s.log.take i) resumeAt

lemma Patient.leads (h : Patient E s) {o : Outcome} (hl : o.Leads s s')
    (ht : ∀ resumeAt, .rateLimitTimer resumeAt ∈ o.tasks → Waited E o.log resumeAt)
    (hlog : ∀ resumeAt now, .lifted resumeAt now ∈ o.log → resumeAt ≤ now ∧ Waited E s.log resumeAt) :
    Patient E s' where
  timer resumeAt hmem := by
    rw [hl.tasks] at hmem
    rw [hl.log]
    rcases List.mem_append.mp hmem with hmem | hmem
    · exact (h.timer resumeAt hmem).mono (List.subset_append_left ..)
    · exact (ht resumeAt hmem).mono (List.subset_append_right ..)
  lifted i resumeAt now hi := by
    rw [hl.log] at hi ⊢
    rcases Nat.lt_or_ge i s.log.length with hlt | hge
    · rw [List.getElem?_append_left hlt] at hi
      obtain ⟨hle, hw⟩ := h.lifted i resumeAt now hi
      rw [List.take_append_of_le_length hlt.le]
      exact ⟨hle, hw⟩
    · rw [List.getElem?_append_right hge] at hi
      obtain ⟨hle, hw⟩ := hlog resumeAt now (List.mem_of_getElem? hi)
      refine ⟨hle, hw.mono ?_⟩
      rw [List.take_append, List.take_of_length_le hge]
      exact List.subset_append_left ..

lemma not_rateLimitTimer {tasks : List Task} (h : ∀ task ∈ tasks, task.isTimer = false)
     : .rateLimitTimer resumeAt ∉ tasks :=
  fun hmem => nomatch h _ hmem

lemma patient_step (h : Patient E s) (op : Op) : Patient E (step E s op) := by
  have hs := stepped_step (E := E) s op
  generalize step E s op = s' at hs
  cases hs with
  | does op o s' hdoes hl =>
    cases hdoes with
    | nothing | prompted | removed | taken | paused | cleared | unscheduled =>
      exact h.leads hl (by simp) (by simp)
    | spawned op task ht =>
      exact h.leads hl (fun _ hmem => absurd hmem (not_rateLimitTimer (by simpa))) (by simp)
    | added io itemId prompt front paused item tasks _ _ _ _ ht =>
      exact h.leads hl (fun _ hmem => absurd hmem (not_rateLimitTimer ht)) (by simp)
    | resumed io tasks ht =>
      exact h.leads hl (fun _ hmem => absurd hmem (not_rateLimitTimer ht)) (by simp)
    | scheduled io due now =>
      refine h.leads hl (fun resumeAt hmem => ?_) (by simp)
      split at hmem
      · cases List.mem_singleton.mp hmem
      · cases hmem
  | handles io now task o s' hmem hdue hh hl =>
    have hpop : Patient E (s.pop task) :=
      ⟨fun resumeAt hmem => h.timer resumeAt (List.mem_of_mem_erase hmem), h.lifted⟩
    cases hh with
    | nothing | stale | paused | recorded | startFailed =>
      exact hpop.leads hl (by simp) (by simp)
    | woken task tasks log _ ht hlog =>
      refine hpop.leads hl (fun _ hmem => absurd hmem (not_rateLimitTimer ht))
        fun resumeAt noted he => ?_
      obtain ⟨until', rfl, heq⟩ := hlog _ he
      cases heq
      exact ⟨by simpa [Task.due] using hdue, h.timer resumeAt hmem⟩
    | spawned task spawned log _ ht hlog =>
      refine hpop.leads hl (fun _ hmem => absurd hmem (not_rateLimitTimer (by simpa)))
        fun resumeAt noted he => ?_
      rcases hlog _ he with heq | ⟨was, heq⟩ <;> cases heq
    | settled => exact hpop.leads hl (by simp) (by simp)
    | gaveUp turnId reset tasks ht =>
      exact hpop.leads hl (fun _ hmem => absurd hmem (not_rateLimitTimer ht)) (by simp)
    | waits turnId reset tasks ht =>
      exact hpop.leads hl (fun _ hmem => absurd hmem (not_rateLimitTimer ht)) (by simp)
    | armed turnId reset resumeAt failures hf hlt hre =>
      refine hpop.leads hl (fun other hmem => ?_) (by simp)
      cases List.mem_singleton.mp hmem
      exact ⟨reset, io.wait.now, failures, by simp, hlt, hre⟩
    | delivered head =>
      exact hpop.leads hl (by simp) (by cases head.automatic <;> simp)
  | restarted io s' hr =>
    refine ⟨fun resumeAt hmem => ?_, fun i resumeAt now hi => ?_⟩
    · rw [hr.tasks] at hmem
      cases hmem
    · rw [hr.log] at hi ⊢
      rcases Nat.lt_or_ge i s.log.length with hlt | hge
      · rw [List.getElem?_append_left hlt] at hi
        rw [List.take_append_of_le_length hlt.le]
        exact h.lifted i resumeAt now hi
      · rw [List.getElem?_append_right hge] at hi
        cases List.mem_singleton.mp (List.mem_of_getElem? hi)

lemma patient_run (h : Patient E s) (ops : List Op) : Patient E (run E s ops) := by
  induction ops generalizing s with
  | nil => exact h
  | cons op ops ih => exact ih (patient_step h op)

/-! ### The bounds -/

/-- A wait reaches the reset, and the floor doubled for each failure but the first. -/
lemma le_rateLimitResumeAt (reset now : DateTime) {failures : Nat}
    (h : failures < maxRateLimitContinuations) (floor : Nat) :
    reset ≤ rateLimitResumeAt reset now failures floor ∧
      min (now.nanos + (floor * 2 ^ (failures - 1) : Nat)) maxNanos ≤
        (rateLimitResumeAt reset now failures floor).nanos := by
  have hf : backoffFactor failures = 2 ^ (failures - 1) := by
    rw [maxRateLimitContinuations] at h
    rw [backoffFactor, if_pos (by omega)]
  rw [DateTime.le_iff, nanos_rateLimitResumeAt, hf]
  exact ⟨le_max_left .., le_max_right ..⟩

lemma signedDurationSince_inRange (time now : DateTime) : (time.signedDurationSince now).natAbs ≤ durationMax := by
  have htime := time.inRange
  have hnow := now.inRange
  rw [DateTime.signedDurationSince]
  simp only [minNanos, maxNanos, durationMax] at *
  omega

/-- In every run, at most three continuations are sent in a stretch without a completed turn, a
restart, or a limit hit by a turn that was not the latest continuation. A wait is lifted no earlier
than the reset and than its start plus the floor, doubled for each failure. The time of a wait does
not fall with the failures, and is the exact one or the last instant there is. -/
theorem continuations_bounded (E : Environment) (legacy : Option FollowUpQueue)
    (hlegacy : ∀ queue ∈ legacy, queue.WellFormed ∧ queue.Continuable) (ops : List Op) :
    (∀ before stretch after, (run E { legacy } ops).log = before ++ stretch ++ after →
      (∀ entry ∈ stretch, entry.startsOver = false) →
      stretch.countP Log.isContinued ≤ maxRateLimitContinuations) ∧
    (∀ before resumeAt now after,
      (run E { legacy } ops).log = before ++ .lifted resumeAt now :: after →
      resumeAt ≤ now ∧ ∃ (reset start : DateTime) (failures : Nat),
        .waits reset start failures resumeAt ∈ before ∧ reset ≤ resumeAt ∧
        min (start.nanos + (E.retryFloor * 2 ^ (failures - 1) : Nat)) maxNanos ≤ resumeAt.nanos) ∧
    (∀ reset now failures failures', failures ≤ failures' →
      rateLimitResumeAt reset now failures E.retryFloor ≤
        rateLimitResumeAt reset now failures' E.retryFloor) ∧
    ∀ reset now failures,
      (rateLimitResumeAt reset now failures E.retryFloor).nanos = max reset.nanos
          (min (now.nanos + (E.retryFloor * backoffFactor failures : Nat)) maxNanos) ∧
      ((rateLimitResumeAt reset now failures E.retryFloor).signedDurationSince now).natAbs ≤ durationMax := by
  have ha : Accounted { legacy } :=
    ⟨⟨List.nodup_nil, fun _ hitem => nomatch hitem⟩, fun queue hq => (hlegacy queue hq).1, .nil⟩
  have hl : Limited { legacy } :=
    ⟨⟨Nat.zero_le _, fun _ hitem => nomatch hitem⟩, fun queue hq => (hlegacy queue hq).2,
      Nat.zero_le _, fun n => by rw [List.take_nil]; exact Nat.zero_le _⟩
  have hp : Patient E { legacy } := ⟨fun _ hmem => (nomatch hmem), fun i _ _ hi => by simp at hi⟩
  refine ⟨fun before stretch after hlog hs => ?_, fun before resumeAt now after hlog => ?_,
    fun reset now _ _ hle => rateLimitResumeAt_mono reset now hle _,
    fun reset now failures => ⟨nanos_rateLimitResumeAt .., signedDurationSince_inRange ..⟩⟩
  · have hrun := (limited_run (E := E) hl ha ops).log (before ++ stretch).length
    rw [hlog, List.take_left] at hrun
    exact (countP_isContinued_le before stretch hs).trans hrun
  · have hrun := (patient_run hp ops).lifted before.length resumeAt now
    rw [hlog, List.take_left] at hrun
    obtain ⟨hle, reset, start, failures, hmem, hlt, rfl⟩ := hrun (by simp)
    exact ⟨hle, reset, start, failures, hmem, le_rateLimitResumeAt reset start hlt E.retryFloor⟩

/-- A turn hits its limit, waits until `resumeAt`, and is continued. -/
def limitHit (turn next : String) (resumeAt : DateTime) : List Op :=
  [.ends .failed (some (second 50)),
    .task plainTask (second 20)
      (.afterTurn (some turn) .failed (some (second 50))),
    .task plainTask resumeAt (.rateLimitTimer resumeAt),
    .task { plainTask with drain := { prompt := { turnId := next } } } resumeAt .drain]

/-- A turn and its three continuations all hit the limit. -/
def limitHits (turn first second third : String) : List Op :=
  .prompt { turnId := turn } (textPrompt "work") ::
    limitHit turn first (Todex.second 80) ++
    limitHit first second (Todex.second 80) ++
    limitHit second third (Todex.second 140) ++
    [.ends .failed (some (Todex.second 50)),
      .task plainTask (Todex.second 20)
        (.afterTurn (some third) .failed (some (Todex.second 50)))]

theorem continuations_bounded_limitHits :
    (∀ queue ∈ (none : Option FollowUpQueue), queue.WellFormed ∧ queue.Continuable) ∧
      ((run .simple {} (limitHits "turn" "a" "b" "c")).log.drop 1).countP Log.isContinued ≤ 3 :=
  ⟨by simp, (continuations_bounded .simple none (by simp) (limitHits "turn" "a" "b" "c")).1
    [.limitHit false] _ [] (by decide +kernel) (by decide +kernel)⟩

/-- Two messages of the user that hit the limit are continued six times, and no turn completes. -/
theorem continuations_not_bounded :
    let log := (run .simple {} (limitHits "turn" "a" "b" "c" ++ limitHits "other" "d" "e" "f")).log
    log.countP Log.isContinued = 6 ∧ .completed ∉ log ∧ .restarted ∉ log := by
  decide +kernel

end Todex
