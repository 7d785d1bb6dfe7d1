import Todex.FollowUps.Timers

/-!
# No follow-up is lost or run twice

The ids in a queue are distinct and name the requests of their items, and the journal has at most
one turn for a request id. An item therefore leaves the queue for one of a few reasons only.
-/

namespace Todex

/-- The ids of a queue's items are distinct and name their requests. -/
structure FollowUpQueue.WellFormed (queue : FollowUpQueue) : Prop where
  nodup : queue.ids.Nodup
  request : ∀ item ∈ queue.items, item.request.clientRequestId = some item.id

variable {item : FollowUpItem}

namespace FollowUpQueue.WellFormed

variable {queue queue' : FollowUpQueue}

lemma of_sublist (h : queue.WellFormed) (hi : queue'.items.Sublist queue.items) : queue'.WellFormed where
  nodup := h.nodup.sublist (hi.map _)
  request item hitem := h.request item (hi.subset hitem)

lemma cons (h : queue.WellFormed) (hnew : item.id ∉ queue.ids)
    (hr : item.request.clientRequestId = some item.id)
    (hi : queue'.items.Perm (item :: queue.items)) : queue'.WellFormed where
  nodup := (hi.map _).nodup_iff.mpr (List.nodup_cons.mpr ⟨hnew, h.nodup⟩)
  request other ho := by
    rcases List.mem_cons.mp (hi.subset ho) with rfl | ho
    · exact hr
    · exact h.request other ho

end FollowUpQueue.WellFormed

/-! ### Items of changed queues -/

@[simp] lemma items_pause (queue : FollowUpQueue) (reason : PauseReason) (message : Option String) :
    (queue.pause reason message).items = queue.items := rfl

@[simp] lemma items_unpause (queue : FollowUpQueue) : queue.unpause.items = queue.items := rfl

@[simp] lemma items_unpauseIfEmpty (queue : FollowUpQueue) : queue.unpauseIfEmpty.items = queue.items := by
  rw [FollowUpQueue.unpauseIfEmpty]
  split <;> rfl

@[simp] lemma items_unschedule (queue : FollowUpQueue) : queue.unschedule.items = queue.items := by
  rw [FollowUpQueue.unschedule]
  split <;> rfl

lemma items_add (queue : FollowUpQueue) (item : FollowUpItem) (front paused : Bool) :
    (queue.add item front paused).items = if front then item :: queue.items else queue.items ++ [item] := by
  rw [FollowUpQueue.add]
  generalize (if front = true then item :: queue.items else queue.items ++ [item]) = items
  split <;> rfl

lemma items_add_perm (queue : FollowUpQueue) (item : FollowUpItem) (front paused : Bool) :
    (queue.add item front paused).items.Perm (item :: queue.items) := by
  rw [items_add]
  split
  · exact .refl _
  · exact List.perm_append_singleton ..

lemma items_settle {queue queue' : FollowUpQueue} (h : queue.settle = some queue') :
    queue'.items = queue.items ∨ queue'.items = queue.items.filter fun item => !isContinuation item.id := by
  rw [FollowUpQueue.settle] at h
  dsimp only at h
  split at h
  · cases h
    exact .inr rfl
  · split at h
    · cases h
      exact .inl rfl
    · cases h

@[simp] lemma items_giveUp (queue : FollowUpQueue) : queue.giveUp.items = queue.items := by
  rw [FollowUpQueue.giveUp]
  split <;> rfl

@[simp] lemma items_countFailure (queue : FollowUpQueue) (request : Option ConversationPrompt) :
    (queue.countFailure request).items = queue.items := rfl

@[simp] lemma items_awaitReset (queue : FollowUpQueue) (resumeAt : DateTime) :
    (queue.awaitReset resumeAt).items = queue.items := by
  rw [FollowUpQueue.awaitReset]
  dsimp only
  split <;> rfl

lemma isContinuation_append (turnId : String) : isContinuation (rateLimitContinueStart ++ turnId) = true := by
  rw [isContinuation, keyed, String.toList_append, List.isPrefixOf_iff_prefix]
  exact List.prefix_append _ _

/-- A wait adds at most its continuation, under an id no other item has. -/
lemma items_waitingQueue (E : Environment) (s : Conversation) (turnId : String) (reset now : DateTime) :
    (waitingQueue E s turnId reset now).items = s.queue.items ∨
      ∃ item : FollowUpItem, (waitingQueue E s turnId reset now).items = item :: s.queue.items ∧
        item.id ∉ s.queue.ids ∧ item.request.clientRequestId = some item.id ∧
        item.automatic = true ∧ isContinuation item.id = true ∧
        ∀ other ∈ s.queue.items, isContinuation other.id = false := by
  rw [waitingQueue, items_awaitReset, FollowUpQueue.addContinuation]
  split
  · exact .inl rfl
  · next hnone =>
    have ho : ∀ other ∈ s.queue.items, isContinuation other.id = false := by
      simpa using hnone
    refine .inr ⟨_, rfl, fun hmem => ?_, rfl, rfl, isContinuation_append turnId, ho⟩
    obtain ⟨other, hmem, hid⟩ := List.mem_map.mp hmem
    have hf := ho other hmem
    rw [hid, isContinuation_append] at hf
    cases hf

/-! ### The invariant -/

/-- The queue and the journal of a conversation. -/
structure Accounted (s : Conversation) : Prop where
  queue : s.queue.WellFormed
  legacy : ∀ queue ∈ s.legacy, queue.WellFormed
  once : s.journal.Pairwise fun a b =>
    ∀ id, a.clientRequestId = some id → b.clientRequestId ≠ some id

variable {E : Environment} {s s' : Conversation}

lemma wellFormed_setQueue (h : queue.WellFormed) : (s.setQueue queue).queue.WellFormed :=
  h.of_sublist (by rw [items_setQueue])

variable {o : Outcome}

/-- A step that saves a well-formed queue and journals at most a fresh turn. -/
lemma Accounted.leads (h : Accounted s) (hl : o.Leads s s') (hqu : ∀ queue ∈ o.queue, queue.WellFormed)
    (ht : o.turns = [] ∨ ∃ turn, o.turns = [turn] ∧ Fresh s turn) : Accounted s' where
  queue := by
    rw [hl.queue_eq]
    cases hq : o.queue with
    | none => exact h.queue
    | some queue => exact wellFormed_setQueue (hqu queue hq)
  legacy := hl.legacy ▸ h.legacy
  once := by
    rw [hl.journal]
    rcases ht with ht | ⟨turn, ht, hf⟩
    · simpa [ht] using h.once
    · rw [ht]
      refine List.pairwise_append.mpr ⟨h.once, List.pairwise_singleton _ _, ?_⟩
      intro other ho _ hmem id hid hturn
      rw [List.mem_singleton.mp hmem] at hturn
      exact hf other ho id hturn hid

lemma Accounted.does (h : Accounted s) (hdoes : Does E s op o) (hl : o.Leads s s') : Accounted s' := by
  have hsome {queue : FollowUpQueue} (hi : queue.items.Sublist s.queue.items) :
      ∀ q ∈ some queue, q.WellFormed := by
    rintro _ ⟨⟩
    exact h.queue.of_sublist hi
  cases hdoes with
  | nothing | spawned => exact h.leads hl (by simp) (.inl rfl)
  | prompted op turn hf => exact h.leads hl (by simp) (.inr ⟨turn, rfl, hf⟩)
  | added io itemId prompt front paused item tasks hid hnew hr =>
    refine h.leads hl ?_ (.inl rfl)
    rintro _ ⟨⟩
    exact h.queue.cons (hid ▸ hnew) (hid ▸ hr) (items_add_perm ..)
  | removed => exact h.leads hl (hsome (by simp)) (.inl rfl)
  | taken => exact h.leads hl (hsome (by simpa using List.eraseP_sublist)) (.inl rfl)
  | paused | resumed | unscheduled => exact h.leads hl (hsome (by simp)) (.inl rfl)
  | cleared => exact h.leads hl (hsome (by simp)) (.inl rfl)
  | scheduled => exact h.leads hl (hsome (List.Sublist.refl _)) (.inl rfl)

lemma Accounted.handles (h : Accounted s) {io : TaskIo}
    (hh : Handles E io now (s.pop task) task o) (hl : o.Leads (s.pop task) s') : Accounted s' := by
  have hpop : Accounted (s.pop task) := ⟨h.queue, h.legacy, h.once⟩
  have hsome {queue : FollowUpQueue} (hi : queue.items.Sublist (s.pop task).queue.items) :
      ∀ q ∈ some queue, q.WellFormed := by
    rintro _ ⟨⟩
    exact h.queue.of_sublist hi
  have hw (turnId : String) (reset : DateTime) :
      ∀ q ∈ some (waitingQueue E (s.pop task) turnId reset io.wait.now), q.WellFormed := by
    rintro _ ⟨⟩
    rcases items_waitingQueue E (s.pop task) turnId reset io.wait.now with
      hi | ⟨item, hi, hnew, hr, -⟩
    · exact hpop.queue.of_sublist (by rw [hi])
    · exact hpop.queue.cons hnew hr (by rw [hi])
  have hd {queue : Option FollowUpQueue} {head : FollowUpItem}
      (hqu : ∀ q ∈ queue, q = { (s.pop task).queue with
        items := (s.pop task).queue.items.filter (·.id ≠ head.id) }) :
      ∀ q ∈ queue, q.WellFormed := by
    intro q hq
    rw [hqu q hq]
    exact hpop.queue.of_sublist List.filter_sublist
  cases hh with
  | nothing | stale | spawned => exact hpop.leads hl (by simp) (.inl rfl)
  | woken => exact hpop.leads hl (hsome (by simp)) (.inl rfl)
  | settled turn exhausted queue hqu =>
    refine hpop.leads hl (hsome ?_) (.inl rfl)
    rcases items_settle hqu with hi | hi
    · rw [hi]
    · rw [hi]
      exact List.filter_sublist
  | paused | gaveUp | startFailed => exact hpop.leads hl (hsome (by simp)) (.inl rfl)
  | waits turnId reset => exact hpop.leads hl (hw turnId reset) (.inl rfl)
  | armed turnId reset => exact hpop.leads hl (hw turnId reset) (.inl rfl)
  | recorded head rest turn queue _ _ _ _ hqu =>
    exact hpop.leads hl (hd hqu) (.inl rfl)
  | delivered head rest turn queue _ _ hf _ hqu =>
    exact hpop.leads hl (hd hqu) (.inr ⟨turn, rfl, hf⟩)

lemma accounted_step (h : Accounted s) (op : Op) : Accounted (step E s op) := by
  have hs := stepped_step (E := E) s op
  generalize step E s op = s' at hs
  cases hs with
  | does op o s' hdoes hle => exact h.does hdoes hle
  | handles io now task o s' hmem hdue hh hle => exact h.handles hh hle
  | restarted io s' hr =>
    refine ⟨?_, ?_, hr.journal ▸ h.once⟩
    · rcases hr.queue with hq | ⟨queue, hmem, hq⟩
      · rw [hq]
        exact ⟨List.nodup_nil, by simp⟩
      · rw [hq]
        exact (h.legacy queue hmem).of_sublist (List.Sublist.refl _)
    · rcases hr.legacy with hl | hl
      · rw [hl]
        exact h.legacy
      · simp [hl]

lemma accounted_run (h : Accounted s) (ops : List Op) : Accounted (run E s ops) := by
  induction ops generalizing s with
  | nil => exact h
  | cons op ops ih => exact ih (accounted_step h op)

/-! ### Whose items are continuations -/

/-- An item whose id is that of a continuation is the daemon's own. -/
def FollowUpQueue.Named (queue : FollowUpQueue) : Prop :=
  ∀ item ∈ queue.items, isContinuation item.id = true → item.automatic = true

/-- A client does not queue an item under an id that starts as those of continuations do. -/
def Op.Named : Op → Prop
  | .add _ itemId _ _ _ => isContinuation itemId = false
  | _ => True

/-- Every item of a saved queue was there, is the daemon's or is added by a client. -/
def Outcome.Adds (o : Outcome) (s : Conversation) (op : Op) : Prop :=
  ∀ queue ∈ o.queue, ∀ item ∈ queue.items, item ∈ s.queue.items ∨ item.automatic = true ∨
    ∃ io prompt front paused, op = .add io item.id prompt front paused

lemma adds_of_sublist (h : ∀ queue ∈ o.queue, queue.items.Sublist s.queue.items) (op : Op) : o.Adds s op :=
  fun queue hqueue _ hitem => .inl ((h queue hqueue).subset hitem)

lemma Does.adds (h : Does E s op o) : o.Adds s op := by
  cases h with
  | nothing | prompted | spawned => exact fun _ hqueue => nomatch hqueue
  | added io itemId prompt front paused item tasks hid =>
    rintro _ ⟨⟩ other hother
    rcases List.mem_cons.mp ((items_add_perm ..).subset hother) with rfl | hother
    · exact .inr (.inr ⟨io, prompt, front, paused, by rw [hid]⟩)
    · exact .inl hother
  | taken => exact adds_of_sublist (by rintro _ ⟨⟩; simpa using List.eraseP_sublist) _
  | removed | cleared | paused | resumed | unscheduled => exact adds_of_sublist (by rintro _ ⟨⟩; simp) _
  | scheduled => exact adds_of_sublist (by rintro _ ⟨⟩; exact List.Sublist.refl _) _

lemma Handles.adds {io : TaskIo} (h : Handles E io now s task o) (op : Op) : o.Adds s op := by
  have hwaits (turnId : String) (reset : DateTime) (tasks : List Task) (log : List Log) : Outcome.Adds
      { queue := waitingQueue E s turnId reset io.wait.now, tasks, log } s op := by
    rintro _ ⟨⟩ other hother
    rcases items_waitingQueue E s turnId reset io.wait.now with hi | ⟨item, hi, -, -, hauto, -⟩
    · exact .inl (hi ▸ hother)
    · rcases List.mem_cons.mp (hi ▸ hother) with rfl | hother
      · exact .inr (.inl hauto)
      · exact .inl hother
  have hdeliver {queue : Option FollowUpQueue} {head : FollowUpItem}
      (hqueue : ∀ q ∈ queue, q = { s.queue with items := s.queue.items.filter (·.id ≠ head.id) }) :
      ∀ q ∈ queue, q.items.Sublist s.queue.items := by
    intro q hq
    rw [hqueue q hq]
    exact List.filter_sublist
  cases h with
  | nothing | stale | spawned => exact fun _ hqueue => nomatch hqueue
  | settled turn exhausted queue hqueue =>
    refine adds_of_sublist ?_ _
    rintro _ ⟨⟩
    rcases items_settle hqueue with hi | hi
    · rw [hi]
    · rw [hi]
      exact List.filter_sublist
  | woken | paused | gaveUp | startFailed => exact adds_of_sublist (by rintro _ ⟨⟩; simp) _
  | waits turnId reset => exact hwaits turnId reset _ _
  | armed turnId reset => exact hwaits turnId reset _ _
  | recorded _ _ _ _ _ _ _ _ hqueue | delivered _ _ _ _ _ _ _ _ hqueue => exact adds_of_sublist (hdeliver hqueue) _

/-- The queue and the one that an older daemon left. -/
def Named (s : Conversation) : Prop := s.queue.Named ∧ ∀ queue ∈ s.legacy, queue.Named

lemma Named.leads (h : Named s) (hadds : o.Adds s op) (hop : op.Named) (hl : o.Leads s s') : Named s' := by
  refine ⟨?_, hl.legacy ▸ h.2⟩
  intro item hitem hcontinues
  rw [hl.queue_eq] at hitem
  cases hqueue : o.queue with
  | none =>
    rw [hqueue] at hitem
    exact h.1 item hitem hcontinues
  | some queue =>
    rw [hqueue, Option.elim_some, items_setQueue] at hitem
    rcases hadds queue hqueue item hitem with hitem | hauto | ⟨io, prompt, front, paused, rfl⟩
    · exact h.1 item hitem hcontinues
    · exact hauto
    · exact absurd hcontinues (ne_true_of_eq_false hop)

lemma named_step (h : Named s) (hop : op.Named) : Named (step E s op) := by
  have hs := stepped_step (E := E) s op
  generalize step E s op = s' at hs
  cases hs with
  | does op o s' hdoes hl => exact h.leads hdoes.adds hop hl
  | handles io now task o s' hmem hdue hh hl =>
    exact Named.leads (s := s.pop task) h (hh.adds (.task io now task)) trivial hl
  | restarted io s' hr =>
    constructor
    · rcases hr.queue with hq | ⟨queue, hmem, hq⟩
      · rw [hq]
        exact fun _ hitem => nomatch hitem
      · rw [hq]
        exact h.2 queue hmem
    · rcases hr.legacy with hl | hl
      · rw [hl]
        exact h.2
      · simp [hl]

lemma named_run (h : Named s) (ops : List Op) (hops : ∀ op ∈ ops, op.Named) : Named (run E s ops) := by
  induction ops generalizing s with
  | nil => exact h
  | cons op ops ih =>
    obtain ⟨hop, hops⟩ := List.forall_mem_cons.1 hops
    exact ih (named_step h hop) hops

/-! ### How items leave -/

/-- Why an item is no longer in the queue after a step. -/
inductive Leaves (item : FollowUpItem) (s' : Conversation) : Op → Prop
  | removed (io : SaveIo) : Leaves item s' (.remove io item.id)
  | taken (io : SaveIo) : Leaves item s' (.take io item.id)
  | cleared (io : SaveIo) : Leaves item s' (.clear io)
  | journalled (op : Op) (turn : JournalledTurn) : turn ∈ s'.journal →
      turn.clientRequestId = some item.id → Leaves item s' op
  /-- A completed turn drops the daemon's own continuation. -/
  | settled (io : TaskIo) (now : DateTime) (turn : Option String) (exhausted : Option DateTime) :
      item.automatic = true → Leaves item s' (.task io now (.afterTurn turn .completed exhausted))
  | restarted (io : RestartIo) : Leaves item s' (.restart io)

/-- An item stays in a queue that is not saved, or saved with it. -/
lemma mem_ids_leads (hl : o.Leads s s')
    (hitem : item ∈ s.queue.items) (hqu : ∀ queue ∈ o.queue, item ∈ queue.items) : item.id ∈ s'.queue.ids := by
  refine List.mem_map.mpr ⟨item, ?_, rfl⟩
  rw [hl.queue_eq]
  cases hq : o.queue with
  | none => exact hitem
  | some queue => simpa using hqu queue hq

lemma leaves_of_does (hdoes : Does E s op o) (hl : o.Leads s s')
    (hitem : item ∈ s.queue.items) (hgone : item.id ∉ s'.queue.ids) : Leaves item s' op := by
  have hs {queue : FollowUpQueue} (hq : o.queue = some queue) (hmem : item ∈ queue.items) :
      Leaves item s' op :=
    absurd (mem_ids_leads hl hitem (by simpa [hq] using hmem)) hgone
  cases hdoes with
  | nothing | prompted | spawned => exact absurd (mem_ids_leads hl hitem (by simp)) hgone
  | added io itemId prompt front paused added =>
    exact hs rfl ((items_add_perm ..).symm.subset (List.mem_cons_of_mem _ hitem))
  | removed io itemId =>
    by_cases hid : item.id = itemId
    · subst hid
      exact .removed io
    · exact hs rfl (by simpa using ⟨hitem, hid⟩)
  | taken io itemId =>
    by_cases hid : item.id = itemId
    · subst hid
      exact .taken io
    · refine hs rfl ?_
      rw [items_unpauseIfEmpty]
      exact (List.mem_eraseP_of_neg (by simpa using hid)).mpr hitem
  | paused | resumed | unscheduled => exact hs rfl (by simpa using hitem)
  | cleared io => exact .cleared io
  | scheduled => exact hs rfl hitem

lemma leaves_of_handles (h : Accounted s) (hnamed : s.queue.Named) {io : TaskIo}
    (hh : Handles E io now (s.pop task) task o) (hl : o.Leads (s.pop task) s')
    (hitem : item ∈ s.queue.items) (hgone : item.id ∉ s'.queue.ids) : Leaves item s' (.task io now task) := by
  have hs {queue : FollowUpQueue} (hq : o.queue = some queue) (hmem : item ∈ queue.items) :
      Leaves item s' (.task io now task) :=
    absurd (mem_ids_leads hl hitem (by simpa [hq] using hmem)) hgone
  have hitem' : item ∈ (s.pop task).queue.items := hitem
  have hw (turnId : String) (reset : DateTime) :
      item ∈ (waitingQueue E (s.pop task) turnId reset io.wait.now).items := by
    rcases items_waitingQueue E (s.pop task) turnId reset io.wait.now with hi | ⟨_, hi, -⟩
    · rw [hi]
      exact hitem
    · rw [hi]
      exact List.mem_cons_of_mem _ hitem
  -- of a delivered head, the journal has the turn
  have hhead {head : FollowUpItem} {rest : List FollowUpItem} {turn : JournalledTurn}
      {queue : Option FollowUpQueue} (hi : (s.pop task).queue.items = head :: rest)
      (hturn : turn ∈ s'.journal) (hid : turn.clientRequestId = head.request.clientRequestId)
      (hqu : ∀ q ∈ queue, q = { (s.pop task).queue with
        items := (s.pop task).queue.items.filter (·.id ≠ head.id) })
      (ho : o.queue = queue) : Leaves item s' (.task io now task) := by
    by_cases heq : item.id = head.id
    · refine .journalled _ turn hturn ?_
      rw [hid, heq]
      exact h.queue.request head (by rw [show s.queue.items = head :: rest from hi]; simp)
    · refine absurd (mem_ids_leads hl hitem fun q hq => ?_) hgone
      rw [hqu q (ho ▸ hq)]
      exact List.mem_filter.mpr ⟨hitem, by simpa using heq⟩
  cases hh with
  | nothing | stale | spawned => exact absurd (mem_ids_leads hl hitem (by simp)) hgone
  | woken => exact hs rfl (by simpa using hitem')
  | settled turn exhausted queue hqu =>
    by_cases hcont : isContinuation item.id = true
    · exact .settled io now turn exhausted (hnamed item hitem hcont)
    · refine hs rfl ?_
      rcases items_settle hqu with hi | hi
      · rw [hi]
        exact hitem
      · rw [hi]
        exact List.mem_filter.mpr ⟨hitem, by simpa using hcont⟩
  | paused | gaveUp | startFailed => exact hs rfl (by simpa using hitem')
  | waits turnId reset => exact hs rfl (hw turnId reset)
  | armed turnId reset => exact hs rfl (hw turnId reset)
  | recorded head rest turn queue hi _ hturn hid hqu =>
    exact hhead hi (by rw [hl.journal]; exact List.mem_append_left _ hturn) hid hqu rfl
  | delivered head rest turn queue hi _ _ hid hqu =>
    exact hhead hi (by rw [hl.journal]; simp) hid hqu rfl

/-- In every run in which no client uses the ids of continuations, the ids in the queue are distinct and a request id has
at most one turn. An item leaves the queue because a client removed, took or cleared it, because its turn is in the
journal or because the daemon restarted, and the daemon's own continuation also because a turn completed. -/
theorem delivered_once (E : Environment) (legacy : Option FollowUpQueue)
    (hlegacy : ∀ queue ∈ legacy, queue.WellFormed ∧ queue.Named) (ops : List Op) (hops : ∀ op ∈ ops, op.Named) :
    let s := run E { legacy } ops
    s.queue.ids.Nodup ∧
      (∀ id, (s.journal.filter (·.clientRequestId = some id)).length ≤ 1) ∧
      ∀ op, ∀ item ∈ s.queue.items, item.id ∉ (step E s op).queue.ids → Leaves item (step E s op) op := by
  intro s
  have haccounted : Accounted { legacy } :=
    ⟨⟨List.nodup_nil, fun _ hitem => nomatch hitem⟩, fun queue hqueue => (hlegacy queue hqueue).1, List.Pairwise.nil⟩
  have hstart : Named { legacy } :=
    ⟨fun _ hitem => absurd hitem List.not_mem_nil, fun queue hqueue => (hlegacy queue hqueue).2⟩
  have h : Accounted s := accounted_run haccounted ops
  have hnamed : Named s := named_run hstart ops hops
  refine ⟨h.queue.nodup, fun id => ?_, fun op item hitem hgone => ?_⟩
  · have hp := h.once.filter (·.clientRequestId = some id)
    generalize ht : s.journal.filter (·.clientRequestId = some id) = turns at hp ⊢
    have hall : ∀ turn ∈ turns, turn.clientRequestId = some id := by
      intro turn hturn
      rw [← ht] at hturn
      simpa using (List.mem_filter.mp hturn).2
    match turns with
    | [] => simp
    | [_] => simp
    | a :: b :: _ =>
      have hne := (List.pairwise_cons.mp hp).1 b (by simp) id (hall a (by simp))
      exact absurd (hall b (by simp)) hne
  · have hs := stepped_step (E := E) s op
    generalize step E s op = s' at hs hgone ⊢
    cases hs with
    | does op o s' hdoes hl => exact leaves_of_does hdoes hl hitem hgone
    | handles io now task o s' hmem hdue hh hl =>
      exact leaves_of_handles h hnamed.1 hh hl hitem hgone
    | restarted io s' hr => exact .restarted io

/-- A prompt with a text and defaults. -/
def textPrompt (text : String) : ConversationPrompt where
  permissionMode := none
  workMode := none
  clientRequestId := none
  text := text
  model := none
  reasoningEffort := none
  skills := []
  content := []
  permissionProfile := none
  sandboxMode := none
  approvalPolicy := none

/-- A turn runs while a client queues an item. -/
def queueWhileRunning (itemId : String) : List Op :=
  [.prompt { turnId := "first" } (textPrompt "work"),
    .add { now := second 1, prompt := { turnId := "unused" } } itemId
      (textPrompt "then this") false false]

/-- Another item comes, the turn completes, and the first item is delivered. -/
theorem delivered_once_queue :
    let ops := queueWhileRunning "item" ++
      [.add { now := second 2, prompt := { turnId := "unused" } } "later" (textPrompt "and this") false false,
        .ends .completed none, .task plainTask (second 20) (.afterTurn (some "first") .completed none)]
    let drain := Op.task plainTask (second 20) .drain
    (run .simple {} ops).queue.ids = ["item", "later"] ∧
      (step .simple (run .simple {} ops) drain).queue.ids = ["later"] ∧
      ∀ item ∈ (run .simple {} ops).queue.items, item.id = "item" →
        Leaves item (step .simple (run .simple {} ops) drain) drain := by
  intro ops drain
  have hids : (step .simple (run .simple {} ops) drain).queue.ids = ["later"] := by decide
  have hops : ∀ op ∈ ops, op.Named := by
    simp [ops, queueWhileRunning, Op.Named]
    decide
  obtain ⟨-, -, hleaves⟩ := delivered_once .simple none (fun _ hqueue => nomatch hqueue) ops hops
  exact ⟨by decide, hids, fun item hitem hid => hleaves drain item hitem (by rw [hids, hid]; decide)⟩

/-- The item is in the queue before a step, and after it neither there nor in the journal. -/
def LostBy (ops : List Op) (op : Op) (id : String) : Prop :=
  id ∈ (run .simple {} ops).queue.ids ∧ id ∉ (run .simple {} (ops ++ [op])).queue.ids ∧
    ∀ turn ∈ (run .simple {} (ops ++ [op])).journal, turn.clientRequestId ≠ some id

instance (ops : List Op) (op : Op) (id : String) : Decidable (LostBy ops op id) :=
  inferInstanceAs (Decidable (_ ∧ _ ∧ _))

/-- The turn fails on its limit and the user then sends a message that completes. -/
def limitThenMessage : List Op :=
  [.ends .failed (some (second 50)),
    .task plainTask (second 20)
      (.afterTurn (some "first") .failed (some (second 50))),
    .prompt { turnId := "second" } (textPrompt "continue"), .ends .completed none]

/-- A restart loses a queued item. A completed turn drops an item of a client whose id starts as
those of continuations do. -/
theorem not_delivered :
    LostBy (queueWhileRunning "item") (.restart {}) "item" ∧
      LostBy (queueWhileRunning "rate-limit-continue-mine" ++ limitThenMessage)
        (.task plainTask (second 30) (.afterTurn (some "second") .completed none))
        "rate-limit-continue-mine" := by
  decide

end Todex
