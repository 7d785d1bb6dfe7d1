import Todex.Lib.Update
import Todex.Resident.Sessions

/-!
# One resident process for a conversation

`stop` takes the entry of a session out of the table before its process is gone, and `session` does so when it has
waited in vain. A session that is started meanwhile does not know of the old one. If sessions are only started when
those that have left the table have stopped, then a conversation has one process at most and the limit holds.
-/

namespace Todex

/-- The actor has not sent `stopped`. -/
def ResidentSessions.Unstopped (s : ResidentSessions) (id : ℕ) (actor : SessionActor) : Prop :=
  s.actors id = some actor ∧ actor.stage ≠ .stopped

/-- The sessions of the conversation that have left the table have stopped. -/
def ResidentSessions.Gone (s : ResidentSessions) (conversationId : String) : Prop :=
  ∀ id actor, s.Unstopped id actor → actor.conversationId = conversationId →
    ∃ handle ∈ s.sessions, handle.conversationId = conversationId ∧ handle.actor = id

/-- What holds of every state. -/
structure SessionsOk (s : ResidentSessions) : Prop where
  actor_lt : ∀ id actor, s.actors id = some actor → id < s.next
  process : ∀ id actor, s.actors id = some actor → actor.process → actor.stage ≠ .stopped

/-- No two actors of a conversation run. -/
def OneActor (s : ResidentSessions) : Prop :=
  ∀ id actor other actor', s.Unstopped id actor → s.Unstopped other actor' →
    actor.conversationId = actor'.conversationId → id = other

variable {actor : SessionActor} {id : ℕ}

section Steps

variable {maxSessions : ℕ} {Meets : ResidentSessions → String → Prop} {s t : ResidentSessions}

/-- A session of the conversation is started: the table has room and no session of it that has not stopped. -/
structure Starts (maxSessions : ℕ) (Meets : ResidentSessions → String → Prop) (s t : ResidentSessions)
    (conversationId : String) : Prop where
  meets : Meets s conversationId
  free : ∀ handle ∈ s.retain.sessions, handle.conversationId ≠ conversationId
  room : s.retain.sessions.length < maxSessions
  actors : t.actors =
    Function.update s.actors s.next (some { conversationId, stage := .running, process := false })
  next : t.next = s.next + 1

/-- What a step does to the actors. -/
inductive ActorsStep (maxSessions : ℕ) (Meets : ResidentSessions → String → Prop) (s t : ResidentSessions) : Prop
  | same (hactors : t.actors = s.actors) (hnext : t.next = s.next)
  | starts (conversationId : String) (h : Starts maxSessions Meets s t conversationId)
  /-- An actor goes on, and does not start again. -/
  | change (id : ℕ) (before after : SessionActor) (hbefore : s.actors id = some before)
      (hafter : t.actors = Function.update s.actors id (some after)) (hnext : t.next = s.next)
      (hconversation : after.conversationId = before.conversationId)
      (hstage : after.stage ≠ .stopped → before.stage ≠ .stopped)
      (hprocess : after.process → after.stage ≠ .stopped)

lemma startSession_cases (conversationId workspace : String) (launches : Bool) :
    (s.startSession maxSessions conversationId workspace launches).2 = s ∨
    (s.startSession maxSessions conversationId workspace launches).1 = .started ∧ s.sessions.length < maxSessions ∧
      (s.startSession maxSessions conversationId workspace launches).2 = s.spawnSession conversationId workspace := by
  rw [ResidentSessions.startSession]
  split
  · exact .inl rfl
  · next hr =>
    split
    · exact .inl rfl
    · exact .inr ⟨rfl, not_le.1 hr, rfl⟩

lemma actorsStep_of_startSession (hf : Keyed.get SessionHandle.conversationId s.retain.sessions conversationId = none)
    (hm : (s.retain.startSession maxSessions conversationId workspace launches).1 = .started → Meets s conversationId) :
    ActorsStep maxSessions Meets s (s.retain.startSession maxSessions conversationId workspace launches).2 := by
  rcases startSession_cases conversationId workspace launches with heq | ⟨hs, hr, heq⟩
  · rw [heq]
    exact .same rfl rfl
  · rw [heq]
    refine .starts conversationId ⟨hm hs, ?_, hr, rfl, rfl⟩
    intro ha hh hc
    exact Keyed.get_eq_none.1 hf (List.mem_map.2 ⟨ha, hh, hc⟩)

lemma actorsStep (hst : ResidentStep maxSessions Meets s t) : ActorsStep maxSessions Meets s t := by
  cases hst with
  | session conversationId workspace launches hm =>
    rw [ResidentSessions.session] at hm ⊢
    split
    · split
      · exact .same rfl rfl
      · split <;> exact .same rfl rfl
    · next hf =>
      rw [hf] at hm
      exact actorsStep_of_startSession hf hm
  | prewarm conversationId workspace launches hm =>
    rw [ResidentSessions.prewarm] at hm ⊢
    split
    · exact .same rfl rfl
    · next hf =>
      rw [hf] at hm
      exact actorsStep_of_startSession hf hm
  | waited | stop | stopAll => exact .same rfl rfl
  | startProcess id ha hs =>
    refine .change id _ _ ha rfl rfl rfl (fun h => h) fun _ => ?_
    rw [hs]
    nofun
  | endProcess id ha => exact .change id _ _ ha rfl rfl rfl (fun h => h) nofun
  | close id ha hs =>
    refine .change id _ _ ha rfl rfl rfl (fun _ => ?_) nofun
    rw [hs]
    nofun
  | finish id ha hs hp =>
    refine .change id _ _ ha rfl rfl rfl (fun h => absurd rfl h) fun h => ?_
    rw [hp] at h
    cases h

lemma SessionsOk.step (hok : SessionsOk s) (h : ActorsStep maxSessions Meets s t) : SessionsOk t := by
  cases h with
  | same hac hn => exact ⟨by rw [hac, hn]; exact hok.actor_lt, by rw [hac]; exact hok.process⟩
  | starts conversationId h =>
    constructor
    · intro id actor ha
      rw [h.actors] at ha
      rw [h.next]
      rcases Function.of_update_eq ha with ⟨rfl, -⟩ | ⟨-, ha⟩
      · exact Nat.lt_succ_self _
      · exact Nat.lt_succ_of_lt (hok.actor_lt id actor ha)
    · intro id actor ha
      rw [h.actors] at ha
      rcases Function.of_update_eq ha with ⟨-, ⟨⟩⟩ | ⟨-, ha⟩
      · nofun
      · exact hok.process id actor ha
  | change other before after hb haf hn hc hs hp =>
    constructor
    · intro id actor ha
      rw [haf] at ha
      rw [hn]
      rcases Function.of_update_eq ha with ⟨rfl, -⟩ | ⟨-, ha⟩
      · exact hok.actor_lt id before hb
      · exact hok.actor_lt id actor ha
    · intro id actor ha
      rw [haf] at ha
      rcases Function.of_update_eq ha with ⟨-, ⟨⟩⟩ | ⟨-, ha⟩
      · exact hp
      · exact hok.process id actor ha

/-- An actor that has not stopped was there before, or was just started. -/
lemma ActorsStep.unstopped (h : ActorsStep maxSessions Meets s t) (ha : t.Unstopped id actor) :
    (∃ before, s.Unstopped id before ∧ before.conversationId = actor.conversationId) ∨
      id = s.next ∧ Starts maxSessions Meets s t actor.conversationId := by
  obtain ⟨ha, hs⟩ := ha
  cases h with
  | same hac hn => exact .inl ⟨actor, ⟨hac ▸ ha, hs⟩, rfl⟩
  | starts conversationId h =>
    rw [h.actors] at ha
    rcases Function.of_update_eq ha with ⟨hid, ⟨⟩⟩ | ⟨-, ha⟩
    · exact .inr ⟨hid, h⟩
    · exact .inl ⟨actor, ⟨ha, hs⟩, rfl⟩
  | change other before after hb haf hn hc hst hp =>
    rw [haf] at ha
    rcases Function.of_update_eq ha with ⟨hid, ⟨⟩⟩ | ⟨-, ha⟩
    · exact .inl ⟨before, ⟨hid ▸ hb, hst hs⟩, hc.symm⟩
    · exact .inl ⟨actor, ⟨ha, hs⟩, rfl⟩

lemma mem_retain {hn : SessionHandle} (hh : hn ∈ s.sessions)
    (ha : s.Unstopped hn.actor actor) : hn ∈ s.retain.sessions := by
  refine List.mem_filter.2 ⟨hh, ?_⟩
  simp [ResidentSessions.isStopped, ha.1, ha.2]

lemma Starts.not_unstopped (h : Starts maxSessions Meets s t conversationId)
    (hg : s.Gone conversationId) (ha : s.Unstopped id actor) : actor.conversationId ≠ conversationId := by
  intro hc
  obtain ⟨hn, hh, heq, rfl⟩ := hg id actor ha hc
  exact h.free hn (mem_retain hh ha) heq

lemma OneActor.step (ho : OneActor s) (h : ActorsStep maxSessions Meets s t)
    (hm : ∀ conversationId, Meets s conversationId → s.Gone conversationId) : OneActor t := by
  intro id actor other actor' ha ha' heq
  rcases h.unstopped ha with ⟨before, hb, hc⟩ | ⟨rfl, hs⟩
  · rcases h.unstopped ha' with ⟨before', hb', hc'⟩ | ⟨rfl, hs⟩
    · exact ho id before other before' hb hb' (hc.trans (heq.trans hc'.symm))
    · exact absurd (hc.trans heq) (hs.not_unstopped (hm _ hs.meets) hb)
  · rcases h.unstopped ha' with ⟨before', hb', hc'⟩ | ⟨rfl, -⟩
    · exact absurd (hc'.trans heq.symm) (hs.not_unstopped (hm _ hs.meets) hb')
    · rfl

/-! ### The limit -/

/-- The actors that have not stopped. -/
def ResidentSessions.unstopped (s : ResidentSessions) : List ℕ :=
  (List.range s.next).filter fun id => (s.actors id).any (·.stage ≠ .stopped)

lemma mem_unstopped : id ∈ s.unstopped ↔ id < s.next ∧ ∃ actor, s.Unstopped id actor := by
  simp [ResidentSessions.unstopped, ResidentSessions.Unstopped, Option.any_eq_true]

lemma nodup_unstopped (s : ResidentSessions) : s.unstopped.Nodup := List.nodup_range.filter _

/-- If the sessions that have left the table have stopped, the others are in the table. -/
lemma length_unstopped_le (hg : ∀ conversationId, s.Gone conversationId) :
    s.unstopped.length ≤ s.retain.sessions.length := by
  have hs : s.unstopped ⊆ s.retain.sessions.map SessionHandle.actor := by
    intro id hid
    obtain ⟨-, actor, ha⟩ := mem_unstopped.1 hid
    obtain ⟨hn, hh, -, rfl⟩ := hg actor.conversationId id actor ha rfl
    exact List.mem_map_of_mem (mem_retain hh ha)
  have hle := ((nodup_unstopped s).subperm hs).length_le
  rwa [List.length_map] at hle

lemma length_unstopped_step (hok : SessionsOk s) (hle : s.unstopped.length ≤ maxSessions)
    (h : ActorsStep maxSessions Meets s t) (hm : ∀ conversationId, Meets s conversationId → ∀ other, s.Gone other) :
    t.unstopped.length ≤ maxSessions := by
  by_cases hs : ∃ conversationId, Starts maxSessions Meets s t conversationId
  · obtain ⟨conversationId, hs⟩ := hs
    have hsu : t.unstopped ⊆ s.next :: s.unstopped := by
      intro id hid
      obtain ⟨-, actor, ha⟩ := mem_unstopped.1 hid
      rcases h.unstopped ha with ⟨before, hb, -⟩ | ⟨rfl, -⟩
      · exact List.mem_cons_of_mem _ (mem_unstopped.2 ⟨hok.actor_lt id before hb.1, before, hb⟩)
      · exact List.mem_cons_self
    calc t.unstopped.length
        ≤ (s.next :: s.unstopped).length := ((nodup_unstopped t).subperm hsu).length_le
      _ ≤ s.retain.sessions.length + 1 := Nat.succ_le_succ (length_unstopped_le (hm _ hs.meets))
      _ ≤ maxSessions := hs.room
  · have hsu : t.unstopped ⊆ s.unstopped := by
      intro id hid
      obtain ⟨-, actor, ha⟩ := mem_unstopped.1 hid
      rcases h.unstopped ha with ⟨before, hb, -⟩ | ⟨-, hs'⟩
      · exact mem_unstopped.2 ⟨hok.actor_lt id before hb.1, before, hb⟩
      · exact absurd ⟨_, hs'⟩ hs
    exact ((nodup_unstopped t).subperm hsu).length_le.trans hle

lemma length_liveConversations_le (hok : SessionsOk s) : s.liveConversations.length ≤ s.unstopped.length := by
  refine (List.dedup_sublist _).length_le.trans ?_
  rw [List.length_filterMap_eq_countP, ResidentSessions.unstopped, ← List.countP_eq_length_filter]
  refine List.countP_mono_left fun id _ hl => ?_
  obtain ⟨conversationId, hl⟩ := Option.isSome_iff_exists.1 hl
  obtain ⟨actor, ha, hl⟩ := Option.bind_eq_some_iff.1 hl
  split at hl
  · next hp => simp [ha, hok.process id actor ha hp]
  · cases hl

end Steps

lemma SessionsOk.empty : SessionsOk .empty := ⟨by nofun, by nofun⟩

variable {s : ResidentSessions}

lemma SessionsOk.run (hr : Relation.ReflTransGen (ResidentStep maxSessions Meets) .empty s) : SessionsOk s := by
  induction hr with
  | refl => exact .empty
  | tail _ hs ih => exact ih.step (actorsStep hs)

/-- Resident processes. A conversation has one live process at most, if its sessions are started when those of it that
have left the table have stopped. At most `maxSessions` conversations have one, if that holds for all conversations. -/
theorem one_resident_process (maxSessions : ℕ) :
    (∀ s, Relation.ReflTransGen (ResidentStep maxSessions ResidentSessions.Gone) .empty s →
      ∀ id actor other actor', s.actors id = some actor → s.actors other = some actor' → actor.process →
        actor'.process → actor.conversationId = actor'.conversationId → id = other) ∧
    (∀ s, Relation.ReflTransGen (ResidentStep maxSessions fun s _ => ∀ conversationId, s.Gone conversationId) .empty s →
      s.liveConversations.length ≤ maxSessions) := by
  constructor
  · intro s hrun
    have hok := SessionsOk.run hrun
    have hone : OneActor s := by
      induction hrun with
      | refl =>
        intro id actor _ _ ha
        cases ha.1
      | tail hrun hstep ih => exact (ih (.run hrun)).step (actorsStep hstep) fun _ h => h
    intro id actor other actor' ha ha' hp hp'
    exact hone id actor other actor' ⟨ha, hok.process id actor ha hp⟩
      ⟨ha', hok.process other actor' ha' hp'⟩
  · intro s hrun
    have hle : s.unstopped.length ≤ maxSessions := by
      induction hrun with
      | refl => exact Nat.zero_le _
      | tail hrun hstep ih => exact length_unstopped_step (.run hrun) ih (actorsStep hstep) fun _ h => h
    exact (length_liveConversations_le (.run hrun)).trans hle

lemma ResidentStep.mono (hm : ∀ conversationId, Meets s conversationId → Meets' s conversationId)
    (h : ResidentStep maxSessions Meets s t) : ResidentStep maxSessions Meets' s t := by
  cases h with
  | session conversationId workspace launches h =>
    exact .session conversationId workspace launches fun hst => hm _ (h hst)
  | prewarm conversationId workspace launches h =>
    exact .prewarm conversationId workspace launches fun hst => hm _ (h hst)
  | waited conversationId actor hc => exact .waited conversationId actor hc
  | stop conversationId => exact .stop conversationId
  | stopAll => exact .stopAll
  | startProcess id ha hs => exact .startProcess id ha hs
  | endProcess id ha => exact .endProcess id ha
  | close id ha hs => exact .close id ha hs
  | finish id ha hs hp => exact .finish id ha hs hp

lemma residentSteps_of_all
    (hr : Relation.ReflTransGen (ResidentStep maxSessions fun s _ => ∀ conversationId, s.Gone conversationId) s t) :
    Relation.ReflTransGen (ResidentStep maxSessions ResidentSessions.Gone) s t := by
  induction hr with
  | refl => exact .refl
  | tail _ hs ih => exact ih.tail (hs.mono fun conversationId h => h conversationId)

lemma gone_of_stopped (h : ∀ id actor, s.actors id = some actor → actor.stage = .stopped) (conversationId : String) :
    s.Gone conversationId := by
  intro id actor ha
  exact absurd (h id actor ha.1) ha.2

/-- A session is stopped, and started again when its actor has stopped. -/
theorem one_resident_process_restart :
    ∃ s : ResidentSessions,
      s.actors 1 = some { conversationId := "conversation", stage := .running, process := true } ∧
      (∀ id actor, s.actors id = some actor → actor.process → actor.conversationId = "conversation" → id = 1) ∧
      s.liveConversations = ["conversation"] ∧ s.liveConversations.length ≤ 1 := by
  have run : Relation.ReflTransGen (ResidentStep 1 fun s _ => ∀ conversationId, s.Gone conversationId) .empty _ :=
    .refl
  have run := run.tail (.session "conversation" "workspace" true fun _ => gone_of_stopped nofun)
  have run := run.tail (.startProcess 0 rfl rfl)
  have run := run.tail (.stop "conversation")
  have run := run.tail (.close 0 rfl rfl)
  have run := run.tail (.endProcess 0 rfl)
  have run := run.tail (.finish 0 rfl rfl rfl)
  have hlt := (SessionsOk.run run).actor_lt
  have run := run.tail (.session "conversation" "workspace" true fun _ => gone_of_stopped fun id actor ha => by
    cases Nat.lt_one_iff.1 (hlt id actor ha)
    cases ha
    rfl)
  have run := run.tail (.startProcess 1 rfl rfl)
  have hgone := residentSteps_of_all run
  refine ⟨_, rfl, ?_, rfl, (one_resident_process 1).2 _ run⟩
  intro id actor ha hp hc
  exact (one_resident_process 1).1 _ hgone id actor 1 _ ha rfl hp rfl hc

/-- While a session is being stopped another one is started for the same conversation, or for one over the limit. -/
theorem two_resident_processes :
    (∃ s, Relation.ReflTransGen (ResidentStep 1 fun _ _ => True) .empty s ∧
      s.actors 0 = some { conversationId := "a", stage := .running, process := true } ∧
      s.actors 1 = some { conversationId := "a", stage := .running, process := true }) ∧
    (∃ s, Relation.ReflTransGen (ResidentStep 1 fun _ _ => True) .empty s ∧ s.liveConversations = ["a", "b"]) := by
  have run : Relation.ReflTransGen (ResidentStep 1 fun _ _ => True) .empty _ := .refl
  have run := run.tail (.session "a" "workspace" true fun _ => trivial)
  have run := run.tail (.startProcess 0 rfl rfl)
  have run := run.tail (.stop "a")
  constructor
  · have run := run.tail (.session "a" "workspace" true fun _ => trivial)
    have run := run.tail (.startProcess 1 rfl rfl)
    exact ⟨_, run, rfl, rfl⟩
  · have run := run.tail (.session "b" "workspace" true fun _ => trivial)
    have run := run.tail (.startProcess 1 rfl rfl)
    exact ⟨_, run, rfl⟩

end Todex
