import Todex.AgentCalls.Invariant

/-!
# A parent that is stopped stops its calls

The turn that made a call may be stopped at any time. If the call is still being started when the turn is released,
`track` finds the turn over; otherwise the hooks of the turn find the call among the children.
-/

namespace Todex

/-! ### How a call goes on -/

/-- What one step does to the stage of a call. -/
inductive StageStep (s t : AgentCalls) (id : ℕ) (call : AgentCall) : CallStage → Prop
  | same : StageStep s t id call call.stage
  /-- The call is still being started, or it is dropped. -/
  | starting {stage : CallStage} (hbefore : call.stage.isStarting) (hafter : stage.isStarting ∨ stage = .dropped) :
      StageStep s t id call stage
  | track {childId turnId : String} (hbefore : call.stage = .started childId turnId) :
      StageStep s t id call (.tracked childId turnId (s.tables.isStopped s.active call.parentId id))
  | return {childId turnId : String} {stopped : Bool} (hbefore : call.stage = .tracked childId turnId stopped)
      (hcancel : stopped → { parentId := call.parentId, ownerId := call.ownerId, childId, turnId } ∈ t.cancels) :
      StageStep s t id call (.returned childId turnId)

variable {call : AgentCall} {id : ℕ} {s t : AgentCalls}

/-- A call that is not being started keeps its child and its turn. -/
lemma StageStep.ran (h : StageStep s t id call stage)
    (hs : ¬ call.stage.isStarting) : stage.ran = call.stage.ran ∧ ¬ stage.isStarting := by
  cases h with
  | same => exact ⟨rfl, hs⟩
  | starting hb => exact absurd hb hs
  | track hb => exact absurd (by rw [hb]; rfl) hs
  | «return» hb =>
    rw [hb]
    exact ⟨rfl, Bool.false_ne_true⟩

/-- A step keeps who made a call and when. -/
structure CallNext (s t : AgentCalls) (id : ℕ) (before after : AgentCall) : Prop where
  parentId : after.parentId = before.parentId
  ownerId : after.ownerId = before.ownerId
  parentTurn : after.parentTurn = before.parentTurn
  stage : StageStep s t id before after.stage

namespace CallNext

variable {s t u : AgentCalls} {id other : ℕ} {call call' : AgentCall}

lemma same (call : AgentCall) : CallNext s t id call call := ⟨rfl, rfl, rfl, .same⟩

lemma setCall {before : AgentCall} (hc : u.calls = s.calls) (hb : s.calls id = some before)
    (hn : CallNext s t id before call') (hca : s.calls other = some call) :
    ∃ after, (u.setCall id call').calls other = some after ∧ CallNext s t other call after := by
  by_cases hne : other = id
  · subst hne
    cases hca.symm.trans hb
    exact ⟨call', AgentCalls.calls_setCall .., hn⟩
  · refine ⟨call, ?_, same call⟩
    rw [AgentCalls.calls_setCall_of_ne _ hne, hc]
    exact hca

end CallNext

namespace AgentCallsOk

variable {s t : AgentCalls}

lemma next (h : AgentCallsOk s) (hsp : AgentCallsStep s t)
    (hca : s.calls id = some call) : ∃ after, t.calls id = some after ∧ CallNext s t id call after := by
  cases hsp with
  | begin | abandon | start | finish | release | shutDown | remove | conversationRemoved | observe | settle =>
    exact ⟨call, hca, .same call⟩
  | hook earlier later turn hr =>
    refine ⟨call, ?_, .same call⟩
    rw [AgentCalls.turnEnded]
    split <;> exact hca
  | reserve parentId ownerId childId hc hta =>
    refine ⟨call, ?_, .same call⟩
    rw [AgentCalls.calls_setCall_of_ne _ (h id call hca).id_lt.ne]
    exact hca
  | create id' childId hca' hs hfr =>
    refine CallNext.setCall (u := s) rfl hca' ?_ hca
    exact ⟨rfl, rfl, rfl, .starting (by rw [hs]; rfl) (.inl rfl)⟩
  | follow id' hca' hs htp =>
    refine CallNext.setCall rfl hca' ?_ hca
    exact ⟨rfl, rfl, rfl, .starting (by rw [hs]; rfl) (.inl rfl)⟩
  | beginCall id' turnId hca' hs ha htu =>
    refine CallNext.setCall rfl hca' ?_ hca
    exact ⟨rfl, rfl, rfl, .starting (by rw [hs]; rfl) (.inl rfl)⟩
  | startCall id' hca' hs ha htu hre =>
    refine CallNext.setCall rfl hca' ?_ hca
    exact ⟨rfl, rfl, rfl, .starting (by rw [hs]; rfl) (.inl rfl)⟩
  | fail id' hca' hs =>
    refine CallNext.setCall rfl hca' ?_ hca
    obtain ⟨hst, rfl⟩ := CallStage.failed_eq_some hs
    exact ⟨rfl, rfl, rfl, .starting hst (.inl rfl)⟩
  | drop id' hca' hs =>
    refine CallNext.setCall rfl hca' ?_ hca
    exact ⟨rfl, rfl, rfl, .starting (by rw [hs]; rfl) (.inr rfl)⟩
  | track id' hca' hs =>
    refine CallNext.setCall rfl hca' ?_ hca
    exact ⟨rfl, rfl, rfl, .track hs⟩
  | «return» id' hca' hs =>
    refine CallNext.setCall (u := s) rfl hca' ?_ hca
    refine ⟨rfl, rfl, rfl, .return hs ?_⟩
    rintro rfl
    simp
  | unfollow id' hca' ht htu he hf =>
    refine CallNext.setCall rfl hca' ?_ hca
    exact ⟨rfl, rfl, rfl, .same⟩

end AgentCallsOk

lemma parentTurn_of_new (hs : AgentCallsStep s t)
    (hb : s.calls id = none) (hca : t.calls id = some call) : call.parentTurn = s.active call.parentId := by
  -- a step of another call leaves it out
  have ho : ∀ {u : AgentCalls} {other : ℕ} {before after : AgentCall}, u.calls = s.calls →
      s.calls other = some before → (u.setCall other after).calls id ≠ some call := by
    intro u other before after hc hca' heq
    have hne : id ≠ other := by
      rintro rfl
      cases hb.symm.trans hca'
    rw [AgentCalls.calls_setCall_of_ne _ hne, hc, hb] at heq
    cases heq
  cases hs with
  | begin | abandon | start | finish | release | shutDown | remove | conversationRemoved | observe | settle =>
    cases hb.symm.trans hca
  | hook earlier later turn hr =>
    rw [AgentCalls.turnEnded] at hca
    split at hca <;> cases hb.symm.trans hca
  | reserve parentId ownerId childId hch ht =>
    rcases Function.of_update_eq hca with ⟨rfl, ⟨⟩⟩ | ⟨-, hca⟩
    · rfl
    · cases hb.symm.trans hca
  | create _ _ hca' | «return» _ hca' => exact absurd hca (ho (u := s) rfl hca')
  | follow _ hca' | beginCall _ _ hca' | startCall _ hca' | fail _ hca' | drop _ hca' | track _ hca'
  | unfollow _ hca' => exact absurd hca (ho rfl hca')

/-! ### What is never undone -/

lemma cancels_subset (hs : AgentCallsStep s t) : s.cancels ⊆ t.cancels := by
  cases hs with
  | hook earlier later turn hr =>
    rw [AgentCalls.turnEnded]
    split
    · exact List.subset_append_left _ _
    · exact List.Subset.refl _
  | «return» => exact List.subset_append_left _ _
  | _ => exact List.Subset.refl _

lemma shuttingDown_of_step (hs : AgentCallsStep s t) (h : t.shuttingDown = false) : s.shuttingDown = false := by
  cases hs with
  | hook earlier later turn hr =>
    rw [AgentCalls.turnEnded] at h
    split at h <;> exact h
  | shutDown => cases h
  | _ => exact h

/-- The turn of the parent is over. -/
structure TurnOver (s : AgentCalls) (parentId turnId : String) : Prop where
  ended : ∃ terminal, s.turns turnId = some (.ended terminal)
  released : s.active parentId ≠ some turnId

namespace TurnOver

variable (h : TurnOver s parentId turnId)

include h

lemma setActive (conversationId : String) (ht : turn ≠ some turnId) :
    TurnOver (s.setActive conversationId turn) parentId turnId where
  ended := h.ended
  released := by
    by_cases hne : parentId = conversationId
    · simpa [AgentCalls.setActive, hne] using ht
    · simpa [AgentCalls.setActive, hne] using h.released

lemma setTurn (ho : other ≠ turnId) (phase : TurnPhase) : TurnOver (s.setTurn other phase) parentId turnId where
  ended := by
    rw [AgentCalls.turns_setTurn_of_ne _ ho.symm]
    exact h.ended
  released := h.released

lemma ne_of_turns (ho : s.turns other = phase) (hp : ∀ terminal, phase ≠ some (.ended terminal)) : other ≠ turnId := by
  rintro rfl
  obtain ⟨terminal, he⟩ := h.ended
  exact hp terminal (ho.symm.trans he)

lemma begin (conversationId : String) (ho : s.turns other = none) :
    TurnOver ((s.setActive conversationId (some other)).setTurn other .starting) parentId turnId := by
  have hne := h.ne_of_turns ho nofun
  exact (h.setActive conversationId (by simpa using hne)).setTurn hne _

lemma step (hst : AgentCallsStep s t) : TurnOver t parentId turnId := by
  cases hst with
  | begin conversationId other ha ht => exact h.begin conversationId ht
  | beginCall id other hc hs ha ht => exact { __ := h.begin _ ht }
  | abandon conversationId other ha ht => exact h.setActive _ nofun
  | release conversationId other terminal ha ht =>
    have ho : TurnOver (s.setActive conversationId none) parentId turnId := h.setActive conversationId nofun
    exact { __ := ho }
  | start conversationId other ha ht => exact h.setTurn (h.ne_of_turns ht nofun) _
  | finish conversationId other terminal ha ht => exact h.setTurn (h.ne_of_turns ht nofun) _
  | startCall id hc hs ha ht => exact { __ := h.setTurn (h.ne_of_turns ht nofun) .running }
  | hook earlier later turn hr =>
    rw [AgentCalls.turnEnded]
    split <;> exact { __ := h }
  | _ => exact { __ := h }

lemma run (hr : Relation.ReflTransGen AgentCallsStep s t) : TurnOver t parentId turnId := by
  induction hr with
  | refl => exact h
  | tail _ hs ih => exact ih.step hs

end TurnOver

/-! ### Calls that are being started -/

/-- The call is stopped: it will cancel its turn when it is tracked, or has done so. -/
def AgentCalls.Caught (self : AgentCalls) (call : AgentCall) : Prop :=
  match call.stage with
  | .tracked _ _ stopped => stopped
  | .returned childId turnId => { parentId := call.parentId, ownerId := call.ownerId, childId, turnId } ∈ self.cancels
  | _ => True

variable {turn : ReleasedTurn} {parentTurn : String}

section Run

variable {s t : AgentCalls}

/-- A call whose parent turn is over finds that out when it is tracked. -/
lemma isStopped_of_over (h : CallOk s id call) (hs : call.stage.isStarting) (ht : call.parentTurn = some parentTurn)
    (ho : TurnOver s call.parentId parentTurn) : s.tables.isStopped s.active call.parentId id := by
  obtain ⟨starting, hg, -, hpt, -⟩ := h.reserved hs
  rw [CallTables.isStopped, hg, Option.any_some, hpt, ht, Option.any_some]
  simp [ho.released]

lemma caught_step (h : CallOk s id before)
    (hn : CallNext s t id before after) (hca : s.cancels ⊆ t.cancels) (ht : before.parentTurn = some parentTurn)
    (hov : TurnOver s before.parentId parentTurn) (hc : s.Caught before) : t.Caught after := by
  obtain ⟨parentId, ownerId, continues, turn, stage, following⟩ := after
  obtain ⟨hp, ho, -, hs⟩ := hn
  simp only at hp ho hs
  subst hp ho
  cases hs with
  | same =>
    cases hb : before.stage <;> simp only [AgentCalls.Caught, hb] at hc ⊢
    · exact hc
    · exact hca hc
  | starting hb ha =>
    cases stage with
    | tracked | returned => simp [CallStage.isStarting] at ha
    | _ => trivial
  | track hb => exact isStopped_of_over h (by rw [hb]; rfl) ht hov
  | «return» hb hcn =>
    simp only [AgentCalls.Caught, hb] at hc
    exact hcn hc

/-- The call was being started when the turn of its parent was over: it is caught. -/
lemma caught_run (hok : AgentCallsOk s) (hr : Relation.ReflTransGen AgentCallsStep s t)
    (hcl : s.calls id = some call) (hs : call.stage.isStarting)
    (ht : call.parentTurn = some parentTurn) (ho : TurnOver s call.parentId parentTurn) :
    ∃ after, t.calls id = some after ∧ after.parentId = call.parentId ∧ after.parentTurn = some parentTurn ∧
      t.Caught after := by
  induction hr with
  | refl =>
    refine ⟨call, hcl, rfl, ht, ?_⟩
    cases hca : call.stage <;> simp only [AgentCalls.Caught, hca]
    all_goals simp [hca, CallStage.isStarting] at hs
  | @tail u v hr hst ih =>
    obtain ⟨before, hb, hp, ht', hc⟩ := ih
    have hoku := hok.steps hr
    obtain ⟨after, ha, hn⟩ := hoku.next hst hb
    refine ⟨after, ha, hn.parentId.trans hp, hn.parentTurn.trans ht', ?_⟩
    exact caught_step (hoku id before hb) hn (cancels_subset hst) ht' (hp ▸ ho.run hr) hc

lemma parentTurn_ne_of_new (hok : AgentCallsOk s) (hr : Relation.ReflTransGen AgentCallsStep s t)
    (hb : s.calls id = none) (hc : t.calls id = some call)
    (ho : TurnOver s call.parentId parentTurn) : call.parentTurn ≠ some parentTurn := by
  induction hr generalizing call with
  | refl => cases hb.symm.trans hc
  | @tail u v hr hs ih =>
    cases hu : u.calls id with
    | none =>
      rw [parentTurn_of_new hs hu hc]
      exact (ho.run hr).released
    | some before =>
      obtain ⟨after, ha, hn⟩ := (hok.steps hr).next hs hu
      cases hc.symm.trans ha
      rw [hn.parentTurn]
      exact ih hu (hn.parentId ▸ ho)

lemma kept_run (hok : AgentCallsOk s) (hr : Relation.ReflTransGen AgentCallsStep s t) (hc : s.calls id = some call) :
    ∃ after, t.calls id = some after ∧ after.parentId = call.parentId ∧ after.parentTurn = call.parentTurn := by
  induction hr with
  | refl => exact ⟨call, hc, rfl, rfl⟩
  | tail hr hs ih =>
    obtain ⟨before, hb, hp, ht⟩ := ih
    obtain ⟨after, ha, hn⟩ := (hok.steps hr).next hs hb
    exact ⟨after, ha, hn.parentId.trans hp, hn.parentTurn.trans ht⟩

lemma ran_run (hok : AgentCallsOk s) (hr : Relation.ReflTransGen AgentCallsStep s t)
    (hc : s.calls id = some call) (hs : ¬ call.stage.isStarting)
    (ha : t.calls id = some after) : after.stage.ran = call.stage.ran ∧ ¬ after.stage.isStarting := by
  induction hr generalizing after with
  | refl =>
    cases hc.symm.trans ha
    exact ⟨rfl, hs⟩
  | tail hr hst ih =>
    obtain ⟨before, hb, -⟩ := kept_run hok hr hc
    obtain ⟨hra, hs'⟩ := ih hb
    obtain ⟨after', ha', hn⟩ := (hok.steps hr).next hst hb
    cases ha.symm.trans ha'
    obtain ⟨hsa, hl⟩ := hn.stage.ran hs'
    exact ⟨hsa.trans hra, hl⟩

/-! ### The hooks of a turn -/

/-- The hooks of a released turn run. -/
def HookStep (turn : ReleasedTurn) (s t : AgentCalls) : Prop :=
  ∃ earlier later, s.released = earlier ++ turn :: later ∧
    t = { s with released := earlier ++ later }.turnEnded turn.conversationId turn.terminal

lemma HookStep.step (h : HookStep turn s t) : AgentCallsStep s t := by
  obtain ⟨earlier, later, hr, rfl⟩ := h
  exact .hook earlier later turn hr

lemma released_step (hs : AgentCallsStep s t) (ht : turn ∈ s.released) : turn ∈ t.released ∨ HookStep turn s t := by
  cases hs with
  | release => exact .inl (List.mem_append_left _ ht)
  | hook earlier later other hr =>
    by_cases ho : turn = other
    · subst ho
      exact .inr ⟨earlier, later, hr, rfl⟩
    · left
      have hm : turn ∈ earlier ++ later := by
        rw [hr] at ht
        simpa [ho] using ht
      rw [AgentCalls.turnEnded]
      split <;> exact hm
  | _ => exact .inl ht

lemma hook_run (hr : Relation.ReflTransGen AgentCallsStep s t) (ht : turn ∈ s.released) :
    turn ∈ t.released ∨ ∃ u v, Relation.ReflTransGen AgentCallsStep s u ∧ HookStep turn u v ∧
      Relation.ReflTransGen AgentCallsStep v t := by
  induction hr with
  | refl => exact .inl ht
  | @tail u v hr hs ih =>
    rcases ih with hm | ⟨u', v', hb, hh, ha⟩
    · exact (released_step hs hm).imp_right fun hh => ⟨u, v, hr, hh, .refl⟩
    · exact .inr ⟨u', v', hb, hh, ha.tail hs⟩

lemma shuttingDown_of_run (hr : Relation.ReflTransGen AgentCallsStep s t) (h : t.shuttingDown = false) :
    s.shuttingDown = false := by
  induction hr with
  | refl => exact h
  | tail _ hs ih => exact ih (shuttingDown_of_step hs h)

lemma cancels_run (hr : Relation.ReflTransGen AgentCallsStep s t) : s.cancels ⊆ t.cancels := by
  induction hr with
  | refl => exact List.Subset.refl _
  | tail _ hs ih => exact List.Subset.trans ih (cancels_subset hs)

lemma HookStep.cancels (h : HookStep turn s t) (hok : AgentCallsOk s)
    (hs : turn.terminal.stops) (hup : s.shuttingDown = false) {childId turnId : String}
    (hca : s.calls id = some call) (hp : call.parentId = turn.conversationId)
    (hra : call.stage.ran = some (childId, turnId)) (hru : s.turns turnId = some .running) :
    { parentId := call.parentId, ownerId := call.ownerId, childId, turnId } ∈ t.cancels := by
  obtain ⟨earlier, later, hre, rfl⟩ := h
  obtain ⟨ht, hc, htu⟩ := CallStage.of_ran hra
  obtain ⟨child, hm, hc', hp', ho, turn', htu', rfl, hr⟩ :=
    (hok id call hca).listed ht turnId ⟨htu, hru⟩
  cases hc.symm.trans hc'
  rw [AgentCalls.turnEnded, if_pos ⟨hs, by simp [hup]⟩]
  apply List.mem_append_right
  refine List.mem_filterMap.2 ⟨child, List.mem_filter.2 ⟨hm, ?_⟩, ?_⟩
  · simp [hp', hp]
  · simp [htu', hr, ho, hp]

end Run

/-! ### Whose turns are cancelled -/

/-- A call of the parent has started the turn in the child. -/
def AgentCalls.Made (self : AgentCalls) (parentId ownerId childId turnId : String) : Prop :=
  ∃ id call, self.calls id = some call ∧ call.parentId = parentId ∧ call.ownerId = ownerId ∧
    call.stage.ran = some (childId, turnId)

/-- The turns among the children, and those that were cancelled, are turns of calls. -/
structure MadeOk (s : AgentCalls) : Prop where
  children : ∀ child ∈ s.tables.children, ∀ turn, child.turn = some turn →
    s.Made child.parentId child.ownerId child.childId turn.turnId
  cancels : ∀ cancel ∈ s.cancels, s.Made cancel.parentId cancel.ownerId cancel.childId cancel.turnId

section Made

variable {s t : AgentCalls}

lemma AgentCallsOk.made_step (h : AgentCallsOk s) (hsp : AgentCallsStep s t)
    (hm : s.Made parentId ownerId childId turnId) : t.Made parentId ownerId childId turnId := by
  obtain ⟨id, call, hc, rfl, rfl, hr⟩ := hm
  obtain ⟨after, ha, hn⟩ := h.next hsp hc
  have hst : ¬ call.stage.isStarting := by
    intro hs
    cases hca : call.stage <;> simp [hca, CallStage.ran, CallStage.isStarting] at hr hs
  exact ⟨id, after, ha, hn.parentId, hn.ownerId, (hn.stage.ran hst).1.trans hr⟩

lemma MadeOk.childCancels (h : MadeOk s) (hc : cancel ∈ s.childCancels parentId) :
    s.Made cancel.parentId cancel.ownerId cancel.childId cancel.turnId := by
  obtain ⟨child, hch, hc⟩ := List.mem_filterMap.1 hc
  obtain ⟨hme, hp⟩ := List.mem_filter.1 hch
  obtain ⟨turn, ht, hc⟩ := Option.bind_eq_some_iff.1 hc
  split at hc
  · cases hc
    have hm := h.children child hme turn ht
    rwa [of_decide_eq_true hp] at hm
  · cases hc

/-- What is among the children after a step was there, but for the turn of a call that is tracked. -/
lemma children_step (hst : AgentCallsStep s t) {turn : CallTurn} (hc : child ∈ t.tables.children)
    (htu : child.turn = some turn) :
    (∃ before ∈ s.tables.children, ∃ turn', before.turn = some turn' ∧ turn'.turnId = turn.turnId ∧
      before.parentId = child.parentId ∧ before.ownerId = child.ownerId ∧ before.childId = child.childId) ∨
    t.Made child.parentId child.ownerId child.childId turn.turnId := by
  have hsa : child ∈ s.tables.children →
      ∃ before ∈ s.tables.children, ∃ turn', before.turn = some turn' ∧ turn'.turnId = turn.turnId ∧
        before.parentId = child.parentId ∧ before.ownerId = child.ownerId ∧ before.childId = child.childId :=
    fun hm => ⟨child, hm, turn, htu, rfl, rfl, rfl, rfl⟩
  cases hst with
  | hook earlier later other hr =>
    rw [AgentCalls.turnEnded] at hc
    split at hc <;> exact .inl (hsa hc)
  | conversationRemoved conversationId hre => exact .inl (hsa (List.mem_of_mem_filter hc))
  | reserve parentId ownerId childId hp ht =>
    obtain ⟨-, -, rfl⟩ := CallTables.reserve_eq_ok ht
    exact .inl (hsa hc)
  | track id hca hs =>
    rcases Keyed.mem_insert.1 hc with rfl | ⟨hc, -⟩
    · cases htu
      exact .inr ⟨id, _, AgentCalls.calls_setCall .., rfl, rfl, rfl⟩
    · exact .inl (hsa hc)
  | observe | settle => exact .inl (CallTables.mem_updateTurn hc htu)
  | _ => exact .inl (hsa hc)

lemma MadeOk.step (h : MadeOk s) (hok : AgentCallsOk s) (hst : AgentCallsStep s t) : MadeOk t where
  children child hch turn ht := by
    rcases children_step hst hch ht with ⟨before, hb, turn', ht', heq, hp, ho, hid⟩ | hm
    · have hm := hok.made_step hst (h.children before hb turn' ht')
      rwa [heq, hp, ho, hid] at hm
    · exact hm
  cancels cancel hc := by
    have hb : cancel ∈ s.cancels → t.Made cancel.parentId cancel.ownerId cancel.childId cancel.turnId :=
      fun hme => hok.made_step hst (h.cancels cancel hme)
    cases hcs : hst with
    | hook earlier later turn hr =>
      rw [AgentCalls.turnEnded] at hc
      split at hc
      · rcases List.mem_append.1 hc with hme | hme
        · exact hb hme
        · exact hok.made_step hst (h.childCancels hme)
      · exact hb hc
    | @«return» id call childId turnId stopped hca hs =>
      rcases List.mem_append.1 hc with hme | hme
      · exact hb hme
      · split at hme
        · cases List.mem_singleton.1 hme
          exact ⟨id, _, AgentCalls.calls_setCall .., rfl, rfl, rfl⟩
        · cases hme
    | _ => exact hb hc

lemma MadeOk.run (hr : Relation.ReflTransGen AgentCallsStep .empty s) : MadeOk s := by
  induction hr with
  | refl => exact ⟨by nofun, by nofun⟩
  | tail hr hs ih => exact ih.step (.run hr) hs

end Made

/-! ### A parent that is stopped -/

/-- A cancel that names the child turn was requested for the parent. -/
def AgentCalls.Requested (self : AgentCalls) (parentId childId turnId : String) : Prop :=
  ∃ cancel ∈ self.cancels, cancel.parentId = parentId ∧ cancel.childId = childId ∧ cancel.turnId = turnId

/-- Stopping a parent stops its agent calls. The turn of the parent that made a call is released as cancelled or
interrupted. When its hooks have run and the call was tracked, a cancel was requested that names the turn of the call,
unless the call had been tracked before and its turn was over when the hooks ran. Every cancel that is requested names
a turn of a call of the parent. -/
theorem stopped_parent_stops_calls :
    (∀ {s t : AgentCalls} {parentId parentTurn : String} {terminal : TurnTerminal},
      Relation.ReflTransGen AgentCallsStep .empty s → s.active parentId = some parentTurn →
      s.turns parentTurn = some (.ended terminal) → terminal.stops →
      Relation.ReflTransGen AgentCallsStep (s.release parentId parentTurn terminal) t →
      { conversationId := parentId, turnId := parentTurn, terminal } ∉ t.released → t.shuttingDown = false →
      ∀ (id : ℕ) (call : AgentCall) (childId turnId : String), t.calls id = some call → call.parentId = parentId →
      call.parentTurn = some parentTurn → call.stage = .returned childId turnId →
      t.Requested parentId childId turnId ∨
        ∃ before, s.calls id = some before ∧ before.stage.ran = some (childId, turnId) ∧
          ∃ u v, Relation.ReflTransGen AgentCallsStep (s.release parentId parentTurn terminal) u ∧
            HookStep { conversationId := parentId, turnId := parentTurn, terminal } u v ∧
            Relation.ReflTransGen AgentCallsStep v t ∧ ∃ ended, u.turns turnId = some (.ended ended)) ∧
    (∀ {s : AgentCalls}, Relation.ReflTransGen AgentCallsStep .empty s → ∀ cancel ∈ s.cancels,
      ∃ id call, s.calls id = some call ∧ call.parentId = cancel.parentId ∧
        call.stage.ran = some (cancel.childId, cancel.turnId)) := by
  constructor
  · intro s t parentId parentTurn terminal hrun hac he hsp ha hhook hup id call childId turnId hcall
      hp hturn hst
    have hok : AgentCallsOk (s.release parentId parentTurn terminal) :=
      .run (hrun.tail (.release parentId parentTurn terminal hac he))
    have hover : TurnOver (s.release parentId parentTurn terminal) parentId parentTurn :=
      ⟨⟨terminal, he⟩, by simp [AgentCalls.release, AgentCalls.setActive]⟩
    subst hp
    cases hb : s.calls id with
    | none => exact absurd hturn (parentTurn_ne_of_new hok ha hb hcall hover)
    | some before =>
      obtain ⟨after, ha', hp, hturn'⟩ := kept_run hok ha hb
      cases hcall.symm.trans ha'
      by_cases hs : before.stage.isStarting
      · -- `track` comes after the release, and finds the turn over
        obtain ⟨after, ha', -, -, hc⟩ :=
          caught_run hok ha hb hs (hturn'.symm.trans hturn) (hp ▸ hover)
        cases hcall.symm.trans ha'
        rw [AgentCalls.Caught, hst] at hc
        exact .inl ⟨_, hc, rfl, rfl, rfl⟩
      · -- the hooks find the call among the children
        have hran := (ran_run hok ha hb hs hcall).1
        rw [hst] at hran
        have hr : { conversationId := call.parentId, turnId := parentTurn, terminal } ∈
            (s.release call.parentId parentTurn terminal).released :=
          List.mem_append_right _ (List.mem_singleton_self _)
        obtain ⟨u, v, hu, huv, hv⟩ := (hook_run ha hr).resolve_left hhook
        obtain ⟨there, ht, hp', -⟩ := kept_run hok hu hb
        have hran' : there.stage.ran = some (childId, turnId) :=
          (ran_run hok hu hb hs ht).1.trans hran.symm
        have hoku := hok.steps hu
        rcases (hoku id there ht).phase turnId (CallStage.of_ran hran').2.2 with hruns | he'
        · have hup' : u.shuttingDown = false := shuttingDown_of_step huv.step (shuttingDown_of_run hv hup)
          have htp := hp'.trans hp.symm
          have hmem := huv.cancels hoku hsp hup' ht htp hran' hruns
          exact .inl ⟨_, cancels_run hv hmem, htp, rfl, rfl⟩
        · exact .inr ⟨before, rfl, hran.symm, u, v, hu, huv, hv, he'⟩
  · intro s hrun cancel hca
    obtain ⟨id, call, hcall, hp, -, hran⟩ := (MadeOk.run hrun).cancels cancel hca
    exact ⟨id, call, hcall, hp, hran⟩

lemma run_here (_ : Relation.ReflTransGen AgentCallsStep s t) : Relation.ReflTransGen AgentCallsStep t t := .refl

/-- The parent is stopped while its call is being started. -/
theorem stopped_parent_stops_calls_starting : ∃ t, Relation.ReflTransGen AgentCallsStep .empty t ∧
    t.Requested "parent" "child" "child turn" := by
  have run : Relation.ReflTransGen AgentCallsStep .empty _ := .refl
  have run := run.tail (.begin "parent" "turn" rfl rfl)
  have run := run.tail (.start "parent" "turn" rfl rfl rfl nofun)
  have run := run.tail (.reserve "parent" "owner" none nofun rfl)
  have run := run.tail (.create 0 "child" rfl rfl (.of_one rfl rfl rfl rfl rfl rfl))
  have run := run.tail (.follow 0 rfl rfl rfl)
  have run := run.tail (.beginCall 0 "child turn" rfl rfl rfl rfl)
  have run := run.tail (.startCall 0 rfl rfl rfl rfl rfl)
  have run := run.tail (.finish "parent" "turn" .cancelled rfl rfl)
  have after := run_here (run.tail (.release "parent" "turn" .cancelled rfl rfl))
  have after := after.tail (.track 0 rfl rfl)
  have after := after.tail (.return 0 rfl rfl)
  have after := after.tail (.hook [] [] _ rfl)
  have hr := stopped_parent_stops_calls.1 run rfl rfl rfl after nofun rfl 0 _ _ _ rfl rfl rfl rfl
  refine ⟨_, (run.tail (.release "parent" "turn" .cancelled rfl rfl)).trans after, ?_⟩
  -- the call was not tracked yet when the turn was released
  refine hr.resolve_right ?_
  rintro ⟨before, hb, hran, -⟩
  cases hb
  cases hran

/-- The turn of the parent is released as cancelled while the child turn runs. The child turn completes before the hooks
run, and no cancel is requested. -/
theorem child_ends_before_hook : ∃ s t, Relation.ReflTransGen AgentCallsStep .empty s ∧
    s.active "parent" = some "turn" ∧ s.turns "turn" = some (.ended .cancelled) ∧
    s.turns "child turn" = some .running ∧
    Relation.ReflTransGen AgentCallsStep (s.release "parent" "turn" .cancelled) t ∧
    { conversationId := "parent", turnId := "turn", terminal := .cancelled } ∉ t.released ∧ t.shuttingDown = false ∧
    (∃ call, t.calls 0 = some call ∧ call.parentId = "parent" ∧ call.parentTurn = some "turn" ∧
      call.stage = .returned "child" "child turn") ∧ t.cancels = [] := by
  have run : Relation.ReflTransGen AgentCallsStep .empty _ := .refl
  have run := run.tail (.begin "parent" "turn" rfl rfl)
  have run := run.tail (.start "parent" "turn" rfl rfl rfl nofun)
  have run := run.tail (.reserve "parent" "owner" none nofun rfl)
  have run := run.tail (.create 0 "child" rfl rfl (.of_one rfl rfl rfl rfl rfl rfl))
  have run := run.tail (.follow 0 rfl rfl rfl)
  have run := run.tail (.beginCall 0 "child turn" rfl rfl rfl rfl)
  have run := run.tail (.startCall 0 rfl rfl rfl rfl rfl)
  have run := run.tail (.track 0 rfl rfl)
  have run := run.tail (.return 0 rfl rfl)
  have run := run.tail (.finish "parent" "turn" .cancelled rfl rfl)
  have after := run_here (run.tail (.release "parent" "turn" .cancelled rfl rfl))
  have after := after.tail (.finish "child" "child turn" .completed rfl rfl)
  have after := after.tail (.unfollow 0 rfl rfl rfl rfl rfl)
  have after := after.tail (.settle 0 .completed rfl rfl rfl rfl nofun nofun)
  have after := after.tail (.hook [] [] _ rfl)
  exact ⟨_, _, run, rfl, rfl, rfl, after, by nofun, rfl, ⟨_, rfl, rfl, rfl, rfl⟩, rfl⟩

end Todex
