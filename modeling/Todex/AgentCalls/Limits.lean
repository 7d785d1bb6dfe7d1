import Todex.AgentCalls.Invariant

/-!
# The limits of the agent calls

A call counts from its reservation to the end of its child turn. A parent never has more calls than the limit. A
child has one call at most, unless `agent_turn` names a child whose `agent_run` has not been tracked: that call has
a reservation that names no child.
-/

namespace Todex

variable {call : AgentCall} {id : ℕ}

namespace AgentCalls

variable (self : AgentCalls)

/-- The call is being started, or its turn runs. -/
def isLive (call : AgentCall) : Bool :=
  call.stage.isStarting || call.stage.isTracked &&
    call.stage.turnId.any fun turnId => (self.turns turnId).any TurnPhase.isRunning

/-- The calls that satisfy `p`. -/
def callsWith (p : AgentCall → Bool) : List ℕ :=
  (List.range self.tables.nextStart).filter fun id => (self.calls id).any p

/-- The calls of a parent that are running or starting. -/
def liveCalls (parentId : String) : List ℕ := self.callsWith fun call => call.parentId = parentId && self.isLive call

/-- The calls that are running or starting in a child. -/
def liveIn (childId : String) : List ℕ :=
  self.callsWith fun call => call.stage.childId = some childId && self.isLive call

variable {self}

lemma isLive_iff : self.isLive call ↔
    call.stage.isStarting ∨ call.stage.isTracked ∧ ∃ turnId, self.Runs call turnId := by
  have hr : ∀ turnId, (self.turns turnId).any TurnPhase.isRunning ↔ self.turns turnId = some .running := by
    intro turnId
    rcases self.turns turnId with _ | phase
    · simp
    · cases phase <;> simp [TurnPhase.isRunning]
  simp only [isLive, Bool.or_eq_true, Bool.and_eq_true, Option.any_eq_true, hr, Runs]

lemma mem_callsWith :
    id ∈ self.callsWith p ↔ id < self.tables.nextStart ∧ ∃ call, self.calls id = some call ∧ p call := by
  simp [callsWith, Option.any_eq_true]

lemma nodup_callsWith (p : AgentCall → Bool) : (self.callsWith p).Nodup := List.nodup_range.filter _

end AgentCalls

/-! ### The limit of a parent -/

namespace AgentCallsOk

variable {s t : AgentCalls}

lemma length_starting_le (h : AgentCallsOk s) (parentId : String) :
    (s.callsWith fun call => call.parentId = parentId && call.stage.isStarting).length ≤
      s.tables.starting.countP (·.parentId = parentId) := by
  have hs : (s.callsWith fun call => call.parentId = parentId && call.stage.isStarting) ⊆
      (s.tables.starting.filter (·.parentId = parentId)).map Starting.id := by
    intro id hid
    obtain ⟨-, call, hc, hp⟩ := AgentCalls.mem_callsWith.1 hid
    simp only [Bool.and_eq_true, decide_eq_true_eq] at hp
    obtain ⟨starting, hg, hpa, -⟩ := (h id call hc).reserved hp.2
    refine List.mem_map.2 ⟨starting, List.mem_filter.2 ⟨Keyed.mem_of_get hg, ?_⟩, Keyed.key_of_get hg⟩
    simp [hpa, hp.1]
  have hle := ((AgentCalls.nodup_callsWith _).subperm hs).length_le
  rwa [List.length_map, ← List.countP_eq_length_filter] at hle

/-- The calls whose turns run are in the table; each has a child of its own. -/
lemma length_running_le (h : AgentCallsOk s) (parentId : String) :
    (s.callsWith fun call => call.parentId = parentId && (s.isLive call && !call.stage.isStarting)).length ≤
      s.tables.children.countP (fun child => child.parentId = parentId ∧ child.isRunning) := by
  set p : AgentCall → Bool := fun call => call.parentId = parentId && (s.isLive call && !call.stage.isStarting) with hp
  have hrn : ∀ id ∈ s.callsWith p, ∃ call, s.calls id = some call ∧ call.parentId = parentId ∧
      call.stage.isTracked ∧ ∃ turnId, s.Runs call turnId := by
    intro id hid
    obtain ⟨-, call, hca, hpc⟩ := AgentCalls.mem_callsWith.1 hid
    simp only [hp, Bool.and_eq_true, decide_eq_true_eq, Bool.not_eq_true', AgentCalls.isLive_iff] at hpc
    obtain ⟨hpa, hl, hs⟩ := hpc
    rw [hs] at hl
    exact ⟨call, hca, hpa, hl.resolve_left Bool.false_ne_true⟩
  set f : ℕ → Option String := fun id => (s.calls id).bind (·.stage.childId) with hf
  have hsu : (s.callsWith p).map f ⊆
      (s.tables.children.filter fun child => child.parentId = parentId ∧ child.isRunning).map (some ·.childId) := by
    intro child hc
    obtain ⟨id, hid, rfl⟩ := List.mem_map.1 hc
    obtain ⟨call, hca, hpa, ht, turnId, htu⟩ := hrn id hid
    obtain ⟨child, hm, hc, hpa', -, turn, htu', -, hru⟩ := (h id call hca).listed ht turnId htu
    refine List.mem_map.2 ⟨child, List.mem_filter.2 ⟨hm, ?_⟩, ?_⟩
    · simp [hpa', hpa, ChildCall.isRunning, htu', hru]
    · simp [hf, hca, hc]
  have hn : ((s.callsWith p).map f).Nodup := by
    refine List.Nodup.map_on ?_ (AgentCalls.nodup_callsWith p)
    intro id hid other ho heq
    obtain ⟨call, hca, -, -, turnId, htu⟩ := hrn id hid
    obtain ⟨call', hca', -, -, tid', htu'⟩ := hrn other ho
    obtain ⟨hfo, childId, hc, -, hr⟩ := (h id call hca).active turnId htu
    obtain ⟨hfo', -⟩ := (h other call' hca').active tid' htu'
    have hc' : call'.stage.childId = some childId := by
      simpa [hf, hca, hca', hc] using heq.symm
    exact (h id call hca).id_eq (h other call' hca') hfo hfo' hc hc' hr
  have hle := (hn.subperm hsu).length_le
  rwa [List.length_map, List.length_map, ← List.countP_eq_length_filter] at hle

lemma length_liveCalls_le (h : AgentCallsOk s) (parentId : String) :
    (s.liveCalls parentId).length ≤ s.tables.running parentId := by
  -- the live calls, by whether they have their reservation
  set isStarting : ℕ → Bool := fun id => (s.calls id).any (·.stage.isStarting) with his
  have hn : (s.liveCalls parentId).Nodup := AgentCalls.nodup_callsWith _
  have hs : (s.liveCalls parentId).filter isStarting ⊆
      s.callsWith fun call => call.parentId = parentId && call.stage.isStarting := by
    intro id hid
    obtain ⟨hid, hs⟩ := List.mem_filter.1 hid
    obtain ⟨hlt, call, hc, hp⟩ := AgentCalls.mem_callsWith.1 hid
    refine AgentCalls.mem_callsWith.2 ⟨hlt, call, hc, ?_⟩
    simp_all
  have hr : ((s.liveCalls parentId).filter fun id => !isStarting id) ⊆
      s.callsWith fun call => call.parentId = parentId && (s.isLive call && !call.stage.isStarting) := by
    intro id hid
    obtain ⟨hid, hs⟩ := List.mem_filter.1 hid
    obtain ⟨hlt, call, hc, hp⟩ := AgentCalls.mem_callsWith.1 hid
    refine AgentCalls.mem_callsWith.2 ⟨hlt, call, hc, ?_⟩
    simp_all
  calc (s.liveCalls parentId).length
      = ((s.liveCalls parentId).filter isStarting).length +
          ((s.liveCalls parentId).filter fun id => !isStarting id).length := List.length_eq_length_filter_add _
    _ ≤ s.tables.starting.countP (·.parentId = parentId) +
          s.tables.children.countP (fun child => child.parentId = parentId ∧ child.isRunning) := by
        apply Nat.add_le_add
        · exact ((hn.filter _).subperm hs).length_le.trans (h.length_starting_le parentId)
        · exact ((hn.filter _).subperm hr).length_le.trans (h.length_running_le parentId)
    _ = s.tables.running parentId := Nat.add_comm ..

lemma running_step (h : AgentCallsOk s) (hl : ∀ parentId, s.tables.running parentId ≤ maxConcurrentCalls)
    (hsp : AgentCallsStep s t) (parentId : String) : t.tables.running parentId ≤ maxConcurrentCalls := by
  cases hsp with
  | begin | abandon | start | finish | release | shutDown | remove | create | follow | beginCall | startCall | fail
  | «return» | unfollow => exact hl parentId
  | hook earlier later turn hr =>
    simp only [AgentCalls.turnEnded]
    split
    · exact (CallTables.running_markStopped _ _).trans_le (hl parentId)
    · exact hl parentId
  | conversationRemoved conversationId hre =>
    exact (CallTables.running_conversationRemoved_le _ _).trans (hl parentId)
  | reserve pid' ownerId childId hc hta =>
    obtain ⟨-, hlt, rfl⟩ := CallTables.reserve_eq_ok hta
    have hle := hl parentId
    change (s.tables.addStarting _ _ _).running parentId ≤ _
    rw [CallTables.running_addStarting]
    split
    · next heq =>
      subst heq
      exact hlt
    · exact hle
  | drop id hca hst => exact (CallTables.running_dropReservation_le _ _).trans (hl parentId)
  | track id hca hst =>
    obtain ⟨starting, hg, hp, -⟩ := (h id _ hca).reserved (by rw [hst]; rfl)
    exact (CallTables.running_track_le hg hp _ _ _ _).trans (hl parentId)
  | observe id status hca ht hc htu hf hs =>
    refine (CallTables.running_updateTurn_le ?_ _ _ _).trans (hl parentId)
    intro old hn
    by_cases hold : old.isRunning
    · exact hold
    · rwa [if_neg hold] at hn
  | settle id status hca ht hc htu hf hs =>
    refine (CallTables.running_updateTurn_le ?_ _ _ _).trans (hl parentId)
    intro _ hn
    exact absurd hn hs

lemma running_le (h : Relation.ReflTransGen AgentCallsStep .empty s) (parentId : String) :
    s.tables.running parentId ≤ maxConcurrentCalls := by
  induction h generalizing parentId with
  | refl => exact Nat.zero_le _
  | tail hr hs ih => exact (run hr).running_step ih hs parentId

end AgentCallsOk

/-! ### One call of a child -/

/-- An `agent_turn` goes on with no child whose `agent_run` is still being started. -/
def KnownChildren (s t : AgentCalls) : Prop :=
  ∀ id call, s.calls id = none → t.calls id = some call → ∀ childId ∈ call.continues,
    ∀ other call', s.calls other = some call' → call'.continues = none → call'.stage.isStarting →
      call'.stage.childId ≠ some childId

/-- Two calls that are running or starting have different children. -/
def Exclusive (s : AgentCalls) : Prop :=
  ∀ id call other call' childId, s.calls id = some call → s.calls other = some call' → s.isLive call →
    s.isLive call' → call.stage.childId = some childId → call'.stage.childId = some childId → id = other

/-- Where a call that is running or starting comes from. -/
inductive LiveFrom (s t : AgentCalls) (id : ℕ) (call : AgentCall) : Prop
  /-- It was there, with the same child. -/
  | same {before : AgentCall} (hbefore : s.calls id = some before) (hlive : s.isLive before)
      (hchild : before.stage.childId = call.stage.childId)
  /-- It was there, and its child is new. -/
  | created {before : AgentCall} {childId : String} (hbefore : s.calls id = some before) (hlive : s.isLive before)
      (hchild : call.stage.childId = some childId) (hfresh : s.Fresh childId)
      (hothers : ∀ other, other ≠ id → t.calls other = s.calls other)
  /-- It has reserved its child. -/
  | reserved (hbefore : s.calls id = none) (hchild : call.stage.childId = call.continues)
      (hfree : ∀ childId ∈ call.continues, (∀ starting ∈ s.tables.starting, starting.childId ≠ some childId) ∧
        s.active childId = none)
      (hothers : ∀ other, other ≠ id → t.calls other = s.calls other)

namespace LiveFrom

variable {s t u : AgentCalls} {id other : ℕ} {call call' : AgentCall}

/-- A step of one call; the others are running or starting as before. -/
lemma setCall (hc : u.calls = s.calls) (hca : (u.setCall id call').calls other = some call)
    (hb : s.calls other = some call → s.isLive call) (hs : other = id → call = call' → LiveFrom s t other call) :
    LiveFrom s t other call := by
  rcases Function.of_update_eq hca with ⟨rfl, ⟨⟩⟩ | ⟨-, hca⟩
  · exact hs rfl rfl
  · rw [hc] at hca
    exact .same hca (hb hca) rfl

lemma starting (hca : s.calls id = some call) (hs : call.stage.isStarting)
    (hc : call.stage.childId = call'.stage.childId) : LiveFrom s t id call' :=
  .same hca (AgentCalls.isLive_iff.2 (.inl hs)) hc

end LiveFrom

variable {s : AgentCalls}

lemma CallOk.isLive_of_setTurn (h : CallOk s id call) {phase : TurnPhase}
    (hp : (s.turns turnId = none ∨ s.turns turnId = some .starting) ∨ ∃ terminal, phase = .ended terminal)
    (hl : (s.setTurn turnId phase).isLive call) : s.isLive call := by
  rw [AgentCalls.isLive_iff] at hl ⊢
  refine hl.imp_right ?_
  rintro ⟨ht, other, hr⟩
  exact ⟨ht, other, h.runs_of_setTurn hp hr⟩

namespace AgentCallsOk

variable {s t : AgentCalls}

lemma liveFrom (h : AgentCallsOk s) (hste : AgentCallsStep s t)
    (hca : t.calls id = some call) (hl : t.isLive call) : LiveFrom s t id call := by
  cases hste with
  | abandon | release | shutDown | remove | conversationRemoved | observe | settle => exact .same hca hl rfl
  | begin conversationId turnId ha htu =>
    have hok := (h id call hca).setActive conversationId (some turnId) (by rw [ha]; nofun)
    exact .same hca (hok.isLive_of_setTurn (.inl (.inl htu)) hl) rfl
  | start conversationId turnId ha htu hr hc =>
    exact .same hca ((h id call hca).isLive_of_setTurn (.inl (.inr htu)) hl) rfl
  | finish conversationId turnId terminal ha htu =>
    exact .same hca ((h id call hca).isLive_of_setTurn (.inr ⟨terminal, rfl⟩) hl) rfl
  | hook earlier later turn hre =>
    simp only [AgentCalls.turnEnded] at hca hl
    split at hca
    · next hsp =>
      rw [if_pos hsp] at hl
      exact .same hca hl rfl
    · next hsp =>
      rw [if_neg hsp] at hl
      exact .same hca hl rfl
  | reserve parentId ownerId childId hch ht =>
    obtain ⟨hfr, -, rfl⟩ := CallTables.reserve_eq_ok ht
    refine .setCall rfl hca (fun _ => hl) ?_
    rintro rfl rfl
    refine .reserved ?_ rfl hfr fun other ho => AgentCalls.calls_setCall_of_ne _ ho _
    -- the reservations have smaller numbers
    cases hb : s.calls s.tables.nextStart with
    | none => rfl
    | some before => exact absurd (h _ before hb).id_lt (lt_irrefl _)
  | create id' childId hca' hs hf =>
    refine LiveFrom.setCall (u := s) rfl hca (fun _ => hl) ?_
    rintro rfl rfl
    have hst : s.isLive _ := AgentCalls.isLive_iff.2 (.inl (by rw [hs]; rfl))
    exact .created hca' hst rfl hf fun other ho => AgentCalls.calls_setCall_of_ne _ ho _
  | follow id' hca' hs hta =>
    refine .setCall rfl hca (fun _ => hl) ?_
    rintro rfl rfl
    exact .starting hca' (by rw [hs]; rfl) (by rw [hs]; rfl)
  | @beginCall id' turnId call' childId hca' hs ha htu =>
    refine .setCall rfl hca (fun hb => ?_) ?_
    · have hok := (h id call hb).setActive childId (some turnId) (by rw [ha]; nofun)
      exact hok.isLive_of_setTurn (.inl (.inl htu)) hl
    · rintro rfl rfl
      exact .starting hca' (by rw [hs]; rfl) (by rw [hs]; rfl)
  | startCall id' hca' hs ha htu hr =>
    refine .setCall rfl hca (fun hb => (h id call hb).isLive_of_setTurn (.inl (.inr htu)) hl) ?_
    rintro rfl rfl
    exact .starting hca' (by rw [hs]; rfl) (by rw [hs]; rfl)
  | fail id' hca' hs =>
    refine .setCall rfl hca (fun _ => hl) ?_
    rintro rfl rfl
    obtain ⟨hst, rfl⟩ := CallStage.failed_eq_some hs
    exact .starting hca' hst rfl
  | drop id' hca' hs =>
    refine .setCall rfl hca (fun _ => hl) ?_
    rintro rfl rfl
    cases hl
  | track id' hca' hs =>
    refine .setCall rfl hca (fun _ => hl) ?_
    rintro rfl rfl
    exact .starting hca' (by rw [hs]; rfl) (by rw [hs]; rfl)
  | @«return» id' call' childId turnId stopped hca' hs =>
    refine LiveFrom.setCall (u := s) rfl hca (fun _ => hl) ?_
    rintro rfl rfl
    refine .same hca' ?_ (by rw [hs]; rfl)
    rw [AgentCalls.isLive, hs]
    exact hl
  | unfollow id' hca' htr htu he hfo =>
    refine .setCall rfl hca (fun _ => hl) ?_
    rintro rfl rfl
    exact .same hca' hl rfl

lemma not_live_of_free (h : AgentCallsOk s)
    (hca : s.calls id = some call) (hl : s.isLive call) (hch : call.stage.childId = some childId)
    (hst : ∀ starting ∈ s.tables.starting, starting.childId ≠ some childId) (ha : s.active childId = none)
    (hk : call.continues = none → call.stage.isStarting → call.stage.childId ≠ some childId) : False := by
  have hok := h id call hca
  rcases AgentCalls.isLive_iff.1 hl with hs | ⟨-, turnId, hr⟩
  · cases hc : call.continues with
    | none => exact hk hc hs hch
    | some child =>
      obtain ⟨starting, hg, -, -, hn⟩ := hok.reserved hs
      have heq := hok.continues hs child hc
      cases hch.symm.trans heq
      exact hst starting (Keyed.mem_of_get hg) (hn.trans hc)
  · obtain ⟨-, child, heq, ht, -⟩ := hok.active turnId hr
    cases hch.symm.trans heq
    rw [ha] at ht
    cases ht

/-- Of two calls that have one child after a step, each had it before. -/
lemma live_before (h : AgentCallsOk s) (hk : KnownChildren s t)
    (hca : t.calls id = some call) (hca' : t.calls other = some call') (hne : id ≠ other)
    (hfr : LiveFrom s t id call) (hfr' : LiveFrom s t other call') (hc : call.stage.childId = some childId)
    (hc' : call'.stage.childId = some childId) :
    ∃ before, s.calls id = some before ∧ s.isLive before ∧ before.stage.childId = some childId := by
  cases hfr with
  | same hb hl heq => exact ⟨_, hb, hl, heq.trans hc⟩
  | created hb hl heq hf ho =>
    cases heq.symm.trans hc
    exact absurd hc' (hf.calls other call' ((ho other hne.symm).symm.trans hca'))
  | reserved hb heq hfre ho =>
    have hco : call.continues = some childId := heq.symm.trans hc
    obtain ⟨hs, ha⟩ := hfre childId hco
    have hot : s.calls other = some call' := (ho other hne.symm).symm.trans hca'
    cases hfr' with
    | same hb' hl' heq' =>
      cases hot.symm.trans hb'
      exact (h.not_live_of_free hot hl' hc' hs ha (hk id call hb hca childId hco other call' hot)).elim
    | created _ _ _ _ ho' =>
      rw [ho' id hne, hb] at hca
      cases hca
    | reserved hb' =>
      rw [hb'] at hot
      cases hot

lemma exclusive_step (h : AgentCallsOk s) (he : Exclusive s) (hs : AgentCallsStep s t)
    (hk : KnownChildren s t) : Exclusive t := by
  intro id call other call' childId hca hca' hl hl' hc hc'
  by_contra hne
  have hf := h.liveFrom hs hca hl
  have hf' := h.liveFrom hs hca' hl'
  obtain ⟨before, hb, hbl, hbc⟩ :=
    h.live_before hk hca hca' hne hf hf' hc hc'
  obtain ⟨before', hb', hbl', hbc'⟩ :=
    h.live_before hk hca' hca (Ne.symm hne) hf' hf hc' hc
  exact hne (he id before other before' childId hb hb' hbl hbl' hbc hbc')

end AgentCallsOk

/-- Every `agent_turn` of the run knows its child from an `agent_run` that was tracked. -/
def KnownStep (s t : AgentCalls) : Prop := AgentCallsStep s t ∧ KnownChildren s t

lemma exclusive_run (h : Relation.ReflTransGen KnownStep .empty s) : Exclusive s := by
  induction h with
  | refl =>
    intro id call other call' childId hc
    cases hc
  | tail hr hs ih =>
    exact (AgentCallsOk.run (hr.lift id fun _ _ h => h.1)).exclusive_step ih hs.1 hs.2

lemma Exclusive.length_liveIn_le (h : Exclusive s) (childId : String) : (s.liveIn childId).length ≤ 1 := by
  have heq : ∀ id ∈ s.liveIn childId, ∀ other ∈ s.liveIn childId, id = other := by
    intro id hid other ho
    obtain ⟨-, call, hc, hp⟩ := AgentCalls.mem_callsWith.1 hid
    obtain ⟨-, call', hc', hp'⟩ := AgentCalls.mem_callsWith.1 ho
    simp only [Bool.and_eq_true, decide_eq_true_eq] at hp hp'
    exact h id call other call' childId hc hc' hp.2 hp'.2 hp.1 hp'.1
  have hn : (s.liveIn childId).Nodup := AgentCalls.nodup_callsWith _
  match hl : s.liveIn childId with
  | [] => exact Nat.zero_le 1
  | [_] => exact le_refl 1
  | id :: other :: rest =>
    rw [hl] at heq hn
    obtain rfl := heq id List.mem_cons_self other (List.mem_cons_of_mem _ List.mem_cons_self)
    exact absurd List.mem_cons_self (List.nodup_cons.1 hn).1

/-- Agent calls respect their limits: a parent has at most `maxConcurrentCalls` calls that are running or starting,
and a child has at most one, if no `agent_turn` names a child whose `agent_run` is still being started. -/
theorem agent_calls_within_limits (s : AgentCalls) :
    (Relation.ReflTransGen AgentCallsStep .empty s → ∀ parentId,
      (s.liveCalls parentId).length ≤ maxConcurrentCalls) ∧
    (Relation.ReflTransGen KnownStep .empty s → ∀ childId, (s.liveIn childId).length ≤ 1) := by
  constructor
  · intro hrun parentId
    exact ((AgentCallsOk.run hrun).length_liveCalls_le parentId).trans (AgentCallsOk.running_le hrun parentId)
  · intro hrun childId
    exact (exclusive_run hrun).length_liveIn_le childId

lemma exists_run_two_calls : ∃ s, Relation.ReflTransGen AgentCallsStep .empty s ∧ s.liveIn "child" = [0, 1] ∧
    s.liveCalls "parent" = [0, 1] := by
  have run : Relation.ReflTransGen AgentCallsStep .empty _ := .refl
  have run := run.tail (.reserve "parent" "owner" none (by nofun) rfl)
  have run := run.tail (.create 0 "child" rfl rfl (.of_one rfl rfl rfl rfl rfl rfl))
  have run := run.tail (.reserve "parent" "owner" (some "child") (by rintro _ ⟨⟩; rfl) rfl)
  have run := run.tail (.follow 0 rfl rfl rfl)
  have run := run.tail (.beginCall 0 "turn" rfl rfl rfl rfl)
  have run := run.tail (.startCall 0 rfl rfl rfl rfl rfl)
  have run := run.tail (.track 0 rfl rfl)
  exact ⟨_, run, rfl, rfl⟩

/-- A parent has two calls, and a child the one that has created it. -/
theorem agent_calls_within_limits_two : ∃ s t : AgentCalls,
    s.liveCalls "parent" = [0, 1] ∧ (s.liveCalls "parent").length ≤ maxConcurrentCalls ∧
      t.liveIn "child" = [0] ∧ (t.liveIn "child").length ≤ 1 := by
  obtain ⟨s, hrun, -, hs⟩ := exists_run_two_calls
  have hreserve : KnownStep .empty _ := ⟨.reserve "parent" "owner" none (by nofun) rfl, by
    intro id call _ hcall childId hc
    by_cases hid : id = 0
    · subst hid
      cases hcall
      cases hc
    · cases (AgentCalls.calls_setCall_of_ne _ hid _).symm.trans hcall⟩
  have run := (Relation.ReflTransGen.single hreserve).tail
    ⟨.create 0 "child" rfl rfl (.of_one rfl rfl rfl rfl rfl rfl), by
      intro id call hnone hcall
      by_cases hid : id = 0
      · subst hid
        cases hnone
      · cases hnone.symm.trans ((AgentCalls.calls_setCall_of_ne _ hid _).symm.trans hcall)⟩
  exact ⟨s, _, hs, (agent_calls_within_limits s).1 hrun "parent", rfl, (agent_calls_within_limits _).2 run "child"⟩

/-- An `agent_turn` reserves the child that an `agent_run` has created and not prompted yet. When the turn of the
`agent_run` runs, the child has both. -/
theorem child_with_two_calls : ∃ s, Relation.ReflTransGen AgentCallsStep .empty s ∧ s.liveIn "child" = [0, 1] := by
  obtain ⟨s, hrun, hs, -⟩ := exists_run_two_calls
  exact ⟨s, hrun, hs⟩

end Todex
