import Todex.AgentCalls.Calls

/-!
# What the tables know of a call

A call that has its reservation is in `starting`, and a call whose child turn runs is in `children` with that turn.
The second rests on the tap: while a call follows its child no other call starts a turn there.
-/

namespace Todex

/-- The turn that the call has started runs. -/
def AgentCalls.Runs (self : AgentCalls) (call : AgentCall) (turnId : String) : Prop :=
  call.stage.turnId = some turnId ∧ self.turns turnId = some .running

/-- What holds of a call. -/
structure CallOk (s : AgentCalls) (id : ℕ) (call : AgentCall) : Prop where
  id_lt : id < s.tables.nextStart
  reserved : call.stage.isStarting → ∃ starting, Keyed.get Starting.id s.tables.starting id = some starting ∧
    starting.parentId = call.parentId ∧ starting.parentTurn = call.parentTurn ∧ starting.childId = call.continues
  continues : call.stage.isStarting → ∀ childId ∈ call.continues, call.stage.childId = some childId
  tap : call.following → ∃ childId, call.stage.childId = some childId ∧
    (s.removed childId = true ∨ s.taps childId = some id)
  follows : call.stage.holdsTap → call.following
  phase : ∀ turnId, call.stage.turnId = some turnId →
    s.turns turnId = some .running ∨ ∃ terminal, s.turns turnId = some (.ended terminal)
  active : ∀ turnId, s.Runs call turnId → call.following ∧ ∃ childId, call.stage.childId = some childId ∧
    s.active childId = some turnId ∧ s.removed childId = false
  listed : call.stage.isTracked → ∀ turnId, s.Runs call turnId → ∃ child ∈ s.tables.children,
    call.stage.childId = some child.childId ∧ child.parentId = call.parentId ∧ child.ownerId = call.ownerId ∧
      ∃ turn, child.turn = some turn ∧ turn.turnId = turnId ∧ turn.status.isRunning

/-- What holds of every state. -/
def AgentCallsOk (s : AgentCalls) : Prop := ∀ id call, s.calls id = some call → CallOk s id call

variable {childId turnId : String} {other : ℕ}

namespace CallOk

variable {s : AgentCalls} {id : ℕ} {call : AgentCall}

lemma id_eq (h : CallOk s id call) (h' : CallOk s other call')
    (hf : call.following) (hf' : call'.following) (hc : call.stage.childId = some childId)
    (hc' : call'.stage.childId = some childId) (hr : s.removed childId = false) : id = other := by
  obtain ⟨child, heq, ht⟩ := h.tap hf
  obtain ⟨child', heq', ht'⟩ := h'.tap hf'
  cases hc.symm.trans heq
  cases hc'.symm.trans heq'
  rw [hr] at ht ht'
  simp only [Bool.false_eq_true, false_or] at ht ht'
  exact Option.some_inj.1 (ht.symm.trans ht')

/-! ### Other steps leave it -/

variable (h : CallOk s id call)

include h

lemma setActive (conversationId : String) (turn : Option String)
    (ha : ∀ turnId, s.active conversationId = some turnId → s.turns turnId ≠ some .running) :
    CallOk (s.setActive conversationId turn) id call where
  __ := h
  active turnId hru := by
    obtain ⟨hf, childId, hc, ht, hr⟩ := h.active turnId hru
    refine ⟨hf, childId, hc, ?_, hr⟩
    have hne : childId ≠ conversationId := by
      rintro rfl
      exact ha turnId ht hru.2
    exact (Function.update_of_ne hne _ _).trans ht

lemma runs_of_setTurn {phase : TurnPhase}
    (hp : (s.turns turnId = none ∨ s.turns turnId = some .starting) ∨ ∃ terminal, phase = .ended terminal)
    {other : String} (hru : (s.setTurn turnId phase).Runs call other) : s.Runs call other := by
  obtain ⟨ht, hr⟩ := hru
  refine ⟨ht, ?_⟩
  rcases Function.of_update_eq hr with ⟨rfl, ⟨⟩⟩ | ⟨-, hr⟩
  · rcases hp with hp | ⟨_, hp⟩
    · rcases h.phase other ht with hold | ⟨_, hold⟩ <;> simp [hold] at hp
    · cases hp
  · exact hr

lemma setTurn {phase : TurnPhase}
    (hp : (s.turns turnId = none ∨ s.turns turnId = some .starting) ∨ ∃ terminal, phase = .ended terminal) :
    CallOk (s.setTurn turnId phase) id call where
  __ := h
  phase other htu := by
    by_cases ho : other = turnId
    · subst ho
      rcases hp with hp | ⟨terminal, rfl⟩
      · rcases h.phase other htu with hold | ⟨_, hold⟩ <;> simp [hold] at hp
      · exact .inr ⟨terminal, AgentCalls.turns_setTurn ..⟩
    · rw [AgentCalls.turns_setTurn_of_ne _ ho]
      exact h.phase other htu
  active other hr := h.active other (h.runs_of_setTurn hp hr)
  listed ht other hr := h.listed ht other (h.runs_of_setTurn hp hr)

lemma setTap (ht : s.taps childId = none) (other : Option ℕ) : CallOk (s.setTap childId other) id call where
  __ := h
  tap hf := by
    obtain ⟨child, hc, hold⟩ := h.tap hf
    refine ⟨child, hc, hold.imp_right fun hold => ?_⟩
    have hne : child ≠ childId := by
      rintro rfl
      rw [ht] at hold
      cases hold
    exact (Function.update_of_ne hne _ _).trans hold

lemma dropTap (childId : Option String) (hne : id ≠ other) : CallOk (s.dropTap childId other) id call where
  __ := h
  tap hf := by
    obtain ⟨child, hc, hold⟩ := h.tap hf
    refine ⟨child, hc, hold.imp_right fun hold => ?_⟩
    have hk : ¬ (some child = childId ∧ s.taps child = some other) := by
      rintro ⟨-, ht⟩
      exact hne (Option.some_inj.1 (hold.symm.trans ht))
    exact (if_neg hk).trans hold

lemma remove (ha : s.active conversationId = none) :
    CallOk { s.setTap conversationId none with removed := Function.update s.removed conversationId true } id call where
  __ := h
  tap hf := by
    obtain ⟨child, hc, hold⟩ := h.tap hf
    refine ⟨child, hc, ?_⟩
    by_cases hne : child = conversationId
    · exact .inl (by simp [hne])
    · simpa [AgentCalls.setTap, hne] using hold
  active turnId hru := by
    obtain ⟨hf, child, hc, ht, hr⟩ := h.active turnId hru
    refine ⟨hf, child, hc, ht, ?_⟩
    have hne : child ≠ conversationId := by
      rintro rfl
      rw [ha] at ht
      cases ht
    exact (Function.update_of_ne hne _ _).trans hr

/-- The tables change, and what they have of the call is still there. -/
lemma setTables (hn : s.tables.nextStart ≤ tables.nextStart)
    (hst : ∀ starting, Keyed.get Starting.id s.tables.starting id = some starting → call.stage.isStarting →
      ∃ marked, Keyed.get Starting.id tables.starting id = some marked ∧ marked.parentId = starting.parentId ∧
        marked.parentTurn = starting.parentTurn ∧ marked.childId = starting.childId)
    (hch : ∀ child ∈ s.tables.children, ∀ turn, child.turn = some turn → s.Runs call turn.turnId →
      call.stage.isTracked → call.stage.childId = some child.childId → turn.status.isRunning →
      ∃ child' ∈ tables.children, child'.childId = child.childId ∧ child'.parentId = child.parentId ∧
        child'.ownerId = child.ownerId ∧
        ∃ turn', child'.turn = some turn' ∧ turn'.turnId = turn.turnId ∧ turn'.status.isRunning) :
    CallOk (s.setTables tables) id call where
  __ := h
  id_lt := h.id_lt.trans_le hn
  reserved hs := by
    obtain ⟨starting, hg, hp, htu, hc⟩ := h.reserved hs
    obtain ⟨marked, hm, hp', htu', hc'⟩ := hst starting hg hs
    exact ⟨marked, hm, hp'.trans hp, htu'.trans htu, hc'.trans hc⟩
  listed ht turnId hru := by
    obtain ⟨child, hme, hc, hp, ho, turn, htu, rfl, hr⟩ := h.listed ht turnId hru
    obtain ⟨child', hme', hid, hp', ho', htu'⟩ :=
      hch child hme turn htu hru ht hc hr
    exact ⟨child', hme', hid ▸ hc, hp'.trans hp, ho'.trans ho, htu'⟩

/-- The tables change, and what they have of the children is the same. -/
lemma setStarting (hn : s.tables.nextStart ≤ tables.nextStart) (hs : call.stage.isStarting →
      Keyed.get Starting.id tables.starting id = Keyed.get Starting.id s.tables.starting id)
    (hc : tables.children = s.tables.children) : CallOk (s.setTables tables) id call := by
  apply h.setTables hn
  · intro starting hg hst
    exact ⟨starting, (hs hst).trans hg, rfl, rfl, rfl⟩
  · intro child hm turn htu hru ht hch hr
    exact ⟨child, hc ▸ hm, rfl, rfl, rfl, turn, htu, rfl, hr⟩

/-- Another turn gets a status, or this one a status of a running turn. -/
lemma updateTurn (childId turnId : String)
    (hf : s.Runs call turnId → ∀ status, status.isRunning → (f status).isRunning) :
    CallOk (s.setTables (s.tables.updateTurn childId turnId f)) id call := by
  refine h.setTables ?_ ?_ ?_
  · rfl
  · intro starting hg hs
    exact ⟨starting, hg, rfl, rfl, rfl⟩
  · intro child hm turn htu hru ht hc hr
    refine ⟨_, List.mem_map_of_mem hm, ?_⟩
    split
    · refine ⟨rfl, rfl, rfl, _, by rw [htu, Option.map_some], ?_⟩
      split
      · next heq => exact ⟨rfl, hf (heq ▸ hru) _ hr⟩
      · exact ⟨rfl, hr⟩
    · exact ⟨rfl, rfl, rfl, turn, htu, rfl, hr⟩

lemma turnEnded (conversationId : String) (terminal : TurnTerminal) :
    CallOk (s.turnEnded conversationId terminal) id call := by
  rw [AgentCalls.turnEnded]
  split
  · have hm : CallOk (s.setTables (s.tables.markStopped conversationId)) id call := by
      refine h.setTables ?_ ?_ ?_
      · rfl
      · intro starting hg hs
        refine ⟨_, CallTables.get_markStopped hg, ?_⟩
        split <;> exact ⟨rfl, rfl, rfl⟩
      · intro child hme turn htu hru ht hc hr
        exact ⟨child, hme, rfl, rfl, rfl, turn, htu, rfl, hr⟩
    exact { __ := hm }
  · exact h

lemma conversationRemoved (hr : s.removed childId = true) :
    CallOk (s.setTables (s.tables.conversationRemoved childId)) id call := by
  refine h.setTables ?_ ?_ ?_
  · rfl
  · intro starting hg hs
    exact ⟨starting, hg, rfl, rfl, rfl⟩
  · intro child hm turn htu hrn ht hc hru
    refine ⟨child, ?_, rfl, rfl, rfl, turn, htu, rfl, hru⟩
    obtain ⟨-, childId', hc', -, hn⟩ := h.active turn.turnId hrn
    cases hc.symm.trans hc'
    have hne : child.childId ≠ childId := by
      intro heq
      rw [heq, hr] at hn
      cases hn
    simpa [CallTables.conversationRemoved] using ⟨hm, hne⟩

/-- Another call is tracked. If it has the same child, then the turn of this call is over. -/
lemma track {call' : AgentCall}
    (h' : CallOk s other call') (hne : id ≠ other) (hs : call'.stage = .started childId turnId) :
    CallOk (s.setTables (s.tables.track other call'.parentId call'.ownerId childId turnId)) id call := by
  refine h.setTables ?_ ?_ ?_
  · rfl
  · intro starting hg _
    exact ⟨starting, (CallTables.get_dropReservation hne).trans hg, rfl, rfl, rfl⟩
  · intro child hm turn htu hrn ht hc hru
    refine ⟨child, Keyed.mem_insert.2 (.inr ⟨hm, ?_⟩), rfl, rfl, rfl, turn, htu, rfl, hru⟩
    intro heq
    obtain ⟨hf', child', hc', -, hr⟩ := h.active turn.turnId hrn
    cases hc.symm.trans hc'
    have ho : call'.stage.childId = some child.childId := by
      rw [hs, heq]
      rfl
    have hf : call'.following := h'.follows (by rw [hs]; rfl)
    exact hne (h.id_eq h' hf' hf hc ho hr)

/-! ### The steps of the call itself -/

lemma restart (hs : call.stage.isStarting) {following : Bool}
    (hch : ∀ childId, call.stage.childId = some childId → stage.childId = some childId)
    (ht : stage.turnId = none) (hf : stage.holdsTap → following)
    (hta : following → ∃ childId, stage.childId = some childId ∧
      (s.removed childId = true ∨ s.taps childId = some id)) : CallOk s id { call with stage, following } where
  id_lt := h.id_lt
  reserved _ := h.reserved hs
  continues _ childId hc := hch childId (h.continues hs childId hc)
  tap := hta
  follows := hf
  phase turnId heq := by
    rw [ht] at heq
    cases heq
  active turnId hr := by
    have heq := hr.1
    rw [ht] at heq
    cases heq
  listed _ turnId hr := by
    have heq := hr.1
    rw [ht] at heq
    cases heq

omit h in
lemma reserve (s : AgentCalls) (parentId ownerId : String) (childId : Option String) :
    CallOk (s.setTables (s.tables.addStarting parentId childId (s.active parentId))) s.tables.nextStart
      { parentId, ownerId, continues := childId, parentTurn := s.active parentId, stage := .reserved childId,
        following := false } where
  id_lt := Nat.lt_succ_self _
  reserved _ := ⟨_, Keyed.get_cons_self _ _, rfl, rfl, rfl⟩
  continues _ _ hc := hc
  tap := nofun
  follows := nofun
  phase := nofun
  active _ hr := by cases hr.1
  listed := nofun

lemma create (hs : call.stage = .reserved none) (childId : String) :
    CallOk s id { call with stage := .reserved (some childId) } := by
  refine h.restart ?_ ?_ rfl nofun ?_
  · rw [hs]
    rfl
  · rw [hs]
    nofun
  · intro hf
    obtain ⟨child, hc, -⟩ := h.tap hf
    rw [hs] at hc
    cases hc

lemma follow (hs : call.stage = .reserved (some childId))
    (ht : s.taps childId = some id) : CallOk s id { call with stage := .following childId, following := true } := by
  refine h.restart ?_ ?_ rfl (fun _ => rfl) ?_
  · rw [hs]
    rfl
  · rw [hs]
    exact fun _ heq => heq
  · intro _
    exact ⟨childId, rfl, .inr ht⟩

lemma beginCall (hs : call.stage = .following childId)
    (turnId : String) : CallOk s id { call with stage := .begun childId turnId } := by
  refine h.restart ?_ ?_ rfl ?_ ?_
  · rw [hs]
    rfl
  · rw [hs]
    exact fun _ heq => heq
  · intro _
    exact h.follows (by rw [hs]; rfl)
  · intro hf
    obtain ⟨child, hc, ht⟩ := h.tap hf
    rw [hs] at hc
    exact ⟨child, hc, ht⟩

lemma startCall (hs : call.stage = .begun childId turnId)
    (ha : s.active childId = some turnId) (ht : s.turns turnId = some .running)
    (hr : s.removed childId = false) : CallOk s id { call with stage := .started childId turnId } where
  id_lt := h.id_lt
  reserved _ := h.reserved (by rw [hs]; rfl)
  continues _ child hco := by
    have hc := h.continues (by rw [hs]; rfl) child hco
    rwa [hs] at hc
  tap hf := by
    obtain ⟨child, hc, hta⟩ := h.tap hf
    rw [hs] at hc
    exact ⟨child, hc, hta⟩
  follows _ := h.follows (by rw [hs]; rfl)
  phase other heq := by
    cases heq
    exact .inl ht
  active other hru := by
    obtain ⟨heq, -⟩ := hru
    cases heq
    exact ⟨h.follows (by rw [hs]; rfl), childId, rfl, ha, hr⟩
  listed := nofun

lemma fail (hst : call.stage.failed s.active = some stage) : CallOk s id { call with stage, following := false } := by
  obtain ⟨hs, rfl⟩ := CallStage.failed_eq_some hst
  exact h.restart hs (fun _ hc => hc) rfl nofun nofun

omit h in
lemma dropped (h : id < s.tables.nextStart) (call : AgentCall) :
    CallOk s id { call with stage := .dropped, following := false } where
  id_lt := h
  reserved := nofun
  continues := nofun
  tap := nofun
  follows := nofun
  phase := nofun
  active _ hr := by cases hr.1
  listed := nofun

lemma tracked (hs : call.stage = .started childId turnId) (stopped : Bool) :
    CallOk (s.setTables (s.tables.track id call.parentId call.ownerId childId turnId)) id
      { call with stage := .tracked childId turnId stopped } where
  id_lt := h.id_lt
  reserved := nofun
  continues := nofun
  tap hf := by
    obtain ⟨child, hc, ht⟩ := h.tap hf
    rw [hs] at hc
    exact ⟨child, hc, ht⟩
  follows := nofun
  phase other heq := h.phase other (by rw [hs]; exact heq)
  active other hru := by
    obtain ⟨hf, child, hc, ha, hr⟩ := h.active other ⟨by rw [hs]; exact hru.1, hru.2⟩
    rw [hs] at hc
    exact ⟨hf, child, hc, ha, hr⟩
  listed _ other hru := by
    cases hru.1
    exact ⟨_, Keyed.mem_insert.2 (.inl rfl), rfl, rfl, rfl, _, rfl, rfl, rfl⟩

lemma returned (hs : call.stage = .tracked childId turnId stopped) :
    CallOk s id { call with stage := .returned childId turnId } := by
  obtain ⟨parentId, ownerId, continues, parentTurn, stage, following⟩ := call
  subst hs
  exact {
    id_lt := h.id_lt
    reserved := nofun
    continues := nofun
    tap := h.tap
    follows := nofun
    phase := h.phase
    active := h.active
    listed := h.listed }

lemma unfollow (ht : call.stage.isTracked)
    (htu : call.stage.turnId = some turnId) (he : s.turns turnId = some (.ended terminal)) :
    CallOk s id { call with following := false } where
  __ := h
  tap := nofun
  follows hta := absurd hta (CallStage.not_holdsTap_of_isTracked ht)
  active other hru := by
    obtain ⟨heq, hr⟩ := hru
    cases htu.symm.trans heq
    rw [he] at hr
    cases hr
  listed ht' other hru := h.listed ht' other hru

end CallOk

/-! ### Every state -/

namespace AgentCallsOk

variable {s t : AgentCalls}

lemma empty : AgentCallsOk .empty := by
  intro id call hc
  cases hc

lemma setCall (hc : t.calls = s.calls) {id : ℕ} (hca : CallOk t id call)
    (hot : ∀ other call', s.calls other = some call' → other ≠ id → CallOk t other call') :
    AgentCallsOk (t.setCall id call) := by
  intro other call' ho
  rcases Function.of_update_eq ho with ⟨rfl, ⟨⟩⟩ | ⟨hne, ho⟩
  · exact { __ := hca }
  · exact { __ := hot other call' (hc ▸ ho) hne }

theorem step (h : AgentCallsOk s) (hsp : AgentCallsStep s t) : AgentCallsOk t := by
  cases hsp with
  | begin conversationId turnId ha htu =>
    intro id call hcl
    refine ((h id call hcl).setActive _ _ ?_).setTurn (.inl (.inl htu))
    rw [ha]
    nofun
  | abandon conversationId turnId ha htu =>
    intro id call hcl
    refine (h id call hcl).setActive _ _ ?_
    intro other ho
    cases ha.symm.trans ho
    rw [htu]
    nofun
  | start conversationId turnId ha htu hr hca =>
    intro id call hcl
    exact (h id call hcl).setTurn (.inl (.inr htu))
  | finish conversationId turnId terminal ha htu =>
    intro id call hcl
    exact (h id call hcl).setTurn (.inr ⟨terminal, rfl⟩)
  | release conversationId turnId terminal ha htu =>
    intro id call hcl
    refine { __ := (h id call hcl).setActive conversationId none ?_ }
    intro other ho
    cases ha.symm.trans ho
    rw [htu]
    nofun
  | hook earlier later turn hre =>
    intro id call hcl
    have hok : CallOk { s with released := earlier ++ later } id call := by
      have hcl' : s.calls id = some call := by
        rw [AgentCalls.turnEnded] at hcl
        split at hcl <;> exact hcl
      exact { __ := h id call hcl' }
    exact hok.turnEnded turn.conversationId turn.terminal
  | shutDown =>
    intro id call hcl
    exact { __ := h id call hcl }
  | remove conversationId ha =>
    intro id call hcl
    exact (h id call hcl).remove ha
  | conversationRemoved conversationId hr =>
    intro id call hcl
    exact (h id call hcl).conversationRemoved hr
  | reserve parentId ownerId childId hc hta =>
    obtain ⟨-, -, rfl⟩ := CallTables.reserve_eq_ok hta
    refine setCall rfl (CallOk.reserve s parentId ownerId childId) ?_
    intro other call hcl _
    have hok := h other call hcl
    exact hok.setStarting (Nat.le_succ _) (fun _ => CallTables.get_addStarting _ _ _ hok.id_lt) rfl
  | create id childId hcl hs hfr =>
    have hok := setCall rfl ((h id _ hcl).create hs childId) fun other call' hcl' _ => h other call' hcl'
    intro other call' hcl'
    exact { __ := hok other call' hcl' }
  | follow id hcl hs htp =>
    refine setCall rfl ?_ ?_
    · exact ((h id _ hcl).setTap htp _).follow hs (Function.update_self ..)
    · intro other call' hcl' _
      exact (h other call' hcl').setTap htp _
  | @beginCall id turnId call childId hcl hs ha htu =>
    have hot : ∀ other call', s.calls other = some call' →
        CallOk ((s.setActive childId (some turnId)).setTurn turnId .starting) other call' := by
      intro other call' hcl'
      refine ((h other call' hcl').setActive _ _ ?_).setTurn (.inl (.inl htu))
      rw [ha]
      nofun
    refine setCall rfl ((hot id call hcl).beginCall hs turnId) ?_
    intro other call' hcl' _
    exact hot other call' hcl'
  | startCall id hcl hs ha htu hr =>
    refine setCall rfl ?_ ?_
    · exact ((h id _ hcl).setTurn (.inl (.inr htu))).startCall hs ha (AgentCalls.turns_setTurn ..) hr
    · intro other call' hcl' _
      exact (h other call' hcl').setTurn (.inl (.inr htu))
  | fail id hcl hs =>
    have hok := (h id _ hcl).fail hs
    refine setCall rfl ?_ ?_
    · exact { __ := hok, tap := nofun }
    · intro other call' hcl' hne
      exact (h other call' hcl').dropTap _ hne
  | drop id hcl hs =>
    refine setCall rfl ?_ ?_
    · apply CallOk.dropped
      exact (h id _ hcl).id_lt
    · intro other call' hcl' hne
      exact (h other call' hcl').setStarting (le_refl s.tables.nextStart)
        (fun _ => CallTables.get_dropReservation hne) rfl
  | track id hcl hs =>
    refine setCall rfl ((h id _ hcl).tracked hs _) ?_
    intro other call' hcl' hne
    exact (h other call' hcl').track (h id _ hcl) hne hs
  | «return» id hcl hs =>
    have hok := setCall rfl ((h id _ hcl).returned hs) fun other call' hcl' _ => h other call' hcl'
    intro other call' hcl'
    exact { __ := hok other call' hcl' }
  | observe id status hcl ht hc htu hf hst =>
    intro other call' hcl'
    refine (h other call' hcl').updateTurn _ _ ?_
    intro _ old hold
    rw [if_pos hold]
    exact hst
  | unfollow id hcl ht htu he hf =>
    refine setCall rfl ?_ ?_
    · exact { __ := (h id _ hcl).unfollow ht htu he, tap := nofun }
    · intro other call' hcl' hne
      exact (h other call' hcl').dropTap _ hne
  | settle id status hcl ht hc htu hf hst =>
    intro other call' hcl'
    refine (h other call' hcl').updateTurn _ _ ?_
    -- the monitor has seen the end of the turn
    intro hru
    exact absurd ((h id _ hcl).active _ ⟨htu, hru.2⟩).1 hf

theorem steps (h : AgentCallsOk s) (hr : Relation.ReflTransGen AgentCallsStep s t) : AgentCallsOk t := by
  induction hr with
  | refl => exact h
  | tail _ hs ih => exact ih.step hs

theorem run (h : Relation.ReflTransGen AgentCallsStep .empty s) : AgentCallsOk s := empty.steps h

end AgentCallsOk

end Todex
