import Mathlib
import Todex.Lib.Ensures
import Todex.Lib.Keyed
import Todex.Lib.Update

/-!
# The tables of the agent calls

An agent calls another one: its conversation, the parent, gets a child conversation in which the other agent has a
turn. `children` has the latest turn of every child, and `starting` the calls whose turn is not there yet. Both
count against the limit of the parent.
-/

namespace Todex

/-- `LIMITS.max_concurrent_calls`. -/
def maxConcurrentCalls : ℕ := 4

inductive CallStatus
  | running
  | waitingPermission
  | completed
  | failed
  | cancelled
  | interrupted
  deriving DecidableEq

def CallStatus.isRunning : CallStatus → Bool
  | running => true
  | waitingPermission => true
  | _ => false

/-- One child turn that an agent call started. -/
structure CallTurn where
  turnId : String
  status : CallStatus

/-- `ChildCall`, with the child it is listed under. -/
structure ChildCall where
  childId : String
  parentId : String
  ownerId : String
  /-- The latest turn that an agent call started. -/
  turn : Option CallTurn

/-- The turn of the child runs. -/
def ChildCall.isRunning (self : ChildCall) : Bool := self.turn.any (·.status.isRunning)

/-- `Starting`, with the reservation it is listed under. -/
structure Starting where
  id : ℕ
  parentId : String
  /-- The child that `agent_turn` goes on with; `agent_run` has none yet. -/
  childId : Option String
  /-- The turn of the parent that made the call. -/
  parentTurn : Option String
  /-- That turn was stopped meanwhile. -/
  stopped : Bool

inductive StartRefusal
  | limit
  | busy (turnId : Option String)

/-- `State`. -/
structure CallTables where
  children : List ChildCall
  starting : List Starting
  nextStart : ℕ

namespace CallTables

def empty : CallTables := ⟨[], [], 0⟩

variable (self : CallTables)

/-- `State::running`. -/
def running (parentId : String) : ℕ :=
  self.children.countP (fun child => child.parentId = parentId ∧ child.isRunning) +
    self.starting.countP (·.parentId = parentId)

/-- `State::running_turn`. -/
def runningTurn (childId : String) : Option String := do
  let child ← Keyed.get ChildCall.childId self.children childId
  let turn ← child.turn
  if turn.status.isRunning then some turn.turnId else none

/-- The child must be free: no call is starting a turn in it, and it runs none. -/
def checkChild (active : String → Option String) (childId : String) : Except StartRefusal Unit := do
  .require (∀ starting ∈ self.starting, starting.childId ≠ some childId) (.busy none)
  match self.runningTurn childId <|> active childId with
  | some turnId => .error (.busy (some turnId))
  | none => return ()

/-- The tables with a call that is being started. -/
def addStarting (parentId : String) (childId parentTurn : Option String) : CallTables :=
  { self with
    starting := { id := self.nextStart, parentId, childId, parentTurn, stopped := false } :: self.starting
    nextStart := self.nextStart + 1 }

/-- `AgentCalls::reserve`; `active` is `active_turn_id` of the supervisor. -/
def reserve (active : String → Option String) (parentId : String) (childId : Option String) :
    Except StartRefusal CallTables := do
  childId.forM (self.checkChild active)
  .require (self.running parentId < maxConcurrentCalls) .limit
  return self.addStarting parentId childId (active parentId)

/-- A `Reservation` is dropped. -/
def dropReservation (id : ℕ) : CallTables := { self with starting := self.starting.filter (·.id ≠ id) }

/-- What `AgentCalls::track` does to the tables. -/
def track (id : ℕ) (parentId ownerId childId turnId : String) : CallTables :=
  { self.dropReservation id with
    children := Keyed.insert ChildCall.childId self.children
      { childId, parentId, ownerId, turn := some { turnId, status := .running } } }

/-- `AgentCalls::track` finds the call stopped: by the mark, or because the turn of the parent is over. -/
def isStopped (active : String → Option String) (parentId : String) (id : ℕ) : Bool :=
  (Keyed.get Starting.id self.starting id).any fun starting =>
    starting.stopped || starting.parentTurn.any fun parentTurn => active parentId ≠ some parentTurn

/-- The status of a turn changes; a turn that is not the latest one of its child is not in the table. -/
def updateTurn (childId turnId : String) (f : CallStatus → CallStatus) : CallTables :=
  { self with
    children := self.children.map fun child =>
      if child.childId = childId then
        { child with
          turn := child.turn.map fun turn => if turn.turnId = turnId then { turn with status := f turn.status } else turn }
      else child }

/-- The end of a turn. -/
def setStatus (childId turnId : String) (status : CallStatus) : CallTables :=
  self.updateTurn childId turnId fun _ => status

/-- `Inner::set_running_status`. -/
def setRunningStatus (childId turnId : String) (status : CallStatus) : CallTables :=
  self.updateTurn childId turnId fun old => if old.isRunning then status else old

/-- The calls of a parent that are being started are marked. -/
def markStopped (parentId : String) : CallTables :=
  { self with
    starting := self.starting.map fun starting =>
      if starting.parentId = parentId then { starting with stopped := true } else starting }

/-- `Hooks::conversation_removed` of a child. -/
def conversationRemoved (childId : String) : CallTables :=
  { self with children := self.children.filter (·.childId ≠ childId) }

/-! ### What a call does to the tables -/

variable {self}

lemma checkChild_eq_ok (h : self.checkChild active childId = .ok ()) :
    (∀ starting ∈ self.starting, starting.childId ≠ some childId) ∧ active childId = none := by
  obtain ⟨hs, h⟩ := Except.require_bind_eq_ok.1 h
  refine ⟨hs, ?_⟩
  cases hturn : self.runningTurn childId <|> active childId with
  | some turnId =>
    rw [hturn] at h
    cases h
  | none =>
    cases hr : self.runningTurn childId with
    | some turnId =>
      rw [hr] at hturn
      cases hturn
    | none =>
      rw [hr] at hturn
      exact hturn

/-- What `reserve` has checked, and what it adds. -/
lemma reserve_eq_ok (h : self.reserve active parentId childId = .ok t) :
    (∀ child ∈ childId, (∀ starting ∈ self.starting, starting.childId ≠ some child) ∧ active child = none) ∧
      self.running parentId < maxConcurrentCalls ∧ t = self.addStarting parentId childId (active parentId) := by
  obtain ⟨⟨⟩, hc, h⟩ := Except.bind_eq_ok.1 h
  obtain ⟨hl, h⟩ := Except.require_bind_eq_ok.1 h
  cases h
  refine ⟨?_, hl, rfl⟩
  rintro child rfl
  exact checkChild_eq_ok hc

lemma get_addStarting (parentId : String) (childId parentTurn : Option String) {id : ℕ} (h : id < self.nextStart) :
    Keyed.get Starting.id (self.addStarting parentId childId parentTurn).starting id =
      Keyed.get Starting.id self.starting id :=
  Keyed.get_cons_of_ne h.ne'

lemma get_dropReservation {id other : ℕ} (h : other ≠ id) :
    Keyed.get Starting.id (self.dropReservation id).starting other = Keyed.get Starting.id self.starting other :=
  Keyed.get_filter_ne h

lemma get_markStopped {parentId : String} {id : ℕ} {starting : Starting}
    (h : Keyed.get Starting.id self.starting id = some starting) :
    Keyed.get Starting.id (self.markStopped parentId).starting id =
      some (if starting.parentId = parentId then { starting with stopped := true } else starting) := by
  rw [markStopped, Keyed.get_map, h, Option.map_some]
  intro starting
  split <;> rfl

lemma mem_updateTurn
    (hc : child ∈ (self.updateTurn childId turnId f).children) (hturn : child.turn = some turn) :
    ∃ before ∈ self.children, ∃ old, before.turn = some old ∧ old.turnId = turn.turnId ∧
      before.parentId = child.parentId ∧ before.ownerId = child.ownerId ∧ before.childId = child.childId := by
  obtain ⟨before, hb, rfl⟩ := List.mem_map.1 hc
  refine ⟨before, hb, ?_⟩
  by_cases hid : before.childId = childId
  · rw [if_pos hid] at hturn ⊢
    obtain ⟨old, hold, rfl⟩ := Option.map_eq_some_iff.1 hturn
    refine ⟨old, hold, ?_⟩
    split <;> exact ⟨rfl, rfl, rfl, rfl⟩
  · rw [if_neg hid] at hturn ⊢
    exact ⟨turn, hturn, rfl, rfl, rfl, rfl⟩

/-! ### The limit -/

lemma running_addStarting (parentId : String) (childId parentTurn : Option String) (other : String) :
    (self.addStarting parentId childId parentTurn).running other =
      self.running other + if parentId = other then 1 else 0 := by
  simp only [running, addStarting, List.countP_cons, decide_eq_true_eq]
  omega

lemma running_dropReservation_le (id : ℕ) (parentId : String) :
    (self.dropReservation id).running parentId ≤ self.running parentId := by
  have hle : (self.dropReservation id).starting.countP (·.parentId = parentId) ≤
      self.starting.countP (·.parentId = parentId) := List.filter_sublist.countP_le
  simp only [running, dropReservation] at hle ⊢
  omega

/-- A call that is tracked counts as a child and no longer as one that is being started. -/
lemma running_track_le {id : ℕ} {parentId : String} {starting : Starting}
    (h : Keyed.get Starting.id self.starting id = some starting) (hp : starting.parentId = parentId)
    (ownerId childId turnId other : String) :
    (self.track id parentId ownerId childId turnId).running other ≤ self.running other := by
  by_cases ho : parentId = other
  · have hlt : (self.dropReservation id).starting.countP (·.parentId = other) <
        self.starting.countP (·.parentId = other) := by
      apply Keyed.countP_filter_lt (Keyed.mem_of_get h)
      · simp [hp, ho]
      · simp [Keyed.key_of_get h]
    have hle : (self.track id parentId ownerId childId turnId).children.countP
        (fun child => decide (child.parentId = other ∧ child.isRunning)) ≤
        self.children.countP (fun child => decide (child.parentId = other ∧ child.isRunning)) + 1 :=
      Keyed.countP_insert_le _ _
    simp only [running, track] at hle ⊢
    omega
  · have hle : (self.dropReservation id).running other ≤ self.running other := running_dropReservation_le id other
    have hc : (self.track id parentId ownerId childId turnId).children.countP
        (fun child => decide (child.parentId = other ∧ child.isRunning)) ≤
        self.children.countP (fun child => decide (child.parentId = other ∧ child.isRunning)) :=
      Keyed.countP_insert_le_of_not (by simp [ho])
    simp only [running, track, dropReservation] at hle hc ⊢
    omega

lemma running_updateTurn_le (hf : ∀ status, (f status).isRunning → status.isRunning)
    (childId turnId parentId : String) :
    (self.updateTurn childId turnId f).running parentId ≤ self.running parentId := by
  have hle : (self.updateTurn childId turnId f).children.countP
      (fun child => decide (child.parentId = parentId ∧ child.isRunning)) ≤
      self.children.countP (fun child => decide (child.parentId = parentId ∧ child.isRunning)) := by
    apply Keyed.countP_map_le
    intro child h
    split at h
    · rw [decide_eq_true_eq] at h ⊢
      refine ⟨h.1, ?_⟩
      obtain ⟨turn, hturn, hr⟩ := (Option.any_eq_true _ _).1 h.2
      obtain ⟨old, hold, rfl⟩ := Option.map_eq_some_iff.1 hturn
      refine (Option.any_eq_true _ _).2 ⟨old, hold, ?_⟩
      split at hr
      · exact hf _ hr
      · exact hr
    · exact h
  simp only [running, updateTurn] at hle ⊢
  omega

lemma running_markStopped (stopped parentId : String) :
    (self.markStopped stopped).running parentId = self.running parentId := by
  have heq : (self.markStopped stopped).starting.countP (·.parentId = parentId) =
      self.starting.countP (·.parentId = parentId) := by
    rw [markStopped, List.countP_map]
    congr 1
    funext starting
    simp only [Function.comp_apply]
    split <;> rfl
  simp only [running, markStopped] at heq ⊢
  omega

lemma running_conversationRemoved_le (childId parentId : String) :
    (self.conversationRemoved childId).running parentId ≤ self.running parentId := by
  have hle : (self.conversationRemoved childId).children.countP
      (fun child => decide (child.parentId = parentId ∧ child.isRunning)) ≤
      self.children.countP (fun child => decide (child.parentId = parentId ∧ child.isRunning)) :=
    List.filter_sublist.countP_le
  simp only [running, conversationRemoved] at hle ⊢
  omega

end CallTables

end Todex
