import Todex.AgentCalls.Tables

/-!
# Agent calls and the turns of their conversations

A call of `agent_run` or `agent_turn` is named by its reservation. It reserves a place, has the child created if
there is none, follows its events, prompts it, and hands the turn to `track`; a monitor then waits for the end of
the turn. Meanwhile the supervisor begins, ends and releases turns in every conversation, and runs the hooks of
the turns that are over on tasks of their own.
-/

namespace Todex

/-! ### Turns -/

/-- How the supervisor reports the end of a turn or an operation. -/
inductive TurnTerminal
  | completed
  | failed
  | cancelled
  | interrupted
  | conversationInterrupted
  | compactionFinished
  deriving DecidableEq

/-- The ends that `Hooks::turn_ended` is about. -/
def TurnTerminal.stops : TurnTerminal → Bool
  | cancelled => true
  | interrupted => true
  | conversationInterrupted => true
  | _ => false

/-- How far a turn is. -/
inductive TurnPhase
  /-- It is registered, and its opening is not in the journal yet. -/
  | starting
  | running
  /-- Its end is in the journal. -/
  | ended (terminal : TurnTerminal)

def TurnPhase.isRunning : TurnPhase → Bool
  | running => true
  | _ => false

/-- A turn that was released, and whose `after_turn` has not run its hooks. -/
structure ReleasedTurn where
  conversationId : String
  turnId : String
  terminal : TurnTerminal

/-! ### Calls -/

/-- How far a call is. -/
inductive CallStage
  /-- It has its reservation; an `agent_run` may still have no child. -/
  | reserved (childId : Option String)
  /-- It follows the events of the child. -/
  | following (childId : String)
  /-- Its turn is registered. -/
  | begun (childId turnId : String)
  /-- Its turn runs. -/
  | started (childId turnId : String)
  /-- It cannot start, and still has its reservation. -/
  | failing (childId : Option String)
  | dropped
  /-- `track` has put it into the tables. -/
  | tracked (childId turnId : String) (stopped : Bool)
  /-- `track` has returned. -/
  | returned (childId turnId : String)

namespace CallStage

/-- The call has its reservation. -/
def isStarting : CallStage → Bool
  | reserved _ => true
  | following _ => true
  | begun _ _ => true
  | started _ _ => true
  | failing _ => true
  | _ => false

def childId : CallStage → Option String
  | reserved childId => childId
  | following childId => some childId
  | begun childId _ => some childId
  | started childId _ => some childId
  | failing childId => childId
  | dropped => none
  | tracked childId _ _ => some childId
  | returned childId _ => some childId

/-- The turn that the call has started. -/
def turnId : CallStage → Option String
  | started _ turnId => some turnId
  | tracked _ turnId _ => some turnId
  | returned _ turnId => some turnId
  | _ => none

/-- The call follows the events of its child before it is tracked. -/
def holdsTap : CallStage → Bool
  | following _ => true
  | begun _ _ => true
  | started _ _ => true
  | _ => false

/-- The child and the turn of a call that is in the tables as a child. -/
def ran : CallStage → Option (String × String)
  | tracked childId turnId _ => some (childId, turnId)
  | returned childId turnId => some (childId, turnId)
  | _ => none

/-- The call is in the tables as a child. -/
def isTracked : CallStage → Bool
  | tracked _ _ _ => true
  | returned _ _ => true
  | _ => false

lemma of_ran {stage : CallStage} {childId turnId : String} (h : stage.ran = some (childId, turnId)) :
    stage.isTracked ∧ stage.childId = some childId ∧ stage.turnId = some turnId := by
  cases stage with
  | tracked | returned =>
    cases h
    exact ⟨rfl, rfl, rfl⟩
  | _ => cases h

lemma not_holdsTap_of_isTracked {stage : CallStage} (h : stage.isTracked) : ¬ stage.holdsTap := by
  cases stage with
  | tracked | returned => exact Bool.false_ne_true
  | _ => cases h

end CallStage

/-- A call of `agent_run` or `agent_turn`. -/
structure AgentCall where
  parentId : String
  ownerId : String
  /-- The child that `agent_turn` goes on with; `agent_run` has none. -/
  continues : Option String
  /-- The turn of the parent that was active when the call was reserved. -/
  parentTurn : Option String
  stage : CallStage
  /-- It holds the tap on the child. -/
  following : Bool

/-- A call of `cancel_owned` for a child turn of `parentId`. -/
structure CancelRequest where
  parentId : String
  ownerId : String
  childId : String
  turnId : String

/-- The agent calls, with what they see of the supervisor. -/
structure AgentCalls where
  tables : CallTables
  /-- `active_turn_id`. -/
  active : String → Option String
  turns : String → Option TurnPhase
  /-- The parent of a child conversation. -/
  parents : String → Option String
  removed : String → Bool
  /-- The call that follows a conversation. -/
  taps : String → Option ℕ
  calls : ℕ → Option AgentCall
  /-- Turns that are over, and whose hooks have not run. -/
  released : List ReleasedTurn
  /-- The cancels that were requested because a parent was stopped. -/
  cancels : List CancelRequest
  shuttingDown : Bool

namespace AgentCalls

def empty : AgentCalls where
  tables := .empty
  active _ := none
  turns _ := none
  parents _ := none
  removed _ := false
  taps _ := none
  calls _ := none
  released := []
  cancels := []
  shuttingDown := false

variable (self : AgentCalls)

def setCall (id : ℕ) (call : AgentCall) : AgentCalls :=
  { self with calls := Function.update self.calls id (some call) }

def setActive (conversationId : String) (turnId : Option String) : AgentCalls :=
  { self with active := Function.update self.active conversationId turnId }

def setTurn (turnId : String) (phase : TurnPhase) : AgentCalls :=
  { self with turns := Function.update self.turns turnId (some phase) }

def setTap (childId : String) (id : Option ℕ) : AgentCalls :=
  { self with taps := Function.update self.taps childId id }

def setTables (tables : CallTables) : AgentCalls := { self with tables }

/-- A turn is released: it is no longer active, and its hooks are left to a task. -/
def release (conversationId turnId : String) (terminal : TurnTerminal) : AgentCalls :=
  { self.setActive conversationId none with
    released := self.released ++ [{ conversationId, turnId, terminal }] }

/-- A `LiveTap` is dropped; the conversation may be gone already. -/
def dropTap (childId : Option String) (id : ℕ) : AgentCalls :=
  { self with taps := fun other => if some other = childId ∧ self.taps other = some id then none else self.taps other }

/-- The running turns of the children of a parent, as cancels. -/
def childCancels (parentId : String) : List CancelRequest :=
  (self.tables.children.filter (·.parentId = parentId)).filterMap fun child => do
    let turn ← child.turn
    if turn.status.isRunning then
      some { parentId, ownerId := child.ownerId, childId := child.childId, turnId := turn.turnId }
    else none

/-- `Inner::cancel_children`. -/
def cancelChildren (parentId : String) : AgentCalls :=
  { self with
    tables := self.tables.markStopped parentId
    cancels := self.cancels ++ self.childCancels parentId }

/-- `Hooks::turn_ended`. -/
def turnEnded (conversationId : String) (terminal : TurnTerminal) : AgentCalls :=
  if terminal.stops ∧ ¬ self.shuttingDown then self.cancelChildren conversationId else self

@[simp] lemma turns_setTurn (turnId : String) (phase : TurnPhase) :
    (self.setTurn turnId phase).turns turnId = some phase :=
  Function.update_self ..

lemma turns_setTurn_of_ne (h : other ≠ turnId) (phase : TurnPhase) :
    (self.setTurn turnId phase).turns other = self.turns other :=
  Function.update_of_ne h ..

@[simp] lemma calls_setCall (id : ℕ) (call : AgentCall) : (self.setCall id call).calls id = some call :=
  Function.update_self ..

lemma calls_setCall_of_ne {id other : ℕ} (h : other ≠ id) (call : AgentCall) :
    (self.setCall id call).calls other = self.calls other :=
  Function.update_of_ne h ..

/-- A new conversation id. -/
structure Fresh (s : AgentCalls) (childId : String) : Prop where
  active : s.active childId = none
  parents : s.parents childId = none
  taps : s.taps childId = none
  removed : s.removed childId = false
  calls : ∀ id call, s.calls id = some call → call.stage.childId ≠ some childId

/-- With one call that has no child, an id is new that names nothing else. -/
lemma Fresh.of_one {s : AgentCalls} (ha : s.active childId = none)
    (hp : s.parents childId = none) (htaps : s.taps childId = none) (hr : s.removed childId = false)
    (hc : s.calls = Function.update empty.calls 0 (some call)) (hcall : call.stage.childId = none) :
    s.Fresh childId where
  active := ha
  parents := hp
  taps := htaps
  removed := hr
  calls id other ho := by
    rw [hc] at ho
    rcases Function.of_update_eq ho with ⟨-, ⟨⟩⟩ | ⟨-, ⟨⟩⟩
    rw [hcall]
    nofun

end AgentCalls

/-- How the start of a call fails: at any point before its turn runs, its turn no longer being registered. -/
def CallStage.failed (active : String → Option String) : CallStage → Option CallStage
  | reserved childId => some (failing childId)
  | following childId => some (failing (some childId))
  | begun childId turnId => if active childId = some turnId then none else some (failing (some childId))
  | _ => none

lemma CallStage.failed_eq_some {stage stage' : CallStage}
    (h : stage.failed active = some stage') : stage.isStarting ∧ stage' = .failing stage.childId := by
  cases stage with
  | begun childId turnId =>
    simp only [failed] at h
    split at h
    · cases h
    · cases h
      exact ⟨rfl, rfl⟩
  | reserved | following =>
    cases h
    exact ⟨rfl, rfl⟩
  | started | failing | dropped | tracked | returned => cases h

/-- What may happen next. -/
inductive AgentCallsStep (s : AgentCalls) : AgentCalls → Prop
  /-- `begin_turn` of any conversation. -/
  | begin (conversationId turnId : String) (hactive : s.active conversationId = none)
      (hturn : s.turns turnId = none) :
      AgentCallsStep s ((s.setActive conversationId (some turnId)).setTurn turnId .starting)
  /-- A turn that was registered cannot start. -/
  | abandon (conversationId turnId : String) (hactive : s.active conversationId = some turnId)
      (hturn : s.turns turnId = some .starting) :
      AgentCallsStep s (s.setActive conversationId none)
  /-- A turn starts that is not the one of a call. -/
  | start (conversationId turnId : String) (hactive : s.active conversationId = some turnId)
      (hturn : s.turns turnId = some .starting) (hremoved : s.removed conversationId = false)
      (hcalls : ∀ id call childId, s.calls id = some call → call.stage ≠ .begun childId turnId) :
      AgentCallsStep s (s.setTurn turnId .running)
  | finish (conversationId turnId : String) (terminal : TurnTerminal)
      (hactive : s.active conversationId = some turnId) (hturn : s.turns turnId = some .running) :
      AgentCallsStep s (s.setTurn turnId (.ended terminal))
  | release (conversationId turnId : String) (terminal : TurnTerminal)
      (hactive : s.active conversationId = some turnId) (hturn : s.turns turnId = some (.ended terminal)) :
      AgentCallsStep s (s.release conversationId turnId terminal)
  /-- `after_turn` runs the hooks of a released turn. -/
  | hook (earlier later : List ReleasedTurn) (turn : ReleasedTurn)
      (hreleased : s.released = earlier ++ turn :: later) :
      AgentCallsStep s ({ s with released := earlier ++ later }.turnEnded turn.conversationId turn.terminal)
  | shutDown : AgentCallsStep s { s with shuttingDown := true }
  /-- A conversation is deleted. It runs no turn, and its tap ends. -/
  | remove (conversationId : String) (hactive : s.active conversationId = none) :
      AgentCallsStep s { s.setTap conversationId none with
        removed := Function.update s.removed conversationId true }
  /-- The hooks of a deleted child. -/
  | conversationRemoved (conversationId : String) (hremoved : s.removed conversationId = true) :
      AgentCallsStep s (s.setTables (s.tables.conversationRemoved conversationId))
  /-- A call starts; `agent_turn` has found the child to be one of its parent. -/
  | reserve (parentId ownerId : String) (childId : Option String) {tables : CallTables}
      (hchild : ∀ child ∈ childId, s.parents child = some parentId)
      (htables : s.tables.reserve s.active parentId childId = .ok tables) :
      AgentCallsStep s ((s.setTables tables).setCall s.tables.nextStart
        { parentId, ownerId, continues := childId, parentTurn := s.active parentId, stage := .reserved childId,
          following := false })
  /-- `agent_run` creates its child. -/
  | create (id : ℕ) (childId : String) {call : AgentCall} (hcall : s.calls id = some call)
      (hstage : call.stage = .reserved none) (hfresh : s.Fresh childId) :
      AgentCallsStep s { s.setCall id { call with stage := .reserved (some childId) } with
        parents := Function.update s.parents childId (some call.parentId) }
  /-- The call taps the child, which no other call does. -/
  | follow (id : ℕ) {call : AgentCall} {childId : String} (hcall : s.calls id = some call)
      (hstage : call.stage = .reserved (some childId)) (htap : s.taps childId = none) :
      AgentCallsStep s ((s.setTap childId (some id)).setCall id
        { call with stage := .following childId, following := true })
  | beginCall (id : ℕ) (turnId : String) {call : AgentCall} {childId : String} (hcall : s.calls id = some call)
      (hstage : call.stage = .following childId) (hactive : s.active childId = none)
      (hturn : s.turns turnId = none) :
      AgentCallsStep s (((s.setActive childId (some turnId)).setTurn turnId .starting).setCall id
        { call with stage := .begun childId turnId })
  | startCall (id : ℕ) {call : AgentCall} {childId turnId : String} (hcall : s.calls id = some call)
      (hstage : call.stage = .begun childId turnId) (hactive : s.active childId = some turnId)
      (hturn : s.turns turnId = some .starting) (hremoved : s.removed childId = false) :
      AgentCallsStep s ((s.setTurn turnId .running).setCall id { call with stage := .started childId turnId })
  /-- The call cannot start. Its tap goes before its reservation. -/
  | fail (id : ℕ) {call : AgentCall} {stage : CallStage} (hcall : s.calls id = some call)
      (hstage : call.stage.failed s.active = some stage) :
      AgentCallsStep s ((s.dropTap call.stage.childId id).setCall id { call with stage, following := false })
  | drop (id : ℕ) {call : AgentCall} {childId : Option String} (hcall : s.calls id = some call)
      (hstage : call.stage = .failing childId) :
      AgentCallsStep s ((s.setTables (s.tables.dropReservation id)).setCall id
        { call with stage := .dropped, following := false })
  /-- The part of `track` under the lock. -/
  | track (id : ℕ) {call : AgentCall} {childId turnId : String} (hcall : s.calls id = some call)
      (hstage : call.stage = .started childId turnId) :
      AgentCallsStep s ((s.setTables (s.tables.track id call.parentId call.ownerId childId turnId)).setCall id
        { call with stage := .tracked childId turnId (s.tables.isStopped s.active call.parentId id) })
  /-- `track` returns; a call that was stopped has cancelled its turn. -/
  | return (id : ℕ) {call : AgentCall} {childId turnId : String} {stopped : Bool} (hcall : s.calls id = some call)
      (hstage : call.stage = .tracked childId turnId stopped) :
      AgentCallsStep s { s.setCall id { call with stage := .returned childId turnId } with
        cancels := s.cancels ++ if stopped then
          [{ parentId := call.parentId, ownerId := call.ownerId, childId, turnId }] else [] }
  /-- The monitor sees a permission of the turn. -/
  | observe (id : ℕ) (status : CallStatus) {call : AgentCall} {childId turnId : String}
      (hcall : s.calls id = some call) (htracked : call.stage.isTracked) (hchild : call.stage.childId = some childId)
      (hturn : call.stage.turnId = some turnId) (hfollowing : call.following) (hstatus : status.isRunning) :
      AgentCallsStep s (s.setTables (s.tables.setRunningStatus childId turnId status))
  /-- The monitor sees the end of the turn, or that it no longer runs, and follows it no more. -/
  | unfollow (id : ℕ) {call : AgentCall} {turnId : String} {terminal : TurnTerminal} (hcall : s.calls id = some call)
      (htracked : call.stage.isTracked) (hturn : call.stage.turnId = some turnId)
      (hended : s.turns turnId = some (.ended terminal)) (hfollowing : call.following) :
      AgentCallsStep s ((s.dropTap call.stage.childId id).setCall id { call with following := false })
  /-- The monitor settles the call. -/
  | settle (id : ℕ) (status : CallStatus) {call : AgentCall} {childId turnId : String}
      (hcall : s.calls id = some call) (htracked : call.stage.isTracked) (hchild : call.stage.childId = some childId)
      (hturn : call.stage.turnId = some turnId) (hfollowing : ¬ call.following) (hstatus : ¬ status.isRunning) :
      AgentCallsStep s (s.setTables (s.tables.setStatus childId turnId status))

end Todex
