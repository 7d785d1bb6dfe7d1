import Todex.Lib.Keyed

/-!
# Resident sessions

A conversation of a resident provider has a session: an actor that owns the process of the agent. The table of the
sessions and the actors go separate ways: an entry leaves the table when the session is stopped or a wait for it runs
out, and the process goes when the actor gets to it.
-/

namespace Todex

/-- How far an actor is. -/
inductive ActorStage
  /-- It takes requests. -/
  | running
  /-- Its queue is closed, and it ends its process. -/
  | stopping
  /-- It has sent `stopped`. -/
  | stopped
  deriving DecidableEq

/-- `SessionActor`, with the conversation it was started for. -/
structure SessionActor where
  conversationId : String
  stage : ActorStage
  /-- It owns a process that lives. -/
  process : Bool

/-- `SessionHandle`, with the conversation it is listed under. -/
structure SessionHandle where
  conversationId : String
  workspace : String
  actor : ℕ

/-- `ResidentSessions`, with the actors that were started. -/
structure ResidentSessions where
  sessions : List SessionHandle
  actors : ℕ → Option SessionActor
  next : ℕ

/-- What one look at the table by `ResidentSessions::session` or `prewarm` comes to. -/
inductive SessionLookup
  /-- The session is stopping, and is waited for. -/
  | stopping (actor : ℕ)
  | workspaceChanged
  | found (actor : ℕ)
  | limit
  /-- No process can be launched, or it may need a sign-in. -/
  | notLaunched
  | started
  deriving DecidableEq

namespace ResidentSessions

def empty : ResidentSessions where
  sessions := []
  actors _ := none
  next := 0

variable (self : ResidentSessions)

def setActor (id : ℕ) (actor : SessionActor) : ResidentSessions :=
  { self with actors := Function.update self.actors id (some actor) }

/-- The actor has sent `stopped`. -/
def isStopped (id : ℕ) : Bool := (self.actors id).any (·.stage = .stopped)

/-- Its queue is closed. -/
def isClosed (id : ℕ) : Bool := (self.actors id).any (·.stage ≠ .running)

/-- The sessions that have stopped leave the table. -/
def retain : ResidentSessions := { self with sessions := self.sessions.filter fun handle => !self.isStopped handle.actor }

/-- `spawn_session`, with the entry in the table. -/
def spawnSession (conversationId workspace : String) : ResidentSessions :=
  { sessions := { conversationId, workspace, actor := self.next } :: self.sessions
    actors := Function.update self.actors self.next (some { conversationId, stage := .running, process := false })
    next := self.next + 1 }

/-- The start of a session, if there is room and the provider can be launched. -/
def startSession (maxSessions : ℕ) (conversationId workspace : String) (launches : Bool) :
    SessionLookup × ResidentSessions :=
  if self.sessions.length ≥ maxSessions then (.limit, self)
  else if !launches then (.notLaunched, self)
  else (.started, self.spawnSession conversationId workspace)

/-- The part of `ResidentSessions::session` under the lock. -/
def session (maxSessions : ℕ) (conversationId workspace : String) (launches : Bool) :
    SessionLookup × ResidentSessions :=
  let retained := self.retain
  match Keyed.get SessionHandle.conversationId retained.sessions conversationId with
  | some handle =>
    if retained.isClosed handle.actor then (.stopping handle.actor, retained)
    else if handle.workspace ≠ workspace then (.workspaceChanged, retained)
    else (.found handle.actor, retained)
  | none => retained.startSession maxSessions conversationId workspace launches

/-- The part of `ResidentSessions::prewarm` under the lock. -/
def prewarm (maxSessions : ℕ) (conversationId workspace : String) (launches : Bool) :
    SessionLookup × ResidentSessions :=
  let retained := self.retain
  match Keyed.get SessionHandle.conversationId retained.sessions conversationId with
  | some handle => (.found handle.actor, retained)
  | none => retained.startSession maxSessions conversationId workspace launches

/-- `session` goes on after a wait: the entry goes if it is still the one that was waited for. -/
def waited (conversationId : String) (actor : ℕ) : ResidentSessions :=
  { self with
    sessions := self.sessions.filter fun handle => ¬ (handle.conversationId = conversationId ∧ handle.actor = actor) }

/-- `ResidentSessions::stop` takes the entry out. -/
def stop (conversationId : String) : ResidentSessions :=
  { self with sessions := self.sessions.filter (·.conversationId ≠ conversationId) }

/-- `ResidentSessions::stop_all` takes all entries out. -/
def stopAll : ResidentSessions := { self with sessions := [] }

/-- The conversations that have a session with a live process. -/
def liveConversations : List String :=
  ((List.range self.next).filterMap fun id =>
    (self.actors id).bind fun actor => if actor.process then some actor.conversationId else none).dedup

end ResidentSessions

/-- What may happen next. `Meets` is asked when a session is started. -/
inductive ResidentStep (maxSessions : ℕ) (Meets : ResidentSessions → String → Prop) (s : ResidentSessions) :
    ResidentSessions → Prop
  /-- `run_turn` looks for its session. -/
  | session (conversationId workspace : String) (launches : Bool)
      (hmeets : (s.session maxSessions conversationId workspace launches).1 = .started → Meets s conversationId) :
      ResidentStep maxSessions Meets s (s.session maxSessions conversationId workspace launches).2
  | prewarm (conversationId workspace : String) (launches : Bool)
      (hmeets : (s.prewarm maxSessions conversationId workspace launches).1 = .started → Meets s conversationId) :
      ResidentStep maxSessions Meets s (s.prewarm maxSessions conversationId workspace launches).2
  /-- A session that was found stopping was waited for: it has stopped, or the wait has run out. -/
  | waited (conversationId : String) (actor : ℕ) (hclosed : s.isClosed actor) :
      ResidentStep maxSessions Meets s (s.waited conversationId actor)
  | stop (conversationId : String) : ResidentStep maxSessions Meets s (s.stop conversationId)
  | stopAll : ResidentStep maxSessions Meets s s.stopAll
  /-- The actor takes a turn or a prewarm and has no process. -/
  | startProcess (id : ℕ) {actor : SessionActor} (hactor : s.actors id = some actor)
      (hstage : actor.stage = .running) :
      ResidentStep maxSessions Meets s (s.setActor id { actor with process := true })
  /-- The process ends, by itself or because the actor has ended it. -/
  | endProcess (id : ℕ) {actor : SessionActor} (hactor : s.actors id = some actor) :
      ResidentStep maxSessions Meets s (s.setActor id { actor with process := false })
  /-- The actor stops: a stop was requested, its process failed, a turn left it unusable, or it was idle. -/
  | close (id : ℕ) {actor : SessionActor} (hactor : s.actors id = some actor) (hstage : actor.stage = .running) :
      ResidentStep maxSessions Meets s (s.setActor id { actor with stage := .stopping })
  /-- The process is gone, and the actor sends `stopped`. -/
  | finish (id : ℕ) {actor : SessionActor} (hactor : s.actors id = some actor) (hstage : actor.stage = .stopping)
      (hprocess : actor.process = false) :
      ResidentStep maxSessions Meets s (s.setActor id { actor with stage := .stopped })

end Todex
