import Todex.FollowUps.Queue

/-!
# The supervisor of one conversation

Every operation on a queue holds the conversation's request gate, so it is one step. Work that is
spawned (the end of a turn, draining, timers) waits among the tasks and runs at any later time. The
answers of the store, the journal and the drivers are inputs of each step.
-/

namespace Todex

/-- The first check that fails. -/
def firstError (checks : List (Option AppError)) : Option AppError := checks.findSome? id

/-- Functions of other parts. -/
structure Environment where
  conversationId : String
  /-- SHA-256 of the serialized prompt. -/
  fingerprint : ConversationPrompt → String
  /-- MAC under the fingerprint key. -/
  mac : String → String
  trim : String → String
  /-- Serialized size of a queue. -/
  queueBytes : FollowUpQueue → Nat
  /-- `rate_limit_retry_floor`, in nanoseconds. -/
  retryFloor : Nat

/-- An environment in which a fingerprint is the text of the prompt and nothing is too large. -/
def Environment.simple : Environment where
  conversationId := "conv"
  fingerprint prompt := prompt.text
  mac := id
  trim := id
  queueBytes _ := 0
  retryFloor := 60 * 1000000000

def maxFollowUpQueueBytes : Nat := 32 * 1024 * 1024

def maxPromptBytes : Nat := 512 * 1024

/-- `MAX_SCHEDULE_AHEAD_DAYS`, in nanoseconds. -/
def maxScheduleAhead : Nat := 366 * 24 * 3600 * 1000000000

structure ConversationSchedule where
  due : DateTime
  interrupted : Bool
deriving DecidableEq

/-- How a turn or an operation ended. -/
inductive Terminal
  | completed | cancelled | interrupted | failed | compactionFinished
deriving DecidableEq

/-- Work that was spawned and has not run yet. -/
inductive Task
  /-- `after_turn`, with the reset the turn's last quota snapshot reported. -/
  | afterTurn (turn : Option String) (terminal : Terminal) (exhausted : Option DateTime)
  | drain
  /-- The pause after a rate-limit wait that could not be saved. -/
  | pauseFailed
  | rateLimitTimer (resumeAt : DateTime)
  | scheduleTimer (due : DateTime)
deriving DecidableEq

/-- A turn whose user message and start are in the journal. -/
structure JournalledTurn where
  turnId : String
  clientRequestId : Option String
  fingerprint : String
deriving DecidableEq

/-- What runs in the conversation. -/
inductive Active
  | turn (id : String)
  | operation (id : String)
deriving DecidableEq

def Active.id : Active → String
  | turn id => id
  | operation id => id

/-- What an observer notes. -/
inductive Log
  /-- A turn that completed was handled. -/
  | completed
  /-- A continuation the daemon queued itself was sent. -/
  | continued (turn : String)
  /-- A turn that failed on the limit was handled. -/
  | limitHit (wasContinuation : Bool)
  | waits (reset now : DateTime) (failures : Nat) (resumeAt : DateTime)
  /-- The timer lifted a rate-limit pause. -/
  | lifted (resumeAt now : DateTime)
  | restarted
deriving DecidableEq

/-- The daemon's state of one conversation. -/
structure Conversation where
  /-- The entry in `follow_up_queues`. -/
  saved : Option FollowUpQueue := none
  schedule : Option ConversationSchedule := none
  active : Option Active := none
  journal : List JournalledTurn := []
  /-- The snapshot of the last request and the turn it was saved for. -/
  lastRequest : Option (String × ConversationPrompt) := none
  tasks : List Task := []
  /-- A `queue.json` of an older daemon. -/
  legacy : Option FollowUpQueue := none
  shuttingDown : Bool := false
  /-- History; no step reads it. -/
  log : List Log := []
deriving DecidableEq

namespace Conversation

/-- `load_follow_ups`. -/
def queue (self : Conversation) : FollowUpQueue := self.saved.getD {}

def spawn (self : Conversation) (task : Task) : Conversation :=
  { self with tasks := self.tasks ++ [task] }

def note (self : Conversation) (entry : Log) : Conversation :=
  { self with log := self.log ++ [entry] }

def setQueue (self : Conversation) (queue : FollowUpQueue) : Conversation :=
  { self with saved := if queue.isIdle then none else some queue }

end Conversation

/-! ### Saving -/

/-- The store's answers to a save. -/
structure SaveIo where
  stored : Option AppError := none
  published : Option AppError := none

variable (E : Environment)

/-- `commit_follow_ups`. -/
def commitFollowUps (io : SaveIo) (queue : FollowUpQueue) (s : Conversation) :
    Option AppError × Conversation :=
  let bytes := E.queueBytes queue
  let tooLarge := if maxFollowUpQueueBytes < bytes then some (AppError.resourceExhausted
    s!"the follow-up queue would hold {bytes} bytes, above the {maxFollowUpQueueBytes} byte limit")
    else none
  match firstError [tooLarge, io.stored] with
  | some error => (some error, s)
  | none => (none, s.setQueue queue)

/-- `save_follow_ups`: commits, then publishes. -/
def saveFollowUps (io : SaveIo) (queue : FollowUpQueue) (s : Conversation) :
    Option AppError × Conversation :=
  match commitFollowUps E io queue s with
  | (some error, s) => (some error, s)
  | (none, s) => (io.published, s)

/-! ### Starting turns -/

/-- The answers a prompt gets before its turn runs. -/
structure PromptIo where
  /-- `ensure_not_legacy` and the fingerprint key. -/
  writable : Option AppError := none
  /-- Checks of the manifest, the owner and the workspace. -/
  checked : Option AppError := none
  /-- Whether the fingerprint key is there, and whether records are sealed under it. -/
  keyed : Bool := false
  encrypted : Bool := false
  /-- Content, skills, permissions and the driver. -/
  prepared : Option AppError := none
  turnId : String
  workspace : Option AppError := none
  requestSaved : Option AppError := none
  appended : Option AppError := none

/-- The text, skills and content of a prompt are acceptable. -/
def checkText (prompt : ConversationPrompt) : Option AppError :=
  if E.trim prompt.text = "" ∧ prompt.skills = [] ∧ prompt.content = [] then
    some (.invalidRequest "prompt cannot be empty")
  else if maxPromptBytes < (E.trim prompt.text).utf8ByteSize then
    some (.invalidRequest s!"prompt exceeds {maxPromptBytes} bytes")
  else none

def checkRequestId (prompt : ConversationPrompt) : Option AppError :=
  if prompt.clientRequestId.any fun id => id = "" ∨ 200 < id.utf8ByteSize then
    some (.invalidRequest "clientRequestId must contain 1 to 200 bytes")
  else none

/-- The first message recorded under a request id. -/
def recordedTurn (journal : List JournalledTurn) (clientRequestId : Option String) :
    Option JournalledTurn :=
  clientRequestId.bind fun id => journal.find? (·.clientRequestId = some id)

def fingerprintMatches (io : PromptIo) (recorded fingerprint : String) : Bool :=
  recorded = fingerprint ∨ io.keyed ∧ E.mac fingerprint = recorded

def runningError (running : Active) : AppError :=
  let conversation := E.conversationId
  let turn := running.id
  .conflict s!"conversation {conversation} is already running turn {turn}"

/-- Register, save and journal a turn. -/
def startTurn (io : PromptIo) (prompt : ConversationPrompt) (s : Conversation) :
    Except AppError String × Conversation :=
  match s.active with
  | some running => (.error (runningError E running), s)
  | none =>
    match firstError [io.workspace, io.requestSaved] with
    | some error => (.error error, s)
    | none =>
      let s := { s with lastRequest := some (io.turnId, prompt) }
      match io.appended with
      | some error => (.error error, s)
      | none =>
        let fingerprint := E.fingerprint prompt
        let turn := {
          turnId := io.turnId
          clientRequestId := prompt.clientRequestId
          fingerprint := if io.encrypted then E.mac fingerprint else fingerprint }
        (.ok io.turnId,
          { s with journal := s.journal ++ [turn], active := some (.turn io.turnId) })

/-- Every prompt passes here. A request id that was recorded before gives its turn again. -/
def promptInner (io : PromptIo) (prompt : ConversationPrompt) (s : Conversation) :
    Except AppError String × Conversation :=
  match firstError [io.writable, checkRequestId prompt, checkText E prompt, io.checked] with
  | some error => (.error error, s)
  | none =>
    match recordedTurn s.journal prompt.clientRequestId with
    | some previous =>
      if fingerprintMatches E io previous.fingerprint (E.fingerprint prompt) then
        (.ok previous.turnId, s)
      else (.error (.conflict
        "clientRequestId was already used with different or unverifiable input."), s)
    | none =>
      match io.prepared with
      | some error => (.error error, s)
      | none => startTurn E io prompt s

/-- `SCHEDULED_PROMPT_ERROR`. -/
def ensureNotScheduled (s : Conversation) : Option AppError :=
  if s.schedule.any (!·.interrupted) then
    some (.invalidRequest "conversation is scheduled; queue the prompt instead")
  else none

def promptOwned (io : PromptIo) (prompt : ConversationPrompt) (s : Conversation) :
    Except AppError String × Conversation :=
  match ensureNotScheduled s with
  | some error => (.error error, s)
  | none => promptInner E io prompt s

/-- A turn for work the provider started on its own: no message and no saved request. -/
def startProviderTurn (io : PromptIo) (s : Conversation) : Except AppError Unit × Conversation :=
  match firstError [io.writable, io.checked, io.prepared] with
  | some error => (.error error, s)
  | none =>
    match s.active with
    | some running => (.error (runningError E running), s)
    | none =>
      match firstError [io.workspace, io.appended] with
      | some error => (.error error, s)
      | none => (.ok (), { s with active := some (.turn io.turnId) })

/-! ### Operations of clients -/

/-- Outcome of adding to the queue. -/
inductive FollowUpAddOutcome
  | queued
  | started (turn : String)

def validateItemId (id : String) : Option AppError :=
  if id = "" ∨ 200 < id.utf8ByteSize then
    some (.invalidRequest "itemId must contain 1 to 200 bytes")
  else none

/-- The turn of the newest message recorded for a request. -/
def deliveredTurn (journal : List JournalledTurn) (requestId : String) : Option String :=
  (journal.reverse.find? (·.clientRequestId = some requestId)).map (·.turnId)

/-- The answers an added prompt gets. -/
structure AddIo where
  permitted : Option AppError := none
  digest : Option AppError := none
  /-- Content and skills. -/
  prepared : Option AppError := none
  now : DateTime
  prompt : PromptIo
  save : SaveIo := {}

/-- The queue with one more item of a client. -/
def FollowUpQueue.add (self : FollowUpQueue) (item : FollowUpItem) (front paused : Bool) :
    FollowUpQueue :=
  let self := { self with items := if front then item :: self.items else self.items ++ [item] }
  if paused && !self.heldByUser then self.pause .user none else self

def queueFull (queue : FollowUpQueue) : Option AppError :=
  if maxFollowUpItems ≤ queue.items.length then
    some (.resourceExhausted s!"the follow-up queue holds at most {maxFollowUpItems} items")
  else none

/-- Queue an item; an idle conversation that is not paused starts its head next. -/
def enqueue (io : SaveIo) (item : FollowUpItem) (front paused : Bool) (s : Conversation) :
    Except AppError FollowUpAddOutcome × Conversation :=
  let busy := s.active.isSome
  let queue := s.queue.add item front paused
  match saveFollowUps E io queue s with
  | (some error, s) => (.error error, s)
  | (none, s) => (.ok .queued, if !busy && !queue.paused then s.spawn .drain else s)

def queueAddOwned (io : AddIo) (itemId : String) (prompt : ConversationPrompt)
    (front paused : Bool) (s : Conversation) : Except AppError FollowUpAddOutcome × Conversation :=
  match firstError [validateItemId itemId, io.permitted] with
  | some error => (.error error, s)
  | none =>
    let prompt := { prompt with clientRequestId := some itemId }
    if itemId ∈ s.queue.ids then (.ok .queued, s)
    else match io.digest, deliveredTurn s.journal itemId with
    | some error, _ => (.error error, s)
    | none, some turn => (.ok (.started turn), s)
    | none, none =>
      let busy := s.active.isSome
      if !busy && !paused && s.queue.items.isEmpty && !s.queue.scheduled then
        let (result, s) := promptInner E io.prompt prompt s
        (result.map .started, s)
      else match firstError [queueFull s.queue, checkText E prompt, io.prepared] with
      | some error => (.error error, s)
      | none => enqueue E io.save
        { id := itemId, queuedAt := io.now, request := prompt, automatic := false } front paused s

/-- Change the queue and save it; without a new queue nothing is saved. -/
def updateQueue (io : SaveIo) (change : FollowUpQueue → Except AppError (Option FollowUpQueue))
    (s : Conversation) : Except AppError Unit × Conversation :=
  match change s.queue with
  | .error error => (.error error, s)
  | .ok none => (.ok (), s)
  | .ok (some queue) =>
    match saveFollowUps E io queue s with
    | (some error, s) => (.error error, s)
    | (none, s) => (.ok (), s)

/-- The queue without an item. -/
def FollowUpQueue.removeItem (itemId : String) (self : FollowUpQueue) :
    Except AppError (Option FollowUpQueue) :=
  match validateItemId itemId with
  | some error => .error error
  | none =>
    let items := self.items.filter (·.id ≠ itemId)
    if items.length = self.items.length then .error (.notFound s!"follow-up {itemId}")
    else .ok (some { self with items }.unpauseIfEmpty)

def queueRemoveOwned (io : SaveIo) (itemId : String) (s : Conversation) :
    Except AppError Unit × Conversation :=
  updateQueue E io (·.removeItem itemId) s

/-- Removes the first item of this id and returns it; a failure to publish is not an error. -/
def queueTakeOwned (io : SaveIo) (itemId : String) (s : Conversation) :
    Except AppError FollowUpItem × Conversation :=
  match validateItemId itemId, s.queue.items.find? (·.id = itemId) with
  | some error, _ => (.error error, s)
  | none, none => (.error (.notFound s!"follow-up {itemId}"), s)
  | none, some item =>
    let queue := { s.queue with items := s.queue.items.eraseP (·.id = itemId) }.unpauseIfEmpty
    match commitFollowUps E io queue s with
    | (some error, s) => (.error error, s)
    | (none, s) => (.ok item, s)

def queuePauseOwned (io : SaveIo) (s : Conversation) : Except AppError Unit × Conversation :=
  updateQueue E io (fun queue =>
    if queue.items.isEmpty || queue.heldByUser then .ok none
    else .ok (some (queue.pause .user none))) s

def queueClearOwned (io : SaveIo) (s : Conversation) : Except AppError Unit × Conversation :=
  updateQueue E io (fun queue => .ok (some { queue with items := [] }.unpauseIfEmpty)) s

/-- The answers to an operation that also writes the schedule. -/
structure ScheduleIo where
  permitted : Option AppError := none
  scheduleSet : Option AppError := none
  save : SaveIo := {}

/-- A schedule that holds the queue ends. -/
def endSchedule (s : Conversation) : Conversation :=
  if s.queue.scheduled then { s with schedule := none } else s

/-- Lifts a pause; a scheduled queue is sent now. The queue is drained next. -/
def queueResumeOwned (io : ScheduleIo) (s : Conversation) : Except AppError Unit × Conversation :=
  match io.permitted with
  | some error => (.error error, s)
  | none =>
    if s.queue.paused then
      match if s.queue.scheduled then io.scheduleSet else none with
      | some error => (.error error, s)
      | none =>
        match saveFollowUps E io.save s.queue.unpause (endSchedule s) with
        | (some error, s) => (.error error, s)
        | (none, s) => (.ok (), s.spawn .drain)
    else (.ok (), s.spawn .drain)

/-- The queue held until an instant. -/
def FollowUpQueue.holdUntil (self : FollowUpQueue) (due : DateTime) : FollowUpQueue :=
  { self.pause .scheduled none with resumeAt := some due }

/-- `schedule_owned` with a time. -/
def scheduleOwned (io : ScheduleIo) (due now : DateTime) (s : Conversation) :
    Except AppError ConversationSchedule × Conversation :=
  let past := if due ≤ now then some (AppError.invalidRequest "at must be in the future") else none
  let far := if now.nanos + maxScheduleAhead < due.nanos then
    some (AppError.invalidRequest "at must be at most 366 days ahead") else none
  let running := if s.active.isSome then
    some (AppError.conflict "a running conversation cannot be scheduled") else none
  match firstError [io.permitted, past, far, running, io.scheduleSet] with
  | some error => (.error error, s)
  | none =>
    let schedule := { due, interrupted := false }
    match saveFollowUps E io.save (s.queue.holdUntil due) { s with schedule := some schedule } with
    | (some error, s) => (.error error, s)
    | (none, s) => (.ok schedule, s.spawn (.scheduleTimer due))

/-- The queue after its schedule ended: items stay under a pause of the user. -/
def FollowUpQueue.unschedule (self : FollowUpQueue) : FollowUpQueue :=
  if self.holdsItems then self.unpause.pause .user none else self.unpause

def cancelSchedule (io : ScheduleIo) (s : Conversation) : Except AppError Unit × Conversation :=
  match firstError [io.permitted, io.scheduleSet] with
  | some error => (.error error, s)
  | none => updateQueue E io.save
    (fun queue => .ok (if queue.scheduled then some queue.unschedule else none))
    { s with schedule := none }

/-! ### Turn endings -/

/-- The queue after a turn completed. -/
def FollowUpQueue.settle (self : FollowUpQueue) : Option FollowUpQueue :=
  let gaveUp := maxRateLimitContinuations ≤ self.rateLimitFailures && self.paused &&
    self.pauseReason = some .turnFailed
  if self.rateLimited || gaveUp then
    some { { self with items := self.items.filter fun item => !isContinuation item.id }.unpause with
      rateLimitFailures := 0 }
  else if self.rateLimitFailures ≠ 0 then some { self with rateLimitFailures := 0 }
  else none

def settleRateLimitAfterCompletion (io : SaveIo) (s : Conversation) :
    Except AppError Unit × Conversation :=
  updateQueue E io (fun queue => .ok queue.settle) s

def pauseFollowUps (io : SaveIo) (reason : PauseReason) (s : Conversation) :
    Except AppError Unit × Conversation :=
  updateQueue E io (fun queue =>
    .ok (if queue.items.isEmpty || queue.paused then none else some (queue.pause reason none))) s

/-- The answers draining a queue gets. -/
structure DrainIo where
  stored : Option AppError := none
  prompt : PromptIo
  save : SaveIo := {}

/-- A sent continuation is noted. -/
def noteContinued (item : FollowUpItem) (turn : String) (before after : Conversation) :
    Conversation :=
  if item.automatic && before.journal.length < after.journal.length then
    after.note (.continued turn)
  else after

/-- Start the head item of a queue that is not paused. -/
def drainFollowUps (io : DrainIo) (s : Conversation) : Option AppError × Conversation :=
  if s.shuttingDown || s.active.isSome then (none, s)
  else match s.queue.items with
  | [] => (none, s)
  | head :: _ =>
    if s.queue.paused then (none, s)
    else match io.stored with
    | some error => (some error, s)
    | none =>
      match promptInner E io.prompt head.request s with
      | (.ok turn, s') =>
        saveFollowUps E io.save { s.queue with items := s.queue.items.filter (·.id ≠ head.id) }
          (noteContinued head turn s s')
      | (.error error, s') =>
        saveFollowUps E io.save (s.queue.pause .startFailed (some error.display)) s'

/-- The failed turn's settings with the instruction to continue. -/
def continuationPrompt (failed : Option ConversationPrompt) (itemId : String) :
    ConversationPrompt :=
  let prompt := failed.getD {
    permissionMode := none, workMode := none, clientRequestId := none, text := "", model := none
    reasoningEffort := none, skills := [], content := [], permissionProfile := none
    sandboxMode := none, approvalPolicy := none }
  { prompt with
    clientRequestId := some itemId, text := rateLimitContinueText, skills := [], content := [] }

/-- The request that started a turn, when it is the latest one. -/
def turnRequest (s : Conversation) (turnId : String) : Option ConversationPrompt :=
  (s.lastRequest.filter (·.1 = turnId)).map (·.2)

/-- Whether a request was a continuation. -/
def wasContinuation (request : Option ConversationPrompt) : Bool :=
  (request.bind (·.clientRequestId)).any isContinuation

def gaveUpMessage : String :=
  s!"The provider usage limit was still reached after {maxRateLimitContinuations} automatic " ++
    "continuations, so TodeX stopped continuing on its own. Resume the queue or send a message " ++
    "to try again."

/-- The queue with the failure counted. -/
def FollowUpQueue.countFailure (self : FollowUpQueue) (request : Option ConversationPrompt) :
    FollowUpQueue :=
  { self with rateLimitFailures :=
      if wasContinuation request then min (self.rateLimitFailures + 1) (2 ^ 32 - 1) else 0 }

/-- The queue that no longer continues on its own. -/
def FollowUpQueue.giveUp (self : FollowUpQueue) : FollowUpQueue :=
  if self.heldByUser then self
  else { self.pause .turnFailed (some gaveUpMessage) with resumeAt := none }

/-- The queue with a continuation at its head, unless there is one already. -/
def FollowUpQueue.addContinuation (self : FollowUpQueue) (request : Option ConversationPrompt)
    (turnId : String) (now : DateTime) : FollowUpQueue :=
  if self.items.any fun item => isContinuation item.id then self
  else
    let id := rateLimitContinueStart ++ turnId
    { self with items :=
        { id, queuedAt := now, request := continuationPrompt request id, automatic := true } ::
          self.items }

/-- The queue that waits until `resumeAt`; a pause of the user stays. -/
def FollowUpQueue.awaitReset (self : FollowUpQueue) (resumeAt : DateTime) : FollowUpQueue :=
  let held := self.heldByUser
  { (if held then self else self.pause .rateLimited none) with resumeAt := some resumeAt }

/-- The answers a rate-limit wait gets. -/
structure WaitIo where
  requestRead : Option AppError := none
  now : DateTime
  save : SaveIo := {}

/-- A turn failed because its plan window is exhausted until `reset`. -/
def waitForRateLimitReset (io : WaitIo) (turnId : String) (reset : DateTime) (s : Conversation) :
    Conversation :=
  match io.requestRead with
  | some _ => s.spawn .pauseFailed
  | none =>
    let request := turnRequest s turnId
    let queue := s.queue.countFailure request
    let s := s.note (.limitHit (wasContinuation request))
    if maxRateLimitContinuations ≤ queue.rateLimitFailures then
      match saveFollowUps E io.save queue.giveUp s with
      | (some _, s) => s.spawn .pauseFailed
      | (none, s) => s
    else
      let resumeAt := rateLimitResumeAt reset io.now queue.rateLimitFailures E.retryFloor
      let held := queue.heldByUser
      match saveFollowUps E io.save
        ((queue.addContinuation request turnId io.now).awaitReset resumeAt) s with
      | (some _, s) => s.spawn .pauseFailed
      | (none, s) =>
        if held then s
        else (s.note (.waits reset io.now queue.rateLimitFailures resumeAt)).spawn
          (.rateLimitTimer resumeAt)

/-- The answers the handlers of spawned work get. -/
structure TaskIo where
  wait : WaitIo
  drain : DrainIo
  save : SaveIo := {}
  scheduleSet : Option AppError := none

/-- The pause a turn's end leaves. -/
def pauseAfter : Terminal → PauseReason
  | .cancelled => .turnCancelled
  | .interrupted => .turnInterrupted
  | _ => .turnFailed

def afterTurn (io : TaskIo) (turn : Option String) (terminal : Terminal)
    (exhausted : Option DateTime) (s : Conversation) : Conversation :=
  match terminal, turn, exhausted with
  | .completed, _, _ =>
    ((settleRateLimitAfterCompletion E io.save s).2.note .completed).spawn .drain
  | .compactionFinished, _, _ => s.spawn .drain
  | .failed, some turnId, some reset => waitForRateLimitReset E io.wait turnId reset s
  | terminal, _, _ => (pauseFollowUps E io.save (pauseAfter terminal) s).2

/-- Lifts the pause armed for `resumeAt`. -/
def resumeAfterRateLimit (io : TaskIo) (resumeAt now : DateTime) (s : Conversation) :
    Conversation :=
  if s.shuttingDown then s
  else if !s.queue.rateLimited || s.queue.resumeAt ≠ some resumeAt then s
  else match saveFollowUps E io.save s.queue.unpause s with
  | (some _, s) => s
  | (none, s) => (s.note (.lifted resumeAt now)).spawn .drain

/-- The schedule for `due` ends and the queue is sent. -/
def sendScheduled (io : TaskIo) (due : DateTime) (s : Conversation) : Conversation :=
  if s.shuttingDown then s
  else if !s.queue.scheduled || s.queue.resumeAt ≠ some due then s
  else match io.scheduleSet with
  | some _ => s
  | none =>
    match saveFollowUps E io.save s.queue.unpause { s with schedule := none } with
    | (some _, s) => s
    | (none, s) => s.spawn .drain

/-- What spawned work does when it runs. -/
def handle (io : TaskIo) (now : DateTime) : Task → Conversation → Conversation
  | .afterTurn turn terminal exhausted, s => afterTurn E io turn terminal exhausted s
  | .drain, s => (drainFollowUps E io.drain s).2
  | .pauseFailed, s => (pauseFollowUps E io.save .turnFailed s).2
  | .rateLimitTimer resumeAt, s => resumeAfterRateLimit E io resumeAt now s
  | .scheduleTimer due, s => sendScheduled E io due s

/-- Work can run; a timer sleeps until the wall clock reaches its time. -/
def Task.due (now : DateTime) : Task → Bool
  | .rateLimitTimer resumeAt => resumeAt ≤ now
  | .scheduleTimer due => due ≤ now
  | _ => true

/-- Run spawned work. -/
def runTask (io : TaskIo) (now : DateTime) (task : Task) (s : Conversation) : Conversation :=
  if task ∈ s.tasks ∧ task.due now then
    handle E io now task { s with tasks := s.tasks.erase task }
  else s

/-! ### Restart -/

/-- The answers recovery gets. -/
structure RestartIo where
  save : SaveIo := {}
  legacyRemoved : Option AppError := none
  scheduleSet : Option AppError := none

/-- The queue an older daemon left, which waits for the user. -/
def FollowUpQueue.imported (self : FollowUpQueue) : FollowUpQueue :=
  { self.pause .daemonRestarted none with resumeAt := none }

/-- `remove_legacy_follow_up_queue`. -/
def removeLegacy (io : RestartIo) (s : Conversation) : Conversation :=
  if io.legacyRemoved.isSome then s else { s with legacy := none }

/-- `import_legacy_follow_ups`. -/
def importLegacyFollowUps (io : RestartIo) (s : Conversation) : Conversation :=
  match s.legacy with
  | none => s
  | some queue =>
    if queue.holdsItems then
      match commitFollowUps E io.save queue.imported s with
      | (some _, s) => s
      | (none, s) => removeLegacy io s
    else removeLegacy io s

/-- `interrupt_schedule`: a schedule found at startup lost what it held. -/
def interruptSchedule (io : RestartIo) (s : Conversation) : Conversation :=
  if io.scheduleSet.isSome then s
  else { s with
    schedule := s.schedule.map fun schedule => { schedule with interrupted := true } }

/-- What a restart leaves: the journal and the files. -/
def restart (io : RestartIo) (s : Conversation) : Conversation :=
  interruptSchedule io <| importLegacyFollowUps E io <|
    { saved := none, active := none, tasks := [], shuttingDown := false, schedule := s.schedule
      journal := s.journal, lastRequest := s.lastRequest, legacy := s.legacy
      log := s.log ++ [.restarted] }

/-! ### Runs -/

/-- What can happen to a conversation. -/
inductive Op
  | add (io : AddIo) (itemId : String) (prompt : ConversationPrompt) (front paused : Bool)
  | remove (io : SaveIo) (itemId : String)
  | take (io : SaveIo) (itemId : String)
  | pause (io : SaveIo)
  | clear (io : SaveIo)
  | resume (io : ScheduleIo)
  | schedule (io : ScheduleIo) (due now : DateTime)
  | cancelSchedule (io : ScheduleIo)
  | prompt (io : PromptIo) (prompt : ConversationPrompt)
  | providerTurn (io : PromptIo)
  /-- An operation such as a compaction takes the conversation. -/
  | operation (id : String)
  /-- What runs ends and releases the conversation. -/
  | ends (terminal : Terminal) (exhausted : Option DateTime)
  | task (io : TaskIo) (now : DateTime) (task : Task)
  | shutdown
  | restart (io : RestartIo)

/-- The conversation is released and the end is handled later. -/
def endActive (terminal : Terminal) (exhausted : Option DateTime) (s : Conversation) :
    Conversation :=
  match s.active with
  | none => s
  | some (.operation _) =>
    { s with active := none }.spawn (.afterTurn none .compactionFinished none)
  | some (.turn id) => { s with active := none }.spawn (.afterTurn (some id) terminal exhausted)

def step (s : Conversation) : Op → Conversation
  | .add io itemId prompt front paused => (queueAddOwned E io itemId prompt front paused s).2
  | .remove io itemId => (queueRemoveOwned E io itemId s).2
  | .take io itemId => (queueTakeOwned E io itemId s).2
  | .pause io => (queuePauseOwned E io s).2
  | .clear io => (queueClearOwned E io s).2
  | .resume io => (queueResumeOwned E io s).2
  | .schedule io due now => (scheduleOwned E io due now s).2
  | .cancelSchedule io => (cancelSchedule E io s).2
  | .prompt io prompt => (promptOwned E io prompt s).2
  | .providerTurn io => (startProviderTurn E io s).2
  | .operation id => if s.active.isSome then s else { s with active := some (.operation id) }
  | .ends terminal exhausted => endActive terminal exhausted s
  | .task io now task => runTask E io now task s
  | .shutdown => { s with shuttingDown := true }
  | .restart io => restart E io s

def run (s : Conversation) (ops : List Op) : Conversation := ops.foldl (step E) s

end Todex
