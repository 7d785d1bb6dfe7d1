import Todex.Conversation.Model
import Todex.Lib.Map
import Todex.Lib.Mergeable

/-!
# The journal digest

The facts hot paths need from a conversation's whole history. A digest describes a contiguous
range of the journal; it is extended event by event and joined with the digest of the range that
follows it.
-/

namespace Todex

open Std

/-- Events that end the turn they name (or, without a `turnId`, any open turn). -/
def turnTerminalEvents : List String :=
  ["turn.completed", "turn.failed", "turn.cancelled", "turn.interrupted"]

/-- Conversation-level events that end whatever turn was open. -/
def conversationTerminalEvents : List String := ["conversation.interrupted", "conversation.failed"]

/-! ### The parts of a digest -/

/-- How a control request ended. -/
inductive ControlOutcome
  | completed | rejected | unknown
deriving DecidableEq

/-- `ControlOutcome::from_event_type`. -/
def ControlOutcome.fromEventType (eventType : String) : Option ControlOutcome :=
  match eventType with
  | "control.completed" => some completed
  | "control.rejected" => some rejected
  | "control.unknown" => some unknown
  | _ => none

/-- `message.created` records carrying one `clientRequestId`. -/
structure ClientRequestFacts where
  /-- Sequence of the first such record. -/
  first : Nat
  /-- Sequence of the newest such record. -/
  last : Nat
  /-- `turnId` of the newest such record. -/
  lastTurnId : Option String
deriving DecidableEq

/-- One control `requestId`: its first `control.requested` and the newest outcome recorded under
the id. -/
structure ControlFacts where
  requested : Option Nat := none
  outcome : Option (ControlOutcome × Nat) := none
deriving DecidableEq, Inhabited

/-- What restart recovery needs to close a cancelled permission dialog. -/
structure PermissionContext where
  scope : Option Json
  runtimeId : Option Json

/-- `status_slot`: the position of a status in a transform. -/
def statusSlot : ConversationStatus → Fin 5
  | .idle => 0
  | .running => 1
  | .waitingPermission => 2
  | .interrupted => 3
  | .failed => 4

/-- The status fold of a range as a function of the status the range starts from. -/
structure StatusTransform where
  slots : Vector ConversationStatus 5
deriving DecidableEq

namespace StatusTransform

/-- The transform of the empty range. -/
def default : StatusTransform :=
  ⟨#v[.idle, .running, .waitingPermission, .interrupted, .failed]⟩

def apply (self : StatusTransform) (event : ConversationEvent) : StatusTransform :=
  ⟨self.slots.map fun status => statusAfterConversationEvent status event⟩

/-- First this range, then the later one. -/
def andThen (self later : StatusTransform) : StatusTransform :=
  ⟨self.slots.map fun status => later.slots[statusSlot status]⟩

/-- The status reached from `start`. -/
def fromStatus (self : StatusTransform) (start : ConversationStatus) : ConversationStatus :=
  self.slots[statusSlot start]

end StatusTransform

/-- The turn a range leaves open: the last `turn.started` with no later terminal event for it. A
range without a `turn.started` records what it would close instead. -/
structure OpenTurnFold where
  /-- Once the range holds a `turn.started`: the turn still open at its end. -/
  started : Option (Option String) := none
  /-- Before the first `turn.started`: whether whatever was open was closed. -/
  closesAny : Bool := false
  /-- Before the first `turn.started`: the turns that were closed by id. -/
  closed : ExtTreeSet String := ∅

namespace OpenTurnFold

def apply (self : OpenTurnFold) (eventType : String) (turnId : Option String) : OpenTurnFold :=
  if eventType = "turn.started" then { started := some turnId }
  else
    let conversationTerminal := eventType ∈ conversationTerminalEvents
    if ¬ conversationTerminal ∧ eventType ∉ turnTerminalEvents then self
    else match self.started with
      | some openId =>
        if conversationTerminal ∨ turnId = none ∨ turnId = openId then
          { self with started := some none }
        else self
      | none => match turnId.filter fun _ => ¬ conversationTerminal with
        | some turnId => { self with closed := self.closed.insert turnId }
        | none => { self with closesAny := true }

def merge (self later : OpenTurnFold) : OpenTurnFold :=
  if later.started.isSome then later
  else match self.started with
    | some openId =>
      if later.closesAny ∨ openId.any (later.closed.contains ·) then
        { self with started := some none }
      else self
    | none =>
      { self with
        closesAny := self.closesAny || later.closesAny
        closed := self.closed ∪ later.closed }

/-- The open turn of a range that starts the journal. -/
def openTurn (self : OpenTurnFold) : Option String := self.started.join

end OpenTurnFold

/-- How an event changes whether background tasks a turn left behind are still awaited. -/
def backgroundPendingAfter (event : ConversationEvent) : Option Bool :=
  if event.eventType = "provider.event" ∧ event.rawType = some "background_tasks_pending" then
    some true
  else if event.eventType = "provider.event" ∧ event.rawType = some "background_tasks_ended" ∨
      event.eventType = "turn.started" then
    some false
  else if event.eventType = "turn.completed" then none
  else if event.eventType ∈ turnTerminalEvents ∨ event.eventType ∈ conversationTerminalEvents then
    some false
  else none

/-! ### The digest -/

/-- `JournalDigest`. -/
structure JournalDigest where
  lastSequence : Nat := 0
  lastTime : Option DateTime := none
  /-- Newest `message.created` with `role: "user"`. -/
  lastUserMessage : Option Nat := none
  clientRequests : ExtTreeMap String ClientRequestFacts := ∅
  controls : ExtTreeMap String ControlFacts := ∅
  /-- First `control.requested` delivering prompt text natively, by its delivery id. -/
  textControls : ExtTreeMap String Nat := ∅
  /-- Bit `i` set: the journal holds `turnTerminalEvents[i]` for the turn. -/
  turnTerminals : ExtTreeMap String (BitVec 8) := ∅
  status : StatusTransform := .default
  openTurnFold : OpenTurnFold := {}
  /-- Last `provider.runtime` state per runtime id: `true` when `ready`. -/
  runtimes : ExtTreeMap String Bool := ∅
  /-- Last state per permission id: `some` requested, `none` resolved. -/
  permissions : ExtTreeMap String (Option PermissionContext) := ∅
  /-- Whether the newest `background_tasks_pending` notice still stands. -/
  backgroundPending : Option Bool := none

namespace JournalDigest

/-! #### Extending by an event -/

/-- `last_user_message` after an event. -/
def lastUserMessageAfter (event : ConversationEvent) (old : Option Nat) : Option Nat :=
  if event.eventType = "message.created" ∧ event.payload.text "role" = some "user" then
    some event.sequence
  else old

/-- The facts of a client request after a message of it. -/
def clientRequestStep (event : ConversationEvent) (old : Option ClientRequestFacts) :
    Option ClientRequestFacts :=
  some
    { first := (old.map (·.first)).getD event.sequence
      last := event.sequence
      lastTurnId := event.payload.text "turnId" }

/-- `client_requests` after an event. -/
def clientRequestsAfter (event : ConversationEvent) (m : ExtTreeMap String ClientRequestFacts) :
    ExtTreeMap String ClientRequestFacts :=
  if event.eventType = "message.created" then
    match event.payload.text "clientRequestId" with
    | some requestId => m.alter requestId (clientRequestStep event)
    | none => m
  else m

/-- The facts of a control after its `control.requested`. -/
def requestedStep (event : ConversationEvent) (old : Option ControlFacts) : Option ControlFacts :=
  let facts := old.getD {}
  some { facts with requested := some (facts.requested.getD event.sequence) }

/-- The facts of a control after one of its outcomes. -/
def outcomeStep (event : ConversationEvent) (outcome : ControlOutcome)
    (old : Option ControlFacts) : Option ControlFacts :=
  some { old.getD {} with outcome := some (outcome, event.sequence) }

/-- `controls` after an event. -/
def controlsAfter (event : ConversationEvent) (m : ExtTreeMap String ControlFacts) :
    ExtTreeMap String ControlFacts :=
  match event.payload.text "requestId" with
  | none => m
  | some requestId =>
    let m := if event.eventType = "control.requested" then
        m.alter requestId (requestedStep event)
      else m
    match ControlOutcome.fromEventType event.eventType with
    | some outcome => m.alter requestId (outcomeStep event outcome)
    | none => m

/-- The id under which a `control.requested` delivers prompt text: a `queueAdd` its `itemId`, a
`steer` its `requestId`, if the control carries a `text` (or, encrypted, its `textMac`). -/
def deliveredText (payload : Json) : Option String :=
  let controlText (key : String) := (payload.get "control").bind (·.text key)
  let delivered :=
    if controlText "action" = some "queueAdd" then controlText "itemId"
    else if controlText "action" = some "steer" then payload.text "requestId"
    else none
  delivered.filter fun _ => (controlText "text").isSome || (controlText "textMac").isSome

/-- `text_controls` after an event. -/
def textControlsAfter (event : ConversationEvent) (m : ExtTreeMap String Nat) :
    ExtTreeMap String Nat :=
  if event.eventType = "control.requested" then
    match deliveredText event.payload with
    | some id => m.alter id fun old => some (old.getD event.sequence)
    | none => m
  else m

/-- `turn_terminals` after an event. -/
def turnTerminalsAfter (event : ConversationEvent) (m : ExtTreeMap String (BitVec 8)) :
    ExtTreeMap String (BitVec 8) :=
  match turnTerminalEvents.idxOf? event.eventType, event.payload.text "turnId" with
  | some bit, some turnId => m.alter turnId fun old => some (old.getD 0 ||| BitVec.twoPow 8 bit)
  | _, _ => m

/-- `runtimes` after an event. -/
def runtimesAfter (event : ConversationEvent) (m : ExtTreeMap String Bool) :
    ExtTreeMap String Bool :=
  if event.eventType = "provider.runtime" then
    match event.payload.text "runtimeId" with
    | some runtimeId =>
      if event.payload.text "status" = some "ready" then m.insert runtimeId true
      else if event.payload.text "status" = some "stopped" then m.insert runtimeId false
      else m
    | none => m
  else m

/-- `permissions` after an event. -/
def permissionsAfter (event : ConversationEvent) (m : ExtTreeMap String (Option PermissionContext)) :
    ExtTreeMap String (Option PermissionContext) :=
  match event.payload.text "permissionId" with
  | none => m
  | some permissionId =>
    if event.eventType = "permission.requested" ∨ event.eventType = "tool.awaitingApproval" then
      m.insert permissionId (some ⟨event.payload.get "scope", event.payload.get "runtimeId"⟩)
    else if event.eventType = "permission.resolved" then m.insert permissionId none
    else m

/-- Fold the next journal event in. -/
def apply (self : JournalDigest) (event : ConversationEvent) : JournalDigest where
  lastSequence := event.sequence
  lastTime := some event.time
  status := self.status.apply event
  openTurnFold := self.openTurnFold.apply event.eventType (event.payload.text "turnId")
  backgroundPending := (backgroundPendingAfter event).or self.backgroundPending
  lastUserMessage := lastUserMessageAfter event self.lastUserMessage
  clientRequests := clientRequestsAfter event self.clientRequests
  controls := controlsAfter event self.controls
  textControls := textControlsAfter event self.textControls
  runtimes := runtimesAfter event self.runtimes
  turnTerminals := turnTerminalsAfter event self.turnTerminals
  permissions := permissionsAfter event self.permissions

/-! #### Joining with a later range -/

/-- A client request's facts over both ranges. -/
def joinClientRequest (earlier : Option ClientRequestFacts) (facts : ClientRequestFacts) :
    ClientRequestFacts :=
  match earlier with
  | some earlier => { earlier with last := facts.last, lastTurnId := facts.lastTurnId }
  | none => facts

/-- A control's facts over both ranges. -/
def joinControl (earlier : Option ControlFacts) (facts : ControlFacts) : ControlFacts where
  requested := (earlier.getD {}).requested.or facts.requested
  outcome := facts.outcome.or (earlier.getD {}).outcome

/-- The fields of the digest of two adjacent non-empty ranges. -/
def mergeFields (self later : JournalDigest) : JournalDigest where
  lastSequence := later.lastSequence
  lastTime := later.lastTime
  lastUserMessage := later.lastUserMessage.or self.lastUserMessage
  clientRequests := self.clientRequests.joinWith joinClientRequest later.clientRequests
  controls := self.controls.joinWith joinControl later.controls
  textControls := self.textControls.joinWith (fun earlier v => earlier.getD v) later.textControls
  turnTerminals := self.turnTerminals.joinWith (fun earlier mask => earlier.getD 0 ||| mask)
    later.turnTerminals
  status := self.status.andThen later.status
  openTurnFold := self.openTurnFold.merge later.openTurnFold
  runtimes := self.runtimes ∪ later.runtimes
  permissions := self.permissions ∪ later.permissions
  backgroundPending := later.backgroundPending.or self.backgroundPending

/-- Append the digest of the range directly after this one. -/
def merge (self later : JournalDigest) : JournalDigest :=
  if later.lastSequence = 0 then self else self.mergeFields later

/-! #### What the digest answers -/

def clientRequest (self : JournalDigest) (clientRequestId : String) : Option ClientRequestFacts :=
  self.clientRequests[clientRequestId]?

def control (self : JournalDigest) (requestId : String) : Option ControlFacts :=
  self.controls[requestId]?

/-- Sequence of the first native queue/steer control that delivered prompt text under `id`. -/
def textControl (self : JournalDigest) (id : String) : Option Nat := self.textControls[id]?

/-- Whether the journal holds `eventType` for the turn; `none` when `eventType` is not one of
`turnTerminalEvents`. -/
def hasTurnTerminal (self : JournalDigest) (turnId eventType : String) : Option Bool :=
  (turnTerminalEvents.idxOf? eventType).map fun bit =>
    self.turnTerminals[turnId]?.any fun mask => mask &&& BitVec.twoPow 8 bit != 0

/-- Status the whole journal folds to from `start`. -/
def statusFrom (self : JournalDigest) (start : ConversationStatus) : ConversationStatus :=
  self.status.fromStatus start

def openTurn (self : JournalDigest) : Option String := self.openTurnFold.openTurn

/-- The inputs of restart recovery. -/
structure RecoveryFacts where
  status : ConversationStatus
  openTurn : Option String
  residentRuntimes : List String
  pendingPermissions : List (String × PermissionContext)
  backgroundPending : Bool

def recovery (self : JournalDigest) : RecoveryFacts where
  status := self.statusFrom .idle
  openTurn := self.openTurn
  residentRuntimes := (self.runtimes.toList.filter (·.2)).map (·.1)
  pendingPermissions := self.permissions.toList.filterMap fun e => e.2.map (e.1, ·)
  backgroundPending := self.backgroundPending == some true

/-- The digest of a history. -/
def fromEvents (events : List ConversationEvent) : JournalDigest := events.foldl apply {}

end JournalDigest

/-! ### Joining commutes with extending the later range -/

namespace StatusTransform

lemma andThen_apply (s t : StatusTransform) (event : ConversationEvent) :
    s.andThen (t.apply event) = (s.andThen t).apply event := by
  simp [andThen, apply, Function.comp_def]

lemma fromStatus_default (start : ConversationStatus) : default.fromStatus start = start := by
  cases start <;> rfl

lemma andThen_default (s : StatusTransform) : s.andThen default = s := by
  have h : default.fromStatus = id := funext fromStatus_default
  change StatusTransform.mk (s.slots.map default.fromStatus) = s
  rw [h, Vector.map_id_fun, id]

end StatusTransform

namespace OpenTurnFold

lemma merge_default (s : OpenTurnFold) : s.merge {} = s := by
  obtain ⟨started, closesAny, closed⟩ := s
  cases started <;> simp [merge, ExtTreeSet.union_empty_right]

/-- Close whatever turn is open. -/
def closeAny (self : OpenTurnFold) : OpenTurnFold :=
  match self.started with
  | some _ => { self with started := some none }
  | none => { self with closesAny := true }

/-- Close the turn `id`. -/
def closeTurn (self : OpenTurnFold) (id : String) : OpenTurnFold :=
  match self.started with
  | some openId => if openId = some id then { self with started := some none } else self
  | none => { self with closed := self.closed.insert id }

/-- What an event can do to the fold. -/
lemma apply_cases (eventType : String) (turnId : Option String) :
    (∀ s, apply s eventType turnId = { started := some turnId }) ∨
    (∀ s, apply s eventType turnId = s) ∨
    (∀ s, apply s eventType turnId = s.closeAny) ∨
    ∃ id, ∀ s, apply s eventType turnId = s.closeTurn id := by
  by_cases hs : eventType = "turn.started"
  · exact .inl fun s => by simp [apply, hs]
  · by_cases hconv : eventType ∈ conversationTerminalEvents
    · refine .inr (.inr (.inl fun s => ?_))
      rcases s with ⟨_ | openId, closesAny, closed⟩ <;>
        cases turnId <;> simp [apply, hs, hconv, closeAny]
    · by_cases hturn : eventType ∈ turnTerminalEvents
      · cases turnId with
        | none =>
          refine .inr (.inr (.inl fun s => ?_))
          rcases s with ⟨_ | openId, closesAny, closed⟩ <;>
            simp [apply, hs, hconv, hturn, closeAny]
        | some id =>
          refine .inr (.inr (.inr ⟨id, fun s => ?_⟩))
          rcases s with ⟨_ | openId, closesAny, closed⟩ <;>
            simp [apply, hs, hconv, hturn, closeTurn, Option.filter_some, eq_comm]
      · exact .inr (.inl fun s => by simp [apply, hs, hconv, hturn])

lemma merge_closeAny (s t : OpenTurnFold) : s.merge t.closeAny = (s.merge t).closeAny := by
  rcases t with ⟨_ | tOpen, tAny, tClosed⟩
  · rcases s with ⟨_ | sOpen, sAny, sClosed⟩
    · simp [merge, closeAny]
    · simp only [merge, closeAny]
      split_ifs <;> simp_all
  · simp [merge, closeAny]

lemma merge_closeTurn (s t : OpenTurnFold) (id : String) : s.merge (t.closeTurn id) = (s.merge t).closeTurn id := by
  rcases t with ⟨_ | tOpen, tAny, tClosed⟩
  · rcases s with ⟨_ | _ | sId, sAny, sClosed⟩
    · simp [merge, closeTurn, ExtTreeSet.union_insert]
    · -- the earlier range ended with no open turn: there is nothing to close
      cases tAny <;> simp [merge, closeTurn]
    · by_cases hc : tAny ∨ sId ∈ tClosed
      · have hc' : tAny ∨ id = sId ∨ sId ∈ tClosed := by tauto
        simp [merge, closeTurn, hc, hc']
      · rcases eq_or_ne sId id with rfl | hid
        · simp [merge, closeTurn, hc]
        · simp [merge, closeTurn, hc, hid, hid.symm]
  · simp only [merge, closeTurn]
    split_ifs <;> simp_all

lemma merge_apply (s t : OpenTurnFold) (eventType : String) (turnId : Option String) :
    s.merge (t.apply eventType turnId) = (s.merge t).apply eventType turnId := by
  rcases apply_cases eventType turnId with h | h | h | ⟨id, h⟩
  · simp [h, merge]
  · simp [h]
  · rw [h, h, merge_closeAny]
  · rw [h, h, merge_closeTurn]

end OpenTurnFold

namespace JournalDigest

open ExtTreeMap (joinVal joinWith)

lemma joinClientRequest_step (event : ConversationEvent) (o n : Option ClientRequestFacts) :
    joinVal joinClientRequest o (clientRequestStep event n) =
      clientRequestStep event (joinVal joinClientRequest o n) := by
  cases o <;> cases n <;> simp [clientRequestStep, joinClientRequest]

lemma joinControl_requestedStep (event : ConversationEvent) (o n : Option ControlFacts) :
    joinVal joinControl o (requestedStep event n) = requestedStep event (joinVal joinControl o n) := by
  rcases o with _ | ⟨_ | _, _⟩ <;> rcases n with _ | ⟨_ | _, _⟩ <;>
    simp [requestedStep, joinControl]

lemma joinControl_outcomeStep (event : ConversationEvent) (outcome : ControlOutcome) (o n : Option ControlFacts) :
    joinVal joinControl o (outcomeStep event outcome n) = outcomeStep event outcome (joinVal joinControl o n) := by
  cases o <;> cases n <;> simp [outcomeStep, joinControl]

lemma joinWith_clientRequestsAfter (s t : ExtTreeMap String ClientRequestFacts) (event : ConversationEvent) :
    joinWith joinClientRequest s (clientRequestsAfter event t) =
      clientRequestsAfter event (joinWith joinClientRequest s t) := by
  simp only [clientRequestsAfter]
  split_ifs
  · cases event.payload.text "clientRequestId" with
    | none => rfl
    | some id => exact ExtTreeMap.joinWith_alter (joinClientRequest_step event) s t id
  · rfl

lemma joinWith_controlsAfter (s t : ExtTreeMap String ControlFacts) (event : ConversationEvent) :
    joinWith joinControl s (controlsAfter event t) = controlsAfter event (joinWith joinControl s t) := by
  simp only [controlsAfter]
  cases event.payload.text "requestId" with
  | none => rfl
  | some id =>
    cases ControlOutcome.fromEventType event.eventType with
    | none =>
      dsimp only
      split_ifs
      · exact ExtTreeMap.joinWith_alter (joinControl_requestedStep event) s t id
      · rfl
    | some outcome =>
      dsimp only
      split_ifs
      · rw [ExtTreeMap.joinWith_alter (joinControl_outcomeStep event outcome),
          ExtTreeMap.joinWith_alter (joinControl_requestedStep event)]
      · exact ExtTreeMap.joinWith_alter (joinControl_outcomeStep event outcome) s t id

lemma joinWith_textControlsAfter (s t : ExtTreeMap String Nat) (event : ConversationEvent) :
    joinWith (fun earlier v => earlier.getD v) s (textControlsAfter event t) =
      textControlsAfter event (joinWith (fun earlier v => earlier.getD v) s t) := by
  simp only [textControlsAfter]
  split_ifs
  · cases deliveredText event.payload with
    | none => rfl
    | some id =>
      refine ExtTreeMap.joinWith_alter (fun o n => ?_) s t id
      cases o <;> cases n <;> simp
  · rfl

lemma joinWith_turnTerminalsAfter (s t : ExtTreeMap String (BitVec 8)) (event : ConversationEvent) :
    joinWith (fun earlier mask => earlier.getD 0 ||| mask) s (turnTerminalsAfter event t) =
      turnTerminalsAfter event (joinWith (fun earlier mask => earlier.getD 0 ||| mask) s t) := by
  simp only [turnTerminalsAfter]
  cases turnTerminalEvents.idxOf? event.eventType with
  | none => rfl
  | some bit =>
    cases event.payload.text "turnId" with
    | none => rfl
    | some id =>
      refine ExtTreeMap.joinWith_alter (fun o n => ?_) s t id
      cases o <;> cases n <;> simp [BitVec.or_assoc]

lemma union_runtimesAfter (s t : ExtTreeMap String Bool) (event : ConversationEvent) :
    s ∪ runtimesAfter event t = runtimesAfter event (s ∪ t) := by
  simp only [runtimesAfter]
  cases event.payload.text "runtimeId" with
  | none => split_ifs <;> rfl
  | some id =>
    dsimp only
    split_ifs <;> simp only [ExtTreeMap.union_insert]

lemma union_permissionsAfter (s t : ExtTreeMap String (Option PermissionContext)) (event : ConversationEvent) :
    s ∪ permissionsAfter event t = permissionsAfter event (s ∪ t) := by
  simp only [permissionsAfter]
  cases event.payload.text "permissionId" with
  | none => rfl
  | some id =>
    dsimp only
    split_ifs <;> simp only [ExtTreeMap.union_insert]

lemma or_lastUserMessageAfter (s t : Option Nat) (event : ConversationEvent) :
    (lastUserMessageAfter event t).or s = lastUserMessageAfter event (t.or s) := by
  simp only [lastUserMessageAfter]
  split_ifs <;> simp

lemma mergeFields_apply (s t : JournalDigest) (event : ConversationEvent) :
    s.mergeFields (t.apply event) = (s.mergeFields t).apply event := by
  simp only [mergeFields, apply, StatusTransform.andThen_apply, OpenTurnFold.merge_apply,
    joinWith_clientRequestsAfter, joinWith_controlsAfter, joinWith_textControlsAfter,
    joinWith_turnTerminalsAfter, union_runtimesAfter, union_permissionsAfter,
    or_lastUserMessageAfter, Option.or_assoc]

/-- Joining with the empty range changes only the position, which the next event overwrites. -/
lemma apply_mergeFields_empty (s : JournalDigest) (event : ConversationEvent) :
    (s.mergeFields {}).apply event = s.apply event := by
  simp only [mergeFields, apply, StatusTransform.andThen_default, OpenTurnFold.merge_default,
    ExtTreeMap.joinWith_empty, ExtTreeMap.union_empty_right, Option.none_or]

/-! ### The digest is a mergeable summary of the history -/

/-- The digest as a summary of event lists. -/
def mergeable : Mergeable ConversationEvent JournalDigest := ⟨{}, apply, merge⟩

lemma mergeable_lawful : mergeable.Lawful (fun event => 1 ≤ event.sequence) fun d => d.lastSequence = 0 → d = {} where
  empty_mem := fun _ => rfl
  apply_mem := fun {s event} _ hseq h => absurd h (Nat.one_le_iff_ne_zero.mp hseq)
  merge_empty := fun _ => rfl
  merge_apply := fun s {t event} ht hseq => by
    have hne : (t.apply event).lastSequence ≠ 0 := Nat.one_le_iff_ne_zero.mp hseq
    change s.merge (t.apply event) = (s.merge t).apply event
    rw [merge, if_neg hne, mergeFields_apply, merge]
    split_ifs with h
    · rw [ht h, apply_mergeFields_empty]
    · rfl

lemma fromEvents_concat (events : List ConversationEvent) (event : ConversationEvent) :
    fromEvents (events ++ [event]) = (fromEvents events).apply event :=
  mergeable.fold_concat events event

/-- The digest of a history is the join of the digests of its two parts, hence the join, in any
bracketing, of the digests of the ranges of any partition. -/
theorem fromEvents_append_eq_merge (A B : List ConversationEvent) (hseq : ∀ event ∈ A ++ B, 1 ≤ event.sequence) :
    fromEvents (A ++ B) = (fromEvents A).merge (fromEvents B) ∧
      ∀ parts : Bracketing ConversationEvent, parts.flatten = A ++ B →
        parts.merged mergeable = fromEvents (A ++ B) := by
  refine ⟨mergeable_lawful.fold_append A fun event h => hseq event (by simp [h]), ?_⟩
  intro parts hp
  rw [parts.merged_eq_fold mergeable_lawful (by rwa [hp]), hp]
  rfl

theorem fromEvents_append_eq_merge_turn :
    let started := ConversationEvent.new "evt_1" ⟨0, by decide⟩ "conv" 1 "turn.started"
      (.object [("turnId", .string "turn_1")])
    let completed := ConversationEvent.new "evt_2" ⟨1000, by decide⟩ "conv" 2 "turn.completed"
      (.object [("turnId", .string "turn_1")])
    (∀ event ∈ [started] ++ [completed], 1 ≤ event.sequence) ∧
      fromEvents ([started] ++ [completed]) =
        (fromEvents [started]).merge (fromEvents [completed]) := by
  intro started completed
  have hseq : ∀ event ∈ [started] ++ [completed], 1 ≤ event.sequence := by decide
  exact ⟨hseq, (fromEvents_append_eq_merge _ _ hseq).1⟩

end JournalDigest

end Todex
