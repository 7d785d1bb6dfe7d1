import Todex.Conversation.Digest

/-!
# The digest answers as scans of the whole history do

`History` holds the scans the digest replaces: each goes through the full history and keeps only
what its question needs. The digest of a history gives the same answers.
-/

namespace Todex

open Std

namespace History

/-! ### The scans -/

/-- The status a history leads to. -/
def status (start : ConversationStatus) (history : List ConversationEvent) : ConversationStatus :=
  history.foldl statusAfterConversationEvent start

/-- The open turn after one more event. -/
def openTurnStep (openId : Option String) (event : ConversationEvent) : Option String :=
  let turnId := event.payload.text "turnId"
  if event.eventType = "turn.started" then turnId
  else if event.eventType ∈ conversationTerminalEvents ∨
      event.eventType ∈ turnTerminalEvents ∧ (turnId = none ∨ turnId = openId) then
    none
  else openId

/-- The turn a history leaves open. -/
def openTurn (history : List ConversationEvent) : Option String := history.foldl openTurnStep none

/-- The resident runtimes after one more event. -/
def residentStep (resident : ExtTreeSet String) (event : ConversationEvent) : ExtTreeSet String :=
  match event.payload.text "runtimeId" with
  | some id =>
    if event.eventType = "provider.runtime" then
      if event.payload.text "status" = some "ready" then resident.insert id
      else if event.payload.text "status" = some "stopped" then resident.erase id
      else resident
    else resident
  | none => resident

/-- The runtimes that reported ready and have not stopped since. -/
def residentRuntimes (history : List ConversationEvent) : ExtTreeSet String :=
  history.foldl residentStep ∅

/-- The pending permission requests after one more event. -/
def pendingStep (pending : ExtTreeMap String PermissionContext) (event : ConversationEvent) :
    ExtTreeMap String PermissionContext :=
  match event.payload.text "permissionId" with
  | some id =>
    if event.eventType = "permission.requested" ∨ event.eventType = "tool.awaitingApproval" then
      pending.insert id ⟨event.payload.get "scope", event.payload.get "runtimeId"⟩
    else if event.eventType = "permission.resolved" then pending.erase id
    else pending
  | none => pending

/-- The permission requests that were not resolved, with the context of the newest request. -/
def pendingPermissions (history : List ConversationEvent) : ExtTreeMap String PermissionContext :=
  history.foldl pendingStep ∅

/-- A `background_tasks_pending` notice. -/
def isBackgroundNotice (event : ConversationEvent) : Bool :=
  event.eventType = "provider.event" ∧ event.rawType = some "background_tasks_pending"

/-- An event after which the announced background tasks are no longer awaited. -/
def settlesBackground (event : ConversationEvent) : Bool :=
  event.eventType = "turn.started" ∨
    event.eventType = "provider.event" ∧ event.rawType = some "background_tasks_ended" ∨
    event.eventType ≠ "turn.completed" ∧
      (event.eventType ∈ turnTerminalEvents ∨ event.eventType ∈ conversationTerminalEvents)

/-- Whether nothing after the last notice settles it. -/
def backgroundPending (history : List ConversationEvent) : Bool :=
  history.any isBackgroundNotice &&
    !(history.reverse.takeWhile (!isBackgroundNotice ·)).any settlesBackground

/-- A message of the client request `id`. -/
def isMessageOf (id : String) (event : ConversationEvent) : Bool :=
  event.eventType = "message.created" ∧ event.payload.text "clientRequestId" = some id

/-- The first and the newest message of a client request. -/
def clientRequest (history : List ConversationEvent) (id : String) : Option ClientRequestFacts := do
  let first ← history.find? (isMessageOf id)
  let newest ← history.reverse.find? (isMessageOf id)
  return ⟨first.sequence, newest.sequence, newest.payload.text "turnId"⟩

/-- A `control.requested` of the control `id`. -/
def isRequestOf (id : String) (event : ConversationEvent) : Bool :=
  event.eventType = "control.requested" ∧ event.payload.text "requestId" = some id

/-- The outcome an event records for the control `id`. -/
def outcomeOf (id : String) (event : ConversationEvent) : Option (ControlOutcome × Nat) :=
  if event.payload.text "requestId" = some id then
    (ControlOutcome.fromEventType event.eventType).map (·, event.sequence)
  else none

/-- The first request and the newest outcome of a control. -/
def control (history : List ConversationEvent) (id : String) : ControlFacts where
  requested := (history.find? (isRequestOf id)).map (·.sequence)
  outcome := history.reverse.findSome? (outcomeOf id)

/-- Whether a turn has an event of this type. -/
def hasTurnEvent (history : List ConversationEvent) (turnId eventType : String) : Bool :=
  history.any fun event =>
    event.eventType = eventType ∧ event.payload.text "turnId" = some turnId

/-- The first control that delivered prompt text under `id`. -/
def textControl (history : List ConversationEvent) (id : String) : Option Nat :=
  (history.find? fun event =>
    event.eventType = "control.requested" ∧
      JournalDigest.deliveredText event.payload = some id).map (·.sequence)

/-- The newest message of the user. -/
def lastUserMessage (history : List ConversationEvent) : Option Nat :=
  (history.reverse.find? fun event =>
    event.eventType = "message.created" ∧ event.payload.text "role" = some "user").map (·.sequence)

end History

/-! ### One event changes the digest's answer as it changes the scan's -/

lemma StatusTransform.fromStatus_apply (s : StatusTransform) (event : ConversationEvent) (start : ConversationStatus) :
    (s.apply event).fromStatus start = statusAfterConversationEvent (s.fromStatus start) event := by
  simp [apply, fromStatus]

lemma OpenTurnFold.openTurn_apply (s : OpenTurnFold) (event : ConversationEvent) :
    (s.apply event.eventType (event.payload.text "turnId")).openTurn = History.openTurnStep s.openTurn event := by
  by_cases hs : event.eventType = "turn.started"
  · simp [apply, History.openTurnStep, openTurn, hs]
  · rcases s with ⟨_ | openId, closesAny, closed⟩
    · -- no turn was started in the range, so none is open before or after
      have hsc : History.openTurnStep none event = none := by
        simp [History.openTurnStep, hs]
      have hn : (apply ⟨none, closesAny, closed⟩ event.eventType (event.payload.text "turnId")).started = none := by
        simp only [apply, hs, if_false]
        split_ifs
        · rfl
        · split <;> rfl
      simp [openTurn, hn, hsc]
    · simp only [apply, History.openTurnStep, openTurn, hs, if_false, Option.join_some]
      split_ifs <;> simp_all

namespace JournalDigest

lemma statusFrom_fromEvents (hi : List ConversationEvent) (start : ConversationStatus) :
    (fromEvents hi).statusFrom start = History.status start hi :=
  List.foldl_rel (r := fun (d : JournalDigest) status => d.statusFrom start = status)
    (StatusTransform.fromStatus_default start) fun event _ d status h => by
      rw [← h]
      exact d.status.fromStatus_apply event start

lemma openTurn_fromEvents (hi : List ConversationEvent) : (fromEvents hi).openTurn = History.openTurn hi :=
  List.foldl_rel (r := fun (d : JournalDigest) openId => d.openTurn = openId) rfl
    fun event _ d openId h => by
      rw [← h]
      exact d.openTurnFold.openTurn_apply event

lemma residentRuntimes_fromEvents (hi : List ConversationEvent) (id : String) :
    id ∈ History.residentRuntimes hi ↔ (fromEvents hi).runtimes[id]? = some true := by
  refine List.foldl_rel
    (r := fun (d : JournalDigest) (s : ExtTreeSet String) => id ∈ s ↔ d.runtimes[id]? = some true)
    ?_ fun event _ d resident h => ?_
  · simp
  simp only [apply, runtimesAfter, History.residentStep]
  cases event.payload.text "runtimeId" with
  | none => split_ifs <;> exact h
  | some runtimeId =>
    dsimp only
    split_ifs
    · rw [ExtTreeSet.mem_insert, ExtTreeMap.getElem?_insert]
      split_ifs with hid <;> simp [hid, h]
    · rw [ExtTreeSet.mem_erase, ExtTreeMap.getElem?_insert]
      split_ifs with hid <;> simp [hid, h]
    · exact h
    · exact h

lemma pendingPermissions_fromEvents (hi : List ConversationEvent) (id : String) :
    (History.pendingPermissions hi)[id]? = (fromEvents hi).permissions[id]?.join := by
  refine List.foldl_rel
    (r := fun (d : JournalDigest) (m : ExtTreeMap String PermissionContext) =>
      m[id]? = d.permissions[id]?.join) ?_ fun event _ d pending h => ?_
  · simp
  simp only [apply, permissionsAfter, History.pendingStep]
  cases event.payload.text "permissionId" with
  | none => exact h
  | some permissionId =>
    dsimp only
    split_ifs
    · rw [ExtTreeMap.getElem?_insert, ExtTreeMap.getElem?_insert]
      split_ifs <;> simp [h]
    · rw [ExtTreeMap.getElem?_erase, ExtTreeMap.getElem?_insert]
      split_ifs <;> simp [h]
    · exact h

lemma backgroundPendingAfter_eq (event : ConversationEvent) :
    backgroundPendingAfter event = if History.isBackgroundNotice event then some true
      else if History.settlesBackground event then some false else none := by
  simp only [backgroundPendingAfter, History.isBackgroundNotice, History.settlesBackground, decide_eq_true_eq]
  split_ifs <;> simp_all

lemma backgroundPending_fromEvents (hi : List ConversationEvent) :
    ((fromEvents hi).backgroundPending == some true) = History.backgroundPending hi := by
  induction hi using List.reverseRecOn with
  | nil => rfl
  | append_singleton hi event ih =>
    rw [fromEvents_concat]
    simp only [apply, backgroundPendingAfter_eq, History.backgroundPending, List.any_append,
      List.any_cons, List.any_nil, List.reverse_append, List.reverse_cons, List.reverse_nil,
      List.nil_append, List.singleton_append, List.takeWhile_cons] at ih ⊢
    by_cases hn : History.isBackgroundNotice event
    · simp [hn]
    · by_cases hs : History.settlesBackground event
      · simp [hn, hs]
      · simpa [hn, hs] using ih

lemma clientRequest_apply (d : JournalDigest) (event : ConversationEvent) (id : String) :
    (d.apply event).clientRequest id =
      if History.isMessageOf id event then clientRequestStep event (d.clientRequest id) else d.clientRequest id := by
  simp only [clientRequest, apply, clientRequestsAfter, History.isMessageOf, decide_eq_true_eq]
  by_cases ht : event.eventType = "message.created"
  · cases hid : event.payload.text "clientRequestId" with
    | none => simp [ht]
    | some requestId =>
      simp [ht, ExtTreeMap.getElem?_alter_eq_ite]
  · simp [ht]

lemma clientRequest_fromEvents (hi : List ConversationEvent) (id : String) :
    (fromEvents hi).clientRequest id = History.clientRequest hi id := by
  induction hi using List.reverseRecOn with
  | nil => rfl
  | append_singleton hi event ih =>
    rw [fromEvents_concat, clientRequest_apply, ih]
    simp only [History.clientRequest, List.find?_append, List.reverse_append, List.reverse_cons,
      List.reverse_nil, List.nil_append, List.singleton_append, List.find?_cons, List.find?_nil]
    by_cases h : History.isMessageOf id event
    · -- the newest message is this one; it is also the first if there was none before
      rcases hf : hi.find? (History.isMessageOf id) with _ | first
      · simp [h, clientRequestStep]
      · rcases hn : hi.reverse.find? (History.isMessageOf id) with _ | newest
        · have hno : hi.find? (History.isMessageOf id) = none := by simpa using hn
          simp [hno] at hf
        · simp [h, clientRequestStep]
    · simp [h]

lemma control_apply (d : JournalDigest) (event : ConversationEvent) (id : String) :
    ((d.apply event).control id).getD {} =
      { requested := ((d.control id).getD {}).requested.or
          (if History.isRequestOf id event then some event.sequence else none)
        outcome := (History.outcomeOf id event).or ((d.control id).getD {}).outcome } := by
  simp only [control, apply, controlsAfter, History.isRequestOf, History.outcomeOf, decide_eq_true_eq]
  cases hr : event.payload.text "requestId" with
  | none => simp
  | some requestId =>
    by_cases hid : requestId = id
    · subst hid
      rcases hold : d.controls[requestId]? with _ | ⟨_ | _, _⟩ <;>
        by_cases ht : event.eventType = "control.requested" <;>
        cases ControlOutcome.fromEventType event.eventType <;>
        simp [ht, hold, requestedStep, outcomeStep]
    · by_cases ht : event.eventType = "control.requested" <;>
        cases ControlOutcome.fromEventType event.eventType <;>
        simp [ht, ExtTreeMap.getElem?_alter_eq_ite, hid]

lemma control_fromEvents (hi : List ConversationEvent) (id : String) :
    ((fromEvents hi).control id).getD {} = History.control hi id := by
  induction hi using List.reverseRecOn with
  | nil => rfl
  | append_singleton hi event ih =>
    rw [fromEvents_concat, control_apply, ih]
    simp only [History.control, List.find?_append, List.reverse_append, List.reverse_cons,
      List.reverse_nil, List.nil_append, List.singleton_append, List.findSome?_cons, List.find?_cons, List.find?_nil]
    congr 1
    · by_cases h : History.isRequestOf id event <;>
        cases hi.find? (History.isRequestOf id) <;> simp [h]
    · cases History.outcomeOf id event <;> simp

lemma textControl_fromEvents (hi : List ConversationEvent) (id : String) :
    (fromEvents hi).textControl id = History.textControl hi id := by
  induction hi using List.reverseRecOn with
  | nil => rfl
  | append_singleton hi event ih =>
    rw [fromEvents_concat]
    simp only [textControl, History.textControl, apply, textControlsAfter, List.find?_append,
      List.find?_cons, List.find?_nil] at ih ⊢
    by_cases ht : event.eventType = "control.requested"
    · cases hid : deliveredText event.payload with
      | none => simp [ht, ih]
      | some textId =>
        by_cases h : textId = id <;>
          simp [ht, ExtTreeMap.getElem?_alter_eq_ite, h, ih]
    · simp [ht, ih]

lemma lastUserMessage_fromEvents (hi : List ConversationEvent) :
    (fromEvents hi).lastUserMessage = History.lastUserMessage hi := by
  induction hi using List.reverseRecOn with
  | nil => rfl
  | append_singleton hi event ih =>
    rw [fromEvents_concat]
    simp only [History.lastUserMessage, apply, lastUserMessageAfter, ih, List.reverse_append,
      List.reverse_cons, List.reverse_nil, List.nil_append, List.singleton_append, List.find?_cons]
    split_ifs with h <;> simp [h]

lemma and_twoPow_bne_zero (mask : BitVec 8) (hb : bit < 8) :
    (mask &&& BitVec.twoPow 8 bit != 0) = mask.getLsbD bit := by
  have hne : BitVec.twoPow 8 bit ≠ 0 := by interval_cases bit <;> decide
  rw [BitVec.and_twoPow]
  split_ifs with h <;> simp_all

/-- Whether bit `bit` is set for the turn. -/
def terminalBit (self : JournalDigest) (turnId : String) (bit : Nat) : Bool :=
  self.turnTerminals[turnId]?.any (·.getLsbD bit)

lemma terminalBit_apply (d : JournalDigest) (event : ConversationEvent) (turnId : String) (hbi : bit < 8) :
    (d.apply event).terminalBit turnId bit =
      (d.terminalBit turnId bit || decide (turnTerminalEvents.idxOf? event.eventType = some bit ∧
          event.payload.text "turnId" = some turnId)) := by
  simp only [terminalBit, apply, turnTerminalsAfter]
  cases turnTerminalEvents.idxOf? event.eventType with
  | none => simp
  | some bit' =>
    cases event.payload.text "turnId" with
    | none => simp
    | some tid' =>
      by_cases hid : tid' = turnId
      · subst hid
        have hls (m : BitVec 8) : (m ||| BitVec.twoPow 8 bit').getLsbD bit =
            (m.getLsbD bit || decide (bit' = bit)) := by
          by_cases hb : bit' = bit
          · simp [hb, hbi]
          · simp [BitVec.getLsbD_twoPow, hb]
        have hl := hls 0
        cases hold : d.turnTerminals[tid']? <;> simp_all
      · simp [ExtTreeMap.getElem?_alter_eq_ite, hid]

lemma hasTurnTerminal_fromEvents (hi : List ConversationEvent) (turnId eventType : String) :
    (fromEvents hi).hasTurnTerminal turnId eventType =
      if eventType ∈ turnTerminalEvents then some (History.hasTurnEvent hi turnId eventType) else none := by
  rcases hid : turnTerminalEvents.idxOf? eventType with _ | bit
  · simp [hasTurnTerminal, hid, List.idxOf?_eq_none_iff.mp hid]
  · obtain ⟨hlt, hg, -⟩ := List.idxOf?_eq_some_iff.mp hid
    have hbi : bit < 8 := hlt.trans (by decide)
    have ht (t : String) : turnTerminalEvents.idxOf? t = some bit ↔ t = eventType := by
      constructor
      · intro h
        obtain ⟨_, hg', -⟩ := List.idxOf?_eq_some_iff.mp h
        rw [← hg, ← hg']
      · rintro rfl
        exact hid
    have hb : (fromEvents hi).terminalBit turnId bit =
        History.hasTurnEvent hi turnId eventType := by
      induction hi using List.reverseRecOn with
      | nil => rfl
      | append_singleton hi event ih =>
        rw [fromEvents_concat, terminalBit_apply _ _ _ hbi, ih]
        simp [History.hasTurnEvent, ht]
    rw [if_pos (hg ▸ List.getElem_mem hlt), hasTurnTerminal, hid, Option.map_some, ← hb]
    simp only [and_twoPow_bne_zero _ hbi, terminalBit]

/-- The digest of a history answers every question of recovery and deduplication as the scan of
the whole history does. -/
theorem fromEvents_eq_scans (history : List ConversationEvent) :
    (fromEvents history).recovery =
        { status := History.status .idle history
          openTurn := History.openTurn history
          residentRuntimes := (History.residentRuntimes history).toList
          pendingPermissions := (History.pendingPermissions history).toList
          backgroundPending := History.backgroundPending history } ∧
      (∀ start, (fromEvents history).statusFrom start = History.status start history) ∧
      (∀ id, (fromEvents history).clientRequest id = History.clientRequest history id) ∧
      (∀ id, ((fromEvents history).control id).getD {} = History.control history id) ∧
      (∀ turnId eventType, (fromEvents history).hasTurnTerminal turnId eventType =
        if eventType ∈ turnTerminalEvents then
          some (History.hasTurnEvent history turnId eventType)
        else none) ∧
      (∀ id, (fromEvents history).textControl id = History.textControl history id) ∧
      (fromEvents history).lastUserMessage = History.lastUserMessage history := by
  refine ⟨?_, statusFrom_fromEvents history, clientRequest_fromEvents history,
    control_fromEvents history, hasTurnTerminal_fromEvents history, textControl_fromEvents history,
    lastUserMessage_fromEvents history⟩
  simp only [recovery, statusFrom_fromEvents, openTurn_fromEvents, backgroundPending_fromEvents,
    ExtTreeMap.map_filter_toList (residentRuntimes_fromEvents history),
    ExtTreeMap.filterMap_toList (pendingPermissions_fromEvents history)]

end JournalDigest

end Todex
