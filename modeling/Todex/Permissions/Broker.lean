import Todex.Permissions.Decision

/-!
# The permission broker

A provider asks for a permission and waits for a decision. The request is journalled, put to the standing policy
of the owner, and then left to the clients of the conversation, until somebody decides, the turn is cancelled or
the time is up. A call of `request` is named by the permission id that it draws, which is a new one.
-/

namespace Todex

/-- A decision and who sent it: the answering device, or the principal of the policy. -/
abbrev PermissionAnswer := PermissionDecision × String

/-- What a provider asks. -/
structure NewPermission where
  conversationId : String
  providerRequestId : String
  kind : String
  title : String
  details : Json
  options : Json
  allowedDevices : Option (List String)

/-- `PendingPermission`, but for the sender. -/
structure PendingPermission where
  conversationId : String
  kind : String
  details : Json
  options : Json
  allowedDevices : Option (List String)

/-- The request with its options in the normal form. -/
def NewPermission.pending (self : NewPermission) (options : Json) : PendingPermission where
  conversationId := self.conversationId
  kind := self.kind
  details := self.details
  options := options
  allowedDevices := self.allowedDevices

/-! ### Events -/

/-- An event of the journal that is about a permission. -/
inductive PermissionEvent
  | requested (permissionId : String) (payload : Json)
  | resolved (permissionId : String) (payload : Json)

def PermissionEvent.permissionId : PermissionEvent → String
  | requested permissionId _ => permissionId
  | resolved permissionId _ => permissionId

/-- The payload of `permission.requested`. -/
def requestedPayload (permissionId : String) (new : NewPermission) (options : Json) : Json :=
  .object (Json.Members.ofList ([("permissionId", .string permissionId),
    ("providerRequestId", .string new.providerRequestId), ("kind", .string new.kind), ("title", .string new.title),
    ("details", new.details), ("options", options)] ++
    new.allowedDevices.toList.map fun devices => ("allowedDeviceIds", .array (devices.map .string))))

/-- The payload of `permission.resolved`; without an answer the request is cancelled. -/
def resolvedPayload (permissionId : String) (answer : Option PermissionAnswer) : Json :=
  .object (Json.Members.ofList [("permissionId", .string permissionId),
    ("outcome", .string (answer.elim "cancelled" (·.1.outcome.asStr))),
    ("optionId", ((answer.bind (·.1.optionId)).map Json.string).getD .null)])

/-! ### Calls -/

/-- How far a call of `request` is. -/
inductive PermissionStage
  /-- `permission.requested` is appended. -/
  | announcing
  /-- The policy is asked. -/
  | consulting
  /-- It waits for the decision. -/
  | waiting
  /-- `permission.resolved` is appended. -/
  | closing (answer : Option PermissionAnswer)
  | returned
  /-- The task was aborted. -/
  | dropped

/-- The receiver is there. -/
def PermissionStage.listens : PermissionStage → Bool
  | announcing => true
  | consulting => true
  | waiting => true
  | _ => false

/-- The call has not ended. -/
def PermissionStage.isOpen : PermissionStage → Bool
  | returned => false
  | dropped => false
  | _ => true

structure PermissionCall where
  new : NewPermission
  pending : PendingPermission
  stage : PermissionStage
  /-- What the channel holds. -/
  received : Option PermissionAnswer

/-- A call of `resolve` that succeeded. -/
structure ResolvedPermission where
  conversationId : String
  permissionId : String
  deviceId : String
  decision : PermissionDecision

/-- An answer of the standing policy. -/
structure PolicyAnswer where
  permissionId : String
  conversationId : String
  options : Json
  deviceBound : Bool
  answer : PermissionAnswer

/-- A call of `request` that returned. -/
structure ReturnedPermission where
  permissionId : String
  new : NewPermission
  answer : Option PermissionAnswer
  /-- Some append of the call failed. -/
  appendFailed : Bool

/-- The broker, the calls and the journal, with what has happened. -/
structure BrokerState where
  pending : String → Option PendingPermission
  calls : String → Option PermissionCall
  journal : List PermissionEvent
  resolves : List ResolvedPermission
  policyAnswers : List PolicyAnswer
  returns : List ReturnedPermission

namespace BrokerState

def empty : BrokerState where
  pending _ := none
  calls _ := none
  journal := []
  resolves := []
  policyAnswers := []
  returns := []

variable (self : BrokerState)

def removePending (permissionId : String) : BrokerState :=
  { self with pending := Function.update self.pending permissionId none }

def setCall (permissionId : String) (call : PermissionCall) : BrokerState :=
  { self with calls := Function.update self.calls permissionId (some call) }

def append (event : PermissionEvent) : BrokerState := { self with journal := self.journal ++ [event] }

/-- An append that failed may have reached the journal all the same. -/
def appendIf (kept : Bool) (event : PermissionEvent) : BrokerState := if kept then self.append event else self

/-- The call returns; its entry is cleaned up. -/
def finish (permissionId : String) (call : PermissionCall) (answer : Option PermissionAnswer) (appendFailed : Bool) :
    BrokerState :=
  let s := (self.setCall permissionId { call with stage := .returned }).removePending permissionId
  { s with returns := s.returns ++ [{ permissionId, new := call.new, answer, appendFailed }] }

/-- The start of `PermissionBroker::request`. -/
def request (permissionId : String) (new : NewPermission) : BrokerState :=
  match normalizePermissionOptions new.options with
  | .error _ =>
    { self with
      calls := Function.update self.calls permissionId
        (some { new, pending := new.pending .null, stage := .returned, received := none })
      returns := self.returns ++ [{ permissionId, new, answer := none, appendFailed := false }] }
  | .ok options =>
    { self with
      pending := Function.update self.pending permissionId (some (new.pending options))
      calls := Function.update self.calls permissionId
        (some { new, pending := new.pending options, stage := .announcing, received := none }) }

/-- A sent answer reaches the channel if the receiver is there. -/
def send (permissionId : String) (answer : PermissionAnswer) : Option BrokerState := do
  let call ← self.calls permissionId
  guard call.stage.listens
  return self.setCall permissionId { call with received := some answer }

def logPolicy (answer : PolicyAnswer) : BrokerState :=
  { self with policyAnswers := self.policyAnswers ++ [answer] }

def logResolve (resolved : ResolvedPermission) : BrokerState :=
  { self with resolves := self.resolves ++ [resolved] }

/-- The answer of the policy is sent if nobody has decided. -/
def decide (permissionId : String) (call : PermissionCall) (answer : PermissionAnswer) : BrokerState :=
  match self.pending permissionId with
  | none => self
  | some pending =>
    let s := (self.removePending permissionId).logPolicy {
      permissionId, conversationId := call.new.conversationId, options := pending.options,
      deviceBound := call.new.allowedDevices.isSome, answer }
    (s.send permissionId answer).getD s

end BrokerState

/-- The checks of `PermissionBroker::resolve`. -/
def PendingPermission.check (N : JsonNumbers) (self : PendingPermission) (conversationId deviceId : String)
    (decision : PermissionDecision) : Except AppError Unit := do
  .require (self.conversationId = conversationId) (.other "permission belongs to another conversation")
  .require (∀ allowed ∈ self.allowedDevices, deviceId ∈ allowed)
    (.other "this request must be answered on the device it names")
  validatePermissionDecision N self.kind self.details self.options decision

/-- `PermissionBroker::resolve`. -/
def BrokerState.resolve (N : JsonNumbers) (self : BrokerState) (conversationId permissionId deviceId : String)
    (decision : PermissionDecision) : Except AppError Unit × BrokerState :=
  match self.pending permissionId with
  | none => (.error (.notFound s!"pending permission {permissionId}"), self)
  | some pending =>
    match pending.check N conversationId deviceId decision with
    | .error e => (.error e, self)
    | .ok () =>
      let s := self.removePending permissionId
      match s.send permissionId (decision, deviceId) with
      | none => (.error (.conflict "permission request is no longer active"), s)
      | some s => (.ok (), s.logResolve { conversationId, permissionId, deviceId, decision })

/-! ### Steps -/

/-- What may happen next. -/
inductive BrokerStep (N : JsonNumbers) (s : BrokerState) : BrokerState → Prop
  | request (permissionId : String) (new : NewPermission) (hfresh : s.calls permissionId = none) :
      BrokerStep N s (s.request permissionId new)
  /-- `permission.requested` is in the journal. -/
  | announced (permissionId : String) {call : PermissionCall} (hcall : s.calls permissionId = some call)
      (hstage : call.stage = .announcing) :
      BrokerStep N s ((s.setCall permissionId { call with stage := .consulting }).append
        (.requested permissionId (requestedPayload permissionId call.new call.pending.options)))
  | announceFailed (permissionId : String) {call : PermissionCall} (hcall : s.calls permissionId = some call)
      (hstage : call.stage = .announcing) (kept : Bool) :
      BrokerStep N s ((s.finish permissionId call none true).appendIf kept
        (.requested permissionId (requestedPayload permissionId call.new call.pending.options)))
  /-- There is no policy, or it leaves the request to the clients. -/
  | undecided (permissionId : String) {call : PermissionCall} (hcall : s.calls permissionId = some call)
      (hstage : call.stage = .consulting) :
      BrokerStep N s (s.setCall permissionId { call with stage := .waiting })
  | decided (permissionId : String) {call : PermissionCall} (hcall : s.calls permissionId = some call)
      (hstage : call.stage = .consulting) (answer : PermissionAnswer) :
      BrokerStep N s ((s.setCall permissionId { call with stage := .waiting }).decide permissionId
        { call with stage := .waiting } answer)
  | resolve (conversationId permissionId deviceId : String) (decision : PermissionDecision) :
      BrokerStep N s (s.resolve N conversationId permissionId deviceId decision).2
  | received (permissionId : String) {call : PermissionCall} {answer : PermissionAnswer}
      (hcall : s.calls permissionId = some call) (hstage : call.stage = .waiting)
      (hreceived : call.received = some answer) :
      BrokerStep N s (s.setCall permissionId { call with stage := .closing (some answer) })
  /-- The sender is gone, the time is up, or the turn is cancelled; a turn may be cancelled although an answer
  is there. -/
  | cancelled (permissionId : String) {call : PermissionCall} (hcall : s.calls permissionId = some call)
      (hstage : call.stage = .waiting) :
      BrokerStep N s (s.setCall permissionId { call with stage := .closing none })
  /-- `permission.resolved` is in the journal. -/
  | closed (permissionId : String) {call : PermissionCall} {answer : Option PermissionAnswer}
      (hcall : s.calls permissionId = some call) (hstage : call.stage = .closing answer) :
      BrokerStep N s ((s.finish permissionId call answer false).append
        (.resolved permissionId (resolvedPayload permissionId answer)))
  | closeFailed (permissionId : String) {call : PermissionCall} {answer : Option PermissionAnswer}
      (hcall : s.calls permissionId = some call) (hstage : call.stage = .closing answer) (kept : Bool) :
      BrokerStep N s ((s.finish permissionId call none true).appendIf kept
        (.resolved permissionId (resolvedPayload permissionId answer)))
  /-- The task of the call is aborted. -/
  | dropped (permissionId : String) {call : PermissionCall} (hcall : s.calls permissionId = some call)
      (hstage : call.stage.isOpen) :
      BrokerStep N s ((s.setCall permissionId { call with stage := .dropped }).removePending permissionId)
  /-- `PermissionBroker::expire_all`. -/
  | expireAll : BrokerStep N s { s with pending := fun _ => none }

/-- Steps one after the other, from an empty broker. -/
inductive BrokerRun (N : JsonNumbers) : BrokerState → Prop
  | start : BrokerRun N .empty
  | step {s t : BrokerState} (run : BrokerRun N s) (h : BrokerStep N s t) : BrokerRun N t

end Todex
