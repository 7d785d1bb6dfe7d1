import Todex.DevicePairing.Registry

/-!
# The parties of device pairing

Clients create, reveal, poll and cancel requests, local processes decide them, transport keys are
replaced and time goes on, in any order. The lock of the registry orders the calls. The decisions and
the transport keys are files, which other processes write without it.
-/

namespace Todex

/-! ### States and steps -/

/-- A poll that has removed its request and holds the lock. -/
structure HeldPoll where
  requestId : String
  proof : Key32
  request : PendingRequest
  /-- The transport keys were compared. -/
  compared : Bool
deriving DecidableEq

def HeldPoll.registration (self : HeldPoll) (now : Nat) (keys : Option PairingKeys) : Registration where
  requestId := self.requestId
  proof := self.proof
  deviceName := self.request.deviceName
  devicePublicKey := self.request.devicePublicKey
  now
  keys

structure PairingState where
  /-- The monotonic clock, in nanoseconds. -/
  now : Nat
  unixMs : Nat
  /-- `pairing_keys.json`. -/
  keys : Option PairingKeys
  registry : PairingRegistry
  held : Option HeldPoll
  /-- Calls of `create_from` that wait for the lock. -/
  creating : Nat → Option NewRequest
  /-- Local processes that have read the summary of a request to decide. -/
  deciding : Nat → Option (String × Bool)

/-- `decide_device_pairing` publishes a decision. -/
def PairingRegistry.recordDecision (self : PairingRegistry) (id : String) (approved : Bool) :
    PairingRegistry :=
  { self with
    directory := { self.directory with
      decisions := Function.update self.directory.decisions id (some { requestId := id, approved }) }
    log := .decided id approved :: self.log }

namespace PairingState

def initial (now unixMs : Nat) (keys : Option PairingKeys) : PairingState where
  now
  unixMs
  keys
  registry := {
    requests := []
    creates := .new (60 * pairingSecond)
    lookups := .new pairingSecond
    directory := { summaries := fun _ => none, decisions := fun _ => none }
    log := [] }
  held := none
  creating := fun _ => none
  deciding := fun _ => none

/-- The clocks of a call are those of the state. -/
def At (self : PairingState) (io : PairingIo) : Prop := io.now = self.now ∧ io.unixMs = self.unixMs

def setRegistry (self : PairingState) (registry : PairingRegistry) : PairingState :=
  { self with registry }

def note (self : PairingState) (event : PairingEvent) : PairingState :=
  self.setRegistry { self.registry with log := event :: self.registry.log }

/-- The state after the first part of `poll`. -/
def polled (self : PairingState) (requestId : String) :
    Except PairingError PollOutcome × PairingRegistry → PairingState
  | (.ok (.taken proof request), registry) =>
    { self.setRegistry registry with held := some { requestId, proof, request, compared := false } }
  | (_, registry) => self.setRegistry registry

/-- `poll` compares the transport keys. -/
def compare (self : PairingState) (config : PairingConfig) (held : HeldPoll) : PairingState :=
  if config.transportBinding self.keys = .ok held.request.transport then
    { self with held := some { held with compared := true } }
  else { self with held := none }

/-- `poll` registers the device and answers. -/
def register (self : PairingState) (P : PairingPrimitives) (held : HeldPoll) (nonce : Bytes)
    (result : Except PairingError Unit) : PairingState :=
  let registered := { self with held := none }.note
    (.registering (held.registration self.now self.keys))
  match result, P.credential held.request nonce with
  | .ok (), .ok _ => registered.note (.delivered held.requestId)
  | _, _ => registered

/-- The daemon stops and starts again. -/
def restart (self : PairingState) (directory : PairingDirectory) : PairingState :=
  { self with
    registry := {
      requests := []
      creates := .new (60 * pairingSecond)
      lookups := .new pairingSecond
      directory
      log := self.registry.log }
    held := none
    creating := fun _ => none }

end PairingState

/-- One call under the lock, one access to a file outside of it, or a step of a clock. -/
inductive PairingStep (P : PairingPrimitives) (config : PairingConfig) :
    PairingState → PairingState → Prop
  | tick {s : PairingState} {later : Nat} : s.now ≤ later →
      PairingStep P config s { s with now := later }
  | setClock {s : PairingState} (unixMs : Nat) : PairingStep P config s { s with unixMs }
  | replaceKeys {s : PairingState} (keys : Option PairingKeys) :
      PairingStep P config s { s with keys }
  /-- The order in which requests are gone through is not fixed. -/
  | reorder {s : PairingState} {requests : List (String × PendingRequest)} :
      requests.Perm s.registry.requests →
      PairingStep P config s (s.setRegistry { s.registry with requests })
  | create {s : PairingState} (process : Nat) (peer : PairingPeer) (arrival : PairingArrival)
      (request : CreatePairingRequest) : PairingStep P config s { s with
        creating := Function.update s.creating process
          (P.checkCreate config s.keys peer arrival request).toOption }
  /-- The id of a request is new. -/
  | insert {s : PairingState} {io : PairingIo} {process : Nat} {new : NewRequest} {id : String}
      (serverSecret : Key32) : s.held = none → s.At io → s.creating process = some new →
      (∀ event ∈ s.registry.log, event.requestId ≠ id) →
      PairingStep P config s
        { s.setRegistry (P.insertRequest io new serverSecret id s.registry).2 with
          creating := Function.update s.creating process none }
  | reveal {s : PairingState} {io : PairingIo} (request : RevealPairingRequest) :
      s.held = none → s.At io →
      PairingStep P config s (s.setRegistry (P.reveal io request s.registry).2)
  | poll {s : PairingState} {io : PairingIo} (request : PairingProofRequest) :
      s.held = none → s.At io →
      PairingStep P config s (s.polled request.requestId (P.poll io request s.registry))
  | compare {s : PairingState} {held : HeldPoll} : s.held = some held → held.compared = false →
      PairingStep P config s (s.compare config held)
  /-- The device registry answers. -/
  | register {s : PairingState} {held : HeldPoll} (nonce : Bytes)
      (result : Except PairingError Unit) : s.held = some held → held.compared = true →
      PairingStep P config s (s.register P held nonce result)
  | cancel {s : PairingState} {io : PairingIo} (request : PairingProofRequest) :
      s.held = none → s.At io →
      PairingStep P config s (s.setRegistry (P.cancel io request s.registry).2)
  /-- `decide_device_pairing` reads the summary of a request. -/
  | readSummary {s : PairingState} {id : String} {summary : PairingSummary} (process : Nat)
      (approved : Bool) : validateId id = .ok () → s.registry.directory.summaries id = some summary →
      summary.requestId = id → s.unixMs < summary.expiresAt →
      PairingStep P config s { s with
        deciding := Function.update s.deciding process (some (id, approved)) }
  /-- It publishes the decision, unless there is one. -/
  | recordDecision {s : PairingState} {process : Nat} {id : String} {approved : Bool} :
      s.deciding process = some (id, approved) → s.registry.directory.decisions id = none →
      PairingStep P config s { s.setRegistry (s.registry.recordDecision id approved) with
        deciding := Function.update s.deciding process none }
  /-- It fails, or there is a decision. -/
  | failDecision {s : PairingState} (process : Nat) : PairingStep P config s
      { s with deciding := Function.update s.deciding process none }
  | restart {s : PairingState} {directory : PairingDirectory} :
      (∀ id, directory.summaries id = s.registry.directory.summaries id ∨
        directory.summaries id = none) →
      (∀ id, directory.decisions id = s.registry.directory.decisions id ∨
        directory.decisions id = none) →
      PairingStep P config s (s.restart directory)

/-- The states that are reached by steps that meet a condition. -/
inductive PairingRun (P : PairingPrimitives) (config : PairingConfig)
    (Meets : PairingState → PairingState → Prop) : PairingState → Prop
  | start (now unixMs : Nat) (keys : Option PairingKeys) :
      PairingRun P config Meets (.initial now unixMs keys)
  | step {s s' : PairingState} : PairingRun P config Meets s → PairingStep P config s s' →
      Meets s s' → PairingRun P config Meets s'

/-! ### Enrolments -/

/-- The decisions that local processes recorded for a request. -/
def decisionsOf (log : List PairingEvent) (id : String) : List Bool :=
  log.filterMap fun
    | .decided requestId approved => if requestId = id then some approved else none
    | _ => none

/-- The requests that have delivered a credential. -/
def deliveries (log : List PairingEvent) : List String :=
  log.filterMap fun
    | .delivered requestId => some requestId
    | _ => none

/-- The revealed values open the commitment of the request, and the material is derived from them. -/
def PairingPrimitives.Opens (P : PairingPrimitives) (id : String) (request : PendingRequest)
    (clientPublic clientNonce : Key32) (material : PairingMaterial) : Prop :=
  ∃ serverSecret commitment revealBy, request.stage = .committed serverSecret commitment revealBy ∧
    P.commitment clientPublic clientNonce = commitment.val ∧
    P.derive id (PairingPrimitives.transcript request clientPublic clientNonce)
      (P.diffieHellman serverSecret clientPublic) = .ok material

/-- A registration that a request has earned, by what happened before. -/
structure Earned (P : PairingPrimitives) (config : PairingConfig) (before : List PairingEvent)
    (registration : Registration) (request : PendingRequest) (clientPublic clientNonce : Key32)
    (material : PairingMaterial) : Prop where
  created : .created registration.requestId request ∈ before
  opens : P.Opens registration.requestId request clientPublic clientNonce material
  shown : .revealed registration.requestId clientPublic clientNonce
    (P.summary registration.requestId request material) ∈ before
  proof_eq : material.pollProof = registration.proof.val
  /-- There is one local decision, and it approves. -/
  approved : decisionsOf before registration.requestId = [true]
  cancelled : .cancelled registration.requestId ∉ before
  unexpired : registration.now < request.expires
  current : config.transportBinding registration.keys = .ok request.transport
  name_eq : registration.deviceName = request.deviceName
  key_eq : registration.devicePublicKey = request.devicePublicKey
  /-- The code that was shown is that of the transcript. -/
  code_eq : material.verificationCode = verificationCode (P.primitives.sha256
    ((PairingPrimitives.transcript request clientPublic clientNonce).bytes registration.requestId))
  /-- A transcript with the same digest has the registered key and name. -/
  bound : ∀ other : Transcript,
    P.primitives.sha256 (other.bytes registration.requestId) = P.primitives.sha256
      ((PairingPrimitives.transcript request clientPublic clientNonce).bytes registration.requestId) →
    other.devicePublic = registration.devicePublicKey ∧ other.deviceName = registration.deviceName ∨
      P.Collision (other.bytes registration.requestId)
        ((PairingPrimitives.transcript request clientPublic clientNonce).bytes registration.requestId)

/-- Every registration was earned, and every request delivered at most one credential. -/
structure Enrolments (P : PairingPrimitives) (config : PairingConfig) (log : List PairingEvent) :
    Prop where
  earned : ∀ registration before, .registering registration :: before <:+ log →
    ∃ request clientPublic clientNonce material,
      Earned P config before registration request clientPublic clientNonce material
  once : (deliveries log).Nodup

/-- No decision is recorded once the registry has taken one, and neither the transport keys change nor
the time of the request runs out between the checks of a poll and its registration. -/
structure PairingUndisturbed (s s' : PairingState) : Prop where
  decision : ∀ id approved, s'.registry.log = .decided id approved :: s.registry.log →
    (∀ request, (id, request) ∈ s.registry.requests → request.status = .pending) ∧
      ∀ held ∈ s.held, held.requestId ≠ id
  keys : ∀ held ∈ s.held, held.compared = true → s'.keys = s.keys
  time : ∀ held ∈ s.held, s'.now < held.request.expires

end Todex
