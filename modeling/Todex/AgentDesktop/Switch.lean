import Todex.AgentDesktop.Screen
import Todex.Lib.Update

/-!
# Computer Use and its switches

A `computer_*` call looks at the switches once, when it arrives. It may then wait for the person at the
host to give the conversation its grant. Turning a switch off revokes the grants that there are at that
time; it does not reach a call that waits for one.
-/

namespace Todex

/-! ### Requests -/

structure DesktopSettings where
  enabled : Bool
  computerEnabled : Bool
deriving DecidableEq, Repr

/-- Computer Use is on: both switches. -/
def DesktopSettings.computerOn (self : DesktopSettings) : Bool :=
  self.enabled && self.computerEnabled

inductive HostAnswer
  | allowed
  | declined
  /-- Nobody can be asked on this computer. -/
  | nobody
  /-- Asking failed. -/
  | failed
deriving DecidableEq, Repr

/-- Only an answer of the person at the host is kept for the next ask. -/
def HostAnswer.isDecision (self : HostAnswer) : Bool :=
  self = .allowed ∨ self = .declined

/-- An answer, and how often Computer Use had been turned on or off when it was given. -/
structure GivenAnswer where
  answer : HostAnswer
  era : Nat
deriving DecidableEq, Repr

/-- An answer that came after every caller gave up counts for this long, in nanoseconds. -/
def lateAnswerTtl : Nat := 60 * 1000000000

def maxAttempts : Nat := 5

/-- How far the daemon is with a request. -/
inductive RequestStage
  | idle
  /-- A call passed the check of the switches, and what its permission mode asks. -/
  | prechecked (conversationId : String)
  /-- It saw no grant and waits for its turn to ask. -/
  | queued (conversationId : String)
  | asking (conversationId : String)
  /-- It waits for the answer to the dialog on the host. -/
  | waiting (conversationId : String)
  | answered (conversationId : String) (given : GivenAnswer)
  | granted (conversationId : String)
  /-- Before an attempt under its lease. -/
  | claimed (conversationId : String) (use : ScreenUse) (attempt : Nat)
  /-- It saw that it holds the lease. -/
  | held (conversationId : String) (use : ScreenUse) (attempt : Nat)
  /-- It saw that the lease has not ended, and starts the work. -/
  | unended (conversationId : String) (use : ScreenUse) (attempt : Nat)
  | working (conversationId : String) (use : ScreenUse) (attempt : Nat)
  /-- It asks whether it may control an app, or go on with this action only. -/
  | confirming (conversationId : String) (use : ScreenUse) (attempt : Nat) (app : Option String)
  | approving (conversationId : String) (use : ScreenUse) (attempt : Nat) (bundleId : String)
  /-- An update of the settings that left a switch off. -/
  | wrote
  /-- Conversations to revoke, the one that is being revoked and those that lost a grant. -/
  | revoking (current : Option String) (todo revoked : List String) (off : Bool)
  /-- The kept answers of these conversations are voided. -/
  | forgetting (conversations : List String)
  | finished
deriving DecidableEq

inductive SwitchEvent
  /-- A request left both switches on. -/
  | bothOn
  /-- A request left a switch off. -/
  | turnedOff (request : Nat)
  | returnedOff (request : Nat)
  /-- The person at the host allows Computer Use for a conversation. -/
  | allowed (conversationId : String)
  /-- A call records the grant that an answer gave. -/
  | recorded (conversationId : String) (given : GivenAnswer)
  /-- An observe or act is started on the host. -/
  | started (conversationId : String) (use : ScreenUse)
deriving DecidableEq

/-- The daemon, its requests and the person at the host. -/
structure SwitchState where
  settings : DesktopSettings
  desktop : Desktop
  stage : Nat → RequestStage
  /-- Which request asks for a conversation's grant. -/
  asker : String → Option Nat
  /-- The grant dialogs on the host. -/
  dialogs : String → Bool
  /-- Answers that were given and have not reached anyone yet. -/
  pending : List (String × GivenAnswer)
  lateAnswers : String → Option (Nat × GivenAnswer)
  /-- How often Computer Use has been turned on or off. -/
  era : Nat
  /-- Newest first. -/
  log : List SwitchEvent

namespace SwitchState

/-- A daemon that starts with the settings that it finds. -/
def boot (settings : DesktopSettings) (now : Nat) : SwitchState where
  settings
  desktop := .load now
  stage := fun _ => .idle
  asker := fun _ => none
  dialogs := fun _ => false
  pending := []
  lateAnswers := fun _ => none
  era := 0
  log := []

variable (self : SwitchState)

/-- A request goes on. -/
def put (request : Nat) (stage : RequestStage) : SwitchState :=
  { self with
    stage := Function.update self.stage request stage }

/-- A request goes on with what it did to the desktop. -/
def move (request : Nat) (stage : RequestStage) (desktop : Desktop) : SwitchState :=
  { self.put request stage with
    desktop }

def note (event : SwitchEvent) : SwitchState :=
  { self with
    log := event :: self.log }

def setAsker (conversationId : String) (request : Option Nat) : SwitchState :=
  { self with
    asker := Function.update self.asker conversationId request }

/-- A kept answer is used, or voided. -/
def forgetHostAnswers (conversationId : String) : SwitchState :=
  { self with
    lateAnswers := Function.update self.lateAnswers conversationId none }

/-- The grant dialog is on the host's screen. -/
def showHostDialog (conversationId : String) : SwitchState :=
  { self with
    dialogs := Function.update self.dialogs conversationId true }

/-- The dialog is closed with an answer. -/
def answerDialog (conversationId : String) (answer : HostAnswer) : SwitchState :=
  let answered : SwitchState := { self with
    dialogs := Function.update self.dialogs conversationId false
    pending := (conversationId, { answer, era := self.era }) :: self.pending }
  if answer = .allowed then answered.note (.allowed conversationId) else answered

def keepAnswer (conversationId : String) (given : GivenAnswer) : SwitchState :=
  { self with
    lateAnswers :=
      Function.update self.lateAnswers conversationId (some (self.desktop.now, given)) }

def takePending (conversationId : String) (given : GivenAnswer) : SwitchState :=
  { self with
    pending := self.pending.erase (conversationId, given) }

/-- A kept answer that still counts. -/
def lateAnswer (conversationId : String) : Option GivenAnswer :=
  ((self.lateAnswers conversationId).filter fun late =>
    self.desktop.now - late.1 < lateAnswerTtl).map (·.2)

/-- The settings after an update. -/
def nextSettings (enabled computerEnabled : Option Bool) : DesktopSettings where
  enabled := enabled.getD self.settings.enabled
  computerEnabled := computerEnabled.getD self.settings.computerEnabled

/-- The settings are written, and whether Computer Use is on may change with them. -/
def writeSettings (next : DesktopSettings) : SwitchState :=
  { self with
    settings := next
    era := if next.computerOn = self.settings.computerOn then self.era else self.era + 1 }

end SwitchState

/-- What nobody needs a request of the tools for: time passes, leases end. -/
def DesktopAction.isBackground : DesktopAction → Bool
  | .tick _ => true
  | .release _ _ => true
  | .expire => true
  | _ => false

/-- The use of the lease that a request has. -/
def RequestStage.use? : RequestStage → Option ScreenUse
  | claimed _ use _ => some use
  | held _ use _ => some use
  | unended _ use _ => some use
  | working _ use _ => some use
  | confirming _ use _ _ => some use
  | _ => none

/-- A call that has not claimed the screen, and its conversation. -/
def RequestStage.beforeClaim? : RequestStage → Option String
  | prechecked c => some c
  | queued c => some c
  | asking c => some c
  | waiting c => some c
  | answered c _ => some c
  | granted c => some c
  | _ => none

open SwitchState in
/-- One step of a request, of the person at the host or of the background. -/
inductive SwitchStep : SwitchState → SwitchState → Prop
  | background {s : SwitchState} {action : DesktopAction} {d : Desktop}
      (step : DesktopStep action s.desktop d) (background : action.isBackground = true) :
      SwitchStep s { s with desktop := d }
  /-- `precheck` lets a call in while both switches are on. -/
  | precheck {s : SwitchState} (p : Nat) (c : String) (idle : s.stage p = .idle)
      (on : s.settings.computerOn = true) : SwitchStep s (s.put p (.prechecked c))
  /-- `ensure_computer_grant` finds the grant. -/
  | useGrant {s : SwitchState} (p : Nat) (c : String) (at_ : s.stage p = .prechecked c)
      (grant : (s.desktop.computerGrants c).isSome) : SwitchStep s (s.put p (.granted c))
  | queue {s : SwitchState} (p : Nat) (c : String) (at_ : s.stage p = .prechecked c)
      (none : s.desktop.computerGrants c = none) : SwitchStep s (s.put p (.queued c))
  | serialize {s : SwitchState} (p : Nat) (c : String) (at_ : s.stage p = .queued c)
      (free : s.asker c = none) : SwitchStep s ((s.put p (.asking c)).setAsker c (some p))
  /-- Another call has asked in the meantime. -/
  | recheckGrant {s : SwitchState} (p : Nat) (c : String) (at_ : s.stage p = .asking c)
      (grant : (s.desktop.computerGrants c).isSome) :
      SwitchStep s ((s.put p (.granted c)).setAsker c none)
  /-- `ask_host` uses an answer that came late. -/
  | useLate {s : SwitchState} (p : Nat) (c : String) (given : GivenAnswer)
      (at_ : s.stage p = .asking c) (late : s.lateAnswer c = some given) :
      SwitchStep s ((s.put p (.answered c given)).forgetHostAnswers c)
  /-- `ask_host` waits for the dialog on the host, which may be there already. -/
  | showDialog {s : SwitchState} (p : Nat) (c : String) (at_ : s.stage p = .asking c)
      (late : s.lateAnswer c = none) :
      SwitchStep s (((s.put p (.waiting c)).forgetHostAnswers c).showHostDialog c)
  /-- The person at the host answers, or nobody can. -/
  | answer {s : SwitchState} (c : String) (answer : HostAnswer) (shown : s.dialogs c = true) :
      SwitchStep s (s.answerDialog c answer)
  | deliver {s : SwitchState} (p : Nat) (c : String) (given : GivenAnswer)
      (at_ : s.stage p = .waiting c) (pending : (c, given) ∈ s.pending) :
      SwitchStep s ((s.put p (.answered c given)).takePending c given)
  /-- Nobody waits any more. -/
  | deliverLate {s : SwitchState} (c : String) (given : GivenAnswer)
      (decision : given.answer.isDecision = true) (pending : (c, given) ∈ s.pending) :
      SwitchStep s ((s.keepAnswer c given).takePending c given)
  | record {s : SwitchState} {d : Desktop} (p : Nat) (c : String) (given : GivenAnswer)
      (name : String) (at_ : s.stage p = .answered c given) (allowed : given.answer = .allowed)
      (step : DesktopStep (.setGrant c { deviceId := hostDeviceId, deviceName := name })
        s.desktop d) :
      SwitchStep s (((s.move p (.granted c) d).setAsker c none).note (.recorded c given))
  | claim {s : SwitchState} {d : Desktop} (p : Nat) (c : String) (use : ScreenUse)
      (at_ : s.stage p = .granted c) (step : DesktopStep (.claim c) s.desktop d)
      (claimed : (s.desktop.claimScreen c).1 = .ok use) :
      SwitchStep s (s.move p (.claimed c use 0) d)
  /-- An attempt is made while the call holds its lease. -/
  | check {s : SwitchState} (p : Nat) (c : String) (use : ScreenUse) (attempt : Nat)
      (at_ : s.stage p = .claimed c use attempt) (more : attempt < maxAttempts)
      (free : s.desktop.lock = .free) (held : s.desktop.holds c use.id = true) :
      SwitchStep s (s.put p (.held c use attempt))
  /-- The race with the end of the lease is looked at before the work is. -/
  | poll {s : SwitchState} (p : Nat) (c : String) (use : ScreenUse) (attempt : Nat)
      (at_ : s.stage p = .held c use attempt) (untold : use.id ∉ s.desktop.told) :
      SwitchStep s (s.put p (.unended c use attempt))
  | start {s : SwitchState} (p : Nat) (c : String) (use : ScreenUse) (attempt : Nat)
      (at_ : s.stage p = .unended c use attempt) :
      SwitchStep s ((s.put p (.working c use attempt)).note (.started c use))
  | confirm {s : SwitchState} (p : Nat) (c : String) (use : ScreenUse) (attempt : Nat)
      (app : Option String) (at_ : s.stage p = .working c use attempt) :
      SwitchStep s (s.put p (.confirming c use attempt app))
  /-- The person allowed the app. -/
  | approve {s : SwitchState} {d : Desktop} (p : Nat) (c : String) (use : ScreenUse)
      (attempt : Nat) (bundleId : String)
      (at_ : s.stage p = .confirming c use attempt (some bundleId))
      (step : DesktopStep (.beginApprove p c bundleId use.id) s.desktop d) :
      SwitchStep s (s.move p (.approving c use attempt bundleId) d)
  | approved {s : SwitchState} {d : Desktop} (p : Nat) (c : String) (use : ScreenUse)
      (attempt : Nat) (bundleId : String) (at_ : s.stage p = .approving c use attempt bundleId)
      (step : DesktopStep (.endApprove p c bundleId) s.desktop d) :
      SwitchStep s (s.move p (.claimed c use (attempt + 1)) d)
  /-- The person allowed this action. -/
  | confirmed {s : SwitchState} (p : Nat) (c : String) (use : ScreenUse) (attempt : Nat)
      (at_ : s.stage p = .confirming c use attempt none) :
      SwitchStep s (s.put p (.claimed c use (attempt + 1)))
  /-- A call that holds no lease ends: declined, busy, cancelled or failed. -/
  | leave {s : SwitchState} (p : Nat) (c : String) (at_ : (s.stage p).beforeClaim? = some c) :
      SwitchStep s ((s.put p .finished).setAsker c
        (if s.asker c = some p then none else s.asker c))
  /-- A call under a lease ends: done, stopped, declined, cancelled or failed. -/
  | drop {s : SwitchState} {d : Desktop} (p : Nat) (use : ScreenUse)
      (at_ : (s.stage p).use? = some use) (step : DesktopStep (.dropUse use) s.desktop d) :
      SwitchStep s (s.move p .finished d)
  /-- `update_settings` leaves both switches on. -/
  | turnOn {s : SwitchState} (p : Nat) (enabled computerEnabled : Option Bool)
      (idle : s.stage p = .idle)
      (on : (s.nextSettings enabled computerEnabled).computerOn = true) :
      SwitchStep s (((s.writeSettings (s.nextSettings enabled computerEnabled)).put p
        .finished).note .bothOn)
  /-- `update_settings` leaves a switch off. -/
  | turnOff {s : SwitchState} (p : Nat) (enabled computerEnabled : Option Bool)
      (idle : s.stage p = .idle)
      (off : (s.nextSettings enabled computerEnabled).computerOn = false) :
      SwitchStep s (((s.writeSettings (s.nextSettings enabled computerEnabled)).put p
        .wrote).note (.turnedOff p))
  /-- The conversations with a Computer Use grant are collected, and those with a browser grant when
  the tools are off as a whole. -/
  | collect {s : SwitchState} (p : Nat) (todo : List String) (at_ : s.stage p = .wrote)
      (all : ∀ c, (s.desktop.computerGrants c).isSome → c ∈ todo) :
      SwitchStep s (s.put p (.revoking none todo [] true))
  /-- The person, a client or the end of a conversation asks for a revoke. -/
  | askRevoke {s : SwitchState} (p : Nat) (c : String) (idle : s.stage p = .idle) :
      SwitchStep s (s.put p (.revoking none [c] [c] false))
  | revoke {s : SwitchState} {d : Desktop} (p : Nat) (c : String) (todo revoked : List String)
      (off : Bool) (at_ : s.stage p = .revoking none (c :: todo) revoked off)
      (step : DesktopStep (.beginRevoke p c) s.desktop d) :
      SwitchStep s (s.move p (.revoking (some c) todo
        (if (s.desktop.computerGrants c).isSome then c :: revoked else revoked) off) d)
  | revokeApps {s : SwitchState} {d : Desktop} (p : Nat) (c : String) (todo revoked : List String)
      (off : Bool) (at_ : s.stage p = .revoking (some c) todo revoked off)
      (step : DesktopStep (.dropApps p c) s.desktop d) :
      SwitchStep s { s with desktop := d }
  | revoked {s : SwitchState} {d : Desktop} (p : Nat) (c : String) (todo revoked : List String)
      (off : Bool) (at_ : s.stage p = .revoking (some c) todo revoked off)
      (step : DesktopStep (.endRevoke p c) s.desktop d) :
      SwitchStep s (s.move p (.revoking none todo revoked off) d)
  /-- A revoke that was asked for is through. -/
  | revokeDone {s : SwitchState} (p : Nat) (revoked : List String)
      (at_ : s.stage p = .revoking none [] revoked false) :
      SwitchStep s (s.put p (.forgetting revoked))
  /-- `update_settings` returns. -/
  | returnOff {s : SwitchState} (p : Nat) (revoked : List String)
      (at_ : s.stage p = .revoking none [] revoked true) :
      SwitchStep s ((s.put p (.forgetting revoked)).note (.returnedOff p))
  | forget {s : SwitchState} (p : Nat) (c : String) (conversations : List String)
      (at_ : s.stage p = .forgetting (c :: conversations)) :
      SwitchStep s ((s.put p (.forgetting conversations)).forgetHostAnswers c)

/-- Any interleaving of the requests, each step of which meets a condition. -/
inductive SwitchRun (Meets : SwitchState → SwitchState → Prop) :
    SwitchState → SwitchState → Prop
  | refl (s : SwitchState) : SwitchRun Meets s s
  | step {s t u : SwitchState} (run : SwitchRun Meets s t) (step : SwitchStep t u)
      (meets : Meets t u) : SwitchRun Meets s u

/-! ### Computer Use stops with its switch -/

/-- After the request turned a switch off, both were on again, and the person at the host allowed the
conversation after that. -/
def Renewed (log : List SwitchEvent) (c : String) (p : Nat) : Prop :=
  [.allowed c, .bothOn, .turnedOff p].Sublist log

/-- Nothing is started after a request that turned a switch off has returned, until the person at the
host gave a new grant with both switches on again. -/
def StopsWithSwitch (log : List SwitchEvent) : Prop :=
  ∀ later c use before p, log = later ++ .started c use :: before →
    .returnedOff p ∈ before → Renewed before c p

/-- A grant is recorded only while both switches are on and have been on since the person answered, and
work is started only while the call still holds its lease and its grant. -/
def SwitchObeyed (s t : SwitchState) : Prop :=
  (∀ c given, t.log = .recorded c given :: s.log →
    s.settings.computerOn = true ∧ given.era = s.era) ∧
  ∀ c use, t.log = .started c use :: s.log → s.desktop.holds c use.id = true

variable {c : String} {p : Nat}

lemma Renewed.cons (h : Renewed log c p) (event : SwitchEvent) : Renewed (event :: log) c p :=
  List.Sublist.cons event h

lemma stopsWithSwitch_nil : StopsWithSwitch [] := by
  intro later c use before p hl
  simp at hl

variable {event : SwitchEvent}

lemma StopsWithSwitch.cons (h : StopsWithSwitch log)
    (hs : ∀ c use, event = .started c use → ∀ p, .returnedOff p ∈ log → Renewed log c p) :
    StopsWithSwitch (event :: log) := by
  intro later c use before p hl hr
  rcases later with _ | ⟨first, later⟩
  · obtain ⟨rfl, rfl⟩ := List.cons.inj hl
    exact hs c use rfl p hr
  · exact h later c use before p (List.cons.inj hl).2 hr

variable {stage : RequestStage}

namespace RequestStage

/-- The request turned a switch off and has yet to revoke the conversation. -/
def covers : RequestStage → String → Prop
  | wrote, _ => True
  | revoking _ todo _ true, c => c ∈ todo
  | _, _ => False

/-- The request turned a switch off and has not returned. -/
def isOff : RequestStage → Prop
  | wrote => True
  | revoking _ _ _ off => off = true
  | _ => False

/-- The request has returned, or its `update_settings` has. -/
def hasReturned : RequestStage → Prop
  | forgetting _ => True
  | finished => True
  | _ => False

/-- The request has not returned and has nothing to revoke. -/
def isCall (stage : RequestStage) : Prop :=
  ¬ stage.hasReturned ∧ ∀ c, ¬ stage.covers c

lemma isCall_of_beforeClaim (h : stage.beforeClaim? = some c) : stage.isCall := by
  cases stage <;> cases h <;> exact ⟨id, fun _ => id⟩

lemma isCall_of_use (h : stage.use? = some use) : stage.isCall := by
  cases stage <;> cases h <;> exact ⟨id, fun _ => id⟩

lemma not_covers_of_hasReturned (h : stage.hasReturned) (c : String) : ¬ stage.covers c := by
  intro hc
  cases stage <;> first
    | exact h
    | exact hc

end RequestStage

/-- An answer that may still become a grant. -/
def SwitchState.Outstanding (s : SwitchState) (c : String) (given : GivenAnswer) : Prop :=
  (∃ p, s.stage p = .answered c given) ∨ (c, given) ∈ s.pending ∨
    ∃ time, s.lateAnswers c = some (time, given)

/-- Every grant is newer than a switch that was turned off, or is about to be revoked. -/
structure SwitchOk (s : SwitchState) : Prop where
  begun : ∀ p, .turnedOff p ∈ s.log → s.stage p ≠ .idle
  off : ∀ p, (s.stage p).isOff → .turnedOff p ∈ s.log
  returned : ∀ p, .returnedOff p ∈ s.log → .turnedOff p ∈ s.log ∧ (s.stage p).hasReturned
  on : s.settings.computerOn = true → ∀ p, .turnedOff p ∈ s.log →
    [SwitchEvent.bothOn, .turnedOff p].Sublist s.log
  era_le : ∀ c given, s.Outstanding c given → given.era ≤ s.era
  answers : ∀ c given, s.Outstanding c given → given.answer = .allowed → given.era = s.era →
    s.settings.computerOn = true → ∀ p, .turnedOff p ∈ s.log → Renewed s.log c p
  grants : ∀ c, (s.desktop.computerGrants c).isSome → ∀ p, .turnedOff p ∈ s.log →
    (s.stage p).covers c ∨ Renewed s.log c p
  stops : StopsWithSwitch s.log

lemma SwitchOk.boot (settings : DesktopSettings) (now : Nat) : SwitchOk (SwitchState.boot settings now) where
  begun := nofun
  off := nofun
  returned := nofun
  on := nofun
  era_le := by
    rintro c given (⟨p, ⟨⟩⟩ | ⟨⟨⟩⟩ | ⟨time, ⟨⟩⟩)
  answers := by
    rintro c given (⟨p, ⟨⟩⟩ | ⟨⟨⟩⟩ | ⟨time, ⟨⟩⟩)
  grants := nofun
  stops := stopsWithSwitch_nil

/-- Grants are only taken away, and no answer is given. -/
structure QuietStep (s t : SwitchState) : Prop where
  settings : t.settings = s.settings
  era : t.era = s.era
  log : t.log = s.log
  grants : ∀ c, (t.desktop.computerGrants c).isSome → (s.desktop.computerGrants c).isSome
  begun : ∀ p, s.stage p ≠ .idle → t.stage p ≠ .idle
  off : ∀ p, (t.stage p).isOff → (s.stage p).isOff
  returned : ∀ p, (s.stage p).hasReturned → (t.stage p).hasReturned
  covers : ∀ p c, (t.desktop.computerGrants c).isSome → (s.stage p).covers c → (t.stage p).covers c
  outstanding : ∀ c given, t.Outstanding c given → s.Outstanding c given

variable {s t : SwitchState}

lemma SwitchOk.quiet (h : SwitchOk s) (quiet : QuietStep s t) : SwitchOk t where
  begun := by
    rw [quiet.log]
    exact fun p hp => quiet.begun p (h.begun p hp)
  off := by
    rw [quiet.log]
    exact fun p hp => h.off p (quiet.off p hp)
  returned := by
    rw [quiet.log]
    exact fun p hp => ⟨(h.returned p hp).1, quiet.returned p (h.returned p hp).2⟩
  on := by
    rw [quiet.log, quiet.settings]
    exact h.on
  era_le := by
    rw [quiet.era]
    exact fun c given hg => h.era_le c given (quiet.outstanding c given hg)
  answers := by
    rw [quiet.era, quiet.log, quiet.settings]
    exact fun c given hg => h.answers c given (quiet.outstanding c given hg)
  grants := by
    rw [quiet.log]
    intro c hc p hp
    exact (h.grants c (quiet.grants c hc) p hp).imp (quiet.covers p c hc) id
  stops := by
    rw [quiet.log]
    exact h.stops

namespace QuietStep

variable {s t : SwitchState}

lemma move {old : RequestStage} (hold : s.stage p = old)
    (hg : ∀ c, (d.computerGrants c).isSome → (s.desktop.computerGrants c).isSome)
    (hn : stage ≠ .idle) (ho : stage.isOff → old.isOff) (hr : old.hasReturned → stage.hasReturned)
    (hco : ∀ c, (d.computerGrants c).isSome → old.covers c → stage.covers c)
    (hgi : ∀ c given, stage = .answered c given → s.Outstanding c given) : QuietStep s (s.move p stage d) where
  settings := rfl
  era := rfl
  log := rfl
  grants := hg
  begun _ hq := Function.update_cases (p := (· ≠ RequestStage.idle)) (fun _ => hn) fun _ => hq
  off q := by
    refine Function.update_cases (p := fun (new : RequestStage) => new.isOff → (s.stage q).isOff) ?_ fun _ => id
    rintro rfl
    exact hold ▸ ho
  returned q hq := Function.update_cases (fun heq => hr (hold ▸ heq ▸ hq)) fun _ => hq
  covers q c hc := by
    refine Function.update_cases (p := fun (new : RequestStage) => (s.stage q).covers c → new.covers c) ?_ fun _ => id
    rintro rfl
    exact hold ▸ hco c hc
  outstanding := by
    rintro c given (⟨q, hq⟩ | hp | hl)
    · rcases Function.of_update_eq hq with ⟨-, hq⟩ | ⟨-, hq⟩
      · exact hgi c given hq
      · exact .inl ⟨q, hq⟩
    · exact .inr (.inl hp)
    · exact .inr (.inr hl)

lemma call (hold : s.stage p = old) (hg : ∀ c, (d.computerGrants c).isSome → (s.desktop.computerGrants c).isSome)
    (hc : old.isCall) (hn : stage ≠ .idle) (ho : ¬ stage.isOff)
    (hgi : ∀ c given, stage = .answered c given → s.Outstanding c given) : QuietStep s (s.move p stage d) :=
  move hold hg hn (fun h => absurd h ho) (fun h => absurd h hc.1)
    (fun c _ h => absurd h (hc.2 c)) hgi

/-- A call goes on, and it has not taken an answer. -/
lemma put (stage : RequestStage) (hold : s.stage p = old) (hc : old.isCall) (hn : stage ≠ .idle)
    (ho : ¬ stage.isOff) (hg : ∀ c given, stage ≠ .answered c given) : QuietStep s (s.put p stage) :=
  call hold (fun _ h => h) hc hn ho fun c given heq => absurd heq (hg c given)

lemma desktop (hg : ∀ c, (d.computerGrants c).isSome → (s.desktop.computerGrants c).isSome) :
    QuietStep s { s with desktop := d } :=
  ⟨rfl, rfl, rfl, hg, fun _ h => h, fun _ h => h, fun _ h => h, fun _ _ _ h => h, fun _ _ h => h⟩

lemma setAsker (h : QuietStep s t) (c : String) (request : Option Nat) : QuietStep s (t.setAsker c request) :=
  { __ := h }

lemma showHostDialog (h : QuietStep s t) (c : String) : QuietStep s (t.showHostDialog c) :=
  { __ := h }

lemma forgetHostAnswers (h : QuietStep s t) (c : String) : QuietStep s (t.forgetHostAnswers c) where
  __ := h
  outstanding := by
    rintro c' given (hs | hp | ⟨time, hl⟩)
    · exact h.outstanding c' given (.inl hs)
    · exact h.outstanding c' given (.inr (.inl hp))
    · rcases Function.of_update_eq hl with ⟨-, ⟨⟩⟩ | ⟨-, hl⟩
      exact h.outstanding c' given (.inr (.inr ⟨time, hl⟩))

lemma takePending (h : QuietStep s t) (c : String) (given : GivenAnswer) : QuietStep s (t.takePending c given) where
  __ := h
  outstanding := by
    rintro c' other (hs | hp | hl)
    · exact h.outstanding c' other (.inl hs)
    · exact h.outstanding c' other (.inr (.inl (List.mem_of_mem_erase hp)))
    · exact h.outstanding c' other (.inr (.inr hl))

lemma keepAnswer (hg : s.Outstanding c given) : QuietStep s (s.keepAnswer c given) := by
  refine ⟨rfl, rfl, rfl, fun _ h => h, fun _ h => h, fun _ h => h, fun _ h => h, fun _ _ _ h => h, ?_⟩
  rintro c' other (hs | hp | ⟨time, hl⟩)
  · exact .inl hs
  · exact .inr (.inl hp)
  · rcases Function.of_update_eq hl with ⟨rfl, ⟨⟩⟩ | ⟨-, hl⟩
    · exact hg
    · exact .inr (.inr ⟨time, hl⟩)

end QuietStep

lemma Desktop.not_granted_beginRevoke (s : Desktop) (caller : Nat) (c : String) :
    ¬((s.beginRevoke caller c).computerGrants c).isSome := by
  simp [beginRevoke]

/-- Only setting a grant adds one. -/
lemma DesktopStep.grants {s t : Desktop} (step : DesktopStep action s t)
    (ha : ∀ c grant, action ≠ .setGrant c grant) (c : String)
    (hc : (t.computerGrants c).isSome) : (s.computerGrants c).isSome := by
  cases step with
  | claim conversationId =>
    rwa [(s.claimScreen_frame conversationId).2.1] at hc
  | release conversationId id =>
    rwa [(s.endLease_frame conversationId id).2.1] at hc
  | expire => rwa [s.expireScreens_frame.2.1] at hc
  | endRevoke caller conversationId =>
    rw [← (s.endLease_frame conversationId none).2.1]
    exact hc
  | beginRevoke caller conversationId =>
    by_cases heq : c = conversationId
    · subst heq
      exact absurd hc (s.not_granted_beginRevoke caller c)
    · simpa [Desktop.beginRevoke, heq] using hc
  | setGrant conversationId grant => exact absurd rfl (ha conversationId grant)
  | _ => exact hc

/-! ### Each kind of step -/

namespace SwitchOk

variable {s : SwitchState}

lemma note (h : SwitchOk s) (ho : ∀ p, event ≠ .turnedOff p)
    (hr : ∀ p, event = .returnedOff p → .turnedOff p ∈ s.log ∧ (s.stage p).hasReturned)
    (hs : ∀ c use, event = .started c use → ∀ p, .returnedOff p ∈ s.log → Renewed s.log c p) :
    SwitchOk (s.note event) := by
  have hl : ∀ p, .turnedOff p ∈ (s.note event).log → .turnedOff p ∈ s.log := by
    intro p hp
    exact (List.mem_cons.mp hp).resolve_left (ho p).symm
  constructor
  · exact fun p hp => h.begun p (hl p hp)
  · exact fun p hp => List.mem_cons_of_mem _ (h.off p hp)
  · intro p hp
    have hb : .turnedOff p ∈ s.log ∧ (s.stage p).hasReturned := by
      rcases List.mem_cons.mp hp with heq | hp
      · exact hr p heq.symm
      · exact h.returned p hp
    exact ⟨List.mem_cons_of_mem _ hb.1, hb.2⟩
  · exact fun hon p hp => List.Sublist.cons _ (h.on hon p (hl p hp))
  · exact h.era_le
  · exact fun c given hg ha he hon p hp =>
      (h.answers c given hg ha he hon p (hl p hp)).cons _
  · exact fun c hc p hp => (h.grants c hc p (hl p hp)).imp id (Renewed.cons · _)
  · exact h.stops.cons hs

/-- An answer is given; an approval comes after both switches were on again. -/
lemma addPending (h : SwitchOk s) (dialogs : String → Bool) (he : given.era ≤ s.era)
    (hn : given.answer = .allowed → s.settings.computerOn = true → ∀ p, .turnedOff p ∈ s.log → Renewed s.log c p) :
    SwitchOk { s with dialogs := dialogs, pending := (c, given) :: s.pending } := by
  have ha : ∀ c' other,
      SwitchState.Outstanding { s with dialogs := dialogs, pending := (c, given) :: s.pending }
        c' other → s.Outstanding c' other ∨ c' = c ∧ other = given := by
    rintro c' other (hs | hp | hl)
    · exact .inl (.inl hs)
    · rcases List.mem_cons.mp hp with heq | hp
      · exact .inr (Prod.mk.inj heq)
      · exact .inl (.inr (.inl hp))
    · exact .inl (.inr (.inr hl))
  refine ⟨h.begun, h.off, h.returned, h.on, ?_, ?_, h.grants, h.stops⟩
  · intro c' other ho
    rcases ha c' other ho with ho | ⟨rfl, rfl⟩
    · exact h.era_le c' other ho
    · exact he
  · intro c' other ho han hsa hon
    rcases ha c' other ho with ho | ⟨rfl, rfl⟩
    · exact h.answers c' other ho han hsa hon
    · exact hn han hon

lemma answerDialog (h : SwitchOk s) (c : String) (answer : HostAnswer) : SwitchOk (s.answerDialog c answer) := by
  unfold SwitchState.answerDialog
  split
  next ha =>
    have hn : SwitchOk (s.note (.allowed c)) := h.note nofun nofun nofun
    refine hn.addPending (Function.update s.dialogs c false) (le_refl s.era) ?_
    intro _ hon p hp
    have hb : .turnedOff p ∈ s.log := by simpa [SwitchState.note] using hp
    exact List.Sublist.cons_cons _ (h.on hon p hb)
  next hd =>
    exact h.addPending _ (le_refl s.era) fun ha => absurd ha hd

/-- A grant that the person gave after every time that a switch was turned off. -/
lemma setGrant (h : SwitchOk s) (hr : ∀ p, .turnedOff p ∈ s.log → Renewed s.log c p)
    (grant : Grant) : SwitchOk { s with desktop := s.desktop.setComputerGrant c grant } := by
  refine ⟨h.begun, h.off, h.returned, h.on, h.era_le, h.answers, ?_, h.stops⟩
  intro c' hc' p hp
  by_cases heq : c' = c
  · subst heq
    exact .inr (hr p hp)
  · apply h.grants c' _ p hp
    simpa [Desktop.setComputerGrant, heq] using hc'

/-- A conversation with a grant was renewed since every switch that was turned off by a request that
has returned. -/
lemma renewed_of_grant (h : SwitchOk s) (hc : (s.desktop.computerGrants c).isSome)
    (hp : .returnedOff p ∈ s.log) : Renewed s.log c p := by
  obtain ⟨ho, hr⟩ := h.returned p hp
  rcases h.grants c hc p ho with hco | hre
  · exact absurd hco (RequestStage.not_covers_of_hasReturned hr c)
  · exact hre

/-- Writing the settings ends an era if Computer Use goes on or off. -/
lemma era_le_writeSettings (s : SwitchState) (next : DesktopSettings) : s.era ≤ (s.writeSettings next).era := by
  unfold SwitchState.writeSettings
  dsimp only
  split
  · exact le_refl _
  · exact Nat.le_succ _

lemma writeSettings (h : SwitchOk s) (idle : s.stage p = .idle) (hnw : stage ≠ .idle)
    (hs : ∀ c given, stage ≠ .answered c given) (hre : ∀ q, event ≠ .returnedOff q)
    (hst : ∀ c use, event ≠ .started c use) (hof : stage.isOff → event = .turnedOff p)
    (he : ∀ q, event = .turnedOff q → q = p ∧ ∀ c, stage.covers c) (hon : next.computerOn = true → event = .bothOn) :
    SwitchOk (((s.writeSettings next).put p stage).note event) := by
  have hse : (((s.writeSettings next).put p stage).note event).stage p = stage := by
    simp [SwitchState.note, SwitchState.put]
  have hot : ∀ q, q ≠ p →
      (((s.writeSettings next).put p stage).note event).stage q = s.stage q := by
    intro q hne
    simp [SwitchState.note, SwitchState.put, SwitchState.writeSettings, hne]
  have hlo : ∀ q, .turnedOff q ∈ event :: s.log →
      (q = p ∧ ∀ c, stage.covers c) ∨ q ≠ p ∧ .turnedOff q ∈ s.log := by
    intro q hq
    rcases List.mem_cons.mp hq with heq | hq
    · exact .inl (he q heq.symm)
    · refine .inr ⟨?_, hq⟩
      rintro rfl
      exact h.begun q hq idle
  -- the answers that the request leaves alone
  have ho : ∀ c given,
      (((s.writeSettings next).put p stage).note event).Outstanding c given → s.Outstanding c given := by
    rintro c given (⟨q, hq⟩ | hp | hl)
    · rcases Function.of_update_eq hq with ⟨-, hq⟩ | ⟨-, hq⟩
      · exact absurd hq (hs c given)
      · exact .inl ⟨q, hq⟩
    · exact .inr (.inl hp)
    · exact .inr (.inr hl)
  constructor
  · intro q hq
    rcases hlo q hq with ⟨rfl, -⟩ | ⟨hne, hq⟩
    · rwa [hse]
    · rw [hot q hne]
      exact h.begun q hq
  · intro q hq
    by_cases heq : q = p
    · subst heq
      rw [hse] at hq
      exact hof hq ▸ List.mem_cons_self
    · rw [hot q heq] at hq
      exact List.mem_cons_of_mem _ (h.off q hq)
  · intro q hq
    obtain ⟨ht, hr⟩ := h.returned q ((List.mem_cons.mp hq).resolve_left (hre q).symm)
    have hne : q ≠ p := by
      rintro rfl
      exact h.begun q ht idle
    exact ⟨List.mem_cons_of_mem _ ht, (hot q hne).symm ▸ hr⟩
  · intro hn q hq
    obtain rfl := hon hn
    exact List.Sublist.cons_cons _ (List.singleton_sublist.mpr ((List.mem_cons.mp hq).resolve_left nofun))
  · intro c given hg
    exact (h.era_le c given (ho c given hg)).trans (era_le_writeSettings s next)
  · intro c given hg ha her hn q hq
    obtain rfl := hon hn
    have hb := ho c given hg
    apply Renewed.cons
    by_cases hon : s.settings.computerOn = true
    · -- it stays on, so the era goes on too
      have hsa : (s.writeSettings next).era = s.era := by
        simp [SwitchState.writeSettings, show next.computerOn = true from hn, hon]
      exact h.answers c given hb ha (her.trans hsa) hon q
        ((List.mem_cons.mp hq).resolve_left nofun)
    · have her' : (s.writeSettings next).era = s.era + 1 := by
        simp [SwitchState.writeSettings, show next.computerOn = true from hn, hon]
      have hle := h.era_le c given hb
      rw [show given.era = s.era + 1 from her.trans her'] at hle
      exact absurd hle (Nat.not_succ_le_self _)
  · intro c hc q hq
    rcases hlo q hq with ⟨rfl, hco⟩ | ⟨hne, hq⟩
    · -- this request has yet to revoke every grant there is
      rw [hse]
      exact .inl (hco c)
    · rw [hot q hne]
      exact (h.grants c hc q hq).imp id (Renewed.cons · _)
  · exact h.stops.cons fun c use heq => absurd heq (hst c use)

end SwitchOk

/-- A step that meets the condition keeps every grant newer than the switches. -/
lemma SwitchOk.step (h : SwitchOk s) (step : SwitchStep s t) (meets : SwitchObeyed s t) : SwitchOk t := by
  cases step with
  | background step background =>
    refine h.quiet (.desktop (step.grants ?_))
    rintro c grant rfl
    cases background
  | precheck _ _ at_ | useGrant _ _ at_ | queue _ _ at_ | check _ _ _ _ at_ | poll _ _ _ _ at_
  | confirm _ _ _ _ _ at_ | confirmed _ _ _ _ at_ | revokeDone _ _ at_ =>
    exact h.quiet (.put _ at_ ⟨id, fun _ => id⟩ nofun id nofun)
  | serialize p c at_ free =>
    exact h.quiet (.setAsker (.put (.asking c) at_ ⟨id, fun _ => id⟩ nofun id nofun) c (some p))
  | recheckGrant p c at_ grant =>
    exact h.quiet (.setAsker (.put (.granted c) at_ ⟨id, fun _ => id⟩ nofun id nofun) c none)
  | useLate p c given at_ late =>
    -- the answer is the one that was kept
    have hk : s.Outstanding c given := by
      obtain ⟨⟨time, given⟩, hl, rfl⟩ := Option.map_eq_some_iff.mp late
      exact .inr (.inr ⟨time, (Option.filter_eq_some_iff.mp hl).1⟩)
    have hm : QuietStep s (s.move p (.answered c given) s.desktop) := by
      refine .call at_ (fun _ h => h) ⟨id, fun _ => id⟩ nofun id ?_
      rintro c' given' ⟨⟩
      exact hk
    exact h.quiet (hm.forgetHostAnswers c)
  | showDialog p c at_ late =>
    have hp : QuietStep s (s.put p (.waiting c)) := .put (.waiting c) at_ ⟨id, fun _ => id⟩ nofun id nofun
    exact h.quiet ((hp.forgetHostAnswers c).showHostDialog c)
  | answer c answer shown => exact h.answerDialog c answer
  | deliver p c given at_ pending =>
    have hm : QuietStep s (s.move p (.answered c given) s.desktop) := by
      refine .call at_ (fun _ h => h) ⟨id, fun _ => id⟩ nofun id ?_
      rintro c' given' ⟨⟩
      exact .inr (.inl pending)
    exact h.quiet (hm.takePending c given)
  | deliverLate c given decision pending =>
    exact h.quiet ((QuietStep.keepAnswer (.inr (.inl pending))).takePending c given)
  | record p c given name at_ allowed step =>
    rename_i d
    -- both switches have been on since the answer, so it came after every time one was off
    obtain ⟨hon, he⟩ := meets.1 c given rfl
    have hr := h.answers c given (.inl ⟨p, at_⟩) allowed he hon
    have hg : SwitchOk { s with desktop := d } := by
      cases step
      exact h.setGrant hr _
    have hm : QuietStep { s with desktop := d }
        (SwitchState.move { s with desktop := d } p (.granted c) d) :=
      .call at_ (fun _ h => h) ⟨id, fun _ => id⟩ nofun id nofun
    exact (hg.quiet (hm.setAsker c none)).note nofun nofun nofun
  | claim _ _ _ at_ step | approve _ _ _ _ _ at_ step | approved _ _ _ _ _ at_ step =>
    exact h.quiet (.call at_ (step.grants nofun) ⟨id, fun _ => id⟩ nofun id nofun)
  | start p c use attempt at_ =>
    refine (h.quiet (.put (.working c use attempt) at_ ⟨id, fun _ => id⟩ nofun id nofun)).note nofun nofun ?_
    rintro c' use' ⟨⟩ q hq
    have hh := meets.2 c use rfl
    exact h.renewed_of_grant (Bool.and_eq_true_iff.mp hh).2 hq
  | leave p c at_ =>
    exact h.quiet (.setAsker (.put .finished rfl (RequestStage.isCall_of_beforeClaim at_) nofun id nofun) c _)
  | drop p use at_ step =>
    exact h.quiet (.call rfl (step.grants nofun) (RequestStage.isCall_of_use at_) nofun id nofun)
  | turnOn p enabled computerEnabled idle on =>
    exact h.writeSettings idle nofun nofun nofun nofun nofun nofun fun _ => rfl
  | turnOff p enabled computerEnabled idle off =>
    refine h.writeSettings idle nofun nofun nofun nofun (fun _ => rfl) ?_ fun on => ?_
    · rintro q ⟨⟩
      exact ⟨rfl, fun _ => trivial⟩
    · cases off.symm.trans on
  | collect p todo at_ all =>
    exact h.quiet (.move at_ (fun _ h => h) nofun (fun _ => trivial) id (fun c hc _ => all c hc) nofun)
  | askRevoke p c idle =>
    exact h.quiet (.put _ idle ⟨id, fun _ => id⟩ nofun nofun nofun)
  | revoke p c todo revoked off at_ step =>
    refine h.quiet (.move at_ (step.grants nofun) nofun id id ?_ nofun)
    intro c' hc' hco
    cases step
    cases off with
    | false => exact hco
    | true =>
      rcases List.mem_cons.mp hco with rfl | hme
      · exact absurd hc' (s.desktop.not_granted_beginRevoke p c')
      · exact hme
  | revokeApps p c todo revoked off at_ step => exact h.quiet (.desktop (step.grants nofun))
  | revoked p c todo revoked off at_ step =>
    refine h.quiet (.move at_ (step.grants nofun) nofun id id ?_ nofun)
    intro c' _ hco
    cases off <;> exact hco
  | returnOff p revoked at_ =>
    refine (h.quiet (.put (.forgetting revoked) at_ ⟨id, fun _ => List.not_mem_nil⟩ nofun id nofun)).note nofun ?_ nofun
    rintro q ⟨⟩
    refine ⟨h.off p (at_ ▸ rfl), ?_⟩
    simp [SwitchState.put, RequestStage.hasReturned]
  | forget p c conversations at_ =>
    have hm : QuietStep s (s.move p (.forgetting conversations) s.desktop) :=
      .move at_ (fun _ h => h) nofun id id (fun _ _ => id) nofun
    exact h.quiet (hm.forgetHostAnswers c)

lemma SwitchOk.run (run : SwitchRun SwitchObeyed (.boot settings now) s) : SwitchOk s := by
  induction run with
  | refl => exact .boot settings now
  | step _ hs hm ih => exact ih.step hs hm

/-- Over every interleaving of calls, answers, revokes and switches in which a grant is recorded only
while both switches are on and have been on since the answer, and work is started only by a call that
still holds its lease and its grant: after `update_settings` turned a switch off and returned, nothing
is started until both are on again and the person at the host gave a new grant after that. -/
theorem computer_use_stops_with_switch (settings : DesktopSettings) (now : Nat) {s : SwitchState}
    (run : SwitchRun SwitchObeyed (.boot settings now) s) : StopsWithSwitch s.log :=
  (SwitchOk.run run).stops

section Answers

def switchesOn : DesktopSettings := { enabled := true, computerEnabled := true }

def allowedThen (era : Nat) : GivenAnswer := { answer := .allowed, era }

def firstUse : ScreenUse := { claim := .started none, id := 1 }

/-- A call waits for the grant when Computer Use is turned off. The person answers after that, and the
call goes on. -/
theorem work_started_with_switch_off :
    ∃ s, SwitchRun (fun _ _ => True) (.boot switchesOn 0) s ∧
      s.settings.computerOn = false ∧ ¬ StopsWithSwitch s.log := by
  have h : SwitchRun (fun _ _ => True) (.boot switchesOn 0) _ := .refl _
  have h := h.step (.precheck 1 "conv" rfl rfl) trivial
  have h := h.step (.queue 1 "conv" rfl rfl) trivial
  have h := h.step (.serialize 1 "conv" rfl rfl) trivial
  have h := h.step (.showDialog 1 "conv" rfl rfl) trivial
  have h := h.step (.turnOff 2 none (some false) rfl rfl) trivial
  have h := h.step (.collect 2 [] rfl nofun) trivial
  have h := h.step (.returnOff 2 [] rfl) trivial
  have h := h.step (.answer "conv" .allowed rfl) trivial
  have h := h.step (.deliver 1 "conv" (allowedThen 1) rfl List.mem_cons_self) trivial
  have h := h.step (.record 1 "conv" (allowedThen 1) "studio" rfl rfl (.setGrant "conv" _)) trivial
  have h := h.step (.claim 1 "conv" firstUse rfl (.claim "conv" rfl) rfl) trivial
  have h := h.step (.check 1 "conv" firstUse 0 rfl (by decide) rfl rfl) trivial
  have h := h.step (.poll 1 "conv" firstUse 0 rfl nofun) trivial
  have h := h.step (.start 1 "conv" firstUse 0 rfl) trivial
  refine ⟨_, h, rfl, ?_⟩
  intro hs
  have hr : Renewed [.recorded "conv" (allowedThen 1), .allowed "conv", .returnedOff 2,
      .turnedOff 2] "conv" 2 := hs [] "conv" firstUse _ 2 rfl (by decide)
  -- the switches were never on again
  unfold Renewed at hr
  revert hr
  decide

lemma SwitchObeyed.of_log_eq (hl : t.log = s.log) : SwitchObeyed s t := by
  constructor
  · intro c given h
    rw [hl] at h
    exact absurd h.symm (List.cons_ne_self _ _)
  · intro c use h
    rw [hl] at h
    exact absurd h.symm (List.cons_ne_self _ _)

lemma SwitchObeyed.of_log_cons (hl : t.log = event :: s.log) (hr : ∀ c given, event ≠ .recorded c given)
    (hs : ∀ c use, event ≠ .started c use) : SwitchObeyed s t := by
  constructor
  · intro c given h
    rw [hl] at h
    exact absurd (List.cons.inj h).1 (hr c given)
  · intro c use h
    rw [hl] at h
    exact absurd (List.cons.inj h).1 (hs c use)

/-- Computer Use is turned off and on again, and the person gives a grant after that. -/
lemma renewed_run : ∃ s, SwitchRun SwitchObeyed (.boot switchesOn 0) s ∧
      .started "conv" firstUse ∈ s.log ∧ .returnedOff 2 ∈ s.log := by
  have h : SwitchRun SwitchObeyed (.boot switchesOn 0) _ := .refl _
  have h := h.step (.turnOff 2 none (some false) rfl rfl) (.of_log_cons rfl nofun nofun)
  have h := h.step (.collect 2 [] rfl nofun) (.of_log_eq rfl)
  have h := h.step (.returnOff 2 [] rfl) (.of_log_cons rfl nofun nofun)
  have h := h.step (.turnOn 3 none (some true) rfl rfl) (.of_log_cons rfl nofun nofun)
  have h := h.step (.precheck 1 "conv" rfl rfl) (.of_log_eq rfl)
  have h := h.step (.queue 1 "conv" rfl rfl) (.of_log_eq rfl)
  have h := h.step (.serialize 1 "conv" rfl rfl) (.of_log_eq rfl)
  have h := h.step (.showDialog 1 "conv" rfl rfl) (.of_log_eq rfl)
  have h := h.step (.answer "conv" .allowed rfl) (.of_log_cons rfl nofun nofun)
  have h := h.step (.deliver 1 "conv" (allowedThen 2) rfl List.mem_cons_self) (.of_log_eq rfl)
  have h := h.step (.record 1 "conv" (allowedThen 2) "studio" rfl rfl (.setGrant "conv" _)) (by
    refine ⟨?_, nofun⟩
    rintro c given ⟨⟩
    exact ⟨rfl, rfl⟩)
  have h := h.step (.claim 1 "conv" firstUse rfl (.claim "conv" rfl) rfl) (.of_log_eq rfl)
  have h := h.step (.check 1 "conv" firstUse 0 rfl (by decide) rfl rfl) (.of_log_eq rfl)
  have h := h.step (.poll 1 "conv" firstUse 0 rfl nofun) (.of_log_eq rfl)
  have h := h.step (.start 1 "conv" firstUse 0 rfl) (by
    refine ⟨nofun, ?_⟩
    rintro c use ⟨⟩
    rfl)
  exact ⟨_, h, by decide, by decide⟩

theorem computer_use_stops_with_switch_conv :
    ∃ s, SwitchRun SwitchObeyed (.boot switchesOn 0) s ∧
      .started "conv" firstUse ∈ s.log ∧ .returnedOff 2 ∈ s.log ∧ StopsWithSwitch s.log := by
  obtain ⟨s, run, hs, hr⟩ := renewed_run
  exact ⟨s, run, hs, hr, computer_use_stops_with_switch switchesOn 0 run⟩

end Answers

end Todex
