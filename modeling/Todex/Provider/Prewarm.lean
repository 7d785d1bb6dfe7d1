import Todex.Lib.Json.Text
import Todex.Lib.Update

/-!
# Events of a prewarm

The muted sink of a prewarm keeps the events of its clones until a turn takes it over. They are then emitted through the
sink of the turn, and so is every later event, with the runtime of the clone that emits it. An event that was kept has
lost that runtime.
-/

namespace Todex

open Json (Members)

def repeatableSnapshotEvents : List String := ["quota.updated", "usage.updated"]

structure DriverEvent where
  eventType : String
  payload : Json
deriving DecidableEq

structure DriverEventSink where
  currentTurnId : Option String
  runtimeId : Option String
  scope : Option String
  /-- The last snapshot of each type that was journalled. -/
  snapshots : String → Option Json

namespace DriverEventSink

def forRuntime (runtimeId : String) : DriverEventSink where
  currentTurnId := none
  runtimeId := some runtimeId
  scope := some "session"
  snapshots := fun _ => none

/-- Usage and quotas may have a scope of their own. -/
def predefinedScope (eventType : String) (object : Members) : Bool :=
  match eventType, (object.get "scope").bind Json.asStr with
  | "usage.updated", some "message" | "quota.updated", some "account" => true
  | _, _ => false

def decorateRuntime (self : DriverEventSink) (eventType : String) (object : Members) : Members :=
  let object := self.runtimeId.elim object fun runtimeId => Members.insert "runtimeId" (.string runtimeId) object
  self.scope.elim object fun scope =>
    if predefinedScope eventType object then object else Members.insert "scope" (.string scope) object

def decorateTurn (self : DriverEventSink) (object : Members) : Members :=
  self.currentTurnId.elim object fun turnId =>
    let native := ((object.get "turnId").bind Json.asStr).filter (· ≠ turnId)
    let object := native.elim object fun native =>
      if (object.get "nativeTurnId").isSome then object else Members.insert "nativeTurnId" (.string native) object
    Members.insert "turnId" (.string turnId) object

def decorate (self : DriverEventSink) (event : DriverEvent) : DriverEvent :=
  match event.payload with
  | .object m =>
    { event with payload := .object (self.decorateTurn (self.decorateRuntime event.eventType m)) }
  | _ => event

/-- `emit` of a sink that is not muted. A snapshot that repeats the last one is not journalled again. -/
def emit (self : DriverEventSink) (event : DriverEvent) (journal : List DriverEvent) :
    DriverEventSink × List DriverEvent :=
  let event := self.decorate event
  if event.eventType ∈ repeatableSnapshotEvents then
    if self.snapshots event.eventType = some event.payload then (self, journal)
    else
      ({ self with snapshots := Function.update self.snapshots event.eventType (some event.payload) },
        journal ++ [event])
  else (self, journal ++ [event])

def emitAll (self : DriverEventSink) (events : List DriverEvent) (journal : List DriverEvent) :
    DriverEventSink × List DriverEvent :=
  events.foldl (fun s event => s.1.emit event s.2) (self, journal)

/-- The sink of a turn, with the runtime of a clone. -/
def redirected (target : DriverEventSink) (runtimeId : Option String) : DriverEventSink :=
  runtimeId.elim target forRuntime

end DriverEventSink

/-- What a clone of the muted sink emits, and the runtime of the clone. -/
structure CloneEvent where
  runtimeId : Option String
  event : DriverEvent

structure PrewarmState where
  deferred : List DriverEvent
  redirect : Option DriverEventSink
  journal : List DriverEvent

namespace PrewarmState

def muted (journal : List DriverEvent) : PrewarmState := { deferred := [], redirect := none, journal }

def emit (self : PrewarmState) (emitted : CloneEvent) : PrewarmState :=
  match self.redirect with
  | none => { self with deferred := self.deferred ++ [emitted.event] }
  | some target =>
    let (sink, journal) := (target.redirected emitted.runtimeId).emit emitted.event self.journal
    -- `for_runtime` does not share the snapshots of the turn
    { self with redirect := some (if emitted.runtimeId.isNone then sink else target), journal }

def emitAll (self : PrewarmState) (emitted : List CloneEvent) : PrewarmState := emitted.foldl emit self

/-- The lock is held throughout, so no event comes in between. -/
def handOver (self : PrewarmState) (turn : DriverEventSink) : PrewarmState :=
  let (turn, journal) := turn.emitAll self.deferred self.journal
  { deferred := [], redirect := some turn, journal }

end PrewarmState

/-- The journal has each event once and in order, but for snapshots that it has already. -/
inductive Collapses (journal : List DriverEvent) : List DriverEvent → List DriverEvent → Prop
  | nil : Collapses journal [] journal
  | keep {events kept : List DriverEvent} (event : DriverEvent) :
      Collapses journal events kept → Collapses journal (events ++ [event]) (kept ++ [event])
  | collapse {events kept : List DriverEvent} {event : DriverEvent} :
      Collapses journal events kept → event.eventType ∈ repeatableSnapshotEvents → event ∈ kept →
      Collapses journal (events ++ [event]) kept

/-- The events with the attribution that a turn gives them. -/
def DriverEventSink.attributed (turn : DriverEventSink) (emitted : List CloneEvent) : List DriverEvent :=
  emitted.map fun e => (turn.redirected e.runtimeId).decorate e.event

lemma DriverEventSink.emit_cases (self : DriverEventSink) (event : DriverEvent) (journal : List DriverEvent) :
    (∃ snapshots, self.emit event journal = ({ self with snapshots }, journal ++ [self.decorate event]) ∧
      ∀ eventType payload, snapshots eventType = some payload →
        self.snapshots eventType = some payload ∨ ⟨eventType, payload⟩ = self.decorate event) ∨
    self.emit event journal = (self, journal) ∧ (self.decorate event).eventType ∈ repeatableSnapshotEvents ∧
      self.snapshots (self.decorate event).eventType = some (self.decorate event).payload := by
  simp only [emit]
  split_ifs with hs hr
  · exact .inr ⟨rfl, hs, hr⟩
  · refine .inl ⟨_, rfl, ?_⟩
    intro eventType payload hsome
    rcases Function.of_update_eq hsome with ⟨htype, ⟨⟩⟩ | ⟨-, hsome⟩
    · exact .inr (by rw [htype])
    · exact .inl hsome
  · exact .inl ⟨self.snapshots, rfl, fun _ _ hsome => .inl hsome⟩

namespace PrewarmState

lemma emitAll_held (deferred journal : List DriverEvent) (emitted : List CloneEvent) :
    emitAll ⟨deferred, none, journal⟩ emitted = ⟨deferred ++ emitted.map (·.event), none, journal⟩ := by
  induction emitted generalizing deferred with
  | nil => simp [emitAll]
  | cons first rest ih =>
    refine (ih (deferred ++ [first.event])).trans ?_
    simp

lemma emitAll_redirected {deferred journal : List DriverEvent} (hp : ∀ e ∈ emitted, e.runtimeId = none) :
    emitAll ⟨deferred, some sink, journal⟩ emitted =
      ⟨deferred, some (sink.emitAll (emitted.map (·.event)) journal).1,
        (sink.emitAll (emitted.map (·.event)) journal).2⟩ := by
  induction emitted generalizing sink journal with
  | nil => rfl
  | cons first rest ih =>
    obtain ⟨hf, hrest⟩ := List.forall_mem_cons.mp hp
    have hemit : emit ⟨deferred, some sink, journal⟩ first =
        ⟨deferred, some (sink.emit first.event journal).1, (sink.emit first.event journal).2⟩ := by
      simp only [emit, hf]
      rfl
    rw [emitAll, List.foldl_cons, hemit]
    exact ih hrest

/-- The events emitted after a turn has taken over have its attribution. -/
structure Attributed (turn : DriverEventSink) (journal : List DriverEvent) (emitted : List CloneEvent)
    (s : PrewarmState) : Prop where
  redirect : ∃ snapshots, s.redirect = some { turn with snapshots } ∧
    ∀ eventType payload, snapshots eventType = some payload → ⟨eventType, payload⟩ ∈ s.journal
  collapses : Collapses journal (turn.attributed emitted) s.journal

namespace Attributed

variable {turn : DriverEventSink} {journal : List DriverEvent} {emitted : List CloneEvent} {s : PrewarmState}

lemma emit (h : Attributed turn journal emitted s) (next : CloneEvent) :
    Attributed turn journal (emitted ++ [next]) (s.emit next) := by
  obtain ⟨runtimeId, event⟩ := next
  obtain ⟨snapshots, hr, hj⟩ := h.redirect
  have ha : turn.attributed (emitted ++ [⟨runtimeId, event⟩]) =
      turn.attributed emitted ++ [(turn.redirected runtimeId).decorate event] := by
    simp [DriverEventSink.attributed]
  rw [PrewarmState.emit, hr]
  cases runtimeId with
  | none =>
    rcases DriverEventSink.emit_cases { turn with snapshots } event s.journal with
      ⟨next, hemit, hnext⟩ | ⟨hemit, hs, hlast⟩
    · simp only [DriverEventSink.redirected, Option.elim_none, hemit]
      refine ⟨⟨next, rfl, ?_⟩, ?_⟩
      · intro eventType payload hsome
        rcases hnext eventType payload hsome with hold | he
        · exact List.mem_append_left _ (hj _ _ hold)
        · exact List.mem_append_right _ (List.mem_singleton.mpr he)
      · rw [ha]
        exact h.collapses.keep _
    · simp only [DriverEventSink.redirected, Option.elim_none, hemit]
      refine ⟨⟨snapshots, rfl, hj⟩, ?_⟩
      rw [ha]
      exact h.collapses.collapse hs (hj _ _ hlast)
  | some runtimeId =>
    rcases DriverEventSink.emit_cases (.forRuntime runtimeId) event s.journal with
      ⟨next, hemit, -⟩ | ⟨-, -, hlast⟩
    · simp only [DriverEventSink.redirected, Option.elim_some, hemit]
      refine ⟨⟨snapshots, rfl, ?_⟩, ?_⟩
      · intro eventType payload hsome
        exact List.mem_append_left _ (hj _ _ hsome)
      · rw [ha]
        exact h.collapses.keep _
    · cases hlast

lemma emitAll (h : Attributed turn journal [] s) (emitted : List CloneEvent) :
    Attributed turn journal emitted (s.emitAll emitted) := by
  induction emitted using List.reverseRecOn with
  | nil => exact h
  | append_singleton rest last ih =>
    rw [PrewarmState.emitAll, List.foldl_append]
    exact ih.emit last

end Attributed

end PrewarmState

/-- A turn takes a prewarm over, and what was emitted before came from clones without a runtime. Then the journal is what
it is if the turn takes over first: each event once and in order, in the attribution of the turn and of its clone. -/
theorem prewarm_transparent (turn : DriverEventSink) (journal : List DriverEvent)
    (hsnapshots : ∀ eventType payload, turn.snapshots eventType = some payload → ⟨eventType, payload⟩ ∈ journal)
    {before : List CloneEvent} (hplain : ∀ e ∈ before, e.runtimeId = none) (after : List CloneEvent) :
    (((PrewarmState.muted journal).emitAll before).handOver turn).emitAll after =
        ((PrewarmState.muted journal).handOver turn).emitAll (before ++ after) ∧
      Collapses journal (turn.attributed (before ++ after))
        ((((PrewarmState.muted journal).emitAll before).handOver turn).emitAll after).journal := by
  have hb : ((PrewarmState.muted journal).emitAll before).handOver turn =
      ((PrewarmState.muted journal).handOver turn).emitAll before := by
    rw [PrewarmState.muted, PrewarmState.emitAll_held]
    exact (PrewarmState.emitAll_redirected hplain).symm
  have hsame : (((PrewarmState.muted journal).emitAll before).handOver turn).emitAll after =
      ((PrewarmState.muted journal).handOver turn).emitAll (before ++ after) := by
    rw [hb]
    exact (List.foldl_append ..).symm
  have hturn : PrewarmState.Attributed turn journal [] ((PrewarmState.muted journal).handOver turn) :=
    ⟨⟨turn.snapshots, rfl, hsnapshots⟩, .nil⟩
  refine ⟨hsame, ?_⟩
  rw [hsame]
  exact (hturn.emitAll (before ++ after)).collapses

/-- The sink of a turn that has emitted nothing yet. -/
def firstTurn : DriverEventSink where
  currentTurnId := some "turn"
  runtimeId := none
  scope := none
  snapshots := fun _ => none

def updatedUsage (runtimeId : Option String) : CloneEvent := ⟨runtimeId, "usage.updated", .object []⟩

/-- A snapshot is kept and repeated after the turn has taken over, and then comes from a runtime. -/
theorem prewarm_transparent_repeated :
    ((((PrewarmState.muted []).emitAll [updatedUsage none]).handOver firstTurn).emitAll
        [updatedUsage none, updatedUsage (some "runtime")]).journal =
      [⟨"usage.updated", .object [("turnId", .string "turn")]⟩,
        ⟨"usage.updated", .object [("runtimeId", .string "runtime"), ("scope", .string "session")]⟩] ∧
    (((PrewarmState.muted []).emitAll [updatedUsage none]).handOver firstTurn).emitAll
        [updatedUsage none, updatedUsage (some "runtime")] = ((PrewarmState.muted []).handOver firstTurn).emitAll
        [updatedUsage none, updatedUsage none, updatedUsage (some "runtime")] :=
  ⟨by decide +kernel, (prewarm_transparent firstTurn [] nofun (by simp [updatedUsage]) _).1⟩

/-- An event that a clone for a runtime emits before a turn takes over has the attribution of the turn. -/
theorem prewarm_loses_runtime :
    (((PrewarmState.muted []).emitAll [updatedUsage (some "runtime")]).handOver firstTurn).journal =
        [⟨"usage.updated", .object [("turnId", .string "turn")]⟩] ∧
      (((PrewarmState.muted []).handOver firstTurn).emitAll [updatedUsage (some "runtime")]).journal =
        [⟨"usage.updated", .object [("runtimeId", .string "runtime"), ("scope", .string "session")]⟩] := by
  decide +kernel

end Todex
