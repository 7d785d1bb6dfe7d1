import Todex.Permissions.Broker

/-!
# Permissions are answered once

A step of the broker is about one permission id, so what holds of a request follows from what the state has about
its id. The entry of a request is taken out before an answer is sent: there is one answer at most, and it is one
that the request allows.
-/

namespace Todex

/-! ### What there is about one id -/

/-- What the state has about one permission id. -/
@[ext] structure PermissionView where
  pending : Option PendingPermission
  call : Option PermissionCall
  events : List PermissionEvent
  resolves : List ResolvedPermission
  policyAnswers : List PolicyAnswer
  returns : List ReturnedPermission

/-- Nothing is known of the id. -/
def PermissionView.unknown : PermissionView := ⟨none, none, [], [], [], []⟩

variable {call : PermissionCall} {new : NewPermission} {answer : PermissionAnswer} {event : PermissionEvent}

namespace BrokerState

def view (self : BrokerState) (id : String) : PermissionView where
  pending := self.pending id
  call := self.calls id
  events := self.journal.filter (·.permissionId = id)
  resolves := self.resolves.filter (·.permissionId = id)
  policyAnswers := self.policyAnswers.filter (·.permissionId = id)
  returns := self.returns.filter (·.permissionId = id)

/-- The state changes at one id. -/
structure Changes (id : String) (s t : BrokerState) (v : PermissionView) : Prop where
  here : t.view id = v
  there : ∀ other, other ≠ id → t.view other = s.view other

namespace Changes

variable {id : String} {s t u : BrokerState} {v w : PermissionView}

lemma trans (h : Changes id s t v) (h' : Changes id t u w) : Changes id s u w where
  here := h'.here
  there other ho := (h'.there other ho).trans (h.there other ho)

lemma refl (id : String) (s : BrokerState) : Changes id s s (s.view id) := ⟨rfl, fun _ _ => rfl⟩

lemma setCall (id : String) (s : BrokerState) (call : PermissionCall) :
    Changes id s (s.setCall id call) { s.view id with call := some call } where
  here := by simp [view, BrokerState.setCall]
  there other ho := by simp [view, BrokerState.setCall, ho]

lemma removePending (id : String) (s : BrokerState) :
    Changes id s (s.removePending id) { s.view id with pending := none } where
  here := by simp [view, BrokerState.removePending]
  there other ho := by simp [view, BrokerState.removePending, ho]

lemma append (s : BrokerState) (he : event.permissionId = id) :
    Changes id s (s.append event) { s.view id with events := (s.view id).events ++ [event] } where
  here := by simp [view, BrokerState.append, he]
  there other ho := by simp [view, BrokerState.append, he, ho.symm]

lemma appendIf (s : BrokerState) (kept : Bool) (he : event.permissionId = id) :
    ∃ events, Changes id s (s.appendIf kept event) { s.view id with events := events } := by
  cases kept with
  | false => exact ⟨(s.view id).events, refl id s⟩
  | true => exact ⟨_, append s he⟩

lemma logPolicy (s : BrokerState) {answer : PolicyAnswer} (ha : answer.permissionId = id) :
    Changes id s (s.logPolicy answer) { s.view id with policyAnswers := (s.view id).policyAnswers ++ [answer] } where
  here := by simp [view, BrokerState.logPolicy, ha]
  there other ho := by simp [view, BrokerState.logPolicy, ha, ho.symm]

lemma logResolve (s : BrokerState) (hr : resolved.permissionId = id) :
    Changes id s (s.logResolve resolved) { s.view id with resolves := (s.view id).resolves ++ [resolved] } where
  here := by simp [view, BrokerState.logResolve, hr]
  there other ho := by simp [view, BrokerState.logResolve, hr, ho.symm]

lemma finish (id : String) (s : BrokerState) (call : PermissionCall) (answer : Option PermissionAnswer)
    (appendFailed : Bool) : Changes id s (s.finish id call answer appendFailed) { s.view id with
        pending := none
        call := some { call with stage := .returned }
        returns := (s.view id).returns ++ [{ permissionId := id, new := call.new, answer, appendFailed }] } where
  here := by simp [view, BrokerState.finish, BrokerState.setCall, BrokerState.removePending]
  there other ho := by
    simp [view, BrokerState.finish, BrokerState.setCall, BrokerState.removePending, ho, ho.symm]

lemma refused (s : BrokerState) (ho : normalizePermissionOptions new.options = .error e) :
    Changes id s (s.request id new) { s.view id with
        call := some { new, pending := new.pending .null, stage := .returned, received := none }
        returns := (s.view id).returns ++ [{ permissionId := id, new, answer := none, appendFailed := false }] } where
  here := by simp [view, BrokerState.request, ho]
  there other hot := by simp [view, BrokerState.request, ho, hot, hot.symm]

lemma requested (s : BrokerState) {options : Json} (ho : normalizePermissionOptions new.options = .ok options) :
    Changes id s (s.request id new) { s.view id with
        pending := some (new.pending options)
        call := some { new, pending := new.pending options, stage := .announcing, received := none } } where
  here := by simp [view, BrokerState.request, ho]
  there other hot := by simp [view, BrokerState.request, ho, hot]

end Changes

lemma send_eq {s t : BrokerState} {id : String} (h : s.send id answer = some t) :
    ∃ call, s.calls id = some call ∧ call.stage.listens ∧ t = s.setCall id { call with received := some answer } := by
  obtain ⟨call, hc, h⟩ := Option.bind_eq_some_iff.1 h
  obtain ⟨u, hg, h⟩ := Option.bind_eq_some_iff.1 h
  cases h
  have hl : call.stage.listens = true ∧ () = u := by simpa [guard] using hg
  exact ⟨call, hc, hl.1, rfl⟩

lemma send_of_listens {s : BrokerState} {id : String} (hc : s.calls id = some call) (hl : call.stage.listens) :
    s.send id answer = some (s.setCall id { call with received := some answer }) := by
  simp [send, hc, hl, guard]

end BrokerState

lemma PermissionStage.isOpen_of_listens {stage : PermissionStage} (h : stage.listens) : stage.isOpen := by
  cases stage with
  | announcing => rfl
  | consulting => rfl
  | waiting => rfl
  | closing answer => rfl
  | returned => cases h
  | dropped => cases h

/-! ### The invariant -/

/-- The answer is one of the policy, or was sent by `resolve` for this conversation from a device that the request
allows, and fits what was offered. -/
def PermissionView.Entitled (N : JsonNumbers) (v : PermissionView) (pending : PendingPermission)
    (answer : PermissionAnswer) : Prop :=
  (∃ given ∈ v.policyAnswers, given.answer = answer) ∨
  ∃ resolved ∈ v.resolves, resolved.conversationId = pending.conversationId ∧
    (resolved.decision, resolved.deviceId) = answer ∧
    (∀ allowed ∈ pending.allowedDevices, resolved.deviceId ∈ allowed) ∧
    validatePermissionDecision N pending.kind pending.details pending.options resolved.decision = .ok ()

/-- The events of a call that has not ended. -/
def PermissionCall.events (id : String) (call : PermissionCall) : List PermissionEvent :=
  match call.stage with
  | .announcing => []
  | _ => [.requested id (requestedPayload id call.new call.pending.options)]

/-- A call that has not ended. -/
structure OpenCallOk (N : JsonNumbers) (id : String) (v : PermissionView) (call : PermissionCall) : Prop where
  options : ∃ options, normalizePermissionOptions call.new.options = .ok options ∧
    call.pending = call.new.pending options
  events : v.events = call.events id
  returns : v.returns = []
  entitled : ∀ answer, call.received = some answer → v.Entitled N call.pending answer
  answer : ∀ answer, call.stage = .closing (some answer) → call.received = some answer

/-- A call that returned. -/
structure ReturnOk (N : JsonNumbers) (id : String) (v : PermissionView) (returned : ReturnedPermission) : Prop where
  entitled : ∀ answer, returned.answer = some answer → ∃ options,
    normalizePermissionOptions returned.new.options = .ok options ∧ v.Entitled N (returned.new.pending options) answer
  events : ∀ options, normalizePermissionOptions returned.new.options = .ok options → returned.appendFailed = false →
    v.events = [.requested id (requestedPayload id returned.new options),
      .resolved id (resolvedPayload id returned.answer)]

structure ViewOk (N : JsonNumbers) (id : String) (v : PermissionView) : Prop where
  unknown : v.call = none → v = .unknown
  call : ∀ call, v.call = some call → call.stage.isOpen → OpenCallOk N id v call
  pending : ∀ pending, v.pending = some pending →
    ∃ call, v.call = some call ∧ call.stage.isOpen ∧ call.pending = pending ∧ call.received = none
  resolved : v.resolves ≠ [] → v.pending = none
  resolvedOnce : v.resolves.length ≤ 1
  returned : ∀ returned ∈ v.returns, ReturnOk N id v returned
  returnedOnce : v.returns.length ≤ 1

namespace ViewOk

variable {N : JsonNumbers} {id : String} {v : PermissionView} {call : PermissionCall}

lemma of_unknown : ViewOk N id .unknown where
  unknown _ := rfl
  call _ hc := by cases hc
  pending _ hp := by cases hp
  resolved h := absurd rfl h
  resolvedOnce := Nat.zero_le 1
  returned _ hr := by cases hr
  returnedOnce := Nat.zero_le 1

lemma setCall (h : ViewOk N id v) (hc : v.call = some call)
    (hop : call.stage.isOpen) (hs : next.stage.isOpen) (hp : next.pending = call.pending)
    (hre : next.received = call.received) (hne : OpenCallOk N id { v with call := some next, events := events } next) :
    ViewOk N id { v with call := some next, events := events } where
  __ := h
  unknown := nofun
  call other ho _ := by
    cases ho
    exact hne
  pending pending he := by
    obtain ⟨other, ho, -, hsa, hn⟩ := h.pending pending he
    cases hc.symm.trans ho
    exact ⟨next, rfl, hs, hp.trans hsa, hre.trans hn⟩
  returned returned hr := by
    have hn := (h.call call hc hop).returns
    rw [hn] at hr
    cases hr

lemma dropped (h : ViewOk N id v) (hc : v.call = some call) (hop : call.stage.isOpen) :
    ViewOk N id { v with pending := none, call := some { call with stage := .dropped } } where
  __ := h
  unknown := nofun
  call other ho ho' := by
    cases ho
    cases ho'
  pending := nofun
  resolved _ := rfl
  returned returned hr := by
    have hn := (h.call call hc hop).returns
    rw [hn] at hr
    cases hr

lemma finish (h : ViewOk N id v) (hc : v.call = some call) (hop : call.stage.isOpen)
    {returned : ReturnedPermission} {events : List PermissionEvent}
    (hr : ReturnOk N id { v with events := events } returned) :
    ViewOk N id { v with
      pending := none
      call := some { call with stage := .returned }
      events := events
      returns := v.returns ++ [returned] } where
  unknown := nofun
  call other ho ho' := by
    cases ho
    cases ho'
  pending := nofun
  resolved _ := rfl
  resolvedOnce := h.resolvedOnce
  returned other ho := by
    rw [(h.call call hc hop).returns, List.nil_append, List.mem_singleton] at ho
    rw [ho]
    exact ⟨hr.entitled, hr.events⟩
  returnedOnce := by
    rw [(h.call call hc hop).returns, List.nil_append, List.length_singleton]

lemma returnOk_of_failed : ReturnOk N id v { permissionId := id, new, answer := none, appendFailed := true } :=
  ⟨nofun, nofun⟩

lemma expire (h : ViewOk N id v) : ViewOk N id { v with pending := none } where
  __ := h
  unknown hn := by
    rw [h.unknown hn]
    rfl
  call call hc ho :=
    have hc := h.call call hc ho
    ⟨hc.options, hc.events, hc.returns, hc.entitled, hc.answer⟩
  pending := nofun
  resolved _ := rfl
  returned returned hr :=
    have hr := h.returned returned hr
    ⟨hr.entitled, hr.events⟩

lemma pending_of_listens (h : ViewOk N id v) (hc : v.call = some call) {pending : PendingPermission}
    (hp : v.pending = some pending) : call.pending = pending ∧ call.stage.isOpen := by
  obtain ⟨other, ho, hop, hs, -⟩ := h.pending pending hp
  cases hc.symm.trans ho
  exact ⟨hs, hop⟩

/-- An answer is sent to a call that listens, and its entry is gone. -/
lemma answered (h : ViewOk N id v) (hc : v.call = some call) (hl : call.stage.listens)
    {resolves : List ResolvedPermission} {policyAnswers : List PolicyAnswer} (hre : resolves.length ≤ 1)
    (he : PermissionView.Entitled N { v with resolves := resolves, policyAnswers := policyAnswers }
      call.pending answer) :
    ViewOk N id { v with
      pending := none
      call := some { call with received := some answer }
      resolves := resolves
      policyAnswers := policyAnswers } := by
  have ho : call.stage.isOpen := PermissionStage.isOpen_of_listens hl
  have hok := h.call call hc ho
  refine ⟨nofun, ?_, nofun, fun _ => rfl, hre, ?_, h.returnedOnce⟩
  · rintro other ⟨⟩ -
    refine ⟨hok.options, hok.events, hok.returns, ?_, ?_⟩
    · rintro other ⟨⟩
      exact he
    · intro other hs
      rw [hs] at hl
      cases hl
  · intro returned hr
    rw [hok.returns] at hr
    cases hr

lemma request {options : Json} (ho : normalizePermissionOptions new.options = .ok options) :
    ViewOk N id { PermissionView.unknown with
      pending := some (new.pending options)
      call := some { new, pending := new.pending options, stage := .announcing, received := none } } := by
  refine ⟨nofun, ?_, ?_, fun h => absurd rfl h, Nat.zero_le 1, nofun, Nat.zero_le 1⟩
  · rintro call ⟨⟩ -
    exact ⟨⟨options, ho, rfl⟩, rfl, rfl, nofun, nofun⟩
  · rintro pending ⟨⟩
    exact ⟨_, rfl, rfl, rfl, rfl⟩

lemma refused (ho : normalizePermissionOptions new.options = .error e) : ViewOk N id { PermissionView.unknown with
      call := some { new, pending := new.pending .null, stage := .returned, received := none }
      returns := [{ permissionId := id, new, answer := none, appendFailed := false }] } := by
  refine ⟨nofun, ?_, nofun, fun _ => rfl, Nat.zero_le 1, ?_, le_rfl⟩
  · rintro call ⟨⟩ ⟨⟩
  · intro returned hr
    rw [List.mem_singleton] at hr
    rw [hr]
    refine ⟨nofun, ?_⟩
    intro options hok
    cases ho.symm.trans hok

end ViewOk

/-! ### Steps -/

/-- What the state has about every id is in order. -/
def BrokerOk (N : JsonNumbers) (s : BrokerState) : Prop := ∀ id, ViewOk N id (s.view id)

namespace BrokerOk

variable {N : JsonNumbers} {s t : BrokerState} {id : String} {v : PermissionView}

variable (h : BrokerOk N s)

include h

lemma of_changes (hc : BrokerState.Changes id s t v) (hv : ViewOk N id v) : BrokerOk N t := by
  intro other
  by_cases ho : other = id
  · rw [ho, hc.here]
    exact hv
  · rw [hc.there other ho]
    exact h other

omit h in
lemma start : BrokerOk N .empty := fun _ => .of_unknown

lemma request (hf : s.calls id = none) : BrokerOk N (s.request id new) := by
  have hu : s.view id = .unknown := (h id).unknown hf
  cases ho : normalizePermissionOptions new.options with
  | error e =>
    have hc : BrokerState.Changes id s _ _ := .refused s ho
    rw [hu] at hc
    exact h.of_changes hc (ViewOk.refused ho)
  | ok options =>
    have hc : BrokerState.Changes id s _ _ := .requested s ho
    rw [hu] at hc
    exact h.of_changes hc (ViewOk.request ho)

lemma setStage (hc : s.calls id = some call) (ho : call.stage.isOpen) (hs : stage.isOpen)
    (he : PermissionCall.events id { call with stage := stage } = call.events id)
    (ha : ∀ answer, stage = .closing (some answer) → call.received = some answer) :
    BrokerOk N (s.setCall id { call with stage := stage }) := by
  have hok := (h id).call call hc ho
  refine h.of_changes (.setCall id s _) ((h id).setCall hc ho hs rfl rfl ?_)
  exact ⟨hok.options, hok.events.trans he.symm, hok.returns, hok.entitled, ha⟩

/-- `permission.requested` is in the journal. -/
lemma announced (hca : s.calls id = some call) (hs : call.stage = .announcing) :
    BrokerOk N ((s.setCall id { call with stage := .consulting }).append
      (.requested id (requestedPayload id call.new call.pending.options))) := by
  have ho : call.stage.isOpen := by rw [hs]; rfl
  have hok := (h id).call call hca ho
  have hse := BrokerState.Changes.setCall id s { call with stage := .consulting }
  have hev : PermissionEvent.permissionId
    (.requested id (requestedPayload id call.new call.pending.options)) = id := rfl
  have hc := BrokerState.Changes.append (s.setCall id { call with stage := .consulting }) hev
  rw [hse.here] at hc
  refine h.of_changes (hse.trans hc) ((h id).setCall hca ho rfl rfl rfl ?_)
  refine ⟨hok.options, ?_, hok.returns, hok.entitled, nofun⟩
  have he := hok.events
  rw [PermissionCall.events, hs] at he
  dsimp only at he ⊢
  rw [he]
  rfl

lemma failed (hc : s.calls id = some call) (ho : call.stage.isOpen) (kept : Bool) (hev : event.permissionId = id) :
    BrokerOk N ((s.finish id call none true).appendIf kept event) := by
  have hf := BrokerState.Changes.finish id s call none true
  obtain ⟨events, he⟩ := BrokerState.Changes.appendIf (s.finish id call none true) kept hev
  rw [hf.here] at he
  exact h.of_changes (hf.trans he) ((h id).finish hc ho ViewOk.returnOk_of_failed)

/-- `permission.resolved` is in the journal, and the call returns. -/
lemma closed {answer : Option PermissionAnswer} (hca : s.calls id = some call) (hs : call.stage = .closing answer) :
    BrokerOk N ((s.finish id call answer false).append (.resolved id (resolvedPayload id answer))) := by
  have hop : call.stage.isOpen := by rw [hs]; rfl
  have hok := (h id).call call hca hop
  obtain ⟨options, ho, hp⟩ := hok.options
  have hf := BrokerState.Changes.finish id s call answer false
  have hev : PermissionEvent.permissionId (.resolved id (resolvedPayload id answer)) = id := rfl
  have hc := BrokerState.Changes.append (s.finish id call answer false) hev
  rw [hf.here] at hc
  refine h.of_changes (hf.trans hc) ((h id).finish hca hop ⟨?_, ?_⟩)
  · rintro answer ⟨⟩
    refine ⟨options, ho, ?_⟩
    rw [← hp]
    exact hok.entitled answer (hok.answer answer hs)
  · intro options' ho' _
    cases ho.symm.trans ho'
    have he := hok.events
    rw [PermissionCall.events, hs, hp] at he
    dsimp only at he ⊢
    rw [he]
    rfl

lemma decide (hc : s.calls id = some call)
    (hl : call.stage.listens) (answer : PermissionAnswer) : BrokerOk N (s.decide id call answer) := by
  cases hp : s.pending id with
  | none =>
    rw [BrokerState.decide, hp]
    exact h
  | some pending =>
    rw [BrokerState.decide, hp]
    dsimp only
    obtain ⟨given, hg, hid, ha⟩ : ∃ given : PolicyAnswer, given = {
        permissionId := id, conversationId := call.new.conversationId, options := pending.options,
        deviceBound := call.new.allowedDevices.isSome, answer } ∧ given.permissionId = id ∧ given.answer = answer :=
      ⟨_, rfl, rfl, rfl⟩
    rw [← hg]
    -- the answer of the policy is logged, and sent to the call, which listens
    have hr := BrokerState.Changes.removePending id s
    have hlg := BrokerState.Changes.logPolicy (s.removePending id) hid
    rw [hr.here] at hlg
    have hs := BrokerState.Changes.setCall id ((s.removePending id).logPolicy given)
      { call with received := some answer }
    rw [hlg.here] at hs
    have hlo : ((s.removePending id).logPolicy given).calls id = some call := hc
    rw [BrokerState.send_of_listens hlo hl, Option.getD_some]
    refine h.of_changes ((hr.trans hlg).trans hs)
      ((h id).answered hc hl (h id).resolvedOnce (.inl ⟨given, ?_, ha⟩))
    exact List.mem_append_right _ List.mem_cons_self

lemma resolve (conversationId deviceId : String) (decision : PermissionDecision) :
    BrokerOk N (s.resolve N conversationId id deviceId decision).2 := by
  cases hp : s.pending id with
  | none =>
    rw [BrokerState.resolve, hp]
    exact h
  | some pending =>
    rw [BrokerState.resolve, hp]
    dsimp only
    cases hch : pending.check N conversationId deviceId decision with
    | error e => exact h
    | ok u =>
      dsimp only
      have hre := BrokerState.Changes.removePending id s
      cases hse : (s.removePending id).send id (decision, deviceId) with
      | none => exact h.of_changes hre (h id).expire
      | some t =>
        obtain ⟨call, hca, hl, rfl⟩ := BrokerState.send_eq hse
        have hst := BrokerState.Changes.setCall id (s.removePending id)
          { call with received := some (decision, deviceId) }
        rw [hre.here] at hst
        obtain ⟨resolved, hr⟩ : ∃ resolved : ResolvedPermission,
            resolved = ⟨conversationId, id, deviceId, decision⟩ := ⟨_, rfl⟩
        have hid : resolved.permissionId = id := by rw [hr]
        have hlo := BrokerState.Changes.logResolve
          ((s.removePending id).setCall id { call with received := some (decision, deviceId) }) hid
        rw [hst.here] at hlo
        rw [← hr]
        -- the entry was there, so no call of `resolve` had succeeded
        have hn : (s.view id).resolves = [] := by
          by_contra hso
          cases hp.symm.trans ((h id).resolved hso)
        have ho : ((s.view id).resolves ++ [resolved]).length ≤ 1 := by
          rw [hn, List.nil_append, List.length_singleton]
        obtain ⟨hs, -⟩ := (h id).pending_of_listens hca hp
        simp only [PendingPermission.check, Except.require_bind_eq_ok] at hch
        obtain ⟨hc, ha, hv⟩ := hch
        refine h.of_changes ((hre.trans hst).trans hlo) ((h id).answered hca hl ho (.inr ?_))
        rw [hs]
        refine ⟨resolved, List.mem_append_right _ List.mem_cons_self, ?_⟩
        rw [hr]
        exact ⟨hc.symm, rfl, ha, hv⟩

/-- Every step keeps the state in order. -/
lemma step (hst : BrokerStep N s t) : BrokerOk N t := by
  cases hst with
  | request permissionId new hf => exact h.request hf
  | announced permissionId hc hs => exact h.announced hc hs
  | announceFailed permissionId hc hs kept =>
    refine h.failed hc ?_ kept rfl
    rw [hs]
    rfl
  | undecided permissionId hc hs =>
    refine h.setStage hc (by rw [hs]; rfl) rfl ?_ nofun
    rw [PermissionCall.events, PermissionCall.events, hs]
  | @decided permissionId call hc hs answer =>
    have hw : BrokerOk N (s.setCall permissionId { call with stage := .waiting }) := by
      refine h.setStage hc (by rw [hs]; rfl) rfl ?_ nofun
      rw [PermissionCall.events, PermissionCall.events, hs]
    exact hw.decide (Function.update_self _ _ _) rfl answer
  | resolve conversationId permissionId deviceId decision => exact h.resolve conversationId deviceId decision
  | received permissionId hc hs hre =>
    refine h.setStage hc (by rw [hs]; rfl) rfl ?_ ?_
    · rw [PermissionCall.events, PermissionCall.events, hs]
    · rintro answer ⟨⟩
      exact hre
  | cancelled permissionId hc hs =>
    refine h.setStage hc (by rw [hs]; rfl) rfl ?_ nofun
    rw [PermissionCall.events, PermissionCall.events, hs]
  | closed permissionId hc hs => exact h.closed hc hs
  | closeFailed permissionId hc hs kept =>
    refine h.failed hc ?_ kept rfl
    rw [hs]
    rfl
  | @dropped permissionId call hc ho =>
    have hse := BrokerState.Changes.setCall permissionId s { call with stage := .dropped }
    have hr := BrokerState.Changes.removePending permissionId (s.setCall permissionId { call with stage := .dropped })
    rw [hse.here] at hr
    exact h.of_changes (hse.trans hr) ((h permissionId).dropped hc ho)
  | expireAll =>
    intro id
    exact (h id).expire

omit h in
lemma of_run (run : BrokerRun N s) : BrokerOk N s := by
  induction run with
  | start => exact start
  | step _ hs ih => exact ih.step hs

end BrokerOk

end Todex
