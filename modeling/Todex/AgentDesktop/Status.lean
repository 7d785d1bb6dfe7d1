import Todex.AgentDesktop.Screen

/-!
# The status at the host

The person at the host sees a status while an agent holds the screen. The lease is changed or looked at under its mutex
and the host is told afterwards, so two operations may tell it in another order than they have had the mutex in.
-/

namespace Todex

/-- `claim_screen` tells the host of a lease that has started. -/
def claimCall : Except String ScreenUse → Option Bool
  | .ok { claim := .started _, .. } => some true
  | _ => none

/-- The call of `session` that an operation makes when it has changed the lease: whether it shows a status. -/
def DesktopAction.sessionCall (self : DesktopAction) (s : Desktop) : Option Bool :=
  match self with
  | claim conversationId => claimCall (s.claimScreen conversationId).1
  | release conversationId id => if (s.endLease conversationId id).1 then some false else none
  | expire => if s.expireScreens.1 = [] then none else some false
  | endRevoke _ conversationId => if (s.endRevoke conversationId).1 then some false else none
  | _ => none

/-- The desktop and the host. -/
structure ScreenStatus where
  desktop : Desktop
  /-- The calls of operations in progress, in the order in which they have had the mutex. -/
  calls : List Bool
  /-- The last call said that a status is shown. -/
  shown : Bool

def ScreenStatus.load (now : ℕ) : ScreenStatus where
  desktop := .load now
  calls := []
  shown := false

/-- `Meets` is asked of the earlier calls that a call overtakes. -/
inductive StatusStep (Meets : List Bool → Prop) (s : ScreenStatus) : ScreenStatus → Prop
  | act {action : DesktopAction} {t : Desktop} (hstep : DesktopStep action s.desktop t) :
      StatusStep Meets s
        { s with
          desktop := t
          calls := s.calls ++ (action.sessionCall s.desktop).toList }
  /-- `run_computer` goes on to show what it does, if it still holds the lease. -/
  | announce {conversationId : String} {id : ℕ} (free : s.desktop.lock = .free)
      (held : s.desktop.holds conversationId id = true) : StatusStep Meets s { s with calls := s.calls ++ [true] }
  | tell (earlier later : List Bool) (shown : Bool) (hcalls : s.calls = earlier ++ shown :: later)
      (hmeets : Meets earlier) : StatusStep Meets s { s with calls := earlier ++ later, shown }

/-- What the host is told fits the lease. -/
def CallFits (s t : Desktop) (call : Option Bool) : Prop := t.lease.isSome = call.getD s.lease.isSome

lemma callFits_endLease (s : Desktop) (cid : String) (id : Option ℕ) :
    CallFits s (s.endLease cid id).2 (if (s.endLease cid id).1 then some false else none) := by
  unfold Desktop.endLease
  split
  · split <;> rfl
  · rfl

lemma callFits_claim (s : Desktop) (cid : String) :
    CallFits s (s.claimScreen cid).2 (claimCall (s.claimScreen cid).1) := by
  rw [Desktop.claimScreen]
  split
  · next current hl =>
    split_ifs
    · simp [CallFits, claimCall, hl]
    · rfl
    · rfl
  · rfl

lemma callFits_expire (s : Desktop) : CallFits s s.expireScreens.2 (DesktopAction.expire.sessionCall s) := by
  unfold DesktopAction.sessionCall Desktop.expireScreens
  split
  · next lease hl =>
    split
    · simp [CallFits, Desktop.endLease, hl]
    · rfl
  · rfl

lemma callFits (hs : DesktopStep action s t) : CallFits s t (action.sessionCall s) := by
  cases hs with
  | claim cid => exact callFits_claim s cid
  | release cid id | endRevoke c cid => exact callFits_endLease s cid _
  | expire => exact callFits_expire s
  | dropUse use => simp [CallFits, DesktopAction.sessionCall, Desktop.dropUse]
  | tick | beginApprove | endApprove | beginRevoke | dropApps | setGrant => rfl

/-- The last of the calls, made or not, fits the lease. -/
def StatusOk (s : ScreenStatus) : Prop := (s.shown :: s.calls).getLast? = some s.desktop.lease.isSome

lemma isSome_lease_of_holds {s : Desktop} {conversationId : String} {id : ℕ} (h : s.holds conversationId id = true) :
    s.lease.isSome = true := by
  cases hl : s.lease with
  | none => simp [Desktop.holds, hl] at h
  | some lease => rfl

lemma StatusOk.step (h : StatusOk s) (hs : StatusStep (· = []) s t) : StatusOk t := by
  cases hs with
  | @act action t hstep =>
    have hfits := callFits hstep
    cases hcall : action.sessionCall s.desktop with
    | none =>
      rw [CallFits, hcall, Option.getD_none] at hfits
      simpa only [StatusOk, Option.toList_none, List.append_nil, hfits] using h
    | some shown =>
      rw [CallFits, hcall, Option.getD_some] at hfits
      simp [StatusOk, hfits, List.getLast?_cons]
  | announce _ held => simp [StatusOk, isSome_lease_of_holds held, List.getLast?_cons]
  | tell earlier later shown hcalls hmeets =>
    subst hmeets
    rw [StatusOk, hcalls] at h
    simpa [StatusOk, List.getLast?_cons] using h

/-- If the host is told in the order in which the operations have had the mutex, then it shows a status exactly while
there is a lease, whenever no operation is in progress. -/
theorem status_follows_lease {now : ℕ} {s : ScreenStatus}
    (hrun : Relation.ReflTransGen (StatusStep (· = [])) (.load now) s) (hcalls : s.calls = []) :
    s.shown = s.desktop.lease.isSome := by
  have hok : StatusOk s := by
    clear hcalls
    induction hrun with
    | refl => rfl
    | tail _ hstep ih => exact ih.step hstep
  rw [StatusOk, hcalls] at hok
  exact Option.some.inj hok

/-- A lease is claimed and the host is told. -/
theorem status_follows_lease_claim : ∃ s : ScreenStatus, s.desktop.lease.isSome ∧ s.shown = true := by
  have run : Relation.ReflTransGen (StatusStep (· = [])) (.load 0) _ := .refl
  have run := run.tail (.act (.claim "conversation" rfl))
  have run := run.tail (.tell [] [] true rfl rfl)
  have hl : Option.isSome _ = true := (status_follows_lease run rfl).symm
  exact ⟨_, hl, rfl⟩

/-- The lease of one conversation ends and that of another begins. The host is told of the new lease first. -/
theorem status_hidden_under_lease :
    ∃ s, Relation.ReflTransGen (StatusStep fun _ => True) (.load 0) s ∧ s.calls = [] ∧ s.desktop.lock = .free ∧
      s.shown = false ∧ s.desktop.lease.map (·.conversationId) = some "b" := by
  have run : Relation.ReflTransGen (StatusStep fun _ => True) (.load 0) _ := .refl
  have run := run.tail (.act (.claim "a" rfl))
  have run := run.tail (.tell [] [] true rfl trivial)
  have run := run.tail (.act (.release "a" none rfl))
  have run := run.tail (.act (.claim "b" rfl))
  have run := run.tail (.tell [false] [] true rfl trivial)
  have run := run.tail (.tell [] [] false rfl trivial)
  exact ⟨_, run, rfl, rfl, rfl, rfl⟩

end Todex
