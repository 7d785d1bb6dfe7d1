import Todex.HistoryKeys.Changes
import Todex.Lib.SharedFile

/-!
# Blocked devices stay blocked

The daemon and the processes that revoke devices read, modify and replace `recipients.json` without a
lock. The daemon compares the stamp of the file before an operation and reads it again after it has
replaced the file. A block is lost if one process replaces the file while another has read it and not
replaced it yet.
-/

namespace Todex

/-! ### States and steps -/

/-- The daemon's copy of the file. -/
structure RecipientsInner where
  file : RecipientsFile
  stamp : Nat

/-- What the daemon's operation does next. -/
inductive RecipientsTask
  | idle
  /-- Read the stamp, when the daemon starts. -/
  | loading
  /-- Compare the stamp of the file. -/
  | checking (op : RecipientOp)
  /-- Read the content of the file. No operation follows when the daemon starts. -/
  | reading (op : Option RecipientOp) (stamp : Nat)
  /-- Replace the file. -/
  | writing (op : RecipientOp) (file : RecipientsFile)
  /-- Sync the directory and read the stamp of the new file. -/
  | stamping (file : RecipientsFile)

/-- What a revocation by another process does next. -/
inductive RecipientsRevocation
  | idle
  | reading (target : DeviceRevocation)
  | writing (target : DeviceRevocation) (file : RecipientsFile)

/-- What has happened so far. -/
inductive RecipientsEvent
  /-- A revocation returned, and the file was there. -/
  | revoked (target : DeviceRevocation)
  /-- `restore_device` replaced the file. -/
  | restored (deviceId : String)
  /-- `ensure_access` let a device pass. -/
  | granted (deviceId : String)

structure RecipientsState where
  /-- The versions of `recipients.json`; one that does not parse has no content. -/
  file : SharedFile (Option RecipientsFile)
  inner : RecipientsInner
  task : RecipientsTask
  revocations : Nat → RecipientsRevocation
  /-- Newest first. -/
  log : List RecipientsEvent

namespace RecipientsState

/-- A daemon that starts. -/
def initial (file : SharedFile (Option RecipientsFile)) : RecipientsState where
  file
  inner := { file := {}, stamp := 0 }
  task := .loading
  revocations := fun _ => .idle
  log := []

def note (self : RecipientsState) (event : Option RecipientsEvent) : RecipientsState :=
  { self with log := event.toList ++ self.log }

def setRevocation (self : RecipientsState) (process : Nat) (task : RecipientsRevocation) :
    RecipientsState :=
  { self with revocations := Function.update self.revocations process task }

@[simp] lemma setRevocation_self (self : RecipientsState) (process : Nat)
    (task : RecipientsRevocation) : (self.setRevocation process task).revocations process = task :=
  Function.update_self ..

lemma setRevocation_of_ne (self : RecipientsState) (task : RecipientsRevocation) (h : other ≠ process) :
    (self.setRevocation process task).revocations other = self.revocations other :=
  Function.update_of_ne h ..

end RecipientsState

/-- What an operation that succeeds tells its caller. -/
def RecipientOp.answer : RecipientOp → Option RecipientsEvent
  | .ensureAccess deviceId => some (.granted deviceId)
  | _ => none

/-- What an operation did once the file is replaced. -/
def RecipientOp.done (self : RecipientOp) : Option RecipientsEvent := self.lifted.map .restored

namespace RecipientsState

/-- The daemon's operation on its copy. A copy that differs is written. -/
def resume (P : RecipientPrimitives) (devices : Option (String → Except AppError Bool))
    (now : DateTime) (self : RecipientsState) (op : RecipientOp) : RecipientsState :=
  match self.inner.file.applied P devices now (op.run P devices.isSome now) with
  | .error _ => { self with task := .idle }
  | .ok (_, file) =>
    { self.note op.answer with task := if file = self.inner.file then .idle else .writing op file }

end RecipientsState

/-- One file access of one of the processes. -/
inductive RecipientsStep (P : RecipientPrimitives) :
    RecipientsState → RecipientsState → Prop
  | start {s : RecipientsState} (op : RecipientOp) : s.task = .idle →
      RecipientsStep P s { s with task := .checking op }
  | load {s : RecipientsState} : s.task = .loading →
      RecipientsStep P s { s with task := .reading none s.file.stamp }
  | unchanged {s : RecipientsState} {op : RecipientOp}
      (devices : Option (String → Except AppError Bool)) (now : DateTime) :
      s.task = .checking op → s.file.stamp = s.inner.stamp →
      RecipientsStep P s (s.resume P devices now op)
  | changed {s : RecipientsState} {op : RecipientOp} : s.task = .checking op →
      s.file.stamp ≠ s.inner.stamp →
      RecipientsStep P s { s with task := .reading (some op) s.file.stamp }
  /-- A file that is not there has no recipients. -/
  | read {s : RecipientsState} {op : Option RecipientOp} {stamp : Nat} {file : RecipientsFile}
      (devices : Option (String → Except AppError Bool)) (now : DateTime) :
      s.task = .reading op stamp →
      s.file.content = some (some file) ∨ s.file.content = none ∧ file = {} →
      RecipientsStep P s (op.elim { s with inner := { file, stamp }, task := .idle }
        (({ s with inner := { file, stamp } } : RecipientsState).resume P devices now))
  | write {s : RecipientsState} {op : RecipientOp} {file : RecipientsFile} :
      s.task = .writing op file →
      RecipientsStep P s
        { s.note op.done with
          file := s.file.replace (some file)
          task := .stamping file }
  | stamp {s : RecipientsState} {file : RecipientsFile} : s.task = .stamping file →
      RecipientsStep P s
        { s with
          inner := { file, stamp := s.file.stamp }
          task := .idle }
  /-- An operation fails at a file access. -/
  | fail {s : RecipientsState} : RecipientsStep P s { s with task := .idle }
  /-- The daemon stops and starts again. -/
  | restart {s : RecipientsState} : RecipientsStep P s
      { s with
        inner := { file := {}, stamp := 0 }
        task := .loading }
  | revoke {s : RecipientsState} {process : Nat} (target : DeviceRevocation) :
      s.revocations process = .idle →
      RecipientsStep P s (s.setRevocation process (.reading target))
  /-- There is something to change. -/
  | readRevocation {s : RecipientsState} {process : Nat} {target : DeviceRevocation}
      {file : RecipientsFile} (now : DateTime) : s.revocations process = .reading target →
      s.file.content = some (some file) → target.revokeAll now file ≠ file →
      (target.revokeAll now file).validate P = .ok () →
      RecipientsStep P s
        (s.setRevocation process (.writing target (target.revokeAll now file)))
  /-- There is nothing to change. -/
  | keepRevocation {s : RecipientsState} {process : Nat} {target : DeviceRevocation}
      {file : RecipientsFile} (now : DateTime) : s.revocations process = .reading target →
      s.file.content = some (some file) → target.revokeAll now file = file →
      RecipientsStep P s ((s.note (some (.revoked target))).setRevocation process .idle)
  | writeRevocation {s : RecipientsState} {process : Nat} {target : DeviceRevocation}
      {file : RecipientsFile} : s.revocations process = .writing target file →
      RecipientsStep P s
        (({ s with file := s.file.replace (some file) }.note
          (some (.revoked target))).setRevocation process .idle)
  /-- There is no file, or a file access fails. -/
  | endRevocation {s : RecipientsState} (process : Nat) :
      RecipientsStep P s (s.setRevocation process .idle)

/-- The states that the processes can reach by steps that meet a condition. -/
inductive RecipientsRun (P : RecipientPrimitives)
    (Meets : RecipientsState → RecipientsState → Prop) (file : SharedFile (Option RecipientsFile)) :
    RecipientsState → Prop
  | start : RecipientsRun P Meets file (.initial file)
  | step {s s' : RecipientsState} : RecipientsRun P Meets file s →
      RecipientsStep P s s' → Meets s s' → RecipientsRun P Meets file s'

/-! ### What the log says about a device -/

/-- A revocation of the device returned, and no `restore_device` for it came after it. -/
def BlockedSince (deviceId : String) : List RecipientsEvent → Prop
  | [] => False
  | event :: log =>
    (∃ target, event = .revoked target ∧ deviceId ∈ target.named) ∨
      event ≠ .restored deviceId ∧ BlockedSince deviceId log

/-- No device passed `ensure_access` that was blocked. -/
def NoneGranted : List RecipientsEvent → Prop
  | [] => True
  | event :: log =>
    (∀ deviceId, event = .granted deviceId → ¬ BlockedSince deviceId log) ∧ NoneGranted log

/-- What the file holds; a file that is not there or does not parse has no recipients. -/
def fileRecipients (file : SharedFile (Option RecipientsFile)) : RecipientsFile :=
  file.content.join.getD {}

/-! ### Cycles that do not overlap -/

/-- The operation has compared the stamp, and its last access is to come. -/
def RecipientsTask.inCycle : RecipientsTask → Bool
  | .writing _ _ => true
  | .stamping _ => true
  | _ => false

/-- The revocation has read the file and not replaced it. -/
def RecipientsRevocation.inCycle : RecipientsRevocation → Bool
  | .writing _ _ => true
  | _ => false

/-- The file is replaced while no other process is in its cycle. -/
def Undisturbed (s s' : RecipientsState) : Prop :=
  s'.file.stamp ≠ s.file.stamp →
    (∀ i, s.task.inCycle = true → (s.revocations i).inCycle = false) ∧
      ∀ i j, (s.revocations i).inCycle = true → (s.revocations j).inCycle = true → i = j

/-! ### The invariant -/

/-- What the copies hold, and that blocks stand. -/
structure RecipientsBlocks (s : RecipientsState) : Prop where
  stamp_le : s.inner.stamp ≤ s.file.stamp
  reading_le : ∀ op stamp, s.task = .reading op stamp → stamp ≤ s.file.stamp
  copied : s.inner.stamp = s.file.stamp → s.inner.file = fileRecipients s.file
  writing : ∀ op file, s.task = .writing op file →
    RecipientsFile.Follows op.lifted (fileRecipients s.file) file
  stamping : ∀ file, s.task = .stamping file → fileRecipients s.file = file
  revoking : ∀ i target file, s.revocations i = .writing target file →
    RecipientsFile.Follows none (fileRecipients s.file) file ∧
      ∀ deviceId ∈ target.named, file.isBlocked deviceId = true
  blocked : ∀ deviceId, BlockedSince deviceId s.log →
    (fileRecipients s.file).isBlocked deviceId = true
  granted : NoneGranted s.log

section Blocks

variable {P : RecipientPrimitives}

lemma recipientsBlocks_initial (file : SharedFile (Option RecipientsFile)) : RecipientsBlocks (.initial file) where
  stamp_le := Nat.zero_le _
  reading_le := nofun
  copied := by
    intro hs
    change _ = fileRecipients file
    rw [fileRecipients, file.content_eq_none.mpr hs.symm]
    rfl
  writing := nofun
  stamping := nofun
  revoking := nofun
  blocked := nofun
  granted := trivial

namespace RecipientsBlocks

variable (h : RecipientsBlocks s)

include h

/-- The daemon's operation goes on with an access that needs nothing. -/
lemma setTask (hc : task.inCycle = false)
    (hr : ∀ op stamp, task = .reading op stamp → stamp ≤ s.file.stamp) : RecipientsBlocks { s with task } where
  __ := h
  reading_le := hr
  writing := by rintro op file rfl; cases hc
  stamping := by rintro file rfl; cases hc

lemma setInner {inner : RecipientsInner} (hs : inner.stamp ≤ s.file.stamp)
    (hc : inner.stamp = s.file.stamp → inner.file = fileRecipients s.file) : RecipientsBlocks { s with inner } where
  __ := h
  stamp_le := hs
  copied := hc

lemma setRevocation (process : Nat) (hr : ∀ target file, task = .writing target file →
      RecipientsFile.Follows none (fileRecipients s.file) file ∧
        ∀ deviceId ∈ target.named, file.isBlocked deviceId = true) :
    RecipientsBlocks (s.setRevocation process task) where
  __ := h
  revoking := by
    intro i target file hw
    by_cases hi : i = process
    · subst hi
      rw [RecipientsState.setRevocation_self] at hw
      exact hr target file hw
    · rw [s.setRevocation_of_ne _ hi] at hw
      exact h.revoking i target file hw

lemma noteAnswer {op : RecipientOp} (hg : ∀ deviceId, op = .ensureAccess deviceId → ¬ BlockedSince deviceId s.log) :
    RecipientsBlocks (s.note op.answer) := by
  cases op with
  | ensureAccess deviceId =>
    refine ⟨h.stamp_le, h.reading_le, h.copied, h.writing, h.stamping, h.revoking, ?_, ?_, h.granted⟩
    · rintro other (⟨target, he, -⟩ | ⟨-, hs⟩)
      · cases he
      · exact h.blocked other hs
    · intro other he
      cases he
      exact hg deviceId rfl
  | _ => exact h

omit h in
/-- `ensure_access` fails for a blocked device. -/
lemma isBlocked_of_ensureAccess {file after : RecipientsFile}
    (h : file.applied P devices now (RecipientsM.ensureAccess deviceId) = .ok (value, after)) :
    file.isBlocked deviceId = false := by
  have hr : RecipientsM.Changes none (RecipientsM.reconcileDevices now devices) :=
    RecipientsM.changes_reconcileDevices devices
  rw [← Bool.not_eq_true]
  intro hb
  have hf : (do RecipientsM.reconcileDevices now devices
                RecipientsM.ensureAccess deviceId).Ensures file (fun _ _ => False) fun _ => True := by
    refine (hr file).bind fun _ mid hm => Program.ensures_get_bind ?_
    rw [if_pos (hm.blocked deviceId nofun hb)]
    exact Program.ensures_fail trivial
  unfold RecipientsFile.applied at h
  split at h
  · cases h
  · next hru => exact hf.of_eq_ok hru

lemma resume (hc : s.inner.file = fileRecipients s.file)
    (devices : Option (String → Except AppError Bool)) (now : DateTime) (op : RecipientOp) :
    RecipientsBlocks (s.resume P devices now op) := by
  rw [RecipientsState.resume]
  split
  · exact h.setTask rfl nofun
  · next value file ha =>
    have hf := RecipientsFile.follows_applied op.changes_run ha
    rw [hc] at hf
    have hn : RecipientsBlocks (s.note op.answer) := by
      refine h.noteAnswer ?_
      rintro deviceId rfl hs
      have hp := isBlocked_of_ensureAccess ha
      rw [hc, h.blocked deviceId hs] at hp
      cases hp
    split_ifs
    · exact hn.setTask rfl nofun
    · exact
        { hn with
          reading_le := nofun
          writing := by
            intro other written hw
            cases hw
            exact hf
          stamping := nofun }

lemma write {op : RecipientOp} {file : RecipientsFile}
    (ht : s.task = .writing op file) (ho : ∀ i, (s.revocations i).inCycle = false) : RecipientsBlocks
      { s.note op.done with
        file := s.file.replace (some file)
        task := .stamping file } where
  stamp_le := h.stamp_le.trans (Nat.le_succ _)
  reading_le := nofun
  copied := fun hst => absurd (hst ▸ h.stamp_le) (Nat.not_succ_le_self _)
  writing := nofun
  stamping := by
    intro written hwr
    cases hwr
    rfl
  revoking := by
    intro i target written hw
    have hc := ho i
    rw [show s.revocations i = _ from hw] at hc
    cases hc
  blocked := by
    intro deviceId hs
    have hf := h.writing op file ht
    cases op with
    | restoreDevice restored =>
      rcases hs with ⟨target, he, -⟩ | ⟨hne, hs⟩
      · cases he
      · refine hf.blocked deviceId ?_ (h.blocked deviceId hs)
        intro heq
        cases heq
        exact hne rfl
    | _ => exact hf.blocked deviceId nofun (h.blocked deviceId hs)
  granted := by
    cases op with
    | restoreDevice restored =>
      exact ⟨nofun, h.granted⟩
    | _ => exact h.granted

lemma noteRevoked (hn : ∀ deviceId ∈ target.named, (fileRecipients s.file).isBlocked deviceId = true) :
    RecipientsBlocks (s.note (some (.revoked target))) where
  __ := h
  blocked := by
    rintro deviceId (⟨other, he, hm⟩ | ⟨-, hs⟩)
    · cases he
      exact hn deviceId hm
    · exact h.blocked deviceId hs
  granted := ⟨nofun, h.granted⟩

lemma replace (hwr : s.revocations process = .writing target file) (ht : s.task.inCycle = false)
    (hon : ∀ i, (s.revocations i).inCycle = true → i = process) : RecipientsBlocks
      ({ s.setRevocation process .idle with file := s.file.replace (some file) }) where
  stamp_le := h.stamp_le.trans (Nat.le_succ _)
  reading_le := fun op stamp hr => (h.reading_le op stamp hr).trans (Nat.le_succ _)
  copied := fun hst => absurd (hst ▸ h.stamp_le) (Nat.not_succ_le_self _)
  writing := by
    intro op written hw
    rw [show s.task = _ from hw] at ht
    cases ht
  stamping := by
    intro written hw
    rw [show s.task = _ from hw] at ht
    cases ht
  revoking := by
    intro i other written ho
    have hi : i = process := by
      by_contra hne
      rw [show (s.setRevocation process .idle).revocations i = _ from s.setRevocation_of_ne _ hne]
        at ho
      exact hne (hon i (by rw [ho]; rfl))
    subst hi
    rw [show (s.setRevocation i .idle).revocations i = _ from s.setRevocation_self i _] at ho
    cases ho
  blocked := fun deviceId hs =>
    (h.revoking process target file hwr).1.blocked deviceId nofun (h.blocked deviceId hs)
  granted := h.granted

end RecipientsBlocks

lemma recipientsBlocks_step (h : RecipientsBlocks s) (hsp : RecipientsStep P s s')
    (hm : Undisturbed s s') : RecipientsBlocks s' := by
  cases hsp with
  | start op hid => exact h.setTask rfl nofun
  | load hl =>
    refine h.setTask rfl ?_
    intro op stamp hr
    cases hr
    exact Nat.le_refl _
  | unchanged devices now hch hs => exact h.resume (h.copied hs.symm) devices now _
  | changed hch hs =>
    refine h.setTask rfl ?_
    intro op stamp hr
    cases hr
    exact Nat.le_refl _
  | @read op stamp file devices now hr hc =>
    have hco : file = fileRecipients s.file := by
      rw [fileRecipients]
      rcases hc with hc | ⟨hc, rfl⟩ <;> rw [hc] <;> rfl
    have hin : RecipientsBlocks { s with inner := { file, stamp } } :=
      h.setInner (h.reading_le op stamp hr) fun _ => hco
    cases op with
    | none => exact hin.setTask rfl nofun
    | some op => exact hin.resume hco devices now op
  | @write op file hw =>
    have hcy := (hm (Nat.succ_ne_self _)).1
    exact h.write hw fun i => hcy i (by rw [hw]; rfl)
  | @stamp file hst =>
    have hin : RecipientsBlocks { s with inner := { file, stamp := s.file.stamp } } :=
      h.setInner (Nat.le_refl _) fun _ => (h.stamping file hst).symm
    exact hin.setTask rfl nofun
  | fail => exact h.setTask rfl nofun
  | restart =>
    have hin : RecipientsBlocks { s with inner := { file := {}, stamp := 0 } } := by
      refine h.setInner (Nat.zero_le _) fun hs => ?_
      rw [fileRecipients, s.file.content_eq_none.mpr hs.symm]
      rfl
    exact hin.setTask rfl nofun
  | @revoke process target hid => exact h.setRevocation process nofun
  | @readRevocation process target file now hr hc hcn hv =>
    refine h.setRevocation process ?_
    intro other written hw
    cases hw
    have hcu : fileRecipients s.file = file := by rw [fileRecipients, hc]; rfl
    rw [hcu]
    exact ⟨RecipientsFile.follows_revokeAll target file, fun deviceId hme => RecipientsFile.isBlocked_revokeAll hme⟩
  | @keepRevocation process target file now hr hc hk =>
    refine (h.noteRevoked fun deviceId hme => ?_).setRevocation process nofun
    rw [fileRecipients, hc]
    change file.isBlocked deviceId = true
    rw [← hk]
    exact RecipientsFile.isBlocked_revokeAll hme
  | @writeRevocation process target file hw =>
    obtain ⟨hd, ho⟩ := hm (Nat.succ_ne_self _)
    have hp : (s.revocations process).inCycle = true := by rw [hw]; rfl
    have ht : s.task.inCycle = false := by
      rw [← Bool.not_eq_true]
      intro hcy
      rw [hd process hcy] at hp
      cases hp
    have hre := h.replace hw ht fun i hi => ho i process hi hp
    exact hre.noteRevoked fun deviceId hme =>
      (h.revoking process target file hw).2 deviceId hme
  | endRevocation process => exact h.setRevocation process nofun

lemma recipientsBlocks_run (h : RecipientsRun P Undisturbed file s) : RecipientsBlocks s := by
  induction h with
  | start => exact recipientsBlocks_initial file
  | step _ hs hm ih => exact recipientsBlocks_step ih hs hm

end Blocks

/-- While the file is replaced by one process at a time, a revoked device is on the block list, and
`ensure_access` refuses it, until it is restored. -/
theorem revoked_device_stays_blocked {P : RecipientPrimitives}
    {file : SharedFile (Option RecipientsFile)} {s : RecipientsState} (hrun : RecipientsRun P Undisturbed file s) :
    (∀ deviceId, BlockedSince deviceId s.log →
      (fileRecipients s.file).isBlocked deviceId = true) ∧ NoneGranted s.log := by
  have hb := recipientsBlocks_run hrun
  exact ⟨hb.blocked, hb.granted⟩

/-! ### Runs -/

/-- One device is blocked. -/
def blockedFile : RecipientsFile where
  revokedDevices := [{ deviceId := "dev_b", revokedAt := unixEpoch, revokedBy := "tui" }]

/-- The daemon has loaded the file. -/
def loadedRecipients : RecipientsState where
  file := { versions := [some blockedFile] }
  inner := { file := blockedFile, stamp := 1 }
  task := .idle
  revocations := fun _ => .idle
  log := []

section Runs

lemma undisturbed_of_stamp (h : s'.file.stamp = s.file.stamp) : Undisturbed s s' :=
  fun hne => absurd h hne

lemma undisturbed_of_only (process : Nat) (ht : s.task.inCycle = false)
    (ho : ∀ i, i ≠ process → (s.revocations i).inCycle = false) : Undisturbed s s' := by
  intro _
  have heq (i : Nat) (hi : (s.revocations i).inCycle = true) : i = process := by
    by_contra hne
    rw [ho i hne] at hi
    cases hi
  constructor
  · intro i hc
    rw [ht] at hc
    cases hc
  · intro i j hi hj
    rw [heq i hi, heq j hj]

lemma recipientsRun_loaded (hm : ∀ s s', s'.file.stamp = s.file.stamp → Meets s s') :
    RecipientsRun .standard Meets { versions := [some blockedFile] } loadedRecipients := by
  have hs : RecipientsRun .standard Meets { versions := [some blockedFile] } _ := .start
  have hl := hs.step (.load rfl) (hm _ _ rfl)
  exact hl.step (@RecipientsStep.read _ _ none 1 blockedFile none unixEpoch rfl (.inl rfl))
    (hm _ _ rfl)

end Runs

/-- Another process revokes a device while the daemon is idle. -/
theorem revoked_device_stays_blocked_idle :
    ∃ s, RecipientsRun .standard Undisturbed { versions := [some blockedFile] } s ∧
      BlockedSince "dev_a" s.log ∧ (fileRecipients s.file).isBlocked "dev_a" = true ∧
      NoneGranted s.log := by
  have hl := recipientsRun_loaded fun _ _ => undisturbed_of_stamp
  have hr := hl.step (@RecipientsStep.revoke _ _ 0 (.one "dev_a") rfl)
    (undisturbed_of_stamp rfl)
  have hread := hr.step (@RecipientsStep.readRevocation _ _ 0 (.one "dev_a") blockedFile unixEpoch
    rfl rfl (by decide) (by decide +kernel)) (undisturbed_of_stamp rfl)
  have hw := hread.step (@RecipientsStep.writeRevocation _ _ 0 (.one "dev_a") _ rfl)
    (undisturbed_of_only 0 rfl fun i hi => by
      rw [RecipientsState.setRevocation_of_ne _ _ hi, RecipientsState.setRevocation_of_ne _ _ hi]
      rfl)
  have hb := revoked_device_stays_blocked hw
  exact ⟨_, hw, .inl ⟨_, rfl, List.mem_cons_self⟩,
    hb.1 "dev_a" (.inl ⟨_, rfl, List.mem_cons_self⟩), hb.2⟩

/-- The daemon restores one device while another process revokes another. The daemon has compared the
stamp before the revocation is written, and replaces it. -/
theorem revocation_overwritten :
    ∃ s, RecipientsRun .standard (fun _ _ => True) { versions := [some blockedFile] } s ∧
      BlockedSince "dev_a" s.log ∧ (fileRecipients s.file).isBlocked "dev_a" = false := by
  have hl : RecipientsRun .standard (fun _ _ => True) _ _ :=
    recipientsRun_loaded fun _ _ _ => trivial
  have hs := hl.step (.start (.restoreDevice "dev_b") rfl) trivial
  have hc := hs.step (.unchanged none unixEpoch rfl rfl) trivial
  have hre := hc.step (@RecipientsStep.revoke _ _ 0 (.one "dev_a") rfl) trivial
  have hread := hre.step (@RecipientsStep.readRevocation _ _ 0 (.one "dev_a") blockedFile unixEpoch
    rfl rfl (by decide) (by decide +kernel)) trivial
  have hw := hread.step (@RecipientsStep.writeRevocation _ _ 0 (.one "dev_a") _ rfl) trivial
  have hr := hw.step (@RecipientsStep.write _ _ (.restoreDevice "dev_b") {} rfl) trivial
  exact ⟨_, hr, .inr ⟨fun h => absurd (RecipientsEvent.restored.inj h) (by decide),
    .inl ⟨_, rfl, List.mem_cons_self⟩⟩, rfl⟩

end Todex
