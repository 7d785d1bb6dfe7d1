import Todex.Devices.Registry

/-!
# Revocations and registrations stand

While a process holds the lock, only it replaces the file. The daemon's copy is at most as new as its
stamp says, so a copy with the stamp of the file has the devices of the file.
-/

namespace Todex

/-! ### What the log says about a device -/

/-- A register call for a device. -/
def RegistryEvent.isRegistering (deviceId : String) : RegistryEvent → Bool
  | .registering record => record.deviceId = deviceId
  | _ => false

/-- A register call for a device whose write failed. -/
def RegistryEvent.isFailure (deviceId : String) : RegistryEvent → Bool
  | .registerFailed record => record.deviceId = deviceId
  | _ => false

/-- A revocation that covers a device. -/
def RegistryEvent.isRevocation (deviceId : String) : RegistryEvent → Bool
  | .revoked target => target.covers deviceId
  | _ => false

/-- No register call for a device has failed to replace the file. -/
def NoneFailed (log : List RegistryEvent) (deviceId : String) : Prop := log.all (!·.isFailure deviceId) = true

/-- A revocation of the device returned, whether it found it or not, and no register call for the device came after
it. -/
def RevokedSince (deviceId : String) : List RegistryEvent → Prop
  | [] => False
  | event :: log =>
    event.isRevocation deviceId = true ∨ event = .notFound deviceId ∨
      event.isRegistering deviceId = false ∧ RevokedSince deviceId log

/-- A register call for the device returned, and no revocation of it came after it. -/
def RegisteredSince (deviceId : String) : List RegistryEvent → Prop
  | [] => False
  | event :: log =>
    (∃ record, event = .registered record ∧ record.deviceId = deviceId) ∨
      event.isRevocation deviceId = false ∧ RegisteredSince deviceId log

/-- No `get` returned a device that was revoked. -/
def NoneGot : List RegistryEvent → Prop
  | [] => True
  | event :: log =>
    (∀ deviceId record, event = .got deviceId (some record) → ¬ RevokedSince deviceId log) ∧
      NoneGot log

/-! ### The invariant -/

namespace RegistryTask

/-- The daemon holds the lock. -/
def holdsLock : RegistryTask → Bool
  | .idle => false
  | .locking _ => false
  | .checking op => op.locks
  | .stating op => op.locks
  | .reading op _ => op.locks
  | .writing _ => true

end RegistryTask

/-- The process holds the lock. -/
def RevocationTask.holdsLock : RevocationTask → Bool
  | .idle => false
  | .locking _ => false
  | .reading _ => true
  | .writing _ _ => true

/-- The file holds a device. -/
def FileHas (file : SharedFile (Option Devices)) (deviceId : String) : Prop :=
  ∃ devices, file.content = some (some devices) ∧ deviceId ∈ devices

lemma fileHas_iff
    (hc : file.content = some (some devices)) : FileHas file deviceId ↔ deviceId ∈ devices := by
  constructor
  · rintro ⟨other, ho, hmem⟩
    cases hc.symm.trans ho
    exact hmem
  · intro hmem
    exact ⟨devices, hc, hmem⟩

/-- The daemon's copy is of the current version. -/
def RegistryState.Current (s : RegistryState) : Prop := s.inner.stamp = s.file.stamp

/-- Who holds the lock, and what the stamps say. -/
structure RegistryLocks (s : RegistryState) : Prop where
  daemon : s.task.holdsLock = true → s.lock = some .daemon
  revocation : ∀ i, (s.revocations i).holdsLock = true → s.lock = some (.revocation i)
  stamp_le : s.inner.stamp ≤ s.file.stamp
  reading_le : ∀ op stamp, s.task = .reading op stamp → stamp ≤ s.file.stamp
  reading_eq : ∀ op stamp, s.task = .reading op stamp → op.locks = true → stamp = s.file.stamp
  writing : ∀ op, s.task = .writing op → s.Current
  /-- A revocation that is about to write has read the current version. -/
  erased : ∀ i deviceId devices, s.revocations i = .writing (.one deviceId) devices →
    ∃ known, s.file.content = some (some known) ∧ devices = known.erase deviceId
  emptied : ∀ i devices, s.revocations i = .writing .all devices → devices = ∅

/-- What the file and the daemon's copy hold. -/
structure RegistryContents (s : RegistryState) : Prop where
  /-- A current copy holds what the file holds, and what register calls put there. -/
  copied : s.Current → ∀ deviceId, FileHas s.file deviceId → deviceId ∈ s.inner.devices
  known : s.Current → ∀ deviceId ∈ s.inner.devices, FileHas s.file deviceId ∨
    s.log.any (·.isFailure deviceId) = true ∨
    ∃ record, s.task = .writing (.register record) ∧ record.deviceId = deviceId
  inserted : ∀ record, s.task = .writing (.register record) → record.deviceId ∈ s.inner.devices
  revoked : ∀ deviceId, RevokedSince deviceId s.log →
    ¬ FileHas s.file deviceId ∧ (s.Current → deviceId ∉ s.inner.devices)
  registered : ∀ deviceId, RegisteredSince deviceId s.log → FileHas s.file deviceId
  got : NoneGot s.log

section Initial

variable (file : SharedFile (Option Devices))

lemma registryLocks_initial : RegistryLocks (.initial file) where
  daemon := nofun
  revocation := nofun
  stamp_le := Nat.zero_le _
  reading_le := nofun
  reading_eq := nofun
  writing := nofun
  erased := nofun
  emptied := nofun

variable {file} in
lemma not_fileHas_of_stamp (h : file.stamp = 0) (deviceId : String) : ¬ FileHas file deviceId := by
  rintro ⟨devices, hd, -⟩
  rw [file.content_eq_none.mpr h] at hd
  cases hd

lemma registryContents_initial : RegistryContents (.initial file) where
  copied := fun hc deviceId hfile => absurd hfile (not_fileHas_of_stamp hc.symm deviceId)
  known := fun _ _ hmem => absurd hmem Std.ExtTreeMap.not_mem_empty
  inserted := nofun
  revoked := nofun
  registered := nofun
  got := trivial

end Initial

/-! ### Steps keep the locks -/

section Locks

variable (h : RegistryLocks s)

namespace RegistryLocks

include h

lemma not_both (hd : s.task.holdsLock = true) (hr : (s.revocations i).holdsLock = true) :
    False := by
  cases (h.daemon hd).symm.trans (h.revocation i hr)

lemma eq_of_both (hi : (s.revocations i).holdsLock = true) (hj : (s.revocations j).holdsLock = true) :
    i = j := by
  cases (h.revocation i hi).symm.trans (h.revocation j hj)
  rfl

lemma finish : RegistryLocks s.finish where
  __ := h
  daemon := nofun
  revocation := by
    intro i hl
    rw [RegistryState.finish, h.revocation i hl]
    rfl
  reading_le := nofun
  reading_eq := nofun
  writing := nofun

lemma note (event : RegistryEvent) : RegistryLocks (s.note event) := { __ := h }

lemma setTask (hlock : task.holdsLock = true → s.lock = some .daemon)
    (hr : ∀ op stamp, task = .reading op stamp → stamp = s.file.stamp)
    (hw : ∀ op, task = .writing op → s.Current) : RegistryLocks { s with task } where
  __ := h
  daemon := hlock
  reading_le := fun op stamp htask => Nat.le_of_eq (hr op stamp htask)
  reading_eq := fun op stamp htask _ => hr op stamp htask
  writing := hw

lemma setInner {inner : RegistryInner} (hs : inner.stamp ≤ s.file.stamp)
    (hw : ∀ op, s.task ≠ .writing op) : RegistryLocks { s with inner } where
  __ := h
  stamp_le := hs
  writing := fun op htask => absurd htask (hw op)

/-- Nobody holds a free lock. -/
lemma setLock (hfree : s.lock = none) (party : RegistryParty) : RegistryLocks { s with lock := some party } where
  __ := h
  daemon := fun hl => nomatch hfree.symm.trans (h.daemon hl)
  revocation := fun i hl => nomatch hfree.symm.trans (h.revocation i hl)

lemma resume (reloaded : Bool) (hlock : op.locks = true → s.lock = some .daemon ∧ s.Current) :
    RegistryLocks (s.resume reloaded op) := by
  cases op with
  | load => exact h.finish
  | register record =>
    obtain ⟨hheld, hc⟩ := hlock rfl
    rw [RegistryState.resume]
    split_ifs
    · exact h.finish
    · have hw : RegistryLocks { s with task := .writing (.register record) } :=
        h.setTask (fun _ => hheld) nofun fun _ _ => hc
      exact { __ := hw }
  | get deviceId => exact (h.note _).finish
  | flush =>
    obtain ⟨hheld, hc⟩ := hlock rfl
    rw [RegistryState.resume]
    split_ifs
    · exact h.finish
    · exact h.setTask (fun _ => hheld) nofun fun _ _ => hc

lemma write (hl : s.task.holdsLock = true) (hr : ∀ op stamp, s.task ≠ .reading op stamp) :
    RegistryLocks s.write where
  __ := h
  stamp_le := Nat.le_refl _
  reading_le := fun op stamp htask => absurd htask (hr op stamp)
  reading_eq := fun op stamp htask => absurd htask (hr op stamp)
  writing := fun _ _ => rfl
  erased := fun i deviceId devices hw =>
    (h.not_both hl (by rw [show s.revocations i = _ from hw]; rfl)).elim

lemma setRevocation (process : Nat) (hlock : task.holdsLock = true → s.lock = some (.revocation process))
    (her : ∀ deviceId devices, task = .writing (.one deviceId) devices →
      ∃ known, s.file.content = some (some known) ∧ devices = known.erase deviceId)
    (he : ∀ devices, task = .writing .all devices → devices = ∅) :
    RegistryLocks (s.setRevocation process task) where
  __ := h
  revocation := by
    intro i hl
    by_cases hi : i = process
    · subst hi
      rw [RegistryState.setRevocation_self] at hl
      exact hlock hl
    · rw [s.setRevocation_of_ne _ hi] at hl
      exact h.revocation i hl
  erased := by
    intro i deviceId devices hw
    by_cases hi : i = process
    · subst hi
      rw [RegistryState.setRevocation_self] at hw
      exact her deviceId devices hw
    · rw [s.setRevocation_of_ne _ hi] at hw
      exact h.erased i deviceId devices hw
  emptied := by
    intro i devices hw
    by_cases hi : i = process
    · subst hi
      rw [RegistryState.setRevocation_self] at hw
      exact he devices hw
    · rw [s.setRevocation_of_ne _ hi] at hw
      exact h.emptied i devices hw

omit h in
lemma finishRevocation_self (hl : ((s.finishRevocation process).revocations i).holdsLock = true) :
    i ≠ process ∧ (s.revocations i).holdsLock = true := by
  change ((s.setRevocation process .idle).revocations i).holdsLock = true at hl
  by_cases hi : i = process
  · subst hi
    rw [RegistryState.setRevocation_self] at hl
    cases hl
  · rw [s.setRevocation_of_ne _ hi] at hl
    exact ⟨hi, hl⟩

lemma finishRevocation (process : Nat) : RegistryLocks (s.finishRevocation process) where
  __ : RegistryLocks (s.setRevocation process .idle) := h.setRevocation process nofun nofun nofun
  daemon := by
    intro hl
    rw [RegistryState.finishRevocation, h.daemon hl]
    rfl
  revocation := by
    intro i hl
    obtain ⟨hi, hheld⟩ := finishRevocation_self hl
    rw [RegistryState.finishRevocation, h.revocation i hheld]
    simp [hi]

lemma replace (devices : Option Devices) (hl : (s.revocations process).holdsLock = true)
    (event : RegistryEvent) :
    RegistryLocks ((({ s with file := s.file.replace devices } : RegistryState).note
      event).finishRevocation process) := by
  have hd : s.task.holdsLock ≠ true := fun htask => h.not_both htask hl
  have hidle (i : Nat) : ((s.finishRevocation process).revocations i).holdsLock ≠ true := by
    intro ho
    obtain ⟨hi, hheld⟩ := finishRevocation_self ho
    exact hi (h.eq_of_both hheld hl)
  exact
    { daemon := fun htask => absurd htask hd
      revocation := fun i ho => absurd ho (hidle i)
      stamp_le := Nat.le_succ_of_le h.stamp_le
      reading_le := fun op stamp htask => Nat.le_succ_of_le (h.reading_le op stamp htask)
      reading_eq := fun op stamp htask hop =>
        absurd (by rw [show s.task = _ from htask]; exact hop) hd
      writing := fun op htask => absurd (by rw [show s.task = _ from htask]; rfl) hd
      erased := fun i deviceId known hw =>
        absurd (by rw [show (s.finishRevocation process).revocations i = _ from hw]; rfl)
          (hidle i)
      emptied := (h.finishRevocation process).emptied }

end RegistryLocks

include h in
lemma registryLocks_step (hstep : RegistryStep Meets s s') : RegistryLocks s' := by
  cases hstep with
  | start op hidle =>
    refine h.setTask ?_ ?_ ?_
    all_goals cases op <;> nofun
  | touch now hidle hget => exact h.setInner h.stamp_le (hidle ▸ nofun)
  | @acquire op htask hlock => exact (h.setLock hlock .daemon).setTask (fun _ => rfl) nofun nofun
  | @unchanged op htask hs =>
    refine h.resume false fun hop => ⟨h.daemon ?_, hs.symm⟩
    rw [htask]
    exact hop
  | @changed op htask hs =>
    refine h.setTask (fun hl => h.daemon ?_) nofun nofun
    rw [htask]
    exact hl
  | @stat op htask =>
    refine h.setTask (fun hl => h.daemon ?_) ?_ nofun
    · rw [htask]
      exact hl
    · intro other stamp ho
      cases ho
      rfl
  | @missing op htask =>
    refine (h.setInner (Nat.zero_le _) (htask ▸ nofun)).resume true ?_
    intro hop
    exact ⟨h.daemon (by rw [htask]; exact hop), h.reading_eq op 0 htask hop⟩
  | @read op stamp devices htask hne hc =>
    refine (h.setInner (h.reading_le op stamp htask) (htask ▸ nofun)).resume true ?_
    intro hop
    exact ⟨h.daemon (by rw [htask]; exact hop), h.reading_eq op stamp htask hop⟩
  | @write op htask =>
    have hw := h.write (by rw [htask]; rfl) (htask ▸ nofun)
    cases op with
    | register record => exact (hw.note _).finish
    | load | get deviceId | flush => exact hw.finish
  | fail =>
    split
    · exact (h.note _).finish
    · exact h.finish
  | restart =>
    have hi : RegistryLocks
        { s.finish with inner := { devices := ∅, stamp := 0, dirty := false } } :=
      h.finish.setInner (Nat.zero_le _) nofun
    exact hi.setTask nofun nofun nofun
  | @revoke process target hidle => exact h.setRevocation process nofun nofun nofun
  | @acquireRevocation process target htask hlock =>
    exact (h.setLock hlock (.revocation process)).setRevocation process (fun _ => rfl) nofun nofun
  | @readOne process deviceId devices htask hc hmem =>
    refine h.setRevocation process (fun _ => h.revocation process (by rw [htask]; rfl)) ?_ nofun
    intro other known ho
    cases ho
    exact ⟨devices, hc, rfl⟩
  | @readNone process deviceId htask hc => exact (h.note _).finishRevocation process
  | @readAll process htask =>
    refine h.setRevocation process (fun _ => h.revocation process (by rw [htask]; rfl)) nofun ?_
    intro other ho
    cases ho
    rfl
  | @writeRevocation process target devices htask =>
    exact h.replace (some devices) (by rw [htask]; rfl) _
  | failRevocation process => exact h.finishRevocation process

end Locks

/-! ### Steps keep the contents -/

section Contents

variable (h : RegistryContents s)

namespace RegistryContents

include h

lemma frame (hfile : s'.file = s.file) (hi : s'.inner = s.inner) (hlog : s'.log = s.log)
    (htask : ∀ record, s.task = .writing (.register record) ↔ s'.task = .writing (.register record)) :
    RegistryContents s' := by
  obtain ⟨file, lock, inner, task, revocations, log⟩ := s
  obtain ⟨file', lock', inner', task', revocations', log'⟩ := s'
  cases hfile
  cases hi
  cases hlog
  refine ⟨h.copied, ?_, fun record hw => h.inserted record ((htask record).mpr hw),
    h.revoked, h.registered, h.got⟩
  intro hc deviceId hmem
  rcases h.known hc deviceId hmem with hhas | hf | ⟨record, hw, hid⟩
  · exact .inl hhas
  · exact .inr (.inl hf)
  · exact .inr (.inr ⟨record, (htask record).mp hw, hid⟩)

/-- The copy is replaced by one that holds the same devices as the file if it is current. -/
lemma setInner {inner : RegistryInner}
    (hi : inner.stamp = s.file.stamp → ∀ deviceId, deviceId ∈ inner.devices ↔ FileHas s.file deviceId)
    (htask : ∀ record, s.task ≠ .writing (.register record)) : RegistryContents { s with inner } where
  __ := h
  copied := fun hc deviceId hhas => (hi hc deviceId).mpr hhas
  known := fun hc deviceId hmem => .inl ((hi hc deviceId).mp hmem)
  inserted := fun record hw => absurd hw (htask record)
  revoked := fun deviceId hr => by
    obtain ⟨ha, -⟩ := h.revoked deviceId hr
    exact ⟨ha, fun hc hmem => ha ((hi hc deviceId).mp hmem)⟩

lemma touch (hget : s.inner.devices[deviceId]? = some record) (now : Nat) :
    RegistryContents (s.touch deviceId record now) := by
  have hk : deviceId ∈ s.inner.devices := by
    rw [Std.ExtTreeMap.mem_iff_isSome_getElem?, hget]
    rfl
  have hmem (other : String) :
      other ∈ (s.touch deviceId record now).inner.devices ↔ other ∈ s.inner.devices := by
    rw [RegistryState.touch, Std.ExtTreeMap.mem_insert]
    refine ⟨fun ho => ?_, .inr⟩
    rcases ho with heq | ho
    · rwa [← compare_eq_iff_eq.mp heq]
    · exact ho
  exact
    { copied := fun hc other hhas => (hmem other).mpr (h.copied hc other hhas)
      known := fun hc other ho => h.known hc other ((hmem other).mp ho)
      inserted := fun other hw => (hmem _).mpr (h.inserted other hw)
      revoked := fun other hr => by
        obtain ⟨ha, hcopy⟩ := h.revoked other hr
        exact ⟨ha, fun hc ho => hcopy hc ((hmem other).mp ho)⟩
      registered := h.registered
      got := h.got }

lemma finish (htask : ∀ record, s.task ≠ .writing (.register record)) : RegistryContents s.finish :=
  h.frame rfl rfl rfl fun record => iff_of_false (htask record) nofun

lemma noteOf (hr : ∀ deviceId, event.isRevocation deviceId = true ∨ event = .notFound deviceId →
      ¬ FileHas s.file deviceId ∧ (s.Current → deviceId ∉ s.inner.devices))
    (hre : ∀ record, event = .registered record → FileHas s.file record.deviceId)
    (hgot : ∀ deviceId record, event = .got deviceId (some record) → ¬ RevokedSince deviceId s.log) :
    RegistryContents (s.note event) where
  __ := h
  known := by
    intro hc deviceId hmem
    rcases h.known hc deviceId hmem with hhas | hf | hw
    · exact .inl hhas
    · exact .inr (.inl (by rw [RegistryState.note, List.any_cons, hf, Bool.or_true]))
    · exact .inr (.inr hw)
  revoked := by
    rintro deviceId (he | he | ⟨-, hs⟩)
    · exact hr deviceId (.inl he)
    · exact hr deviceId (.inr he)
    · exact h.revoked deviceId hs
  registered := by
    rintro deviceId (⟨record, he, rfl⟩ | ⟨-, hs⟩)
    · exact hre record he
    · exact h.registered deviceId hs
  got := ⟨hgot, h.got⟩

lemma note (hr : ∀ deviceId, event.isRevocation deviceId = false ∧ event ≠ .notFound deviceId)
    (hre : ∀ record, event ≠ .registered record)
    (hgot : ∀ deviceId record, event = .got deviceId (some record) → ¬ RevokedSince deviceId s.log) :
    RegistryContents (s.note event) := by
  refine h.noteOf ?_ (fun record heq => absurd heq (hre record)) hgot
  rintro deviceId (he | he)
  · rw [(hr deviceId).1] at he
    cases he
  · exact absurd he (hr deviceId).2

lemma resume (reloaded : Bool) (hc : op.locks = true → s.Current)
    (hcopy : ∀ deviceId, RevokedSince deviceId s.log → deviceId ∉ s.inner.devices)
    (htask : ∀ record, s.task ≠ .writing (.register record)) : RegistryContents (s.resume reloaded op) := by
  cases op with
  | load => exact h.finish htask
  | register record =>
    have hc := hc rfl
    rw [RegistryState.resume]
    split_ifs with hfull
    · exact h.finish htask
    · have hnote : RegistryContents (s.note (.registering record)) :=
        h.note (fun _ => ⟨rfl, nofun⟩) nofun nofun
      exact
        { copied := by
            intro _ deviceId hhas
            exact Std.ExtTreeMap.mem_insert.mpr (.inr (h.copied hc deviceId hhas))
          known := by
            intro _ deviceId hmem
            rcases Std.ExtTreeMap.mem_insert.mp hmem with heq | hmem
            · exact .inr (.inr ⟨record, rfl, compare_eq_iff_eq.mp heq⟩)
            · rcases hnote.known hc deviceId hmem with hhas | hf | ⟨other, hw, -⟩
              · exact .inl hhas
              · exact .inr (.inl hf)
              · exact absurd hw (htask other)
          inserted := by
            intro other hw
            cases hw
            exact Std.ExtTreeMap.mem_insert_self
          revoked := by
            intro deviceId hr
            obtain ⟨ha, hcopy⟩ := hnote.revoked deviceId hr
            refine ⟨ha, fun _ hmem => ?_⟩
            rcases Std.ExtTreeMap.mem_insert.mp hmem with heq | hmem
            · -- a register call for the device ends what the revocation said
              rcases hr with he | he | ⟨ho, -⟩
              · cases he
              · cases he
              · rw [RegistryEvent.isRegistering, decide_eq_false_iff_not] at ho
                exact ho (compare_eq_iff_eq.mp heq)
            · exact hcopy hc hmem
          registered := hnote.registered
          got := hnote.got }
  | get deviceId =>
    rw [RegistryState.resume]
    refine RegistryContents.finish (h.note (fun _ => ⟨rfl, nofun⟩) nofun ?_) htask
    intro other record heq hr
    simp only [RegistryEvent.got.injEq] at heq
    obtain ⟨rfl, hget⟩ := heq
    refine hcopy deviceId hr ?_
    rw [Std.ExtTreeMap.mem_iff_isSome_getElem?, hget]
    rfl
  | flush =>
    rw [RegistryState.resume]
    split_ifs
    · exact h.finish htask
    · exact h.frame rfl rfl rfl fun record => iff_of_false (htask record) nofun

lemma write (hc : s.Current) : RegistryContents s.write.finish := by
  have hhas (deviceId : String) : FileHas s.write.file deviceId ↔ deviceId ∈ s.inner.devices :=
    fileHas_iff rfl
  exact
    { copied := fun _ deviceId hmem => (hhas deviceId).mp hmem
      known := fun _ deviceId hmem => .inl ((hhas deviceId).mpr hmem)
      inserted := nofun
      revoked := fun deviceId hre => by
        have ha := (h.revoked deviceId hre).2 hc
        exact ⟨fun hmem => ha ((hhas deviceId).mp hmem), fun _ => ha⟩
      registered := fun deviceId hr =>
        (hhas deviceId).mpr (h.copied hc deviceId (h.registered deviceId hr))
      got := h.got }

lemma noteRegistered (hhas : FileHas s.file record.deviceId) :
    RegistryContents (s.note (.registered record)) := by
  refine h.noteOf ?_ ?_ nofun
  · rintro _ (he | ⟨⟨⟩, -⟩)
    cases he
  · rintro _ ⟨⟩
    exact hhas

lemma failRegister
    (htask : s.task = .writing (.register record)) : RegistryContents (s.note (.registerFailed record)).finish := by
  have hnote : RegistryContents (s.note (.registerFailed record)) :=
    h.note (fun _ => ⟨rfl, nofun⟩) nofun nofun
  refine ⟨hnote.copied, ?_, ?_, hnote.revoked, hnote.registered, hnote.got⟩
  · intro hc deviceId hmem
    rcases hnote.known hc deviceId hmem with hhas | hf | ⟨other, hw, hid⟩
    · exact .inl hhas
    · exact .inr (.inl hf)
    · -- what was being registered stays in the copy
      cases htask.symm.trans hw
      refine .inr (.inl ?_)
      change ((RegistryEvent.registerFailed record :: s.log).any _) = true
      rw [List.any_cons, RegistryEvent.isFailure, decide_eq_true hid, Bool.true_or]
  · nofun

/-- `revoke_device` does not find the device, and no failed register call has left it in the copy. -/
lemma noteNotFound (ha : ¬ FileHas s.file deviceId) (hf : NoneFailed s.log deviceId)
    (htask : ∀ record, s.task ≠ .writing (.register record)) : RegistryContents (s.note (.notFound deviceId)) := by
  refine h.noteOf ?_ nofun nofun
  rintro _ (he | ⟨⟨⟩⟩)
  · cases he
  refine ⟨ha, fun hc hmem => ?_⟩
  rcases h.known hc deviceId hmem with hfile | hfl | ⟨record, hw, -⟩
  · exact ha hfile
  · obtain ⟨event, he, hfa⟩ := List.any_eq_true.mp hfl
    have hnone := List.all_eq_true.mp hf event he
    rw [hfa] at hnone
    cases hnone
  · exact htask record hw

lemma replace (hsm : s.inner.stamp ≤ s.file.stamp) (htask : ∀ record, s.task ≠ .writing (.register record))
    (hd : ∀ deviceId, deviceId ∈ devices ↔ target.covers deviceId = false ∧ FileHas s.file deviceId) :
    RegistryContents (({ s with file := s.file.replace (some devices) } : RegistryState).note
      (.revoked target)) := by
  have hst : s.inner.stamp ≠ s.file.stamp + 1 := by omega
  have hhas (deviceId : String) : FileHas (s.file.replace (some devices)) deviceId ↔
      target.covers deviceId = false ∧ FileHas s.file deviceId := by
    rw [← hd]
    exact fileHas_iff rfl
  exact
    { copied := fun hc => absurd hc hst
      known := fun hc => absurd hc hst
      inserted := fun record hw => absurd hw (htask record)
      revoked := by
        intro deviceId hr
        refine ⟨fun hfile => ?_, fun hc => absurd hc hst⟩
        obtain ⟨hco, hold⟩ := (hhas deviceId).mp hfile
        rcases hr with he | he | ⟨-, hr⟩
        · rw [RegistryEvent.isRevocation, hco] at he
          cases he
        · cases he
        · exact (h.revoked deviceId hr).1 hold
      registered := by
        intro deviceId hs
        rcases hs with ⟨record, he, -⟩ | ⟨hco, hs⟩
        · cases he
        · exact (hhas deviceId).mpr ⟨hco, h.registered deviceId hs⟩
      got := ⟨nofun, h.got⟩ }

end RegistryContents

include h in
lemma registryContents_step (hl : RegistryLocks s) (hstep : RegistryStep NoneFailed s s') : RegistryContents s' := by
  have hnot {task : RegistryTask} (htask : s.task = task)
      (ho : ∀ record, task ≠ .writing (.register record)) (record : DeviceRecord) :
      s.task ≠ .writing (.register record) := by
    rw [htask]
    exact ho record
  cases hstep with
  | start op hidle =>
    refine h.frame rfl rfl rfl fun record => iff_of_false (hnot hidle nofun record) ?_
    cases op <;> intro heq <;> cases heq
  | touch now hidle hget => exact h.touch hget now
  | acquire htask hlock =>
    exact h.frame rfl rfl rfl fun record => iff_of_false (hnot htask nofun record) nofun
  | unchanged htask hs =>
    refine h.resume false (fun _ => hs.symm) ?_ (hnot htask nofun)
    intro deviceId hr
    exact (h.revoked deviceId hr).2 hs.symm
  | changed htask hs =>
    exact h.frame rfl rfl rfl fun record => iff_of_false (hnot htask nofun record) nofun
  | stat htask =>
    exact h.frame rfl rfl rfl fun record => iff_of_false (hnot htask nofun record) nofun
  | @missing op htask =>
    refine RegistryContents.resume (h.setInner ?_ (hnot htask nofun)) true ?_ ?_ (hnot htask nofun)
    · intro hcu deviceId
      exact iff_of_false Std.ExtTreeMap.not_mem_empty (not_fileHas_of_stamp hcu.symm deviceId)
    · intro hop
      exact hl.reading_eq op 0 htask hop
    · intro deviceId _
      exact Std.ExtTreeMap.not_mem_empty
  | @read op stamp devices htask hne hc =>
    refine RegistryContents.resume (h.setInner ?_ (hnot htask nofun)) true ?_ ?_ (hnot htask nofun)
    · intro _ deviceId
      exact (fileHas_iff hc).symm
    · intro hop
      exact hl.reading_eq op stamp htask hop
    · intro deviceId hr hmem
      exact (h.revoked deviceId hr).1 ((fileHas_iff hc).mpr hmem)
  | @write op htask =>
    have hwr := h.write (hl.writing op htask)
    cases op with
    | register record => exact hwr.noteRegistered ⟨_, rfl, h.inserted record htask⟩
    | load | get deviceId | flush => exact hwr
  | fail =>
    split
    · next record htask => exact h.failRegister htask
    · next ho => exact h.finish ho
  | restart =>
    have he (deviceId : String) : deviceId ∉ (∅ : Devices) := Std.ExtTreeMap.not_mem_empty
    exact
      { copied := fun hcu deviceId hfile =>
          absurd hfile (not_fileHas_of_stamp hcu.symm deviceId)
        known := fun _ deviceId hmem => absurd hmem (he deviceId)
        inserted := nofun
        revoked := fun deviceId hr =>
          ⟨(h.revoked deviceId hr).1, fun _ => he deviceId⟩
        registered := h.registered
        got := h.got }
  | revoke target hidle => exact h.frame rfl rfl rfl fun _ => Iff.rfl
  | acquireRevocation htask hlock => exact h.frame rfl rfl rfl fun _ => Iff.rfl
  | readOne htask hc hmem => exact h.frame rfl rfl rfl fun _ => Iff.rfl
  | @readNone process deviceId htask hc hmeets =>
    refine (h.noteNotFound ?_ hmeets ?_).frame rfl rfl rfl fun _ => Iff.rfl
    · rintro ⟨devices, hd, hmem⟩
      obtain ⟨known, hk, ha⟩ := hc _ hd
      cases hk
      exact ha hmem
    · intro record hw
      exact hl.not_both (by rw [hw]; rfl)
        (show (s.revocations process).holdsLock = true by rw [htask]; rfl)
  | readAll htask => exact h.frame rfl rfl rfl fun _ => Iff.rfl
  | @writeRevocation process target devices htask =>
    refine (h.replace hl.stamp_le ?_ ?_).frame rfl rfl rfl fun _ => Iff.rfl
    · intro record hw
      exact hl.not_both (by rw [hw]; rfl)
        (show (s.revocations process).holdsLock = true by rw [htask]; rfl)
    · intro deviceId
      cases target with
      | all =>
        rw [hl.emptied process devices htask]
        exact iff_of_false Std.ExtTreeMap.not_mem_empty (by rintro ⟨h, -⟩; cases h)
      | one removed =>
        obtain ⟨known, hk, rfl⟩ := hl.erased process removed devices htask
        rw [Std.ExtTreeMap.mem_erase, Revocation.covers, decide_eq_false_iff_not,
          fileHas_iff hk, Ne, Std.compare_eq_iff_eq]
  | failRevocation process => exact h.frame rfl rfl rfl fun _ => Iff.rfl

lemma registry_of_run (h : RegistryRun NoneFailed file s) : RegistryLocks s ∧ RegistryContents s := by
  induction h with
  | start => exact ⟨registryLocks_initial file, registryContents_initial file⟩
  | step _ hstep ih => exact ⟨registryLocks_step ih.1 hstep, registryContents_step ih.2 ih.1 hstep⟩

end Contents

/-- A device that was revoked is neither in the file nor returned by `get` before a register call for it, and a device
whose register call returned is in the file until it is revoked, if `revoke_device` does not come to a device that is not
in the file after a register call for it has failed. -/
theorem revocation_stands {file : SharedFile (Option Devices)} {s : RegistryState}
    (hrun : RegistryRun NoneFailed file s) :
    (∀ deviceId, RevokedSince deviceId s.log → ¬ FileHas s.file deviceId) ∧
    NoneGot s.log ∧ ∀ deviceId, RegisteredSince deviceId s.log → FileHas s.file deviceId := by
  have hc := (registry_of_run hrun).2
  refine ⟨?_, hc.got, hc.registered⟩
  intro deviceId hr
  exact (hc.revoked deviceId hr).1

/-- The device that `firstDevices` holds. -/
def firstDevice : DeviceRecord where
  deviceId := "dev_a"
  name := "phone"
  publicKey := ""
  pairedAt := 0
  lastSeenAt := none

def secondDevice : DeviceRecord := { firstDevice with deviceId := "dev_b" }

def firstDevices : Devices := (∅ : Devices).insert "dev_a" firstDevice

def bothDevices : Devices := firstDevices.insert "dev_b" secondDevice

/-- The daemon has loaded `firstDevices` and is about to write a second device to the file. -/
def registering : RegistryState where
  file := { versions := [some firstDevices] }
  lock := some .daemon
  inner := { devices := bothDevices, stamp := 1, dirty := false }
  task := .writing (.register secondDevice)
  revocations := fun _ => .idle
  log := [.registering secondDevice]

lemma run_registering (Meets : List RegistryEvent → String → Prop) :
    RegistryRun Meets { versions := [some firstDevices] } registering := by
  have hroom : ¬ (maxDevices ≤ firstDevices.size ∧ secondDevice.deviceId ∉ firstDevices) := by
    rintro ⟨hfull, -⟩
    have hsize : firstDevices.size ≤ 1 := Std.ExtTreeMap.size_insert_le
    exact absurd (hfull.trans hsize) (by decide)
  have hstat := (@RegistryRun.start Meets { versions := [some firstDevices] }).step (.stat rfl)
  have hload := hstat.step (@RegistryStep.read _ _ .load 1 firstDevices rfl Nat.one_ne_zero rfl)
  have hregister := ((hload.step (.start (.register secondDevice) rfl)).step (.acquire rfl rfl)).step
    (.unchanged rfl rfl)
  rw [RegistryState.resume_register _ _ hroom] at hregister
  exact hregister

/-- The daemon registers a second device, then another process revokes the first. -/
theorem revocation_stands_firstDevice :
    ∃ s, RegistryRun NoneFailed { versions := [some firstDevices] } s ∧
      (RevokedSince "dev_a" s.log ∧ ¬ FileHas s.file "dev_a") ∧ NoneGot s.log ∧
      RegisteredSince "dev_b" s.log ∧ FileHas s.file "dev_b" := by
  have hkept : "dev_a" ∈ bothDevices := Std.ExtTreeMap.mem_insert.mpr (.inr Std.ExtTreeMap.mem_insert_self)
  have run := (run_registering NoneFailed).step (.write rfl)
  have run := run.step (@RegistryStep.revoke _ _ 0 (.one "dev_a") rfl)
  have run := run.step (@RegistryStep.acquireRevocation _ _ 0 _ rfl rfl)
  have run := run.step (@RegistryStep.readOne _ _ 0 _ _ rfl rfl hkept)
  have run := run.step (@RegistryStep.writeRevocation _ _ 0 _ _ rfl)
  obtain ⟨hrevoked, hgot, hregistered⟩ := revocation_stands run
  refine ⟨_, run, ⟨?_, hrevoked "dev_a" ?_⟩, hgot, ?_, hregistered "dev_b" ?_⟩
  · exact .inl rfl
  · exact .inl rfl
  · exact .inr ⟨rfl, .inl ⟨secondDevice, rfl, rfl⟩⟩
  · exact .inr ⟨rfl, .inl ⟨secondDevice, rfl, rfl⟩⟩

/-- The second device could not be written and stays in the daemon's copy. `revoke_device` does not find it, `get`
returns it, and a flush writes it to the file. -/
theorem revocation_undone :
    ∃ s, RegistryRun (fun _ _ => True) { versions := [some firstDevices] } s ∧
      RevokedSince "dev_b" s.log ∧ FileHas s.file "dev_b" ∧ ¬ NoneGot s.log := by
  have habsent : "dev_b" ∉ firstDevices := by
    rw [firstDevices, Std.ExtTreeMap.mem_insert]
    rintro (heq | hmem)
    · cases heq
    · exact Std.ExtTreeMap.not_mem_empty hmem
  have hheld : bothDevices["dev_b"]? = some secondDevice := Std.ExtTreeMap.getElem?_insert_self
  have run := (run_registering fun _ _ => True).step .fail
  have run := run.step (@RegistryStep.revoke _ _ 0 (.one "dev_b") rfl)
  have run := run.step (@RegistryStep.acquireRevocation _ _ 0 _ rfl rfl)
  have run := run.step (@RegistryStep.readNone _ _ 0 "dev_b" rfl
    (by rintro _ ⟨⟩; exact ⟨_, rfl, habsent⟩) trivial)
  have run := (run.step (.start (.get "dev_b") rfl)).step (.unchanged rfl rfl)
  have run := run.step (.touch 1 rfl hheld)
  have run := ((run.step (.start .flush rfl)).step (.acquire rfl rfl)).step (.unchanged rfl rfl)
  have run := run.step (.write rfl)
  refine ⟨_, run, .inr (.inr ⟨rfl, .inr (.inl rfl)⟩), ⟨_, rfl, Std.ExtTreeMap.mem_insert_self⟩, ?_⟩
  rintro ⟨hgot, -⟩
  exact hgot "dev_b" secondDevice (congrArg _ hheld) (.inr (.inl rfl))

end Todex
