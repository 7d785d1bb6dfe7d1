import Mathlib.Logic.Relation
import Todex.Lib.Bytes

/-!
# Updates of the installed executable

An update stages the new executable in a lock directory, links the installed one to a backup and renames the staged one
to the installed name. If the new executable cannot be started, it is removed and the backup is renamed back. A crash
leaves the lock directory, which refuses every later update, or no executable, if it comes between the last two
operations.
-/

namespace Todex

structure ProgramFile where
  bytes : Bytes
  permissions : ℕ

structure UpdateFiles where
  executable : Option ProgramFile
  /-- The `update-lock` directory, and the staged executable in it. -/
  lock : Option (Option ProgramFile)
  backups : String → Option ProgramFile

/-- The next operation of an update. -/
inductive UpdateStage
  | idle
  | createStaged
  | write (rest : Bytes)
  | setPermissions
  | validate
  | hardLink
  | renameStaged (backup : String)
  | removeBackup (backup : String)
  /-- `UpdateLock` is dropped. There is a backup if the new executable is installed. -/
  | removeStaged (backup : Option String)
  | removeLock (backup : Option String)
  | start (backup : String)
  | removeExecutable (backup : String)
  | renameBackup (backup : String)

namespace UpdateStage

/-- An operation of `install` whose failure is returned as it is. -/
def installs : UpdateStage → Bool
  | createStaged | write _ | setPermissions | validate | hardLink => true
  | _ => false

/-- There is no lock directory and an executable. -/
def Clean : UpdateStage → Prop
  | idle | start _ | removeExecutable _ => True
  | _ => False

end UpdateStage

structure UpdateState where
  files : UpdateFiles
  stage : UpdateStage
  /-- The download of the last update. -/
  bytes : Bytes
  /-- What was installed before the last update. -/
  previous : ProgramFile

namespace UpdateState

def installed (previous : ProgramFile) : UpdateState where
  files := { executable := some previous, lock := none, backups := fun _ => none }
  stage := .idle
  bytes := previous.bytes
  previous := previous

/-- What the last update installs. -/
def next (self : UpdateState) : ProgramFile := { self.previous with bytes := self.bytes }

end UpdateState

/-- The operations of `install`, and those of `restore_backup` for an executable that cannot be started. -/
inductive UpdateAct (s : UpdateState) : UpdateStage → UpdateFiles → UpdateStage → Prop
  | createStaged (permissions : ℕ) :
      UpdateAct s .createStaged { s.files with lock := some (some { bytes := [], permissions }) } (.write s.bytes)
  | write {staged : ProgramFile} (chunk rest : Bytes) (hstaged : s.files.lock = some (some staged)) :
      UpdateAct s (.write (chunk ++ rest))
        { s.files with lock := some (some { staged with bytes := staged.bytes ++ chunk }) } (.write rest)
  | sync : UpdateAct s (.write []) s.files .setPermissions
  | setPermissions {staged executable : ProgramFile} (hstaged : s.files.lock = some (some staged))
      (hexecutable : s.files.executable = some executable) :
      UpdateAct s .setPermissions
        { s.files with lock := some (some { staged with permissions := executable.permissions }) } .validate
  | validate : UpdateAct s .validate s.files .hardLink
  | hardLink {backup : String} (hnew : s.files.backups backup = none) :
      UpdateAct s .hardLink { s.files with backups := Function.update s.files.backups backup s.files.executable }
        (.renameStaged backup)
  | fail {stage : UpdateStage} (hstage : stage.installs = true) : UpdateAct s stage s.files (.removeStaged none)
  | renameStaged {backup : String} {staged : ProgramFile} (hstaged : s.files.lock = some (some staged)) :
      UpdateAct s (.renameStaged backup) { s.files with executable := some staged, lock := some none }
        (.removeStaged (some backup))
  | failRename {backup : String} : UpdateAct s (.renameStaged backup) s.files (.removeBackup backup)
  | removeBackup {backup : String} :
      UpdateAct s (.removeBackup backup)
        { s.files with backups := Function.update s.files.backups backup none } (.removeStaged none)
  | removeStaged {backup : Option String} :
      UpdateAct s (.removeStaged backup) { s.files with lock := some none } (.removeLock backup)
  | removeLock {backup : Option String} :
      UpdateAct s (.removeLock backup) { s.files with lock := none } (backup.elim .idle .start)
  | start {backup : String} : UpdateAct s (.start backup) s.files .idle
  | failStart {backup : String} : UpdateAct s (.start backup) s.files (.removeExecutable backup)
  | removeExecutable {backup : String} :
      UpdateAct s (.removeExecutable backup) { s.files with executable := none } (.renameBackup backup)
  | renameBackup {backup : String} {file : ProgramFile} (hbackup : s.files.backups backup = some file) :
      UpdateAct s (.renameBackup backup)
        { s.files with executable := some file, backups := Function.update s.files.backups backup none } .idle

/-- `Meets` is asked of the operation that a crash comes before. -/
inductive UpdateStep (Meets : UpdateStage → Prop) (s : UpdateState) : UpdateState → Prop
  | createLock {previous : ProgramFile} (bytes : Bytes) (hstage : s.stage = .idle) (hlock : s.files.lock = none)
      (hexecutable : s.files.executable = some previous) :
      UpdateStep Meets s { files := { s.files with lock := some none }, stage := .createStaged, bytes, previous }
  | act {files : UpdateFiles} {stage : UpdateStage} (hact : UpdateAct s s.stage files stage) :
      UpdateStep Meets s { s with files, stage }
  | crash (hmeets : Meets s.stage) : UpdateStep Meets s { s with stage := .idle }

/-- What the files hold before each operation. -/
def UpdateOk (s : UpdateState) : UpdateStage → Prop
  | .idle => s.files.lock = none ∧ (s.files.executable = some s.previous ∨ s.files.executable = some s.next)
  | .createStaged | .removeBackup _ | .removeStaged none | .removeLock none => s.files.executable = some s.previous
  | .write rest => s.files.executable = some s.previous ∧
      ∃ staged, s.files.lock = some (some staged) ∧ staged.bytes ++ rest = s.bytes
  | .setPermissions => s.files.executable = some s.previous ∧
      ∃ staged, s.files.lock = some (some staged) ∧ staged.bytes = s.bytes
  | .validate | .hardLink => s.files.executable = some s.previous ∧ s.files.lock = some (some s.next)
  | .renameStaged backup => s.files.executable = some s.previous ∧ s.files.lock = some (some s.next) ∧
      s.files.backups backup = some s.previous
  | .removeStaged (some backup) | .removeLock (some backup) =>
      s.files.executable = some s.next ∧ s.files.backups backup = some s.previous
  | .start backup | .removeExecutable backup =>
      s.files.lock = none ∧ s.files.executable = some s.next ∧ s.files.backups backup = some s.previous
  | .renameBackup backup => s.files.lock = none ∧ s.files.backups backup = some s.previous

lemma UpdateOk.executable (h : UpdateOk s stage)
    (hs : stage.installs = true) : s.files.executable = some s.previous := by
  cases stage with
  | createStaged => exact h
  | write | setPermissions | validate | hardLink => exact h.1
  | _ => cases hs

lemma UpdateOk.act (h : UpdateOk s stage)
    (ha : UpdateAct s stage files stage') : UpdateOk { s with files, stage := stage' } stage' := by
  cases ha with
  | createStaged => exact ⟨h, _, rfl, rfl⟩
  | write chunk rest hs =>
    obtain ⟨he, staged, hl, hb⟩ := h
    cases hs.symm.trans hl
    refine ⟨he, _, rfl, ?_⟩
    rw [← hb, List.append_assoc]
  | sync =>
    obtain ⟨he, staged, hl, hb⟩ := h
    exact ⟨he, staged, hl, by simpa using hb⟩
  | setPermissions hs he =>
    obtain ⟨hp, staged, hl, hb⟩ := h
    cases hs.symm.trans hl
    cases he.symm.trans hp
    refine ⟨hp, ?_⟩
    simp [UpdateState.next, hb]
  | validate => exact h
  | hardLink hn => exact ⟨h.1, h.2, by simp [h.1]⟩
  | fail hst => exact h.executable hst
  | renameStaged hs =>
    obtain ⟨-, hl, hba⟩ := h
    cases hs.symm.trans hl
    exact ⟨rfl, hba⟩
  | failRename => exact h.1
  | removeBackup => exact h
  | @removeStaged backup => cases backup <;> exact h
  | @removeLock backup =>
    cases backup with
    | none => exact ⟨rfl, .inl h⟩
    | some backup => exact ⟨rfl, h⟩
  | start => exact ⟨h.1, .inr h.2.1⟩
  | failStart => exact h
  | removeExecutable => exact ⟨h.1, h.2.2⟩
  | renameBackup hba =>
    cases hba.symm.trans h.2
    exact ⟨h.1, .inl rfl⟩

lemma UpdateOk.step (h : UpdateOk s s.stage) (hst : UpdateStep UpdateStage.Clean s t) : UpdateOk t t.stage := by
  cases hst with
  | createLock bytes hs hl he => exact he
  | act ha => exact h.act ha
  | crash hm =>
    generalize s.stage = stage at h hm
    cases stage with
    | idle => exact h
    | start | removeExecutable => exact ⟨h.1, .inr h.2.1⟩
    | _ => cases hm

/-- An update finds no lock directory, and all of its operations can be made. -/
lemma UpdateState.exists_update (Meets : UpdateStage → Prop) (bytes : Bytes)
    (backup : String) (hs : s.stage = .idle) (hl : s.files.lock = none) (hf : s.files.executable = some file)
    (hn : s.files.backups backup = none) :
    ∃ t, Relation.ReflTransGen (UpdateStep Meets) s t ∧ t.stage = .start backup ∧ t.files.lock = none ∧
      t.files.executable = some { file with bytes } := by
  have run : Relation.ReflTransGen (UpdateStep Meets) s _ := .single (.createLock bytes hs hl hf)
  have run := run.tail (.act (.createStaged 0))
  have hw := UpdateAct.write (s := { s with
    files := { s.files with lock := some (some { bytes := [], permissions := 0 }) }
    stage := .write bytes
    bytes
    previous := file }) bytes [] rfl
  rw [List.append_nil] at hw
  have run := run.tail (.act hw)
  have run := run.tail (.act .sync)
  have run := run.tail (.act (.setPermissions rfl hf))
  have run := run.tail (.act .validate)
  have run := run.tail (.act (.hardLink hn))
  have run := run.tail (.act (.renameStaged rfl))
  have run := run.tail (.act .removeStaged)
  have run := run.tail (.act .removeLock)
  exact ⟨_, run, rfl, rfl, rfl⟩

/-- If no crash comes while there is a lock directory, or between the two operations of `restore_backup`, then the
installed name has a complete executable whenever no update is in progress, and the next update can install its own. -/
theorem update_crash_safe {previous : ProgramFile} {s : UpdateState}
    (hrun : Relation.ReflTransGen (UpdateStep UpdateStage.Clean) (.installed previous) s) (hstage : s.stage = .idle) :
    (s.files.executable = some s.previous ∨ s.files.executable = some s.next) ∧
      ∀ bytes backup, s.files.backups backup = none → ∃ t, Relation.ReflTransGen (UpdateStep UpdateStage.Clean) s t ∧
        t.stage = .start backup ∧ t.files.executable.map ProgramFile.bytes = some bytes := by
  have hok : UpdateOk s s.stage := by
    clear hstage
    induction hrun with
    | refl => exact ⟨rfl, .inl rfl⟩
    | tail _ hstep ih => exact ih.step hstep
  rw [hstage] at hok
  refine ⟨hok.2, ?_⟩
  intro bytes backup hnew
  obtain ⟨file, hfile⟩ : ∃ file, s.files.executable = some file := hok.2.elim (⟨_, ·⟩) (⟨_, ·⟩)
  obtain ⟨t, hrun, hs, -, he⟩ := UpdateState.exists_update _ bytes backup hstage hok.1 hfile hnew
  exact ⟨t, hrun, hs, by rw [he]; rfl⟩

/-- The process ends when it has installed an update. -/
theorem update_crash_safe_installed : ∃ s : UpdateState, s.stage = .idle ∧
    s.files.executable.map ProgramFile.bytes = some [2] ∧
    (s.files.executable = some s.previous ∨ s.files.executable = some s.next) := by
  obtain ⟨t, hrun, hs, -, he⟩ := UpdateState.exists_update UpdateStage.Clean
    (s := .installed { bytes := [1], permissions := 7 }) [2] "previous" rfl rfl rfl rfl
  have hc : t.stage.Clean := by
    rw [hs]
    trivial
  refine ⟨{ t with stage := .idle }, rfl, ?_, (update_crash_safe (hrun.tail (.crash hc)) rfl).1⟩
  rw [he]
  rfl

/-- A crash leaves the lock directory, so that no update is ever made again. Another one comes when the new executable
has been removed and the backup has not been put back, so that there is no executable. -/
theorem update_crash_unsafe :
    (∃ s, Relation.ReflTransGen (UpdateStep fun _ => True) (.installed ⟨[1], 7⟩) s ∧ s.stage = .idle ∧
      ∀ t, UpdateStep (fun _ => True) s t → t = s) ∧
    ∃ s, Relation.ReflTransGen (UpdateStep fun _ => True) (.installed ⟨[1], 7⟩) s ∧ s.stage = .idle ∧
      s.files.executable = none := by
  constructor
  · have run : Relation.ReflTransGen (UpdateStep fun _ => True) (.installed ⟨[1], 7⟩) _ :=
      .single (.createLock [2] rfl rfl rfl)
    refine ⟨_, run.tail (.crash trivial), rfl, ?_⟩
    intro t hstep
    cases hstep with
    | createLock _ _ hlock _ => cases hlock
    | act hact =>
      cases hact with
      | fail hs => cases hs
    | crash => rfl
  · obtain ⟨t, run, hst, -⟩ := UpdateState.exists_update (fun _ => True) (s := .installed ⟨[1], 7⟩) [2] "previous" rfl
      rfl rfl rfl
    have run := run.tail (.act (by rw [hst]; exact .failStart))
    have run := run.tail (.act .removeExecutable)
    exact ⟨_, run.tail (.crash trivial), rfl, rfl⟩

end Todex
