import Mathlib

/-!
# The writer lock of dsh

A process that edits a dsh profile creates a lock file first and writes its process id to it. A lock whose holder
has exited is removed by whoever finds it. What is removed is not looked at again, so it may be the lock of a process
that was faster. As long as every removed lock names a process that has exited, at most one process is in its
operation, and no edit is lost.
-/

namespace Todex

/-- Where a process is in `with_lock`. -/
inductive LockStage (α : Type)
  /-- It has not come to `with_lock`, or has left it. -/
  | idle
  /-- It is about to create the lock file. -/
  | opening
  /-- The lock file was there. -/
  | found
  /-- It has read the process id of the holder. -/
  | checking (pid : ℕ)
  /-- The holder has exited. -/
  | removing
  /-- The holder counts as live. -/
  | waiting
  /-- It has created the lock file. -/
  | created
  /-- It is in the operation, and has read the patch file or not. -/
  | inside (seen : Option α)

namespace LockStage

variable {α : Type}

/-- It counts as the holder of the lock. -/
def holds : LockStage α → Bool
  | created | inside _ => true
  | _ => false

/-- What it has read of the patch file. -/
def seen : LockStage α → Option α
  | inside seen => seen
  | _ => none

end LockStage

/-- The file `<target>.lock`. -/
structure LockFile where
  creator : ℕ
  /-- The process id that is written in it. -/
  pid : Option ℕ

/-- The processes, by their process ids, and the files. -/
structure DshWorld (α : Type) where
  lock : Option LockFile
  patch : α
  stage : ℕ → LockStage α
  exited : ℕ → Bool

namespace DshWorld

variable {α : Type}

def start (patch : α) : DshWorld α where
  lock := none
  patch := patch
  stage _ := .idle
  exited _ := false

variable (self : DshWorld α)

def setStage (i : ℕ) (stage : LockStage α) : DshWorld α :=
  { self with stage := Function.update self.stage i stage }

/-- A process writes its id to the lock file it has created. -/
def writePid (i : ℕ) : DshWorld α :=
  { self with lock := self.lock.map fun lock => if lock.creator = i then { lock with pid := some i } else lock }

/-- The process runs, and is in its operation. -/
def Inside (i : ℕ) : Prop := self.exited i = false ∧ ∃ seen, self.stage i = .inside seen

/-- The lock file, if it is there, names a process that has exited. -/
def HolderExited : Prop := ∀ lock ∈ self.lock, ∃ pid ∈ lock.pid, self.exited pid

end DshWorld

/-- What process `i` does at a stage. `Meets` is asked when it takes a lock over. -/
inductive LockAct {α : Type} (Meets : DshWorld α → Prop) (s : DshWorld α) (i : ℕ) : LockStage α → DshWorld α → Prop
  | enter : LockAct Meets s i .idle (s.setStage i .opening)
  | create (hlock : s.lock = none) :
      LockAct Meets s i .opening ({ s with lock := some { creator := i, pid := none } }.setStage i .created)
  | found (hlock : s.lock.isSome) : LockAct Meets s i .opening (s.setStage i .found)
  | read {lock : LockFile} {pid : ℕ} (hlock : s.lock = some lock) (hpid : lock.pid = some pid) :
      LockAct Meets s i .found (s.setStage i (.checking pid))
  /-- The lock file is gone, or holds no process id. -/
  | unreadable (hlock : s.lock.bind LockFile.pid = none) : LockAct Meets s i .found (s.setStage i .waiting)
  | holderExited {pid : ℕ} (hexited : s.exited pid) : LockAct Meets s i (.checking pid) (s.setStage i .removing)
  /-- The holder runs, or its process id belongs to another process by now. -/
  | holderLives {pid : ℕ} : LockAct Meets s i (.checking pid) (s.setStage i .waiting)
  | remove (hmeets : Meets s) : LockAct Meets s i .removing ({ s with lock := none }.setStage i .opening)
  | again : LockAct Meets s i .waiting (s.setStage i .opening)
  /-- The time is over. -/
  | giveUp : LockAct Meets s i .waiting (s.setStage i .idle)
  | writePid : LockAct Meets s i .created ((s.writePid i).setStage i (.inside none))
  /-- The process id could not be written. -/
  | writeFails : LockAct Meets s i .created (s.setStage i (.inside none))
  /-- `edit_patch_at` reads the patch. -/
  | readPatch {seen : Option α} : LockAct Meets s i (.inside seen) (s.setStage i (.inside (some s.patch)))
  /-- It writes what it has made of it. -/
  | writePatch {seen : α} (patch : α) :
      LockAct Meets s i (.inside (some seen)) ({ s with patch }.setStage i (.inside (some patch)))
  | leave {seen : Option α} : LockAct Meets s i (.inside seen) ({ s with lock := none }.setStage i .idle)

inductive DshStep {α : Type} (Meets : DshWorld α → Prop) (s : DshWorld α) : DshWorld α → Prop
  | act (i : ℕ) {t : DshWorld α} (hrun : s.exited i = false) (hact : LockAct Meets s i (s.stage i) t) :
      DshStep Meets s t
  | exit (i : ℕ) : DshStep Meets s { s with exited := Function.update s.exited i true }

/-- A process that counts as the holder has created the lock file, and the patch is as it has read it. -/
def HolderOk {α : Type} (lock : Option LockFile) (patch : α) (i : ℕ) (stage : LockStage α) : Prop :=
  (stage.holds → ∃ file ∈ lock, file.creator = i) ∧ ∀ seen ∈ stage.seen, patch = seen

lemma HolderOk.of_not_holds (h : stage.holds = false) (lock : Option LockFile)
    (patch : α) (i : ℕ) : HolderOk lock patch i stage := by
  cases stage with
  | created | inside seen => cases h
  | idle | opening | found | checking pid | removing | waiting => exact ⟨nofun, nofun⟩

structure LockOk {α : Type} (s : DshWorld α) : Prop where
  holders : ∀ i, s.exited i = false → HolderOk s.lock s.patch i (s.stage i)
  named : ∀ lock ∈ s.lock, ∀ pid ∈ lock.pid, lock.creator = pid

namespace LockOk

variable {α : Type} {s : DshWorld α} {i : ℕ} {stage : LockStage α}

lemma unique (h : LockOk s) (hi : s.exited i = false) (hh : (s.stage i).holds)
    (hj : s.exited j = false) (hh' : (s.stage j).holds) : i = j := by
  obtain ⟨lock, hlock, rfl⟩ := (h.holders i hi).1 hh
  obtain ⟨lock', hlock', rfl⟩ := (h.holders j hj).1 hh'
  rw [Option.mem_unique hlock hlock']

lemma change (hself : HolderOk lock patch i stage)
    (ho : ∀ j ≠ i, s.exited j = false → HolderOk lock patch j (s.stage j))
    (hn : ∀ file ∈ lock, ∀ pid ∈ file.pid, file.creator = pid) :
    LockOk ({ s with lock, patch }.setStage i stage) where
  holders := by
    intro j hrun
    by_cases hj : j = i
    · subst hj
      simpa only [DshWorld.setStage, Function.update_self] using hself
    · simpa only [DshWorld.setStage, Function.update_of_ne hj] using ho j hj hrun
  named := hn

lemma setStage (h : LockOk s) (hself : HolderOk s.lock s.patch i stage) : LockOk (s.setStage i stage) :=
  change hself (fun j _ => h.holders j) h.named

/-- A process goes on and may change the files, while no other one holds the lock. -/
lemma changeAlone
    (ha : ∀ j ≠ i, s.exited j = false → ¬ (s.stage j).holds) (hself : HolderOk lock patch i stage)
    (hn : ∀ file ∈ lock, ∀ pid ∈ file.pid, file.creator = pid) :
    LockOk ({ s with lock, patch }.setStage i stage) := by
  refine change hself ?_ hn
  intro j hj hrun
  exact .of_not_holds (Bool.not_eq_true _ ▸ ha j hj hrun) _ _ _

lemma alone (h : LockOk s) (hrun : s.exited i = false) (hh : (s.stage i).holds) :
    ∀ j ≠ i, s.exited j = false → ¬ (s.stage j).holds :=
  fun _ hj hrun' hh' => hj (h.unique hrun' hh' hrun hh)

lemma act (h : LockOk s) (hrun : s.exited i = false)
    (hact : LockAct DshWorld.HolderExited s i (s.stage i) t) : LockOk t := by
  generalize hs : s.stage i = stage at hact
  have hh := h.holders i hrun
  rw [hs] at hh
  cases hact with
  | enter | found | read | unreadable | holderExited | holderLives | again | giveUp =>
    exact h.setStage (.of_not_holds rfl _ _ _)
  | create hlock =>
    refine changeAlone ?_ ⟨fun _ => ⟨_, rfl, rfl⟩, nofun⟩ ?_
    · intro j _ hrun' hho
      obtain ⟨lock, hmem, -⟩ := (h.holders j hrun').1 hho
      rw [hlock] at hmem
      cases hmem
    · rintro _ ⟨⟩
      nofun
  | remove hm =>
    -- the lock that goes is of a process that has exited, so no process that runs holds it
    refine changeAlone ?_ (.of_not_holds rfl _ _ _) nofun
    intro j _ hrun' hho
    obtain ⟨lock, hlock, rfl⟩ := (h.holders j hrun').1 hho
    obtain ⟨pid, hpid, he⟩ := hm lock hlock
    rw [← h.named lock hlock pid hpid, hrun'] at he
    cases he
  | writePid =>
    obtain ⟨lock, hlock, hc⟩ := hh.1 rfl
    have hw : (s.writePid i).lock = some { lock with pid := some i } := by
      rw [DshWorld.writePid, Option.mem_def.1 hlock, Option.map_some, if_pos hc]
    refine changeAlone (h.alone hrun (by rw [hs]; rfl)) ⟨fun _ => ⟨_, hw, hc⟩, nofun⟩ ?_
    intro file hfile
    cases hw.symm.trans hfile
    rintro _ ⟨⟩
    exact hc
  | writeFails => exact h.setStage ⟨fun _ => hh.1 rfl, nofun⟩
  | readPatch =>
    refine h.setStage ⟨fun _ => hh.1 rfl, ?_⟩
    rintro _ ⟨⟩
    rfl
  | writePatch patch =>
    refine changeAlone (h.alone hrun (by rw [hs]; rfl)) ⟨fun _ => hh.1 rfl, ?_⟩ h.named
    rintro _ ⟨⟩
    rfl
  | leave => exact changeAlone (h.alone hrun (by rw [hs]; rfl)) (.of_not_holds rfl _ _ _) nofun

lemma step (h : LockOk s) (hstep : DshStep DshWorld.HolderExited s t) : LockOk t := by
  cases hstep with
  | act i hrun hact => exact h.act hrun hact
  | exit i =>
    refine ⟨fun j hrun => h.holders j ?_, h.named⟩
    by_cases hj : j = i
    · subst hj
      cases (Function.update_self ..).symm.trans hrun
    · exact (Function.update_of_ne hj ..).symm.trans hrun

lemma run (hrun : Relation.ReflTransGen (DshStep DshWorld.HolderExited) (.start patch) s) : LockOk s := by
  induction hrun with
  | refl => exact ⟨fun _ _ => .of_not_holds rfl _ _ _, nofun⟩
  | tail _ hstep ih => exact ih.step hstep

end LockOk

/-- If every lock that is taken over names a process that has exited, then at most one process that runs is in its
operation, and the patch is still as it has read it when it writes. -/
theorem dsh_lock_exclusive {α : Type} {patch : α} {s : DshWorld α}
    (hrun : Relation.ReflTransGen (DshStep DshWorld.HolderExited) (.start patch) s) :
    (∀ i j, s.Inside i → s.Inside j → i = j) ∧
      ∀ i seen, s.exited i = false → s.stage i = .inside (some seen) → s.patch = seen := by
  have hok := LockOk.run hrun
  constructor
  · rintro i j ⟨hi, seen, hs⟩ ⟨hj, seen', hs'⟩
    exact hok.unique hi (by rw [hs]; rfl) hj (by rw [hs']; rfl)
  · intro i seen hi hs
    exact (hok.holders i hi).2 seen (by rw [hs]; rfl)

/-- Process 1 takes the lock of process 0 over, which has exited. -/
theorem dsh_lock_exclusive_takeover :
    ∃ s : DshWorld ℕ, (∀ i, s.Inside i ↔ i = 1) ∧ s.stage 1 = .inside (some 7) ∧ s.patch = 7 := by
  have run : Relation.ReflTransGen (DshStep DshWorld.HolderExited) (.start 7) _ := .refl
  have run := run.tail (.act 0 rfl .enter)
  have run := run.tail (.act 0 rfl (.create rfl))
  have run := run.tail (.act 0 rfl .writePid)
  have run := run.tail (.exit 0)
  have run := run.tail (.act 1 rfl .enter)
  have run := run.tail (.act 1 rfl (.found rfl))
  have run := run.tail (.act 1 rfl (.read rfl rfl))
  have run := run.tail (.act 1 rfl (.holderExited rfl))
  have run := run.tail (.act 1 rfl (.remove (by rintro _ ⟨⟩; exact ⟨0, rfl, rfl⟩)))
  have run := run.tail (.act 1 rfl (.create rfl))
  have run := run.tail (.act 1 rfl .writePid)
  have run := run.tail (.act 1 rfl .readPatch)
  obtain ⟨hu, hseen⟩ := dsh_lock_exclusive run
  refine ⟨_, fun i => ⟨fun hi => hu i 1 hi ⟨rfl, _, rfl⟩, ?_⟩, rfl, hseen 1 7 rfl rfl⟩
  rintro rfl
  exact ⟨rfl, _, rfl⟩

/-- Processes 1 and 2 have found the lock of a process that has exited. Process 1 takes it over, and process 2
removes the lock of process 1. Both read the patch, and the edit of process 1 is lost. -/
theorem dsh_lock_shared :
    ∃ s : DshWorld ℕ, Relation.ReflTransGen (DshStep fun _ => True) (.start 0) s ∧ s.Inside 1 ∧ s.Inside 2 ∧
      s.stage 2 = .inside (some 0) ∧ s.patch = 1 := by
  have run : Relation.ReflTransGen (DshStep fun _ => True) (.start 0) _ := .refl
  have run := run.tail (.act 0 rfl .enter)
  have run := run.tail (.act 0 rfl (.create rfl))
  have run := run.tail (.act 0 rfl .writePid)
  have run := run.tail (.exit 0)
  have run := run.tail (.act 1 rfl .enter)
  have run := run.tail (.act 1 rfl (.found rfl))
  have run := run.tail (.act 1 rfl (.read rfl rfl))
  have run := run.tail (.act 1 rfl (.holderExited rfl))
  have run := run.tail (.act 2 rfl .enter)
  have run := run.tail (.act 2 rfl (.found rfl))
  have run := run.tail (.act 2 rfl (.read rfl rfl))
  have run := run.tail (.act 2 rfl (.holderExited rfl))
  have run := run.tail (.act 1 rfl (.remove trivial))
  have run := run.tail (.act 1 rfl (.create rfl))
  have run := run.tail (.act 1 rfl .writePid)
  have run := run.tail (.act 1 rfl .readPatch)
  have run := run.tail (.act 2 rfl (.remove trivial))
  have run := run.tail (.act 2 rfl (.create rfl))
  have run := run.tail (.act 2 rfl .writePid)
  have run := run.tail (.act 2 rfl .readPatch)
  have run := run.tail (.act 1 rfl (.writePatch 1))
  exact ⟨_, run, ⟨rfl, _, rfl⟩, ⟨rfl, _, rfl⟩, rfl, rfl⟩

end Todex
