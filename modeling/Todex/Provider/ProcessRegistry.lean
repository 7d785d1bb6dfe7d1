import Mathlib.Logic.Function.Basic
import Mathlib.Logic.Relation
import Mathlib.Tactic.SplitIfs
import Todex.Lib.Update

/-!
# The registry of provider processes

Each change of the record list makes a snapshot, which goes through a queue of one to a background writer. The writer
skips what is older than the file. A record is removed by its pid alone, so the drop of a reaped process takes the record
of a newer one that has its pid.
-/

namespace Todex

structure ProcessRecord where
  pid : Nat
  pgid : Nat
  startTime : Nat
  program : String
deriving DecidableEq

/-- A `TrackedProcess` that is alive, and whether its process has been reaped. -/
structure TrackedProvider where
  pid : Nat
  startTime : Nat
  reaped : Bool

abbrev ProcessSnapshot := Nat × List ProcessRecord

structure ProcessRegistry where
  generation : Nat
  list : List ProcessRecord
  tracked : Nat → Option TrackedProvider
  /-- The snapshots between `edit` and `persist`. -/
  inHand : List ProcessSnapshot
  pending : Option ProcessSnapshot
  writing : Bool
  /-- What the writer has taken from the queue. -/
  taken : Option ProcessSnapshot
  written : Nat
  file : List ProcessRecord
  /-- The list of each generation. -/
  history : Nat → List ProcessRecord

namespace ProcessRegistry

def activated : ProcessRegistry where
  generation := 0
  list := []
  tracked := fun _ => none
  inHand := []
  pending := none
  writing := false
  taken := none
  written := 0
  file := []
  history := fun _ => []

def edit (self : ProcessRegistry) (list : List ProcessRecord) : ProcessRegistry :=
  { self with
    generation := self.generation + 1
    list
    inHand := (self.generation + 1, list) :: self.inHand
    history := Function.update self.history (self.generation + 1) list }

/-- The edit of a drop, which changes nothing if there is no record. -/
def removePid (self : ProcessRegistry) (pid : Nat) : ProcessRegistry :=
  let list := self.list.filter (·.pid ≠ pid)
  if list.length ≠ self.list.length then self.edit list else self

def queue (self : ProcessRegistry) (snapshot : ProcessSnapshot) : ProcessRegistry :=
  { self with
    pending := if self.pending.all (·.1 < snapshot.1) then some snapshot else self.pending
    writing := true }

def write (self : ProcessRegistry) (snapshot : ProcessSnapshot) : ProcessRegistry :=
  if snapshot.1 < self.written then self else { self with file := snapshot.2, written := snapshot.1 }

/-- A snapshot that is still to be written. -/
def Has (s : ProcessRegistry) (snapshot : ProcessSnapshot) : Prop :=
  snapshot ∈ s.inHand ∨ s.pending = some snapshot ∨ s.taken = some snapshot

/-- No other provider with this pid is tracked and alive. -/
def Alone (s : ProcessRegistry) (id pid : Nat) : Prop :=
  ∀ other p, other ≠ id → s.tracked other = some p → p.pid = pid → p.reaped

end ProcessRegistry

/-- `Meets` holds of the handle and the pid for which `track` or a drop edits the list. -/
inductive ProcessStep (Meets : ProcessRegistry → Nat → Nat → Prop) : ProcessRegistry → ProcessRegistry → Prop
  | track {s : ProcessRegistry} (id pid startTime : Nat) (program : String) (reaped : Bool) :
      s.tracked id = none → Meets s id pid → ProcessStep Meets s
        { s.edit (s.list.filter (·.pid ≠ pid) ++ [{ pid, pgid := pid, startTime, program }]) with
          tracked := Function.update s.tracked id (some { pid, startTime, reaped }) }
  | reap {s : ProcessRegistry} (id : Nat) {p : TrackedProvider} : s.tracked id = some p → ProcessStep Meets s
      { s with tracked := Function.update s.tracked id (some { p with reaped := true }) }
  | drop {s : ProcessRegistry} (id : Nat) {p : TrackedProvider} :
      s.tracked id = some p → p.reaped → Meets s id p.pid →
      ProcessStep Meets s { s.removePid p.pid with tracked := Function.update s.tracked id none }
  | persist {s : ProcessRegistry} {snapshot : ProcessSnapshot} : snapshot ∈ s.inHand →
      ProcessStep Meets s ({ s with inHand := s.inHand.erase snapshot }.queue snapshot)
  /-- There is no runtime. -/
  | persistInline {s : ProcessRegistry} {snapshot : ProcessSnapshot} : snapshot ∈ s.inHand →
      ProcessStep Meets s ({ s with inHand := s.inHand.erase snapshot }.write snapshot)
  | take {s : ProcessRegistry} {snapshot : ProcessSnapshot} : s.writing → s.taken = none →
      s.pending = some snapshot → ProcessStep Meets s { s with pending := none, taken := some snapshot }
  | write {s : ProcessRegistry} {snapshot : ProcessSnapshot} : s.taken = some snapshot →
      ProcessStep Meets s ({ s with taken := none }.write snapshot)
  | finish {s : ProcessRegistry} : s.writing → s.taken = none → s.pending = none →
      ProcessStep Meets s { s with writing := false }

variable {s t : ProcessRegistry}

/-! ### The file -/

/-- The snapshots and the file are lists of their generations, and the newest list is on its way or written. -/
structure ProcessFileOk (s : ProcessRegistry) : Prop where
  newest : s.history s.generation = s.list
  snapshots : ∀ snapshot, s.Has snapshot → snapshot.1 ≤ s.generation ∧ s.history snapshot.1 = snapshot.2
  file : s.history s.written = s.file
  written_le : s.written ≤ s.generation
  latest : s.written = s.generation ∨ ∃ snapshot, s.Has snapshot ∧ snapshot.1 = s.generation

namespace ProcessFileOk

variable (h : ProcessFileOk s)

include h

lemma edit (list : List ProcessRecord) : ProcessFileOk (s.edit list) := by
  have hold (g : Nat) (hle : g ≤ s.generation) : (s.edit list).history g = s.history g :=
    Function.update_of_ne (by omega) ..
  refine ⟨Function.update_self .., ?_, ?_, Nat.le_succ_of_le h.written_le, .inr ⟨_, .inl List.mem_cons_self, rfl⟩⟩
  · rintro snapshot (hmem | hmem)
    · rcases List.mem_cons.mp hmem with rfl | hmem
      · exact ⟨Nat.le_refl _, Function.update_self ..⟩
      · obtain ⟨hle, heq⟩ := h.snapshots snapshot (.inl hmem)
        exact ⟨Nat.le_succ_of_le hle, (hold _ hle).trans heq⟩
    · obtain ⟨hle, heq⟩ := h.snapshots snapshot (.inr hmem)
      exact ⟨Nat.le_succ_of_le hle, (hold _ hle).trans heq⟩
  · exact (hold _ h.written_le).trans h.file

lemma move {pending taken : Option ProcessSnapshot} (writing : Bool)
    (hsub : ∀ snapshot, { s with inHand, pending, taken }.Has snapshot → s.Has snapshot)
    (hkeep : ∀ snapshot, s.Has snapshot → snapshot.1 = s.generation →
      ∃ other, { s with inHand, pending, taken }.Has other ∧ other.1 = s.generation) :
    ProcessFileOk { s with inHand, pending, taken, writing } := by
  refine ⟨h.newest, fun snapshot hhas => h.snapshots snapshot (hsub snapshot hhas), h.file, h.written_le, ?_⟩
  rcases h.latest with hw | ⟨snapshot, hhas, hn⟩
  · exact .inl hw
  · exact .inr (hkeep snapshot hhas hn)

lemma write (hhas : s.Has snapshot) (hsub : ∀ other, { s with inHand, taken }.Has other → s.Has other)
    (hkeep : ∀ other, s.Has other → other = snapshot ∨ { s with inHand, taken }.Has other) :
    ProcessFileOk ({ s with inHand, taken }.write snapshot) := by
  obtain ⟨hle, heq⟩ := h.snapshots snapshot hhas
  have hrest : s.written = s.generation ∨ snapshot.1 = s.generation ∨
      ∃ other, { s with inHand, taken }.Has other ∧ other.1 = s.generation := by
    rcases h.latest with hw | ⟨other, ho, hn⟩
    · exact .inl hw
    · rcases hkeep other ho with rfl | ho
      · exact .inr (.inl hn)
      · exact .inr (.inr ⟨other, ho, hn⟩)
  have hw := h.written_le
  unfold ProcessRegistry.write
  split_ifs with hold
  · refine ⟨h.newest, fun other ho => h.snapshots other (hsub other ho), h.file, hw, ?_⟩
    rcases hrest with hn | hn | hn
    · exact .inl hn
    · exact absurd hold (by dsimp only; omega)
    · exact .inr hn
  · refine ⟨h.newest, fun other ho => h.snapshots other (hsub other ho), heq, hle, ?_⟩
    rcases hrest with hn | hn | hn
    · exact .inl (by dsimp only at hold ⊢; omega)
    · exact .inl hn
    · exact .inr hn

lemma queue (hmem : snapshot ∈ s.inHand) :
    ProcessFileOk ({ s with inHand := s.inHand.erase snapshot }.queue snapshot) := by
  have hs := h.snapshots
  unfold ProcessRegistry.queue
  dsimp only
  split_ifs with hall
  · apply h.move true
    · grind [ProcessRegistry.Has, List.mem_of_mem_erase]
    · intro other ho hn
      by_cases heq : other = snapshot
      · exact ⟨snapshot, .inr (.inl rfl), heq ▸ hn⟩
      · exact ⟨other, by grind [ProcessRegistry.Has], hn⟩
  · obtain ⟨queued, hq, hle⟩ : ∃ queued, s.pending = some queued ∧ snapshot.1 ≤ queued.1 := by
      cases hp : s.pending with
      | none => simp [hp] at hall
      | some queued => exact ⟨queued, rfl, by simpa [hp] using hall⟩
    apply h.move true
    · grind [ProcessRegistry.Has, List.mem_of_mem_erase]
    · intro other ho hn
      by_cases heq : other = snapshot
      · exact ⟨queued, .inr (.inl hq), by grind [ProcessRegistry.Has]⟩
      · exact ⟨other, by grind [ProcessRegistry.Has], hn⟩

lemma removePid (pid : Nat) : ProcessFileOk (s.removePid pid) := by
  unfold ProcessRegistry.removePid
  dsimp only
  split_ifs
  · exact h.edit _
  · exact h

lemma step (hstep : ProcessStep Meets s t) : ProcessFileOk t := by
  cases hstep with
  | track pid startTime program reaped => exact { h.edit _ with }
  | reap | finish => exact { h with }
  | @drop _ p => exact { h.removePid p.pid with }
  | persist hmem => exact h.queue hmem
  | persistInline hmem =>
    apply h.write (.inl hmem)
    · grind [ProcessRegistry.Has, List.mem_of_mem_erase]
    · grind [ProcessRegistry.Has]
  | take _ hnone hp =>
    apply h.move s.writing
    · grind [ProcessRegistry.Has]
    · exact fun other ho hn => ⟨other, by grind [ProcessRegistry.Has], hn⟩
  | write ht =>
    apply h.write (.inr (.inr ht))
    · grind [ProcessRegistry.Has]
    · grind [ProcessRegistry.Has]

end ProcessFileOk

/-- A later state has the lists of the generations before, and a file that is not older. -/
structure Later (s t : ProcessRegistry) : Prop where
  written : s.written ≤ t.written
  generation : s.generation ≤ t.generation
  history : ∀ g ≤ s.generation, t.history g = s.history g

namespace Later

lemma edit (s : ProcessRegistry) (list : List ProcessRecord) : Later s (s.edit list) :=
  ⟨Nat.le_refl _, Nat.le_succ _, fun g hle => Function.update_of_ne (by omega) ..⟩

lemma write : Later s ({ s with inHand, taken }.write snapshot) := by
  unfold ProcessRegistry.write
  split_ifs with hold
  · exact ⟨Nat.le_refl _, Nat.le_refl _, fun _ _ => rfl⟩
  · exact ⟨Nat.not_lt.mp hold, Nat.le_refl _, fun _ _ => rfl⟩

lemma of_step (hstep : ProcessStep Meets s t) : Later s t := by
  cases hstep with
  | track => exact { edit s _ with }
  | @drop _ p =>
    have hr : Later s (s.removePid p.pid) := by
      unfold ProcessRegistry.removePid
      dsimp only
      split_ifs
      · exact edit s _
      · exact ⟨Nat.le_refl _, Nat.le_refl _, fun _ _ => rfl⟩
    exact { hr with }
  | reap | persist | take | finish => exact ⟨Nat.le_refl _, Nat.le_refl _, fun _ _ => rfl⟩
  | persistInline | write => exact write

lemma of_run (hrun : Relation.ReflTransGen (ProcessStep Meets) s t) : Later s t := by
  induction hrun with
  | refl => exact ⟨Nat.le_refl _, Nat.le_refl _, fun _ _ => rfl⟩
  | tail _ hstep ih =>
    have hl := of_step hstep
    exact ⟨Nat.le_trans ih.written hl.written, Nat.le_trans ih.generation hl.generation, fun g hle =>
      (hl.history g (Nat.le_trans hle ih.generation)).trans (ih.history g hle)⟩

end Later

/-! ### The records -/

/-- The list has every provider that is alive. -/
def ProcessRegistry.Recorded (s : ProcessRegistry) : Prop :=
  ∀ id p, s.tracked id = some p → p.reaped = false →
    ∃ record ∈ s.list, record.pid = p.pid ∧ record.startTime = p.startTime

lemma ProcessRegistry.Recorded.filter (h : s.Recorded) {id pid : Nat} (hal : s.Alone id pid)
     (ho : other ≠ id) (ht : s.tracked other = some p) (ha : p.reaped = false) :
    ∃ record ∈ s.list.filter (·.pid ≠ pid), record.pid = p.pid ∧ record.startTime = p.startTime := by
  obtain ⟨record, hmem, hpid, hs⟩ := h other p ht ha
  refine ⟨record, List.mem_filter.mpr ⟨hmem, ?_⟩, hpid, hs⟩
  rw [decide_eq_true_eq, hpid]
  intro hsame
  exact absurd (hal other p ho ht hsame) (by simp [ha])

lemma ProcessRegistry.removePid_list (s : ProcessRegistry) (pid : Nat) :
    (s.removePid pid).list = s.list.filter (·.pid ≠ pid) := by
  unfold removePid
  dsimp only
  split_ifs with hl
  · rfl
  · exact (List.filter_sublist.eq_of_length (not_not.mp hl)).symm

lemma recorded_step (h : s.Recorded) (hstep : ProcessStep ProcessRegistry.Alone s t) : t.Recorded := by
  cases hstep with
  | @track id pid startTime program reaped _ hal =>
    intro other p ht ha
    rcases Function.of_update_eq ht with ⟨rfl, ⟨⟩⟩ | ⟨ho, ht⟩
    · exact ⟨_, List.mem_append_right _ (List.mem_singleton_self _), rfl, rfl⟩
    · obtain ⟨record, hmem, hr⟩ := h.filter hal ho ht ha
      exact ⟨record, List.mem_append_left _ hmem, hr⟩
  | @reap id q ht =>
    intro other p ho ha
    rcases Function.of_update_eq ho with ⟨-, ⟨⟩⟩ | ⟨-, ho⟩
    · cases ha
    · exact h other p ho ha
  | @drop id q _ _ hal =>
    intro other p ho ha
    dsimp only
    rw [s.removePid_list]
    rcases Function.of_update_eq ho with ⟨-, ⟨⟩⟩ | ⟨hid, ho⟩
    exact h.filter hal hid ho ha
  | persist | take | finish => exact h
  | persistInline | write =>
    unfold ProcessRegistry.write
    split_ifs
    · exact h
    · exact h

/-- If `track` and the drop of a handle edit the list for a pid only while no other provider with that pid is alive, then
the list has every provider that is alive. The file is the list once nothing is left to be written, and no later file is
older. -/
theorem tracked_providers_recorded
    (hrun : Relation.ReflTransGen (ProcessStep ProcessRegistry.Alone) .activated s) :
    (∀ id p, s.tracked id = some p → p.reaped = false →
      ∃ record ∈ s.list, record.pid = p.pid ∧ record.startTime = p.startTime) ∧
    ((∀ snapshot, ¬ s.Has snapshot) → s.file = s.list) ∧
    ∀ t, Relation.ReflTransGen (ProcessStep ProcessRegistry.Alone) s t →
      ∃ older newer, older ≤ newer ∧ s.file = t.history older ∧ t.file = t.history newer := by
  have hok {u : ProcessRegistry} (h : Relation.ReflTransGen (ProcessStep ProcessRegistry.Alone) .activated u) :
      ProcessFileOk u ∧ u.Recorded := by
    induction h with
    | refl => exact ⟨⟨rfl, by simp [ProcessRegistry.Has, ProcessRegistry.activated], rfl, Nat.le_refl 0, .inl rfl⟩, nofun⟩
    | tail _ hstep ih => exact ⟨ih.1.step hstep, recorded_step ih.2 hstep⟩
  obtain ⟨hfile, hr⟩ := hok hrun
  refine ⟨hr, ?_, ?_⟩
  · intro hnone
    rcases hfile.latest with hw | ⟨snapshot, hhas, -⟩
    · rw [← hfile.file, hw, hfile.newest]
    · exact absurd hhas (hnone snapshot)
  · intro t hl
    have h := Later.of_run hl
    exact ⟨s.written, t.written, h.written, hfile.file.symm.trans (h.history _ hfile.written_le).symm,
      (hok (hrun.trans hl)).1.file.symm⟩

/-- A provider is tracked, and its record is written. -/
theorem tracked_providers_recorded_written : ∃ s : ProcessRegistry,
    s.list = [⟨5, 5, 1, "codex"⟩] ∧ s.file = s.list ∧ s.tracked 0 = some ⟨5, 1, false⟩ := by
  have run : Relation.ReflTransGen (ProcessStep ProcessRegistry.Alone) .activated _ := .refl
  have run := run.tail (.track 0 5 1 "codex" false rfl nofun)
  have run := run.tail (.persist List.mem_cons_self)
  have run := run.tail (.take rfl rfl rfl)
  have run := run.tail (.write rfl)
  have run := run.tail (.finish rfl rfl rfl)
  exact ⟨_, rfl, (tracked_providers_recorded run).2.1 (by rintro _ (h | h | h) <;> cases h), rfl⟩

/-- The drop of a reaped process removes the record of a newer one with its pid. -/
theorem drop_removes_newer_record : ∃ s : ProcessRegistry,
    Relation.ReflTransGen (ProcessStep fun _ _ _ => True) .activated s ∧ s.tracked 1 = some ⟨5, 2, false⟩ ∧
      s.list = [] := by
  have run : Relation.ReflTransGen (ProcessStep fun _ _ _ => True) .activated _ := .refl
  have run := run.tail (.track 0 5 1 "codex" false rfl trivial)
  have run := run.tail (.reap 0 rfl)
  have run := run.tail (.track 1 5 2 "codex" false rfl trivial)
  have run := run.tail (.drop 0 rfl rfl trivial)
  exact ⟨_, run, rfl, rfl⟩

end Todex
