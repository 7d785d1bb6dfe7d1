import Todex.AgentCalls.Tables

/-!
# The reports of agent calls

The parent of a call is told of its start and of its end. A file lists the calls that run, so that a daemon that
starts again can report those that were cut off. The list and the journal of the parent are written one after the
other: at the start the list comes first, at the end as well.
-/

namespace Todex

/-- `RunningCall`, but for the agent and the time. -/
structure RunningCall where
  parentConversationId : String
  childConversationId : String
  childTurnId : String
  deriving DecidableEq

/-- The events `agent.call.*` of a parent, without the updates. -/
inductive CallEventKind
  | started
  | completed
  | cancelled
  | failed
  deriving DecidableEq

/-- The event ends a call. -/
def CallEventKind.isEnd : CallEventKind → Bool
  | started => false
  | _ => true

/-- An event in the journal of the parent of a call. -/
structure CallEvent where
  kind : CallEventKind
  call : RunningCall
  deriving DecidableEq

/-- How far the tasks of a call are. -/
inductive ReportStage
  /-- It is in the tables. -/
  | tracked
  /-- It is among the running calls, and the file is to be written. -/
  | persisting
  /-- The file lists it. -/
  | listed
  /-- `agent.call.started` is in the journal, and the monitor follows the turn. -/
  | running
  /-- The turn is over, and the monitor has settled the call. -/
  | settled (kind : CallEventKind)
  /-- The daemon shuts down, and the call is left to the next one. -/
  | left
  /-- It is no longer among the running calls, and the file is to be written. -/
  | forgetting (kind : CallEventKind)
  /-- The file no longer lists it. -/
  | forgotten (kind : CallEventKind)
  /-- Its end is in the journal. -/
  | reported

namespace ReportStage

/-- The stage after the file was written. -/
def written : ReportStage → Option ReportStage
  | persisting => some listed
  | forgetting kind => some (forgotten kind)
  | _ => none

/-- It is among the running calls. -/
def isPersisted : ReportStage → Bool
  | persisting => true
  | listed => true
  | running => true
  | settled _ => true
  | left => true
  | _ => false

/-- Whether the file lists it, where that is certain. -/
def onDisk : ReportStage → Option Bool
  | persisting => none
  | forgetting _ => none
  | stage => some stage.isPersisted

/-- Its start is in the journal. -/
def isStarted : ReportStage → Bool
  | tracked => false
  | persisting => false
  | listed => false
  | _ => true

/-- The number of its ends in the journal. -/
def ends : ReportStage → ℕ
  | reported => 1
  | _ => 0

/-- Its end is reported as one. -/
def endsCall : ReportStage → Bool
  | settled kind => kind.isEnd
  | forgetting kind => kind.isEnd
  | forgotten kind => kind.isEnd
  | _ => true

/-- It is forgotten, and its end is not in the journal. -/
def isForgotten : ReportStage → Bool
  | forgetting _ => true
  | forgotten _ => true
  | _ => false

lemma onDisk_eq_some {stage : ReportStage} (h : stage.onDisk = some b) : b = stage.isPersisted := by
  cases stage <;> cases h <;> rfl

lemma onDisk_written {stage stage' : ReportStage} (h : stage.written = some stage') :
    stage'.isPersisted = stage.isPersisted ∧ stage'.isStarted = stage.isStarted ∧ stage'.ends = stage.ends ∧
      stage'.endsCall = stage.endsCall := by
  cases stage <;> cases h <;> exact ⟨rfl, rfl, rfl, rfl⟩

end ReportStage

/-- What the daemon does. -/
inductive DaemonPhase
  | up
  | down
  /-- `recover_leftovers` has read the file and has these calls to report. -/
  | recovering (leftovers : List RunningCall)

/-- A call whose `write_persisted` has the lock, with what it has read. -/
structure PersistedWrite where
  turnId : String
  calls : List RunningCall

structure CallReports where
  phase : DaemonPhase
  /-- Every call that was ever made, by its child turn. -/
  made : String → Option RunningCall
  stages : String → Option ReportStage
  /-- `Inner::persisted`. -/
  persisted : List RunningCall
  writing : Option PersistedWrite
  /-- The calls of `agent-calls.json`; no file is the same as one without calls. -/
  file : List RunningCall
  journal : List CallEvent
  shuttingDown : Bool

namespace CallReports

def empty : CallReports where
  phase := .up
  made _ := none
  stages _ := none
  persisted := []
  writing := none
  file := []
  journal := []
  shuttingDown := false

variable (self : CallReports)

def setStage (turnId : String) (stage : ReportStage) : CallReports :=
  { self with stages := Function.update self.stages turnId (some stage) }

/-- `record` and `append_agent_event`. -/
def append (kind : CallEventKind) (call : RunningCall) : CallReports :=
  { self with journal := self.journal ++ [{ kind, call }] }

/-- `agent.call.started` of a call is in the journal. -/
def Started (call : RunningCall) : Prop := { kind := .started, call } ∈ self.journal

/-- The number of events that end a call. -/
def ends (call : RunningCall) : ℕ := self.journal.countP fun event => event.kind.isEnd && event.call = call

/-- The calls that recovery is to report. -/
def pending : List RunningCall :=
  match self.phase with
  | .up => []
  | .down => self.file
  | .recovering leftovers => leftovers

/-- The process is gone; the file and the journal stay. -/
def crash : CallReports :=
  { self with
    phase := .down
    stages := fun _ => none
    persisted := []
    writing := none
    shuttingDown := false }

end CallReports

/-- What may happen next. -/
inductive ReportStep (s : CallReports) : CallReports → Prop
  /-- `track` of a call with a new turn. -/
  | track (call : RunningCall) (hup : s.phase = .up) (hfresh : s.made call.childTurnId = none) :
      ReportStep s { s.setStage call.childTurnId .tracked with
        made := Function.update s.made call.childTurnId (some call) }
  /-- `persist_running`, before the file is written. -/
  | persist (turnId : String) {call : RunningCall} (hmade : s.made turnId = some call)
      (hstage : s.stages turnId = some .tracked) :
      ReportStep s { s.setStage turnId .persisting with
        persisted := Keyed.insert RunningCall.childTurnId s.persisted call }
  /-- `write_persisted` takes its lock and reads the running calls. -/
  | write (turnId : String) {stage stage' : ReportStage} (hstage : s.stages turnId = some stage)
      (hwritten : stage.written = some stage') (hlock : s.writing = none) :
      ReportStep s { s with writing := some { turnId, calls := s.persisted } }
  /-- The file is replaced. -/
  | written (turnId : String) {stage stage' : ReportStage} {calls : List RunningCall}
      (hwriting : s.writing = some { turnId, calls }) (hstage : s.stages turnId = some stage)
      (hwritten : stage.written = some stage') :
      ReportStep s { s.setStage turnId stage' with writing := none, file := calls }
  | started (turnId : String) {call : RunningCall} (hmade : s.made turnId = some call)
      (hstage : s.stages turnId = some .listed) :
      ReportStep s ((s.setStage turnId .running).append .started call)
  /-- The child turn is over, and the monitor settles the call. -/
  | settle (turnId : String) (kind : CallEventKind) (hkind : kind.isEnd) (hstage : s.stages turnId = some .running) :
      ReportStep s (s.setStage turnId (.settled kind))
  /-- The turn was cut off by the shutdown: the call stays listed. -/
  | leave (turnId : String) {kind : CallEventKind} (hstage : s.stages turnId = some (.settled kind))
      (hdown : s.shuttingDown) : ReportStep s (s.setStage turnId .left)
  /-- `forget_running`, before the file is written. -/
  | forget (turnId : String) {kind : CallEventKind} (hstage : s.stages turnId = some (.settled kind)) :
      ReportStep s { s.setStage turnId (.forgetting kind) with
        persisted := s.persisted.filter (·.childTurnId ≠ turnId) }
  | report (turnId : String) {call : RunningCall} {kind : CallEventKind} (hmade : s.made turnId = some call)
      (hstage : s.stages turnId = some (.forgotten kind)) :
      ReportStep s ((s.setStage turnId .reported).append kind call)
  | shutDown : ReportStep s { s with shuttingDown := true }
  | crash : ReportStep s s.crash
  /-- The daemon starts and reads the file. -/
  | restart (hdown : s.phase = .down) : ReportStep s { s with phase := .recovering s.file }
  | reportLeftover {call : RunningCall} {leftovers : List RunningCall}
      (hphase : s.phase = .recovering (call :: leftovers)) :
      ReportStep s { s.append .failed call with phase := .recovering leftovers }
  /-- `recover_leftovers` removes the file. -/
  | recovered (hphase : s.phase = .recovering []) : ReportStep s { s with phase := .up, file := [] }

/-! ### A crash that loses no report -/

/-- The crash falls at a point where the file lists every call whose end is to be recorded, and where no leftover has
been reported. -/
structure SafeCrash (s : CallReports) : Prop where
  calls : ∀ turnId call stage, s.made turnId = some call → s.stages turnId = some stage → stage.isForgotten →
    call ∈ s.file
  leftovers : ∀ leftovers, s.phase = .recovering leftovers → leftovers = s.file

/-- A step that is no crash, or one that loses no report. -/
def SafeStep (s t : CallReports) : Prop := ReportStep s t ∧ (t.phase = .down → SafeCrash s)

/-! ### What holds of a call -/

/-- What holds of a call that the daemon has made. -/
structure StageOk (s : CallReports) (call : RunningCall) (stage : ReportStage) : Prop where
  persisted : call ∈ s.persisted ↔ stage.isPersisted
  file : ∀ b, stage.onDisk = some b → (call ∈ s.file ↔ b)
  written : ∀ w, s.writing = some w → ∀ b, stage.onDisk = some b → (call ∈ w.calls ↔ b)
  writer : ∀ w, s.writing = some w → w.turnId = call.childTurnId → (call ∈ w.calls ↔ stage.isPersisted)
  started : s.Started call ↔ stage.isStarted
  ends : s.ends call = stage.ends
  endsCall : stage.endsCall

/-- What holds of a call of an earlier daemon. -/
structure EarlierOk (s : CallReports) (call : RunningCall) : Prop where
  pending : call ∈ s.pending → s.ends call = 0
  reported : call ∉ s.pending → s.Started call → s.ends call = 1
  persisted : call ∉ s.persisted
  written : ∀ w, s.writing = some w → call ∉ w.calls
  file : s.phase = .up → call ∉ s.file

/-- The state has something about the call. -/
inductive CallReports.Mentions (s : CallReports) (call : RunningCall) : Prop
  | file (h : call ∈ s.file)
  | persisted (h : call ∈ s.persisted)
  | written {w : PersistedWrite} (hw : s.writing = some w) (h : call ∈ w.calls)
  | pending (h : call ∈ s.pending)
  | journal {event : CallEvent} (h : event ∈ s.journal) (heq : event.call = call)

/-- What holds of every state. -/
structure ReportsOk (s : CallReports) : Prop where
  turn : ∀ turnId call, s.made turnId = some call → call.childTurnId = turnId
  mentions : ∀ call, s.Mentions call → s.made call.childTurnId = some call
  up : ∀ turnId stage, s.stages turnId = some stage → s.phase = .up ∧ ∃ call, s.made turnId = some call
  writer : ∀ w, s.writing = some w → ∃ stage, s.stages w.turnId = some stage ∧ stage.written.isSome
  nodup : s.persisted.Nodup ∧ s.file.Nodup ∧ s.pending.Nodup ∧ ∀ w, s.writing = some w → w.calls.Nodup
  stage : ∀ turnId call stage, s.made turnId = some call → s.stages turnId = some stage → StageOk s call stage
  earlier : ∀ turnId call, s.made turnId = some call → s.stages turnId = none → EarlierOk s call

/-! ### Events -/

section Events

variable {s : CallReports} {kind : CallEventKind} {call other : RunningCall}

lemma started_append : (s.append kind call).Started other ↔ s.Started other ∨ kind = .started ∧ other = call := by
  simp [CallReports.Started, CallReports.append, eq_comm]

lemma ends_append : (s.append kind call).ends other = s.ends other + if kind.isEnd ∧ call = other then 1 else 0 := by
  simp only [CallReports.ends, CallReports.append, List.countP_append, List.countP_singleton, Bool.and_eq_true,
    decide_eq_true_eq]

end Events

/-- The two states have the same about a call. -/
structure SameFor (call : RunningCall) (s t : CallReports) : Prop where
  phase : t.phase = s.phase
  persisted : call ∈ t.persisted ↔ call ∈ s.persisted
  file : call ∈ t.file ↔ call ∈ s.file
  pending : call ∈ t.pending ↔ call ∈ s.pending
  writing : t.writing = s.writing
  started : t.Started call ↔ s.Started call
  ends : t.ends call = s.ends call

namespace SameFor

lemma stageOk (hs : SameFor call s t) (h : StageOk s call stage) : StageOk t call stage where
  persisted := hs.persisted.trans h.persisted
  file b hb := hs.file.trans (h.file b hb)
  written w hw := h.written w (hs.writing ▸ hw)
  writer w hw := h.writer w (hs.writing ▸ hw)
  started := hs.started.trans h.started
  ends := hs.ends.trans h.ends
  endsCall := h.endsCall

lemma earlierOk (hsa : SameFor call s t) (h : EarlierOk s call) : EarlierOk t call where
  pending hp := hsa.ends.trans (h.pending (hsa.pending.1 hp))
  reported hp hst :=
    hsa.ends.trans (h.reported (fun hs => hp (hsa.pending.2 hs)) (hsa.started.1 hst))
  persisted hpe := h.persisted (hsa.persisted.1 hpe)
  written w hw := h.written w (hsa.writing ▸ hw)
  file hup hf := h.file (hsa.phase ▸ hup) (hsa.file.1 hf)

end SameFor

/-! ### Steps of one call -/

namespace StageOk

lemma restage (h : StageOk s call stage) (hp : stage'.isPersisted = stage.isPersisted)
    (hd : stage'.onDisk = stage.onDisk) (hs : stage'.isStarted = stage.isStarted)
    (he : stage'.ends = stage.ends) (hec : stage'.endsCall) : StageOk s call stage' where
  persisted := hp ▸ h.persisted
  file := hd ▸ h.file
  written := hd ▸ h.written
  writer := hp ▸ h.writer
  started := hs ▸ h.started
  ends := he ▸ h.ends
  endsCall := hec

/-- Where the file lists every call whose end is to be recorded, it lists the calls that have no end yet. -/
lemma ends_of_safe (h : StageOk s call stage) (hsa : stage.isForgotten → call ∈ s.file) :
    (call ∈ s.file → s.ends call = 0) ∧ (call ∉ s.file → s.Started call → s.ends call = 1) := by
  rw [h.ends, h.started]
  constructor
  · intro hf
    cases stage with
    | reported => cases (h.file false rfl).1 hf
    | _ => rfl
  · intro hf hs
    cases stage with
    | tracked | persisting | listed => cases hs
    | running | settled | left => exact absurd ((h.file true rfl).2 rfl) hf
    | forgetting | forgotten => exact absurd (hsa rfl) hf
    | reported => rfl

end StageOk

namespace ReportsOk

variable {s t : CallReports} {turnId : String} {call : RunningCall} {stage stage' : ReportStage} (h : ReportsOk s)

include h

lemma turn_ne (hm : s.made turnId = some call)
    (ho : s.made otherTurn = some other) (hne : otherTurn ≠ turnId) : other ≠ call := by
  rintro rfl
  exact hne ((h.turn _ _ ho).symm.trans (h.turn _ _ hm))

lemma not_writer (hs : s.stages turnId = some stage) (hf : stage.written = none)
    (hw : s.writing = some w) : w.turnId ≠ turnId := by
  rintro rfl
  obtain ⟨stage', hs', hwr⟩ := h.writer w hw
  cases hs.symm.trans hs'
  rw [hf] at hwr
  cases hwr

lemma of_stage (hm : s.made turnId = some call) (hs : s.stages turnId = some stage)
    (hfr : stage.written = none) (hm' : t.made = s.made)
    (hst : t.stages = Function.update s.stages turnId (some stage')) (hwr : t.writing = s.writing)
    (hf : t.file = s.file) (hph : t.phase = s.phase) (hn : t.persisted.Nodup)
    (hpe : ∀ other ∈ t.persisted, other ∈ s.persisted ∨ other = call)
    (hj : ∀ event ∈ t.journal, event ∈ s.journal ∨ event.call = call)
    (hsa : ∀ other, other ≠ call → other.childTurnId ≠ turnId → SameFor other s t) (hok : StageOk t call stage') :
    ReportsOk t := by
  have hp : t.pending = s.pending := by
    rw [CallReports.pending, CallReports.pending, hph, hf]
  have hc : s.made call.childTurnId = some call := by rwa [h.turn _ _ hm]
  have hot {other : String} {call' : RunningCall} (ho : s.made other = some call') (hne : other ≠ turnId) :
      SameFor call' s t :=
    hsa call' (h.turn_ne hm ho hne) (h.turn _ _ ho ▸ hne)
  exact {
    turn := hm' ▸ h.turn
    mentions := by
      rw [hm']
      rintro other (ho | ho | ⟨hw, ho⟩ | ho | ⟨ho, rfl⟩)
      · exact h.mentions other (.file (hf ▸ ho))
      · rcases hpe other ho with ho | rfl
        · exact h.mentions other (.persisted ho)
        · exact hc
      · exact h.mentions other (.written (hwr ▸ hw) ho)
      · exact h.mentions other (.pending (hp ▸ ho))
      · rcases hj _ ho with ho | heq
        · exact h.mentions _ (.journal ho rfl)
        · rw [heq]
          exact hc
    up := by
      intro other stage'' ho
      rw [hph, hm']
      rw [hst] at ho
      rcases Function.of_update_eq ho with ⟨rfl, -⟩ | ⟨-, ho⟩
      · exact h.up other stage hs
      · exact h.up other stage'' ho
    writer := by
      intro w hw
      rw [hwr] at hw
      rw [hst, Function.update_of_ne (h.not_writer hs hfr hw)]
      exact h.writer w hw
    nodup := ⟨hn, hf ▸ h.nodup.2.1, hp ▸ h.nodup.2.2.1, hwr ▸ h.nodup.2.2.2⟩
    stage := by
      intro other call' stage'' ho hs''
      rw [hm'] at ho
      rw [hst] at hs''
      rcases Function.of_update_eq hs'' with ⟨rfl, ⟨⟩⟩ | ⟨hne, hs''⟩
      · cases hm.symm.trans ho
        exact hok
      · exact (hot ho hne).stageOk (h.stage other call' stage'' ho hs'')
    earlier := by
      intro other call' ho hno
      rw [hm'] at ho
      rw [hst] at hno
      rcases Function.of_update_eq hno with ⟨-, ⟨⟩⟩ | ⟨hne, hno⟩
      exact (hot ho hne).earlierOk (h.earlier other call' ho hno) }

lemma setStage (hm : s.made turnId = some call) (hs : s.stages turnId = some stage)
    (hf : stage.written = none) (hok : StageOk s call stage') : ReportsOk (s.setStage turnId stage') :=
  h.of_stage hm hs hf rfl rfl rfl rfl rfl h.nodup.1 (fun _ => .inl) (fun _ => .inl)
    (fun _ _ _ => ⟨rfl, .rfl, .rfl, .rfl, rfl, .rfl, rfl⟩) { __ := hok }

lemma setPersisted (hm : s.made turnId = some call) (hs : s.stages turnId = some stage)
    (hf : stage.written = none) (hn : persisted.Nodup)
    (hme : ∀ other, other ∈ persisted → other ∈ s.persisted ∨ other = call)
    (ho : ∀ other, other.childTurnId ≠ turnId → (other ∈ persisted ↔ other ∈ s.persisted))
    (hok : StageOk { s with persisted } call stage') : ReportsOk { s.setStage turnId stage' with persisted } :=
  h.of_stage hm hs hf rfl rfl rfl rfl rfl hn hme (fun _ => .inl)
    (fun other _ ht => ⟨rfl, ho other ht, .rfl, .rfl, rfl, .rfl, rfl⟩) { __ := hok }

lemma append (hm : s.made turnId = some call) (hs : s.stages turnId = some stage)
    (hf : stage.written = none) (hok : StageOk (s.append kind call) call stage') :
    ReportsOk ((s.setStage turnId stage').append kind call) := by
  refine h.of_stage hm hs hf rfl rfl rfl rfl rfl h.nodup.1 (fun _ => .inl) ?_ ?_ { __ := hok }
  · intro event he
    rcases List.mem_append.1 he with he | he
    · exact .inl he
    · cases List.mem_singleton.1 he
      exact .inr rfl
  · intro other hne _
    refine ⟨rfl, .rfl, .rfl, .rfl, rfl, ?_, ?_⟩
    · refine (started_append (s := s.setStage turnId stage')).trans ?_
      simp only [hne, and_false, or_false]
      exact .rfl
    · refine (ends_append (s := s.setStage turnId stage')).trans ?_
      simp only [hne.symm, and_false, if_false, Nat.add_zero]
      rfl

lemma persist (hm : s.made turnId = some call) (hs : s.stages turnId = some .tracked) :
    ReportsOk { s.setStage turnId .persisting with
      persisted := Keyed.insert RunningCall.childTurnId s.persisted call } := by
  have hold := h.stage turnId call _ hm hs
  have ht := h.turn _ _ hm
  refine h.setPersisted hm hs rfl ?_ ?_ ?_ ?_
  · refine List.nodup_cons.2 ⟨?_, h.nodup.1.filter _⟩
    simp
  · intro other ho
    rcases Keyed.mem_insert.1 ho with rfl | ⟨ho, -⟩
    · exact .inr rfl
    · exact .inl ho
  · intro other hne
    rw [Keyed.mem_insert, ht]
    constructor
    · rintro (rfl | ⟨ho, -⟩)
      · exact absurd ht hne
      · exact ho
    · intro ho
      exact .inr ⟨ho, hne⟩
  · exact { hold with
      persisted := iff_of_true (Keyed.mem_insert.2 (.inl rfl)) rfl
      file := nofun
      written := nofun
      writer := fun w hw heq => absurd (heq.trans ht) (h.not_writer hs rfl hw)
      endsCall := rfl }

lemma forget (hm : s.made turnId = some call) (hs : s.stages turnId = some (.settled kind)) :
    ReportsOk { s.setStage turnId (.forgetting kind) with
      persisted := s.persisted.filter (·.childTurnId ≠ turnId) } := by
  have hold := h.stage turnId call _ hm hs
  have ht := h.turn _ _ hm
  refine h.setPersisted hm hs rfl (h.nodup.1.filter _) ?_ ?_ ?_
  · intro other ho
    exact .inl (List.mem_of_mem_filter ho)
  · intro other hne
    simp [hne]
  · exact {
      persisted := iff_of_false (by simp [ht]) Bool.false_ne_true
      file := nofun
      written := nofun
      writer := fun w hw heq => absurd (heq.trans ht) (h.not_writer hs rfl hw)
      started := hold.started
      ends := hold.ends
      endsCall := hold.endsCall }

lemma started (hm : s.made turnId = some call) (hs : s.stages turnId = some .listed) :
    ReportsOk ((s.setStage turnId .running).append .started call) := by
  have hold := h.stage turnId call _ hm hs
  refine h.append hm hs rfl ?_
  exact { hold with
    started := iff_of_true (started_append.2 (.inr ⟨rfl, rfl⟩)) rfl
    ends := ends_append.trans hold.ends
    endsCall := rfl }

lemma report (hm : s.made turnId = some call) (hs : s.stages turnId = some (.forgotten kind)) :
    ReportsOk ((s.setStage turnId .reported).append kind call) := by
  have hold := h.stage turnId call _ hm hs
  refine h.append hm hs rfl ?_
  exact { hold with
    started := iff_of_true (started_append.2 (.inl (hold.started.2 rfl))) rfl
    ends := by
      rw [ends_append, hold.ends, if_pos ⟨hold.endsCall, rfl⟩]
      rfl
    endsCall := rfl }

omit h in
lemma empty : ReportsOk .empty where
  turn := nofun
  mentions := by
    rintro call (h | h | ⟨hw, -⟩ | h | ⟨h, -⟩)
    · cases h
    · cases h
    · cases hw
    · cases h
    · cases h
  up := nofun
  writer := nofun
  nodup := ⟨.nil, .nil, .nil, by nofun⟩
  stage := nofun
  earlier := nofun

lemma track (hup : s.phase = .up) (hf : s.made call.childTurnId = none) :
    ReportsOk { s.setStage call.childTurnId .tracked with
      made := Function.update s.made call.childTurnId (some call) } := by
  have hne : ¬ s.Mentions call := by
    intro hm
    cases hf.symm.trans (h.mentions call hm)
  have hm : ∀ other, s.Mentions other →
      Function.update s.made call.childTurnId (some call) other.childTurnId = some other := by
    intro other ho
    have hma := h.mentions other ho
    rw [Function.update_of_ne]
    · exact hma
    · intro heq
      rw [heq, hf] at hma
      cases hma
  exact {
    turn := by
      intro turnId other hma
      rcases Function.of_update_eq hma with ⟨rfl, ⟨⟩⟩ | ⟨-, hma⟩
      · rfl
      · exact h.turn turnId other hma
    mentions := by
      rintro other (ho | ho | ⟨hw, ho⟩ | ho | ⟨ho, heq⟩)
      · exact hm other (.file ho)
      · exact hm other (.persisted ho)
      · exact hm other (.written hw ho)
      · exact hm other (.pending ho)
      · exact hm other (.journal ho heq)
    up := by
      intro turnId stage hs
      refine ⟨hup, ?_⟩
      rcases Function.of_update_eq hs with ⟨rfl, -⟩ | ⟨ht, hs⟩
      · exact ⟨call, Function.update_self ..⟩
      · obtain ⟨-, other, ho⟩ := h.up turnId stage hs
        exact ⟨other, (Function.update_of_ne ht ..).trans ho⟩
    writer := by
      intro w hw
      obtain ⟨stage, hs, hwr⟩ := h.writer w hw
      refine ⟨stage, (Function.update_of_ne ?_ ..).trans hs, hwr⟩
      intro heq
      obtain ⟨-, other, ho⟩ := h.up w.turnId stage hs
      rw [heq, hf] at ho
      cases ho
    nodup := h.nodup
    stage := by
      intro turnId other stage hma hs
      rcases Function.of_update_eq hs with ⟨rfl, ⟨⟩⟩ | ⟨ht, hs⟩
      · -- nothing is known of a new call
        cases (Function.update_self ..).symm.trans hma
        exact {
          persisted := iff_of_false (fun hme => hne (.persisted hme)) Bool.false_ne_true
          file := by
            rintro _ ⟨⟩
            exact iff_of_false (fun hme => hne (.file hme)) Bool.false_ne_true
          written := by
            rintro w hw _ ⟨⟩
            exact iff_of_false (fun hme => hne (.written hw hme)) Bool.false_ne_true
          writer := fun w hw _ => iff_of_false (fun hme => hne (.written hw hme)) Bool.false_ne_true
          started := iff_of_false (fun hme => hne (.journal hme rfl)) Bool.false_ne_true
          ends := by
            refine List.countP_eq_zero.2 fun event he heq => hne (.journal he ?_)
            simp only [Bool.and_eq_true, decide_eq_true_eq] at heq
            exact heq.2
          endsCall := rfl }
      · have hok := h.stage turnId other stage ((Function.update_of_ne ht ..).symm.trans hma) hs
        exact { __ := hok }
    earlier := by
      intro turnId other hma hn
      rcases Function.of_update_eq hn with ⟨-, ⟨⟩⟩ | ⟨ht, hn⟩
      have hok := h.earlier turnId other ((Function.update_of_ne ht ..).symm.trans hma) hn
      exact { __ := hok } }

/-- `write_persisted` reads the running calls. -/
lemma write (hs : s.stages turnId = some stage) (hwr : stage.written = some stage') :
    ReportsOk { s with writing := some { turnId, calls := s.persisted } } where
  __ := h
  mentions := by
    rintro other (ho | ho | ⟨hw, ho⟩ | ho | ⟨ho, heq⟩)
    · exact h.mentions other (.file ho)
    · exact h.mentions other (.persisted ho)
    · cases hw
      exact h.mentions other (.persisted ho)
    · exact h.mentions other (.pending ho)
    · exact h.mentions other (.journal ho heq)
  writer := by
    rintro _ ⟨⟩
    exact ⟨stage, hs, by rw [hwr]; rfl⟩
  nodup := by
    refine ⟨h.nodup.1, h.nodup.2.1, h.nodup.2.2.1, ?_⟩
    rintro _ ⟨⟩
    exact h.nodup.1
  stage other call' stage'' hm hs'' := by
    have hok := h.stage other call' stage'' hm hs''
    exact { hok with
      written := by
        rintro _ ⟨⟩ b hb
        rw [ReportStage.onDisk_eq_some hb]
        exact hok.persisted
      writer := by
        rintro _ ⟨⟩ _
        exact hok.persisted }
  earlier other call' hm hn := by
    have hok := h.earlier other call' hm hn
    exact { hok with
      written := by
        rintro _ ⟨⟩
        exact hok.persisted }

lemma written {calls : List RunningCall} (hwr : s.writing = some { turnId, calls })
    (hs : s.stages turnId = some stage) (hwt : stage.written = some stage') :
    ReportsOk { s.setStage turnId stage' with writing := none, file := calls } := by
  obtain ⟨hup, call, hm⟩ := h.up turnId stage hs
  have hp : s.pending = [] := by rw [CallReports.pending, hup]
  have hp' : CallReports.pending { s.setStage turnId stage' with writing := none, file := calls } = [] := by
    rw [CallReports.pending, CallReports.setStage, hup]
  exact {
    turn := h.turn
    mentions := by
      rintro other (ho | ho | ⟨hw, ho⟩ | ho | ⟨ho, heq⟩)
      · exact h.mentions other (.written hwr ho)
      · exact h.mentions other (.persisted ho)
      · cases hw
      · rw [hp'] at ho
        cases ho
      · exact h.mentions other (.journal ho heq)
    up := by
      intro other stage'' ho
      rcases Function.of_update_eq ho with ⟨rfl, -⟩ | ⟨-, ho⟩
      · exact ⟨hup, call, hm⟩
      · exact h.up other stage'' ho
    writer := nofun
    nodup := ⟨h.nodup.1, h.nodup.2.2.2 _ hwr, by rw [hp']; exact .nil, by nofun⟩
    stage := by
      intro other call' stage'' ho hs''
      rcases Function.of_update_eq hs'' with ⟨rfl, ⟨⟩⟩ | ⟨-, hs''⟩
      · have hok := h.stage other call' stage ho hs
        obtain ⟨hpe, hst, he, hec⟩ := ReportStage.onDisk_written hwt
        exact {
          persisted := hpe ▸ hok.persisted
          file := by
            intro b hb
            rw [ReportStage.onDisk_eq_some hb, hpe]
            exact hok.writer _ hwr (h.turn _ _ ho).symm
          written := nofun
          writer := nofun
          started := hst ▸ hok.started
          ends := he ▸ hok.ends
          endsCall := hec ▸ hok.endsCall }
      · have hok := h.stage other call' stage'' ho hs''
        exact { hok with
          file := fun b hb => hok.written _ hwr b hb
          written := nofun
          writer := nofun }
    earlier := by
      intro other call' ho hn
      rcases Function.of_update_eq hn with ⟨-, ⟨⟩⟩ | ⟨-, hn⟩
      have hok := h.earlier other call' ho hn
      exact { hok with
        pending := by
          rw [hp']
          nofun
        reported := fun _ hst => hok.reported (by rw [hp]; nofun) hst
        written := nofun
        file := fun _ => hok.written _ hwr } }

lemma crash (hsa : SafeCrash s) : ReportsOk s.crash where
  turn := h.turn
  mentions := by
    rintro other (ho | ho | ⟨hw, ho⟩ | ho | ⟨ho, heq⟩)
    · exact h.mentions other (.file ho)
    · cases ho
    · cases hw
    · exact h.mentions other (.file ho)
    · exact h.mentions other (.journal ho heq)
  up := nofun
  writer := nofun
  nodup := ⟨.nil, h.nodup.2.1, h.nodup.2.1, by nofun⟩
  stage := nofun
  earlier turnId call hm _ := by
    have he : (call ∈ s.file → s.ends call = 0) ∧ (call ∉ s.file → s.Started call → s.ends call = 1) := by
      cases hs : s.stages turnId with
      | some stage => exact (h.stage turnId call stage hm hs).ends_of_safe (hsa.calls _ _ _ hm hs)
      | none =>
        have hok := h.earlier turnId call hm hs
        cases hph : s.phase with
        | up =>
          have hp : s.pending = [] := by rw [CallReports.pending, hph]
          exact ⟨fun hf => absurd hf (hok.file hph), fun _ => hok.reported (by rw [hp]; nofun)⟩
        | down =>
          have hp : s.pending = s.file := by rw [CallReports.pending, hph]
          exact hp ▸ ⟨hok.pending, hok.reported⟩
        | recovering leftovers =>
          have hp : s.pending = s.file := by
            rw [CallReports.pending, hph]
            exact hsa.leftovers leftovers hph
          exact hp ▸ ⟨hok.pending, hok.reported⟩
    exact ⟨he.1, he.2, by nofun, by nofun, by nofun⟩

lemma of_not_up (hp : s.phase ≠ .up) : (∀ turnId, s.stages turnId = none) ∧ s.writing = none := by
  have hst : ∀ turnId, s.stages turnId = none := by
    intro turnId
    cases hs : s.stages turnId with
    | none => rfl
    | some stage => exact absurd (h.up turnId stage hs).1 hp
  refine ⟨hst, ?_⟩
  cases hw : s.writing with
  | none => rfl
  | some w =>
    obtain ⟨stage, hs, -⟩ := h.writer w hw
    cases (hst w.turnId).symm.trans hs

lemma of_recovery (hph : s.phase ≠ .up) (hm : t.made = s.made) (hst : t.stages = s.stages)
    (hp : t.persisted = s.persisted) (hwr : t.writing = s.writing) (hfi : t.file.Sublist s.file)
    (hpe : t.pending.Sublist s.pending) (hj : ∀ event ∈ t.journal, event ∈ s.journal ∨ event.call ∈ s.pending)
    (he : ∀ turnId call, s.made turnId = some call → EarlierOk s call → EarlierOk t call) : ReportsOk t := by
  obtain ⟨hn, hf⟩ := h.of_not_up hph
  exact {
    turn := hm ▸ h.turn
    mentions := by
      rw [hm]
      rintro other (ho | ho | ⟨hw, ho⟩ | ho | ⟨ho, rfl⟩)
      · exact h.mentions other (.file (hfi.subset ho))
      · exact h.mentions other (.persisted (hp ▸ ho))
      · rw [hwr, hf] at hw
        cases hw
      · exact h.mentions other (.pending (hpe.subset ho))
      · rcases hj _ ho with ho | ho
        · exact h.mentions _ (.journal ho rfl)
        · exact h.mentions _ (.pending ho)
    up := by
      intro turnId stage hs
      rw [hst, hn] at hs
      cases hs
    writer := by
      intro w hw
      rw [hwr, hf] at hw
      cases hw
    nodup := ⟨hp ▸ h.nodup.1, h.nodup.2.1.sublist hfi, h.nodup.2.2.1.sublist hpe, by
      intro w hw
      rw [hwr, hf] at hw
      cases hw⟩
    stage := by
      intro turnId call stage _ hs
      rw [hst, hn] at hs
      cases hs
    earlier := by
      intro turnId call hc _
      rw [hm] at hc
      exact he turnId call hc (h.earlier turnId call hc (hn turnId)) }

lemma restart (hd : s.phase = .down) : ReportsOk { s with phase := .recovering s.file } := by
  have hp : s.pending = s.file := by rw [CallReports.pending, hd]
  refine h.of_recovery (by rw [hd]; nofun) rfl rfl rfl rfl (.refl _) (by rw [hp]; exact .refl _)
    (fun event he => .inl he) ?_
  intro turnId call _ hok
  exact { hok with
    pending := fun hm => hok.pending (hp ▸ hm)
    reported := fun hm => hok.reported (hp ▸ hm)
    file := nofun }

lemma reportLeftover (hph : s.phase = .recovering (call :: leftovers)) :
    ReportsOk { s.append .failed call with phase := .recovering leftovers } := by
  have hp : s.pending = call :: leftovers := by rw [CallReports.pending, hph]
  have hn : (call :: leftovers).Nodup := hp ▸ h.nodup.2.2.1
  refine h.of_recovery (by rw [hph]; nofun) rfl rfl rfl rfl (.refl _) ?_ ?_ ?_
  · rw [hp]
    exact List.sublist_cons_self ..
  · intro event he
    rcases List.mem_append.1 he with he | he
    · exact .inl he
    · cases List.mem_singleton.1 he
      exact .inr (by rw [hp]; exact List.mem_cons_self)
  · intro turnId other _ hok
    have hen : (s.append .failed call).ends other = _ := ends_append
    exact { hok with
      pending := by
        intro hm
        have hne : call ≠ other := by
          rintro rfl
          exact (List.nodup_cons.1 hn).1 hm
        refine hen.trans ?_
        rw [if_neg (fun heq => hne heq.2), hok.pending (hp ▸ List.mem_cons_of_mem _ hm)]
      reported := by
        intro hm hs
        refine hen.trans ?_
        by_cases hne : call = other
        · subst hne
          rw [if_pos ⟨rfl, rfl⟩, hok.pending (hp ▸ List.mem_cons_self)]
        · rw [if_neg (fun heq => hne heq.2)]
          apply hok.reported
          · rw [hp]
            exact fun hm' => (List.mem_cons.1 hm').elim (fun heq => hne heq.symm) hm
          · exact (started_append.1 hs).resolve_right nofun
      file := nofun }

lemma recovered (hp : s.phase = .recovering []) : ReportsOk { s with phase := .up, file := [] } := by
  have hpe : s.pending = [] := by rw [CallReports.pending, hp]
  refine h.of_recovery (by rw [hp]; nofun) rfl rfl rfl rfl (List.nil_sublist _) (List.nil_sublist _)
    (fun event he => .inl he) ?_
  intro turnId call _ hok
  exact { hok with
    pending := nofun
    reported := fun _ => hok.reported (by rw [hpe]; nofun)
    file := nofun }

lemma shutDown : ReportsOk { s with shuttingDown := true } where
  __ := h
  mentions := by
    rintro other (ho | ho | ⟨hw, ho⟩ | ho | ⟨ho, heq⟩)
    · exact h.mentions other (.file ho)
    · exact h.mentions other (.persisted ho)
    · exact h.mentions other (.written hw ho)
    · exact h.mentions other (.pending ho)
    · exact h.mentions other (.journal ho heq)
  stage turnId call stage hm hs := { __ := h.stage turnId call stage hm hs }
  earlier turnId call hm hn := { __ := h.earlier turnId call hm hn }

theorem step (hst : SafeStep s t) : ReportsOk t := by
  obtain ⟨hst, hsa⟩ := hst
  cases hst with
  | track call hup hf => exact h.track hup hf
  | persist turnId hm hs => exact h.persist hm hs
  | write turnId hs hw hl => exact h.write hs hw
  | written turnId hwr hs hw => exact h.written hwr hs hw
  | started turnId hm hs => exact h.started hm hs
  | settle turnId kind hk hs =>
    obtain ⟨-, call, hm⟩ := h.up turnId _ hs
    exact h.setStage hm hs rfl ((h.stage turnId call _ hm hs).restage rfl rfl rfl rfl hk)
  | leave turnId hs hd =>
    obtain ⟨-, call, hm⟩ := h.up turnId _ hs
    exact h.setStage hm hs rfl ((h.stage turnId call _ hm hs).restage rfl rfl rfl rfl rfl)
  | forget turnId hs =>
    obtain ⟨-, call, hm⟩ := h.up turnId _ hs
    exact h.forget hm hs
  | report turnId hm hs => exact h.report hm hs
  | shutDown => exact h.shutDown
  | crash => exact h.crash (hsa rfl)
  | restart hd => exact h.restart hd
  | reportLeftover hp => exact h.reportLeftover hp
  | recovered hp => exact h.recovered hp

omit h in
theorem run (hr : Relation.ReflTransGen SafeStep .empty s) : ReportsOk s := by
  induction hr with
  | refl => exact empty
  | tail _ hs ih => exact ih.step hs

end ReportsOk

/-- Every agent call is reported once, if no crash falls between the forgetting of a call and the record of its end, or
into a recovery that has reported a leftover. When recovery has reported its leftovers every call that was started has
one end, and so has later every call of an earlier daemon and every call that was reported. -/
theorem calls_reported_once {s : CallReports} (hrun : Relation.ReflTransGen SafeStep .empty s) :
    (s.phase = .recovering [] → ∀ call, s.Started call → s.ends call = 1) ∧
    (s.phase = .up → ∀ call, s.Started call →
      s.stages call.childTurnId = none ∨ s.stages call.childTurnId = some .reported → s.ends call = 1) := by
  have hok := ReportsOk.run hrun
  have hmade : ∀ call, s.Started call → s.made call.childTurnId = some call :=
    fun call hs => hok.mentions call (.journal hs rfl)
  constructor
  · intro hph call hs
    obtain ⟨hnone, -⟩ := hok.of_not_up (by rw [hph]; nofun)
    have hp : s.pending = [] := by rw [CallReports.pending, hph]
    exact (hok.earlier _ call (hmade call hs) (hnone _)).reported (by rw [hp]; nofun) hs
  · rintro hph call hs (hnone | hr)
    · have hp : s.pending = [] := by rw [CallReports.pending, hph]
      exact (hok.earlier _ call (hmade call hs) hnone).reported (by rw [hp]; nofun) hs
    · exact (hok.stage _ call _ (hmade call hs) hr).ends

/-- A call that is tracked while its child runs a turn. -/
def trackedCall : RunningCall where
  parentConversationId := "parent"
  childConversationId := "child"
  childTurnId := "turn"

/-- The daemon goes down while a call runs, and the next one reports it. -/
theorem calls_reported_once_restart :
    ∃ s, Relation.ReflTransGen SafeStep .empty s ∧ s.Started trackedCall ∧ s.ends trackedCall = 1 := by
  have run : Relation.ReflTransGen SafeStep .empty _ := .refl
  have run := run.tail ⟨.track trackedCall rfl rfl, by nofun⟩
  have run := run.tail ⟨.persist "turn" rfl rfl, by nofun⟩
  have run := run.tail ⟨.write "turn" rfl rfl rfl, by nofun⟩
  have run := run.tail ⟨.written "turn" rfl rfl rfl, by nofun⟩
  have run := run.tail ⟨.started "turn" rfl rfl, by nofun⟩
  have run := run.tail ⟨.crash, fun _ => ⟨by
    intro turnId call stage hmade hs hf
    by_cases hturn : turnId = "turn"
    · subst hturn
      cases hs
      cases hf
    · have hnone := hmade.symm.trans (Function.update_of_ne hturn _ _)
      exact absurd hnone (Option.some_ne_none call), by nofun⟩⟩
  have run := run.tail ⟨.restart rfl, by nofun⟩
  have run := run.tail ⟨.reportLeftover rfl, by nofun⟩
  refine ⟨_, run, ?_, (calls_reported_once run).1 rfl trackedCall ?_⟩
  · exact List.mem_cons_self
  · exact List.mem_cons_self

/-- A crash between the forgetting of a call and the record of its end leaves the call without an end, and a crash
between the report of a leftover and the removal of the file leaves a call with two ends. -/
theorem crash_loses_or_repeats_report :
    (∃ s, Relation.ReflTransGen ReportStep .empty s ∧ s.phase = .recovering [] ∧ s.Started trackedCall ∧
      s.ends trackedCall = 0) ∧
    (∃ s, Relation.ReflTransGen ReportStep .empty s ∧ s.phase = .recovering [] ∧ s.Started trackedCall ∧
      s.ends trackedCall = 2) := by
  have run : Relation.ReflTransGen ReportStep .empty _ := .refl
  have run := run.tail (.track trackedCall rfl rfl)
  have run := run.tail (.persist "turn" rfl rfl)
  have run := run.tail (.write "turn" rfl rfl rfl)
  have run := run.tail (.written "turn" rfl rfl rfl)
  have run := run.tail (.started "turn" rfl rfl)
  constructor
  · have run := run.tail (.settle "turn" .completed rfl rfl)
    have run := run.tail (.forget "turn" rfl)
    have run := run.tail (.write "turn" rfl rfl rfl)
    have run := run.tail (.written "turn" rfl rfl rfl)
    have run := run.tail .crash
    have run := run.tail (.restart rfl)
    exact ⟨_, run, rfl, List.mem_cons_self, rfl⟩
  · have run := run.tail .crash
    have run := run.tail (.restart rfl)
    have run := run.tail (.reportLeftover rfl)
    have run := run.tail .crash
    have run := run.tail (.restart rfl)
    have run := run.tail (.reportLeftover rfl)
    exact ⟨_, run, rfl, List.mem_cons_self, rfl⟩

end Todex
