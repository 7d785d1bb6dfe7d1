import Todex.Audit.Kept

/-!
# The audit trail is open again after a write

While `failed` is set, batched records are refused. A write that fails sets it, puts its records back and schedules a
flush. A write can also store all that waits and fail at the record of its own call: then `failed` stays as it was, and
nothing is left for a flush to retry.
-/

namespace Todex

/-- A record is queued. -/
def AuditState.batch (self : AuditState) (record : AuditRecord) : AuditState :=
  { self with
    lines := self.lines ++ [record]
    accepted := self.accepted ++ [record] }

/-- The audit log with `flush_scheduled`. -/
structure AuditFlush where
  log : AuditState
  flushScheduled : Bool

/-- What happens to the flag. `Meets` is asked of a write that fails. -/
inductive FlushStep (Meets : AuditState → AuditWrite → Prop) (s : AuditFlush) : AuditFlush → Prop
  /-- `append_batched` schedules a flush. -/
  | batched (record : AuditRecord) (hstep : AuditStep s.log (s.log.batch record)) :
      FlushStep Meets s ⟨s.log.batch record, true⟩
  /-- `write_pending` takes the queue. -/
  | beginWrite (line : Option AuditRecord) (hstep : AuditStep s.log (s.log.beginWrite line)) :
      FlushStep Meets s ⟨s.log.beginWrite line, false⟩
  /-- There is nothing to write. -/
  | nothing (hwriting : s.log.writing = none) (hlines : s.log.lines = []) : FlushStep Meets s ⟨s.log, false⟩
  | written (write : AuditWrite) (trail : AuditTrail) (hstep : AuditStep s.log (s.log.written write trail)) :
      FlushStep Meets s { s with log := s.log.written write trail }
  /-- What could not be stored goes back, and a flush is scheduled for it. -/
  | writeFails (write : AuditWrite) (trail : AuditTrail) (hwriting : s.log.writing = some write)
      (hstep : AuditStep s.log (s.log.writeFailed write trail)) (hmeets : Meets s.log write) :
      FlushStep Meets s ⟨s.log.writeFailed write trail, s.flushScheduled ∨ write.requeued ≠ []⟩
  | finished (hstep : AuditStep s.log s.log.finished) : FlushStep Meets s { s with log := s.log.finished }

/-- A write stores all records of the queue and fails only while the trail is open. -/
def FailsOpen (log : AuditState) (write : AuditWrite) : Prop := write.requeued = [] → log.failed = false

/-- If batched records are refused between writes, records wait and a flush will write them. -/
def FlushOk (s : AuditFlush) : Prop :=
  s.log.writing = none → s.log.failed → s.log.lines ≠ [] ∧ s.flushScheduled

lemma capped_ne_nil (h : records ≠ []) : AuditState.capped records ≠ [] := by
  have hp := List.length_pos_of_ne_nil h
  rw [AuditState.capped, ne_eq, List.drop_eq_nil_iff, maxPendingBatchLines]
  omega

lemma FlushOk.step (h : FlushOk s) (hs : FlushStep FailsOpen s t) : FlushOk t := by
  cases hs with
  | batched r => exact fun _ _ => ⟨by simp [AuditState.batch], rfl⟩
  | beginWrite line => nofun
  | nothing hw hl =>
    intro _ hf
    exact absurd hl (h hw hf).1
  | written => nofun
  | writeFails w tr hw hs hm =>
    intro _ hf
    by_cases hr : w.requeued = []
    · -- the trail was open, and nothing goes back
      simp [AuditState.writeFailed, hr, hm hr] at hf
    · have hl : (s.log.writeFailed w tr).lines = AuditState.capped (w.requeued ++ s.log.lines) :=
        if_neg hr
      refine ⟨?_, by simp [hr]⟩
      rw [hl]
      exact capped_ne_nil (List.append_ne_nil_of_left_ne_nil hr _)
  | finished =>
    intro _ hf
    cases hf

/-- Between writes, batched records are refused only while records wait and a flush is scheduled, as long as no write
that finds the trail closed stores the whole queue and then fails. -/
theorem audit_trail_reopens {files : String → AuditFiles} {s : AuditFlush}
    (hrun : Relation.ReflTransGen (FlushStep FailsOpen) ⟨.start files, false⟩ s) (hwriting : s.log.writing = none)
    (hfailed : s.log.failed) : s.log.lines ≠ [] ∧ s.flushScheduled := by
  have hok : FlushOk s := by
    clear hwriting hfailed
    induction hrun with
    | refl => nofun
    | tail _ hstep ih => exact ih.step hstep
  exact hok hwriting hfailed

/-- A flush fails, and the next one is scheduled. -/
theorem audit_trail_reopens_retry : ∃ s : AuditFlush, s.log.failed ∧ s.log.lines ≠ [] ∧ s.flushScheduled := by
  have run : Relation.ReflTransGen (FlushStep FailsOpen) ⟨emptyLog, false⟩ _ := .refl
  have run := run.tail (.batched auditRecord (.batched auditRecord rfl fresh_auditRecord))
  have run := run.tail (.beginWrite none (.beginWrite none rfl nofun (.inl (by decide))))
  have run := run.tail (.writeFails _ _ rfl (.writeFails (writeFault (some 0)) _ auditRecord _ _ rfl rfl rfl) nofun)
  exact ⟨_, rfl, audit_trail_reopens run rfl rfl⟩

/-- A flush fails. Then an `append` writes the record that waits, and fails at its own. -/
theorem audit_trail_stays_closed :
    ∃ s : AuditFlush, Relation.ReflTransGen (FlushStep fun _ _ => True) ⟨emptyLog, false⟩ s ∧ s.log.writing = none ∧
      s.log.failed ∧ s.log.lines = [] ∧ s.flushScheduled = false := by
  have run : Relation.ReflTransGen (FlushStep fun _ _ => True) ⟨emptyLog, false⟩ _ := .refl
  have run := run.tail (.batched auditRecord (.batched auditRecord rfl fresh_auditRecord))
  have run := run.tail (.beginWrite none (.beginWrite none rfl nofun (.inl (by decide))))
  have run := run.tail (.writeFails _ _ rfl (.writeFails (writeFault (some 0)) _ auditRecord _ _ rfl rfl rfl) trivial)
  have run := run.tail (.beginWrite (some { auditRecord with text := [91, 93], plain := by decide })
    (.beginWrite _ rfl (by rintro _ ⟨⟩; exact ⟨by decide, by decide⟩) (.inr rfl)))
  have run := run.tail (.written _ _ (.written (writeFault none) _ auditRecord _ rfl rfl rfl))
  have run := run.tail (.writeFails _ _ rfl (.writeFails (writeFault (some 0)) _ _ _ _ rfl rfl rfl) trivial)
  exact ⟨_, run, rfl, rfl, rfl, rfl⟩

end Todex
