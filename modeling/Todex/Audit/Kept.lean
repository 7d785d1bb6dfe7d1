import Todex.Audit.Log

/-!
# Accepted records are kept

As long as no write leaves part of a line behind, every record that was accepted waits or is a line of a
file, and the records are first written in the order in which they were accepted.
-/

namespace Todex

open Bytes

/-! ### What a call of `append_line` does to the files -/

variable {record : AuditRecord}

namespace AuditTrail

/-- The bytes are added to the live file of a directory, which may have been rotated before. -/
structure Adds (directory : String) (bytes : Bytes) (before after : AuditTrail) : Prop where
  frame : ∀ other ≠ directory, after.files other = before.files other
  files : after.files directory = (before.files directory).push bytes ∨
    after.files directory = (before.files directory).rotate.push bytes

variable {trail : AuditTrail} {directory : String} {F : AuditFaults}

lemma ensures_closeSynced (fails : Bool) : (closeSynced fails).Ensures trail (fun _ after => after.files = trail.files)
      fun after => after.files = trail.files := by
  apply Program.ensures_of_snd
  all_goals
    intros
    rw [closeSynced]
    split <;> rfl

lemma ensures_openAuditFile (retryAt : Option ℕ) (fails : Bool) :
    (openAuditFile directory retryAt fails).Ensures trail (fun _ after => after.files = trail.files)
      fun after => after.files = trail.files := by
  apply Program.ensures_of_snd
  all_goals
    intros
    rw [openAuditFile]
    split <;> rfl

lemma ensures_ensureOpen : (ensureOpen F directory).Ensures trail (fun _ after => after.files = trail.files)
      fun after => after.files = trail.files := by
  rw [Program.Ensures, ensureOpen]
  split_ifs
  · refine (ensures_closeSynced F.closes).bind fun _ mid hm => ?_
    rw [← hm]
    exact ensures_openAuditFile none F.opens
  · rfl

/-- The files stay, or those of the directory are rotated. -/
def RotatesAt (directory : String) (before after : AuditTrail) : Prop :=
  after.files = before.files ∨
    after.files = Function.update before.files directory (before.files directory).rotate

lemma ensures_rotateIfDue (line : Bytes) :
    (rotateIfDue F directory line).Ensures trail (fun _ after => RotatesAt directory trail after)
      fun after => RotatesAt directory trail after := by
  rw [Program.Ensures, rotateIfDue]
  by_cases hd : trail.rotationDue F.now line
  · rw [if_pos hd]
    refine ((ensures_closeSynced F.rotationCloses).mono (fun _ _ => id) fun _ => .inl).bind
      fun _ mid hm => ?_
    refine Program.ensures_modify_bind ((ensures_openAuditFile _ _).mono ?_ ?_)
    all_goals
      intros
      rename_i ha
      rw [RotatesAt, ha]
      split_ifs
      · exact .inl hm
      · exact .inr (by rw [hm])
  · rw [if_neg hd]
    exact .inl rfl

lemma RotatesAt.adds (h : RotatesAt directory before mid)
    (ha : after.files = Function.update mid.files directory ((mid.files directory).push bytes)) :
    Adds directory bytes before after := by
  constructor
  · intro other hne
    rw [ha, Function.update_of_ne hne]
    rcases h with h | h
    · rw [h]
    · rw [h, Function.update_of_ne hne]
  · rw [ha, Function.update_self]
    rcases h with h | h
    · exact .inl (by rw [h])
    · exact .inr (by rw [h, Function.update_self])

lemma RotatesAt.adds_nil (h : RotatesAt directory before after) : Adds directory [] before after := by
  refine h.adds ?_
  rw [AuditFiles.push, List.append_nil, Function.update_eq_self]

lemma ensures_appendLine :
    (appendLine F record).Ensures trail (fun _ after => Adds record.directory record.line trail after)
      fun after => ∃ n, Adds record.directory (record.line.take n) trail after := by
  have hn : ∀ after, RotatesAt record.directory trail after →
      ∃ n, Adds record.directory (record.line.take n) trail after :=
    fun after h => ⟨0, by simpa using h.adds_nil⟩
  refine (ensures_ensureOpen.mono (fun _ _ => id) fun _ h => hn _ (.inl h)).bind fun _ opened ho => ?_
  have hr : ∀ after, RotatesAt record.directory opened after → RotatesAt record.directory trail after := by
    intro after h
    rwa [RotatesAt, ← ho]
  refine ((ensures_rotateIfDue record.line).mono (fun _ _ => hr _) fun _ h => hn _ (hr _ h)).bind
    fun _ mid hm => ?_
  rw [Program.Ensures, writeAll]
  cases F.stops with
  | none => exact hm.adds rfl
  | some n => exact ⟨n, hm.adds rfl⟩

end AuditTrail

/-! ### The lines of the files -/

@[simp] lemma AuditFiles.allLines_rotate (files : AuditFiles) : files.rotate.allLines = files.allLines := by
  simp only [allLines, rotate, List.cons_append, ← List.append_assoc, List.take_append_drop,
    List.reverse_cons (a := ([] : Bytes)), List.flatMap_append, List.flatMap_singleton]
  exact List.append_nil _

lemma AuditFiles.allLines_push {files : AuditFiles} (h : Terminated files.live) (bytes : Bytes) :
    (files.push bytes).allLines = files.allLines ++ terminatedLines bytes := by
  simp only [allLines, push, List.cons_append, List.reverse_cons, List.flatMap_append, List.flatMap_singleton,
    terminatedLines_append h, List.append_assoc]

lemma AuditFiles.lines_eq {files : AuditFiles} (h : files.dropped = []) : files.lines = files.allLines := by
  rw [lines, allLines, h, List.append_nil]

lemma AuditRecord.terminatedLines_line (record : AuditRecord) : terminatedLines record.line = [record.text] := by
  have h : terminatedLines ([record.text].flatMap (· ++ [newline])) = [record.text] :=
    terminatedLines_flatMap (by simpa using record.plain)
  rwa [List.flatMap_singleton] at h

/-- A first part of a line that ends with its newline is nothing or the whole line. -/
lemma AuditRecord.take_line
    (h : Terminated (live ++ record.line.take n)) : record.line.take n = [] ∨ record.line.take n = record.line := by
  by_cases hn : n ≤ record.text.length
  · left
    by_contra hne
    have ht : record.line.take n = record.text.take n := List.take_append_of_le_length hn
    rcases h with h | h
    · exact hne (List.append_eq_nil_iff.1 h).2
    · rw [List.getLast?_append_of_ne_nil _ hne, ht] at h
      exact record.plain (List.mem_of_mem_take (List.mem_of_getLast? h))
  · right
    apply List.take_of_length_le
    simp only [AuditRecord.line, List.length_append, List.length_singleton]
    omega

section Adds

variable {record : AuditRecord} {before after : AuditTrail} {bytes : Bytes}

lemma AuditTrail.Adds.allLines (h : Adds record.directory bytes before after)
    (hw : Terminated (before.files record.directory).live) :
    (fun d => (after.files d).allLines) = Function.update (fun d => (before.files d).allLines) record.directory
      ((before.files record.directory).allLines ++ terminatedLines bytes) := by
  funext d
  by_cases hd : d = record.directory
  · subst hd
    rw [Function.update_self]
    rcases h.files with h | h
    · rw [h, AuditFiles.allLines_push hw]
    · rw [h, AuditFiles.allLines_push terminated_nil, AuditFiles.allLines_rotate]
  · rw [Function.update_of_ne hd, h.frame d hd]

/-- A write that leaves no part of a line has written nothing or the line. -/
lemma AuditTrail.Adds.whole (h : Adds record.directory (record.line.take n) before after)
    (hw : Terminated (after.files record.directory).live) :
    record.line.take n = [] ∨ record.line.take n = record.line := by
  rcases h.files with h | h
  · rw [h] at hw
    exact AuditRecord.take_line hw
  · rw [h] at hw
    exact AuditRecord.take_line hw

end Adds

/-! ### Runs -/

/-- What the run asks of its states. -/
structure AuditMeets (s : AuditState) : Prop where
  /-- The queue stays below its limit. -/
  bounded : s.pending.length < maxPendingBatchLines
  /-- No write has left part of a line behind. -/
  whole : ∀ directory, Terminated (s.trail.files directory).live

/-- The accepted records are kept, in order. -/
structure AuditOk (s : AuditState) : Prop where
  order : Outbox.InOrder AuditRecord.directory AuditRecord.text s.accepted s.pending
    fun directory => (s.trail.files directory).allLines
  taken : ∀ write ∈ s.writing, (write.taken ++ s.lines).Sublist s.accepted

variable {trail : AuditTrail}

namespace AuditOk

variable {s : AuditState} {write : AuditWrite}

lemma pending_of_writing (hw : s.writing = some write) : s.pending = write.rest ++ s.lines := by
  rw [AuditState.pending, hw]
  rfl

lemma pending_of_none (hw : s.writing = none) : s.pending = s.lines := by
  rw [AuditState.pending, hw]
  rfl

lemma batched (h : AuditOk s) (hf : s.Fresh record) :
    AuditOk { s with lines := s.lines ++ [record], accepted := s.accepted ++ [record] } where
  order := by
    have ho := h.order.accept hf.2 hf.1
    rwa [AuditState.pending, List.append_assoc] at ho
  taken := by
    intro write hw
    rw [← List.append_assoc]
    exact (h.taken write hw).append (List.Sublist.refl _)

lemma beginWrite (h : AuditOk s) (hw : s.writing = none)
    (hf : ∀ record ∈ line, s.Fresh record) : AuditOk (s.beginWrite line) := by
  have ho := h.order
  rw [pending_of_none hw] at ho
  constructor
  · have hp : (s.beginWrite line).pending = s.lines ++ line.toList := by
      simp [AuditState.pending, AuditState.beginWrite, AuditWrite.rest, AuditWrite.taken]
    rw [hp]
    cases line with
    | none => simpa [AuditState.beginWrite] using ho
    | some record =>
      have hr := hf record rfl
      exact ho.accept hr.2 hr.1
  · rintro _ ⟨⟩
    simpa [AuditState.beginWrite, AuditWrite.taken] using ho.waits.append (List.Sublist.refl line.toList)

lemma rest_eq_cons (hn : write.rest.head? = some record) :
    write.rest = record :: write.taken.drop (write.written + 1) := by
  obtain ⟨rest, hr⟩ := List.head?_eq_some_iff.1 hn
  rw [hr, ← List.tail_drop]
  rw [AuditWrite.rest] at hr
  rw [hr, List.tail_cons]

lemma written (h : AuditOk s) (hm : AuditMeets s) (hw : s.writing = some write) (hn : write.rest.head? = some record)
    (ha : AuditTrail.Adds record.directory record.line s.trail trail) : AuditOk (s.written write trail) := by
  have ho := h.order
  rw [pending_of_writing hw, rest_eq_cons hn, List.cons_append] at ho
  constructor
  · have hl := ha.allLines (hm.whole _)
    rw [record.terminatedLines_line] at hl
    have hwr := ho.write (.inr rfl)
    rw [← hl] at hwr
    exact hwr
  · rintro _ ⟨⟩
    exact h.taken write hw

lemma stored_le : write.stored ≤ write.written := by
  rw [AuditWrite.stored]
  split_ifs
  · exact Nat.zero_le _
  · exact min_le_left _ _

lemma writeFailed (h : AuditOk s) (hw : s.writing = some write) (hm : AuditMeets (s.writeFailed write trail))
    (ho : Outbox.InOrder AuditRecord.directory AuditRecord.text s.accepted s.pending
      fun directory => (trail.files directory).allLines) : AuditOk (s.writeFailed write trail) := by
  -- The queue is not cut, since it stays below its limit.
  have hl : (s.writeFailed write trail).lines = write.requeued ++ s.lines := by
    have hb := hm.bounded
    rw [pending_of_none rfl] at hb
    simp only [AuditState.writeFailed] at hb ⊢
    split_ifs at hb ⊢ with hni
    · rw [hni, List.nil_append]
    · rw [AuditState.capped, List.length_drop] at hb
      have hz : (write.requeued ++ s.lines).length - maxPendingBatchLines = 0 := by omega
      rw [AuditState.capped, hz, List.drop_zero]
  have hr : write.requeued.Sublist write.lines := List.drop_sublist _ _
  have hre : ∀ a ∈ write.rest, a ∈ write.requeued ∨ a ∈ write.line := by
    intro a ha
    rw [AuditWrite.rest, AuditWrite.taken, List.drop_append, List.mem_append] at ha
    refine ha.imp (fun ha => ?_) fun ha => Option.mem_toList.1 (List.mem_of_mem_drop ha)
    exact (List.drop_sublist_drop_left write.lines stored_le).subset ha
  have hp := pending_of_writing hw
  have ht := h.taken write hw
  refine ⟨?_, nofun⟩
  rw [pending_of_none rfl, hl]
  cases hli : write.line with
  | none =>
    have hac : (s.writeFailed write trail).accepted = s.accepted := by
      simp [AuditState.writeFailed, hli]
    rw [AuditWrite.taken, hli, Option.toList_none, List.append_nil] at ht
    rw [hac]
    refine ho.requeue ((hr.append_right _).trans ht) fun a ha => ?_
    rw [hp, List.mem_append] at ha
    rw [List.mem_append]
    refine ha.imp_left fun ha => (hre a ha).resolve_right ?_
    simp [hli]
  | some record =>
    -- The record of the call itself is given up.
    have hac : (s.writeFailed write trail).accepted = s.accepted.erase record := by
      simp [AuditState.writeFailed, hli]
    rw [AuditWrite.taken, hli, Option.toList_some] at ht
    have hno : record ∉ write.lines := by
      have hn := ht.nodup ho.nodup
      rw [List.append_assoc, List.singleton_append, List.nodup_middle, List.nodup_cons] at hn
      exact fun hme => hn.1 (List.mem_append_left _ hme)
    have he := ht.erase record
    rw [List.append_assoc, List.erase_append_right _ hno, List.singleton_append, List.erase_cons_head] at he
    rw [hac]
    refine (ho.erase record).requeue ((hr.append_right _).trans he) fun a ha => ?_
    have hne : a ≠ record := by
      rintro rfl
      exact (ho.waits.nodup ho.nodup).not_mem_erase ha
    have hme := List.mem_of_mem_erase ha
    rw [hp, List.mem_append] at hme
    rw [List.mem_append]
    refine hme.imp_left fun ha => (hre a ha).resolve_right fun hme => hne ?_
    rw [hli] at hme
    exact (Option.mem_some.1 hme).symm

lemma writeFails (h : AuditOk s) (hb : AuditMeets s)
    (hw : s.writing = some write) (hn : write.rest.head? = some record) (hm : AuditMeets (s.writeFailed write trail))
    (ha : AuditTrail.Adds record.directory (record.line.take n) s.trail trail) :
    AuditOk (s.writeFailed write trail) := by
  apply h.writeFailed hw hm
  have hl := ha.allLines (hb.whole _)
  rcases ha.whole (hm.whole _) with hni | hli
  · rw [hl, hni]
    simpa [terminatedLines] using h.order
  · have ho := h.order
    have hp : s.pending = record :: (write.taken.drop (write.written + 1) ++ s.lines) := by
      rw [pending_of_writing hw, rest_eq_cons hn, List.cons_append]
    rw [hp] at ho ⊢
    rw [hl, hli, record.terminatedLines_line]
    exact ho.write (.inl rfl)

lemma finished (h : AuditOk s) (hw : s.writing = some write) (hr : write.rest = []) : AuditOk s.finished where
  order := by
    have ho := h.order
    rw [pending_of_writing hw, hr, List.nil_append] at ho
    exact ho
  taken := nofun

/-- One step keeps the records. -/
lemma step (h : AuditOk s) (hb : AuditMeets s) (haf : AuditMeets t) (step : AuditStep s t) : AuditOk t := by
  cases step with
  | batched record hfa hf => exact h.batched hf
  | beginWrite line hw hf hs => exact h.beginWrite hw hf
  | written F write record trail hw hn ha =>
    exact h.written hb hw hn (AuditTrail.ensures_appendLine.of_eq_ok ha)
  | writeFails F write record error trail hw hn ha =>
    obtain ⟨n, had⟩ := AuditTrail.ensures_appendLine.of_eq_error ha
    exact h.writeFails hb hw hn haf had
  | synced write hw hr => exact h.finished hw hr
  | syncFails write hw hr hh => exact h.writeFailed hw haf h.order

end AuditOk

/-- A log that has just been made: the files may hold lines of earlier runs. -/
def AuditState.start (files : String → AuditFiles) : AuditState where
  trail := { files, handle := none }
  lines := []
  failed := false
  writing := none
  accepted := []

lemma auditOk_start (files : String → AuditFiles) : AuditOk (.start files) where
  order := ⟨.nil, nofun, .slnil, nofun, .nil⟩
  taken := nofun

lemma AuditRun.ok (run : AuditRun AuditMeets (.start files) s) : AuditOk s ∧ AuditMeets s := by
  induction run with
  | refl hm => exact ⟨auditOk_start files, hm⟩
  | step run step hm ih => exact ⟨ih.1.step ih.2 hm step, hm⟩

/-- Every accepted record waits or is a line of its own, and the accepted records are first written in the
order of their calls, as long as no write leaves part of a line and no rotation has replaced a file. -/
theorem audit_records_kept {files : String → AuditFiles} {s : AuditState} (run : AuditRun AuditMeets (.start files) s)
    (hdropped : ∀ directory, (s.trail.files directory).dropped = []) :
    (∀ record ∈ s.accepted,
      record ∈ s.pending ∨ record.text ∈ (s.trail.files record.directory).lines) ∧
    s.accepted.Pairwise fun a b => a.directory = b.directory →
      Outbox.Precedes (s.trail.files b.directory).lines a.text b.text := by
  have ho := run.ok.1.order
  simp only [← AuditFiles.lines_eq (hdropped _)] at ho
  exact ⟨fun record hr => (ho.kept record hr).symm, ho.ordered⟩

/-! ### A write that stops inside a line -/

/-- A record. -/
def auditRecord : AuditRecord where
  directory := "audit"
  text := [123, 125]
  plain := by decide

/-- A call in which at most the write goes wrong. -/
def writeFault (stops : Option ℕ) : AuditFaults where
  now := 0
  closes := false
  opens := false
  rotationCloses := false
  rotates := false
  reopens := false
  stops

/-- A log without files. -/
def emptyLog : AuditState := .start fun _ => { live := [], rotated := [], dropped := [] }

lemma fresh_auditRecord : emptyLog.Fresh auditRecord := by
  constructor
  · decide
  · nofun

/-- The trail after the record has been written. -/
def writtenTrail : AuditTrail := (AuditTrail.appendLine (writeFault none) auditRecord emptyLog.trail).2

lemma files_writtenTrail (directory : String) :
    Terminated (writtenTrail.files directory).live ∧ (writtenTrail.files directory).dropped = [] := by
  have ha : AuditTrail.appendLine (writeFault none) auditRecord emptyLog.trail =
      (.ok (), writtenTrail) := rfl
  have had := AuditTrail.ensures_appendLine.of_eq_ok ha
  by_cases hd : directory = auditRecord.directory
  · rw [hd]
    exact ⟨.inr (by decide), by decide⟩
  · rw [had.frame directory hd]
    exact ⟨.inl rfl, rfl⟩

/-- The file cannot be opened at first, and the record is written with the next attempt. -/
theorem audit_records_kept_retried :
    ∃ s, AuditRun AuditMeets emptyLog s ∧ auditRecord ∈ s.accepted ∧ s.pending = [] ∧
      auditRecord.text ∈ (s.trail.files auditRecord.directory).lines := by
  have h : AuditRun AuditMeets emptyLog _ := .refl _ ⟨by decide, fun _ => .inl rfl⟩
  have h := h.step (.batched auditRecord rfl fresh_auditRecord) ⟨by decide, fun _ => .inl rfl⟩
  have h := h.step (.beginWrite none rfl nofun (.inl (by decide))) ⟨by decide, fun _ => .inl rfl⟩
  have h := h.step (.writeFails { writeFault none with opens := true } _ auditRecord _ _ rfl rfl rfl)
    ⟨by decide, fun _ => .inl rfl⟩
  have h := h.step (.beginWrite none rfl nofun (.inl (by decide))) ⟨by decide, fun _ => .inl rfl⟩
  have h := h.step (.written (writeFault none) _ auditRecord writtenTrail rfl rfl rfl)
    ⟨by decide, fun directory => (files_writtenTrail directory).1⟩
  have h := h.step (.synced _ rfl rfl) ⟨by decide, fun directory => (files_writtenTrail directory).1⟩
  have hkept := audit_records_kept h fun directory => (files_writtenTrail directory).2
  refine ⟨_, h, by decide, rfl, (hkept.1 auditRecord (by decide)).resolve_left ?_⟩
  exact List.not_mem_nil

/-- The first write stops after a byte, and the record is written again behind it: it is accepted, does not
wait, and is not a line of its own. -/
theorem torn_write_damages_record :
    ∃ s, AuditRun (fun s => s.pending.length < maxPendingBatchLines) emptyLog s ∧
      auditRecord ∈ s.accepted ∧ auditRecord ∉ s.pending ∧
        auditRecord.text ∉ (s.trail.files auditRecord.directory).lines := by
  have h : AuditRun (fun s => s.pending.length < maxPendingBatchLines) emptyLog _ := .refl _ (by decide)
  have h := h.step (.batched auditRecord rfl fresh_auditRecord) (by decide)
  have h := h.step (.beginWrite none rfl nofun (.inl (by decide))) (by decide)
  have h := h.step (.writeFails (writeFault (some 1)) _ auditRecord _ _ rfl rfl rfl) (by decide)
  have h := h.step (.beginWrite none rfl nofun (.inl (by decide))) (by decide)
  have h := h.step (.written (writeFault none) _ auditRecord _ rfl rfl rfl) (by decide)
  have h := h.step (.synced _ rfl rfl) (by decide)
  refine ⟨_, h, ?_, ?_, ?_⟩
  · decide
  · decide
  · decide

end Todex
